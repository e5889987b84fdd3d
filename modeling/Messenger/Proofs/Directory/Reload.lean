import Messenger.Gateway.Directories
import Messenger.Proofs.Codec.Records
import Messenger.Proofs.Directory.Lookup
import Messenger.Proofs.Gateway.Telling
import Messenger.Proofs.Rpc.Acceptance
import Messenger.Proofs.Text.Utf8

set_option autoImplicit false

/-! # Directories that are written and loaded again

What is written of a directory lists all its items, each at the position of its key, and from a
daemon that gives this list the same directory is loaded (`Directory.Recovers`). That no item gets
lost takes two things. An item is decoded from what is written of it, whatever its texts and numbers
are. And of the items of a directory none has the key of another one, so that building the directory
again drops nothing (`Directory.Keyed.ofList_items`). -/

namespace Messenger

open Json Decoder

/-! ## A daemon that gives a list -/

/-- A daemon that gives the same result to every call. -/
def Daemon.giving (v : Value) : Daemon Unit where
  call _ request s := (some ⟨200, Text.toUtf8 (Value.obj (Rpc.giving request.id v)).compact⟩, s)
  listen _ s := (.refused, s)

theorem Json.Value.parseBytes_compact {v : Value} (h : v.Legible maxDepth) :
    parseBytes (Text.toUtf8 v.compact) = .ok v.sorted := by
  rw [parseBytes, Text.pieces_toUtf8]
  exact parse_compact h

/-- A reply that gives a result answers the request whose identifier it repeats. -/
theorem Rpc.answers_giving {v : Value} (h : v.Legible 126) (id : String) :
    Answers id ⟨200, Text.toUtf8 (Value.obj (giving id v)).compact⟩ (giving id v.sorted) where
  success := rfl
  parsed := by
    have hlegible : (Value.obj (giving id v)).Legible maxDepth := by
      simp [giving, maxDepth, Value.Legible, Value.LegibleMembers, h]
    rw [Value.parseBytes_compact hlegible, sorted_giving]
  decoded := by
    have hnodup : ((giving id v.sorted).map Prod.fst).Nodup := by simp [giving]
    have hresult : ∃ o, any.optional ((giving id v.sorted).get? "result") = .ok o := by
      cases hnull : v.sorted.isNull with
      | true =>
          exact ⟨none, (optional_eq_none_iff ..).2 fun w hw => Option.some.inj hw ▸ hnull⟩
      | false => exact ⟨some v.sorted, (optional_eq_some_iff ..).2 ⟨_, rfl, hnull, rfl⟩⟩
    obtain ⟨o, ho⟩ := hresult
    exact ⟨⟨some protocolVersion, some (.str id), o, none⟩,
      (Reply.ofJson_eq_ok_iff hnodup).2 ⟨rfl, rfl, ho, rfl⟩⟩
  version := rfl
  repeated := ⟨_, rfl, rfl, rfl⟩

/-- A call to such a daemon yields the result, its members sorted. -/
theorem Daemon.call_giving {v : Value} (h : v.Legible 126) (method : String) (params : Value)
    (chosen : Option String) (l : Link Unit) :
    (l.call (giving v) method params chosen).1 = .ok v.sorted :=
  (Rpc.Response.resultFor_eq_ok_iff ..).2 ⟨_, Rpc.answers_giving h _, nofun, rfl⟩

/-! ## Building a directory again -/

variable {α : Type}

namespace Directory

variable {key : α → Option String}

/-- The items of the directory of a list make that directory. -/
theorem ofList_items_ofList (key : α → Option String) (items : List α) :
    ofList key (ofList key items).items = ofList key items := by
  induction items using List.reverseRecOn with
  | nil => rfl
  | append_singleton items a ih =>
      rw [ofList_concat]
      cases hk : key a with
      | none => exact ih
      | some k =>
          show ofList key ((ofList key items).add k a).items = (ofList key items).add k a
          rw [items_add]
          split
          · next hold => rw [List.append_nil, ih, add, if_pos hold]
          · rw [ofList_concat, hk, ih]

/-- What stands at a position is the item under the key that has this position. -/
theorem Keyed.getElem?_items_eq_some_iff {d : Directory α} (h : d.Keyed key) (i : Nat) (a : α) :
    d.items[i]? = some a ↔ ∃ k, d.position? k = some i ∧ d.get? k = some a := by
  constructor
  · intro ha
    obtain ⟨k, hk⟩ := Option.isSome_iff_exists.1 (h.isSome_of_mem (List.mem_of_getElem? ha))
    have hposition : d.position? k = some i := by
      rw [h.position?_eq_some_iff, ha, Option.bind_some, hk]
    refine ⟨k, hposition, ?_⟩
    rw [get?, hposition, Option.bind_some, ha]
  · rintro ⟨k, hposition, hget⟩
    rwa [get?, hposition, Option.bind_some] at hget

/-- The directory that a result lists. -/
def ofResult (method : String) (d : Decoder α) (key : α → Option String) (v : Value) :
    Except GatewayError (Directory α) :=
  (itemsOf method d.ofValue v).map (ofList key)

/-- A directory comes back from what is written of it. `write` writes an item, `read` makes a
directory of a result, and `load` loads one from a daemon. -/
structure Recovers (d : Directory α) (write : α → Value)
    (read : Value → Except GatewayError (Directory α))
    (load : Daemon Unit → Cache.Loader GatewayError (Link Unit) (Directory α)) : Prop where
  /-- The items are listed at the positions of their keys, and nothing else is. -/
  listed : ∃ vs, d.toJson write = .arr vs ∧ ∀ (i : Nat) v, vs[i]? = some v
    ↔ ∃ k a, d.position? k = some i ∧ d.get? k = some a ∧ v = write a
  /-- What is written is read as the directory. -/
  value : read (d.toJson write) = .ok d
  /-- The order of members makes no difference. -/
  sorted : read (d.toJson write).sorted = .ok d
  /-- From a daemon that gives what is written the directory is loaded, for whatever account. -/
  loaded : ∀ account link, (load (.giving (d.toJson write)) account link).1 = .ok d

section Recovers

variable {write : α → Value} {decoder : Decoder α}

theorem ofResult_of_items {d : Directory α} (hbuilt : ofList key d.items = d) (method : String)
    {f : α → Value} (hf : ∀ a, decoder.ofValue (f a) = .ok a) :
    ofResult method decoder key (.arr (d.items.map f)) = .ok d := by
  have hitems : itemsOf method decoder.ofValue (.arr (d.items.map f)) = .ok d.items :=
    mapError_eq_ok_iff.2 (list_ofValue_map hf d.items)
  exact map_eq_ok_iff.2 ⟨d.items, hitems, hbuilt⟩

theorem sorted_toJson (d : Directory α) (write : α → Value) :
    (d.toJson write).sorted = .arr (d.items.map fun a => (write a).sorted) := by
  rw [toJson, Value.sorted]
  induction d.items with
  | nil => rfl
  | cons a as ih =>
      rw [List.map_cons, Value.sortedItems, List.map_cons]
      exact congrArg Value.arr (List.cons_eq_cons.2 ⟨rfl, Value.arr.inj ih⟩)

/-- **The directory of a list comes back** if its items are decoded from what is written of them,
which must not be nested too deeply to be read from text. -/
theorem recovers_ofList (items : List α) (hitems : RoundTrips write decoder)
    (hlegible : ∀ a depth, (write a).Legible (depth + 3)) (method : String)
    {load : Daemon Unit → Cache.Loader GatewayError (Link Unit) (Directory α)}
    (hload : ∀ daemon account link, (load daemon account link).1
      = (link.list daemon method decoder.ofValue account).1.map (ofList key)) :
    (ofList key items).Recovers write (ofResult method decoder key) load := by
  have hkeyed : (ofList key items).Keyed key := keyed_ofList key items
  have hbuilt := ofList_items_ofList key items
  generalize ofList key items = d at hkeyed hbuilt
  have hsorted : ofResult method decoder key (d.toJson write).sorted = .ok d := by
    rw [sorted_toJson]
    exact ofResult_of_items hbuilt method hitems.sorted
  refine ⟨⟨_, rfl, fun i v => ?_⟩, ofResult_of_items hbuilt method hitems.value, hsorted,
    fun account link => ?_⟩
  · simp only [List.getElem?_map, Option.map_eq_some_iff, hkeyed.getElem?_items_eq_some_iff]
    constructor
    · rintro ⟨a, ⟨k, hposition, hget⟩, rfl⟩
      exact ⟨k, a, hposition, hget, rfl⟩
    · rintro ⟨k, a, hposition, hget, rfl⟩
      exact ⟨a, ⟨k, hposition, hget⟩, rfl⟩
  · have hwritten : (d.toJson write).Legible 126 :=
      Value.legibleItems_iff.2 fun v hv => by
        obtain ⟨a, -, rfl⟩ := List.mem_map.1 hv
        exact hlegible a 122
    rw [hload, Link.list]
    simp only [Daemon.call_giving hwritten]
    exact hsorted

end Recovers

end Directory

/-! ## Groups and identities -/

/-- The identities that a result lists. -/
def IdentityDirectory.ofResult (v : Value) : Except GatewayError IdentityDirectory :=
  (itemsOf listIdentities Identity.ofJson v).map IdentityDirectory.ofList

namespace Directory

/-- **Directories can be written and loaded again.** Take the groups or the identities that any
daemon lists for any account. What is written of this directory lists every item at the position of
its key, and from a daemon that gives this list the same directory is loaded; so the same is found
under every key and for every name. -/
theorem recovers_of_loaded {δ : Type} (daemon : Daemon δ) (account : String) (link : Link δ) :
    (∀ groups, (GroupDirectory.load daemon account link).1 = .ok groups →
        groups.Recovers Group.toJson GroupDirectory.ofResult GroupDirectory.load)
      ∧ ∀ identities, (IdentityDirectory.load daemon account link).1 = .ok identities →
        identities.Recovers Identity.toJson IdentityDirectory.ofResult IdentityDirectory.load := by
  refine ⟨fun groups hgroups => ?_, fun identities hidentities => ?_⟩
  · obtain ⟨listed, -, rfl⟩ := map_eq_ok_iff.1 hgroups
    exact recovers_ofList listed Group.roundTrips Group.legible_toJson listGroups fun _ _ _ => rfl
  · obtain ⟨listed, -, rfl⟩ := map_eq_ok_iff.1 hidentities
    exact recovers_ofList listed Identity.roundTrips
      (fun i depth => i.legible_toJson (depth + 2)) listIdentities fun _ _ _ => rfl

/-- A list of groups, of which the second one has the identifier of the first. -/
def listedGroups : Value :=
  .arr [.obj [("id", .str "g"), ("members", .arr [.obj [("uuid", .str "u")]]),
    ("name", .str "Team")], .obj [("id", .str "g")]]

/-- A list of identities: one in the older spelling, one without number, one with the number of the
first. -/
def listedIdentities : Value :=
  .arr [.obj [("number", .str "+1"), ("saftyNumber", .str "12")], .obj [("uuid", .str "u")],
    .obj [("number", .str "+1")]]

/-- Of either list one item is in the directory, with defaults for what the list leaves out, and it
comes back. -/
theorem recovers_of_loaded_with_defaults :
    let link : Link Unit := { endpoint := .loopback, daemon := () }
    let groups := GroupDirectory.ofList
      [⟨"g", some "Team", none, -1, ⟨none, none, none⟩, [⟨none, some "u"⟩]⟩]
    let identities := IdentityDirectory.ofList
      [⟨some "+1", none, none, some "12", none, none, 0⟩]
    (GroupDirectory.load (.giving listedGroups) "me" link).1 = .ok groups
      ∧ groups.Recovers Group.toJson GroupDirectory.ofResult GroupDirectory.load
      ∧ (IdentityDirectory.load (.giving listedIdentities) "me" link).1 = .ok identities
      ∧ identities.Recovers Identity.toJson IdentityDirectory.ofResult IdentityDirectory.load := by
  intro link groups identities
  have hgroups : (GroupDirectory.load (.giving listedGroups) "me" link).1 = .ok groups := by
    have hlegible : listedGroups.Legible 126 := by
      simp [listedGroups, Value.Legible, Value.LegibleItems, Value.LegibleMembers]
    simp only [GroupDirectory.load, Link.list, Daemon.call_giving hlegible]
    rfl
  have hidentities :
      (IdentityDirectory.load (.giving listedIdentities) "me" link).1 = .ok identities := by
    have hlegible : listedIdentities.Legible 126 := by
      simp [listedIdentities, Value.Legible, Value.LegibleItems, Value.LegibleMembers]
    simp only [IdentityDirectory.load, Link.list, Daemon.call_giving hlegible]
    rfl
  exact ⟨hgroups, (recovers_of_loaded (.giving listedGroups) "me" link).1 groups hgroups,
    hidentities,
    (recovers_of_loaded (.giving listedIdentities) "me" link).2 identities hidentities⟩

end Directory
end Messenger
