import Messenger.Proofs.Json.Merge
import Messenger.Proofs.Json.Path

set_option autoImplicit false

/-! # What a merged document says along a path

A document that is laid over another one decides what stands at the end of a path if it has a value
there that is neither `null` nor an object. It leaves the decision to the document below if it is
*silent* along the path: a member on the way is missing or `null`. Nothing but these two documents
speaks, and laying the same document over the result once more changes nothing
(`Value.merged_along_paths`). -/

namespace Messenger.Json.Value

variable {below above : Value}

/-- Along a path through objects, a member is missing or `null`. -/
inductive Silent : List String → Value → Prop where
  | here {key : String} (keys : List String) {ms : Members} (h : Missing (ms.get? key)) :
      Silent (key :: keys) (.obj ms)
  | further {key : String} {keys : List String} {ms : Members} {v : Value}
      (hv : ms.get? key = some v) (h : Silent keys v) : Silent (key :: keys) (.obj ms)

theorem Silent.isNull {keys : List String} {v : Value} (h : Silent keys v) : v.isNull = false := by
  cases h <;> rfl

/-- No path to something other than `null` begins at `null`. -/
theorem isNull_of_at? {keys : List String} {v w : Value} (h : v.at? keys = some w)
    (hw : w.isNull = false) : v.isNull = false := by
  cases keys with
  | nil => exact Option.some.inj h ▸ hw
  | cons key keys =>
      obtain ⟨ms, -, rfl, -⟩ := exists_obj_of_at? h
      rfl

/-! ## One step along a path -/

/-- What two objects that are merged say along a path is decided by its first key. -/
theorem at?_merge_obj {lower upper : Members} (h : (obj upper).Ordered) (key : String)
    (keys : List String) :
    ((obj lower).merge (.obj upper)).at? (key :: keys)
      = (laidOver (lower.get? key) (upper.get? key)).bind (at? keys) := by
  rw [merge, at?_obj, get?_mergeMembers h.1.nodup]

/-- An object under whose key nothing is said leaves everything below as it is. -/
theorem at?_merge_of_missing {upper : Members} (h : (obj upper).Ordered) {key : String}
    (hkey : Missing (upper.get? key)) {keys : List String} {w : Value}
    (hw : below.at? (key :: keys) = some w) :
    (below.merge (.obj upper)).at? (key :: keys) = some w := by
  obtain ⟨lower, x, rfl, hx, hw⟩ := exists_obj_of_at? hw
  rw [at?_merge_obj h, laidOver_of_missing hkey, hx]
  exact hw

/-- What an object says under a key is laid over what is below it there. -/
theorem at?_merge_of_said {upper : Members} (h : (obj upper).Ordered) {key : String} {v : Value}
    (hv : upper.get? key = some v) (hnull : v.isNull = false) (below : Value)
    (keys : List String) :
    (below.merge (.obj upper)).at? (key :: keys)
      = ((below.get? key).elim v (·.merge v)).at? keys := by
  cases hbelow : below.obj? with
  | none =>
      rw [merge_onto_not_obj hbelow, at?_obj, hv, get?, hbelow]
      rfl
  | some lower =>
      obtain rfl := obj?_eq_some_iff.1 hbelow
      rw [at?_merge_obj h, hv, laidOver_some hnull]
      rfl

/-! ## Whole paths -/

/-- The upper document decides where it has a value that cannot be merged. -/
theorem at?_merge_of_decided (habove : above.Ordered) {path : List String} {v : Value}
    (hv : above.at? path = some v) (hnull : v.isNull = false) (hplain : v.obj? = none) :
    (below.merge above).at? path = some v := by
  induction path generalizing below above with
  | nil =>
      obtain rfl := Option.some.inj hv
      rw [merge_of_not_obj hplain]
      rfl
  | cons key keys ih =>
      obtain ⟨upper, x, rfl, hx, hv⟩ := exists_obj_of_at? hv
      rw [at?_merge_of_said habove hx (isNull_of_at? hv hnull)]
      cases below.get? key with
      | none => exact hv
      | some b => exact ih (habove.get? hx) hv

/-- Where the upper document is silent, the lower one decides. -/
theorem at?_merge_of_silent (habove : above.Ordered) {path : List String}
    (hsilent : Silent path above) {v : Value} (hv : below.at? path = some v) :
    (below.merge above).at? path = some v := by
  induction hsilent generalizing below with
  | here keys hmissing => exact at?_merge_of_missing habove hmissing hv
  | further hx hsilent ih =>
      obtain ⟨lower, b, rfl, hb, hv⟩ := exists_obj_of_at? hv
      rw [at?_merge_of_said habove hx hsilent.isNull, get?, obj?, Option.bind_some, hb]
      exact ih (habove.get? hx) hv

/-- Nobody else has anything to say. -/
theorem isSome_of_at?_merge (habove : above.Ordered) {path : List String}
    (h : ((below.merge above).at? path).isSome) :
    (below.at? path).isSome ∨ (above.at? path).isSome := by
  induction path generalizing below above with
  | nil => exact .inl rfl
  | cons key keys ih =>
      obtain ⟨v, hv⟩ := Option.isSome_iff_exists.1 h
      cases hupper : above.obj? with
      | none =>
          rw [merge_of_not_obj hupper] at h
          exact .inr h
      | some upper =>
          obtain rfl := obj?_eq_some_iff.1 hupper
          rcases missing_or_said (upper.get? key) with hmissing | ⟨x, hx, hnull⟩
          · cases hlower : below.obj? with
            | none =>
                rw [merge_onto_not_obj hlower] at h
                exact .inr h
            | some lower =>
                obtain rfl := obj?_eq_some_iff.1 hlower
                rw [at?_merge_obj habove, laidOver_of_missing hmissing] at h
                exact .inl h
          · rw [at?_merge_of_said habove hx hnull] at h
            rw [at?_obj, hx, Option.bind_some, at?_cons]
            cases hb : below.get? key with
            | none =>
                rw [hb] at h
                exact .inr h
            | some b =>
                rw [hb] at h
                exact ih (habove.get? hx) h

/-! ## Merging again -/

/-- What is said of a key after a merge was said of it by one of the two, or is merged of both. -/
theorem laidOver_cases {below above : Option Value} {w : Value}
    (h : laidOver below above = some w) :
    below = some w ∨ above = some w ∨ ∃ b v, below = some b ∧ above = some v ∧ w = b.merge v := by
  rcases missing_or_said above with hmissing | ⟨v, rfl, hnull⟩
  · rw [laidOver_of_missing hmissing] at h
    exact .inl h
  · rw [laidOver_some hnull] at h
    cases below with
    | none => exact .inr (.inl h)
    | some b => exact .inr (.inr ⟨b, v, rfl, rfl, (Option.some.inj h).symm⟩)

/-- Merging keeps documents ordered. -/
theorem ordered_merge (hbelow : below.Ordered) (habove : above.Ordered) :
    (below.merge above).Ordered := by
  induction above using objects_induction generalizing below with
  | plain above hplain => rwa [merge_of_not_obj hplain]
  | objects upper ih =>
      cases hlower : below.obj? with
      | none => rwa [merge_onto_not_obj hlower]
      | some lower =>
          obtain rfl := obj?_eq_some_iff.1 hlower
          have hascending := ascending_mergeMembers upper hbelow.1
          refine ⟨hascending, (orderedMembers_iff _).2 fun ⟨key, w⟩ hmem => ?_⟩
          have hw := (Members.get?_eq_some_iff_mem hascending.nodup key w).2 hmem
          rw [get?_mergeMembers habove.1.nodup] at hw
          rcases laidOver_cases hw with hb | hv | ⟨b, v, hb, hv, rfl⟩
          · exact hbelow.get? hb
          · exact habove.get? hv
          · exact ih key v hv (hbelow.get? hb) (habove.get? hv)

/-- A document that is laid over itself stays as it is. -/
theorem merge_self {v : Value} (h : v.Ordered) : v.merge v = v := by
  induction v using objects_induction with
  | plain v hplain => rw [merge_of_not_obj hplain]
  | objects ms ih =>
      refine congrArg obj ((ascending_mergeMembers ms h.1).ext h.1 fun key => ?_)
      rw [get?_mergeMembers h.1.nodup]
      rcases missing_or_said (ms.get? key) with hmissing | ⟨v, hv, hnull⟩
      · rw [laidOver_of_missing hmissing]
      · rw [hv, laidOver_some hnull, Option.elim_some, ih key v hv (h.get? hv)]

/-- Laying a document over once more changes nothing. -/
theorem merge_merge_self (hbelow : below.Ordered) (habove : above.Ordered) :
    (below.merge above).merge above = below.merge above := by
  induction above using objects_induction generalizing below with
  | plain above hplain => rw [merge_of_not_obj hplain, merge_of_not_obj hplain]
  | objects upper ih =>
      cases hlower : below.obj? with
      | none => rw [merge_onto_not_obj hlower, merge_self habove]
      | some lower =>
          obtain rfl := obj?_eq_some_iff.1 hlower
          have hascending := ascending_mergeMembers upper hbelow.1
          refine congrArg obj ((ascending_mergeMembers upper hascending).ext hascending fun key => ?_)
          rw [get?_mergeMembers habove.1.nodup, get?_mergeMembers habove.1.nodup]
          rcases missing_or_said (upper.get? key) with hmissing | ⟨v, hv, hnull⟩
          · rw [laidOver_of_missing hmissing]
          · rw [hv, laidOver_some hnull, laidOver_some hnull, Option.elim_some]
            cases hb : lower.get? key with
            | none => exact congrArg some (merge_self (habove.get? hv))
            | some b => exact congrArg some (ih key v hv (hbelow.get? hb) (habove.get? hv))

/-- **The law of merging.** Along every path, a merged document has the value of the upper document
where that has one that is neither `null` nor an object, and the value of the lower document where
the upper one is silent; it has nothing where neither of them has. It is a document again, and
laying the upper one over it once more leaves it as it is. -/
theorem merged_along_paths (hbelow : below.Ordered) (habove : above.Ordered) :
    let merged := below.merge above
    (∀ path v, above.at? path = some v → v.isNull = false → v.obj? = none →
        merged.at? path = some v)
    ∧ (∀ path v, below.at? path = some v → Silent path above → merged.at? path = some v)
    ∧ (∀ path, (merged.at? path).isSome → (below.at? path).isSome ∨ (above.at? path).isSome)
    ∧ merged.Ordered ∧ merged.merge above = merged :=
  ⟨fun _ _ => at?_merge_of_decided habove, fun _ _ hv hsilent =>
    at?_merge_of_silent habove hsilent hv, fun _ => isSome_of_at?_merge habove,
    ordered_merge hbelow habove, merge_merge_self hbelow habove⟩

/-- A document that says `null` of one member of an object, replaces another one, and brings a
`null` of its own along. -/
def upperExample : Value :=
  .obj [("a", .obj [("x", .null), ("y", .int 5)]), ("b", .obj [("z", .null)])]

/-- What is below it. -/
def lowerExample : Value := .obj [("a", .obj [("x", .int 1), ("y", .obj [])]), ("b", .int 3)]

/-- A `null` gives way to what is below it, an object gives way to a number, and a number to an
object. -/
theorem merged_along_paths_of_null :
    lowerExample.Ordered ∧ upperExample.Ordered ∧ Silent ["a", "x"] upperExample
      ∧ (lowerExample.merge upperExample).at? ["a", "x"] = some (.int 1)
      ∧ (lowerExample.merge upperExample).at? ["a", "y"] = some (.int 5)
      ∧ (lowerExample.merge upperExample).merge upperExample
        = lowerExample.merge upperExample := by
  have hab : "a" < "b" := by decide
  have hxy : "x" < "y" := by decide
  have hlower : lowerExample.Ordered := by
    simp only [lowerExample, Ordered, OrderedMembers, Members.Ascending, List.pairwise_pair,
      List.Pairwise.nil, hab, hxy, and_self]
  have hupper : upperExample.Ordered := by
    simp only [upperExample, Ordered, OrderedMembers, Members.Ascending, List.pairwise_pair,
      List.pairwise_singleton, hab, hxy, and_self]
  have hsilent : Silent ["a", "x"] upperExample :=
    .further rfl (.here [] fun v hv => by
      obtain rfl := Option.some.inj hv
      rfl)
  obtain ⟨hdecided, hleft, -, -, hagain⟩ := merged_along_paths hlower hupper
  exact ⟨hlower, hupper, hsilent, hleft _ _ rfl hsilent, hdecided _ _ rfl rfl rfl, hagain⟩

end Messenger.Json.Value
