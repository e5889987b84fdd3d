import Messenger.Json.Decode
import Messenger.Proofs.Json.Order

set_option autoImplicit false

/-! # Decoding by key

A structure is decoded member by member, in whatever order the members stand. When no key occurs
twice the order does not matter: each field of the structure holds what the object says under its
key (`Slot.under_get?`), and decoding goes through if what is said to each field does
(`Shape.Lawful.ofMembers_isOk`).

A *slot* is a field as it is meant: it is written under one key, it is set once the draft has a
value for it, and no other field touches that value. -/

namespace Messenger.Json

/-- A value is missing when there is none, or `null`. -/
def Missing (x : Option Value) : Prop := ∀ v, x = some v → v.isNull = true

theorem missing_or_said (x : Option Value) : Missing x ∨ ∃ v, x = some v ∧ v.isNull = false := by
  cases x with
  | none => exact .inl fun _ h => nomatch h
  | some v =>
      cases hnull : v.isNull with
      | true => exact .inl fun _ h => Option.some.inj h ▸ hnull
      | false => exact .inr ⟨v, rfl, hnull⟩

namespace Decoder

variable {α β δ : Type}

theorem map_eq_ok_iff {ε γ : Type} {f : β → γ} {x : Except ε β} {c : γ} :
    x.map f = .ok c ↔ ∃ b, x = .ok b ∧ f b = c := by
  cases x <;> simp [Except.map]

theorem bind_eq_ok_iff {ε γ : Type} {f : β → Except ε γ} {x : Except ε β} {c : γ} :
    x >>= f = .ok c ↔ ∃ b, x = .ok b ∧ f b = .ok c := by
  cases x <;> simp [bind, Except.bind]

theorem mapError_eq_ok_iff {ε η : Type} {f : ε → η} {x : Except ε β} {b : β} :
    x.mapError f = .ok b ↔ x = .ok b := by
  cases x with
  | error e => exact ⟨nofun, nofun⟩
  | ok a => exact ⟨fun h => congrArg _ (Except.ok.inj h), fun h => congrArg _ (Except.ok.inj h)⟩

/-! ## What an object says under a key -/

/-- The decoded value under a key, if there is one. -/
def under (d : Decoder β) : Option Value → Except Fault (Option β)
  | none => .ok none
  | some v => (d.ofValue v).map some

/-- The decoded value under a key, unless it is missing. -/
def optional (d : Decoder β) : Option Value → Except Fault (Option β)
  | none => .ok none
  | some v => d.option.ofValue v

theorem optional_eq_none_iff (d : Decoder β) (x : Option Value) :
    d.optional x = .ok none ↔ Missing x := by
  cases x with
  | none => simp [optional, Missing]
  | some v => cases hnull : v.isNull <;> simp [optional, option, Missing, hnull, map_eq_ok_iff]

theorem optional_eq_some_iff (d : Decoder β) (x : Option Value) (b : β) :
    d.optional x = .ok (some b) ↔ ∃ v, x = some v ∧ v.isNull = false ∧ d.ofValue v = .ok b := by
  cases x with
  | none => simp [optional]
  | some v => cases hnull : v.isNull <;> simp [optional, option, hnull, map_eq_ok_iff]

/-- A field that may be `null` and one that may be left out come to the same. -/
theorem optional_eq_iff_under (d : Decoder β) (x : Option Value) (o : Option β) :
    d.optional x = .ok o ↔ ∃ p, d.option.under x = .ok p ∧ p.join = o := by
  cases x with
  | none => simp [optional, under, eq_comm]
  | some v => simp [optional, under, map_eq_ok_iff]

/-- A required value is under its key. -/
theorem under_eq_some_iff {d : Decoder β} {x : Option Value} {b : β} :
    d.under x = .ok (some b) ↔ ∃ v, x = some v ∧ d.ofValue v = .ok b := by
  cases x with
  | none => simp [under]
  | some v => simp [under, map_eq_ok_iff]

theorem required_eq_ok_iff {o : Option β} {b : β} : required o = .ok b ↔ o = some b := by
  cases o <;> simp [required]

theorem scalar_eq_ok_iff {test : Value → Option β} {v : Value} {b : β} :
    (scalar test).ofValue v = .ok b ↔ test v = some b := by
  cases h : test v <;> simp [scalar, h]

theorem int64_eq_ok_iff {v : Value} {n : Int64} :
    int64.ofValue v = .ok n ↔ v.int64? = some n := scalar_eq_ok_iff

theorem string_eq_ok_iff {v : Value} {s : String} : string.ofValue v = .ok s ↔ v = .str s := by
  rw [string, scalar_eq_ok_iff]
  cases v <;> simp [Value.str?]

/-- Whatever stands under a key is a value. -/
theorem any_option_under (x : Option Value) : ∃ o, (any.option).under x = .ok o := by
  cases x with
  | none => exact ⟨none, rfl⟩
  | some v => cases hnull : v.isNull <;> simp [under, option, any, hnull, Except.map]

/-! ## Members in turn -/

/-- The names of the fields of a structure. -/
def Shape.names (s : Shape δ α) : List String := s.fields.flatMap (·.names)

/-- When no two fields share a name, the field of a key is the one that has it. -/
theorem Field.find?_eq_some_iff {fields : List (Field δ)}
    (hnames : (fields.flatMap (·.names)).Nodup) {key : String} {f : Field δ} :
    Field.find? fields key = some f ↔ f ∈ fields ∧ key ∈ f.names := by
  constructor
  · intro h
    exact ⟨List.mem_of_find?_eq_some h, by simpa using List.find?_some h⟩
  · rintro ⟨hf, hkey⟩
    induction fields with
    | nil => cases hf
    | cons g fields ih =>
        rw [List.flatMap_cons, List.nodup_append] at hnames
        obtain ⟨-, hrest, hapart⟩ := hnames
        rw [Field.find?, List.find?_cons]
        rcases List.mem_cons.1 hf with rfl | hf
        · simp [hkey]
        · -- The first field does not have the key, since a later one has it.
          have hnot : key ∉ g.names := fun hg =>
            hapart key hg key (List.mem_flatMap.2 ⟨f, hf, hkey⟩) rfl
          have hfirst : g.names.contains key = false := by simpa using hnot
          rw [hfirst]
          exact ih hrest hf

/-- The field of a key is not one that is written under another key only. -/
theorem Field.names_ne_of_find? {fields : List (Field δ)} {k key : String} {f : Field δ}
    (h : Field.find? fields k = some f) (hk : k ≠ key) : f.names ≠ [key] := by
  intro hnames
  have hmem : k ∈ f.names := by simpa using List.find?_some h
  rw [hnames, List.mem_singleton] at hmem
  exact hk hmem

/-- A member either belongs to no field, or it is decoded and put into a field that is not set. -/
theorem Shape.ofMembers_cons_eq_ok_iff (s : Shape δ α) {k : String} {v : Value} {ms : Members}
    {x y : δ} :
    s.ofMembers x ((k, v) :: ms) = .ok y
      ↔ (Field.find? s.fields k = none ∧ s.ofMembers x ms = .ok y)
        ∨ ∃ f g, Field.find? s.fields k = some f ∧ f.isSet x = false ∧ f.put.ofValue v = .ok g
            ∧ s.ofMembers (g x) ms = .ok y := by
  cases hfind : Field.find? s.fields k with
  | none => simp [ofMembers, hfind]
  | some f => cases hset : f.isSet x <;> simp [ofMembers, hfind, hset, bind_eq_ok_iff]

@[simp] theorem field_names (names : List String) (d : Decoder β) (isSet : δ → Bool)
    (put : β → δ → δ) : (field names d isSet put).names = names := rfl

theorem field_put_eq_ok_iff {names : List String} {d : Decoder β} {isSet : δ → Bool}
    {put : β → δ → δ} {v : Value} {g : δ → δ} :
    (field names d isSet put).put.ofValue v = .ok g ↔ ∃ b, d.ofValue v = .ok b ∧ put b = g :=
  map_eq_ok_iff

/-! ## Slots -/

/-- A field that leaves a part of the draft as it is. -/
def Spares (get : δ → Option β) (f : Field δ) : Prop :=
  ∀ v g, f.put.ofValue v = .ok g → ∀ x, get (g x) = get x

theorem spares_field {γ : Type} {get : δ → Option β} {names : List String} {d : Decoder γ}
    {isSet : δ → Bool} {put : γ → δ → δ} (h : ∀ c x, get (put c x) = get x) :
    Spares get (field names d isSet put) := by
  intro v g hput x
  obtain ⟨c, -, rfl⟩ := field_put_eq_ok_iff.1 hput
  exact h c x

/-- A field that is written under one key and alone has a part of the draft. -/
structure Slot (s : Shape δ α) (key : String) (d : Decoder β) (get : δ → Option β)
    (put : β → δ → δ) : Prop where
  mem : field [key] d (fun x => (get x).isSome) put ∈ s.fields
  get_put : ∀ b x, get (put b x) = some b
  frame : ∀ f ∈ s.fields, f.names ≠ [key] → Spares get f

namespace Slot

variable {s : Shape δ α} {key : String} {d : Decoder β} {get : δ → Option β} {put : β → δ → δ}

/-- Members under other keys leave a slot alone. -/
theorem get_of_not_mem (h : Slot s key d get put) {ms : Members} (hkey : key ∉ ms.map Prod.fst)
    {x y : δ} (hok : s.ofMembers x ms = .ok y) : get y = get x := by
  induction ms generalizing x with
  | nil =>
      cases hok
      rfl
  | cons m ms ih =>
      obtain ⟨k, v⟩ := m
      rw [List.map_cons, List.mem_cons, not_or] at hkey
      rcases s.ofMembers_cons_eq_ok_iff.1 hok with ⟨-, hrest⟩ | ⟨f, g, hfind, -, hput, hrest⟩
      · exact ih hkey.2 hrest
      · have hother : f.names ≠ [key] := Field.names_ne_of_find? hfind (Ne.symm hkey.1)
        rw [ih hkey.2 hrest, h.frame f (List.mem_of_find?_eq_some hfind) hother v g hput]

/-- A slot that was empty holds what the members say under its key. -/
theorem under_get?_of_empty (h : Slot s key d get put) (hnames : s.names.Nodup) {ms : Members}
    (hms : (ms.map Prod.fst).Nodup) {x y : δ} (hx : get x = none)
    (hok : s.ofMembers x ms = .ok y) : d.under (ms.get? key) = .ok (get y) := by
  induction ms generalizing x with
  | nil =>
      cases hok
      rw [hx]
      rfl
  | cons m ms ih =>
      obtain ⟨k, v⟩ := m
      rw [List.map_cons, List.nodup_cons] at hms
      have hown := (Field.find?_eq_some_iff hnames).2
        ⟨h.mem, (List.mem_singleton_self key : key ∈ [key])⟩
      rw [Members.get?_cons]
      by_cases hk : k = key
      · subst hk
        rw [if_pos rfl]
        rcases s.ofMembers_cons_eq_ok_iff.1 hok with ⟨hnone, -⟩ | ⟨f, g, hfind, -, hput, hrest⟩
        · rw [hown] at hnone
          cases hnone
        · obtain rfl := Option.some.inj (hown.symm.trans hfind)
          obtain ⟨b, hb, rfl⟩ := field_put_eq_ok_iff.1 hput
          rw [h.get_of_not_mem hms.1 hrest, h.get_put, under, hb]
          rfl
      · rw [if_neg hk]
        rcases s.ofMembers_cons_eq_ok_iff.1 hok with ⟨-, hrest⟩ | ⟨f, g, hfind, -, hput, hrest⟩
        · exact ih hms.2 hx hrest
        · refine ih hms.2 ?_ hrest
          have hother : f.names ≠ [key] := Field.names_ne_of_find? hfind hk
          rw [h.frame f (List.mem_of_find?_eq_some hfind) hother v g hput, hx]

end Slot

/-- A structure of slots only. -/
def Shape.Slotted (s : Shape δ α) : Prop :=
  ∀ f ∈ s.fields, ∃ (β : Type) (key : String) (d : Decoder β) (get : δ → Option β)
    (put : β → δ → δ), Slot s key d get put ∧ f = field [key] d (fun x => (get x).isSome) put

/-- No field sets another one. -/
theorem Shape.Slotted.isSet_eq {s : Shape δ α} (h : s.Slotted) {f f' : Field δ} (hf : f ∈ s.fields)
    (hf' : f' ∈ s.fields) (hne : f'.names ≠ f.names) {v : Value} {g : δ → δ}
    (hput : f'.put.ofValue v = .ok g) (x : δ) : f.isSet (g x) = f.isSet x := by
  obtain ⟨_, key, _, get, _, hslot, rfl⟩ := h f hf
  exact congrArg Option.isSome (hslot.frame f' hf' hne v g hput x)

/-- What the members say under the names of some fields can be decoded. -/
def Readable (fields : List (Field δ)) (ms : Members) : Prop :=
  ∀ f ∈ fields, ∀ key ∈ f.names, ∀ v, ms.get? key = some v → ∃ g, f.put.ofValue v = .ok g

theorem readable_cons_iff {names : List String} {d : Decoder β} {isSet : δ → Bool}
    {put : β → δ → δ} {fields : List (Field δ)} {ms : Members} :
    Readable (field names d isSet put :: fields) ms
      ↔ (∀ key ∈ names, ∃ o, d.under (ms.get? key) = .ok o) ∧ Readable fields ms := by
  have hone : ∀ x : Option Value, (∀ v, x = some v → ∃ g, (field names d isSet put).put.ofValue v
      = .ok g) ↔ ∃ o, d.under x = .ok o := by
    intro x
    cases x with
    | none => simp [under]
    | some v =>
        simp only [Option.some.injEq, forall_eq', field_put_eq_ok_iff, under, map_eq_ok_iff]
        exact ⟨fun ⟨g, b, hb, _⟩ => ⟨some b, b, hb, rfl⟩, fun ⟨o, b, hb, _⟩ => ⟨put b, b, hb, rfl⟩⟩
  rw [Readable, List.forall_mem_cons]
  exact and_congr (forall₂_congr fun key _ => hone (ms.get? key)) Iff.rfl

/-- Decoding goes through if what the members say to the fields does, and no field is set
before. -/
theorem Shape.ofMembers_isOk_of_unset {s : Shape δ α} (hnames : s.names.Nodup)
    (hslotted : s.Slotted) {ms : Members} (hms : (ms.map Prod.fst).Nodup)
    (hread : Readable s.fields ms) {x : δ}
    (hunset : ∀ m ∈ ms, ∀ f ∈ s.fields, m.1 ∈ f.names → f.isSet x = false) :
    ∃ y, s.ofMembers x ms = .ok y := by
  induction ms generalizing x with
  | nil => exact ⟨x, rfl⟩
  | cons m ms ih =>
      obtain ⟨k, v⟩ := m
      rw [List.map_cons, List.nodup_cons] at hms
      have hlater : Readable s.fields ms := by
        intro f hf key hkey w hw
        have hne : k ≠ key := by
          rintro rfl
          exact hms.1 (List.mem_map.2 ⟨(k, w), Members.mem_of_get? hw, rfl⟩)
        exact hread f hf key hkey w (by rw [Members.get?_cons, if_neg hne, hw])
      cases hfind : Field.find? s.fields k with
      | none =>
          obtain ⟨y, hy⟩ := ih hms.2 hlater fun m hm => hunset m (List.mem_cons_of_mem _ hm)
          exact ⟨y, s.ofMembers_cons_eq_ok_iff.2 (.inl ⟨hfind, hy⟩)⟩
      | some f =>
          obtain ⟨hf, hk⟩ := (Field.find?_eq_some_iff hnames).1 hfind
          obtain ⟨g, hput⟩ := hread f hf k hk v (by rw [Members.get?_cons, if_pos rfl])
          have hset : f.isSet x = false := hunset (k, v) List.mem_cons_self f hf hk
          obtain ⟨y, hy⟩ := ih (x := g x) hms.2 hlater fun m hm f' hf' hm' => by
            -- A later member has another key, so it belongs to another field.
            have hne : f.names ≠ f'.names := by
              intro hsame
              obtain ⟨_, key, _, _, _, -, rfl⟩ := hslotted f' hf'
              rw [hsame] at hk
              rw [field, List.mem_singleton] at hk hm'
              exact hms.1 (List.mem_map.2 ⟨m, hm, hm'.trans hk.symm⟩)
            rw [hslotted.isSet_eq hf' hf hne hput x]
            exact hunset m (List.mem_cons_of_mem _ hm) f' hf' hm'
          exact ⟨y, s.ofMembers_cons_eq_ok_iff.2 (.inr ⟨f, g, hfind, hset, hput, hy⟩)⟩

/-- A structure whose fields are slots under distinct names, none of them set from the start. -/
structure Shape.Lawful (s : Shape δ α) : Prop where
  names_nodup : s.names.Nodup
  slotted : s.Slotted
  unset : ∀ f ∈ s.fields, f.isSet s.empty = false

/-- **A field holds what the object says under its key.** -/
theorem Slot.under_get? {s : Shape δ α} {key : String} {d : Decoder β} {get : δ → Option β}
    {put : β → δ → δ} (h : Slot s key d get put) (hs : s.Lawful) {ms : Members}
    (hms : (ms.map Prod.fst).Nodup) {y : δ} (hok : s.ofMembers s.empty ms = .ok y) :
    d.under (ms.get? key) = .ok (get y) := by
  have hempty : (get s.empty).isSome = false := hs.unset _ h.mem
  have hnone : get s.empty = none := Option.not_isSome_iff_eq_none.1 (by simp [hempty])
  exact h.under_get?_of_empty hs.names_nodup hms hnone hok

/-- **Decoding goes through** if what the object says to each field does. -/
theorem Shape.Lawful.ofMembers_isOk {s : Shape δ α} (hs : s.Lawful) {ms : Members}
    (hms : (ms.map Prod.fst).Nodup) (hread : Readable s.fields ms) :
    ∃ y, s.ofMembers s.empty ms = .ok y :=
  Shape.ofMembers_isOk_of_unset hs.names_nodup hs.slotted hms hread fun _ _ f hf _ =>
    hs.unset f hf

/-! ## Faults -/

/-- Whatever is wrong with a value is its shape. -/
def OnlyMismatches (d : Decoder β) : Prop :=
  ∀ v fault, d.ofValue v = .error fault → fault = .mismatched

theorem map_eq_error_iff {ε γ : Type} {f : β → γ} {x : Except ε β} {e : ε} :
    x.map f = .error e ↔ x = .error e := by
  cases x <;> simp [Except.map]

theorem bind_eq_error_iff {ε γ : Type} {f : β → Except ε γ} {x : Except ε β} {e : ε} :
    x >>= f = .error e ↔ x = .error e ∨ ∃ b, x = .ok b ∧ f b = .error e := by
  cases x <;> simp [bind, Except.bind]

theorem onlyMismatches_scalar (test : Value → Option β) : OnlyMismatches (scalar test) := by
  intro v fault h
  simp only [scalar] at h
  split at h
  · cases h
  · cases h
    rfl

theorem onlyMismatches_any : OnlyMismatches any := by
  intro v fault h
  cases h

theorem OnlyMismatches.option {d : Decoder β} (hd : OnlyMismatches d) :
    OnlyMismatches d.option := by
  intro v fault h
  simp only [Decoder.option] at h
  split at h
  · cases h
  · exact hd v fault (map_eq_error_iff.1 h)

theorem OnlyMismatches.field {d : Decoder β} (hd : OnlyMismatches d) {names : List String}
    {isSet : δ → Bool} {put : β → δ → δ} : OnlyMismatches (field names d isSet put).put :=
  fun v fault h => hd v fault (map_eq_error_iff.1 h)

theorem onlyMismatches_required {o : Option β} {fault : Fault}
    (h : required o = .error fault) : fault = .mismatched := by
  cases o <;> cases h
  rfl

/-- A structure only has the wrong shape if its fields do and if drafts are refused for that. -/
theorem Shape.onlyMismatches {s : Shape δ α} (hfields : ∀ f ∈ s.fields, OnlyMismatches f.put)
    (hfinish : ∀ x fault, s.finish x = .error fault → fault = .mismatched) :
    OnlyMismatches s.decoder := by
  have hmembers : ∀ (ms : Members) (x : δ) fault, s.ofMembers x ms = .error fault →
      fault = .mismatched := by
    intro ms
    induction ms with
    | nil => intro x fault h; cases h
    | cons m ms ih =>
        obtain ⟨k, v⟩ := m
        intro x fault h
        unfold ofMembers at h
        split at h
        · exact ih x fault h
        · rename_i f hfind
          split at h
          · cases h
            rfl
          · rcases bind_eq_error_iff.1 h with hput | ⟨g, -, hrest⟩
            · exact hfields f (List.mem_of_find?_eq_some hfind) v fault hput
            · exact ih _ fault hrest
  have hitems : ∀ (fs : List (Field δ)) (vs : List Value) (x : δ) fault,
      (∀ f ∈ fs, OnlyMismatches f.put) → ofItems fs x vs = .error fault →
        fault = .mismatched := by
    intro fs
    induction fs with
    | nil =>
        intro vs x fault _ h
        cases vs <;> cases h
        rfl
    | cons f fs ih =>
        intro vs x fault hfs h
        cases vs with
        | nil => cases h
        | cons v vs =>
            rcases bind_eq_error_iff.1 h with hput | ⟨g, -, hrest⟩
            · exact hfs f List.mem_cons_self v fault hput
            · exact ih vs _ fault (fun f hf => hfs f (List.mem_cons_of_mem _ hf)) hrest
  intro v fault h
  cases v with
  | obj ms =>
      rcases bind_eq_error_iff.1 h with h | ⟨x, -, h⟩
      · exact hmembers ms _ fault h
      · exact hfinish x fault h
  | arr vs =>
      simp only [decoder, ofValue] at h
      split at h
      · rcases bind_eq_error_iff.1 h with h | ⟨x, -, h⟩
        · exact hitems s.fields vs _ fault hfields h
        · exact hfinish x fault h
      · cases h
        rfl
  | _ =>
      cases h
      rfl

end Decoder
end Messenger.Json
