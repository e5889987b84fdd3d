import Messenger.Json.Merge
import Messenger.Proofs.Json.Decode

set_option autoImplicit false

/-! # What a merged document says

Members are laid over those of an object one after another. When no key occurs twice this comes to
the same as laying over each key by itself what the upper object says under it
(`get?_mergeMembers`). So a field of a structure that is decoded from a merged object holds what the
upper object says, unless that is missing, and a default otherwise (`Slot.get_of_merged`). -/

namespace Messenger.Json

/-- What stands under a key after a merge: what stood there before, unless the upper object has a
value for the key. -/
def laidOver (below : Option Value) : Option Value → Option Value
  | none => below
  | some .null => below
  | some v => some (below.elim v (·.merge v))

@[simp] theorem laidOver_none (below : Option Value) : laidOver below none = below := rfl

/-- A value that is not `null` is laid over what is below it. -/
theorem laidOver_some {v : Value} (h : v.isNull = false) (below : Option Value) :
    laidOver below (some v) = some (below.elim v (·.merge v)) := by
  cases v with
  | null => cases h
  | _ => rfl

theorem laidOver_of_missing {x : Option Value} (h : Missing x) (below : Option Value) :
    laidOver below x = below := by
  cases x with
  | none => rfl
  | some v =>
      cases v with
      | null => rfl
      | _ => cases h _ rfl

/-- A value that is no object replaces what it is laid over. -/
theorem Value.merge_of_not_obj {v : Value} (h : v.obj? = none) (below : Value) :
    below.merge v = v := by
  unfold Value.merge
  split
  · cases h
  · rfl

/-- Nothing but an object is merged; it is replaced by what is laid over it. -/
theorem Value.merge_onto_not_obj {below : Value} (h : below.obj? = none) (v : Value) :
    below.merge v = v := by
  unfold Value.merge
  split
  · cases h
  · rfl

/-- One member laid over others changes what they say under its key. -/
theorem get?_mergeMember (target : Members) (key other : String) (v : Value) :
    (mergeMember target key v).get? other
      = if key = other then laidOver (target.get? key) (some v) else target.get? other := by
  unfold mergeMember
  split
  · split
    · rename_i h
      subst h
      rfl
    · rfl
  · rename_i source
    cases hbelow : target.get? key with
    | none => simp only [Members.get?_insert, laidOver, Option.elim_none]
    | some below =>
        cases below with
        | obj below => simp only [Members.get?_insert, laidOver, Option.elim_some, Value.merge]
        | _ => simp only [Members.get?_insert, laidOver, Option.elim_some, Value.merge]
  · rename_i hnull hobj
    have hv : v.isNull = false := by
      cases v with
      | null => exact absurd rfl hnull
      | _ => rfl
    have hplain : v.obj? = none := by
      cases v with
      | obj ms => exact absurd rfl (hobj ms)
      | _ => rfl
    rw [Members.get?_insert, laidOver_some hv]
    cases target.get? key with
    | none => rfl
    | some below => rw [Option.elim_some, Value.merge_of_not_obj hplain]

/-- **Keys are merged one by one.** -/
theorem get?_mergeMembers {source : Members} (h : (source.map Prod.fst).Nodup) (target : Members)
    (key : String) :
    (mergeMembers target source).get? key = laidOver (target.get? key) (source.get? key) := by
  induction source generalizing target with
  | nil => rfl
  | cons m source ih =>
      obtain ⟨k, v⟩ := m
      rw [List.map_cons, List.nodup_cons] at h
      rw [mergeMembers, ih h.2, get?_mergeMember, Members.get?_cons]
      by_cases hk : k = key
      · subst hk
        have hlater : Members.get? k source = none := by
          cases hget : Members.get? k source with
          | none => rfl
          | some w => exact absurd (List.mem_map.2 ⟨_, Members.mem_of_get? hget, rfl⟩) h.1
        rw [if_pos rfl, if_pos rfl, hlater, laidOver_none]
      · rw [if_neg hk, if_neg hk]

/-- Merging keeps the keys in ascending order. -/
theorem ascending_mergeMembers (source : Members) {target : Members} (h : target.Ascending) :
    (mergeMembers target source).Ascending := by
  have hone (key : String) (v : Value) {target : Members} (h : target.Ascending) :
      (mergeMember target key v).Ascending := by
    unfold mergeMember
    split
    · exact h
    · split <;> exact Members.ascending_insert _ _ h
    · exact Members.ascending_insert _ _ h
  induction source generalizing target with
  | nil => exact h
  | cons m source ih => exact ih (hone m.1 m.2 h)

namespace Decoder

variable {α β δ : Type}

/-- What is laid over a default that is no object is decoded in its place, unless it is missing. -/
theorem under_laidOver_iff {d : Decoder β} {default : Value} {b : β} (hplain : default.obj? = none)
    (hdefault : d.ofValue default = .ok b) (x : Option Value) (o : Option β) :
    d.under (laidOver (some default) x) = .ok o
      ↔ ∃ given, d.optional x = .ok given ∧ o = some (given.getD b) := by
  have hbelow : d.under (some default) = .ok o ↔ o = some b := by
    rw [under, hdefault]
    exact ⟨fun h => (Except.ok.inj h).symm, fun h => h ▸ rfl⟩
  rcases missing_or_said x with hmissing | ⟨v, rfl, hnull⟩
  · rw [laidOver_of_missing hmissing, hbelow, (optional_eq_none_iff d x).2 hmissing]
    constructor
    · rintro rfl
      exact ⟨none, rfl, rfl⟩
    · rintro ⟨_, ⟨⟩, rfl⟩
      rfl
  · rw [laidOver_some hnull, Option.elim_some, Value.merge_onto_not_obj hplain]
    simp only [under, optional, option, hnull, Bool.false_eq_true, if_false, map_eq_ok_iff]
    constructor
    · rintro ⟨c, hc, rfl⟩
      exact ⟨some c, ⟨c, hc, rfl⟩, rfl⟩
    · rintro ⟨_, ⟨c, hc, rfl⟩, rfl⟩
      exact ⟨c, hc, rfl⟩

variable {s : Shape δ α} {key : String} {d : Decoder β} {get : δ → Option β} {put : β → δ → δ}
  {defaults ms : Members} {default : Value} {b : β}

/-- **A field of a merged object** holds what the upper object says, or else the default. -/
theorem Slot.get_of_merged (h : Slot s key d get put) (hs : s.Lawful)
    (hdefaults : defaults.Ascending) (hms : (ms.map Prod.fst).Nodup)
    (hbelow : defaults.get? key = some default) (hplain : default.obj? = none)
    (hdefault : d.ofValue default = .ok b) {y : δ}
    (hok : s.ofMembers s.empty (mergeMembers defaults ms) = .ok y) :
    ∃ given, d.optional (ms.get? key) = .ok given ∧ get y = some (given.getD b) := by
  have hsaid := h.under_get? hs (ascending_mergeMembers ms hdefaults).nodup hok
  rw [get?_mergeMembers hms, hbelow] at hsaid
  exact (under_laidOver_iff hplain hdefault _ _).1 hsaid

/-- What a merged object says under a key can be decoded if what the upper object says can. -/
theorem under_merged (hms : (ms.map Prod.fst).Nodup) (hbelow : defaults.get? key = some default)
    (hplain : default.obj? = none) (hdefault : d.ofValue default = .ok b) {given : Option β}
    (hgiven : d.optional (ms.get? key) = .ok given) :
    ∃ o, d.under ((mergeMembers defaults ms).get? key) = .ok o := by
  rw [get?_mergeMembers hms, hbelow]
  exact ⟨_, (under_laidOver_iff hplain hdefault _ _).2 ⟨given, hgiven, rfl⟩⟩

end Decoder
end Messenger.Json
