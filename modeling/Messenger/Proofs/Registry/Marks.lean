import Messenger.Registry

set_option autoImplicit false

/-! # What marks cover

The mark of a handle matters only through what it *covers*: the timestamps that are not newer. A
kept message is passed over at a registration exactly if its timestamp is covered. This file says
what raising a mark, one handing or a whole round of handings at a time, adds to what is covered. -/

namespace Messenger

namespace Marks

/-- A timestamp is not newer than the mark of a handle. -/
def Covers (marks : Marks) (id : ListenerId) (t : Int64) : Prop :=
  ∃ s, marks.get? id = some s ∧ t ≤ s

theorem not_covers_nil (id : ListenerId) (t : Int64) : ¬ Covers [] id t := by
  rintro ⟨s, hs, _⟩
  simp [get?] at hs

theorem get?_raise (marks : Marks) (id i : ListenerId) (t : Int64) :
    (marks.raise id t).get? i
      = if i = id then some (match marks.get? id with
          | some s => if s ≤ t then t else s
          | none => t)
        else marks.get? i := by
  induction marks with
  | nil =>
      by_cases h : i = id
      · subst h; simp [raise, get?]
      · rw [if_neg h]; simp [raise, get?, Ne.symm h]
  | cons mark marks ih =>
      obtain ⟨j, s⟩ := mark
      by_cases hj : j = id
      · subst hj
        by_cases h : i = j
        · subst h; simp [raise, get?]
        · simp [raise, get?, h, Ne.symm h]
      · by_cases h : j = i
        · subst h; simp [raise, get?, hj]
        · simp only [raise, if_neg hj, get?, if_neg h, ih]

/-- Raising a mark to `t` covers what was covered, and what is not newer than `t`. -/
theorem covers_raise (marks : Marks) (id i : ListenerId) (t u : Int64) :
    (marks.raise id t).Covers i u ↔ marks.Covers i u ∨ (id = i ∧ u ≤ t) := by
  unfold Covers
  rw [get?_raise]
  by_cases h : i = id
  · subst h
    cases hs : marks.get? i with
    | none => simp
    | some s =>
        by_cases hst : s ≤ t
        · simp only [if_pos hst, ↓reduceIte, Option.some.injEq, exists_eq_left', true_and]
          exact ⟨Or.inr, fun hu => hu.elim (fun hu => Int64.le_trans hu hst) (fun hu => hu)⟩
        · have hts : t ≤ s := (Int64.le_total s t).resolve_left hst
          simp only [if_neg hst, ↓reduceIte, Option.some.injEq, exists_eq_left', true_and]
          exact ⟨Or.inl, fun hu => hu.elim (fun hu => hu) (fun hu => Int64.le_trans hu hts)⟩
  · simp [if_neg h, Ne.symm h]

end Marks

namespace Registry

variable {M : Type} [Stamped M]

/-- A round covers what was covered, and what is not newer than a message that it hands out. -/
theorem covers_raiseAll (hs : List (Handing M)) (marks : Marks) (id : ListenerId) (u : Int64) :
    (raiseAll marks hs).Covers id u
      ↔ marks.Covers id u ∨ ∃ h ∈ hs, h.1.id = id ∧ u ≤ Stamped.timestamp h.2 := by
  unfold raiseAll
  induction hs generalizing marks with
  | nil => simp
  | cons h hs ih =>
      rw [List.foldl_cons, ih, Marks.covers_raise]
      simp only [List.mem_cons, exists_eq_or_imp, or_assoc]

/-- A message is newer than the mark of a handle if its timestamp is not covered. -/
theorem isNewer_eq_false_iff (marks : Marks) (id : ListenerId) (m : M) :
    isNewer (marks.get? id) m = false ↔ marks.Covers id (Stamped.timestamp m) := by
  unfold isNewer Marks.Covers
  cases marks.get? id <;> simp

/-- A registration hands out the kept messages that the mark of the handle does not cover. -/
theorem mem_missed (r : Registry M) (id : ListenerId) (m : M) :
    m ∈ r.missed id ↔ m ∈ r.history ∧ ¬ r.marks.Covers id (Stamped.timestamp m) := by
  rw [missed, List.mem_filter, ← isNewer_eq_false_iff, Bool.not_eq_false]

end Registry
end Messenger
