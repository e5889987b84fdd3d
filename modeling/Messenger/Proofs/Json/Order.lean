import Mathlib.Data.List.Induction
import Mathlib.Data.List.Nodup
import Mathlib.Data.String.Basic
import Messenger.Json.Read

set_option autoImplicit false

/-! # The order of members

A text may write the members of an object in any order and a key several times. A value that is
read from a text has them in ascending order and each key once (`ordered_of_parseBytes`), so what it
says under a key does not depend on how it was written. -/

namespace Messenger.Json

namespace Members

/-- What an insertion leaves was there before or is inserted. -/
theorem mem_of_mem_insert {key : String} {value : Value} {ms : Members} {m : String × Value}
    (h : m ∈ insert key value ms) : m = (key, value) ∨ m ∈ ms := by
  induction ms with
  | nil => exact .inl (List.mem_singleton.1 h)
  | cons first ms ih =>
      obtain ⟨k, v⟩ := first
      unfold insert at h
      split at h
      · exact List.mem_cons.1 h
      · split at h
        · exact (List.mem_cons.1 h).imp id (List.mem_cons_of_mem _)
        · rcases List.mem_cons.1 h with rfl | h
          · exact .inr List.mem_cons_self
          · exact (ih h).imp id (List.mem_cons_of_mem _)

theorem ascending_insert (key : String) (value : Value) {ms : Members} (h : Ascending ms) :
    Ascending (insert key value ms) := by
  induction ms with
  | nil => exact List.pairwise_singleton _ _
  | cons first ms ih =>
      obtain ⟨k, v⟩ := first
      obtain ⟨hfirst, hrest⟩ := List.pairwise_cons.1 h
      unfold insert
      split
      · -- The new key comes before the first one, hence before all.
        rename_i hlt
        refine List.pairwise_cons.2 ⟨fun m hm => ?_, h⟩
        rcases List.mem_cons.1 hm with rfl | hm
        · exact hlt
        · exact lt_trans hlt (hfirst m hm)
      · rename_i hnlt
        split
        · rename_i heq
          exact List.pairwise_cons.2 ⟨heq ▸ hfirst, hrest⟩
        · rename_i hne
          have hlt : k < key := lt_of_le_of_ne (not_lt.1 hnlt) hne
          refine List.pairwise_cons.2 ⟨fun m hm => ?_, ih hrest⟩
          rcases mem_of_mem_insert hm with rfl | hm
          · exact hlt
          · exact hfirst m hm

/-- What holds without members, and after an insertion if before it, holds of sorted members. -/
theorem sorted_induction {P : Members → Prop} (ms : Members) (hnil : P [])
    (hinsert : ∀ acc, ∀ m ∈ ms, P acc → P (insert m.1 m.2 acc)) : P (sorted ms) := by
  induction ms using List.reverseRecOn with
  | nil => exact hnil
  | append_singleton ms m ih =>
      have hstep : sorted (ms ++ [m]) = insert m.1 m.2 (sorted ms) := by
        rw [sorted, List.foldl_append]
        rfl
      rw [hstep]
      exact hinsert _ m (by simp) (ih fun acc n hn => hinsert acc n (List.mem_append_left _ hn))

theorem ascending_sorted (ms : Members) : Ascending (sorted ms) :=
  sorted_induction ms List.Pairwise.nil fun _ _ _ h => ascending_insert _ _ h

theorem mem_of_get? {key : String} {ms : Members} {v : Value} (h : ms.get? key = some v) :
    (key, v) ∈ ms := by
  induction ms with
  | nil => cases h
  | cons m ms ih =>
      obtain ⟨k, w⟩ := m
      rw [get?_cons] at h
      split at h
      · rename_i hk
        cases h
        cases hk
        exact List.mem_cons_self
      · exact List.mem_cons_of_mem _ (ih h)

/-- Ascending keys are distinct. -/
theorem Ascending.nodup {ms : Members} (h : Ascending ms) : (ms.map Prod.fst).Nodup :=
  List.pairwise_map.2 (h.imp fun hlt => ne_of_lt hlt)

/-- Under distinct keys, what an object says is what it has as members. -/
theorem get?_eq_some_iff_mem {ms : Members} (h : (ms.map Prod.fst).Nodup) (key : String)
    (v : Value) : ms.get? key = some v ↔ (key, v) ∈ ms := by
  refine ⟨mem_of_get?, fun hmem => ?_⟩
  induction ms with
  | nil => cases hmem
  | cons m ms ih =>
      rw [List.map_cons, List.nodup_cons] at h
      rw [get?_cons]
      rcases List.mem_cons.1 hmem with rfl | hmem
      · exact if_pos rfl
      · have hne : m.1 ≠ key := fun heq => h.1 (List.mem_map.2 ⟨_, hmem, heq.symm⟩)
        rw [if_neg hne]
        exact ih h.2 hmem

/-- Ascending members that say the same under every key are the same. -/
theorem Ascending.ext {ms ms' : Members} (h : ms.Ascending) (h' : ms'.Ascending)
    (hget : ∀ key, ms.get? key = ms'.get? key) : ms = ms' := by
  have hperm : ms.Perm ms' := by
    refine (List.perm_ext_iff_of_nodup h.nodup.of_map h'.nodup.of_map).2 fun ⟨key, v⟩ => ?_
    rw [← get?_eq_some_iff_mem h.nodup, ← get?_eq_some_iff_mem h'.nodup, hget]
  exact hperm.eq_of_pairwise (fun a b _ _ hlt hgt => absurd hlt (lt_asymm hgt)) h h'

end Members

namespace Value

/-- Members are ordered if and only if each value is. -/
theorem orderedMembers_iff (ms : Members) : OrderedMembers ms ↔ ∀ m ∈ ms, m.2.Ordered := by
  induction ms with
  | nil => simp [OrderedMembers]
  | cons m ms ih => simp [OrderedMembers, ih]

theorem orderedMembers_sorted {ms : Members} (h : OrderedMembers ms) :
    OrderedMembers (Members.sorted ms) := by
  rw [orderedMembers_iff] at h
  refine Members.sorted_induction (P := OrderedMembers) ms trivial fun acc m hm hacc => ?_
  rw [orderedMembers_iff] at hacc ⊢
  intro n hn
  rcases Members.mem_of_mem_insert hn with rfl | hn
  · exact h m hm
  · exact hacc n hn

mutual

theorem ordered_sorted : ∀ v : Value, v.sorted.Ordered
  | .arr items => orderedItems_sorted items
  | .obj ms => ⟨Members.ascending_sorted _, orderedMembers_sorted (orderedMembers_sortedMembers ms)⟩
  | .null => trivial
  | .bool _ => trivial
  | .int _ => trivial
  | .float _ => trivial
  | .str _ => trivial

theorem orderedItems_sorted : ∀ vs : List Value, OrderedItems (sortedItems vs)
  | [] => trivial
  | v :: vs => ⟨ordered_sorted v, orderedItems_sorted vs⟩

theorem orderedMembers_sortedMembers : ∀ ms : Members, OrderedMembers (sortedMembers ms)
  | [] => trivial
  | (_, v) :: ms => ⟨ordered_sorted v, orderedMembers_sortedMembers ms⟩

end

/-- **A value that is read is ordered**: its objects list every key once, by ascending key. -/
theorem ordered_of_parseBytes {bytes : List UInt8} {v : Value} (h : parseBytes bytes = .ok v) :
    v.Ordered := by
  unfold parseBytes at h
  cases hread : Read.document (Text.pieces bytes) with
  | error fault =>
      rw [hread] at h
      cases h
  | ok w =>
      rw [hread] at h
      cases h
      exact ordered_sorted w

/-- The value of a member of an ordered object is ordered. -/
theorem Ordered.get? {ms : Members} (h : (obj ms).Ordered) {key : String} {v : Value}
    (hv : ms.get? key = some v) : v.Ordered :=
  (orderedMembers_iff ms).1 h.2 (key, v) (Members.mem_of_get? hv)

end Value
end Messenger.Json
