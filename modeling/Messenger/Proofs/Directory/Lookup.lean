import Mathlib.Data.Finset.Card
import Mathlib.Data.List.Induction
import Messenger.Proofs.Directory

set_option autoImplicit false

/-! # Looking up what comes first

A directory that is built from a list holds the items that come *first* with their key, in the order
of the list (`Directory.firsts`). Looking a key up in it is looking for the first item of the list
that has the key. The position that the index gives for a key is the number of items that were there
when the key was added (`Directory.position?_add`), and what stands at that position is the item
under the key (`Directory.ofList_holds_firsts`): an item that is left out shifts nothing. -/

namespace Messenger.Directory

variable {α : Type} {key : α → Option String}

/-! ## What comes first -/

/-- The items of a list that have a key which no item before them has. -/
def firsts (key : α → Option String) (items : List α) : List α :=
  (items.zipIdx.filter fun (a, i) =>
    (key a).isSome ∧ ∀ b ∈ items.take i, key b ≠ key a).map Prod.fst

/-- One more item comes first if it has a key that is new. -/
theorem firsts_concat (key : α → Option String) (items : List α) (a : α) :
    firsts key (items ++ [a])
      = firsts key items
        ++ if (key a).isSome ∧ ∀ b ∈ items, key b ≠ key a then [a] else [] := by
  -- What comes before an item of the shorter list is the same in both lists.
  have hbefore : ∀ x ∈ items.zipIdx, (items ++ [a]).take x.2 = items.take x.2 := fun x hx =>
    List.take_append_of_le_length (Nat.le_of_lt (by simpa using List.snd_lt_of_mem_zipIdx hx))
  have hsame : (items.zipIdx.filter fun (b, i) =>
        (key b).isSome ∧ ∀ c ∈ (items ++ [a]).take i, key c ≠ key b)
      = items.zipIdx.filter fun (b, i) =>
        (key b).isSome ∧ ∀ c ∈ items.take i, key c ≠ key b :=
    List.filter_congr fun x hx => by simp only [hbefore x hx]
  rw [firsts, firsts, List.zipIdx_append, List.filter_append, List.map_append, hsame]
  congr 1
  simp only [List.zipIdx_singleton, Nat.zero_add, List.filter_singleton, List.take_left]
  by_cases hnew : (key a).isSome ∧ ∀ b ∈ items, key b ≠ key a
  · rw [decide_eq_true hnew, if_pos hnew]
    rfl
  · rw [decide_eq_false hnew, if_neg hnew]
    rfl

/-! ## Building a directory -/

theorem get?_add {d : Directory α} {entries : List (String × α)} (h : d.Holds entries)
    (k other : String) (a : α) :
    (d.add k a).get? other = (d.get? other).or (if k = other then some a else none) := by
  rw [(h.add k a).get?_eq_lookup, List.lookup_append, ← h.get?_eq_lookup]
  by_cases hk : k = other
  · subst hk
    cases hget : d.get? k with
    | none => simp [h.contains_eq_isSome, hget]
    | some b => rfl
  · have hother : (other == k) = false := beq_false_of_ne (Ne.symm hk)
    cases d.contains k <;> simp [hk, List.lookup_cons, hother]

theorem ofList_concat (key : α → Option String) (items : List α) (a : α) :
    ofList key (items ++ [a]) = match key a with
      | some k => (ofList key items).add k a
      | none => ofList key items := by
  rw [ofList, List.foldl_append]
  rfl

theorem get?_ofList (key : α → Option String) (items : List α) (k : String) :
    (ofList key items).get? k = items.find? fun a => key a = some k := by
  induction items using List.reverseRecOn with
  | nil => rfl
  | append_singleton items a ih =>
      obtain ⟨entries, hholds, -⟩ := keyed_ofList key items
      rw [ofList_concat, List.find?_append, ← ih]
      cases hk : key a with
      | none => simp [hk]
      | some own => simp [hk, get?_add hholds, List.find?_singleton]

theorem contains_ofList_iff (key : α → Option String) (items : List α) (k : String) :
    (ofList key items).contains k = true ↔ ∃ a ∈ items, key a = some k := by
  obtain ⟨entries, hholds, -⟩ := keyed_ofList key items
  simp [hholds.contains_eq_isSome, get?_ofList, List.find?_isSome]

theorem items_ofList (key : α → Option String) (items : List α) :
    (ofList key items).items = firsts key items := by
  induction items using List.reverseRecOn with
  | nil => rfl
  | append_singleton items a ih =>
      rw [ofList_concat, firsts_concat, ← ih]
      cases hk : key a with
      | none => simp
      | some k =>
          have hcontains := contains_ofList_iff key items k
          by_cases hold : ∃ b ∈ items, key b = some k
          · obtain ⟨b, hb, hbk⟩ := hold
            have hnot : ¬ ∀ b ∈ items, key b ≠ some k := fun hall => hall b hb hbk
            rw [items_add, if_pos (hcontains.2 ⟨b, hb, hbk⟩), if_neg fun h => hnot h.2]
          · have hall : ∀ b ∈ items, key b ≠ some k := fun b hb hbk => hold ⟨b, hb, hbk⟩
            rw [items_add, if_neg (hcontains.not.2 hold), if_pos ⟨rfl, hall⟩]

theorem size_ofList (key : α → Option String) (items : List α) :
    (ofList key items).size = (items.filterMap key).toFinset.card := by
  obtain ⟨entries, hholds, -⟩ := keyed_ofList key items
  have hkeys : (entries.map Prod.fst).toFinset = (items.filterMap key).toFinset := by
    ext k
    rw [List.mem_toFinset, List.mem_toFinset, ← hholds.contains_iff, contains_ofList_iff,
      List.mem_filterMap]
  rw [← hkeys, List.toFinset_card_of_nodup hholds.distinct, List.length_map,
    hholds.size_eq_length]

/-- **A directory is what comes first in a list.** Built from a list, it holds of the items with one
key the first, in their order, and nothing else. Under a key it finds the first item of the list
with that key, if there is one, and it has as many items as the list has keys. Its index agrees with
its items: what is at the position of a key is the item with that key, also where items were left
out before it, and no other key has a position; a new key gets as its position the number of items
that are there. So items and index together hold an association list, every item under its own
key. -/
theorem ofList_holds_firsts (key : α → Option String) (items : List α) :
    let d := ofList key items
    d.items = firsts key items
    ∧ (∀ k, d.get? k = items.find? fun a => key a = some k)
    ∧ (∀ k, d.contains k = (d.get? k).isSome)
    ∧ d.size = (items.filterMap key).toFinset.card
    ∧ (∀ k i, d.position? k = some i ↔ d.items[i]?.bind key = some k)
    ∧ (∀ a k, (ofList key (items ++ [a])).position? k
        = (d.position? k).or (if key a = some k then some d.size else none))
    ∧ ∃ entries, d.Holds entries ∧ ∀ e ∈ entries, key e.2 = some e.1 := by
  intro d
  have hkeyed : d.Keyed key := keyed_ofList key items
  obtain ⟨entries, hholds, hkeys⟩ := id hkeyed
  refine ⟨items_ofList key items, get?_ofList key items, hholds.contains_eq_isSome,
    size_ofList key items, hkeyed.position?_eq_some_iff, fun a k => ?_,
    ⟨entries, hholds, hkeys⟩⟩
  rw [ofList_concat]
  cases hk : key a with
  | none => simp [d]
  | some own => simp [d, position?_add]

end Messenger.Directory
