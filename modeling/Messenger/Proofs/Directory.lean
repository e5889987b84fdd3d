import Mathlib.Data.List.Nodup
import Messenger.Directory
import Std.Data.TreeMap.Lemmas

set_option autoImplicit false

/-! # What a directory holds

Items and index are two things, and the index of an arbitrary directory may point anywhere. A
directory *holds* an association list without repeated keys if its items are those of the list and
its index gives the positions of the keys (`Directory.Holds`). Adding an item keeps this
(`Directory.Holds.add`), and what is found in such a directory is what is found in the list. A
directory that is built from a list of items is *keyed*: the list that it holds has every item under
its own key. Hence the item that is found under a key is the one item of the directory that has this
key. -/

namespace Messenger.Directory

variable {α : Type}

/-! ## Adding an item -/

theorem contains_eq_isSome_position? (d : Directory α) (k : String) :
    d.contains k = (d.position? k).isSome :=
  Std.TreeMap.contains_eq_isSome_getElem?

theorem items_add (d : Directory α) (k : String) (a : α) :
    (d.add k a).items = d.items ++ if d.contains k then [] else [a] := by
  unfold add
  split
  · rw [List.append_nil]
  · rfl

/-- A new key gets the number of items as its position, and every other one keeps its own. -/
theorem position?_add (d : Directory α) (k other : String) (a : α) :
    (d.add k a).position? other
      = (d.position? other).or (if k = other then some d.size else none) := by
  have hcontains := d.contains_eq_isSome_position? k
  unfold add
  by_cases hk : k = other
  · subst hk
    rw [if_pos rfl]
    split
    · next hold =>
        obtain ⟨i, hi⟩ := Option.isSome_iff_exists.1 (hcontains ▸ hold)
        rw [hi, Option.some_or]
    · next hnew =>
        have hnone : d.position? k = none := by
          rwa [hcontains, Bool.not_eq_true, Option.isSome_eq_false_iff, Option.isNone_iff_eq_none]
            at hnew
        rw [hnone, Option.none_or]
        exact Std.TreeMap.getElem?_insert_self
  · rw [if_neg hk, Option.or_none]
    split
    · rfl
    · rw [position?, Std.TreeMap.getElem?_insert,
        if_neg fun heq => hk (Std.LawfulEqCmp.eq_of_compare heq)]
      rfl

/-! ## The association list of a directory -/

/-- A directory holds the items of an association list in which no key stands twice, and its index
gives the positions of the keys. -/
structure Holds (d : Directory α) (entries : List (String × α)) : Prop where
  distinct : (entries.map Prod.fst).Nodup
  items : d.items = entries.map Prod.snd
  position : ∀ k, d.position? k = (entries.map Prod.fst).idxOf? k

theorem holds_empty : (empty : Directory α).Holds [] := ⟨List.nodup_nil, rfl, fun _ => rfl⟩

namespace Holds

variable {d : Directory α} {entries : List (String × α)} (h : d.Holds entries)
include h

/-- The index has the keys of the list. -/
theorem contains_iff (k : String) : d.contains k = true ↔ k ∈ entries.map Prod.fst := by
  rw [contains_eq_isSome_position?, h.position, List.isSome_idxOf?]

/-- What stands at the position of a key is what the list has under the key. -/
theorem get?_eq_lookup (k : String) : d.get? k = entries.lookup k := by
  rw [get?, h.position, h.items]
  clear h
  induction entries with
  | nil => rfl
  | cons e entries ih =>
      rw [List.lookup_cons, List.map_cons, List.map_cons, List.idxOf?_cons, ← ih]
      by_cases hk : k = e.1
      · simp [hk]
      · rw [beq_false_of_ne hk, beq_false_of_ne (Ne.symm hk), if_neg Bool.false_ne_true,
          Option.bind_map]
        simp only [List.getElem?_map, Function.comp_def, List.getElem?_cons_succ]

theorem contains_eq_isSome (k : String) : d.contains k = (d.get? k).isSome := by
  rw [Bool.eq_iff_iff, h.contains_iff, h.get?_eq_lookup, List.lookup_isSome_iff, List.mem_map]
  exact exists_congr fun e => and_congr_right fun _ => by rw [beq_iff_eq, eq_comm]

theorem size_eq_length : d.size = entries.length := by rw [size, h.items, List.length_map]

/-- The list of a directory to which an item was added. -/
theorem add (k : String) (a : α) :
    (d.add k a).Holds (entries ++ if d.contains k then [] else [(k, a)]) where
  distinct := by
    split
    · rw [List.append_nil]
      exact h.distinct
    · next hnew =>
        rw [List.map_append, List.map_singleton, List.nodup_append]
        refine ⟨h.distinct, List.nodup_singleton k, fun b hb c hc hbc => ?_⟩
        have hbk : b = k := hbc.trans (List.mem_singleton.1 hc)
        exact hnew ((h.contains_iff k).2 (hbk ▸ hb))
  items := by
    rw [items_add, h.items, List.map_append]
    split <;> rfl
  position other := by
    have hshift (keys : List String) : (entries.map Prod.fst ++ keys).idxOf? other
        = ((entries.map Prod.fst).idxOf? other).or
          ((keys.idxOf? other).map (· + (entries.map Prod.fst).length)) := List.findIdx?_append
    rw [position?_add, h.position, h.size_eq_length, List.map_append, hshift]
    by_cases hk : k = other
    · subst hk
      cases hposition : (entries.map Prod.fst).idxOf? k with
      | none =>
          have hnew : d.contains k = false := by
            rw [contains_eq_isSome_position?, h.position, hposition]
            rfl
          simp [hnew]
      | some i => rfl
    · cases d.contains k <;> simp [hk]

/-- The entries of the list are what is found. -/
theorem get?_eq_some_iff (k : String) (a : α) : d.get? k = some a ↔ (k, a) ∈ entries := by
  rw [h.get?_eq_lookup]
  have hdistinct := h.distinct
  clear h
  induction entries with
  | nil => simp
  | cons e entries ih =>
      obtain ⟨own, b⟩ := e
      rw [List.map_cons, List.nodup_cons] at hdistinct
      obtain ⟨hnew, hrest⟩ := hdistinct
      rw [List.lookup_cons, List.mem_cons]
      by_cases hk : k = own
      · subst hk
        -- Nothing else stands under the first key.
        have hnot : (k, a) ∉ entries := fun hmem =>
          hnew (List.mem_map.2 ⟨_, hmem, rfl⟩)
        simp [hnot, eq_comm]
      · have hbeq : (k == own) = false := beq_false_of_ne hk
        simp only [hbeq, Prod.mk.injEq, hk, false_and, false_or]
        exact ih hrest

end Holds

/-! ## Items under their own keys -/

/-- The directory holds an association list in which every item stands under its own key. -/
def Keyed (key : α → Option String) (d : Directory α) : Prop :=
  ∃ entries, d.Holds entries ∧ ∀ e ∈ entries, key e.2 = some e.1

variable {key : α → Option String}

theorem keyed_empty : (empty : Directory α).Keyed key :=
  ⟨[], holds_empty, fun _ he => absurd he List.not_mem_nil⟩

theorem Keyed.add {d : Directory α} (h : d.Keyed key) {k : String} {a : α} (hk : key a = some k) :
    (d.add k a).Keyed key := by
  obtain ⟨entries, hholds, hkeys⟩ := h
  refine ⟨_, hholds.add k a, List.forall_mem_append.2 ⟨hkeys, ?_⟩⟩
  split
  · exact fun _ he => absurd he List.not_mem_nil
  · exact List.forall_mem_singleton.2 hk

/-- The directory of a list is keyed. -/
theorem keyed_ofList (key : α → Option String) (items : List α) : (ofList key items).Keyed key := by
  unfold ofList
  refine List.foldlRecOn items _ keyed_empty fun d h a _ => ?_
  split
  · rename_i hk
    exact h.add hk
  · exact h

/-- So is the directory of a list that was obtained in some way. -/
theorem keyed_of_map_eq_ok {ε : Type} {items : Except ε (List α)} {d : Directory α}
    (h : items.map (ofList key) = .ok d) : d.Keyed key := by
  cases items with
  | error e => cases h
  | ok as =>
      cases h
      exact keyed_ofList key as

namespace Keyed

variable {d : Directory α} (h : d.Keyed key)
include h

/-- In a keyed directory an item is found under its own key, and under no other. -/
theorem get?_eq_some_iff (k : String) (a : α) :
    d.get? k = some a ↔ a ∈ d.items ∧ key a = some k := by
  obtain ⟨entries, hholds, hkeys⟩ := h
  rw [hholds.get?_eq_some_iff, hholds.items, List.mem_map]
  constructor
  · intro hmem
    exact ⟨⟨_, hmem, rfl⟩, hkeys _ hmem⟩
  · rintro ⟨⟨e, he, rfl⟩, hk⟩
    have hsame : e.1 = k := Option.some.inj ((hkeys e he).symm.trans hk)
    rw [← hsame]
    exact he

theorem isSome_of_mem {a : α} (ha : a ∈ d.items) : (key a).isSome := by
  obtain ⟨entries, hholds, hkeys⟩ := h
  rw [hholds.items, List.mem_map] at ha
  obtain ⟨e, he, rfl⟩ := ha
  rw [hkeys e he, Option.isSome_some]

/-- The index of a keyed directory points to the items that have the keys. -/
theorem position?_eq_some_iff (k : String) (i : Nat) :
    d.position? k = some i ↔ d.items[i]?.bind key = some k := by
  obtain ⟨entries, hholds, hkeys⟩ := h
  have hown : d.items[i]?.bind key = (entries.map Prod.fst)[i]? := by
    rw [hholds.items, List.getElem?_map, List.getElem?_map]
    cases he : entries[i]? with
    | none => rfl
    | some e => exact hkeys e (List.mem_of_getElem? he)
  rw [hown, hholds.position, List.idxOf?_eq_some_iff, List.getElem?_eq_some_iff]
  refine exists_congr fun hi => and_iff_left_of_imp fun hk j hj hsame => ?_
  -- Keys are distinct, so no key stands at two positions.
  exact absurd (hholds.distinct.getElem_inj_iff.1 (hsame.trans hk.symm)) (Nat.ne_of_lt hj)

end Keyed

end Messenger.Directory
