import Mathlib.Data.List.Pairwise
import Messenger.Proofs.Json.Decode

set_option autoImplicit false

/-! # Decoding whatever the order

A value that goes through a sorted map has its members in another order. A structure is decoded all
the same: a member concerns one field only, and fields leave each other alone (`Field.Apart`), so
that members can change places (`Shape.Orderless.ofMembers_perm`). -/

namespace Messenger.Json

/-! ## Sorting -/

namespace Members

theorem insert_perm {key : String} (value : Value) {ms : Members} (h : key ∉ ms.map Prod.fst) :
    (insert key value ms).Perm ((key, value) :: ms) := by
  induction ms with
  | nil => exact .refl _
  | cons m ms ih =>
      obtain ⟨k, v⟩ := m
      rw [List.map_cons, List.mem_cons, not_or] at h
      unfold insert
      split
      · exact .refl _
      · rw [if_neg (Ne.symm h.1)]
        exact ((ih h.2).cons _).trans (.swap ..)

/-- Sorting members with distinct keys only changes their order. -/
theorem sorted_perm {ms : Members} (h : (ms.map Prod.fst).Nodup) : (sorted ms).Perm ms := by
  induction ms using List.reverseRecOn with
  | nil => exact .refl _
  | append_singleton ms m ih =>
      have hstep : sorted (ms ++ [m]) = insert m.1 m.2 (sorted ms) := by
        rw [sorted, List.foldl_append]
        rfl
      rw [List.map_append, List.nodup_append] at h
      obtain ⟨hms, -, hapart⟩ := h
      have hsorted := ih hms
      have hnew : m.1 ∉ (sorted ms).map Prod.fst := by
        intro hmem
        have hmem := (hsorted.map Prod.fst).mem_iff.1 hmem
        exact hapart m.1 hmem m.1 (by simp) rfl
      rw [hstep]
      calc
        (insert m.1 m.2 (sorted ms)).Perm (m :: sorted ms) := insert_perm m.2 hnew
        List.Perm _ (m :: ms) := hsorted.cons m
        List.Perm _ (ms ++ [m]) := (List.perm_append_singleton m ms).symm

end Members

namespace Value

mutual

/-- The objects of a value have no key twice. -/
def Distinct : Value → Prop
  | .arr items => DistinctItems items
  | .obj ms => (ms.map Prod.fst).Nodup ∧ DistinctMembers ms
  | _ => True

/-- `Distinct` for every item. -/
def DistinctItems : List Value → Prop
  | [] => True
  | v :: vs => Distinct v ∧ DistinctItems vs

/-- `Distinct` for every member's value. -/
def DistinctMembers : Members → Prop
  | [] => True
  | (_, v) :: ms => Distinct v ∧ DistinctMembers ms

end

theorem distinctItems_iff {vs : List Value} : DistinctItems vs ↔ ∀ v ∈ vs, v.Distinct := by
  induction vs with
  | nil => simp [DistinctItems]
  | cons v vs ih => simp [DistinctItems, ih]

theorem distinctMembers_iff {ms : Members} : DistinctMembers ms ↔ ∀ m ∈ ms, m.2.Distinct := by
  induction ms with
  | nil => simp [DistinctMembers]
  | cons m ms ih => simp [DistinctMembers, ih]

theorem map_fst_sortedMembers (ms : Members) :
    (sortedMembers ms).map Prod.fst = ms.map Prod.fst := by
  induction ms with
  | nil => rfl
  | cons m ms ih =>
      obtain ⟨k, v⟩ := m
      rw [sortedMembers, List.map_cons, List.map_cons, ih]

/-- The members of a sorted object. -/
theorem sorted_obj_perm {ms : Members} (h : (obj ms).Distinct) :
    ∃ ms', (obj ms).sorted = .obj ms' ∧ ms'.Perm (sortedMembers ms) := by
  refine ⟨_, rfl, Members.sorted_perm ?_⟩
  rw [map_fst_sortedMembers]
  exact h.1

theorem isNull_sorted (v : Value) : v.sorted.isNull = v.isNull := by
  cases v <;> rfl

end Value

namespace Decoder

variable {α β δ : Type}

/-- The decoder takes the same from a value and from the value with its members sorted. -/
def IgnoresOrder (d : Decoder α) : Prop :=
  ∀ ⦃v : Value⦄ ⦃a : α⦄, v.Distinct → d.ofValue v = .ok a → d.ofValue v.sorted = .ok a

/-! ## Building blocks -/

theorem ignoresOrder_scalar {test : Value → Option α}
    (hscalar : ∀ v a, test v = some a → v.sorted = v) : (scalar test).IgnoresOrder := by
  intro v a _ hv
  rw [hscalar v a (scalar_eq_ok_iff.1 hv)]
  exact hv

theorem ignoresOrder_string : string.IgnoresOrder :=
  ignoresOrder_scalar fun v _ h => by
    rw [Value.str?_eq_some_iff.1 h]
    rfl

theorem ignoresOrder_bool : bool.IgnoresOrder :=
  ignoresOrder_scalar fun v _ h => by
    rw [Value.bool?_eq_some_iff.1 h]
    rfl

theorem ignoresOrder_int64 : int64.IgnoresOrder :=
  ignoresOrder_scalar fun v _ h => by
    rw [Value.int64?_eq_some_iff.1 h]
    rfl

theorem ignoresOrder_uint64 : uint64.IgnoresOrder :=
  ignoresOrder_scalar fun v _ h => by
    cases v with
    | int n => rfl
    | _ => cases h

theorem IgnoresOrder.map {d : Decoder α} (hd : d.IgnoresOrder) (f : α → β) :
    (d.map f).IgnoresOrder := by
  intro v b h hv
  obtain ⟨a, ha, rfl⟩ := map_eq_ok_iff.1 hv
  exact map_eq_ok_iff.2 ⟨a, hd h ha, rfl⟩

theorem IgnoresOrder.option {d : Decoder α} (hd : d.IgnoresOrder) : d.option.IgnoresOrder := by
  intro v o h hv
  simp only [Decoder.option, Value.isNull_sorted] at hv ⊢
  split
  · rename_i hnull
    rw [if_pos hnull] at hv
    exact hv
  · rename_i hnull
    rw [if_neg hnull] at hv
    obtain ⟨a, ha, rfl⟩ := map_eq_ok_iff.1 hv
    exact map_eq_ok_iff.2 ⟨a, hd h ha, rfl⟩

theorem IgnoresOrder.mapM {d : Decoder α} (hd : d.IgnoresOrder) {vs : List Value} {as : List α}
    (h : Value.DistinctItems vs) (hvs : vs.mapM d.ofValue = .ok as) :
    (Value.sortedItems vs).mapM d.ofValue = .ok as := by
  induction vs generalizing as with
  | nil => exact hvs
  | cons v vs ih =>
      rw [List.mapM_cons] at hvs
      obtain ⟨a, ha, hvs⟩ := bind_eq_ok_iff.1 hvs
      obtain ⟨as, has, hvs⟩ := bind_eq_ok_iff.1 hvs
      rw [Value.sortedItems, List.mapM_cons]
      exact bind_eq_ok_iff.2 ⟨a, hd h.1 ha, bind_eq_ok_iff.2 ⟨as, ih h.2 has, hvs⟩⟩

theorem IgnoresOrder.list {d : Decoder α} (hd : d.IgnoresOrder) : (list d).IgnoresOrder := by
  intro v as h hv
  cases v with
  | arr vs => exact hd.mapM h hv
  | _ => cases hv

theorem ignoresOrder_name (names : List (String × α)) : (name names).IgnoresOrder := by
  intro v a _ hv
  cases v with
  | str s => exact hv
  | obj ms =>
      obtain _ | ⟨⟨s, w⟩, _ | ⟨m, ms⟩⟩ := ms
      · cases hv
      · obtain ⟨b, hb, hv⟩ := bind_eq_ok_iff.1 hv
        refine bind_eq_ok_iff.2 ⟨b, hb, ?_⟩
        simp only [Value.isNull_sorted]
        exact hv
      · cases hv
  | _ => cases hv

/-! ## Structures -/

/-- Two fields leave each other alone, and the draft does not show which came first. -/
structure Field.Apart (f f' : Field δ) : Prop where
  comm : ∀ v g v' g', f.put.ofValue v = .ok g → f'.put.ofValue v' = .ok g' →
    ∀ x, g (g' x) = g' (g x)
  isSet_left : ∀ v g, f'.put.ofValue v = .ok g → ∀ x, f.isSet (g x) = f.isSet x
  isSet_right : ∀ v g, f.put.ofValue v = .ok g → ∀ x, f'.isSet (g x) = f'.isSet x

theorem Field.Apart.symm {f f' : Field δ} (h : f.Apart f') : f'.Apart f where
  comm v g v' g' hg hg' x := (h.comm v' g' v g hg' hg x).symm
  isSet_left := h.isSet_right
  isSet_right := h.isSet_left

instance : Std.Symm (@Field.Apart δ) := ⟨fun _ _ h => h.symm⟩

theorem apart_field {γ : Type} {names names' : List String} {d : Decoder β} {d' : Decoder γ}
    {isSet isSet' : δ → Bool} {put : β → δ → δ} {put' : γ → δ → δ}
    (hcomm : ∀ b c x, put b (put' c x) = put' c (put b x))
    (hleft : ∀ c x, isSet (put' c x) = isSet x) (hright : ∀ b x, isSet' (put b x) = isSet' x) :
    (field names d isSet put).Apart (field names' d' isSet' put') where
  comm v g v' g' hg hg' x := by
    obtain ⟨b, -, rfl⟩ := field_put_eq_ok_iff.1 hg
    obtain ⟨c, -, rfl⟩ := field_put_eq_ok_iff.1 hg'
    exact hcomm b c x
  isSet_left v g hg x := by
    obtain ⟨c, -, rfl⟩ := field_put_eq_ok_iff.1 hg
    exact hleft c x
  isSet_right v g hg x := by
    obtain ⟨b, -, rfl⟩ := field_put_eq_ok_iff.1 hg
    exact hright b x

/-- A field that is set by what is put into it. -/
def Field.Sets (f : Field δ) : Prop :=
  ∀ v g, f.put.ofValue v = .ok g → ∀ x, f.isSet (g x) = true

theorem sets_field {names : List String} {d : Decoder β} {isSet : δ → Bool} {put : β → δ → δ}
    (h : ∀ b x, isSet (put b x) = true) : (field names d isSet put).Sets := by
  intro v g hg x
  obtain ⟨b, -, rfl⟩ := field_put_eq_ok_iff.1 hg
  exact h b x

/-- A structure whose fields are set by what is put into them and leave each other alone. -/
structure Shape.Orderless (s : Shape δ α) : Prop where
  sets : ∀ f ∈ s.fields, f.Sets
  apart : s.fields.Pairwise Field.Apart

namespace Shape

variable {s : Shape δ α}

/-- Two members can change places. -/
theorem Orderless.ofMembers_swap (hs : s.Orderless) {x y : δ} {m m' : String × Value} {ms : Members}
    (h : s.ofMembers x (m :: m' :: ms) = .ok y) : s.ofMembers x (m' :: m :: ms) = .ok y := by
  obtain ⟨k, v⟩ := m
  obtain ⟨k', v'⟩ := m'
  have hcons {k : String} {v : Value} {ms : Members} {x y : δ} :=
    @ofMembers_cons_eq_ok_iff _ _ s k v ms x y
  rcases hcons.1 h with ⟨hnone, h⟩ | ⟨f, g, hfind, hset, hput, h⟩
  · rcases hcons.1 h with ⟨hnone', h⟩ | ⟨f', g', hfind', hset', hput', h⟩
    · exact hcons.2 (.inl ⟨hnone', hcons.2 (.inl ⟨hnone, h⟩)⟩)
    · exact hcons.2 (.inr ⟨f', g', hfind', hset', hput', hcons.2 (.inl ⟨hnone, h⟩)⟩)
  · rcases hcons.1 h with ⟨hnone', h⟩ | ⟨f', g', hfind', hset', hput', h⟩
    · exact hcons.2 (.inl ⟨hnone', hcons.2 (.inr ⟨f, g, hfind, hset, hput, h⟩)⟩)
    · have hf := List.mem_of_find?_eq_some hfind
      have hf' := List.mem_of_find?_eq_some hfind'
      have hne : f ≠ f' := by
        -- A field is not put twice.
        rintro rfl
        rw [hs.sets f hf v g hput x] at hset'
        cases hset'
      have hapart : f.Apart f' := hs.apart.forall hf hf' hne
      rw [hapart.isSet_right v g hput] at hset'
      rw [← hapart.isSet_left v' g' hput'] at hset
      rw [← hapart.comm v g v' g' hput hput'] at h
      exact hcons.2 (.inr ⟨f', g', hfind', hset', hput', hcons.2
        (.inr ⟨f, g, hfind, hset, hput, h⟩)⟩)

/-- **Members can stand in any order.** -/
theorem Orderless.ofMembers_perm (hs : s.Orderless) {ms ms' : Members} (hperm : ms.Perm ms')
    {x y : δ} (h : s.ofMembers x ms = .ok y) : s.ofMembers x ms' = .ok y := by
  induction hperm generalizing x with
  | nil => exact h
  | cons m _ ih =>
      obtain ⟨k, v⟩ := m
      refine s.ofMembers_cons_eq_ok_iff.2 ((s.ofMembers_cons_eq_ok_iff.1 h).imp ?_ ?_)
      · exact fun ⟨hnone, h⟩ => ⟨hnone, ih h⟩
      · exact fun ⟨f, g, hfind, hset, hput, h⟩ => ⟨f, g, hfind, hset, hput, ih h⟩
  | swap m m' ms => exact hs.ofMembers_swap h
  | trans _ _ ih ih' => exact ih' (ih h)

variable (hfields : ∀ f ∈ s.fields, f.put.IgnoresOrder)
include hfields

theorem ofMembers_sortedMembers {x y : δ} {ms : Members} (hms : Value.DistinctMembers ms)
    (h : s.ofMembers x ms = .ok y) : s.ofMembers x (Value.sortedMembers ms) = .ok y := by
  induction ms generalizing x with
  | nil => exact h
  | cons m ms ih =>
      obtain ⟨k, v⟩ := m
      refine s.ofMembers_cons_eq_ok_iff.2 ((s.ofMembers_cons_eq_ok_iff.1 h).imp ?_ ?_)
      · exact fun ⟨hnone, h⟩ => ⟨hnone, ih hms.2 h⟩
      · exact fun ⟨f, g, hfind, hset, hput, h⟩ =>
          ⟨f, g, hfind, hset, hfields f (List.mem_of_find?_eq_some hfind) hms.1 hput, ih hms.2 h⟩

omit hfields in
theorem ofItems_sortedItems {fs : List (Field δ)} (hfs : ∀ f ∈ fs, f.put.IgnoresOrder) {x y : δ}
    {vs : List Value} (hvs : Value.DistinctItems vs) (h : ofItems fs x vs = .ok y) :
    ofItems fs x (Value.sortedItems vs) = .ok y := by
  induction vs generalizing fs x with
  | nil => exact h
  | cons v vs ih =>
      cases fs with
      | nil => cases h
      | cons f fs =>
          obtain ⟨hf, hfs⟩ := List.forall_mem_cons.1 hfs
          obtain ⟨g, hg, h⟩ := bind_eq_ok_iff.1 h
          exact bind_eq_ok_iff.2 ⟨g, hf hvs.1 hg, ih hfs hvs.2 h⟩

/-- An object is decoded with its members sorted and in any order. -/
theorem Orderless.ofValue_obj (hs : s.Orderless) {a : α} {ms ms' : Members}
    (h : Value.DistinctMembers ms) (hperm : ms'.Perm (Value.sortedMembers ms))
    (hv : s.ofValue (.obj ms) = .ok a) : s.ofValue (.obj ms') = .ok a := by
  obtain ⟨y, hms, hfinish⟩ := bind_eq_ok_iff.1 hv
  exact bind_eq_ok_iff.2
    ⟨y, hs.ofMembers_perm hperm.symm (ofMembers_sortedMembers hfields h hms), hfinish⟩

/-- **A structure is decoded whatever the order** of its members, at every level. -/
theorem Orderless.ignoresOrder (hs : s.Orderless) : s.decoder.IgnoresOrder := by
  intro v a h hv
  cases v with
  | obj ms =>
      obtain ⟨ms', hsorted, hperm⟩ := Value.sorted_obj_perm h
      rw [hsorted]
      exact hs.ofValue_obj hfields h.2 hperm hv
  | arr vs =>
      simp only [decoder, ofValue] at hv
      split at hv
      · rename_i hpositional
        obtain ⟨y, hvs, hfinish⟩ := bind_eq_ok_iff.1 hv
        simp only [decoder, Value.sorted, ofValue, if_pos hpositional]
        exact bind_eq_ok_iff.2 ⟨y, ofItems_sortedItems hfields h hvs, hfinish⟩
      · cases hv
  | _ => cases hv

end Shape
end Decoder
end Messenger.Json
