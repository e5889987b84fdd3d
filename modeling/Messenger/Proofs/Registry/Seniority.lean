import Messenger.Proofs.Registry.Life

set_option autoImplicit false

/-! # The order of calls

A message is handed to the listeners in the order in which their handles came into use, each handle
once (`called_by_seniority`). What counts is when a handle came into use for the last time: putting
another listener under a handle in use does not move it, while a handle that was removed starts
again at the end. Removals, at once or after a round, leave the others in their order.

The operation at which a handle *joined* is found by looking at the handles in use after each
operation, so nothing that a registry keeps tells it but whether a handle is in use. -/

namespace Messenger.Registry

variable {M : Type}

/-! ## One operation -/

theorem mem_of_mem_during {o : Operation M} {is : List ListenerId} {id : ListenerId}
    (hid : id ∈ o.during is) : id ∈ is ∨ ∃ l, o = .register id l := by
  cases o with
  | publish m => exact Or.inl hid
  | register i l =>
      by_cases hi : i ∈ is
      · rw [Operation.during, if_pos hi] at hid
        exact Or.inl hid
      · rw [Operation.during, if_neg hi, List.mem_append, List.mem_singleton] at hid
        rcases hid with hid | rfl
        · exact Or.inl hid
        · exact Or.inr ⟨l, rfl⟩
  | remove i => exact Or.inl (List.mem_filter.1 hid).1
  | reset => exact absurd hid List.not_mem_nil

/-- An operation leaves the handles in their order, and one that comes into use is the last. -/
theorem pairwise_during {R : ListenerId → ListenerId → Prop} (o : Operation M)
    {is : List ListenerId} (hold : is.Pairwise R) (hnew : ∀ i ∈ is, ∀ id ∉ is, R i id) :
    (o.during is).Pairwise R := by
  cases o with
  | publish m => exact hold
  | register id l =>
      by_cases hid : id ∈ is
      · rwa [Operation.during, if_pos hid]
      · rw [Operation.during, if_neg hid, List.pairwise_append]
        refine ⟨hold, List.pairwise_singleton R id, fun i hi j hj => ?_⟩
        obtain rfl := List.mem_singleton.1 hj
        exact hnew i hi j hid
  | remove id => exact hold.filter _
  | reset => exact .nil

/-- A listener that is put under a handle in use stands where the one before it stood. -/
theorem put_of_mem {rs : List (Registration M)} (hnodup : (ids rs).Nodup) {id : ListenerId}
    (hid : id ∈ ids rs) (l : Listener M) :
    put id l rs = rs.map fun k => if k.id = id then ⟨id, l⟩ else k := by
  induction rs with
  | nil => exact absurd hid List.not_mem_nil
  | cons r rs ih =>
      obtain ⟨hr, hnodup⟩ := List.nodup_cons.1 hnodup
      by_cases h : r.id = id
      · -- No other registration is under the handle, so the rest stays.
        have hothers : rs.map (fun k => if k.id = id then ⟨id, l⟩ else k) = rs.map fun k => k := by
          refine List.map_congr_left fun k hk => if_neg fun hkid => hr ?_
          exact List.mem_map.2 ⟨k, hk, hkid.trans h.symm⟩
        rw [put, if_pos h, List.map_cons, if_pos h, hothers, List.map_id']
      · have hid : id ∈ ids rs := (List.mem_cons.1 hid).resolve_left (Ne.symm h)
        rw [put, if_neg h, List.map_cons, if_neg h, ih hnodup hid]

variable [Stamped M]

/-- Putting a listener under a handle in use calls nobody, and so removes nobody. -/
theorem Settled.registrations_register {r : Registry M} (hr : r.Settled) {id : ListenerId}
    (hid : id ∈ ids r.registrations) (l : Listener M) :
    (r.register id l).2.2.registrations
      = r.registrations.map fun k => if k.id = id then ⟨id, l⟩ else k := by
  have hquiet : (r.register id l).2.2.registrations = without [] (put id l r.registrations) := by
    simp only [register, hr.missed_eq_nil hid, List.map_nil, conclude, runRound, hr.deferred_eq]
  rw [hquiet, put_of_mem hr.nodup hid]
  exact List.filter_eq_self.2 fun _ _ => rfl

/-- A handle that is removed and comes back is the last one, unless it is removed again while its
listener catches up. -/
theorem ids_remove_register {r : Registry M} (hr : r.Settled) (id : ListenerId)
    (l : Listener M) :
    let back := (Operation.register id l).apply ((Operation.remove id).apply r).2
    ids back.2.registrations
      = ((ids r.registrations).filter (· ≠ id) ++ [id]).filter fun i =>
          i ∉ removals (sinceReset (requestsIn back.1)) := by
  intro back
  have hremoved : ids ((Operation.remove id).apply r).2.registrations
      = (ids r.registrations).filter (· ≠ id) := by
    rw [Operation.apply, ids_remove]
    exact List.filter_congr fun i _ => by simp
  have hgone : id ∉ (ids r.registrations).filter (· ≠ id) := by simp
  rw [ids_apply _ _ (deferred_apply _ r hr.deferred_eq), hremoved, Operation.during, if_neg hgone]
  exact List.filter_congr fun i _ => by simp [back]

/-- Handles that were in use before an operation, and are after it, are in the same order. -/
theorem filter_ids_apply_sublist {r : Registry M} (hr : r.Settled) (o : Operation M) :
    ((ids (o.apply r).2.registrations).filter (· ∈ ids r.registrations)).Sublist
      (ids r.registrations) := by
  have hduring : ((o.during (ids r.registrations)).filter (· ∈ ids r.registrations)).Sublist
      (ids r.registrations) := by
    cases o with
    | publish m => exact List.filter_sublist
    | register id l =>
        by_cases hid : id ∈ ids r.registrations
        · rw [Operation.during, if_pos hid]
          exact List.filter_sublist
        · have hnew : [id].filter (· ∈ ids r.registrations) = [] := by simp [hid]
          rw [Operation.during, if_neg hid, List.filter_append, hnew, List.append_nil]
          exact List.filter_sublist
    | remove id => exact List.filter_sublist.trans List.filter_sublist
    | reset => exact List.nil_sublist _
  rw [ids_apply o r hr.deferred_eq]
  exact (List.filter_sublist.filter _).trans hduring

/-! ## When a handle joined -/

/-- The handles in use after the first `n` of some operations, in their order. -/
def usedAfter (capacity : Nat) (os : List (Operation M)) (n : Nat) : List ListenerId :=
  ids (Life.of capacity (os.take n)).registry.registrations

/-- A handle came into use at operation `n`, counted from zero, and has been in use since then. -/
structure JoinedAt (capacity : Nat) (os : List (Operation M)) (id : ListenerId) (n : Nat) :
    Prop where
  lt : n < os.length
  absent : id ∉ usedAfter capacity os n
  present : ∀ k < os.length, n ≤ k → id ∈ usedAfter capacity os (k + 1)

instance (capacity : Nat) (os : List (Operation M)) (id : ListenerId) (n : Nat) :
    Decidable (JoinedAt capacity os id n) :=
  decidable_of_iff (n < os.length ∧ id ∉ usedAfter capacity os n
      ∧ ∀ k < os.length, n ≤ k → id ∈ usedAfter capacity os (k + 1))
    ⟨fun ⟨hlt, habsent, hpresent⟩ => ⟨hlt, habsent, hpresent⟩,
      fun h => ⟨h.lt, h.absent, h.present⟩⟩

section Joining

variable {capacity : Nat} {os : List (Operation M)} {o : Operation M} {id : ListenerId} {n : Nat}

theorem usedAfter_length :
    usedAfter capacity os os.length = ids (Life.of capacity os).registry.registrations := by
  rw [usedAfter, List.take_length]

theorem usedAfter_concat (hn : n ≤ os.length) :
    usedAfter capacity (os ++ [o]) n = usedAfter capacity os n := by
  rw [usedAfter, List.take_append_of_le_length hn, usedAfter]

theorem usedAfter_concat_length :
    usedAfter capacity (os ++ [o]) (os.length + 1)
      = ids (Life.of capacity (os ++ [o])).registry.registrations := by
  rw [← usedAfter_length, List.length_append, List.length_singleton]

theorem JoinedAt.mem (h : JoinedAt capacity os id n) :
    id ∈ ids (Life.of capacity os).registry.registrations := by
  have hlt := h.lt
  have hlast := h.present (os.length - 1) (by omega) (by omega)
  rwa [Nat.sub_add_cancel (by omega), usedAfter_length] at hlast

/-- After one more operation, a handle in use joined when it joined before, or with the operation if
it was not in use. -/
theorem joinedAt_concat_iff :
    JoinedAt capacity (os ++ [o]) id n
      ↔ id ∈ ids (Life.of capacity (os ++ [o])).registry.registrations
        ∧ (JoinedAt capacity os id n
          ∨ n = os.length ∧ id ∉ ids (Life.of capacity os).registry.registrations) := by
  constructor
  · intro h
    refine ⟨h.mem, ?_⟩
    have hlt := h.lt
    rw [List.length_append, List.length_singleton] at hlt
    rcases Nat.lt_succ_iff_lt_or_eq.1 hlt with hn | rfl
    · refine Or.inl ⟨hn, ?_, fun k hk hnk => ?_⟩
      · rw [← usedAfter_concat (o := o) hn.le]
        exact h.absent
      · rw [← usedAfter_concat (o := o) hk]
        exact h.present k (by rw [List.length_append]; omega) hnk
    · refine Or.inr ⟨rfl, ?_⟩
      rw [← usedAfter_length, ← usedAfter_concat (o := o) le_rfl]
      exact h.absent
  · rintro ⟨hmem, hjoined⟩
    have hn : n ≤ os.length := hjoined.elim (fun h => h.lt.le) fun h => h.1.le
    refine ⟨by rw [List.length_append, List.length_singleton]; omega, ?_, fun k hk hnk => ?_⟩
    · rw [usedAfter_concat hn]
      rcases hjoined with h | ⟨rfl, habsent⟩
      · exact h.absent
      · rwa [usedAfter_length]
    · rw [List.length_append, List.length_singleton] at hk
      rcases Nat.lt_succ_iff_lt_or_eq.1 hk with hk | rfl
      · -- Before the last operation the handle was in use, so it had joined then.
        have h : JoinedAt capacity os id n :=
          hjoined.resolve_right fun h => absurd (h.1 ▸ hnk) (by omega)
        rw [usedAfter_concat hk]
        exact h.present k hk hnk
      · rwa [usedAfter_concat_length]

/-- Each handle in use joined when a listener was registered under it. -/
theorem exists_joinedAt (hid : id ∈ ids (Life.of capacity os).registry.registrations) :
    ∃ n l, os[n]? = some (.register id l) ∧ JoinedAt capacity os id n := by
  induction os using List.reverseRecOn with
  | nil => exact absurd hid List.not_mem_nil
  | append_singleton os o ih =>
      have hduring : id ∈ o.during (ids (Life.of capacity os).registry.registrations) := by
        rw [Life.of_concat] at hid
        exact mem_during_of_mem_apply o (Life.settled capacity os).deferred_eq hid
      by_cases hold : id ∈ ids (Life.of capacity os).registry.registrations
      · obtain ⟨n, l, hn, hjoined⟩ := ih hold
        refine ⟨n, l, ?_, joinedAt_concat_iff.2 ⟨hid, Or.inl hjoined⟩⟩
        rw [List.getElem?_append_left hjoined.lt, hn]
      · obtain ⟨l, rfl⟩ := (mem_of_mem_during hduring).resolve_left hold
        exact ⟨os.length, l, List.getElem?_concat_length,
          joinedAt_concat_iff.2 ⟨hid, Or.inr ⟨rfl, hold⟩⟩⟩

end Joining

/-- A handle that joined before another one. -/
def Senior (capacity : Nat) (os : List (Operation M)) (i j : ListenerId) : Prop :=
  ∀ m n, JoinedAt capacity os i m → JoinedAt capacity os j n → m < n

/-- The handles in use are in the order in which they joined. -/
theorem pairwise_senior (capacity : Nat) (os : List (Operation M)) :
    (ids (Life.of capacity os).registry.registrations).Pairwise (Senior capacity os) := by
  induction os using List.reverseRecOn with
  | nil => exact .nil
  | append_singleton os o ih =>
      have hsettled := Life.settled capacity os
      -- A handle that was in use keeps the operation at which it joined.
      have hkept : ∀ i ∈ ids (Life.of capacity os).registry.registrations, ∀ m,
          JoinedAt capacity (os ++ [o]) i m → JoinedAt capacity os i m := fun i hi m h =>
        (joinedAt_concat_iff.1 h).2.resolve_right fun h => h.2 hi
      rw [Life.of_concat, Life.next, ids_apply o _ hsettled.deferred_eq]
      refine (pairwise_during o (ih.imp_of_mem fun hi hj hij m n hm hn => ?_)
        fun i hi j hj m n hm hn => ?_).filter _
      · exact hij m n (hkept _ hi m hm) (hkept _ hj n hn)
      · rcases (joinedAt_concat_iff.1 hn).2 with h | ⟨rfl, -⟩
        · exact absurd h.mem hj
        · exact (hkept i hi m hm).lt

/-- **Listeners are called by seniority.** In every life no handle is in use twice, and a
publication calls the handles in use in the order in which they last came into use, each when a
listener was registered under it. A listener that is registered under a handle in use takes the
place of the one before it. A handle that is removed and registered again is the last one, unless
its listener asks for its removal while it catches up. Whatever an operation removes, the others
stay in their order. -/
theorem called_by_seniority (capacity : Nat) (os : List (Operation M)) :
    let r := (Life.of capacity os).registry
    (ids r.registrations).Nodup
      ∧ (∀ id ∈ ids r.registrations,
          ∃ n l, os[n]? = some (.register id l) ∧ JoinedAt capacity os id n)
      ∧ (ids r.registrations).Pairwise (fun i j =>
          ∀ m n, JoinedAt capacity os i m → JoinedAt capacity os j n → m < n)
      ∧ (∀ m, handings ((Operation.publish m).apply r).1
          = r.registrations.map fun k => (k.id, k.listener.label, m))
      ∧ (∀ id ∈ ids r.registrations, ∀ l,
          ((Operation.register id l).apply r).2.registrations
            = r.registrations.map fun k => if k.id = id then ⟨id, l⟩ else k)
      ∧ (∀ id l, let back := (Operation.register id l).apply ((Operation.remove id).apply r).2
          ids back.2.registrations
            = ((ids r.registrations).filter (· ≠ id) ++ [id]).filter fun i =>
                i ∉ removals (sinceReset (requestsIn back.1)))
      ∧ ∀ o : Operation M,
          ((ids (o.apply r).2.registrations).filter (· ∈ ids r.registrations)).Sublist
            (ids r.registrations) := by
  intro r
  have hr : r.Settled := Life.settled capacity os
  exact ⟨hr.nodup, fun _ hid => exists_joinedAt hid, pairwise_senior capacity os,
    fun m => handings_publish m r, fun _ hid l => hr.registrations_register hid l,
    ids_remove_register hr, filter_ids_apply_sublist hr⟩

/-- A listener that asks for its own removal, twice, and for that of `b`. -/
def disruptive : Listener Message :=
  ⟨"c", fun _ _ => ([.remove ⟨"c"⟩, .remove ⟨"b"⟩, .remove ⟨"c"⟩], .accepted)⟩

/-- Of four listeners the third one makes the second one leave and leaves itself. The second one
comes back behind the fourth, and the first one is replaced where it stands. -/
theorem called_by_seniority_after_disruption :
    let os : List (Operation Message) :=
      [.register ⟨"a"⟩ accepting, .register ⟨"b"⟩ accepting, .register ⟨"c"⟩ disruptive,
        .register ⟨"d"⟩ accepting, .publish (sentAt 1), .register ⟨"b"⟩ accepting,
        .register ⟨"a"⟩ disruptive]
    let r := (Life.of 1 os).registry
    ids r.registrations = [⟨"a"⟩, ⟨"d"⟩, ⟨"b"⟩]
      ∧ (∃ n l, os[n]? = some (.register ⟨"a"⟩ l) ∧ JoinedAt 1 os ⟨"a"⟩ n)
      ∧ JoinedAt 1 os ⟨"d"⟩ 3 ∧ JoinedAt 1 os ⟨"b"⟩ 5 ∧ 3 < 5
      ∧ ((Operation.register ⟨"d"⟩ disruptive).apply r).2.registrations
        = r.registrations.map fun k => if k.id = ⟨"d"⟩ then ⟨⟨"d"⟩, disruptive⟩ else k := by
  intro os r
  have hids : ids r.registrations = [⟨"a"⟩, ⟨"d"⟩, ⟨"b"⟩] := by decide
  have hd : JoinedAt 1 os ⟨"d"⟩ 3 := by decide
  have hb : JoinedAt 1 os ⟨"b"⟩ 5 := by decide
  obtain ⟨-, hjoined, horder, -, hreplaced, -⟩ := called_by_seniority 1 os
  have hlast : ∀ m n, JoinedAt 1 os ⟨"d"⟩ m → JoinedAt 1 os ⟨"b"⟩ n → m < n := by
    rw [hids] at horder
    exact (List.pairwise_cons.1 (List.pairwise_cons.1 horder).2).1 _ (List.mem_singleton_self _)
  exact ⟨hids, hjoined _ (by decide), hd, hb, hlast 3 5 hd hb, hreplaced _ (by decide) disruptive⟩

end Messenger.Registry
