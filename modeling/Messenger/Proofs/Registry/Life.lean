import Mathlib.Data.List.Nodup
import Messenger.Proofs.Registry.Round
import Messenger.Stream.Worker

set_option autoImplicit false

/-! # The life of a registry

A registry lives through operations: messages are published, listeners come and go, and now and
then everything is forgotten. A *life* is the registry together with all that could be seen of it,
and with what could be seen since it last forgot everything.

The invariant of every life is `Registry.Settled`. Its heart is that a registered handle is caught
up: the mark of the handle covers every kept message. Timestamps come from senders and need not
grow, so this does not follow from the order of publication; it holds because a registration hands
out whatever the mark does not cover, and a publication raises the marks of all that are
registered. -/

namespace Messenger.Registry

variable {M : Type}

/-- What a program may do with a registry. -/
inductive Operation (M : Type) where
  | publish (message : M)
  | register (id : ListenerId) (listener : Listener M)
  | remove (id : ListenerId)
  | reset

/-- The handles in use during an operation, given those in use before it. -/
def Operation.during : Operation M → List ListenerId → List ListenerId
  | .publish _, ids => ids
  | .register id _, ids => if id ∈ ids then ids else ids ++ [id]
  | .remove id, ids => ids.filter fun i => !decide (i = id)
  | .reset, _ => []

/-- The registrations during an operation, given those before it. -/
def Operation.registrationsDuring :
    Operation M → List (Registration M) → List (Registration M)
  | .publish _, rs => rs
  | .register id l, rs => put id l rs
  | .remove id, rs => without [id] rs
  | .reset, _ => []

theorem Operation.ids_registrationsDuring (o : Operation M) (rs : List (Registration M)) :
    ids (o.registrationsDuring rs) = o.during (ids rs) := by
  cases o with
  | publish m => rfl
  | register id l => exact ids_put id l rs
  | remove id =>
      rw [registrationsDuring, ids_without, during]
      exact List.filter_congr fun i _ => by simp
  | reset => rfl

/-- The message that an operation publishes. -/
def Operation.published : Operation M → List M
  | .publish m => [m]
  | _ => []

/-- The messages that some operations publish, in order. -/
def publications (os : List (Operation M)) : List M := os.flatMap Operation.published

theorem publications_concat (os : List (Operation M)) (o : Operation M) :
    publications (os ++ [o]) = publications os ++ o.published := by
  simp [publications]

/-- Whether an operation is a reset. -/
def Operation.isReset : Operation M → Bool
  | .reset => true
  | _ => false

theorem Operation.eq_reset {o : Operation M} (h : o.isReset = true) : o = .reset := by
  cases o with
  | reset => rfl
  | _ => cases h

/-- A registry together with what could be seen of it. -/
structure Life (M : Type) where
  registry : Registry M
  notices : List (Notice M) := []
  /-- The notices since the last reset. -/
  recent : List (Notice M) := []

variable [Stamped M]

/-- What can be seen of an operation, and the registry after it. -/
def Operation.apply : Operation M → Registry M → List (Notice M) × Registry M
  | .publish m, r => (r.publish m).2
  | .register id l, r => (r.register id l).2
  | .remove id, r => (r.remove id).2
  | .reset, r => ([], r.reset)

namespace Life

/-- The life after one more operation. -/
def next (life : Life M) (o : Operation M) : Life M where
  registry := (o.apply life.registry).2
  notices := life.notices ++ (o.apply life.registry).1
  recent := if o.isReset then [] else life.recent ++ (o.apply life.registry).1

/-- The life of a new registry through some operations. -/
def of (capacity : Nat) (os : List (Operation M)) : Life M :=
  os.foldl next { registry := withCapacity capacity }

theorem of_concat (capacity : Nat) (os : List (Operation M)) (o : Operation M) :
    of capacity (os ++ [o]) = (of capacity os).next o := by
  rw [of, List.foldl_append]
  rfl

/-- What holds of a new registry, and after each operation if before it, holds of every life. -/
theorem of_induction {P : Life M → Prop} (capacity : Nat) (os : List (Operation M))
    (hnew : P { registry := withCapacity capacity })
    (hnext : ∀ life o, P life → P (life.next o)) : P (of capacity os) := by
  induction os using List.reverseRecOn with
  | nil => exact hnew
  | append_singleton os o ih => rw [of_concat]; exact hnext _ o ih

end Life

/-! ## What operations hand out -/

/-- A publication hands its message to each registered listener, in order of registration. -/
theorem handings_publish (m : M) (r : Registry M) :
    handings (r.publish m).2.1
      = r.registrations.map fun k => (k.id, k.listener.label, m) := by
  rw [publish, handings_conclude, List.map_map]
  rfl

/-- A registration hands its listener what the handle missed, in order. -/
theorem handings_register (id : ListenerId) (l : Listener M) (r : Registry M) :
    handings (r.register id l).2.1 = (r.missed id).map fun m => (id, l.label, m) := by
  rw [register, handings_conclude, List.map_map]
  rfl

/-- A publication hands its message to a handle as often as the handle is registered. -/
theorem handedTo_publish (id : ListenerId) (m : M) (r : Registry M) :
    handedTo id (r.publish m).2.1 = ((ids r.registrations).filter (· = id)).map fun _ => m := by
  rw [publish, handedTo_conclude, List.filter_map, List.map_map, ids, List.filter_map, List.map_map]
  rfl

/-- A registration hands out what its handle missed, and nothing to others. -/
theorem handedTo_register (i id : ListenerId) (l : Listener M) (r : Registry M) :
    handedTo i (r.register id l).2.1 = if id = i then r.missed id else [] := by
  rw [register, handedTo_conclude, List.filter_map, List.map_map]
  by_cases h : id = i
  · have hall : (r.missed id).filter ((fun h : Handing M => decide (h.1.id = i)) ∘
        fun m => (⟨id, l⟩, m)) = r.missed id := by
      rw [List.filter_eq_self]
      intro m _
      simpa using h
    rw [hall, if_pos h]
    exact List.map_id' _
  · have hnone : (r.missed id).filter ((fun h : Handing M => decide (h.1.id = i)) ∘
        fun m => (⟨id, l⟩, m)) = [] := by
      rw [List.filter_eq_nil_iff]
      intro m _
      simpa using h
    rw [hnone, if_neg h, List.map_nil]

omit [Stamped M] in
theorem handedTo_remove (i id : ListenerId) (r : Registry M) :
    handedTo i (r.remove id).2.1 = [] := by
  unfold remove
  split
  · exact handedTo_logged i [removed id]
  · rfl

/-- Nodup handles make a publication hand its message to a registered handle exactly once. -/
theorem handedTo_publish_of_nodup {r : Registry M} (hnodup : (ids r.registrations).Nodup)
    (id : ListenerId) (m : M) :
    handedTo id (r.publish m).2.1 = if id ∈ ids r.registrations then [m] else [] := by
  rw [handedTo_publish]
  by_cases hid : id ∈ ids r.registrations
  · have hone : (ids r.registrations).filter (· = id) = [id] := by
      have hcount := List.count_eq_one_of_mem hnodup hid
      rw [List.filter_eq, hcount]
      rfl
    rw [hone, if_pos hid, List.map_cons, List.map_nil]
  · have hnone : (ids r.registrations).filter (· = id) = [] := by
      rw [List.filter_eq_nil_iff]
      intro i hi
      simp only [decide_eq_true_eq]
      rintro rfl
      exact hid hi
    rw [hnone, if_neg hid, List.map_nil]

/-! ## What operations leave -/

omit [Stamped M] in
theorem history_remove (id : ListenerId) (r : Registry M) :
    (r.remove id).2.2.history = r.history := by
  unfold remove
  split <;> rfl

omit [Stamped M] in
theorem marks_remove (id : ListenerId) (r : Registry M) : (r.remove id).2.2.marks = r.marks := by
  unfold remove
  split <;> rfl

omit [Stamped M] in
/-- A removal calls nobody. -/
theorem requestsIn_remove (id : ListenerId) (r : Registry M) :
    requestsIn (r.remove id).2.1 = [] := by
  unfold remove
  split
  · exact requestsIn_logged [removed id]
  · rfl

omit [Stamped M] in
theorem registrations_remove (id : ListenerId) (r : Registry M) :
    (r.remove id).2.2.registrations = without [id] r.registrations := by
  unfold remove
  split
  next => rfl
  next hnot =>
    rw [contains_iff] at hnot
    refine (List.filter_eq_self.2 fun k hk => ?_).symm
    have hne : k.id ≠ id := fun he => hnot (List.mem_map.2 ⟨k, hk, he⟩)
    simp [hne]

omit [Stamped M] in
theorem ids_remove (id : ListenerId) (r : Registry M) :
    ids (r.remove id).2.2.registrations
      = (ids r.registrations).filter fun i => !decide (i = id) := by
  rw [registrations_remove, ids_without]
  exact List.filter_congr fun i _ => by simp

/-- A publication raises the marks of the registered handles. -/
theorem marks_publish (m : M) (r : Registry M) :
    (r.publish m).2.2.marks
      = (ids r.registrations).foldl (fun marks id => marks.raise id (Stamped.timestamp m))
          r.marks := by
  simp only [publish, conclude, raiseAll, ids, List.foldl_map]

/-- A registration raises the mark of its handle by what the handle missed. -/
theorem marks_register (id : ListenerId) (l : Listener M) (r : Registry M) :
    (r.register id l).2.2.marks
      = (r.missed id).foldl (fun marks m => marks.raise id (Stamped.timestamp m)) r.marks := by
  simp only [register, conclude, raiseAll, List.foldl_map]

/-- What is kept after an operation was kept before it or is published by it. -/
theorem history_apply_sublist (o : Operation M) (r : Registry M) :
    (o.apply r).2.history.Sublist (r.history ++ o.published) := by
  cases o with
  | publish m =>
      show (r.keep m).Sublist (r.history ++ [m])
      unfold keep
      refine List.Sublist.append ?_ (List.Sublist.refl _)
      split
      · exact List.drop_sublist 1 _
      · exact List.Sublist.refl _
  | register id l => exact List.sublist_append_left _ _
  | remove id =>
      simp only [Operation.apply, history_remove]
      exact List.sublist_append_left _ _
  | reset => exact List.nil_sublist _

/-- After an operation exactly the registrations are gone whose removal a listener requested, unless
a request to reset followed. -/
theorem registrations_apply (o : Operation M) (r : Registry M) (hr : r.deferred = []) :
    (o.apply r).2.registrations
      = without (removals (sinceReset (requestsIn (o.apply r).1)))
          (o.registrationsDuring r.registrations) := by
  cases o with
  | publish m => exact registrations_conclude _ _ _ _ hr
  | register id l => exact registrations_conclude _ _ _ _ hr
  | remove id =>
      simp only [Operation.apply, Operation.registrationsDuring, requestsIn_remove,
        registrations_remove]
      exact (List.filter_eq_self.2 fun _ _ => rfl).symm
  | reset => rfl

/-- After an operation exactly the handles are gone whose removal a listener requested, unless a
request to reset followed. -/
theorem ids_apply (o : Operation M) (r : Registry M) (hr : r.deferred = []) :
    ids (o.apply r).2.registrations
      = (o.during (ids r.registrations)).filter fun id =>
          !(removals (sinceReset (requestsIn (o.apply r).1))).contains id := by
  rw [registrations_apply o r hr, ids_without, Operation.ids_registrationsDuring]

theorem deferred_apply (o : Operation M) (r : Registry M) (hr : r.deferred = []) :
    (o.apply r).2.deferred = [] := by
  cases o with
  | publish m => rfl
  | register id l => rfl
  | remove id =>
      simp only [Operation.apply, remove]
      split <;> exact hr
  | reset => rfl

/-- An operation covers what was covered before, unless it is a reset, and what it hands out. -/
theorem covers_apply (o : Operation M) (r : Registry M) (id : ListenerId) (t : Int64) :
    (o.apply r).2.marks.Covers id t
      ↔ (o.isReset = false ∧ r.marks.Covers id t)
        ∨ ∃ m ∈ handedTo id (o.apply r).1, t ≤ Stamped.timestamp m := by
  have hround : ∀ hs : List (Handing M), (raiseAll r.marks hs).Covers id t
      ↔ r.marks.Covers id t
        ∨ ∃ m ∈ (hs.filter fun h => h.1.id = id).map (·.2), t ≤ Stamped.timestamp m := by
    intro hs
    rw [covers_raiseAll]
    refine or_congr_right ⟨?_, ?_⟩
    · rintro ⟨h, hh, hid, ht⟩
      exact ⟨h.2, List.mem_map_of_mem (List.mem_filter.2 ⟨hh, by simpa using hid⟩), ht⟩
    · rintro ⟨m, hm, ht⟩
      obtain ⟨h, hh, rfl⟩ := List.mem_map.1 hm
      rw [List.mem_filter, decide_eq_true_eq] at hh
      exact ⟨h, hh.1, hh.2, ht⟩
  cases o with
  | publish m =>
      simp only [Operation.apply, Operation.isReset, publish, handedTo_conclude, true_and]
      exact hround _
  | register i l =>
      simp only [Operation.apply, Operation.isReset, register, handedTo_conclude, true_and]
      exact hround _
  | remove i =>
      simp only [Operation.apply, Operation.isReset, handedTo_remove, marks_remove, true_and,
        List.not_mem_nil, false_and, exists_false, or_false]
  | reset =>
      simp only [Operation.apply, Operation.isReset, reset, handedTo_nil, Bool.true_eq_false,
        false_and, List.not_mem_nil, exists_false, or_false, iff_false]
      exact Marks.not_covers_nil id t

/-! ## The invariant -/

/-- A registry between operations: no removal waits, no handle is registered twice, and the mark of
a registered handle covers every kept message. -/
structure Settled (r : Registry M) : Prop where
  deferred_eq : r.deferred = []
  nodup : (ids r.registrations).Nodup
  caughtUp : ∀ id ∈ ids r.registrations, ∀ m ∈ r.history, r.marks.Covers id (Stamped.timestamp m)

theorem settled_withCapacity (capacity : Nat) : (withCapacity capacity : Registry M).Settled where
  deferred_eq := rfl
  nodup := List.nodup_nil
  caughtUp := by
    intro id hid
    simp [withCapacity, ids] at hid

omit [Stamped M] in
theorem nodup_during (o : Operation M) {is : List ListenerId} (his : is.Nodup) :
    (o.during is).Nodup := by
  cases o with
  | publish m => exact his
  | register id l =>
      by_cases hid : id ∈ is
      · simpa [Operation.during, hid] using his
      · simp only [Operation.during, if_neg hid]
        exact his.append (List.nodup_singleton id) (List.disjoint_singleton.2 hid)
  | remove id => exact his.filter _
  | reset => exact List.nodup_nil

/-- A handle that an operation leaves registered was in use during the operation. -/
theorem mem_during_of_mem_apply (o : Operation M) {r : Registry M} (hr : r.deferred = [])
    {id : ListenerId} (hid : id ∈ ids (o.apply r).2.registrations) :
    id ∈ o.during (ids r.registrations) := by
  rw [ids_apply o r hr] at hid
  exact (List.mem_filter.1 hid).1

/-- A handle in use during an operation is caught up after it. -/
theorem Settled.covers_during {r : Registry M} (hr : r.Settled) (o : Operation M)
    {id : ListenerId} (hid : id ∈ o.during (ids r.registrations)) {m : M}
    (hm : m ∈ (o.apply r).2.history) :
    (o.apply r).2.marks.Covers id (Stamped.timestamp m) := by
  have hpool := List.mem_append.1 ((history_apply_sublist o r).subset hm)
  rw [covers_apply]
  cases o with
  | publish k =>
      rcases hpool with hm | hm
      · exact Or.inl ⟨rfl, hr.caughtUp id hid m hm⟩
      · obtain rfl := List.mem_singleton.1 hm
        refine Or.inr ⟨m, ?_, Int64.le_refl _⟩
        rw [Operation.apply, handedTo_publish_of_nodup hr.nodup]
        rw [if_pos (show id ∈ ids r.registrations from hid)]
        exact List.mem_singleton_self m
  | register i l =>
      have hm : m ∈ r.history := hpool.resolve_right List.not_mem_nil
      -- What the mark does not cover yet, the registration hands out.
      by_cases hcov : r.marks.Covers id (Stamped.timestamp m)
      · exact Or.inl ⟨rfl, hcov⟩
      · have hold : id ∉ ids r.registrations := fun hold => hcov (hr.caughtUp id hold m hm)
        have hi : i = id := by
          by_contra hne
          simp only [Operation.during] at hid
          split at hid
          · exact hold hid
          · simp [hold, Ne.symm hne] at hid
        refine Or.inr ⟨m, ?_, Int64.le_refl _⟩
        rw [Operation.apply, handedTo_register, if_pos hi, mem_missed, hi]
        exact ⟨hm, hcov⟩
  | remove i =>
      have hm : m ∈ r.history := hpool.resolve_right List.not_mem_nil
      exact Or.inl ⟨rfl, hr.caughtUp id (List.mem_filter.1 hid).1 m hm⟩
  | reset => exact absurd hid List.not_mem_nil

/-- **Each operation leaves a settled registry settled.** -/
theorem Settled.apply {r : Registry M} (hr : r.Settled) (o : Operation M) :
    (o.apply r).2.Settled where
  deferred_eq := deferred_apply o r hr.deferred_eq
  nodup := by
    rw [ids_apply o r hr.deferred_eq]
    exact (nodup_during o hr.nodup).filter _
  caughtUp := fun _ hid _ hm =>
    hr.covers_during o (mem_during_of_mem_apply o hr.deferred_eq hid) hm

/-- **Every life is settled between its operations.** -/
theorem Life.settled (capacity : Nat) (os : List (Operation M)) :
    (Life.of capacity os).registry.Settled :=
  Life.of_induction (P := fun life => life.registry.Settled) capacity os
    (settled_withCapacity capacity) fun _ o h => h.apply o

/-- **The meaning of marks.** In every life the mark of a handle covers exactly what is not newer
than something handed to the handle since the last reset. -/
theorem Life.covers_iff (capacity : Nat) (os : List (Operation M)) (id : ListenerId) (t : Int64) :
    (Life.of capacity os).registry.marks.Covers id t
      ↔ ∃ m ∈ handedTo id (Life.of capacity os).recent, t ≤ Stamped.timestamp m := by
  refine Life.of_induction
    (P := fun life => life.registry.marks.Covers id t
      ↔ ∃ m ∈ handedTo id life.recent, t ≤ Stamped.timestamp m) capacity os ?_ ?_
  · simp only [handedTo_nil, List.not_mem_nil, false_and, exists_false, iff_false]
    exact Marks.not_covers_nil id t
  · intro life o ih
    rw [Life.next, covers_apply, ih]
    cases hreset : o.isReset with
    | true =>
        rw [Operation.eq_reset hreset]
        simp [Operation.apply]
    | false => simp only [true_and, Bool.false_eq_true, if_false, handedTo_append, List.mem_append,
        or_and_right, exists_or]

/-! ## What is handed to a handle -/

/-- What an operation hands to a handle was kept before it or is published by it, in that order. -/
theorem Settled.handed_sublist {r : Registry M} (hr : r.Settled) (o : Operation M)
    (id : ListenerId) : (handedTo id (o.apply r).1).Sublist (r.history ++ o.published) := by
  cases o with
  | publish m =>
      rw [Operation.apply, handedTo_publish_of_nodup hr.nodup]
      split
      · exact List.sublist_append_right _ _
      · exact List.nil_sublist _
  | register i l =>
      rw [Operation.apply, handedTo_register]
      split
      · exact List.filter_sublist.trans (List.sublist_append_left _ _)
      · exact List.nil_sublist _
  | remove i =>
      rw [Operation.apply, handedTo_remove]
      exact List.nil_sublist _
  | reset => exact List.nil_sublist _

/-- Only to a handle that is in use during an operation the operation hands anything. -/
theorem mem_during_of_handed (o : Operation M) {r : Registry M} {id : ListenerId} {m : M}
    (hm : m ∈ handedTo id (o.apply r).1) : id ∈ o.during (ids r.registrations) := by
  cases o with
  | publish k =>
      rw [Operation.apply, handedTo_publish] at hm
      obtain ⟨i, hi, _⟩ := List.mem_map.1 hm
      rw [List.mem_filter, decide_eq_true_eq] at hi
      exact hi.2 ▸ hi.1
  | register i l =>
      rw [Operation.apply, handedTo_register] at hm
      by_cases hi : i = id
      · subst hi
        simp only [Operation.during]
        split
        · assumption
        · exact List.mem_append_right _ (List.mem_singleton_self i)
      · rw [if_neg hi] at hm
        exact absurd hm List.not_mem_nil
  | remove i =>
      rw [Operation.apply, handedTo_remove] at hm
      exact absurd hm List.not_mem_nil
  | reset => exact absurd hm List.not_mem_nil

/-- What an operation hands out without publishing it was kept and not covered. -/
theorem not_covers_of_handed (o : Operation M) {r : Registry M} {id : ListenerId} {m : M}
    (hm : m ∈ handedTo id (o.apply r).1) :
    m ∈ o.published ∨ ¬ r.marks.Covers id (Stamped.timestamp m) := by
  cases o with
  | publish k =>
      rw [Operation.apply, handedTo_publish] at hm
      obtain ⟨i, _, rfl⟩ := List.mem_map.1 hm
      exact Or.inl (List.mem_singleton_self k)
  | register i l =>
      rw [Operation.apply, handedTo_register] at hm
      by_cases hi : i = id
      · rw [if_pos hi, mem_missed, hi] at hm
        exact Or.inr hm.2
      · rw [if_neg hi] at hm
        exact absurd hm List.not_mem_nil
  | remove i =>
      rw [Operation.apply, handedTo_remove] at hm
      exact absurd hm List.not_mem_nil
  | reset => exact absurd hm List.not_mem_nil

/-! ## A handle that stays registered -/

/-- Whether others may do something beside the one who publishes: they register listeners and
remove handles. -/
def Operation.isBeside : Operation M → Bool
  | .publish _ => false
  | .register _ _ => true
  | .remove _ => true
  | .reset => false

/-- A handle that is registered has missed nothing. -/
theorem Settled.missed_eq_nil {r : Registry M} (hr : r.Settled) {id : ListenerId}
    (hid : id ∈ ids r.registrations) : r.missed id = [] := by
  rw [List.eq_nil_iff_forall_not_mem]
  intro m hm
  rw [mem_missed] at hm
  exact hm.2 (hr.caughtUp id hid m hm.1)

/-- What others do hands nothing to a registered handle, even if another listener takes its place
under it. -/
theorem Settled.handedTo_beside {r : Registry M} (hr : r.Settled) {id : ListenerId}
    (hid : id ∈ ids r.registrations) {o : Operation M} (ho : o.isBeside = true) :
    handedTo id (o.apply r).1 = [] := by
  cases o with
  | publish m => cases ho
  | register i l =>
      rw [Operation.apply, handedTo_register]
      by_cases hi : i = id
      · rw [if_pos hi, hi, hr.missed_eq_nil hid]
      · rw [if_neg hi]
  | remove i => exact handedTo_remove id i r
  | reset => cases ho

/-! ## Messages and listeners for examples -/

/-- A text that was sent at a time. -/
def sentAt (t : Int64) : Message where
  envelope := {
    account := "+1555", sourceNumber := "", sourceUuid := "", sourceName := ""
    timestamp := t, groupId := none, groupName := none }
  content := .text "" false (-1)

/-- A listener that accepts every message and asks for nothing. -/
def accepting : Listener Message := ⟨"a", fun _ _ => ([], .accepted)⟩

end Messenger.Registry
