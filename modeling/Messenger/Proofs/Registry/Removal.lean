import Messenger.Proofs.Registry.Life

set_option autoImplicit false

/-! # Removals end with their round

A removal that is requested while listeners are called waits for the end of the round, and no
longer: it is carried out then, unless a request to reset followed, and nothing is left waiting when
the operation ends (`removals_end_with_their_round`). So a listener that is registered later has
nothing to fear from it. It stays under its handle until an operation of its own round or after it
takes the handle away. Here listeners turn to the registry only while they are called. -/

namespace Messenger

variable {M : Type}

/-- The handle that was removed at the end of a round, if a notice tells of that. -/
def Notice.carriedOut? : Notice M → Option ListenerId
  | .logged record =>
    if record.message = "listener removed after delivery" then
      (record.fields.lookup "listener").map ListenerId.mk
    else none
  | _ => none

/-- The handles that were removed at the ends of rounds, in order. -/
def carriedOut (notices : List (Notice M)) : List ListenerId :=
  notices.filterMap Notice.carriedOut?

namespace Registry

/-! ## What a round carries out -/

theorem carriedOut_append (ns ms : List (Notice M)) :
    carriedOut (ns ++ ms) = carriedOut ns ++ carriedOut ms :=
  List.filterMap_append

theorem carriedOut_logged {log : List LogRecord}
    (h : ∀ record ∈ log, record.message ≠ "listener removed after delivery") :
    carriedOut (log.map (Notice.logged : LogRecord → Notice M)) = [] := by
  refine List.filterMap_eq_nil_iff.2 fun n hn => ?_
  obtain ⟨record, hrecord, rfl⟩ := List.mem_map.1 hn
  exact if_neg (h record hrecord)

theorem carriedOut_logged_removedAfter (gone : List ListenerId) :
    carriedOut ((gone.map removedAfter).map (Notice.logged : LogRecord → Notice M)) = gone := by
  induction gone with
  | nil => rfl
  | cons id gone ih => exact congrArg (id :: ·) ih

/-- Requests from inside a call remove nobody yet. -/
theorem message_ne_of_recordsInside {request : Request M} {record : LogRecord}
    (h : record ∈ recordsInside request) : record.message ≠ "listener removed after delivery" := by
  have hrefused (op : String) : (refused op).message ≠ "listener removed after delivery" := by
    simp [refused, LogRecord.error]
  cases request with
  | publish m => exact List.mem_singleton.1 h ▸ hrefused _
  | publishAll ms =>
      obtain ⟨_, -, rfl⟩ := List.mem_map.1 h
      exact hrefused _
  | register id => exact List.mem_singleton.1 h ▸ hrefused _
  | registerFresh => exact List.mem_singleton.1 h ▸ hrefused _
  | remove id =>
      rw [List.mem_singleton.1 h]
      simp [removalDeferred, LogRecord.debug]
  | reset => exact List.mem_singleton.1 h ▸ hrefused _
  | _ => cases h

theorem carriedOut_noticesInside (capacity : Nat) (label : String) (requests : List (Request M)) :
    carriedOut (noticesInside capacity label requests) = [] := by
  unfold noticesInside
  induction requests with
  | nil => rfl
  | cons request requests ih =>
      rw [List.flatMap_cons, carriedOut_append, carriedOut_append,
        carriedOut_logged fun _ h => message_ne_of_recordsInside h, ih]
      rfl

variable [Stamped M]

theorem carriedOut_hand (capacity moment : Nat) (h : Handing M) (deferred : List ListenerId) :
    carriedOut (hand capacity moment h deferred).notices = [] := by
  have houtcome (outcome : Outcome) : carriedOut
      ((outcomeRecords h.1.id h.2 outcome).map (Notice.logged : LogRecord → Notice M)) = [] := by
    cases outcome <;> rfl
  simp only [hand, List.cons_append]
  rw [← List.singleton_append, carriedOut_append, carriedOut_append, carriedOut_noticesInside,
    houtcome]
  rfl

theorem carriedOut_runRound (capacity : Nat) (hs : List (Handing M)) (moment : Nat)
    (deferred : List ListenerId) :
    carriedOut (runRound capacity moment hs deferred).notices = [] := by
  induction hs generalizing moment deferred with
  | nil => rfl
  | cons h hs ih => rw [runRound, carriedOut_append, carriedOut_hand, ih, List.append_nil]

/-- At the end of a round the removals are carried out that were requested in it, in that order,
unless a request to reset followed. -/
theorem carriedOut_conclude {α : Type} (r : Registry M) (hs : List (Handing M))
    (result : Nat → α) (record : Nat → LogRecord) (hr : r.deferred = [])
    (hrecord : ∀ n, (record n).message ≠ "listener removed after delivery") :
    carriedOut (conclude r hs result record).2.1
      = removals (sinceReset (requestsIn (conclude r hs result record).2.1)) := by
  have hgone : (runRound r.capacity r.moment hs r.deferred).deferred
      = removals (sinceReset (requestsIn (conclude r hs result record).2.1)) := by
    rw [deferred_runRound, requestsIn_conclude, hr, foldl_deferInside]
  have hown (n : Nat) : carriedOut ([record n].map (Notice.logged : LogRecord → Notice M)) = [] :=
    carriedOut_logged (List.forall_mem_singleton.2 (hrecord n))
  rw [← hgone, conclude, ← List.singleton_append, List.map_append, carriedOut_append,
    carriedOut_append, carriedOut_runRound, hown, carriedOut_logged_removedAfter]
  rfl

theorem carriedOut_apply (o : Operation M) {r : Registry M} (hr : r.deferred = []) :
    carriedOut (o.apply r).1 = removals (sinceReset (requestsIn (o.apply r).1)) := by
  cases o with
  | publish m =>
      exact carriedOut_conclude _ _ _ _ hr fun n => by simp [published, LogRecord.debug]
  | register id l =>
      exact carriedOut_conclude _ _ _ _ hr fun n => by simp [registered, LogRecord.debug]
  | remove id =>
      have hown : ∀ record ∈ [removed id], record.message ≠ "listener removed after delivery" :=
        List.forall_mem_singleton.2 (by simp [removed, LogRecord.debug])
      rw [Operation.apply, requestsIn_remove, remove]
      split
      · exact carriedOut_logged hown
      · rfl
  | reset => rfl

/-! ## Who is under a handle -/

/-- Whether an operation by itself decides what becomes of a handle, whatever listeners request. -/
def Operation.decides (id : ListenerId) : Operation M → Bool
  | .publish _ => false
  | .register i _ => i = id
  | .remove i => i = id
  | .reset => true

omit [Stamped M] in
theorem mem_without {gone : List ListenerId} {rs : List (Registration M)} {k : Registration M} :
    k ∈ without gone rs ↔ k ∈ rs ∧ k.id ∉ gone := by
  simp [without]

omit [Stamped M] in
/-- A listener that is put under a handle takes the place of the one there. -/
theorem mem_put {rs : List (Registration M)} (hnodup : (ids rs).Nodup) {id i : ListenerId}
    {l k : Listener M} :
    ⟨id, l⟩ ∈ put i k rs ↔ i = id ∧ k = l ∨ i ≠ id ∧ ⟨id, l⟩ ∈ rs := by
  induction rs with
  | nil => simp [put, eq_comm]
  | cons r rs ih =>
      obtain ⟨hr, hnodup⟩ := List.nodup_cons.1 hnodup
      by_cases h : r.id = i
      · -- No other registration is under the handle.
        have hothers : ⟨id, l⟩ ∈ rs → i ≠ id := fun hl hi =>
          hr (List.mem_map.2 ⟨_, hl, (h.trans hi).symm⟩)
        have hfirst : i ≠ id → ⟨id, l⟩ ≠ r := fun hi hr => hi (hr ▸ h).symm
        rw [put, if_pos h, List.mem_cons, List.mem_cons, Registration.mk.injEq]
        constructor
        · rintro (⟨rfl, rfl⟩ | hl)
          · exact .inl ⟨rfl, rfl⟩
          · exact .inr ⟨hothers hl, .inr hl⟩
        · rintro (⟨rfl, rfl⟩ | ⟨hi, hl⟩)
          · exact .inl ⟨rfl, rfl⟩
          · exact .inr (hl.resolve_left (hfirst hi))
      · have hfirst : ⟨id, l⟩ = r → i ≠ id := fun hr hi => h (hr ▸ hi.symm)
        rw [put, if_neg h, List.mem_cons, List.mem_cons, ih hnodup]
        tauto

/-- After an operation a listener is under a handle if it was put there by the operation, or was
there before and the operation does not decide otherwise, unless its removal was requested while
listeners were called, and stood. -/
theorem Settled.mem_apply {r : Registry M} (hr : r.Settled) (o : Operation M) (id : ListenerId)
    (l : Listener M) :
    ⟨id, l⟩ ∈ (o.apply r).2.registrations
      ↔ (o = .register id l ∨ o.decides id = false ∧ ⟨id, l⟩ ∈ r.registrations)
        ∧ id ∉ removals (sinceReset (requestsIn (o.apply r).1)) := by
  rw [registrations_apply o r hr.deferred_eq, mem_without]
  refine and_congr_left fun _ => ?_
  cases o with
  | publish m => simp [Operation.registrationsDuring, Operation.decides]
  | register i k =>
      rw [Operation.registrationsDuring, mem_put hr.nodup]
      simp [Operation.decides]
  | remove i =>
      rw [Operation.registrationsDuring, mem_without]
      simp [Operation.decides, eq_comm, and_comm]
  | reset => simp [Operation.registrationsDuring, Operation.decides]

/-! ## Rounds -/

omit [Stamped M] in
theorem getElem?_concat_eq_some_iff {os : List (Operation M)} {o p : Operation M} {n : Nat} :
    (os ++ [o])[n]? = some p ↔ os[n]? = some p ∨ n = os.length ∧ o = p := by
  rcases lt_trichotomy n os.length with hn | rfl | hn
  · simp [List.getElem?_append_left hn, hn.ne]
  · simp
  · have hnone : (os ++ [o])[n]? = none := List.getElem?_eq_none (by
      rw [List.length_append, List.length_singleton]
      omega)
    simp [hnone, hn.ne', hn.le]

/-- The handles whose removal is requested while operation `n`, counted from zero, calls listeners,
and is not followed by a request to reset. -/
def removedInside (capacity : Nat) (os : List (Operation M)) (n : Nat) : List ListenerId :=
  match os[n]? with
  | some o =>
    removals (sinceReset (requestsIn (o.apply (Life.of capacity (os.take n)).registry).1))
  | none => []

/-- A listener was registered at operation `n`, and since then neither an operation decided what
becomes of its handle, nor was its removal requested in a round. -/
structure RegisteredAt (capacity : Nat) (os : List (Operation M)) (id : ListenerId)
    (l : Listener M) (n : Nat) : Prop where
  registered : os[n]? = some (.register id l)
  undecided : ∀ k o, n < k → os[k]? = some o → o.decides id = false
  unrequested : ∀ k, n ≤ k → id ∉ removedInside capacity os k

section Rounds

variable {capacity : Nat} {os : List (Operation M)} {o : Operation M} {id : ListenerId}
  {l : Listener M} {n : Nat}

theorem mem_removedInside_iff :
    id ∈ removedInside capacity os n ↔ ∃ o, os[n]? = some o ∧ id ∈ removals (sinceReset
      (requestsIn (o.apply (Life.of capacity (os.take n)).registry).1)) := by
  unfold removedInside
  cases os[n]? <;> simp

theorem lt_of_mem_removedInside (hid : id ∈ removedInside capacity os n) : n < os.length := by
  obtain ⟨o, ho, -⟩ := mem_removedInside_iff.1 hid
  exact (List.getElem?_eq_some_iff.1 ho).1

theorem mem_removedInside_concat_iff :
    id ∈ removedInside capacity (os ++ [o]) n
      ↔ id ∈ removedInside capacity os n
        ∨ n = os.length
          ∧ id ∈ removals (sinceReset (requestsIn (o.apply (Life.of capacity os).registry).1)) := by
  rw [mem_removedInside_iff, mem_removedInside_iff]
  constructor
  · rintro ⟨p, hp, hid⟩
    rcases getElem?_concat_eq_some_iff.1 hp with hp | ⟨rfl, rfl⟩
    · have hlt : n < os.length := (List.getElem?_eq_some_iff.1 hp).1
      rw [List.take_append_of_le_length hlt.le] at hid
      exact .inl ⟨p, hp, hid⟩
    · rw [List.take_left] at hid
      exact .inr ⟨rfl, hid⟩
  · rintro (⟨p, hp, hid⟩ | ⟨rfl, hid⟩)
    · have hlt : n < os.length := (List.getElem?_eq_some_iff.1 hp).1
      refine ⟨p, getElem?_concat_eq_some_iff.2 (.inl hp), ?_⟩
      rwa [List.take_append_of_le_length hlt.le]
    · refine ⟨o, List.getElem?_concat_length, ?_⟩
      rwa [List.take_left]

theorem RegisteredAt.lt (h : RegisteredAt capacity os id l n) : n < os.length :=
  (List.getElem?_eq_some_iff.1 h.registered).1

/-- Of the operations, the last one either registered the listener, or left it where it was. -/
theorem registeredAt_concat_iff :
    RegisteredAt capacity (os ++ [o]) id l n
      ↔ (n = os.length ∧ o = .register id l
          ∨ o.decides id = false ∧ RegisteredAt capacity os id l n)
        ∧ id ∉ removals (sinceReset (requestsIn (o.apply (Life.of capacity os).registry).1)) := by
  constructor
  · intro h
    have hn : n < os.length + 1 := by simpa using h.lt
    refine ⟨?_, fun hid => h.unrequested os.length (Nat.lt_succ_iff.1 hn)
      (mem_removedInside_concat_iff.2 (.inr ⟨rfl, hid⟩))⟩
    rcases getElem?_concat_eq_some_iff.1 h.registered with hold | hnew
    · have hlt : n < os.length := (List.getElem?_eq_some_iff.1 hold).1
      exact .inr ⟨h.undecided os.length o hlt List.getElem?_concat_length, hold,
        fun k p hk hp => h.undecided k p hk (getElem?_concat_eq_some_iff.2 (.inl hp)),
        fun k hk hid => h.unrequested k hk (mem_removedInside_concat_iff.2 (.inl hid))⟩
    · exact .inl hnew
  · rintro ⟨⟨rfl, rfl⟩ | ⟨hdecides, h⟩, hrequests⟩
    · refine ⟨List.getElem?_concat_length, fun k p hk hp => ?_, fun k hk hid => ?_⟩
      · have hlt := (List.getElem?_eq_some_iff.1 hp).1
        rw [List.length_append, List.length_singleton] at hlt
        omega
      · rcases mem_removedInside_concat_iff.1 hid with hid | ⟨-, hid⟩
        · exact absurd (lt_of_mem_removedInside hid) (Nat.not_lt.2 hk)
        · exact hrequests hid
    · refine ⟨getElem?_concat_eq_some_iff.2 (.inl h.registered), fun k p hk hp => ?_,
        fun k hk hid => ?_⟩
      · rcases getElem?_concat_eq_some_iff.1 hp with hp | ⟨-, rfl⟩
        · exact h.undecided k p hk hp
        · exact hdecides
      · rcases mem_removedInside_concat_iff.1 hid with hid | ⟨-, hid⟩
        · exact h.unrequested k hk hid
        · exact hrequests hid

/-- Who is under a handle was registered there, and has not been removed since. -/
theorem mem_registrations_iff :
    ⟨id, l⟩ ∈ (Life.of capacity os).registry.registrations
      ↔ ∃ n, RegisteredAt capacity os id l n := by
  induction os using List.reverseRecOn with
  | nil =>
      refine iff_of_false List.not_mem_nil ?_
      rintro ⟨n, h⟩
      exact absurd h.lt (Nat.not_lt_zero n)
  | append_singleton os o ih =>
      simp only [registeredAt_concat_iff, exists_and_right, exists_or, exists_and_left,
        exists_eq, true_and]
      rw [Life.of_concat, Life.next, (Life.settled capacity os).mem_apply, ih]

end Rounds

/-- **No removal outlives its round.** Between the operations of a life no removal waits, whatever
the listeners requested and however their calls ended. Each operation carries out the removals that
were requested while it called listeners, and stood, and no other ones. So a listener is under a
handle exactly if it was registered at some operation and none of the later ones decided otherwise,
nor was the removal of the handle requested while one of them, or the registration itself, called
listeners. What was requested before does not matter. -/
theorem removals_end_with_their_round (capacity : Nat) (os : List (Operation M)) :
    let r := (Life.of capacity os).registry
    r.deferred = []
      ∧ (∀ o : Operation M,
          carriedOut (o.apply r).1 = removals (sinceReset (requestsIn (o.apply r).1)))
      ∧ ∀ id l, ⟨id, l⟩ ∈ r.registrations ↔ ∃ n, RegisteredAt capacity os id l n :=
  have hr := (Life.settled capacity os).deferred_eq
  ⟨hr, fun o => carriedOut_apply o hr, fun _ _ => mem_registrations_iff⟩

/-- A listener that asks for the removal of `b` in its first call, which panics. -/
def jealous : Listener Message :=
  ⟨"a", fun moment _ => (if moment = 0 then [.remove ⟨"b"⟩] else [], .crashed)⟩

/-- The removal is carried out while nobody has the handle, so it does not affect who gets it
later. -/
example : ids (Life.of 10 [.register ⟨"a"⟩ jealous, .publish (sentAt 1),
    .register ⟨"b"⟩ accepting, .publish (sentAt 2)]).registry.registrations
      = [⟨"a"⟩, ⟨"b"⟩] := by decide

end Registry
end Messenger
