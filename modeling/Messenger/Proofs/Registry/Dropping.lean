import Messenger.Proofs.Registry.Removal

set_option autoImplicit false

/-! # What listeners do when they are not called

A listener can turn to the registry on two more occasions. When it is let go it may have something
to request, and the registry is as busy then as while it calls. And the error of a failed call is
written into a record; if that unwinds, the operation ends at once, and what is due at the end of the
round is not done.

A removal that is requested while listeners are called waits for the end of the round. One that is
requested later waits for the end of the next one, and may then hit a listener that was registered
in the meantime. How the queue comes to be empty is told exactly (`queue_is_empty_iff`); listeners
with no such manners leave nothing in it. -/

namespace Messenger.Registry

variable {M : Type}

/-! ## Manners -/

/-- What listeners do when they are not called. -/
structure Manners (M : Type) where
  /-- What a listener requests when it is let go at a moment. -/
  parting : Registration M → (moment : Nat) → List (Request M)
  /-- Whether the error of a failed call unwinds when it is to be recorded. -/
  unwinds : Registration M → (moment : Nat) → M → Bool

/-- Listeners that do nothing when they are not called. -/
def Manners.plain : Manners M := ⟨fun _ _ => [], fun _ _ _ => false⟩

namespace Manners

variable (w : Manners M) (capacity moment : Nat)

/-- What listeners request when they are let go in turn. -/
def partings (gone : List (Registration M)) : List (Request M) :=
  gone.flatMap fun k => w.parting k moment

/-- What can be seen of it. -/
def partingNotices (gone : List (Registration M)) : List (Notice M) :=
  gone.flatMap fun k => noticesInside capacity k.listener.label (w.parting k moment)

theorem requestsIn_partingNotices (gone : List (Registration M)) :
    requestsIn (w.partingNotices capacity moment gone) = w.partings moment gone := by
  unfold partingNotices partings
  induction gone with
  | nil => rfl
  | cons k gone ih =>
      rw [List.flatMap_cons, List.flatMap_cons, requestsIn_append, requestsIn_noticesInside, ih]

theorem carriedOut_partingNotices (gone : List (Registration M)) :
    carriedOut (w.partingNotices capacity moment gone) = [] := by
  unfold partingNotices
  induction gone with
  | nil => rfl
  | cons k gone ih => rw [List.flatMap_cons, carriedOut_append, carriedOut_noticesInside, ih]; rfl

/-- Whether an operation is cut short by a call: it fails, and its error unwinds. -/
def cutsShort (h : Handing M) : Bool :=
  match (h.1.listener.react moment h.2).2 with
  | .failed _ => w.unwinds h.1 moment h.2
  | _ => false

/-- The calls of a round up to one that cuts it short, and that one. -/
def course : Nat → List (Handing M) → List (Handing M) × Option (Handing M)
  | _, [] => ([], none)
  | moment, h :: hs =>
    if w.cutsShort moment h then ([], some h)
    else
      let (before, last) := course (moment + 1) hs
      (h :: before, last)

theorem partings_plain (moment : Nat) (gone : List (Registration M)) :
    (plain : Manners M).partings moment gone = [] :=
  List.flatMap_eq_nil_iff.2 fun _ _ => rfl

theorem partingNotices_plain (capacity moment : Nat) (gone : List (Registration M)) :
    (plain : Manners M).partingNotices capacity moment gone = [] :=
  List.flatMap_eq_nil_iff.2 fun _ _ => rfl

theorem course_plain (moment : Nat) (hs : List (Handing M)) :
    (plain : Manners M).course moment hs = (hs, none) := by
  have hnever (moment : Nat) (h : Handing M) : plain.cutsShort moment h = false := by
    unfold cutsShort
    split <;> rfl
  induction hs generalizing moment with
  | nil => rfl
  | cons h hs ih => simp [course, hnever, ih]

end Manners

/-! ## The end of a round -/

/-- Who is let go when handles are removed in turn. -/
def leavingInTurn :
    List ListenerId → List (Registration M) → List (ListenerId × List (Registration M))
  | [], _ => []
  | id :: gone, rs => (id, rs.filter fun k => k.id = id) :: leavingInTurn gone (without [id] rs)

theorem without_nil (rs : List (Registration M)) : without [] rs = rs := by simp [without]

/-- What is requested after the queue was emptied at the end of a round. -/
def Manners.atEnd (w : Manners M) (moment : Nat) (queue : List ListenerId)
    (rs : List (Registration M)) : List (Request M) :=
  (leavingInTurn queue rs).flatMap fun p => w.partings moment p.2

variable [Stamped M]

/-- Run a round and apply the removals that wait, unless the round is cut short. Of those that are
removed, the ones that the registry alone holds are let go. -/
def concludeWith (w : Manners M) (r : Registry M) (held : List (Registration M))
    (hs : List (Handing M)) (record : Nat → LogRecord) : List (Notice M) × Registry M :=
  let (before, last) := w.course r.moment hs
  let round := runRound r.capacity r.moment before r.deferred
  let moment := r.moment + before.length
  let marks := raiseAll r.marks before
  match last with
  | some h =>
    let requests := (h.1.listener.react moment h.2).1
    (round.notices ++ .handed h.1.id h.1.listener.label h.2
        :: noticesInside r.capacity h.1.listener.label requests,
      { r with marks, deferred := requests.foldl deferInside round.deferred, moment := moment + 1 })
  | none =>
    let removal := fun p : ListenerId × List (Registration M) =>
      w.partingNotices r.capacity moment p.2 ++ [.logged (removedAfter p.1)]
    (round.notices
        ++ .logged (record round.accepted) :: (leavingInTurn round.deferred held).flatMap removal,
      { r with
        registrations := without round.deferred r.registrations
        marks
        deferred := (w.atEnd moment round.deferred held).foldl deferInside []
        moment })

/-! ## Operations -/

/-- Who is let go by an operation itself: the one whose handle another listener takes, those under a
handle that is removed, or all. -/
def Operation.letGo : Operation M → List (Registration M) → List (Registration M)
  | .publish _, _ => []
  | .register id _, rs => rs.filter fun k => k.id = id
  | .remove id, rs => rs.filter fun k => k.id = id
  | .reset, rs => rs

/-- Whom the registry alone holds in an operation: a listener that is being registered is also held by
whoever registers it, and lets go of it after the operation. -/
def Operation.held : Operation M → List (Registration M) → List (Registration M)
  | .register id _, rs => without [id] rs
  | _, rs => rs

/-- The registry when all those are gone. -/
def Operation.opened (w : Manners M) (o : Operation M) (r : Registry M) : Registry M :=
  { r with
    registrations := o.registrationsDuring r.registrations
    deferred := (w.partings r.moment (o.letGo r.registrations)).foldl deferInside r.deferred }

/-- What an operation is to hand out, if it has a round. -/
def Operation.toHand : Operation M → Registry M → Option (List (Handing M))
  | .publish m, r => some (r.registrations.map fun l => (l, m))
  | .register id l, r => some ((r.missed id).map fun m => (⟨id, l⟩, m))
  | _, _ => none

/-- What can be seen of an operation, and the registry after it. -/
def Operation.applyWith (w : Manners M) (o : Operation M) (r : Registry M) :
    List (Notice M) × Registry M :=
  let opened := o.opened w r
  let (notices, after) := match o with
    | .publish m =>
      concludeWith w { opened with history := r.keep m } (o.held r.registrations)
        (r.registrations.map fun l => (l, m)) (Registry.published m)
    | .register id l =>
      let hs := (r.missed id).map fun m => (⟨id, l⟩, m)
      concludeWith w opened (o.held r.registrations) hs fun _ => registered id hs.length
    | .remove id => (if r.contains id then [.logged (removed id)] else [], opened)
    | .reset => ([], r.reset)
  (w.partingNotices r.capacity r.moment (o.letGo r.registrations) ++ notices, after)

/-- A registry after some operations. -/
def after (w : Manners M) (capacity : Nat) (os : List (Operation M)) : Registry M :=
  os.foldl (fun r o => (o.applyWith w r).2) (withCapacity capacity)

theorem after_concat (w : Manners M) (capacity : Nat) (os : List (Operation M)) (o : Operation M) :
    after w capacity (os ++ [o]) = (o.applyWith w (after w capacity os)).2 := by
  rw [after, List.foldl_append]
  rfl

/-- What is requested at the end of the round of an operation, if there is one and it is not cut
short. -/
def Operation.late? (w : Manners M) (o : Operation M) (r : Registry M) :
    Option (List (Request M)) :=
  match o.toHand r with
  | none => none
  | some hs =>
    match w.course r.moment hs with
    | (_, some _) => none
    | (before, none) =>
      let queue := (runRound r.capacity r.moment before (o.opened w r).deferred).deferred
      some (w.atEnd (r.moment + before.length) queue (o.held r.registrations))

/-- The requests of which an operation leaves the removals waiting: what is requested at the end of
its round; if it does not come to that, all that waited, and all that is requested. A reset leaves
nothing. -/
def Operation.leftOver (w : Manners M) (o : Operation M) (r : Registry M) : List (Request M) :=
  match o.late? w r with
  | some late => late
  | none => if o.isReset then [] else r.deferred.map .remove ++ requestsIn (o.applyWith w r).1

/-! ## The queue -/

omit [Stamped M] in
/-- The queue grows with each request to remove, and a request to reset empties it. -/
theorem foldl_deferInside_queue (queue : List ListenerId) (requests : List (Request M)) :
    requests.foldl deferInside queue = removals (sinceReset (queue.map .remove ++ requests)) := by
  rw [← foldl_deferInside, List.foldl_append]
  have hqueue (ids : List ListenerId) :
      (queue.map (Request.remove : ListenerId → Request M)).foldl deferInside ids = ids ++ queue := by
    induction queue generalizing ids with
    | nil => exact (List.append_nil ids).symm
    | cons id queue ih =>
        rw [List.map_cons, List.foldl_cons, ih]
        exact List.append_assoc ..
  rw [hqueue, List.nil_append]

section Round

variable (w : Manners M) (r : Registry M) (held : List (Registration M)) (hs : List (Handing M))
  (record : Nat → LogRecord)

/-- A round that is cut short carries nothing out, and leaves all that was requested in the queue. -/
theorem concludeWith_of_cut {before : List (Handing M)} {h : Handing M}
    (hcourse : w.course r.moment hs = (before, some h)) :
    let concluded := concludeWith w r held hs record
    concluded.2.deferred = (requestsIn concluded.1).foldl deferInside r.deferred
      ∧ concluded.2.registrations = r.registrations
      ∧ carriedOut concluded.1 = [] := by
  simp only [concludeWith, hcourse]
  refine ⟨?_, trivial, ?_⟩
  · rw [requestsIn_append, List.foldl_append, ← deferred_runRound, requestsIn_cons,
      requestsIn_noticesInside]
    rfl
  · rw [carriedOut_append, carriedOut_runRound, ← List.singleton_append, carriedOut_append,
      carriedOut_noticesInside]
    rfl

omit [Stamped M] in
theorem carriedOut_leavingInTurn (capacity moment : Nat) (queue : List ListenerId)
    (rs : List (Registration M)) :
    carriedOut ((leavingInTurn queue rs).flatMap fun p =>
      w.partingNotices capacity moment p.2 ++ [.logged (removedAfter p.1)]) = queue := by
  induction queue generalizing rs with
  | nil => rfl
  | cons id queue ih =>
      rw [leavingInTurn, List.flatMap_cons, carriedOut_append, carriedOut_append, ih,
        w.carriedOut_partingNotices]
      rfl

omit [Stamped M] in
theorem requestsIn_leavingInTurn (capacity moment : Nat) (queue : List ListenerId)
    (rs : List (Registration M)) :
    requestsIn ((leavingInTurn queue rs).flatMap fun p =>
      w.partingNotices capacity moment p.2 ++ [.logged (removedAfter p.1)])
        = w.atEnd moment queue rs := by
  unfold Manners.atEnd
  induction leavingInTurn queue rs with
  | nil => rfl
  | cons p left ih =>
      rw [List.flatMap_cons, List.flatMap_cons, requestsIn_append, requestsIn_append, ih,
        w.requestsIn_partingNotices]
      exact congrArg (· ++ _) (List.append_nil _)

/-- At the end of its round an operation carries out what waits, and what is requested then waits. -/
theorem concludeWith_of_end {before : List (Handing M)}
    (hcourse : w.course r.moment hs = (before, none))
    (hrecord : ∀ n, (record n).message ≠ "listener removed after delivery") :
    let concluded := concludeWith w r held hs record
    let queue := (runRound r.capacity r.moment before r.deferred).deferred
    let late := w.atEnd (r.moment + before.length) queue held
    concluded.2.deferred = removals (sinceReset late)
      ∧ concluded.2.registrations = without queue r.registrations
      ∧ carriedOut concluded.1 = queue
      ∧ ∃ early, requestsIn concluded.1 = early ++ late
        ∧ queue = early.foldl deferInside r.deferred := by
  simp only [concludeWith, hcourse]
  refine ⟨foldl_deferInside _, trivial, ?_, _, ?_, deferred_runRound ..⟩
  · rw [carriedOut_append, carriedOut_runRound, ← List.singleton_append, carriedOut_append,
      carriedOut_leavingInTurn]
    have hown (n : Nat) : carriedOut ([record n].map (Notice.logged : LogRecord → Notice M)) = [] :=
      carriedOut_logged (List.forall_mem_singleton.2 (hrecord n))
    exact congrArg (· ++ _) (hown _)
  · rw [requestsIn_append, requestsIn_cons, requestsIn_leavingInTurn]
    rfl

end Round

section Operations

variable {w : Manners M} {o : Operation M} {r : Registry M}

/-- An operation that has something to hand out does so after it has let go whom it replaces. -/
theorem applyWith_of_toHand {hs : List (Handing M)} (h : o.toHand r = some hs) :
    ∃ (start : Registry M) (record : Nat → LogRecord),
      start.capacity = r.capacity ∧ start.moment = r.moment
      ∧ start.deferred = (o.opened w r).deferred
      ∧ start.registrations = o.registrationsDuring r.registrations
      ∧ (∀ n, (record n).message ≠ "listener removed after delivery")
      ∧ o.applyWith w r
        = (w.partingNotices r.capacity r.moment (o.letGo r.registrations)
            ++ (concludeWith w start (o.held r.registrations) hs record).1,
          (concludeWith w start (o.held r.registrations) hs record).2) := by
  cases o with
  | publish m =>
      cases h
      exact ⟨{ Operation.opened w (.publish m) r with history := r.keep m }, Registry.published m,
        rfl, rfl, rfl, rfl, fun n => by simp [Registry.published, LogRecord.debug], rfl⟩
  | register id l =>
      cases h
      exact ⟨Operation.opened w (.register id l) r, fun _ => registered id (r.missed id).length,
        rfl, rfl, rfl, rfl, fun n => by simp [registered, LogRecord.debug], by
          simp [Operation.applyWith]⟩
  | remove id => cases h
  | reset => cases h

/-- An operation that has nothing to hand out leaves what waits waiting, unless it is a reset. -/
theorem applyWith_of_toHand_none (h : o.toHand r = none) :
    (o.applyWith w r).2.deferred
        = (if o.isReset then [] else
          (requestsIn (o.applyWith w r).1).foldl deferInside r.deferred)
      ∧ (o.applyWith w r).2.registrations = o.registrationsDuring r.registrations
      ∧ carriedOut (o.applyWith w r).1 = [] := by
  cases o with
  | publish m => cases h
  | register id l => cases h
  | remove id =>
      have hown : carriedOut
          (if r.contains id then [Notice.logged (removed id) (M := M)] else []) = [] := by
        split <;> rfl
      have hrequests : requestsIn
          (if r.contains id then [Notice.logged (removed id) (M := M)] else []) = [] := by
        split <;> rfl
      refine ⟨?_, rfl, ?_⟩
      · simp only [Operation.applyWith, requestsIn_append, w.requestsIn_partingNotices, hrequests,
          List.append_nil]
        rfl
      · simp only [Operation.applyWith, carriedOut_append, w.carriedOut_partingNotices, hown,
          List.append_nil]
  | reset =>
      refine ⟨rfl, rfl, ?_⟩
      simp only [Operation.applyWith, List.append_nil, w.carriedOut_partingNotices]

/-- **What an operation leaves in the queue, and what it carries out.** It leaves exactly the removals
that are requested when it is too late for its round. It carries out what waited and was requested
before, if it comes to the end of a round. -/
theorem applyWith_queue (w : Manners M) (o : Operation M) (r : Registry M) :
    let shown := (o.applyWith w r).1
    (o.applyWith w r).2.deferred = removals (sinceReset (o.leftOver w r))
      ∧ (o.applyWith w r).2.registrations
        = without (carriedOut shown) (o.registrationsDuring r.registrations)
      ∧ match o.late? w r with
        | some late => ∃ early, requestsIn shown = early ++ late
          ∧ carriedOut shown = removals (sinceReset (r.deferred.map .remove ++ early))
        | none => carriedOut shown = [] := by
  have hall (requests : List (Request M)) :
      requests.foldl deferInside r.deferred
        = removals (sinceReset (r.deferred.map .remove ++ requests)) :=
    foldl_deferInside_queue r.deferred requests
  intro shown
  cases hhand : o.toHand r with
  | none =>
      obtain ⟨hdeferred, hregistrations, hcarried⟩ := applyWith_of_toHand_none (w := w) hhand
      have hlate : o.late? w r = none := by simp only [Operation.late?, hhand]
      rw [Operation.leftOver, hlate, hdeferred, hregistrations, hcarried, without_nil, hall]
      refine ⟨?_, rfl, rfl⟩
      split <;> rfl
  | some hs =>
      obtain ⟨start, record, hcapacity, hmoment, hdeferred, hregistrations, hrecord, happly⟩ :=
        applyWith_of_toHand (w := w) hhand
      have hreset : o.isReset = false := by
        cases o with
        | reset => cases hhand
        | _ => rfl
      have hbefore (requests : List (Request M)) :
          requests.foldl deferInside start.deferred = removals (sinceReset (r.deferred.map .remove
            ++ (w.partings r.moment (o.letGo r.registrations) ++ requests))) := by
        rw [← hall, List.foldl_append, hdeferred]
        rfl
      have hrequests : requestsIn shown = w.partings r.moment (o.letGo r.registrations)
          ++ requestsIn (concludeWith w start (o.held r.registrations) hs record).1 := by
        simp only [shown, happly, requestsIn_append, w.requestsIn_partingNotices]
      have hcarried : carriedOut shown
          = carriedOut (concludeWith w start (o.held r.registrations) hs record).1 := by
        simp only [shown, happly, carriedOut_append, w.carriedOut_partingNotices, List.nil_append]
      rcases hcourse : w.course r.moment hs with ⟨before, _ | h⟩
      · rw [← hmoment] at hcourse
        obtain ⟨hqueue, hleft, hround, early, hsplit, hearly⟩ :=
          concludeWith_of_end w start (o.held r.registrations) hs record hcourse hrecord
        have hlate : o.late? w r = some (w.atEnd (start.moment + before.length)
            (runRound start.capacity start.moment before start.deferred).deferred
            (o.held r.registrations)) := by
          rw [hmoment] at hcourse
          simp only [Operation.late?, hhand, hcourse, hcapacity, hmoment, hdeferred]
        rw [Operation.leftOver, hlate, hcarried, hround, happly, hqueue, hleft, hregistrations]
        refine ⟨rfl, rfl, w.partings r.moment (o.letGo r.registrations) ++ early, ?_, ?_⟩
        · rw [hrequests, hsplit, ← List.append_assoc]
        · rw [hearly, hbefore]
      · have hlate : o.late? w r = none := by simp only [Operation.late?, hhand, hcourse]
        rw [← hmoment] at hcourse
        obtain ⟨hqueue, hleft, hround⟩ := concludeWith_of_cut w start _ hs record hcourse
        rw [Operation.leftOver, hlate, hcarried, hround, happly, hqueue, hleft, hregistrations,
          without_nil, hbefore, hreset]
        refine ⟨?_, rfl, rfl⟩
        rw [← happly, ← hrequests]
        rfl

end Operations

/-! ## Listeners without such manners -/

theorem concludeWith_plain {α : Type} (r : Registry M) (held : List (Registration M))
    (hs : List (Handing M)) (result : Nat → α) (record : Nat → LogRecord) :
    concludeWith .plain r held hs record = (conclude r hs result record).2 := by
  have hremovals (queue : List ListenerId) (rs : List (Registration M)) :
      ((leavingInTurn queue rs).flatMap fun p => [Notice.logged (removedAfter p.1)])
        = (queue.map removedAfter).map (Notice.logged : LogRecord → Notice M) := by
    induction queue generalizing rs with
    | nil => rfl
    | cons id queue ih => exact congrArg (_ :: ·) (ih _)
  have hlate (moment : Nat) (queue : List ListenerId) (rs : List (Registration M)) :
      (Manners.plain : Manners M).atEnd moment queue rs = [] :=
    List.flatMap_eq_nil_iff.2 fun _ _ => Manners.partings_plain ..
  simp only [concludeWith, Manners.course_plain, Manners.partingNotices_plain, List.nil_append,
    hremovals, hlate]
  rfl

/-- **Without such manners the registry is the plain one.** -/
theorem applyWith_plain (o : Operation M) (r : Registry M) : o.applyWith .plain r = o.apply r := by
  have hopened : o.opened .plain r
      = { r with registrations := o.registrationsDuring r.registrations } := by
    simp only [Operation.opened, Manners.partings_plain]
    rfl
  simp only [Operation.applyWith, Manners.partingNotices_plain, List.nil_append, hopened]
  cases o with
  | publish m => exact concludeWith_plain _ _ _ id _
  | register id l =>
      let hs : List (Handing M) := (r.missed id).map fun m => (⟨id, l⟩, m)
      exact concludeWith_plain { r with registrations := put id l r.registrations } _ hs
        (fun _ => hs.length) fun _ => registered id hs.length
  | remove id =>
      simp only [Operation.apply, remove]
      split
      · rfl
      · next hfree =>
        have hsame : without [id] r.registrations = r.registrations :=
          List.filter_eq_self.2 fun k hk => by
            have hother : k.id ≠ id := fun h =>
              hfree ((contains_iff id r).2 (h ▸ List.mem_map_of_mem hk))
            simp [hother]
        rw [Operation.registrationsDuring, hsame]
  | reset => rfl

theorem after_plain (capacity : Nat) (os : List (Operation M)) :
    after .plain capacity os = (Life.of capacity os).registry := by
  induction os using List.reverseRecOn with
  | nil => rfl
  | append_singleton os o ih => rw [after_concat, Life.of_concat, ih, applyWith_plain, Life.next]

/-! ## When nothing waits -/

/-- **When nothing waits.** Whatever listeners do when they are called or let go, and whether or not
their errors can be recorded, between the operations of a life no removal waits if and only if no
operation leaves one over: none that stands is requested by a listener that is let go at the end of a
round, or in an operation that does not come to the end of a round. An operation
takes away the handles that it carries out, and no other ones; if it comes to the end of a round, it
carries out what waited and what was requested before that end. If listeners do nothing when they are
not called, no removal ever waits: each operation carries out what was requested while it called
listeners, and stood, so that a listener is under a handle exactly if it was registered at some
operation, and nothing that was decided or requested since then stands against it. -/
theorem queue_is_empty_iff (w : Manners M) (capacity : Nat) (os : List (Operation M)) :
    ((∀ n, (after w capacity (os.take n)).deferred = [])
        ↔ ∀ (n : Nat) (o : Operation M), os[n]? = some o →
          removals (sinceReset (o.leftOver w (after w capacity (os.take n)))) = [])
      ∧ (∀ o : Operation M,
          let r := after w capacity os
          let shown := (o.applyWith w r).1
          (o.applyWith w r).2.registrations
              = without (carriedOut shown) (o.registrationsDuring r.registrations)
            ∧ match o.late? w r with
              | some late => ∃ early, requestsIn shown = early ++ late
                ∧ carriedOut shown = removals (sinceReset (r.deferred.map .remove ++ early))
              | none => carriedOut shown = [])
      ∧ let r := after .plain capacity os
        r.deferred = []
          ∧ (∀ o : Operation M, carriedOut (o.applyWith .plain r).1
              = removals (sinceReset (requestsIn (o.applyWith .plain r).1)))
          ∧ ∀ id l, ⟨id, l⟩ ∈ r.registrations ↔ ∃ n, RegisteredAt capacity os id l n := by
  have htake {n : Nat} {o : Operation M} (ho : os[n]? = some o) :
      (after w capacity (os.take (n + 1))).deferred
        = removals (sinceReset (o.leftOver w (after w capacity (os.take n)))) := by
    rw [List.take_add_one, ho, Option.toList_some, after_concat]
    exact (applyWith_queue w o _).1
  refine ⟨⟨fun h n o ho => (htake ho).symm.trans (h (n + 1)), fun h n => ?_⟩,
    fun o => (applyWith_queue w o _).2, ?_⟩
  · induction n with
    | zero => rfl
    | succ n ih =>
        cases ho : os[n]? with
        | none =>
            rw [List.take_add_one, ho, Option.toList_none, List.append_nil]
            exact ih
        | some o => exact (htake ho).trans (h n o ho)
  · simp only [after_plain, applyWith_plain]
    exact removals_end_with_their_round capacity os

/-- When `a` is let go, it asks for the removal of `b`. -/
def clinging : Manners Message where
  parting k _ := if k.id = ⟨"a"⟩ then [.remove ⟨"b"⟩] else []
  unwinds _ _ _ := false

/-- No error can be recorded. -/
def touchy : Manners Message where
  parting _ _ := []
  unwinds _ _ _ := true

/-- A listener that asks for the removal of `b`, and fails. -/
def failing : Listener Message := ⟨"a", fun _ _ => ([.remove ⟨"b"⟩], .failed "no")⟩

/-- A removal that was requested when `a` was let go, or in a call whose error unwound, hits `b`,
which is registered later and accepts everything. -/
theorem later_listener_is_removed :
    let removing : List (Operation Message) := [.register ⟨"a"⟩ accepting, .remove ⟨"a"⟩]
    let publishing : List (Operation Message) := [.register ⟨"a"⟩ failing, .publish (sentAt 1)]
    let b : Operation Message := .register ⟨"b"⟩ accepting
    (after clinging 10 removing).deferred = [⟨"b"⟩]
      ∧ ids (after clinging 10 (removing ++ [b])).registrations = []
      ∧ (after touchy 10 publishing).deferred = [⟨"b"⟩]
      ∧ ids (after touchy 10 (publishing ++ [b])).registrations = [⟨"a"⟩] := by
  decide

end Messenger.Registry
