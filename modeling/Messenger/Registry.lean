import Messenger.Listener

set_option autoImplicit false

/-! # The registry of listeners

The registry keeps the last messages and hands every new one to all listeners, in the order in
which they registered. A listener that registers is handed what is kept; under a handle that was
in use before, only what is newer than everything already handed to that handle.

All listeners that one operation calls form a *round*. A listener may turn to the registry while it
is called. The removal of a listener then takes effect after the round; every other change is
refused and recorded, and every question is answered as if the registry were empty. -/

namespace Messenger

/-- A listener under a handle. -/
structure Registration (M : Type) where
  id : ListenerId
  listener : Listener M

/-- The newest timestamp handed to each handle. -/
abbrev Marks := List (ListenerId × Int64)

namespace Marks

/-- The mark of a handle. -/
def get? (id : ListenerId) : Marks → Option Int64
  | [] => none
  | (i, t) :: ms => if i = id then some t else get? id ms

/-- Raise the mark of a handle to a timestamp, if it is not above it already. -/
def raise (id : ListenerId) (timestamp : Int64) : Marks → Marks
  | [] => [(id, timestamp)]
  | (i, t) :: ms =>
    if i = id then (i, if t ≤ timestamp then timestamp else t) :: ms
    else (i, t) :: raise id timestamp ms

end Marks

/-- The kept messages, the listeners and their marks. -/
structure Registry (M : Type) where
  /-- How many messages are kept at most. -/
  capacity : Nat
  /-- The messages kept, oldest first. -/
  history : List M := []
  /-- The listeners, in order of registration. -/
  registrations : List (Registration M) := []
  marks : Marks := []
  /-- The handles whose removal was requested during the current round. -/
  deferred : List ListenerId := []
  /-- How many calls of listeners there were since the last reset. -/
  moment : Nat := 0
  capacity_pos : 0 < capacity := by decide

namespace Registry

variable {M : Type}

/-- A registry that keeps `n` messages, and one if `n` is zero. -/
def withCapacity (n : Nat) : Registry M where
  capacity := max n 1
  capacity_pos := by omega

/-- The number of messages kept unless told otherwise. -/
def defaultCapacity : Nat := 1000

/-- The record of a request that is refused during a round. -/
def refused (op : String) : LogRecord :=
  .error "registry called from inside a listener callback; ignored" [("op", op)]

/-- The record of a removal that waits for the end of the round. -/
def removalDeferred (id : ListenerId) : LogRecord :=
  .debug "listener removal deferred" [("listener", id.text)]

/-- What is answered to a request during a round. -/
def answerInside (capacity : Nat) : Request M → Answer M
  | .publish _ => .count 0
  | .publishAll _ => .count 0
  | .register _ => .count 0
  | .registerFresh => .nothing
  | .remove _ => .flag true
  | .reset => .nothing
  | .contains _ => .flag false
  | .mark _ => .mark none
  | .count => .count 0
  | .buffered => .count 0
  | .capacity => .count capacity
  | .snapshot => .messages []

/-- The records of a request during a round. -/
def recordsInside : Request M → List LogRecord
  | .publish _ => [refused "publish"]
  | .publishAll ms => ms.map fun _ => refused "publish"
  | .register _ => [refused "add_listener"]
  | .registerFresh => [refused "add_listener"]
  | .remove id => [removalDeferred id]
  | .reset => [refused "reset"]
  | _ => []

/-- The removals that wait for the end of the round, after a request. A reset forgets them. -/
def deferInside (deferred : List ListenerId) : Request M → List ListenerId
  | .remove id => deferred ++ [id]
  | .reset => []
  | _ => deferred

/-- What can be seen of the requests of a listener during its call. -/
def noticesInside (capacity : Nat) (label : String) (requests : List (Request M)) :
    List (Notice M) :=
  requests.flatMap fun r =>
    (recordsInside r).map .logged ++ [.requested label r (answerInside capacity r)]

variable [Stamped M]

/-- The record of a call that did not end well. -/
def outcomeRecords (id : ListenerId) (message : M) : Outcome → List LogRecord
  | .accepted => []
  | .failed _ => [.warn "listener failed" (about id message)]
  | .crashed => [.error "listener panicked" (about id message)]
where
  about (id : ListenerId) (message : M) : List (String × String) :=
    [("listener", id.text), ("timestamp", toString (Stamped.timestamp message).toInt)]

/-- A listener and the message it is to be handed. -/
abbrev Handing (M : Type) := Registration M × M

/-- What a round yields: how many listeners accepted, what can be seen, and the removals that
wait. -/
structure Round (M : Type) where
  accepted : Nat
  notices : List (Notice M)
  deferred : List ListenerId

/-- Hand a message to a listener at a moment. -/
def hand (capacity moment : Nat) (h : Handing M) (deferred : List ListenerId) : Round M :=
  let (registration, message) := h
  let (requests, outcome) := registration.listener.react moment message
  { accepted := if outcome = .accepted then 1 else 0
    notices :=
      .handed registration.id registration.listener.label message
        :: noticesInside capacity registration.listener.label requests
        ++ (outcomeRecords registration.id message outcome).map .logged
    deferred := requests.foldl deferInside deferred }

/-- Hand out messages in turn, from a moment on. -/
def runRound (capacity : Nat) : Nat → List (Handing M) → List ListenerId → Round M
  | _, [], deferred => ⟨0, [], deferred⟩
  | moment, h :: hs, deferred =>
    let first := hand capacity moment h deferred
    let rest := runRound capacity (moment + 1) hs first.deferred
    ⟨first.accepted + rest.accepted, first.notices ++ rest.notices, rest.deferred⟩

/-- The marks after a round. -/
def raiseAll (marks : Marks) (hs : List (Handing M)) : Marks :=
  hs.foldl (fun marks h => marks.raise h.1.id (Stamped.timestamp h.2)) marks

/-- The record of a removal at the end of a round. -/
def removedAfter (id : ListenerId) : LogRecord :=
  .debug "listener removed after delivery" [("listener", id.text)]

/-- The registrations without some handles. -/
def without (ids : List ListenerId) (rs : List (Registration M)) : List (Registration M) :=
  rs.filter fun r => !ids.contains r.id

/-- What an operation yields: its result, what can be seen, and the registry after it. -/
abbrev Result (M α : Type) := α × List (Notice M) × Registry M

/-- Run a round that begins in the state `r`, and apply the removals that were requested. `result`
and `record` are made from the number of listeners that accepted. -/
def conclude {α : Type} (r : Registry M) (hs : List (Handing M)) (result : Nat → α)
    (record : Nat → LogRecord) : Result M α :=
  let round := runRound r.capacity r.moment hs r.deferred
  (result round.accepted,
    round.notices ++ (record round.accepted :: round.deferred.map removedAfter).map .logged,
    { r with
      registrations := without round.deferred r.registrations
      marks := raiseAll r.marks hs
      deferred := []
      moment := r.moment + hs.length })

/-- The history with a message at its end; the oldest one gives way when the history is full. -/
def keep (r : Registry M) (message : M) : List M :=
  (if r.history.length = r.capacity then r.history.drop 1 else r.history) ++ [message]

/-- The record of a message that was published. -/
def published (message : M) (accepted : Nat) : LogRecord :=
  .debug "published message"
    [("kind", Stamped.kind message), ("timestamp", toString (Stamped.timestamp message).toInt),
      ("accepted", toString accepted)]

/-- Keep a message and hand it to all listeners. The result is how many accepted it. -/
def publish (message : M) (r : Registry M) : Result M Nat :=
  conclude { r with history := r.keep message } (r.registrations.map fun l => (l, message)) id
    (published message)

/-- Publish messages in turn. The result is how often one was accepted. -/
def publishAll : List M → Registry M → Result M Nat
  | [], r => (0, [], r)
  | m :: ms, r =>
    let (n, notices, r) := r.publish m
    let (k, more, r) := publishAll ms r
    (n + k, notices ++ more, r)

/-- Put a listener under a handle: in the place of the one there, else at the end. -/
def put (id : ListenerId) (listener : Listener M) : List (Registration M) → List (Registration M)
  | [] => [⟨id, listener⟩]
  | r :: rs => if r.id = id then ⟨id, listener⟩ :: rs else r :: put id listener rs

/-- Whether a message is newer than a mark. -/
def isNewer (mark : Option Int64) (message : M) : Bool :=
  match mark with
  | some t => !(Stamped.timestamp message ≤ t)
  | none => true

/-- The kept messages that a listener is handed when it registers under a handle. -/
def missed (r : Registry M) (id : ListenerId) : List M :=
  r.history.filter (isNewer (r.marks.get? id))

/-- The record of a registration. -/
def registered (id : ListenerId) (replayed : Nat) : LogRecord :=
  .debug "listener registered" [("listener", id.text), ("replayed", toString replayed)]

/-- Register a listener under a handle, in place of one that has it, and hand it what it missed.
The result is how many messages that were. -/
def register (id : ListenerId) (listener : Listener M) (r : Registry M) : Result M Nat :=
  let hs := (r.missed id).map fun m => (⟨id, listener⟩, m)
  conclude { r with registrations := put id listener r.registrations } hs (fun _ => hs.length)
    (fun _ => registered id hs.length)

/-- Whether a handle is in use. -/
def contains (id : ListenerId) (r : Registry M) : Bool := r.registrations.any fun l => l.id = id

/-- The record of a removal. -/
def removed (id : ListenerId) : LogRecord := .debug "listener removed" [("listener", id.text)]

/-- Stop handing messages to a handle; its mark is kept. The result is whether it was in use. -/
def remove (id : ListenerId) (r : Registry M) : Result M Bool :=
  if r.contains id then
    (true, [.logged (removed id)], { r with registrations := without [id] r.registrations })
  else (false, [], r)

/-- Forget all listeners, marks and messages. -/
def reset (r : Registry M) : Registry M :=
  { capacity := r.capacity, capacity_pos := r.capacity_pos }

/-- The newest timestamp handed to a handle. -/
def mark? (id : ListenerId) (r : Registry M) : Option Int64 := r.marks.get? id

end Registry
end Messenger
