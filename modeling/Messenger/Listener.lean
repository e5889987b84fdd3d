import Messenger.Log

set_option autoImplicit false

/-! # Listeners

A listener is called with each message that is handed to it. What it does is data: the requests it
makes of the registry while it is being called, and how the call ends. A request made from inside a
call is answered at once, so the answers are values too. A listener may remember earlier calls and
share what it knows with others, so what it does depends on the *moment* as well as on the message:
the number of calls that the registry made before. -/

namespace Messenger

/-- The handle under which a listener is registered. -/
structure ListenerId where
  text : String
deriving DecidableEq, Repr

/-- What a registry needs to know of a message. -/
class Stamped (M : Type) where
  /-- The sender's timestamp. -/
  timestamp : M → Int64
  /-- The name of the kind of message. -/
  kind : M → String

/-- How the call of a listener ends. -/
inductive Outcome where
  | accepted
  | failed (message : String)
  | crashed
deriving DecidableEq, Repr

/-- What a listener may request of the registry that is calling it. -/
inductive Request (M : Type) where
  | publish (message : M)
  /-- Publish several messages in turn. -/
  | publishAll (messages : List M)
  | register (id : ListenerId)
  /-- Register under a handle that is not in use. -/
  | registerFresh
  | remove (id : ListenerId)
  | reset
  | contains (id : ListenerId)
  | mark (id : ListenerId)
  | count
  | buffered
  | capacity
  | snapshot
deriving Repr

/-- What a registry answers. -/
inductive Answer (M : Type) where
  | nothing
  | count (n : Nat)
  | flag (b : Bool)
  | mark (timestamp : Option Int64)
  | messages (ms : List M)
deriving Repr

/-- A listener: a label that tells it from others, and what it does at a moment with a message. -/
structure Listener (M : Type) where
  label : String
  react : (moment : Nat) → M → List (Request M) × Outcome

/-- What can be seen of the work of a registry, in order. -/
inductive Notice (M : Type) where
  /-- A message was handed to the listener registered under a handle. -/
  | handed (id : ListenerId) (label : String) (message : M)
  /-- A listener made a request while it was being called. -/
  | requested (label : String) (request : Request M) (answer : Answer M)
  | logged (record : LogRecord)

end Messenger
