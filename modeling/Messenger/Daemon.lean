import Messenger.Endpoint
import Messenger.Log
import Messenger.Rpc.Reply
import Messenger.Rpc.Request
import Messenger.Stream.Connection

set_option autoImplicit false

/-! # Talking to a daemon

A daemon is whatever answers requests, in a state of its own that the answers may depend on. A
*link* holds that state together with what this side needs in order to ask: the addresses of the
daemon and the sequence of identifiers. Every call uses one identifier and accepts the reply to it
only. -/

namespace Messenger

open Json

/-- How a daemon answers, depending on its state. -/
structure Daemon (δ : Type) where
  /-- Answer a call at an address. There may be no answer. -/
  call : Url → Rpc.Request → δ → Option Rpc.Response × δ
  /-- Answer an attempt to open the event stream at an address. -/
  listen : Url → δ → Stream.Connection × δ

/-- A link to a daemon. -/
structure Link (δ : Type) where
  endpoint : Endpoint
  sequence : Rpc.Sequence := {}
  /-- The state of the daemon. -/
  daemon : δ

/-- What a daemon is asked. -/
inductive Demand where
  | call (address : Url) (request : Rpc.Request)
  | listen (address : Url)
deriving Repr

namespace Daemon

variable {δ : Type}

/-- A daemon that nobody can reach. -/
def unreachable : Daemon δ where
  call _ _ s := (none, s)
  listen _ s := (.refused, s)

/-- A daemon that keeps a record of what it is asked, oldest first, beside its state. -/
def recorded (d : Daemon δ) : Daemon (δ × List Demand) where
  call url request s :=
    let (answer, state) := d.call url request s.1
    (answer, state, s.2 ++ [.call url request])
  listen url s :=
    let (answer, state) := d.listen url s.1
    (answer, state, s.2 ++ [.listen url])

end Daemon

namespace Link

variable {δ : Type}

/-- The record of a reply that was refused. -/
def rejected (method id : String) : Except Rpc.Error Value → List LogRecord
  | .error (.refused status _) =>
    [.warn "rpc call rejected"
      [("method", method), ("id", id), ("status", toString status)]]
  | _ => []

/-- Call a method, under a chosen identifier unless that is missing or blank. -/
def call (d : Daemon δ) (method : String) (params : Value) (chosen : Option String)
    (l : Link δ) : Except Rpc.Error Value × List LogRecord × Link δ :=
  let (id, sequence) := l.sequence.identify chosen method
  let (response, daemon) := d.call l.endpoint.rpc ⟨id, method, params⟩ l.daemon
  let result := match response with
    | none => .error .unreachable
    | some r => r.resultFor id
  (result, rejected method id result, { l with sequence, daemon })

/-- Attempt to open the event stream. -/
def listen (d : Daemon δ) (l : Link δ) : Stream.Connection × Link δ :=
  let (connection, daemon) := d.listen l.endpoint.events l.daemon
  (connection, { l with daemon })

end Link
end Messenger
