import Messenger.Event.Classify
import Messenger.Registry
import Messenger.Status
import Messenger.Stream.Connection
import Messenger.Stream.Framer
import Messenger.Stream.Lines

set_option autoImplicit false

/-! # Reading the event stream

A worker opens the event stream, publishes the messages that arrive, and opens the stream again,
after a pause, when it ends. It is described by what happens to it: each *occurrence* moves it from
one state to another, and an occurrence that does not fit its state changes nothing. Nothing that
was half received on one connection is carried over to the next one. -/

namespace Messenger

instance : Stamped Message where
  timestamp := Message.timestamp
  kind := Message.kind

namespace Stream

/-- What a worker is doing. -/
inductive WorkerState where
  /-- It has not begun, or it is stopped for good. -/
  | stopped
  /-- It waits for an answer. -/
  | connecting
  | streaming
  /-- It pauses before it connects again. -/
  | backoff
deriving DecidableEq, Repr

/-- The name of a state. -/
def WorkerState.name : WorkerState → String
  | .stopped => "stopped"
  | .connecting => "connecting"
  | .streaming => "streaming"
  | .backoff => "backoff"

/-- A worker. -/
structure Worker where
  /-- The address of the event stream, for records. -/
  address : String
  state : WorkerState := .stopped
  /-- Whether it is stopped for good. -/
  isOver : Bool := false
  /-- The part of a line that has arrived on the current connection. -/
  splitter : Splitter := {}
  /-- Whether the next payload of the current connection is wanted. -/
  framer : Framer := {}
deriving Repr

/-- What happens to a worker. -/
inductive Occurrence where
  /-- It is time to connect: at the beginning, or after a pause. -/
  | due
  /-- There is no answer and will be none. -/
  | refused
  /-- There is an answer. -/
  | opened (status : Nat)
  | received (chunk : List UInt8)
  | closed
  /-- Reading failed. -/
  | broken
  | cancelled
deriving Repr

/-- The occurrences of one attempt to connect. -/
def Connection.occurrences : Connection → List Occurrence
  | .refused => [.refused]
  | .silent => []
  | .answered status chunks ending =>
    .opened status :: (chunks.map .received ++ match ending with
      | .closed => [.closed]
      | .broken => [.broken]
      | .pending => [])

/-- A worker, the registry to which it publishes, and the state of the resolver of titles. -/
structure Feed (σ : Type) where
  worker : Worker
  registry : Registry Message
  around : σ

namespace Feed

variable {σ : Type}

/-- Classify a payload, and publish the message that it yields. -/
def takePayload (resolver : Event.Resolver σ) (payload : String) (f : Feed σ) :
    List (Notice Message) × Feed σ :=
  let (classification, log, around) := Event.classifyText resolver payload f.around
  let f := { f with around }
  match classification with
  | .error _ => (log.map .logged, f)
  | .ok message =>
    let (_, notices, registry) := f.registry.publish message
    (log.map .logged ++ notices, { f with registry })

/-- Take a line, or the record of one that was lost. -/
def takeLine (resolver : Event.Resolver σ) (item : Except LogRecord String) (f : Feed σ) :
    List (Notice Message) × Feed σ :=
  match item with
  | .error record => ([.logged record], f)
  | .ok line =>
    let (payload, framer) := f.worker.framer.feed line
    let f := { f with worker := { f.worker with framer } }
    match payload with
    | none => ([], f)
    | some payload => f.takePayload resolver payload

/-- Take lines in turn. -/
def takeLines (resolver : Event.Resolver σ) :
    List (Except LogRecord String) → Feed σ → List (Notice Message) × Feed σ
  | [], f => ([], f)
  | item :: items, f =>
    let (notices, f) := f.takeLine resolver item
    let (more, f) := takeLines resolver items f
    (notices ++ more, f)

/-- The feed with its worker in a state. -/
def moveTo (state : WorkerState) (f : Feed σ) : Feed σ :=
  { f with worker := { f.worker with state } }

/-- A record of the beginning of something at the address of the stream. -/
def noted (message : String) (f : Feed σ) : Notice Message :=
  .logged (.info message [("url", f.worker.address)])

/-- The record of a connection that failed. -/
def failed : Notice Message := .logged (.warn "event stream failed")

/-- The worker begins a pause. -/
def pause (notice : Notice Message) (f : Feed σ) : List (Notice Message) × Feed σ :=
  ([notice], f.moveTo .backoff)

/-- Stop the worker for good. -/
def stop (f : Feed σ) : List (Notice Message) × Feed σ :=
  ([.logged (.info "event stream worker stopped")],
    { f with worker := { f.worker with state := .stopped, isOver := true } })

/-- A worker moves on with an occurrence. -/
def step (resolver : Event.Resolver σ) (o : Occurrence) (f : Feed σ) :
    List (Notice Message) × Feed σ :=
  if f.worker.isOver then ([], f)
  else match f.worker.state, o with
    | .stopped, .due => ([f.noted "event stream worker started"], f.moveTo .connecting)
    | .stopped, .cancelled =>
      let (notices, f') := f.stop
      (f.noted "event stream worker started" :: notices, f')
    | .backoff, .due => ([], f.moveTo .connecting)
    | .connecting, .refused => f.pause failed
    | .connecting, .opened status =>
      if isSuccessStatus status then
        ([f.noted "event stream connected"],
          { f with worker := { f.worker with state := .streaming, splitter := {}, framer := {} } })
      else f.pause failed
    | .streaming, .received chunk =>
      let (items, splitter) := f.worker.splitter.push chunk
      takeLines resolver items { f with worker := { f.worker with splitter } }
    | .streaming, .closed =>
      let (notices, f) := takeLines resolver (f.worker.splitter.finish.toList.map .ok) f
      let (more, f) := f.pause (.logged (.info "event stream closed by daemon"))
      (notices ++ more, f)
    | .streaming, .broken => f.pause failed
    | _, .cancelled => f.stop
    | _, _ => ([], f)

/-- Let occurrences happen in turn. -/
def steps (resolver : Event.Resolver σ) :
    List Occurrence → Feed σ → List (Notice Message) × Feed σ
  | [], f => ([], f)
  | o :: os, f =>
    let (notices, f) := f.step resolver o
    let (more, f) := steps resolver os f
    (notices ++ more, f)

/-- Whether the worker is about to connect. -/
def isDue (f : Feed σ) : Bool :=
  !f.worker.isOver && (f.worker.state == .stopped || f.worker.state == .backoff)

/-- Connect up to `attempts` times, or until a connection is still open or unanswered. `listen` is
how the daemon answers. -/
def run (listen : σ → Connection × σ) (resolver : Event.Resolver σ) :
    (attempts : Nat) → Feed σ → List (Notice Message) × Feed σ
  | 0, f => ([], f)
  | attempts + 1, f =>
    if f.isDue then
      let (notices, f) := f.step resolver .due
      let (connection, around) := listen f.around
      let (more, f) := steps resolver connection.occurrences { f with around }
      let (rest, f) := run listen resolver attempts f
      (notices ++ more ++ rest, f)
    else ([], f)

end Feed
end Stream
end Messenger
