import Messenger.Stream.Worker

set_option autoImplicit false

/-! # A worker from wait to wait

An occurrence takes a worker through everything that follows from it. Seen more closely, a worker
waits in several places, also while it has taken some lines of a chunk and looks for the title of a
group, and it can be cancelled in each of them. A `Moment` says how far it is; a `Turn` is what
happens next, chosen by the surroundings; a turn that does not fit its moment changes nothing. What
a worker shows by the way is a list of `Sign`s.

Turns are a finer account of the same worker: whatever occurrences do to a feed is done by turns
(`Feed.reaches_steps`, `Feed.reaches_run`), and turns without a cancellation do nothing else
(`Moment.proceeds_course`). -/

namespace Messenger.Stream

variable {σ : Type}

/-! ## Moments -/

/-- How far a worker is. -/
inductive Stage where
  /-- It was started and has done nothing yet. -/
  | fresh
  /-- It is about to connect, at the beginning or after a pause. -/
  | due
  /-- It is connecting and has not asked for the stream yet. -/
  | opening
  /-- It has asked for the stream and waits for an answer. -/
  | waiting
  /-- It takes lines, and waits for bytes when there are none, unless the stream has ended. -/
  | taking (items : List (Except LogRecord String)) (hasEnded : Bool)
  /-- It waits for the title that belongs to a payload, with lines still to take. -/
  | sorting (payload : String) (items : List (Except LogRecord String)) (hasEnded : Bool)
  /-- The connection is over, and this is to be recorded of it. -/
  | ended (record : LogRecord)
  | pausing
  | over

/-- A worker on its way. -/
structure Moment (σ : Type) where
  feed : Feed σ
  stage : Stage := .fresh
  /-- Whether somebody asked the worker to stop. -/
  isCancelled : Bool := false

/-- What a worker shows. -/
inductive Sign where
  /-- It is in this state from now on. -/
  | entered (state : WorkerState)
  /-- It asked for the event stream. -/
  | asked
  /-- There was an answer with a status, or none and will be none. -/
  | answered (status : Option Nat)
  | published (message : Message)
  /-- A record, or something that a listener did. -/
  | noticed (notice : Notice Message)
  /-- Somebody asked it to stop. -/
  | cancelled

/-- What happens next. -/
inductive Turn (σ : Type) where
  /-- Somebody asks the worker to stop. -/
  | cancel
  /-- Others use the registry, the resolver or the daemon. -/
  | others (registry : Registry Message) (around : σ)
  /-- The worker goes on by itself, or, at a wait, finds that it is cancelled. -/
  | go
  /-- There is an answer with a status, or none and will be none. -/
  | answer (status : Option Nat)
  | chunk (bytes : List UInt8)
  | close
  /-- Reading fails. -/
  | breakOff
  /-- The title of a payload is found, or is not to be found. -/
  | found
  /-- The pause is over. -/
  | wake

/-- Whether an answer opens the stream. -/
def opensStream (status : Option Nat) : Bool := status.any isSuccessStatus

/-- The record of a connection that was refused or broke. -/
def failureRecord : LogRecord := .warn "event stream failed"

/-- The record of a connection that the daemon closed. -/
def closeRecord : LogRecord := .info "event stream closed by daemon"

namespace Moment

/-- The worker at another stage, with another feed. -/
def move (stage : Stage) (feed : Feed σ) (μ : Moment σ) : Moment σ := { μ with stage, feed }

/-- Stop for good. -/
def stop (μ : Moment σ) : List Sign × Moment σ :=
  (.entered .stopped :: μ.feed.stop.1.map .noticed, μ.move .over μ.feed.stop.2)

/-- Take a line, or the record of one that was lost. -/
def takeItem (item : Except LogRecord String) (items : List (Except LogRecord String))
    (hasEnded : Bool) (μ : Moment σ) : List Sign × Moment σ :=
  match item with
  | .error record => ([.noticed (.logged record)], μ.move (.taking items hasEnded) μ.feed)
  | .ok line =>
    let (payload, framer) := μ.feed.worker.framer.feed line
    let feed := { μ.feed with worker := { μ.feed.worker with framer } }
    match payload with
    | none => ([], μ.move (.taking items hasEnded) feed)
    | some payload => ([], μ.move (.sorting payload items hasEnded) feed)

/-- Classify a payload whose title is found, and publish the message that it yields. -/
def sort (resolver : Event.Resolver σ) (payload : String) (items : List (Except LogRecord String))
    (hasEnded : Bool) (μ : Moment σ) : List Sign × Moment σ :=
  let (classification, log, around) := Event.classifyText resolver payload μ.feed.around
  let records := log.map fun r => Sign.noticed (.logged r)
  match classification with
  | .error _ => (records, μ.move (.taking items hasEnded) { μ.feed with around })
  | .ok message =>
    let (_, notices, registry) := μ.feed.registry.publish message
    (records ++ .published message :: notices.map .noticed,
      μ.move (.taking items hasEnded) { μ.feed with around, registry })

/-- Go on without waiting for anything. -/
def goOn (μ : Moment σ) : List Sign × Moment σ :=
  match μ.stage with
  | .fresh =>
    ([.noticed (μ.feed.noted "event stream worker started")], μ.move .due μ.feed)
  | .due => ([.entered .connecting], μ.move .opening (μ.feed.moveTo .connecting))
  | .opening => ([.asked], μ.move .waiting μ.feed)
  | .taking [] true => ([], μ.move (.ended closeRecord) μ.feed)
  | .taking (item :: items) hasEnded => μ.takeItem item items hasEnded
  | .ended record =>
    ([.noticed (.logged record), .entered .backoff], μ.move .pausing (μ.feed.moveTo .backoff))
  | _ => ([], μ)

/-- Whether a worker heeds a cancellation here: at every wait, before it connects, and before it
pauses. -/
def heeds (μ : Moment σ) : Bool :=
  match μ.stage with
  | .fresh | .taking [] true | .taking (_ :: _) _ | .over => false
  | _ => true

/-- Find out about a cancellation; the end of a connection is recorded all the same. -/
def giveUp (μ : Moment σ) : List Sign × Moment σ :=
  match μ.stage with
  | .ended record => (.noticed (.logged record) :: μ.stop.1, μ.stop.2)
  | _ => μ.stop

/-- An answer came, or will never come. -/
def hear (status : Option Nat) (μ : Moment σ) : List Sign × Moment σ :=
  if opensStream status then
    ([.answered status, .entered .streaming, .noticed (μ.feed.noted "event stream connected")],
      μ.move (.taking [] false) { μ.feed with
        worker := { μ.feed.worker with state := .streaming, splitter := {}, framer := {} } })
  else ([.answered status], μ.move (.ended failureRecord) μ.feed)

/-- Bytes arrived. -/
def receive (bytes : List UInt8) (μ : Moment σ) : List Sign × Moment σ :=
  let (items, splitter) := μ.feed.worker.splitter.push bytes
  ([], μ.move (.taking items false) { μ.feed with worker := { μ.feed.worker with splitter } })

/-- A worker takes its turn. -/
def step (resolver : Event.Resolver σ) (t : Turn σ) (μ : Moment σ) : List Sign × Moment σ :=
  match t, μ.stage with
  | .cancel, _ => ([.cancelled], { μ with isCancelled := true })
  | .others registry around, stage => ([], μ.move stage { μ.feed with registry, around })
  | .go, _ => if μ.isCancelled && μ.heeds then μ.giveUp else μ.goOn
  | .answer status, .waiting => μ.hear status
  | .chunk bytes, .taking [] false => μ.receive bytes
  | .close, .taking [] false =>
    ([], μ.move (.taking (μ.feed.worker.splitter.finish.toList.map .ok) true) μ.feed)
  | .breakOff, .taking [] false => ([], μ.move (.ended failureRecord) μ.feed)
  | .found, .sorting payload items hasEnded => μ.sort resolver payload items hasEnded
  | .wake, .pausing => if μ.isCancelled then ([], μ) else ([], μ.move .due μ.feed)
  | _, _ => ([], μ)

/-- A worker takes turns. -/
def course (resolver : Event.Resolver σ) : List (Turn σ) → Moment σ → List Sign × Moment σ
  | [], μ => ([], μ)
  | t :: ts, μ =>
    let (signs, μ) := μ.step resolver t
    let (more, μ) := course resolver ts μ
    (signs ++ more, μ)

end Moment

end Messenger.Stream
