import Messenger.Proofs.Stream.Reconnect

set_option autoImplicit false

/-! # A connection as a whole

The bytes of a connection arrive in chunks, and a worker takes the lines that each of them
completes. Where the chunks end makes no difference to anything that it does: from the moment the
connection is open it takes the lines of all bytes, one after another, and what is left over if the
daemon ends the stream (`Feed.steps_answered`).

So what a connection amounts to can be said without chunks: there is a list of messages that it
*publishes*, whatever the registry keeps and whoever listens (`publishes_answered`). -/

namespace Messenger

variable {σ : Type}

/-! ## Publishing several messages -/

namespace Registry

variable {M : Type} [Stamped M]

theorem publishAll_append (ms more : List M) (r : Registry M) :
    (r.publishAll (ms ++ more)).2
      = ((r.publishAll ms).2.1 ++ ((r.publishAll ms).2.2.publishAll more).2.1,
          ((r.publishAll ms).2.2.publishAll more).2.2) := by
  induction ms generalizing r with
  | nil => rfl
  | cons m ms ih => simp only [List.cons_append, publishAll, ih, List.append_assoc]

/-- A registry with enough room keeps all messages that are published. -/
theorem history_publishAll (ms : List M) {r : Registry M}
    (hroom : r.history.length + ms.length ≤ r.capacity) :
    (r.publishAll ms).2.2.history = r.history ++ ms := by
  induction ms generalizing r with
  | nil => exact (List.append_nil _).symm
  | cons m ms ih =>
      rw [List.length_cons] at hroom
      have hkeep : (r.publish m).2.2.history = r.history ++ [m] := by
        show r.keep m = _
        rw [keep, if_neg (by omega)]
      have hlater : (r.publish m).2.2.history.length + ms.length ≤ (r.publish m).2.2.capacity := by
        rw [hkeep, List.length_append, List.length_singleton]
        exact le_trans (by omega) hroom
      show ((r.publish m).2.2.publishAll ms).2.2.history = _
      rw [ih hlater, hkeep, List.append_assoc]
      rfl

end Registry

/-- What is seen besides records. -/
def unlogged {M : Type} (ns : List (Notice M)) : List (Notice M) :=
  ns.filter fun
    | .logged _ => false
    | _ => true

@[simp] theorem unlogged_append {M : Type} (ns more : List (Notice M)) :
    unlogged (ns ++ more) = unlogged ns ++ unlogged more :=
  List.filter_append _ _

@[simp] theorem unlogged_logged {M : Type} (log : List LogRecord) :
    unlogged (log.map (.logged : LogRecord → Notice M)) = [] := by
  simp [unlogged]

@[simp] theorem unlogged_cons_logged {M : Type} (r : LogRecord) (ns : List (Notice M)) :
    unlogged (.logged r :: ns) = unlogged ns :=
  rfl

namespace Stream

/-! ## Lines of a connection -/

/-- What is read of some bytes where a connection ends: their lines, and what is left over if the
daemon ends the stream. -/
def Ending.items (ending : Ending) (bytes : List UInt8) : List (Except LogRecord String) :=
  (segments bytes).1.map lineOf ++ match ending with
    | .closed => (⟨(segments bytes).2⟩ : Splitter).finish.toList.map .ok
    | .broken => []
    | .pending => []

/-- The lines of a connection are the texts among what is read of it. -/
theorem Connection.lines_answered {status : Nat} (hstatus : isSuccessStatus status = true)
    (chunks : List (List UInt8)) (ending : Ending) :
    (Connection.answered status chunks ending).lines
      = completed (ending.items chunks.flatten) := by
  rw [Connection.lines, if_pos hstatus]
  cases ending with
  | closed =>
      simp [Ending.chunks, Ending.items, splitLines, splitFrom, Splitter.push, linesOf_append,
        completed_append]
  | broken =>
      simp [Ending.chunks, Ending.items, splitLines, splitFrom, Splitter.push, linesOf_append]
      rfl
  | pending =>
      simp [Ending.chunks, Ending.items, splitLines, splitFrom, Splitter.push, linesOf_append]
      rfl

/-! ## Taking lines -/

namespace Feed

/-- The feed with other bytes waiting. -/
def withSplitter (s : Splitter) (f : Feed σ) : Feed σ :=
  { f with worker := { f.worker with splitter := s } }

variable (resolver : Event.Resolver σ)

theorem takeLines_append (items more : List (Except LogRecord String)) (f : Feed σ) :
    takeLines resolver (items ++ more) f
      = ((takeLines resolver items f).1
            ++ (takeLines resolver more (takeLines resolver items f).2).1,
          (takeLines resolver more (takeLines resolver items f).2).2) := by
  induction items generalizing f with
  | nil => rfl
  | cons item items ih => simp only [List.cons_append, takeLines, ih, List.append_assoc]

/-- Taking a line leaves the bytes that wait alone. -/
theorem takeLine_withSplitter (item : Except LogRecord String) (s : Splitter) (f : Feed σ) :
    (f.withSplitter s).takeLine resolver item
      = ((f.takeLine resolver item).1, (f.takeLine resolver item).2.withSplitter s) := by
  cases item with
  | error record => rfl
  | ok line =>
      rcases hfeed : f.worker.framer.feed line with ⟨payload, framer⟩
      cases payload with
      | none => simp only [takeLine, withSplitter, hfeed]
      | some payload =>
          rcases hclass : Event.classifyText resolver payload f.around with
            ⟨classification, log, around⟩
          cases classification <;> simp only [takeLine, withSplitter, hfeed, takePayload, hclass]

theorem takeLines_withSplitter (items : List (Except LogRecord String)) (s : Splitter)
    (f : Feed σ) :
    takeLines resolver items (f.withSplitter s)
      = ((takeLines resolver items f).1, (takeLines resolver items f).2.withSplitter s) := by
  induction items generalizing f with
  | nil => rfl
  | cons item items ih => simp only [takeLines, takeLine_withSplitter, ih]

/-- Taking lines, a worker stays in its state. -/
theorem takeLines_state (items : List (Except LogRecord String)) (f : Feed σ) :
    (takeLines resolver items f).2.worker.isOver = f.worker.isOver
      ∧ (takeLines resolver items f).2.worker.state = f.worker.state := by
  induction items generalizing f with
  | nil => exact ⟨rfl, rfl⟩
  | cons item items ih =>
      have hline : (f.takeLine resolver item).2.worker.isOver = f.worker.isOver
          ∧ (f.takeLine resolver item).2.worker.state = f.worker.state := by
        cases item with
        | error record => exact ⟨rfl, rfl⟩
        | ok line =>
            rcases hfeed : f.worker.framer.feed line with ⟨payload, framer⟩
            cases payload with
            | none => simp only [takeLine, hfeed, and_self]
            | some payload =>
                rcases hclass : Event.classifyText resolver payload f.around with
                  ⟨classification, log, around⟩
                cases classification <;> simp only [takeLine, hfeed, takePayload, hclass, and_self]
      simp only [takeLines, ih, hline, and_self]

/-! ## Whole connections -/

variable {resolver}

theorem steps_cons (o : Occurrence) (os : List Occurrence) (f : Feed σ) :
    f.steps resolver (o :: os)
      = ((f.step resolver o).1 ++ ((f.step resolver o).2.steps resolver os).1,
          ((f.step resolver o).2.steps resolver os).2) :=
  rfl

theorem steps_append (os more : List Occurrence) (f : Feed σ) :
    f.steps resolver (os ++ more)
      = ((f.steps resolver os).1 ++ ((f.steps resolver os).2.steps resolver more).1,
          ((f.steps resolver os).2.steps resolver more).2) := by
  induction os generalizing f with
  | nil => rfl
  | cons o os ih => simp only [List.cons_append, steps_cons, ih, List.append_assoc]

theorem step_received {f : Feed σ} (hover : f.worker.isOver = false)
    (hstate : f.worker.state = .streaming) (chunk : List UInt8) :
    f.step resolver (.received chunk)
      = takeLines resolver (f.worker.splitter.push chunk).1
          (f.withSplitter (f.worker.splitter.push chunk).2) := by
  unfold step
  rw [if_neg (ne_true_of_eq_false hover), hstate]
  rfl

/-- Chunks that arrive one after another are taken as one. -/
theorem steps_received (chunk : List UInt8) (chunks : List (List UInt8)) {f : Feed σ}
    (hover : f.worker.isOver = false) (hstate : f.worker.state = .streaming) :
    f.steps resolver (.received chunk :: chunks.map .received)
      = takeLines resolver (f.worker.splitter.push (chunk ++ chunks.flatten)).1
          (f.withSplitter (f.worker.splitter.push (chunk ++ chunks.flatten)).2) := by
  induction chunks generalizing chunk f with
  | nil =>
      simp only [List.map_nil, steps, step_received hover hstate, List.flatten_nil, List.append_nil]
  | cons next chunks ih =>
      set first := f.worker.splitter.push chunk with hfirst
      have hnow : f.step resolver (.received chunk)
          = ((takeLines resolver first.1 f).1,
              (takeLines resolver first.1 f).2.withSplitter first.2) := by
        rw [step_received hover hstate, takeLines_withSplitter]
      obtain ⟨hover', hstate'⟩ := takeLines_state resolver first.1 f
      have hrest := ih next (f := (takeLines resolver first.1 f).2.withSplitter first.2)
        (hover'.trans hover) (hstate'.trans hstate)
      have hwaiting : ((takeLines resolver first.1 f).2.withSplitter first.2).worker.splitter
          = first.2 := rfl
      have htwice (s s' : Splitter) (g : Feed σ) :
          (g.withSplitter s).withSplitter s' = g.withSplitter s' := rfl
      rw [hwaiting, htwice] at hrest
      have hall := f.worker.splitter.push_append chunk (next ++ chunks.flatten)
      rw [← hfirst] at hall
      rw [List.map_cons, steps_cons, hnow, hrest, List.flatten_cons, hall, takeLines_append]
      simp only [takeLines_withSplitter]

/-- The feed when a connection is opened, with some bytes waiting. -/
def opened (waiting : Splitter) (f : Feed σ) : Feed σ :=
  { f with worker := { f.worker with state := .streaming, splitter := waiting, framer := {} } }

/-- The feed when a connection has come to its end. -/
def conclude (ending : Ending) (f : Feed σ) : List (Notice Message) × Feed σ :=
  match ending with
  | .closed => f.pause (.logged (.info "event stream closed by daemon"))
  | .broken => f.pause failed
  | .pending => ([], f)

/-- What a worker does on an open connection: it takes the lines of all bytes. -/
def readAll (resolver : Event.Resolver σ) (bytes : List UInt8) (ending : Ending) (f : Feed σ) :
    List (Notice Message) × Feed σ :=
  let (notices, f') := takeLines resolver (ending.items bytes) (f.opened ⟨(segments bytes).2⟩)
  let (more, f') := f'.conclude ending
  (f.noted "event stream connected" :: notices ++ more, f')

/-- The occurrence at the end of an open connection. -/
theorem steps_ending (ending : Ending) {f : Feed σ} (hover : f.worker.isOver = false)
    (hstate : f.worker.state = .streaming) :
    f.steps resolver ending.occurrences
      = let left := match ending with
          | .closed => f.worker.splitter.finish.toList.map .ok
          | _ => []
        let read := takeLines resolver left f
        (read.1 ++ (read.2.conclude ending).1, (read.2.conclude ending).2) := by
  cases ending with
  | closed =>
      unfold Ending.occurrences steps step
      rw [if_neg (ne_true_of_eq_false hover), hstate]
      simp only [steps, List.append_nil]
      rfl
  | broken =>
      unfold Ending.occurrences steps step
      rw [if_neg (ne_true_of_eq_false hover), hstate]
      rfl
  | pending => rfl

/-- **Where chunks end makes no difference to a worker.** -/
theorem steps_answered {f : Feed σ} (hover : f.worker.isOver = false)
    (hstate : f.worker.state = .connecting) {status : Nat}
    (hstatus : isSuccessStatus status = true) (chunks : List (List UInt8)) (ending : Ending) :
    f.steps resolver (Connection.answered status chunks ending).occurrences
      = f.readAll resolver chunks.flatten ending := by
  have hopen : f.step resolver (.opened status)
      = ([f.noted "event stream connected"], f.opened {}) := by
    unfold step
    rw [if_neg (ne_true_of_eq_false hover), hstate]
    exact if_pos hstatus
  -- An empty chunk in front changes nothing, so there is always a first one.
  have hempty : (f.opened {}).step resolver (.received []) = ([], f.opened {}) :=
    step_received (f := f.opened {}) hover rfl []
  have hchunks : (f.opened {}).steps resolver (chunks.map .received)
      = takeLines resolver ((segments chunks.flatten).1.map lineOf)
          (f.opened ⟨(segments chunks.flatten).2⟩) := by
    have h := @steps_received σ resolver [] chunks (f.opened {}) hover rfl
    rw [steps_cons, hempty] at h
    exact h
  rw [Connection.occurrences_answered, steps_cons, hopen, steps_append, hchunks]
  obtain ⟨hover', hstate'⟩ := takeLines_state resolver ((segments chunks.flatten).1.map lineOf)
    (f.opened ⟨(segments chunks.flatten).2⟩)
  have hwaiting : (takeLines resolver ((segments chunks.flatten).1.map lineOf)
      (f.opened ⟨(segments chunks.flatten).2⟩)).2.worker.splitter
        = ⟨(segments chunks.flatten).2⟩ := by
    have hcommute := takeLines_withSplitter resolver ((segments chunks.flatten).1.map lineOf)
      ⟨(segments chunks.flatten).2⟩ (f.opened ⟨(segments chunks.flatten).2⟩)
    exact congrArg (fun r => r.2.worker.splitter) hcommute
  simp only [steps_ending ending (hover'.trans hover) hstate', hwaiting, readAll, Ending.items,
    takeLines_append]
  cases ending <;> simp [takeLines]

/-- A worker in a pause takes no notice of what is left of a connection. -/
theorem steps_idle {f : Feed σ} (hstate : f.worker.state = .backoff) (chunks : List (List UInt8))
    (ending : Ending) :
    f.steps resolver (chunks.map .received ++ ending.occurrences) = ([], f) := by
  have hstep (o : Occurrence) (ho : (∃ chunk, o = .received chunk) ∨ o = .closed ∨ o = .broken) :
      f.step resolver o = ([], f) := by
    unfold step
    rw [hstate]
    obtain ⟨chunk, rfl⟩ | rfl | rfl := ho <;> exact ite_self _
  induction chunks with
  | nil =>
      cases ending with
      | closed => simp [Ending.occurrences, steps, hstep]
      | broken => simp [Ending.occurrences, steps, hstep]
      | pending => rfl
  | cons chunk chunks ih =>
      rw [List.map_cons, List.cons_append, steps_cons, hstep _ (.inl ⟨chunk, rfl⟩), ih]
      rfl

/-- An answer other than success ends the connection, whatever comes with it. -/
theorem steps_rejected {f : Feed σ} (hover : f.worker.isOver = false)
    (hstate : f.worker.state = .connecting) {status : Nat}
    (hstatus : isSuccessStatus status = false) (chunks : List (List UInt8)) (ending : Ending) :
    f.steps resolver (Connection.answered status chunks ending).occurrences = f.pause failed := by
  have hopen : f.step resolver (.opened status) = f.pause failed := by
    unfold step
    rw [if_neg (ne_true_of_eq_false hover), hstate]
    exact if_neg (ne_true_of_eq_false hstatus)
  rw [Connection.occurrences_answered, steps_cons, hopen, steps_idle rfl]
  rfl

/-! ## What is published -/

/-- A stretch of a feed publishes `ms` and nothing else: the registry and all that is seen besides
records are as if the messages had been published one by one. The resolver is left as `s`. -/
structure Publishing (before : Registry Message) (result : List (Notice Message) × Feed σ)
    (ms : List Message) (s : σ) : Prop where
  registry : result.2.registry = (before.publishAll ms).2.2
  seen : unlogged result.1 = unlogged (before.publishAll ms).2.1
  around : result.2.around = s

/-- Stretches that publish follow each other. -/
theorem Publishing.trans {before : Registry Message}
    {first second : List (Notice Message) × Feed σ} {ms more : List Message} {s s' : σ}
    (h : Publishing before first ms s) (h' : Publishing first.2.registry second more s') :
    Publishing before (first.1 ++ second.1, second.2) (ms ++ more) s' where
  registry := by
    show second.2.registry = _
    rw [Registry.publishAll_append, h'.registry, h.registry]
  seen := by
    rw [Registry.publishAll_append, unlogged_append, unlogged_append, h.seen, h'.seen, h.registry]
  around := h'.around

/-- A stretch that shows only records and leaves the registry alone publishes nothing. -/
theorem publishing_of_logged (f : Feed σ) (log : List LogRecord) (w : Worker) (s : σ) :
    Publishing f.registry (log.map .logged, { worker := w, registry := f.registry, around := s })
      [] s where
  registry := rfl
  seen := unlogged_logged log
  around := rfl

/-- A line publishes the message of the payload that it releases, if any. -/
theorem publishing_takeLine (resolver : Event.Resolver σ) (item : Except LogRecord String)
    (f : Feed σ) :
    let fed := f.worker.framer.feedAll (completed [item])
    let messages := Event.messages resolver fed.1 f.around
    Publishing f.registry (f.takeLine resolver item) messages.1 messages.2
      ∧ (f.takeLine resolver item).2.worker.framer = fed.2 := by
  intro fed messages
  cases item with
  | error record => exact ⟨publishing_of_logged f [record] f.worker f.around, rfl⟩
  | ok line =>
      rcases hfeed : f.worker.framer.feed line with ⟨payload, framer⟩
      have hfed : fed = (payload.toList, framer) := by
        show f.worker.framer.feedAll [line] = _
        simp only [Framer.feedAll, hfeed, List.append_nil]
      have hmessages : messages = Event.messages resolver payload.toList f.around := by
        simp only [messages, hfed]
      rw [hmessages, hfed]
      cases payload with
      | none =>
          simp only [takeLine, hfeed, and_true]
          exact publishing_of_logged f [] { f.worker with framer } f.around
      | some payload =>
          rcases hclass : Event.classifyText resolver payload f.around with
            ⟨classification, log, around⟩
          cases classification with
          | error reason =>
              simp only [takeLine, hfeed, takePayload, hclass, Option.toList_some, Event.messages,
                and_true]
              exact publishing_of_logged f log { f.worker with framer } around
          | ok message =>
              simp only [takeLine, hfeed, takePayload, hclass, Option.toList_some, Event.messages,
                and_true]
              refine ⟨rfl, ?_, rfl⟩
              simp [Except.toOption, Registry.publishAll]

/-- **Lines publish the messages of the payloads that they release**, in order and once each. -/
theorem publishing_takeLines (resolver : Event.Resolver σ) (items : List (Except LogRecord String))
    (f : Feed σ) :
    let fed := f.worker.framer.feedAll (completed items)
    let messages := Event.messages resolver fed.1 f.around
    Publishing f.registry (takeLines resolver items f) messages.1 messages.2 := by
  induction items generalizing f with
  | nil => exact publishing_of_logged f [] f.worker f.around
  | cons item items ih =>
      obtain ⟨first, hframer⟩ := publishing_takeLine resolver item f
      have rest := ih (f.takeLine resolver item).2
      have hitems : completed (item :: items) = completed [item] ++ completed items :=
        completed_append [item] items
      rw [hframer, first.around] at rest
      simp only [hitems, Framer.feedAll_append, Event.messages_append]
      exact first.trans rest

end Feed

/-- A worker that waits for an answer. -/
def Worker.Awaits (w : Worker) : Prop := w.isOver = false ∧ w.state = .connecting

instance (w : Worker) : Decidable w.Awaits := inferInstanceAs (Decidable (_ ∧ _))

/-- A connection that a worker waits for publishes `ms`, and nothing else, whatever the registry
keeps and whoever is registered there. The resolver goes from `s` to `s'` meanwhile. -/
def Publishes (resolver : Event.Resolver σ) (c : Connection) (w : Worker) (s : σ)
    (ms : List Message) (s' : σ) : Prop :=
  ∀ registry, Feed.Publishing registry (Feed.steps resolver c.occurrences ⟨w, registry, s⟩) ms s'

variable {resolver : Event.Resolver σ} {w : Worker} {s : σ}

/-- What a connection publishes is determined: a registry with enough room shows it. -/
theorem Publishes.unique {c : Connection} {ms ms' : List Message} {s' s'' : σ}
    (h : Publishes resolver c w s ms s') (h' : Publishes resolver c w s ms' s'') : ms = ms' := by
  let r : Registry Message := Registry.withCapacity (ms.length + ms'.length)
  have hroom : r.capacity = max (ms.length + ms'.length) 1 := rfl
  have hempty : r.history.length = 0 := rfl
  have hms : (r.publishAll ms).2.2.history = ms := Registry.history_publishAll ms (by omega)
  have hms' : (r.publishAll ms').2.2.history = ms' := Registry.history_publishAll ms' (by omega)
  rw [← hms, ← hms', ← (h r).registry, ← (h' r).registry]

/-- **What a connection publishes** are the messages of its payloads. -/
theorem publishes_answered (hw : w.Awaits) (status : Nat) (chunks : List (List UInt8))
    (ending : Ending) :
    let messages := Event.messages resolver (Connection.answered status chunks ending).payloads s
    Publishes resolver (.answered status chunks ending) w s messages.1 messages.2 := by
  intro messages registry
  obtain ⟨hover, hstate⟩ := hw
  cases hstatus : isSuccessStatus status with
  | false =>
      have hnone : messages = ([], s) := by
        simp only [messages, Connection.payloads, Connection.lines, hstatus, Bool.false_eq_true,
          if_false]
        rfl
      rw [Feed.steps_rejected hover hstate hstatus, hnone]
      exact ⟨rfl, rfl, rfl⟩
  | true =>
      rw [Feed.steps_answered hover hstate hstatus]
      have read := Feed.publishing_takeLines resolver (ending.items chunks.flatten)
        (Feed.opened ⟨(segments chunks.flatten).2⟩ ⟨w, registry, s⟩)
      rw [← Connection.lines_answered hstatus] at read
      -- What is shown at the beginning and at the end are records.
      have hquiet (f : Feed σ) : unlogged (f.conclude ending).1 = [] := by
        cases ending <;> rfl
      have hkept (f : Feed σ) : (f.conclude ending).2.registry = f.registry
          ∧ (f.conclude ending).2.around = f.around := by
        cases ending <;> exact ⟨rfl, rfl⟩
      refine ⟨(hkept _).1.trans read.registry, ?_, (hkept _).2.trans read.around⟩
      have hseen := read.seen
      simp only [Feed.readAll, List.cons_append, unlogged_append, hquiet, List.append_nil,
        unlogged_cons_logged, Feed.noted]
      exact hseen

end Stream
end Messenger
