import Messenger.Proofs.Stream.Live

set_option autoImplicit false

/-! # What connections yield

A worker connects again and again, and while it does others register and remove listeners. Whatever
a former connection left in the worker, a connection yields the messages of its payloads, those that
a new framer lets through among its lines (`Feed.yields_answer`), and connections in turn yield
theirs in turn (`Feed.yields_connections`). Half a line or a framer that is armed never outlives a
connection. -/

namespace Messenger.Stream

open Registry

variable {σ : Type}

/-! ## Connections -/

/-- The payloads that a connection carries: those that a new framer lets through. -/
def Connection.payloads (c : Connection) : List String := (({} : Framer).feedAll c.lines).1

/-- The occurrences when a connection ends. -/
def Ending.occurrences : Ending → List Occurrence
  | .closed => [.closed]
  | .broken => [.broken]
  | .pending => []

theorem Connection.occurrences_answered (status : Nat) (chunks : List (List UInt8))
    (ending : Ending) :
    (Connection.answered status chunks ending).occurrences
      = .opened status :: (chunks.map .received ++ ending.occurrences) := by
  cases ending <;> rfl

/-- A worker that is about to connect. -/
def Worker.IsDue (w : Worker) : Prop :=
  w.isOver = false ∧ (w.state = .stopped ∨ w.state = .backoff)

namespace Feed

theorem isDue_iff (f : Feed σ) : f.isDue = true ↔ f.worker.IsDue := by
  simp [isDue, Worker.IsDue]

variable {resolver : Event.Resolver σ} {id : ListenerId}

/-! ## Single occurrences -/

/-- An occurrence that shows only records and concerns only the worker. -/
theorem yields_of_logged {o : Occurrence} {w w' : Worker} (s : σ) (log : List LogRecord)
    (hstep : ∀ f : Feed σ, f.worker = w →
      f.step resolver o = (log.map .logged, { f with worker := w' })) :
    Yields resolver id [o] w s [] w' s := by
  refine yields_of_step fun f hw hs hsettled => ?_
  rw [hstep f hw, ← hs]
  exact hands_of_logged hsettled log w' f.around

theorem step_due {f : Feed σ} (hf : f.worker.IsDue) :
    f.step resolver .due
      = ((if f.worker.state = .stopped then [f.noted "event stream worker started"] else []),
          f.moveTo .connecting) := by
  obtain ⟨hover, hstate | hstate⟩ := hf
  · unfold step
    rw [if_neg (ne_true_of_eq_false hover), hstate]
    rfl
  · unfold step
    rw [if_neg (ne_true_of_eq_false hover), hstate]
    rfl

/-- A worker that is about to connect connects. -/
theorem yields_due {w : Worker} (hw : w.IsDue) (s : σ) :
    Yields resolver id [.due] w s [] { w with state := .connecting } s := by
  refine yields_of_logged s (if w.state = .stopped then
    [.info "event stream worker started" [("url", w.address)]] else []) ?_
  rintro f rfl
  rw [step_due hw]
  split <;> rfl

/-- A connection that is refused, or answered by anything but success, ends at once. -/
theorem yields_failed {o : Occurrence} (w : Worker) (hover : w.isOver = false)
    (hstate : w.state = .connecting)
    (ho : o = .refused ∨ ∃ status, o = .opened status ∧ isSuccessStatus status = false) (s : σ) :
    Yields resolver id [o] w s [] { w with state := .backoff } s := by
  refine yields_of_logged s [.warn "event stream failed"] ?_
  rintro f rfl
  obtain rfl | ⟨status, rfl, hstatus⟩ := ho
  · unfold step
    rw [if_neg (ne_true_of_eq_false hover), hstate]
    rfl
  · unfold step
    rw [if_neg (ne_true_of_eq_false hover), hstate]
    exact if_neg (ne_true_of_eq_false hstatus)

/-- A connection that is opened begins with an empty splitter and a new framer. -/
theorem yields_opened (w : Worker) (hover : w.isOver = false) (hstate : w.state = .connecting)
    {status : Nat} (hstatus : isSuccessStatus status = true) (s : σ) :
    Yields resolver id [.opened status] w s []
      { w with state := .streaming, splitter := {}, framer := {} } s := by
  refine yields_of_logged s [.info "event stream connected" [("url", w.address)]] ?_
  rintro f rfl
  unfold step
  rw [if_neg (ne_true_of_eq_false hover), hstate]
  exact if_pos hstatus

/-- A chunk yields the messages of the lines that it completes. -/
theorem yields_received (w : Worker) (hover : w.isOver = false) (hstate : w.state = .streaming)
    (chunk : List UInt8) (s : σ) :
    let pushed := w.splitter.push chunk
    let fed := w.framer.feedAll (completed pushed.1)
    Yields resolver id [.received chunk] w s (Event.messages resolver fed.1 s).1
      { w with splitter := pushed.2, framer := fed.2 } (Event.messages resolver fed.1 s).2 := by
  intro pushed fed
  refine yields_of_step fun f hw hs hsettled => ?_
  subst hw hs
  have hstep : f.step resolver (.received chunk)
      = takeLines resolver pushed.1
          { f with worker := { f.worker with splitter := pushed.2 } } := by
    unfold step
    rw [if_neg (ne_true_of_eq_false hover), hstate]
  rw [hstep]
  exact hands_takeLines resolver pushed.1
    (f := { f with worker := { f.worker with splitter := pushed.2 } }) hsettled

/-- A connection that is closed yields the message of the line that is left. -/
theorem yields_closed (w : Worker) (hover : w.isOver = false) (hstate : w.state = .streaming)
    (s : σ) :
    let fed := w.framer.feedAll w.splitter.finish.toList
    Yields resolver id [.closed] w s (Event.messages resolver fed.1 s).1
      { w with state := .backoff, framer := fed.2 } (Event.messages resolver fed.1 s).2 := by
  intro fed
  refine yields_of_step fun f hw hs hsettled => ?_
  subst hw hs
  have hlines : completed (f.worker.splitter.finish.toList.map .ok)
      = f.worker.splitter.finish.toList := completed_map_ok _
  have read : Hands id f.registry _ _ _ _ :=
    hands_takeLines resolver (f.worker.splitter.finish.toList.map .ok) hsettled
  rw [hlines] at read
  have hstep : f.step resolver .closed
      = ((takeLines resolver (f.worker.splitter.finish.toList.map .ok) f).1
          ++ ((takeLines resolver (f.worker.splitter.finish.toList.map .ok) f).2.pause
            (.logged (.info "event stream closed by daemon"))).1,
        ((takeLines resolver (f.worker.splitter.finish.toList.map .ok) f).2.pause
          (.logged (.info "event stream closed by daemon"))).2) := by
    unfold step
    rw [if_neg (ne_true_of_eq_false hover), hstate]
  rw [hstep]
  exact read.pause _

/-- A connection that breaks loses the line that is left. -/
theorem yields_broken (w : Worker) (hover : w.isOver = false) (hstate : w.state = .streaming)
    (s : σ) : Yields resolver id [.broken] w s [] { w with state := .backoff } s := by
  refine yields_of_logged s [.warn "event stream failed"] ?_
  rintro f rfl
  unfold step
  rw [if_neg (ne_true_of_eq_false hover), hstate]
  rfl

/-- During a pause, what is left of a connection goes unnoticed. -/
theorem yields_idle {o : Occurrence} (w : Worker) (hstate : w.state = .backoff)
    (ho : (∃ chunk, o = .received chunk) ∨ o = .closed ∨ o = .broken) (s : σ) :
    Yields resolver id [o] w s [] w s := by
  refine yields_of_logged s [] ?_
  rintro f rfl
  unfold step
  rw [hstate]
  obtain ⟨chunk, rfl⟩ | rfl | rfl := ho
  · exact ite_self _
  · exact ite_self _
  · exact ite_self _

/-! ## Whole connections -/

theorem yields_idle_all (w : Worker) (hstate : w.state = .backoff) (chunks : List (List UInt8))
    (ending : Ending) (s : σ) :
    Yields resolver id (chunks.map .received ++ ending.occurrences) w s [] w s := by
  induction chunks with
  | nil =>
      cases ending with
      | closed => exact yields_idle w hstate (.inr (.inl rfl)) s
      | broken => exact yields_idle w hstate (.inr (.inr rfl)) s
      | pending => exact yields_nil w s
  | cons chunk chunks ih => exact (yields_idle w hstate (.inl ⟨chunk, rfl⟩) s).append ih

/-- An open connection, from any point on: what is left of it yields the messages of its lines, the
first of which begins with what waits in the splitter. -/
theorem yields_reading (chunks : List (List UInt8)) {ending : Ending} (hending : ending ≠ .pending)
    (w : Worker) (hover : w.isOver = false) (hstate : w.state = .streaming) (s : σ) :
    let lines := linesOf (splitFrom w.splitter (chunks.map .bytes ++ ending.chunks))
    let messages := Event.messages resolver (w.framer.feedAll lines).1 s
    ∃ w', w'.IsDue ∧ Yields resolver id (chunks.map .received ++ ending.occurrences) w s
      messages.1 w' messages.2 := by
  induction chunks generalizing w s with
  | nil =>
      cases ending with
      | closed =>
          have hlines : linesOf (splitFrom w.splitter ([] : List (Chunk Unit)))
              = w.splitter.finish.toList := linesOf_map_ok _
          simp only [List.map_nil, List.nil_append, Ending.chunks, hlines]
          have hclosed : Yields resolver id [.closed] w s _ _ _ := yields_closed w hover hstate s
          refine ⟨_, ?_, hclosed⟩
          exact ⟨hover, .inr rfl⟩
      | broken =>
          -- The failure takes the place of a last line, and the splitter keeps what no one reads.
          exact ⟨{ w with state := .backoff }, ⟨hover, .inr rfl⟩, yields_broken w hover hstate s⟩
      | pending => exact absurd rfl hending
  | cons chunk chunks ih =>
      have first : Yields resolver id [.received chunk] w s _ _ _ :=
        yields_received w hover hstate chunk s
      obtain ⟨w', hw', rest⟩ := ih { w with
        splitter := (w.splitter.push chunk).2
        framer := (w.framer.feedAll (completed (w.splitter.push chunk).1)).2 } hover hstate _
      -- The chunk completes the first lines of the whole; what it leaves waits in the splitter.
      have hall := first.append rest
      simp only [List.map_cons, List.cons_append, splitFrom, linesOf_append, linesOf_map_ok,
        Framer.feedAll_append, Event.messages_append]
      exact ⟨w', hw', hall⟩

/-- A connection that a worker waits for and that has ended yields the messages of its payloads,
whatever a former connection left in the worker. -/
theorem yields_answer {c : Connection} (hended : c.isEnded = true) (w : Worker)
    (hover : w.isOver = false) (hstate : w.state = .connecting) (s : σ) :
    let messages := Event.messages resolver c.payloads s
    ∃ w', w'.IsDue ∧ Yields resolver id c.occurrences w s messages.1 w' messages.2 := by
  cases c with
  | refused =>
      have hfailed : Yields resolver id [.refused] w s [] { w with state := .backoff } s :=
        yields_failed w hover hstate (.inl rfl) s
      exact ⟨{ w with state := .backoff }, ⟨hover, .inr rfl⟩, hfailed⟩
  | silent => cases hended
  | answered status chunks ending =>
      rw [Connection.occurrences_answered]
      by_cases hstatus : isSuccessStatus status = true
      · have hopened : Yields resolver id [.opened status] w s []
            { w with state := .streaming, splitter := {}, framer := {} } s :=
          yields_opened w hover hstate hstatus s
        have hending : ending ≠ .pending := by
          rintro rfl
          simp [Connection.isEnded, hstatus] at hended
        obtain ⟨w', hw', hreading⟩ := yields_reading chunks hending
          { w with state := .streaming, splitter := {}, framer := {} } hover rfl s
        have hpayloads : (Connection.answered status chunks ending).payloads
            = (({} : Framer).feedAll
                (linesOf (splitFrom {} (chunks.map .bytes ++ ending.chunks)))).1 := by
          rw [Connection.payloads, Connection.lines, if_pos hstatus, ← splitLines_flatten]
          rfl
        rw [hpayloads]
        exact ⟨w', hw', hopened.append hreading⟩
      · have hfailed : Yields resolver id [.opened status] w s []
            { w with state := .backoff } s :=
          yields_failed w hover hstate (.inr ⟨status, rfl, eq_false_of_ne_true hstatus⟩) s
        have hidle : Yields resolver id (chunks.map .received ++ ending.occurrences)
            { w with state := .backoff } s [] { w with state := .backoff } s :=
          yields_idle_all { w with state := .backoff } rfl chunks ending s
        have hpayloads : (Connection.answered status chunks ending).payloads = [] := by
          rw [Connection.payloads, Connection.lines, if_neg hstatus]
          rfl
        rw [hpayloads]
        exact ⟨{ w with state := .backoff }, ⟨hover, .inr rfl⟩, hfailed.append hidle⟩

/-- Connections in turn yield the messages of their payloads in turn. -/
theorem yields_connections {cs : List Connection} (hended : ∀ c ∈ cs, c.isEnded = true)
    {w : Worker} (hw : w.IsDue) (s : σ) :
    let messages := Event.messages resolver (cs.flatMap Connection.payloads) s
    ∃ w', w'.IsDue ∧ Yields resolver id (cs.flatMap fun c => .due :: c.occurrences) w s messages.1
      w' messages.2 := by
  induction cs generalizing w s with
  | nil => exact ⟨w, hw, yields_nil w s⟩
  | cons c cs ih =>
      have hdue : Yields resolver id [.due] w s [] { w with state := .connecting } s :=
        yields_due hw s
      obtain ⟨w', hw', first⟩ := yields_answer (hended c List.mem_cons_self)
        { w with state := .connecting } hw.1 rfl s
      obtain ⟨w'', hw'', rest⟩ := ih (fun c hc => hended c (List.mem_cons_of_mem _ hc)) hw'
        (Event.messages resolver c.payloads s).2
      simp only [List.flatMap_cons, Event.messages_append]
      exact ⟨w'', hw'', (hdue.append first).append rest⟩

end Feed
end Messenger.Stream
