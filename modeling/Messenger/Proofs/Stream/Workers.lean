import Messenger.Daemon
import Messenger.Gateway.Directories
import Messenger.Stream.Worker

set_option autoImplicit false

/-! # How many workers run

A worker records that it begins and that it ends. The *net* of some notices is how many more workers
they say begin than end, and what a worker shows always has the net by which its own liveness
changes (`Feed.net_step`, `Feed.net_run`). Nothing else that is shown, by listeners, by caches or by
the daemon, counts. -/

namespace Messenger

/-! ## Beginnings and ends -/

/-- What a record adds to the number of workers that run. -/
def LogRecord.delta (r : LogRecord) : Int :=
  if r.message = "event stream worker started" then 1
  else if r.message = "event stream worker stopped" then -1
  else 0

/-- What a notice adds to the number of workers that run. -/
def Notice.delta {M : Type} : Notice M → Int
  | .logged r => r.delta
  | _ => 0

/-- How many more workers begin than end. -/
def net {M : Type} : List (Notice M) → Int
  | [] => 0
  | n :: ns => n.delta + net ns

section

variable {M : Type}

theorem net_cons (n : Notice M) (ns : List (Notice M)) : net (n :: ns) = n.delta + net ns :=
  rfl

theorem net_append (ns more : List (Notice M)) : net (ns ++ more) = net ns + net more := by
  induction ns with
  | nil => exact (Int.zero_add (net more)).symm
  | cons n ns ih => rw [List.cons_append, net_cons, net_cons, ih, Int.add_assoc]

/-- Records that say nothing of workers. -/
def Quiet (log : List LogRecord) : Prop := ∀ r ∈ log, r.delta = 0

theorem quiet_nil : Quiet [] := List.forall_mem_nil _

theorem quiet_singleton {r : LogRecord} (h : r.delta = 0) : Quiet [r] :=
  List.forall_mem_singleton.2 h

theorem Quiet.append {log more : List LogRecord} (h : Quiet log) (h' : Quiet more) :
    Quiet (log ++ more) :=
  List.forall_mem_append.2 ⟨h, h'⟩

theorem net_logged {log : List LogRecord} (h : Quiet log) :
    net (log.map (.logged : LogRecord → Notice M)) = 0 := by
  induction log with
  | nil => rfl
  | cons r log ih =>
      obtain ⟨hr, hlog⟩ := List.forall_mem_cons.1 h
      rw [List.map_cons, net_cons, ih hlog, Notice.delta, hr]
      rfl

end

/-! ## The registry -/

namespace Registry

variable {M : Type}

theorem quiet_recordsInside (r : Request M) : Quiet (recordsInside r) := by
  cases r with
  | publishAll ms =>
      intro record hrecord
      obtain ⟨m, -, rfl⟩ := List.mem_map.1 hrecord
      rfl
  | _ => first | exact quiet_nil | exact quiet_singleton rfl

theorem net_noticesInside (capacity : Nat) (label : String) (requests : List (Request M)) :
    net (noticesInside capacity label requests) = 0 := by
  induction requests with
  | nil => rfl
  | cons r requests ih =>
      have hrecords := net_logged (M := M) (quiet_recordsInside r)
      rw [noticesInside] at ih ⊢
      rw [List.flatMap_cons, net_append, net_append, hrecords, ih]
      rfl

variable [Stamped M]

theorem quiet_outcomeRecords (id : ListenerId) (message : M) (outcome : Outcome) :
    Quiet (outcomeRecords id message outcome) := by
  cases outcome with
  | accepted => exact quiet_nil
  | failed => exact quiet_singleton rfl
  | crashed => exact quiet_singleton rfl

theorem net_hand (capacity moment : Nat) (h : Handing M) (deferred : List ListenerId) :
    net (hand capacity moment h deferred).notices = 0 := by
  obtain ⟨registration, message⟩ := h
  have hinside := net_noticesInside capacity registration.listener.label
    (registration.listener.react moment message).1
  have houtcome := net_logged (M := M) (quiet_outcomeRecords registration.id message
    (registration.listener.react moment message).2)
  simp only [hand, net_append, net_cons, hinside, houtcome]
  rfl

theorem net_runRound (capacity moment : Nat) (hs : List (Handing M)) (deferred : List ListenerId) :
    net (runRound capacity moment hs deferred).notices = 0 := by
  induction hs generalizing moment deferred with
  | nil => rfl
  | cons h hs ih => simp only [runRound, net_append, net_hand, ih, Int.add_zero]

theorem net_conclude {α : Type} (r : Registry M) (hs : List (Handing M)) (result : Nat → α)
    {record : Nat → LogRecord} (hrecord : ∀ n, (record n).delta = 0) :
    net (conclude r hs result record).2.1 = 0 := by
  have hafter (n : Nat) (ids : List ListenerId) : Quiet (record n :: ids.map removedAfter) := by
    refine List.forall_mem_cons.2 ⟨hrecord n, fun r hr => ?_⟩
    obtain ⟨id, -, rfl⟩ := List.mem_map.1 hr
    rfl
  simp only [conclude, net_append, net_runRound, net_logged (hafter _ _), Int.add_zero]

theorem net_publish (message : M) (r : Registry M) : net (r.publish message).2.1 = 0 :=
  net_conclude _ _ _ fun _ => rfl

theorem net_register (id : ListenerId) (listener : Listener M) (r : Registry M) :
    net (r.register id listener).2.1 = 0 :=
  net_conclude _ _ _ fun _ => rfl

omit [Stamped M] in
theorem net_remove (id : ListenerId) (r : Registry M) : net (r.remove id).2.1 = 0 := by
  unfold remove
  split <;> rfl

end Registry

/-! ## Titles -/

variable {δ σ : Type}

theorem Link.quiet_call (d : Daemon δ) (method : String) (params : Json.Value)
    (chosen : Option String) (l : Link δ) : Quiet (l.call d method params chosen).2.1 := by
  have hrejected (id : String) (result : Except Rpc.Error Json.Value) :
      Quiet (rejected method id result) := by
    unfold rejected
    split
    · exact quiet_singleton rfl
    · exact quiet_nil
  exact hrejected _ _

/-- Loading from a daemon says nothing of workers. -/
def Cache.QuietLoader {ε α : Type} (load : Cache.Loader ε σ α) : Prop :=
  ∀ account s, Quiet (load account s).2.1

theorem GroupDirectory.quiet_load (d : Daemon δ) : Cache.QuietLoader (GroupDirectory.load d) :=
  fun account l => l.quiet_call d listGroups (.obj [("account", .str account)]) none

theorem IdentityDirectory.quiet_load (d : Daemon δ) :
    Cache.QuietLoader (IdentityDirectory.load d) :=
  fun account l => l.quiet_call d listIdentities (.obj [("account", .str account)]) none

theorem Cache.quiet_get {ε α : Type} {load : Cache.Loader ε σ α} (hload : Cache.QuietLoader load)
    (now : Nat) (account : String) (c : Cache α) (s : σ) :
    Quiet (c.get load now account s).2.1 := by
  have hlog := hload account s
  unfold Cache.get
  split
  · exact quiet_nil
  · rcases hloaded : load account s with ⟨_ | _, log, s'⟩ <;> rwa [hloaded] at hlog

namespace Event

/-- Finding titles says nothing of workers. -/
def QuietResolver (resolver : Resolver σ) : Prop :=
  ∀ find ∈ resolver, ∀ account groupId s, Quiet (find account groupId s).2.1

theorem quiet_titles {load : Cache.Loader GatewayError σ GroupDirectory}
    (hload : Cache.QuietLoader load) (now : Nat) : QuietResolver (Cache.titles load now) := by
  intro find hfind account groupId s
  obtain rfl := Option.some.inj hfind
  exact Cache.quiet_get hload now account s.1 s.2

theorem quiet_parseLogged (payload : Json.Value) : Quiet (parseLogged payload).2 := by
  unfold parseLogged
  split
  next m _ =>
    refine quiet_singleton ?_
    rw [received]
    cases m.content <;> rfl
  next reason _ =>
    refine quiet_singleton ?_
    unfold dropped
    split
    · rfl
    · split <;> rfl

theorem quiet_classify {resolver : Resolver σ} (hquiet : QuietResolver resolver)
    (payload : Json.Value) (s : σ) : Quiet (classify resolver payload s).2.1 := by
  have hlog := quiet_parseLogged payload
  unfold classify
  rcases hparsed : parseLogged payload with ⟨reason | m, log⟩ <;> rw [hparsed] at hlog
  · exact hlog
  · dsimp only
    split
    next find groupId _ =>
      have hunresolved (title : Title) : Quiet (unresolved title m.account groupId) := by
        cases title with
        | known => exact quiet_nil
        | unknown => exact quiet_singleton rfl
        | failed => exact quiet_singleton rfl
      exact (hlog.append (hquiet find rfl m.account groupId s)).append (hunresolved _)
    next => exact hlog

theorem quiet_classifyText {resolver : Resolver σ} (hquiet : QuietResolver resolver)
    (text : String) (s : σ) : Quiet (classifyText resolver text s).2.1 := by
  unfold classifyText
  split
  · exact quiet_classify hquiet _ s
  · exact quiet_singleton rfl

end Event

namespace Stream

/-! ## Workers -/

/-- How many workers a worker is: one from its beginning to its end. -/
def Worker.lives (w : Worker) : Int := if w.state = .stopped then 0 else 1

theorem Worker.lives_of_stopped {w : Worker} (h : w.state = .stopped) : w.lives = 0 := if_pos h

theorem Worker.lives_of_ne {w : Worker} (h : w.state ≠ .stopped) : w.lives = 1 := if_neg h

/-- A worker that is over is stopped. -/
def Worker.Sane (w : Worker) : Prop := w.isOver = true → w.state = .stopped

theorem Worker.sane_of_not_over {w : Worker} (h : w.isOver = false) : w.Sane := fun hover =>
  absurd (h.symm.trans hover) Bool.false_ne_true

namespace Feed

variable {resolver : Event.Resolver σ}

/-- Nothing is shown of workers, and the worker is in the state that it was in. -/
structure Silent (f : Feed σ) (x : List (Notice Message) × Feed σ) : Prop where
  net : net x.1 = 0
  state : x.2.worker.state = f.worker.state
  isOver : x.2.worker.isOver = f.worker.isOver

theorem silent_refl (f : Feed σ) : Silent f ([], f) := ⟨rfl, rfl, rfl⟩

theorem silent_takePayload (hquiet : Event.QuietResolver resolver) (payload : String)
    (f : Feed σ) : Silent f (f.takePayload resolver payload) := by
  have hlog := Event.quiet_classifyText hquiet payload f.around
  unfold takePayload
  rcases hx : Event.classifyText resolver payload f.around with ⟨_ | message, log, s⟩ <;>
    rw [hx] at hlog
  · exact ⟨net_logged hlog, rfl, rfl⟩
  · refine ⟨?_, rfl, rfl⟩
    dsimp only
    rw [net_append, net_logged hlog, Registry.net_publish]
    rfl

theorem silent_takeLine (hquiet : Event.QuietResolver resolver) (item : Except LogRecord String)
    (hitem : ∀ r, item = .error r → r.delta = 0) (f : Feed σ) :
    Silent f (f.takeLine resolver item) := by
  cases item with
  | error r => exact ⟨net_logged (quiet_singleton (hitem r rfl)), rfl, rfl⟩
  | ok line =>
      unfold takeLine
      rcases hfed : f.worker.framer.feed line with ⟨_ | payload, framer⟩ <;> simp only [hfed]
      · exact ⟨rfl, rfl, rfl⟩
      · have htaken := silent_takePayload hquiet payload
          { f with worker := { f.worker with framer } }
        exact ⟨htaken.net, htaken.state, htaken.isOver⟩

theorem silent_takeLines (hquiet : Event.QuietResolver resolver)
    (items : List (Except LogRecord String)) (hitems : ∀ r, .error r ∈ items → r.delta = 0)
    (f : Feed σ) : Silent f (f.takeLines resolver items) := by
  induction items generalizing f with
  | nil => exact silent_refl f
  | cons item items ih =>
      have hline : Silent f (f.takeLine resolver item) :=
        silent_takeLine hquiet item (fun r hr => hitems r (by simp [hr])) f
      have hlines := ih (fun r hr => hitems r (List.mem_cons_of_mem _ hr))
        (f.takeLine resolver item).2
      refine ⟨?_, hlines.state.trans hline.state, hlines.isOver.trans hline.isOver⟩
      unfold takeLines
      dsimp only
      rw [net_append, hline.net, hlines.net]
      rfl

/-- The record of a line that is lost says nothing of workers. -/
theorem delta_of_push {s : Splitter} {chunk : List UInt8} {r : LogRecord}
    (h : .error r ∈ (s.push chunk).1) : r.delta = 0 := by
  obtain ⟨segment, -, hline⟩ := List.mem_map.1 h
  unfold lineOf at hline
  split at hline
  · cases hline
  · cases hline
    rfl

/-- What is shown has the net by which the liveness of a worker changes. -/
structure Counted (w : Worker) (x : List (Notice Message) × Feed σ) : Prop where
  sane : x.2.worker.Sane
  net : w.lives + net x.1 = x.2.worker.lives

theorem Counted.trans {w : Worker} {x y : List (Notice Message) × Feed σ} (h : Counted w x)
    (h' : Counted x.2.worker y) : Counted w (x.1 ++ y.1, y.2) where
  sane := h'.sane
  net := by rw [net_append, ← Int.add_assoc, h.net, h'.net]

theorem Silent.counted {f : Feed σ} {x : List (Notice Message) × Feed σ} (h : Silent f x)
    (hsane : f.worker.Sane) : Counted f.worker x where
  sane hover := h.state.trans (hsane (h.isOver.symm.trans hover))
  net := by rw [h.net, Int.add_zero, Worker.lives, Worker.lives, h.state]

/-- A worker that runs goes on. -/
theorem counted_of_running {f f' : Feed σ} {ns : List (Notice Message)} {before : WorkerState}
    (after : WorkerState) (hstate : f.worker.state = before) (hstate' : f'.worker.state = after)
    (hne : before ≠ .stopped ∧ after ≠ .stopped) (hnet : Messenger.net ns = 0)
    (hover : f'.worker.isOver = false) : Counted f.worker (ns, f') where
  sane := Worker.sane_of_not_over hover
  net := by
    rw [hnet, Worker.lives_of_ne (hstate ▸ hne.1), Worker.lives_of_ne (hstate' ▸ hne.2),
      Int.add_zero]

theorem counted_pause {f : Feed σ} {before : WorkerState} (hstate : f.worker.state = before)
    (hne : before ≠ .stopped) (hover : f.worker.isOver = false) {notice : Notice Message}
    (hnotice : notice.delta = 0) : Counted f.worker (f.pause notice) :=
  counted_of_running .backoff hstate rfl ⟨hne, by decide⟩ (by rw [net_cons, hnotice]; rfl) hover

/-- Whatever happens, what a worker shows has the net by which its liveness changes. -/
theorem counted_step (hquiet : Event.QuietResolver resolver) (o : Occurrence) {f : Feed σ}
    (hsane : f.worker.Sane) : Counted f.worker (f.step resolver o) := by
  unfold step
  by_cases hover : f.worker.isOver = true
  · rw [if_pos hover]
    exact (silent_refl f).counted hsane
  rw [if_neg hover]
  rw [Bool.not_eq_true] at hover
  split
  next hstate =>
    -- A worker begins.
    refine ⟨Worker.sane_of_not_over hover, ?_⟩
    rw [Worker.lives_of_stopped hstate]
    rfl
  next hstate =>
    -- It is cancelled before it began, and does both at once.
    refine ⟨fun _ => rfl, ?_⟩
    rw [Worker.lives_of_stopped hstate]
    rfl
  next hstate => exact counted_of_running .connecting hstate rfl (by decide) rfl hover
  next hstate => exact counted_pause hstate (by decide) hover rfl
  next hstate =>
    split
    · exact counted_of_running .streaming hstate rfl (by decide) rfl hover
    · exact counted_pause hstate (by decide) hover rfl
  next chunk hstate =>
    have hlines := silent_takeLines hquiet (f.worker.splitter.push chunk).1
      (fun r hr => delta_of_push hr)
      { f with worker := { f.worker with splitter := (f.worker.splitter.push chunk).2 } }
    have hread : Silent f _ := ⟨hlines.net, hlines.state, hlines.isOver⟩
    exact hread.counted hsane
  next hstate =>
    have hlines := silent_takeLines hquiet (f.worker.splitter.finish.toList.map .ok)
      (fun r hr => by simp at hr) f
    exact (hlines.counted hsane).trans (counted_pause (hlines.state.trans hstate) (by decide)
      (hlines.isOver.trans hover) rfl)
  next hstate => exact counted_pause hstate (by decide) hover rfl
  next hstate =>
    refine ⟨fun _ => rfl, ?_⟩
    rw [Worker.lives_of_ne hstate]
    rfl
  next => exact (silent_refl f).counted hsane

theorem counted_steps (hquiet : Event.QuietResolver resolver) (os : List Occurrence) {f : Feed σ}
    (hsane : f.worker.Sane) : Counted f.worker (f.steps resolver os) := by
  induction os generalizing f with
  | nil => exact (silent_refl f).counted hsane
  | cons o os ih =>
      have hstep := counted_step hquiet o hsane
      exact hstep.trans (ih hstep.sane)

/-- So it is with the loop. -/
theorem counted_run (hquiet : Event.QuietResolver resolver) (listen : σ → Connection × σ)
    (attempts : Nat) {f : Feed σ} (hsane : f.worker.Sane) :
    Counted f.worker (f.run listen resolver attempts) := by
  induction attempts generalizing f with
  | zero => exact (silent_refl f).counted hsane
  | succ attempts ih =>
      unfold Feed.run
      split
      · have hdue := counted_step hquiet .due hsane
        have hconnection := counted_steps hquiet
          (listen (f.step resolver .due).2.around).1.occurrences
          (f := { (f.step resolver .due).2 with
            around := (listen (f.step resolver .due).2.around).2 }) hdue.sane
        exact (hdue.trans hconnection).trans (ih hconnection.sane)
      · exact (silent_refl f).counted hsane

end Feed
end Stream
end Messenger
