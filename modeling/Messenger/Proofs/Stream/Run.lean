import Messenger.Proofs.Stream.Reconnect

set_option autoImplicit false

/-! # What is handed over across connections

A listener that stays registered while a worker goes through connections is handed exactly what they
say one by one, whoever registers and removes listeners in between. The loop of a worker, which
connects as often as it is allowed to, registers nobody; so a handle that is registered when it ends
was registered all along (`Feed.stays_of_steps`), and was handed what the connections carried that
the daemon answered with. Both are `Feed.handed_across_connections`. -/

namespace Messenger.Stream.Feed

open Registry

variable {σ : Type} {resolver : Event.Resolver σ} {id : ListenerId}

/-! ## Registering nobody -/

/-- A settled registry in which no handle is registered that was not registered before. -/
structure Narrows (before after : Registry Message) : Prop where
  settled : after.Settled
  subset : ids after.registrations ⊆ ids before.registrations

theorem narrows_takeLines (items : List (Except LogRecord String)) {f : Feed σ}
    (h : f.registry.Settled) : Narrows f.registry (takeLines resolver items f).2.registry := by
  have hands : ∀ id, Hands id f.registry (takeLines resolver items f) _ _ _ :=
    fun _ => hands_takeLines resolver items h
  exact ⟨(hands ⟨""⟩).settled, fun id hid => (hands id).registered hid⟩

/-- What happens to a worker registers nobody. -/
theorem narrows_step (o : Occurrence) {f : Feed σ} (h : f.registry.Settled) :
    Narrows f.registry (f.step resolver o).2.registry := by
  have hsame : Narrows f.registry f.registry := ⟨h, List.Subset.refl _⟩
  -- Only a chunk and the end of a stream reach the registry.
  unfold step
  split
  · exact hsame
  · split
    case h_5 => split <;> exact hsame
    case h_6 chunk _ =>
      exact narrows_takeLines (f.worker.splitter.push chunk).1
        (f := { f with worker := { f.worker with splitter := (f.worker.splitter.push chunk).2 } }) h
    case h_7 => exact narrows_takeLines _ h
    all_goals exact hsame

theorem Narrows.trans {r r' r'' : Registry Message} (h : Narrows r r') (h' : Narrows r' r'') :
    Narrows r r'' := ⟨h'.settled, List.Subset.trans h'.subset h.subset⟩

theorem narrows_steps (os : List Occurrence) {f : Feed σ} (h : f.registry.Settled) :
    Narrows f.registry (f.steps resolver os).2.registry := by
  induction os generalizing f with
  | nil => exact ⟨h, List.Subset.refl _⟩
  | cons o os ih =>
      have hstep : Narrows f.registry (f.step resolver o).2.registry := narrows_step o h
      exact hstep.trans (ih hstep.settled)

/-- The feed when the daemon has settled on its answer. -/
def awaiting (listen : σ → Connection × σ) (f : Feed σ) : Feed σ :=
  { f.moveTo .connecting with around := (listen f.around).2 }

/-- The feed when the connection is over. -/
def afterOne (listen : σ → Connection × σ) (resolver : Event.Resolver σ) (f : Feed σ) :
    List (Notice Message) × Feed σ :=
  (f.awaiting listen).steps resolver (listen f.around).1.occurrences

/-- The loop goes through one connection, then through the others. -/
theorem run_succ (listen : σ → Connection × σ) (attempts : Nat) {f : Feed σ}
    (hdue : f.isDue = true) :
    f.run listen resolver (attempts + 1)
      = ((f.step resolver .due).1 ++ (f.afterOne listen resolver).1
            ++ ((f.afterOne listen resolver).2.run listen resolver attempts).1,
          ((f.afterOne listen resolver).2.run listen resolver attempts).2) := by
  rw [run, if_pos hdue, step_due ((isDue_iff f).1 hdue)]
  rfl

theorem narrows_afterOne (listen : σ → Connection × σ) {f : Feed σ} (h : f.registry.Settled) :
    Narrows f.registry (f.afterOne listen resolver).2.registry :=
  have hawaiting : (f.awaiting listen).registry.Settled := h
  narrows_steps _ hawaiting

theorem narrows_run (listen : σ → Connection × σ) (attempts : Nat) {f : Feed σ}
    (h : f.registry.Settled) :
    Narrows f.registry (f.run listen resolver attempts).2.registry := by
  induction attempts generalizing f with
  | zero => exact ⟨h, List.Subset.refl _⟩
  | succ attempts ih =>
      by_cases hdue : f.isDue = true
      · rw [run_succ listen attempts hdue]
        exact (narrows_afterOne listen h).trans (ih (narrows_afterOne listen h).settled)
      · rw [run, if_neg hdue]
        exact ⟨h, List.Subset.refl _⟩

/-- Occurrences are happenings that concern only the worker. -/
theorem live_map_worker (os : List Occurrence) (f : Feed σ) :
    f.live resolver (os.map .worker) = f.steps resolver os := by
  induction os generalizing f with
  | nil => rfl
  | cons o os ih => simp only [List.map_cons, live, happen, steps, ih]

/-- A handle that is registered after some occurrences was registered all along. -/
theorem stays_of_steps (os : List Occurrence) {f : Feed σ} (h : f.registry.Settled)
    (hid : id ∈ ids (f.steps resolver os).2.registry.registrations) :
    f.Stays resolver id (os.map .worker) := by
  induction os generalizing f with
  | nil => exact stays_nil_iff.2 hid
  | cons o os ih =>
      have hstep : Narrows f.registry (f.step resolver o).2.registry := narrows_step o h
      have hrest := ih hstep.settled hid
      exact stays_cons_iff.2 ⟨hstep.subset hrest.registered, hrest⟩

/-- Occurrences of which it is known what they yield hand it over. -/
theorem Yields.steps {os : List Occurrence} {w w' : Worker} {s s' : σ} {ms : List Message}
    (h : Yields resolver id os w s ms w' s') {f : Feed σ} (hw : f.worker = w) (hs : f.around = s)
    (hsettled : f.registry.Settled)
    (hid : id ∈ ids (f.steps resolver os).2.registry.registrations) :
    Hands id f.registry (f.steps resolver os) ms w' s' := by
  have hocc : occurrences (os.map .worker) = os := by
    rw [occurrences, List.filterMap_map]
    exact List.filterMap_some
  have hbeside : ∀ h ∈ os.map Happening.worker, h.isBeside = true := by
    intro h hh
    obtain ⟨o, _, rfl⟩ := List.mem_map.1 hh
    rfl
  rw [← live_map_worker]
  exact h _ f hocc hbeside hw hs hsettled (stays_of_steps os hsettled hid)

/-! ## The loop -/

/-- The messages of the connections with which a daemon answers, attempt by attempt. -/
def heard (listen : σ → Connection × σ) (resolver : Event.Resolver σ) :
    (attempts : Nat) → σ → List Message
  | 0, _ => []
  | attempts + 1, s =>
    let (connection, s) := listen s
    let (ms, s) := Event.messages resolver connection.payloads s
    ms ++ heard listen resolver attempts s

/-- A connection hands over the messages of its payloads. -/
theorem hands_afterOne (listen : σ → Connection × σ) (hended : ∀ s, (listen s).1.isEnded = true)
    {f : Feed σ} (hsettled : f.registry.Settled) (hdue : f.isDue = true)
    (hid : id ∈ ids (f.afterOne listen resolver).2.registry.registrations) :
    let messages := Event.messages resolver (listen f.around).1.payloads (listen f.around).2
    ∃ w', w'.IsDue ∧ Hands id f.registry (f.afterOne listen resolver) messages.1 w' messages.2 := by
  obtain ⟨hover, _⟩ := (isDue_iff f).1 hdue
  obtain ⟨w', hw', hyields⟩ := yields_answer (hended f.around)
    { f.worker with state := .connecting } hover rfl (listen f.around).2
  have hawaiting : (f.awaiting listen).registry.Settled := hsettled
  exact ⟨w', hw', hyields.steps rfl rfl hawaiting hid⟩

/-- A handle that is registered when the loop ends is handed, in
order and once each, the messages of the payloads of the connections, and nothing else. -/
theorem handed_by_run (listen : σ → Connection × σ) (hended : ∀ s, (listen s).1.isEnded = true)
    (attempts : Nat) {f : Feed σ} (hsettled : f.registry.Settled) (hdue : f.isDue = true)
    (hid : id ∈ ids (f.run listen resolver attempts).2.registry.registrations) :
    handedTo id (f.run listen resolver attempts).1 = heard listen resolver attempts f.around := by
  induction attempts generalizing f with
  | zero => rfl
  | succ attempts ih =>
      rw [run_succ listen attempts hdue] at hid ⊢
      -- The handle is registered when this connection ends, since nobody is registered later.
      have hnow : id ∈ ids (f.afterOne listen resolver).2.registry.registrations :=
        (narrows_run listen attempts (narrows_afterOne listen hsettled).settled).subset hid
      obtain ⟨w', hw', hands⟩ := hands_afterOne listen hended hsettled hdue hnow
      have hnext : (f.afterOne listen resolver).2.isDue = true := by
        rw [isDue_iff, hands.worker]
        exact hw'
      have hquiet : handedTo id (f.step resolver .due).1 = [] := by
        rw [step_due ((isDue_iff f).1 hdue)]
        dsimp only
        split <;> rfl
      rw [handedTo_append, handedTo_append, hquiet, hands.handed hnow,
        ih hands.settled hnext hid, hands.around]
      rfl

/-! ## Connections in turn -/

/-- **What is handed over across connections.** Take a worker that is about to connect and a
registry in whatever state operations brought it to. First, let the worker go through any
connections that end, while others register listeners and remove handles as they like, and listeners
ask for whatever they like. A handle that is registered at every moment is then handed, in order and
once each, the messages of the payloads of the connections, and nothing else. Second, let the worker
connect by itself, each time with what the daemon answers then, any number of times. A handle that
is registered at the end is handed, in order and once each, the messages of the payloads of these
connections, and nothing else. -/
theorem handed_across_connections (resolver : Event.Resolver σ) (capacity : Nat)
    (os : List (Operation Message)) {f : Feed σ}
    (hlife : f.registry = (Life.of capacity os).registry) (hdue : f.isDue = true)
    (id : ListenerId) :
    (∀ (cs : List Connection) (hs : List Happening), (∀ c ∈ cs, c.isEnded = true) →
        occurrences hs = cs.flatMap (fun c => .due :: c.occurrences) →
        (∀ h ∈ hs, h.isBeside = true) → f.Stays resolver id hs →
        handedTo id (f.live resolver hs).1
          = (Event.messages resolver (cs.flatMap Connection.payloads) f.around).1)
      ∧ ∀ (listen : σ → Connection × σ) (attempts : Nat),
        (∀ s, (listen s).1.isEnded = true) →
        id ∈ ids (f.run listen resolver attempts).2.registry.registrations →
        handedTo id (f.run listen resolver attempts).1
          = heard listen resolver attempts f.around := by
  have hsettled : f.registry.Settled := hlife ▸ Life.settled capacity os
  refine ⟨fun cs hs hended hoccurrences hbeside hstays => ?_, fun listen attempts hended hid =>
    handed_by_run listen hended attempts hsettled hdue hid⟩
  obtain ⟨w', _, hyields⟩ := yields_connections hended ((isDue_iff f).1 hdue) f.around
  have hands := hyields hs f hoccurrences hbeside rfl rfl hsettled hstays
  exact hands.handed (hstays hs List.prefix_rfl)

/-! ## Two connections -/

/-- Two connections: one breaks after a name, inside the line of its payload; the next one begins
with a payload that has no name, and its chunks end inside lines. -/
def twoConnections : List Connection :=
  [.answered 200 [Text.toUtf8 "event:receive\ndata:0"] .broken,
    .answered 200 [Text.toUtf8 "data:1\nevent:rec", Text.toUtf8 "eive\ndata:",
      Text.toUtf8 "\x7b\"account\":\"\",\"envelope\":\x7b", Text.toUtf8 "\"timestamp\":5,\"data",
      Text.toUtf8 "Message\":\x7b\"message\":\"\"\x7d\x7d\x7d"] .closed]

/-- The two connections, with a registration between them. -/
def betweenTwo : List Happening :=
  twoConnections.flatMap fun c =>
    .others (.register ⟨"b"⟩ accepting) :: (.due :: c.occurrences).map .worker

/-- Answer with connections in turn, then refuse; what would not end is refused too. -/
def answering : List Connection → Connection × List Connection
  | [] => (.refused, [])
  | c :: cs => (if c.isEnded then c else .refused, cs)

/-- Of the two connections only the named payload is handed over, whether others register between
them or the worker goes through them by itself. -/
theorem handed_across_two_connections :
    let f : Feed (List Connection) :=
      ⟨{ address := "" }, (Life.of 1000 [.register ⟨"a"⟩ accepting]).registry, twoConnections⟩
    let messages := Event.messages none (twoConnections.flatMap Connection.payloads) twoConnections
    handedTo ⟨"a"⟩ (f.live none betweenTwo).1 = messages.1
      ∧ messages.1.map Message.timestamp = [5]
      ∧ handedTo ⟨"a"⟩ (f.run answering none 2).1 = heard answering none 2 twoConnections
      ∧ (heard answering none 2 twoConnections).map Message.timestamp = [5] := by
  intro f messages
  have hended (cs : List Connection) : (answering cs).1.isEnded = true := by
    cases cs with
    | nil => rfl
    | cons c cs =>
        show (if c.isEnded then c else Connection.refused).isEnded = true
        split
        · assumption
        · rfl
  refine ⟨?_, by decide +kernel, ?_, by decide +kernel⟩
  · exact (handed_across_connections none 1000 [.register ⟨"a"⟩ accepting] rfl rfl ⟨"a"⟩).1
      twoConnections betweenTwo (by decide +kernel) rfl (by decide +kernel) (by decide +kernel)
  · exact (handed_across_connections none 1000 [.register ⟨"a"⟩ accepting] rfl rfl ⟨"a"⟩).2
      answering 2 hended (by decide +kernel)

end Messenger.Stream.Feed
