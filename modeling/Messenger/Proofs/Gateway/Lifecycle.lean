import Messenger.Proofs.Gateway.Forgetting
import Messenger.Proofs.Gateway.Moves

set_option autoImplicit false

/-! # Enabling and disabling

Whatever is done with a gateway, a worker exists only while the gateway is enabled, at most one
worker runs, and nothing that came from the daemon is kept while it is disabled. To enable a gateway
is to be told a version: if none is told, only the daemon was asked, and the gateway is as it was
(`Gateway.lifecycle`). -/

namespace Messenger.Gateway

open Json

variable {δ : Type}

/-! ## What a gateway keeps -/

/-- Nothing is kept that came from the daemon, and no worker runs. -/
structure AtRest (g : Gateway δ) : Prop where
  stream : g.streamState = .stopped
  history : g.registry.history = []
  groups : g.groups.entries = []
  identities : g.identities.entries = []

/-- What holds of a gateway between two operations. -/
structure Orderly (g : Gateway δ) : Prop where
  enabled : g.worker ≠ none → g.enabled = true
  rest : g.enabled = false → g.AtRest

variable {d : Daemon δ} {g g' : Gateway δ}

theorem atRest_forgotten (g : Gateway δ) : g.forgotten.AtRest := ⟨rfl, rfl, rfl, rfl⟩

/-- An enabled gateway is orderly. -/
theorem orderly_of_enabled (h : g.enabled = true) : g.Orderly where
  enabled _ := h
  rest hdisabled := absurd (h.symm.trans hdisabled) (by decide)

/-- One operation keeps a gateway orderly. -/
theorem Orderly.move (h : g.Orderly) (hmove : Moves d g g') : g'.Orderly := by
  cases hmove with
  | asked => exact ⟨h.enabled, fun hdisabled => { h.rest hdisabled with }⟩
  | admitted => exact orderly_of_enabled rfl
  | begun => exact orderly_of_enabled rfl
  | disabled => exact ⟨fun hworker => absurd rfl hworker, fun _ => g.atRest_forgotten⟩
  | used henabled => exact orderly_of_enabled henabled
  | listeners hhistory =>
      refine ⟨h.enabled, fun hdisabled => ?_⟩
      have hrest := h.rest hdisabled
      exact { hrest with history := hhistory.trans hrest.history }
  | worked hworker =>
      have hsome : g.worker ≠ none := by
        rw [hworker]
        exact Option.some_ne_none _
      exact orderly_of_enabled (h.enabled hsome)
  | passed => exact ⟨h.enabled, fun hdisabled => { h.rest hdisabled with }⟩

theorem Orderly.run (h : g.Orderly) (ops : List Operation) : (run d ops g).2.Orderly := by
  induction ops generalizing g with
  | nil => exact h
  | cons op ops ih => exact ih (h.move (moves d op g))

/-- A new gateway is orderly. -/
theorem orderly_of_create {settings : Settings} {sequence : Rpc.Sequence} {s : δ}
    (hcreate : create settings sequence s = .ok g) : g.Orderly := by
  obtain ⟨-, endpoint, -, rfl⟩ := create_eq_ok_iff.1 hcreate
  exact ⟨fun hworker => absurd rfl hworker, fun _ => ⟨rfl, rfl, rfl, rfl⟩⟩

/-! ## How many workers run -/

/-- How many workers of a gateway run. -/
def lives (g : Gateway δ) : Int := if g.streamState = .stopped then 0 else 1

/-- The worker of a gateway is stopped if it is over. -/
def Sane (g : Gateway δ) : Prop := ∀ w ∈ g.worker, w.Sane

theorem lives_of_some {w : Stream.Worker} (h : g.worker = some w) : g.lives = w.lives := by
  unfold lives streamState
  rw [h]
  rfl

theorem lives_of_none (h : g.worker = none) : g.lives = 0 := by
  unfold lives streamState
  rw [h]
  rfl

/-- What an operation shows has the net by which the number of running workers changes. -/
structure Tallied {α : Type} (g : Gateway δ) (x : Result δ α) : Prop where
  sane : x.2.2.Sane
  net : g.lives + net x.2.1 = x.2.2.lives

variable {α : Type} {x : Result δ α}

/-- An operation that shows nothing of workers leaves the worker alone. -/
theorem Tallied.of_same (hsane : g.Sane) (hnet : Messenger.net x.2.1 = 0)
    (hworker : x.2.2.worker = g.worker) : Tallied g x where
  sane w hw := hsane w (hworker ▸ hw)
  net := by rw [hnet, Int.add_zero, lives, lives, streamState, streamState, hworker]

theorem Gated.tallied {x : Result δ (Except GatewayError α)} (hsane : g.Sane) (h : Gated d g x) :
    Tallied g x := by
  obtain ⟨groups, identities, link, -, hg⟩ := h.uses.gateway
  exact .of_same hsane h.uses.quiet (by rw [hg])

/-- What happened to a worker is what happened to its gateway. -/
theorem tallied_of_counted {w : Stream.Worker} (hworker : g.worker = some w)
    {y : List (Notice Message) × Stream.Feed (Around δ)} (hy : Stream.Feed.Counted w y)
    (hnotices : x.2.1 = y.1) (hafter : x.2.2.worker = some y.2.worker) : Tallied g x where
  sane w' hw' := by
    rw [hafter] at hw'
    exact Option.some.inj hw' ▸ hy.sane
  net := by rw [lives_of_some hworker, lives_of_some hafter, hnotices, hy.net]

theorem net_version (d : Daemon δ) (g : Gateway δ) : net (g.version d).2.1 = 0 := by
  have hlog := g.link.quiet_call d "version" (.obj []) none
  unfold version
  rcases hx : g.link.call d "version" (.obj []) none with ⟨_ | _, log, link⟩ <;> rw [hx] at hlog
  · exact net_logged (hlog.append (quiet_singleton rfl))
  · exact net_logged hlog

theorem net_enableCalls (d : Daemon δ) (g : Gateway δ) : net (g.enableCalls d).2.1 = 0 := by
  have hversion := net_version d g
  unfold enableCalls
  rcases hx : g.version d with ⟨_ | text, notices, g'⟩ <;> rw [hx] at hversion
  · exact hversion
  · dsimp only
    rw [net_append, hversion]
    rfl

theorem enable_notices (d : Daemon δ) (g : Gateway δ) :
    (g.enable d).2.1 = (g.enableCalls d).2.1 := by
  unfold enable
  rcases g.enableCalls d with ⟨_ | _, notices, g'⟩ <;> rfl

theorem tallied_version (hsane : g.Sane) (d : Daemon δ) : Tallied g (g.version d) :=
  .of_same hsane (net_version d g) (by rw [version_gateway])

theorem tallied_enableCalls (hsane : g.Sane) (d : Daemon δ) : Tallied g (g.enableCalls d) := by
  refine .of_same hsane (net_enableCalls d g) ?_
  cases h : (g.version d).1 with
  | none => rw [(enableCalls_of_none h).2, version_gateway]
  | some text => rw [(enableCalls_of_some h).2, version_gateway]

theorem tallied_enable (hsane : g.Sane) (d : Daemon δ) : Tallied g (g.enable d) := by
  have hnet : net (g.enable d).2.1 = 0 := by rw [enable_notices, net_enableCalls]
  cases h : (g.version d).1 with
  | none =>
      obtain ⟨hfailed, hgateway⟩ := enableCalls_of_none h
      refine .of_same hsane hnet ?_
      rw [(enable_of_error hfailed).2, hgateway, version_gateway]
  | some text =>
      obtain ⟨hok, hgateway⟩ := enableCalls_of_some h
      have hafter := (enable_of_ok hok).2
      rw [hgateway, version_gateway] at hafter
      cases hworker : g.worker with
      | some w =>
          refine .of_same hsane hnet ?_
          rw [hafter]
          simp only [hworker]
          rfl
      | none =>
          -- A worker that is started has not begun.
          have hnew : (g.enable d).2.2.worker
              = some { address := g.link.endpoint.events.text } := by
            rw [hafter]
            simp only [hworker]
            rfl
          refine ⟨fun w hw => ?_, ?_⟩
          · obtain rfl := Option.some.inj (hnew.symm.trans hw)
            exact Stream.Worker.sane_of_not_over rfl
          · rw [hnet, lives_of_none hworker, lives_of_some hnew]
            rfl

/-- A worker that is cancelled is stopped. -/
theorem stopped_of_cancelled {σ : Type} {resolver : Event.Resolver σ} {f : Stream.Feed σ}
    (hsane : f.worker.Sane) : (f.step resolver .cancelled).2.worker.state = .stopped := by
  obtain ⟨⟨address, state, isOver, splitter, framer⟩, registry, around⟩ := f
  unfold Stream.Feed.step
  cases isOver with
  | true => exact hsane rfl
  | false => cases state <;> rfl

theorem tallied_disable (hsane : g.Sane) : Tallied g g.disable := by
  have hafter : g.disable.2.2.worker = none := by rw [disable_gateway]
  refine ⟨fun w hw => absurd (hafter.symm.trans hw) (by simp), ?_⟩
  rw [lives_of_none hafter]
  cases hworker : g.worker with
  | none =>
      have hnotices : g.disable.2.1 = [] := by
        unfold disable stopWorker
        rw [hworker]
      rw [lives_of_none hworker, hnotices]
      rfl
  | some w =>
      have hnotices : g.disable.2.1
          = (Stream.Feed.step none .cancelled ⟨w, g.registry, ()⟩).1 := by
        unfold disable stopWorker
        rw [hworker]
      have hquiet : Event.QuietResolver (none : Event.Resolver Unit) := fun _ h => by cases h
      have hw : w.Sane := hsane w hworker
      have hcounted := Stream.Feed.counted_step hquiet .cancelled (f := ⟨w, g.registry, ()⟩) hw
      rw [lives_of_some hworker, hnotices, hcounted.net]
      exact Stream.Worker.lives_of_stopped (stopped_of_cancelled hw)

theorem tallied_listen (hsane : g.Sane) (d : Daemon δ) (attempts : Nat) :
    Tallied g ((), g.listen d attempts) := by
  unfold listen
  cases hworker : g.worker with
  | none => exact .of_same hsane rfl rfl
  | some w =>
      have hquiet := Event.quiet_titles (GroupDirectory.quiet_load d) g.now
      have hw : w.Sane := hsane w hworker
      exact tallied_of_counted hworker (Stream.Feed.counted_run hquiet _ attempts
        (f := ⟨w, g.registry, g.groups, g.link⟩) hw) rfl rfl

theorem tallied_occur (hsane : g.Sane) (d : Daemon δ) (o : Stream.Occurrence) :
    Tallied g ((), g.occur d o) := by
  unfold occur
  cases hworker : g.worker with
  | none => exact .of_same hsane rfl rfl
  | some w =>
      have hquiet := Event.quiet_titles (GroupDirectory.quiet_load d) g.now
      have hw : w.Sane := hsane w hworker
      exact tallied_of_counted hworker (Stream.Feed.counted_step hquiet o
        (f := ⟨w, g.registry, g.groups, g.link⟩) hw) rfl rfl

/-- The answer of an operation is of no matter. -/
theorem Tallied.answer {β : Type} {y : Result δ β} (h : Tallied g x) (hxy : y.2 = x.2) :
    Tallied g y := by
  obtain ⟨b, after⟩ := y
  subst hxy
  exact ⟨h.sane, h.net⟩

theorem tallied_apply (hsane : g.Sane) (d : Daemon δ) (op : Operation) :
    Tallied g (apply d op g) := by
  cases op with
  | enable => exact (tallied_enable hsane d).answer rfl
  | enableCalls => exact (tallied_enableCalls hsane d).answer rfl
  | disable => exact (tallied_disable hsane).answer rfl
  | version => exact (tallied_version hsane d).answer rfl
  | groups account => exact ((gated_groupsOf d account g).tallied hsane).answer rfl
  | identities account => exact ((gated_identitiesOf d account g).tallied hsane).answer rfl
  | call method params chosen =>
      exact ((gated_call d method params chosen g).tallied hsane).answer rfl
  | send delivery => exact ((gated_send d delivery g).tallied hsane).answer rfl
  | register id listener => exact .of_same hsane (g.registry.net_register id listener) rfl
  | unregister id => exact .of_same hsane (g.registry.net_remove id) rfl
  | listen attempts => exact (tallied_listen hsane d attempts).answer rfl
  | occur o => exact (tallied_occur hsane d o).answer rfl
  | inspect => exact .of_same hsane rfl rfl
  | pass elapsed => exact .of_same hsane rfl rfl

/-- Everything that a run shows. -/
def shown (d : Daemon δ) (ops : List Operation) (g : Gateway δ) : List (Notice Message) :=
  (run d ops g).1.flatMap Prod.snd

theorem tallied_run (hsane : g.Sane) (d : Daemon δ) (ops : List Operation) :
    (run d ops g).2.Sane ∧ g.lives + net (shown d ops g) = (run d ops g).2.lives := by
  induction ops generalizing g with
  | nil => exact ⟨hsane, Int.add_zero _⟩
  | cons op ops ih =>
      have hop := tallied_apply hsane d op
      obtain ⟨hlast, hrest⟩ := ih hop.sane
      have hshown : shown d (op :: ops) g
          = (apply d op g).2.1 ++ shown d ops (apply d op g).2.2 := rfl
      refine ⟨hlast, ?_⟩
      rw [hshown, net_append, ← Int.add_assoc, hop.net, hrest]
      rfl

/-! ## Being told a version -/

/-- A call succeeds, and its result has a text under `version` that is not blank; the version is
that text without the blanks around it. -/
def TellsVersion (result : Except Rpc.Error Value) (version : String) : Prop :=
  ∃ v text, result = .ok v ∧ v.get? "version" = some (.str text)
    ∧ Text.isBlankText text = false ∧ version = Text.trim text

theorem isEmpty_trim (s : String) : (Text.trim s).isEmpty = Text.isBlankText s := by
  rw [Bool.eq_iff_iff, ← Text.trim_eq_empty_iff]
  exact String.isEmpty_iff

theorem versionOf_eq_some_iff {v : Value} {version : String} :
    versionOf v = some version ↔ ∃ text, v.get? "version" = some (.str text)
      ∧ Text.isBlankText text = false ∧ version = Text.trim text := by
  have hcut (text : String) :
      (if (Text.trim text).isEmpty then none else some (Text.trim text)) = some version
        ↔ Text.isBlankText text = false ∧ version = Text.trim text := by
    rw [isEmpty_trim]
    cases Text.isBlankText text <;> simp [eq_comm]
  have hbind : versionOf v = (v.get? "version").bind fun x => x.str?.bind fun text =>
      if (Text.trim text).isEmpty then none else some (Text.trim text) := rfl
  rw [hbind, Option.bind_eq_some_iff]
  constructor
  · rintro ⟨x, hx, hversion⟩
    obtain ⟨text, htext, hversion⟩ := Option.bind_eq_some_iff.1 hversion
    obtain rfl := Value.str?_eq_some_iff.1 htext
    exact ⟨text, hx, (hcut text).1 hversion⟩
  · rintro ⟨text, hx, hversion⟩
    exact ⟨.str text, hx, Option.bind_eq_some_iff.2 ⟨text, rfl, (hcut text).2 hversion⟩⟩

theorem told_eq_some_iff {result : Except Rpc.Error Value} {version : String} :
    told result = some version ↔ TellsVersion result version := by
  cases result with
  | error e =>
      constructor
      · intro h
        cases h
      · rintro ⟨v, text, h, -⟩
        cases h
  | ok v =>
      rw [told, versionOf_eq_some_iff]
      constructor
      · rintro ⟨text, htext⟩
        exact ⟨v, text, rfl, htext⟩
      · rintro ⟨_, text, hv, htext⟩
        cases hv
        exact ⟨text, htext⟩

/-- What an operation does that enables a gateway: it succeeds, and the gateway is enabled, if the
daemon tells a version. Otherwise it fails, and nothing is changed but the link to the daemon, which
was asked. -/
structure Checked (d : Daemon δ) (g : Gateway δ) (x : Result δ (Except GatewayError String)) :
    Prop where
  succeeds : ∀ version, x.1 = .ok version
    ↔ TellsVersion (g.link.call d "version" (.obj []) none).1 version
  fails : (∃ e, x.1 = .error e)
    ↔ ¬ ∃ version, TellsVersion (g.link.call d "version" (.obj []) none).1 version
  admits : ∀ version, x.1 = .ok version → x.2.2.enabled = true
  reason : ∀ e, x.1 = .error e → e = .daemonUnavailable g.address
  untouched : ∀ e, x.1 = .error e
    → x.2.2 = { g with link := (g.link.call d "version" (.obj []) none).2.2 }

/-- An operation that does what it does by whether a version is told. -/
theorem checked_of_told {x : Result δ (Except GatewayError String)}
    (hnone : (g.version d).1 = none →
      x.1 = .error (.daemonUnavailable g.address) ∧ x.2.2 = (g.version d).2.2)
    (hsome : ∀ version, (g.version d).1 = some version →
      x.1 = .ok version ∧ x.2.2.enabled = true) : Checked d g x := by
  have htold (version : String) : (g.version d).1 = some version
      ↔ TellsVersion (g.link.call d "version" (.obj []) none).1 version := by
    rw [version_fst, told_eq_some_iff]
  cases h : (g.version d).1 with
  | none =>
      obtain ⟨hanswer, hgateway⟩ := hnone h
      have hsilent : ¬ ∃ version,
          TellsVersion (g.link.call d "version" (.obj []) none).1 version := by
        rintro ⟨version, hversion⟩
        exact absurd (h.symm.trans ((htold version).2 hversion)) (Option.some_ne_none _).symm
      refine ⟨fun version => ?_, ?_, fun version hok => ?_, fun e he => ?_, fun e _ => ?_⟩
      · rw [hanswer]
        exact iff_of_false (fun hok => by cases hok) fun htells => hsilent ⟨version, htells⟩
      · exact ⟨fun _ => hsilent, fun _ => ⟨_, hanswer⟩⟩
      · rw [hanswer] at hok
        cases hok
      · exact Except.error.inj (he.symm.trans hanswer)
      · rw [hgateway, version_gateway]
  | some told =>
      obtain ⟨hanswer, henabled⟩ := hsome told h
      have hok (e : GatewayError) (he : x.1 = .error e) : False := by
        rw [hanswer] at he
        cases he
      refine ⟨fun version => ?_, ?_, fun _ _ => henabled, fun e he => (hok e he).elim,
        fun e he => (hok e he).elim⟩
      · rw [hanswer, ← htold, h]
        exact ⟨fun hsame => congrArg some (Except.ok.inj hsame),
          fun hsame => congrArg Except.ok (Option.some.inj hsame)⟩
      · exact iff_of_false (fun ⟨e, he⟩ => hok e he) fun hsilent =>
          hsilent ⟨told, (htold told).1 h⟩

theorem checked_enableCalls (d : Daemon δ) (g : Gateway δ) : Checked d g (g.enableCalls d) :=
  checked_of_told enableCalls_of_none fun _ h =>
    have hok := enableCalls_of_some h
    ⟨hok.1, by rw [hok.2]⟩

theorem checked_enable (d : Daemon δ) (g : Gateway δ) : Checked d g (g.enable d) :=
  checked_of_told
    (fun h =>
      have hfailed := enableCalls_of_none h
      have hsame := enable_of_error hfailed.1
      ⟨hsame.1, hsame.2.trans hfailed.2⟩)
    fun _ h =>
      have hok := enableCalls_of_some h
      have hsame := enable_of_ok hok.1
      ⟨hsame.1, by rw [hsame.2, hok.2]⟩

theorem Checked.enabled_iff {x : Result δ (Except GatewayError String)} (h : Checked d g x) :
    x.2.2.enabled = true ↔ (∃ version, x.1 = .ok version) ∨ g.enabled = true := by
  cases hx : x.1 with
  | ok version => exact iff_of_true (h.admits version hx) (.inl ⟨version, rfl⟩)
  | error e =>
      rw [h.untouched e hx, or_iff_right (by simp)]

/-! ## Every run -/

/-- **Enabling and disabling.** Between any two operations, as many workers have begun as have
ended, and one more if the stream is not stopped; a worker exists only while the gateway is enabled;
and while it is not, the stream is stopped and nothing is kept that came from the daemon. Enabling
succeeds if and only if the daemon tells a version then. -/
theorem lifecycle {settings : Settings} {sequence : Rpc.Sequence} {s : δ} {g₀ : Gateway δ}
    (hcreate : create settings sequence s = .ok g₀) (d : Daemon δ) (ops : List Operation) :
    let g := (run d ops g₀).2
    net (shown d ops g₀) = (if g.streamState = .stopped then 0 else 1)
      ∧ g.Orderly ∧ Checked d g (g.enable d) ∧ Checked d g (g.enableCalls d) := by
  intro g
  obtain ⟨-, endpoint, -, hnew⟩ := create_eq_ok_iff.1 hcreate
  have hsane : g₀.Sane := by
    rw [hnew]
    intro w hw
    cases hw
  have hlives : g₀.lives = 0 := by
    rw [hnew]
    rfl
  have hnet := (tallied_run hsane d ops).2
  rw [hlives, Int.zero_add] at hnet
  exact ⟨hnet, (orderly_of_create hcreate).run ops, checked_enable d g, checked_enableCalls d g⟩

/-- A gateway that is enabled twice in a row, with its worker waiting to connect again. -/
theorem lifecycle_enabled_twice :
    let start : Gateway Unit := newborn .loopback .loopback {} ()
    let g := (run Daemon.telling [.enable, .listen 1, .enable] start).2
    create .loopback {} () = .ok start ∧ g.streamState = .backoff
      ∧ net (shown Daemon.telling [.enable, .listen 1, .enable] start)
        = (if g.streamState = .stopped then 0 else 1)
      ∧ g.Orderly ∧ Checked Daemon.telling g (g.enable Daemon.telling)
      ∧ Checked Daemon.telling g (g.enableCalls Daemon.telling) := by
  intro start
  have hcreate : create .loopback {} () = .ok start :=
    create_eq_ok_iff.2 ⟨by decide +kernel, .loopback, by decide +kernel, rfl⟩
  have hstate : (run Daemon.telling [.enable, .listen 1, .enable] start).2.streamState
      = .backoff := by
    decide +kernel
  exact ⟨hcreate, hstate, lifecycle hcreate Daemon.telling [.enable, .listen 1, .enable]⟩

end Messenger.Gateway
