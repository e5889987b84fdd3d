import Messenger.Proofs.Cache.Slow
import Messenger.Proofs.Gateway.Gating
import Messenger.Proofs.Gateway.Shared

set_option autoImplicit false

/-! # Operations that nobody interrupts

A task that is begun at a shared gateway and goes on without anybody coming in between does what
`apply` does: it shows the same notices, leaves the same gateway and gets the same answer
(`Shared.alone`). So whatever is proved of operations that are applied one after the other is proved
of tasks that do not overlap. -/

namespace Messenger.Gateway

open Json

variable {δ : Type}

/-- Operations that somebody calls: all but those that tell what happens to the worker. -/
def Operation.isCalled : Operation → Bool
  | .listen _ | .occur _ => false
  | _ => true

/-- The notices among signs. -/
def noticesOf (signs : List Sign) : List (Notice Message) :=
  signs.filterMap fun
    | .noticed n => some n
    | .worked (.noticed n) => some n
    | _ => none

theorem noticesOf_append (signs more : List Sign) :
    noticesOf (signs ++ more) = noticesOf signs ++ noticesOf more := List.filterMap_append

@[simp] theorem noticesOf_noticed (notices : List (Notice Message)) :
    noticesOf (notices.map .noticed) = notices := by
  rw [noticesOf, List.filterMap_map]
  exact List.filterMap_some

@[simp] theorem noticesOf_logged (log : List LogRecord) : noticesOf (logged log) = noted log := by
  rw [noted, ← noticesOf_noticed (log.map .logged), List.map_map]
  rfl

namespace Shared

/-- A task and the worker that it stops go on from one state to another, and show notices. -/
def Reaches (d : Daemon δ) (k : Nat) (π : Shared δ) (notices : List (Notice Message))
    (π' : Shared δ) : Prop :=
  ∃ ts, (∀ t ∈ ts, t = .go k ∨ ∃ i, t = .leaver i .go) ∧ noticesOf (run d ts π).1 = notices
    ∧ (run d ts π).2 = π'

variable {d : Daemon δ} {k : Nat} {π π' π'' : Shared δ} {notices more : List (Notice Message)}

theorem Reaches.refl (d : Daemon δ) (k : Nat) (π : Shared δ) : Reaches d k π [] π :=
  ⟨[], List.forall_mem_nil _, rfl, rfl⟩

theorem Reaches.turn {t : Turn δ} (ht : t = .go k ∨ ∃ i, t = .leaver i .go)
    (hnotices : noticesOf (π.step d t).1 = notices)
    (h : Reaches d k (π.step d t).2 more π') : Reaches d k π (notices ++ more) π' := by
  obtain ⟨ts, hts, hmore, hlast⟩ := h
  refine ⟨t :: ts, List.forall_mem_cons.2 ⟨ht, hts⟩, ?_, hlast⟩
  rw [run, noticesOf_append, hnotices, hmore]

/-- The shared gateway with one more task. -/
def one (π : Shared δ) (task : Task) (gateway : Gateway δ) (holder : Option Nat) : Shared δ :=
  { π with gateway, holder, tasks := π.tasks ++ [task] }

theorem put_one (π : Shared δ) (task task' : Task) (g : Gateway δ) (holder : Option Nat) :
    (π.one task g holder).put π.tasks.length task' = π.one task' g holder := by
  simp [one, put]

theorem gateway_one (π : Shared δ) (task : Task) (g : Gateway δ) (holder : Option Nat) :
    (π.one task g holder).gateway = g := rfl

variable {g g' : Gateway δ} {task task' : Task} {holder holder' : Option Nat}

theorem step_one (d : Daemon δ) (π : Shared δ) (task : Task) (g : Gateway δ)
    (holder : Option Nat) :
    (π.one task g holder).step d (.go π.tasks.length)
      = (π.one task g holder).proceed d π.tasks.length task := by
  have htask : (π.one task g holder).tasks[π.tasks.length]? = some task :=
    List.getElem?_concat_length
  rw [step, advance, htask]

/-- The one more task takes a step. -/
theorem Reaches.go {signs : List Sign} (h : Reaches d π.tasks.length π'' more π')
    (hstep : (π.one task g holder).proceed d π.tasks.length task = (signs, π'')) :
    Reaches d π.tasks.length (π.one task g holder) (noticesOf signs ++ more) π' := by
  rw [← step_one] at hstep
  exact .turn (.inl rfl) (by rw [hstep]) (by rwa [hstep])

/-- The one more task takes a step that shows nothing. -/
theorem Reaches.quietly (h : Reaches d π.tasks.length π'' notices π')
    (hstep : (π.one task g holder).proceed d π.tasks.length task = ([], π'')) :
    Reaches d π.tasks.length (π.one task g holder) notices π' := h.go hstep

/-- The one more task takes its last step. -/
theorem Reaches.last {signs : List Sign} (hnotices : noticesOf signs = notices)
    (hstep : (π.one task g holder).proceed d π.tasks.length task = (signs, π')) :
    Reaches d π.tasks.length (π.one task g holder) notices π' := by
  have h := (Reaches.refl d π.tasks.length π').go hstep
  rwa [List.append_nil, hnotices] at h

/-! ## Questions -/

/-- A task asks, and goes on with the reply. -/
theorem reaches_ask {question : Question} {purpose : Purpose} {reply : Except Rpc.Error Value}
    {log : List LogRecord} {link : Link δ}
    (hcall : g.link.call d question.method question.params question.chosen = (reply, log, link))
    (h : Reaches d π.tasks.length (π.one (.hearing reply log purpose) { g with link } holder)
      notices π') :
    Reaches d π.tasks.length (π.one (.asking question purpose) g holder) notices π' := by
  refine h.quietly ?_
  simp only [proceed, ask, gateway_one, hcall]
  exact congrArg _ (put_one ..)

theorem version_eq {reply : Except Rpc.Error Value} {log : List LogRecord} {link : Link δ}
    (hcall : g.link.call d "version" (.obj []) none = (reply, log, link)) :
    g.version d = (told reply, noted (log ++ versionLog { g with link } reply), { g with link }) := by
  simp only [version, hcall]
  cases reply with
  | error e => rfl
  | ok v =>
      simp only [versionLog, List.append_nil]
      rfl

/-! ## Rest -/

/-- Nobody is enabling or disabling the gateway, its worker waits for its next occurrence, and every
worker before it has stopped. -/
structure AtRest (π : Shared δ) : Prop where
  holder : π.holder = none
  worker : ∀ w, π.gateway.worker = some w →
    w.isOver = false ∧ π.stage = Stream.Feed.stageOf w.state
  leavers : ∀ l ∈ π.leavers, l.worker.state = .stopped

theorem AtRest.one (h : π.AtRest) (hworker : g.worker = π.gateway.worker) (task : Task) :
    (π.one task g none).AtRest :=
  ⟨rfl, fun w hw => h.worker w (hworker.symm.trans hw), h.leavers⟩

theorem AtRest.answer (h : π.AtRest) (k : Nat) (a : Answer) : (π.answer k a).AtRest :=
  ⟨h.holder, h.worker, h.leavers⟩

/-- A worker that is started waits for its first occurrence. -/
theorem AtRest.letIn (h : π.AtRest) (listens : Bool) : (π.letIn listens).AtRest := by
  refine ⟨h.holder, fun w hw => ?_, h.leavers⟩
  cases listens with
  | false => exact h.worker w hw
  | true =>
      cases hworker : π.gateway.worker with
      | none =>
          simp only [Shared.letIn, admitted, hworker] at hw ⊢
          cases hw
          exact ⟨rfl, rfl⟩
      | some w' =>
          simp only [Shared.letIn, admitted, hworker] at hw ⊢
          cases hw
          exact h.worker w' hworker

/-- An operation is over, and it did what `apply` says. -/
structure Done (d : Daemon δ) (op : Operation) (π π' : Shared δ) : Prop where
  gateway : π'.gateway = (apply d op π.gateway).2.2
  tasks : π'.tasks = π.tasks ++ [.over (some (apply d op π.gateway).1)]
  rest : π'.AtRest

/-- An operation that was begun gets done. -/
def Finishes (d : Daemon δ) (op : Operation) (π : Shared δ) : Prop :=
  ∃ π', Reaches d π.tasks.length (π.one (.begun op) π.gateway none) (apply d op π.gateway).2.1 π'
    ∧ Done d op π π'

/-- It gets done if its task comes to the answer and leaves the gateway. -/
theorem finishes_of {op : Operation} {a : Answer} (hrest : π.AtRest)
    (happly : apply d op π.gateway = (a, notices, g)) (hworker : g.worker = π.gateway.worker)
    (h : Reaches d π.tasks.length (π.one (.begun op) π.gateway none) notices
      (π.one (.over (some a)) g none)) : Finishes d op π := by
  rw [Finishes, happly]
  refine ⟨_, h, ⟨?_, ?_, hrest.one hworker _⟩⟩
  · rw [happly]
    rfl
  · rw [happly]
    rfl

theorem finishes_version (d : Daemon δ) (hrest : π.AtRest) : Finishes d .version π := by
  rcases hcall : π.gateway.link.call d "version" (.obj []) none with ⟨reply, log, link⟩
  let g : Gateway δ := { π.gateway with link }
  have happly : apply d .version π.gateway
      = (.ok (.version (told reply)), noted (log ++ versionLog g reply), g) := by
    simp only [apply, Result.sure, version_eq hcall, g]
  have hlast : Reaches d π.tasks.length (π.one (.hearing reply log .version) g none)
      (noted (log ++ versionLog g reply))
      (π.one (.over (some (.ok (.version (told reply))))) g none) := by
    refine .last (noticesOf_logged _) ?_
    simp only [proceed, hear]
    exact congrArg _ (put_one ..)
  have hasking : Reaches d π.tasks.length (π.one (.asking .version .version) π.gateway none)
      (noted (log ++ versionLog g reply))
      (π.one (.over (some (.ok (.version (told reply))))) g none) := reaches_ask hcall hlast
  have hbegun : (π.one (.begun .version) π.gateway none).proceed d π.tasks.length (.begun .version)
      = ([], π.one (.asking .version .version) π.gateway none) := congrArg _ (put_one ..)
  exact finishes_of hrest happly rfl (hasking.quietly hbegun)

/-- The operation that enables a gateway, for calls only or to listen too. -/
def enabling (listens : Bool) : Operation := if listens then .enable else .enableCalls

theorem apply_enabling_of_none (listens : Bool) {answer : List (Notice Message) × Gateway δ}
    (hversion : g.version d = (none, answer)) :
    apply d (enabling listens) g
      = (.error (.daemonUnavailable answer.2.address), answer) := by
  cases listens <;> simp only [enabling, if_true, Bool.false_eq_true, if_false, apply, Result.told,
    enable, enableCalls, hversion] <;> rfl

theorem apply_enabling_of_some (listens : Bool) {version : String}
    (hversion : g.version d = (some version, notices, g')) :
    apply d (enabling listens) g = (.ok (.enabled version),
      notices ++ noted [connectedRecord version g'], g'.admitted listens) := by
  cases listens <;> simp only [enabling, if_true, Bool.false_eq_true, if_false, apply, Result.told,
    enable, enableCalls, hversion] <;> rfl

theorem finishes_enabling (d : Daemon δ) (listens : Bool) (hrest : π.AtRest) :
    Finishes d (enabling listens) π := by
  rcases hcall : π.gateway.link.call d "version" (.obj []) none with ⟨reply, log, link⟩
  let g : Gateway δ := { π.gateway with link }
  let k := π.tasks.length
  have hversion : π.gateway.version d = (told reply, noted (log ++ versionLog g reply), g) :=
    version_eq hcall
  -- The version is asked for while the task keeps others from enabling and disabling.
  have hasking {notices : List (Notice Message)} {π' : Shared δ}
      (h : Reaches d k (π.one (.hearing reply log (.admission listens)) g (some k)) notices π') :
      Reaches d k (π.one (.begun (enabling listens)) π.gateway none) notices π' := by
    have hask : Reaches d k (π.one (.asking .version (.admission listens)) π.gateway (some k))
        notices π' := reaches_ask hcall h
    refine hask.quietly ?_
    cases listens <;> exact congrArg _ (put_one ..)
  cases htold : told reply with
  | none =>
      rw [htold] at hversion
      refine finishes_of hrest (apply_enabling_of_none listens hversion) rfl
        (hasking (.last (noticesOf_logged _) ?_))
      simp only [proceed, hear, htold]
      exact congrArg _ (put_one ..)
  | some version =>
      rw [htold] at hversion
      have happly := apply_enabling_of_some (d := d) listens hversion
      let free := π.one (.hearing reply log (.admission listens)) g none
      have hlast : Reaches d k (π.one (.hearing reply log (.admission listens)) g (some k))
          (noted (log ++ versionLog g reply) ++ noted [connectedRecord version g])
          ((free.letIn listens).answer k (.ok (.enabled version))) := by
        refine .last ?_ (by simp only [proceed, hear, htold]; rfl)
        rw [noticesOf_append, noticesOf_logged]
        rfl
      rw [Finishes, happly]
      have hworker : g.worker = π.gateway.worker := rfl
      have hfree : free.AtRest := hrest.one hworker _
      refine ⟨_, hasking hlast, ⟨?_, ?_, (hfree.letIn listens).answer k _⟩⟩
      · rw [happly]
        rfl
      · rw [happly]
        exact congrArg Shared.tasks (put_one π _ _ g none)

/-! ## Questions that need an enabled gateway -/

/-- An operation that is refused unless the gateway is enabled. -/
theorem finishes_pass {op : Operation} {next : Task} (hrest : π.AtRest) (hop : op.isGated = true)
    (hstart : ∀ (k : Nat) (π : Shared δ), π.start d k op = π.pass k next)
    (hnext : π.gateway.enabled = true → Reaches d π.tasks.length (π.one next π.gateway none)
      (apply d op π.gateway).2.1
      (π.one (.over (some (apply d op π.gateway).1)) (apply d op π.gateway).2.2 none)) :
    Finishes d op π := by
  let start := π.one (.begun op) π.gateway none
  have hsame : start.gateway.enabled = π.gateway.enabled := rfl
  cases henabled : π.gateway.enabled with
  | false =>
      have hrefused : start.proceed d π.tasks.length (.begun op)
          = ([], π.one (.over (some (.error .disabled))) π.gateway none) := by
        rw [proceed, hstart, pass_of_disabled (hsame.trans henabled)]
        exact congrArg _ (put_one ..)
      exact finishes_of hrest (refused_of_isGated hop henabled) rfl (.last rfl hrefused)
  | true =>
      have hpassed : start.proceed d π.tasks.length (.begun op)
          = ([.passed π.tasks.length], π.one next π.gateway none) := by
        rw [proceed, hstart, pass_of_enabled (hsame.trans henabled)]
        exact congrArg _ (put_one ..)
      exact ⟨_, (hnext henabled).go hpassed,
        ⟨rfl, rfl, hrest.one (worker_of_isGated hop d π.gateway) _⟩⟩

theorem load_groups_eq {account : String} {reply : Except Rpc.Error Value} {log : List LogRecord}
    {l link : Link δ}
    (hcall : l.call d listGroups (.obj [("account", .str account)]) none = (reply, log, link)) :
    GroupDirectory.load d account l = (groupsTold reply, log, link) := by
  simp only [GroupDirectory.load, Link.list, hcall]
  rfl

/-- Groups that are not in the cache are asked for. -/
theorem reaches_loadGroups {wanted : Wanted} {reply : Except Rpc.Error Value}
    {log : List LogRecord} {link : Link δ} (hfresh : g.groups.fresh? g.now wanted.account = none)
    (hcall : g.link.call d listGroups (.obj [("account", .str wanted.account)]) none
      = (reply, log, link))
    (h : Reaches d π.tasks.length (π.one (.hearing reply log (.groups wanted))
      { g with groups := g.groups.invalidate wanted.account, link } none) notices π') :
    Reaches d π.tasks.length (π.one (.seekingGroups wanted) g none) notices π' := by
  have hask : Reaches d π.tasks.length
      (π.one (.asking (.list listGroups wanted.account) (.groups wanted))
        { g with groups := g.groups.invalidate wanted.account } none) notices π' :=
    reaches_ask hcall h
  refine hask.quietly ?_
  simp only [proceed, seekGroups, gateway_one, hfresh]
  exact congrArg _ (put_one ..)

/-- Groups that are in the cache or are loaded. -/
theorem reaches_seekGroups_ok {wanted : Wanted} {groups : GroupDirectory}
    (hasked : g.cachedGroups d wanted.account = (.ok groups, notices, g'))
    (h : Reaches d π.tasks.length (π.one (wanted.next groups).2 g' none) more π') :
    Reaches d π.tasks.length (π.one (.seekingGroups wanted) g none)
      (notices ++ noted (wanted.next groups).1 ++ more) π' := by
  unfold cachedGroups Cache.get at hasked
  cases hfresh : g.groups.fresh? g.now wanted.account with
  | some found =>
      simp only [hfresh, Prod.mk.injEq, Except.ok.injEq] at hasked
      obtain ⟨rfl, rfl, rfl⟩ := hasked
      rw [← noticesOf_logged (wanted.next found).1]
      refine h.go ?_
      simp only [proceed, seekGroups, gateway_one, hfresh, withGroups]
      exact congrArg _ (put_one ..)
  | none =>
      rcases hcall : g.link.call d listGroups (.obj [("account", .str wanted.account)]) none with
        ⟨reply, log, link⟩
      cases htold : groupsTold reply with
      | error e => simp [hfresh, load_groups_eq hcall, htold] at hasked
      | ok found =>
          simp only [hfresh, load_groups_eq hcall, htold, Prod.mk.injEq, Except.ok.injEq]
            at hasked
          obtain ⟨rfl, rfl, rfl⟩ := hasked
          rw [← noticesOf_logged log, ← noticesOf_logged (wanted.next found).1, ← noticesOf_append]
          refine reaches_loadGroups hfresh hcall (h.go ?_)
          simp only [proceed, hear, htold, gateway_one, withGroups, Cache.store_invalidate]
          exact congrArg _ (put_one ..)

/-- Groups that cannot be loaded. -/
theorem reaches_seekGroups_error {wanted : Wanted} {e : GatewayError}
    (hasked : g.cachedGroups d wanted.account = (.error e, notices, g')) :
    Reaches d π.tasks.length (π.one (.seekingGroups wanted) g none) notices
      (π.one (.over (some (.error e))) g' none) := by
  unfold cachedGroups Cache.get at hasked
  cases hfresh : g.groups.fresh? g.now wanted.account with
  | some found => simp [hfresh] at hasked
  | none =>
      rcases hcall : g.link.call d listGroups (.obj [("account", .str wanted.account)]) none with
        ⟨reply, log, link⟩
      cases htold : groupsTold reply with
      | ok found => simp [hfresh, load_groups_eq hcall, htold] at hasked
      | error e' =>
          simp only [hfresh, load_groups_eq hcall, htold, Prod.mk.injEq, Except.error.injEq]
            at hasked
          obtain ⟨rfl, rfl, rfl⟩ := hasked
          refine reaches_loadGroups hfresh hcall (.last (noticesOf_logged log) ?_)
          simp only [proceed, hear, htold]
          exact congrArg _ (put_one ..)

theorem finishes_groups (d : Daemon δ) (account : String) (hrest : π.AtRest) :
    Finishes d (.groups account) π := by
  refine finishes_pass hrest rfl (fun _ _ => rfl) fun henabled => ?_
  rcases hasked : π.gateway.cachedGroups d account with ⟨result, notices, g⟩
  have happly : apply d (.groups account) π.gateway = (result.map .groups, notices, g) := by
    simp only [apply, Result.told, groupsOf, guarded, henabled, if_true, hasked]
  rw [happly]
  cases result with
  | error e => exact reaches_seekGroups_error hasked
  | ok groups =>
      have hreaches : Reaches d π.tasks.length
          (π.one (.seekingGroups (.answer account)) π.gateway none) (notices ++ [] ++ [])
          (π.one (.over (some (.ok (.groups groups)))) g none) :=
        reaches_seekGroups_ok hasked (.refl ..)
      rwa [List.append_nil, List.append_nil] at hreaches

theorem load_identities_eq {account : String} {reply : Except Rpc.Error Value}
    {log : List LogRecord} {l link : Link δ}
    (hcall : l.call d listIdentities (.obj [("account", .str account)]) none
      = (reply, log, link)) :
    IdentityDirectory.load d account l = (identitiesTold reply, log, link) := by
  simp only [IdentityDirectory.load, Link.list, hcall]
  rfl

theorem finishes_identities (d : Daemon δ) (account : String) (hrest : π.AtRest) :
    Finishes d (.identities account) π := by
  refine finishes_pass hrest rfl (fun _ _ => rfl) fun henabled => ?_
  generalize π.gateway = g at henabled ⊢
  rcases hget : g.identities.get (IdentityDirectory.load d) g.now account g.link with
    ⟨result, log, identities, link⟩
  have happly : apply d (.identities account) g
      = (result.map .identities, noted log, { g with identities, link }) := by
    simp only [apply, Result.told, identitiesOf, guarded, henabled, if_true, hget]
  rw [happly]
  unfold Cache.get at hget
  cases hfresh : g.identities.fresh? g.now account with
  | some found =>
      simp only [hfresh, Prod.mk.injEq] at hget
      obtain ⟨rfl, rfl, rfl, rfl⟩ := hget
      refine Reaches.quietly (.refl ..) ?_
      simp only [proceed, seekIdentities, gateway_one, hfresh]
      exact congrArg _ (put_one ..)
  | none =>
      rcases hcall : g.link.call d listIdentities (.obj [("account", .str account)]) none with
        ⟨reply, log', link'⟩
      let asked : Gateway δ := { g with identities := g.identities.invalidate account }
      -- Whatever the reply tells, the task asks for it first.
      have hasks (h : Reaches d π.tasks.length
          (π.one (.hearing reply log' (.identities account)) { asked with link := link' } none)
          (noted log) (π.one (.over (some (result.map .identities)))
            { g with identities, link } none)) :
          Reaches d π.tasks.length (π.one (.seekingIdentities account) g none) (noted log)
            (π.one (.over (some (result.map .identities))) { g with identities, link } none) := by
        have hask : Reaches d π.tasks.length
            (π.one (.asking (.list listIdentities account) (.identities account)) asked none)
            (noted log) _ := reaches_ask hcall h
        refine hask.quietly ?_
        simp only [proceed, seekIdentities, gateway_one, hfresh]
        exact congrArg _ (put_one ..)
      cases htold : identitiesTold reply with
      | ok found =>
          simp only [hfresh, load_identities_eq hcall, htold, Prod.mk.injEq] at hget
          obtain ⟨rfl, rfl, rfl, rfl⟩ := hget
          refine hasks (.last (noticesOf_logged log') ?_)
          simp only [proceed, hear, htold, gateway_one, asked, Cache.store_invalidate]
          exact congrArg _ (put_one ..)
      | error e =>
          simp only [hfresh, load_identities_eq hcall, htold, Prod.mk.injEq] at hget
          obtain ⟨rfl, rfl, rfl, rfl⟩ := hget
          refine hasks (.last (noticesOf_logged log') ?_)
          simp only [proceed, hear, htold]
          exact congrArg _ (put_one ..)

/-! ## Calls and deliveries -/

theorem finishes_call (d : Daemon δ) (method : String) (params : Value) (chosen : Option String)
    (hrest : π.AtRest) : Finishes d (.call method params chosen) π := by
  refine finishes_pass hrest rfl (fun _ _ => rfl) fun henabled => ?_
  rcases hcall : π.gateway.link.call d method params chosen with ⟨reply, log, link⟩
  have happly : apply d (.call method params chosen) π.gateway
      = ((reply.mapError .rpc).map fun v => .results [v], noted log,
        { π.gateway with link }) := by
    simp only [apply, Result.told, call, callMethod, guarded, henabled, if_true, hcall]
  rw [happly]
  exact reaches_ask hcall (.last (noticesOf_logged log) (congrArg _ (put_one ..)))

/-- The calls of a delivery are made in turn, up to the first that fails. -/
theorem reaches_nextCall (method : String) (results plan : List Value) (g : Gateway δ) :
    Reaches d π.tasks.length (π.one (nextCall method results plan) g none)
      (callAll d method plan g).2.1
      (π.one (.over (some ((callAll d method plan g).1.map fun more => .results (results ++ more))))
        (callAll d method plan g).2.2 none) := by
  induction plan generalizing results g with
  | nil =>
      have hover : nextCall method results []
          = .over (some (.ok (.results (results ++ [])))) := by
        rw [List.append_nil, nextCall]
      rw [hover]
      exact .refl ..
  | cons params rest ih =>
      rcases hcall : g.link.call d method params none with ⟨reply, log, link⟩
      refine reaches_ask hcall ?_
      cases reply with
      | error e =>
          have hall : callAll d method (params :: rest) g
              = (.error (.rpc e), noted log, { g with link }) := by
            simp only [callAll, callMethod, hcall]
            rfl
          rw [hall]
          exact .last (noticesOf_logged log) (congrArg _ (put_one ..))
      | ok v =>
          have hall : callAll d method (params :: rest) g
              = ((callAll d method rest { g with link }).1.map (v :: ·),
                noted log ++ (callAll d method rest { g with link }).2.1,
                (callAll d method rest { g with link }).2.2) := by
            simp only [callAll, callMethod, hcall]
            rfl
          have hresults : ((callAll d method rest { g with link }).1.map (v :: ·)).map
                (fun more => Told.results (results ++ more))
              = (callAll d method rest { g with link }).1.map
                fun more => .results ((results ++ [v]) ++ more) := by
            cases (callAll d method rest { g with link }).1 <;> simp [Except.map]
          rw [hall, hresults, ← noticesOf_logged log]
          exact (ih (results ++ [v]) { g with link }).go (congrArg _ (put_one ..))

/-- A delivery begins with the calls that are worked out for it. -/
theorem reaches_firstCall_ok {delivery : Delivery} {plan : List Value}
    (hworked : g.calls d delivery = (.ok plan, notices, g'))
    (h : Reaches d π.tasks.length (π.one (nextCall delivery.content.method [] plan) g' none) more
      π') :
    Reaches d π.tasks.length (π.one (firstCall delivery) g none) (notices ++ more) π' := by
  unfold calls at hworked
  unfold firstCall
  split at hworked
  next hgroups =>
    rw [if_pos hgroups]
    split at hworked
    next => cases hworked
    next hrecipients =>
      rw [if_neg hrecipients]
      cases hworked
      exact h
  next hgroups =>
    rw [if_neg hgroups]
    rcases hasked : g.cachedGroups d delivery.account with ⟨e | groups, asked, g''⟩
    · rw [hasked] at hworked
      cases hworked
    · rw [hasked] at hworked
      cases hworked
      exact reaches_seekGroups_ok hasked h

/-- If no calls can be worked out, that is the answer. -/
theorem reaches_firstCall_error {delivery : Delivery} {e : GatewayError}
    (hworked : g.calls d delivery = (.error e, notices, g')) :
    Reaches d π.tasks.length (π.one (firstCall delivery) g none) notices
      (π.one (.over (some (.error e))) g' none) := by
  unfold calls at hworked
  unfold firstCall
  split at hworked
  next hgroups =>
    rw [if_pos hgroups]
    split at hworked
    next hrecipients =>
      rw [if_pos hrecipients]
      cases hworked
      exact .refl ..
    next => cases hworked
  next hgroups =>
    rw [if_neg hgroups]
    rcases hasked : g.cachedGroups d delivery.account with ⟨e' | groups, asked, g''⟩
    · rw [hasked] at hworked
      cases hworked
      exact reaches_seekGroups_error hasked
    · rw [hasked] at hworked
      cases hworked

theorem finishes_send (d : Daemon δ) (delivery : Delivery) (hrest : π.AtRest) :
    Finishes d (.send delivery) π := by
  refine finishes_pass hrest rfl (fun _ _ => rfl) fun henabled => ?_
  generalize π.gateway = g at henabled ⊢
  rcases hworked : g.calls d delivery with ⟨e | plan, notices, g'⟩
  · have happly : apply d (.send delivery) g = (.error e, notices, g') := by
      simp only [apply, Result.told, send, guarded, henabled, if_true, hworked]
      rfl
    rw [happly]
    exact reaches_firstCall_error hworked
  · have happly : apply d (.send delivery) g
        = ((callAll d delivery.content.method plan g').1.map .results,
          notices ++ (callAll d delivery.content.method plan g').2.1,
          (callAll d delivery.content.method plan g').2.2) := by
      simp only [apply, Result.told, send, guarded, henabled, if_true, hworked]
    rw [happly]
    exact reaches_firstCall_ok hworked (reaches_nextCall delivery.content.method [] plan g')

/-! ## The end of a worker -/

/-- The shared gateway with one more worker that was told to stop. -/
def leaving (π : Shared δ) (l : Leaver) : Shared δ := { π with leavers := π.leavers ++ [l] }

/-- That worker goes on, and leaves the gateway as it is. -/
theorem Reaches.leave {l : Leaver} {signs : List Stream.Sign} {w : Stream.Worker}
    {stage : Stream.Stage}
    (h : Reaches d k (π.leaving { l with worker := w, stage }) more π')
    (hwork : work d .go true l.worker l.stage π.gateway = (signs, w, stage, π.gateway)) :
    Reaches d k (π.leaving l) (noticesOf (signs.map .worked) ++ more) π' := by
  have hstep : (π.leaving l).step d (.leaver π.leavers.length .go)
      = (signs.map .worked, π.leaving { l with worker := w, stage }) := by
    have hleaver : (π.leaving l).leavers[π.leavers.length]? = some l :=
      List.getElem?_concat_length
    rw [step, hleaver]
    simp [hwork, leaving]
  exact .turn (.inr ⟨_, rfl⟩) (by rw [hstep]) (by rwa [hstep])

/-- A worker that was told to stop does so; one that is fresh begins first. -/
theorem reaches_left (π : Shared δ) {w : Stream.Worker} (hover : w.isOver = false)
    (h : Reaches d k (π.leaving ⟨{ w with state := .stopped, isOver := true }, .over, k⟩) more π') :
    Reaches d k (π.leaving ⟨w, Stream.Feed.stageOf w.state, k⟩)
      ((Stream.Feed.step none .cancelled ⟨w, π.gateway.registry, ()⟩).1 ++ more) π' := by
  obtain ⟨address, state, isOver, splitter, framer⟩ := w
  obtain rfl : isOver = false := hover
  let w : Stream.Worker := ⟨address, state, false, splitter, framer⟩
  let stopped : List Stream.Sign :=
    [.entered .stopped, .noticed (.logged (.info "event stream worker stopped"))]
  have hstop {stage : Stream.Stage}
      (hwork : work d .go true w stage π.gateway
        = (stopped, { w with state := .stopped, isOver := true }, .over, π.gateway)) :
      Reaches d k (π.leaving ⟨w, stage, k⟩) (noticesOf (stopped.map .worked) ++ more) π' :=
    .leave (l := ⟨w, stage, k⟩) h hwork
  cases state with
  | stopped =>
      let started : List Stream.Sign :=
        [.noticed (.logged (.info "event stream worker started" [("url", address)]))]
      have hwork : work d .go true w .fresh π.gateway = (started, w, .due, π.gateway) := rfl
      exact .leave (l := ⟨w, .fresh, k⟩) (hstop rfl) hwork
  | connecting => exact hstop rfl
  | streaming => exact hstop rfl
  | backoff => exact hstop rfl

theorem AtRest.leaving (h : π.AtRest) {l : Leaver} (hl : l.worker.state = .stopped) :
    (π.leaving l).AtRest := by
  refine ⟨h.holder, h.worker, fun l' hmem => ?_⟩
  rcases List.mem_append.1 hmem with hmem | hmem
  · exact h.leavers l' hmem
  · rwa [List.mem_singleton.1 hmem]

/-- Once the worker has stopped, the gateway forgets the rest. -/
theorem endDisabling_one (π : Shared δ) (task : Task) (holder : Option Nat) :
    (π.one task { π.gateway with enabled := false, worker := none } holder).endDisabling
        π.tasks.length
      = π.one (.over (some (.ok .nothing))) π.gateway.forgotten none :=
  put_one π task (.over (some (.ok .nothing))) π.gateway.forgotten none

theorem finishes_disable (d : Daemon δ) (hrest : π.AtRest) : Finishes d .disable π := by
  let k := π.tasks.length
  let closed : Gateway δ := { π.gateway with enabled := false, worker := none }
  let held := π.one (.begun .disable) π.gateway (some k)
  have hstart : (π.one (.begun .disable) π.gateway none).proceed d k (.begun .disable)
      = held.beginDisabling k := rfl
  have hgateway : (apply d .disable π.gateway).2.2 = π.gateway.forgotten := disable_gateway π.gateway
  have hdone : (π.one (.over (some (.ok .nothing))) π.gateway.forgotten none).AtRest :=
    ⟨rfl, nofun, hrest.leavers⟩
  cases hworker : π.gateway.worker with
  | none =>
      have hnotices : (apply d .disable π.gateway).2.1 = [] := by
        simp only [apply, Result.sure, disable, stopWorker, hworker]
      have hbegun : (π.one (.begun .disable) π.gateway none).proceed d k (.begun .disable)
          = ([.disabling k], π.one (.stopping none) closed (some k)) := by
        have hheld : held.gateway.worker = none := hworker
        rw [hstart, beginDisabling_of_none hheld]
        exact congrArg _ (put_one π _ _ closed (some k))
      have hend : (π.one (.stopping none) closed (some k)).proceed d k (.stopping none)
          = ([], π.one (.over (some (.ok .nothing))) π.gateway.forgotten none) :=
        congrArg _ (endDisabling_one ..)
      have hlast : Reaches d k (π.one (.stopping none) closed (some k)) [] _ := .last rfl hend
      refine ⟨_, ?_, hgateway.symm, rfl, hdone⟩
      rw [hnotices]
      exact hlast.go hbegun
  | some w =>
      obtain ⟨hover, hstage⟩ := hrest.worker w hworker
      let told : Leaver := ⟨w, Stream.Feed.stageOf w.state, k⟩
      let left : Leaver := ⟨{ w with state := .stopped, isOver := true }, .over, k⟩
      let stopping : Task := .stopping (some π.leavers.length)
      have hnotices : (apply d .disable π.gateway).2.1
          = (Stream.Feed.step none .cancelled ⟨w, π.gateway.registry, ()⟩).1 := by
        simp only [apply, Result.sure, disable, stopWorker, hworker]
      have hbegun : (π.one (.begun .disable) π.gateway none).proceed d k (.begun .disable)
          = ([.disabling k], (π.leaving told).one stopping closed (some k)) := by
        have hheld : held.gateway.worker = some w := hworker
        have htold : (⟨w, held.stage, k⟩ : Leaver) = told := congrArg (Leaver.mk w · k) hstage
        simp only [hstart, beginDisabling_of_some hheld, htold]
        exact congrArg _ (put_one (π.leaving told) _ _ closed (some k))
      have hend : ((π.leaving left).one stopping closed (some k)).proceed d k stopping
          = ([], (π.leaving left).one (.over (some (.ok .nothing))) π.gateway.forgotten none) := by
        have hleft : ((π.leaving left).one stopping closed (some k)).hasLeft
            (some π.leavers.length) = true := by
          simp [hasLeft, one, leaving, left, Stream.Stage.isOver]
        simp only [proceed, stopping, hleft, if_true]
        exact congrArg _ (endDisabling_one ..)
      have hlast : Reaches d k ((π.leaving left).one stopping closed (some k)) [] _ :=
        Reaches.last (π := π.leaving left) rfl hend
      have hleft := reaches_left (π.one stopping closed (some k)) hover hlast
      rw [List.append_nil] at hleft
      refine ⟨_, ?_, hgateway.symm, rfl, .leaving (l := left) hdone rfl⟩
      rw [hnotices]
      exact hleft.go hbegun

/-! ## All operations -/

/-- An operation that takes one step. -/
theorem finishes_at_once {op : Operation} (hrest : π.AtRest)
    (hworker : (apply d op π.gateway).2.2.worker = π.gateway.worker)
    (hstart : (π.one (.begun op) π.gateway none).start d π.tasks.length op
      = ((apply d op π.gateway).2.1.map .noticed,
        (π.one (.begun op) (apply d op π.gateway).2.2 none).answer π.tasks.length
          (apply d op π.gateway).1)) : Finishes d op π := by
  have hstep := hstart
  rw [answer, put_one] at hstep
  exact ⟨_, .last (noticesOf_noticed _) hstep, ⟨rfl, rfl, hrest.one hworker _⟩⟩

/-- At rest, what is shown is what the gateway shows. -/
theorem AtRest.status (h : π.AtRest) : π.status = π.gateway.status := by
  unfold Shared.status
  cases hworker : π.gateway.worker with
  | some w => rfl
  | none =>
      have hstream : (π.leavers.getLast?.map fun l => l.worker.state).getD .stopped = .stopped := by
        cases hlast : π.leavers.getLast? with
        | none => rfl
        | some l => exact h.leavers l (List.mem_of_getLast? hlast)
      have hstopped : π.gateway.streamState = .stopped := by rw [streamState, hworker]
      simp only [hstream, Gateway.status, hstopped]

theorem finishes (d : Daemon δ) {op : Operation} (hop : op.isCalled = true) (hrest : π.AtRest) :
    Finishes d op π := by
  cases op with
  | enable => exact finishes_enabling d true hrest
  | enableCalls => exact finishes_enabling d false hrest
  | disable => exact finishes_disable d hrest
  | version => exact finishes_version d hrest
  | groups account => exact finishes_groups d account hrest
  | identities account => exact finishes_identities d account hrest
  | call method params chosen => exact finishes_call d method params chosen hrest
  | send delivery => exact finishes_send d delivery hrest
  | register id listener => exact finishes_at_once hrest rfl rfl
  | unregister id => exact finishes_at_once hrest rfl rfl
  | inspect =>
      refine finishes_at_once hrest rfl ?_
      have hsame : (π.one (.begun .inspect) π.gateway none).AtRest := hrest.one rfl _
      simp only [start, hsame.status]
      rfl
  | pass elapsed => exact finishes_at_once hrest rfl rfl
  | listen attempts => cases hop
  | occur o => cases hop

/-- **Alone, a task does what `apply` does.** At a shared gateway that is at rest, an operation that is
begun comes to its answer in some turns of its own and of the worker that it stops; it shows the
notices, gives the answer and leaves the gateway that `apply` says, and the shared gateway is at rest
again. -/
theorem alone (d : Daemon δ) {op : Operation} (hop : op.isCalled = true) (hrest : π.AtRest) :
    ∃ ts, (∀ t ∈ ts, t = .go π.tasks.length ∨ ∃ i, t = .leaver i .go)
      ∧ noticesOf (run d (.begin op :: ts) π).1 = (apply d op π.gateway).2.1
      ∧ Done d op π (run d (.begin op :: ts) π).2 := by
  obtain ⟨π', ⟨ts, hts, hnotices, hlast⟩, hdone⟩ := finishes d hop hrest
  have hbegun : π.step d (.begin op) = ([], π.one (.begun op) π.gateway none) := by
    rw [one, ← hrest.holder]
    rfl
  have hrun : run d (.begin op :: ts) π = run d ts (π.one (.begun op) π.gateway none) := by
    simp only [run, hbegun, List.nil_append]
  rw [← hlast] at hdone
  exact ⟨ts, hts, by rw [hrun, hnotices], by rwa [hrun]⟩

/-- Operations that are called one after the other, each when the one before it is over, do what
`Gateway.run` does. -/
theorem alone_run (d : Daemon δ) {ops : List Operation} (hops : ∀ op ∈ ops, op.isCalled = true)
    (hrest : π.AtRest) :
    ∃ ts, noticesOf (run d ts π).1 = ((Gateway.run d ops π.gateway).1.map Prod.snd).flatten
      ∧ (run d ts π).2.gateway = (Gateway.run d ops π.gateway).2
      ∧ (run d ts π).2.tasks
        = π.tasks ++ (Gateway.run d ops π.gateway).1.map fun o => .over (some o.1) := by
  induction ops generalizing π with
  | nil => exact ⟨[], rfl, rfl, (List.append_nil _).symm⟩
  | cons op ops ih =>
      obtain ⟨hop, hops⟩ := List.forall_mem_cons.1 hops
      obtain ⟨ts, -, hnotices, hdone⟩ := alone d hop hrest
      obtain ⟨more, hmore, hgateway, htasks⟩ := ih hops hdone.rest
      rw [hdone.gateway] at hmore hgateway htasks
      refine ⟨.begin op :: ts ++ more, ?_, ?_, ?_⟩ <;> rw [run_append]
      · rw [noticesOf_append, hnotices, hmore]
        rfl
      · exact hgateway
      · rw [htasks, hdone.tasks, List.append_assoc]
        rfl

end Shared
end Messenger.Gateway
