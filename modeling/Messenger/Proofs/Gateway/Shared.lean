import Messenger.Proofs.Gateway.Moves
import Messenger.Proofs.Stream.Accounts

set_option autoImplicit false

/-! # A gateway that several use

Operations of a gateway wait: for the daemon, for another operation that is enabling or disabling
the gateway, and for a worker that has to stop. While one waits others go on, and it may be given up.
A *task* is an operation on its way; it goes on in small steps, of which each is done at once, and a
`Turn` says who takes the next one. The worker takes turns too, from wait to wait, also while it is
being stopped.

Whether a gateway is enabled is found out once, when an operation begins. What an operation does when
nobody comes in between is said by `apply` (`Shared.alone`). -/

namespace Messenger

open Json

namespace Stream

/-- Whether a worker has stopped for good. -/
def Stage.isOver : Stage → Bool
  | .over => true
  | _ => false

theorem Stage.isOver_iff {stage : Stage} : stage.isOver = true ↔ stage = .over := by
  cases stage <;> simp [isOver]

/-- Whether a worker has just asked for the event stream. -/
def Sign.isAsked : Sign → Bool
  | .asked => true
  | _ => false

end Stream

namespace Gateway

variable {δ : Type}

/-! ## Tasks -/

/-- A call that is to be made. -/
structure Question where
  method : String
  params : Value
  chosen : Option String := none

/-- The question for the version. -/
def Question.version : Question := ⟨"version", .obj [], none⟩

/-- The question for a list that belongs to an account. -/
def Question.list (method account : String) : Question :=
  ⟨method, .obj [("account", .str account)], none⟩

/-- What the groups of an account are wanted for. -/
inductive Wanted where
  | answer (account : String)
  | delivery (delivery : Delivery)

/-- The account whose groups are wanted. -/
def Wanted.account : Wanted → String
  | .answer name => name
  | .delivery d => d.account

/-- What the reply to a question is for. -/
inductive Purpose where
  | version
  /-- The gateway is to be enabled, and perhaps to listen. -/
  | admission (listens : Bool)
  | groups (wanted : Wanted)
  | identities (account : String)
  | result
  /-- One call of a delivery; `rest` are the parameters of the calls after it, and `results` is what
  those before it gave. -/
  | delivery (method : String) (rest results : List Value)

/-- An operation on its way. -/
inductive Task where
  | begun (op : Operation)
  /-- It looks for groups in the cache. -/
  | seekingGroups (wanted : Wanted)
  | seekingIdentities (account : String)
  | asking (question : Question) (purpose : Purpose)
  /-- It has asked, and this comes back. -/
  | hearing (reply : Except Rpc.Error Value) (log : List LogRecord) (purpose : Purpose)
  /-- It waits for a worker that it told to stop, if there was one. -/
  | stopping (leaver : Option Nat)
  /-- It has its answer, or it was given up. -/
  | over (answer : Option Answer)

/-- A worker that was told to stop. -/
structure Leaver where
  worker : Stream.Worker
  stage : Stream.Stage
  /-- The task that told it. -/
  teller : Nat

/-- A gateway with all that goes on at it. -/
structure Shared (δ : Type) where
  gateway : Gateway δ
  /-- How far the worker of the gateway is, if there is one. -/
  stage : Stream.Stage := .fresh
  leavers : List Leaver := []
  /-- All tasks, in the order in which they began. -/
  tasks : List Task := []
  /-- The task that is enabling or disabling the gateway. -/
  holder : Option Nat := none

/-- Who goes on. -/
inductive Turn (δ : Type) where
  /-- Somebody begins an operation. -/
  | begin (op : Operation)
  | go (k : Nat)
  /-- Somebody gives a task up. -/
  | giveUp (k : Nat)
  | worker (t : Stream.Turn (Around δ))
  | leaver (i : Nat) (t : Stream.Turn (Around δ))

/-- What can be seen of a shared gateway. -/
inductive Sign where
  | noticed (notice : Notice Message)
  | worked (sign : Stream.Sign)
  /-- A version was told to an operation that enables the gateway. -/
  | admitted
  /-- A task disables the gateway. -/
  | disabling (k : Nat)
  /-- A task that needs an enabled gateway found it enabled. -/
  | passed (k : Nat)

/-- Records as signs. -/
def logged (log : List LogRecord) : List Sign := log.map fun record => .noticed (.logged record)

/-- The groups that a reply lists. -/
def groupsTold (reply : Except Rpc.Error Value) : Except GatewayError GroupDirectory :=
  ((reply.mapError .rpc).bind (itemsOf listGroups Group.ofJson)).map GroupDirectory.ofList

/-- The identities that a reply lists. -/
def identitiesTold (reply : Except Rpc.Error Value) : Except GatewayError IdentityDirectory :=
  ((reply.mapError .rpc).bind (itemsOf listIdentities Identity.ofJson)).map
    IdentityDirectory.ofList

/-- What is recorded of a reply that should tell the version. -/
def versionLog (g : Gateway δ) : Except Rpc.Error Value → List LogRecord
  | .ok _ => []
  | .error _ => [.error "version check failed" [("url", g.address)]]

/-- The gateway when a version was told: enabled, and with a worker if it is to listen. -/
def admitted (listens : Bool) (g : Gateway δ) : Gateway δ :=
  { g with
    enabled := true
    worker := if listens then some (g.worker.getD { address := g.link.endpoint.events.text })
      else g.worker }

/-- What is recorded then. -/
def connectedRecord (version : String) (g : Gateway δ) : LogRecord :=
  .info "connected to signal daemon" [("version", version), ("url", g.address)]

/-- The next call of a delivery, or its end. -/
def nextCall (method : String) (results : List Value) : List Value → Task
  | [] => .over (some (.ok (.results results)))
  | params :: rest => .asking ⟨method, params, none⟩ (.delivery method rest results)

/-- How a delivery begins. -/
def firstCall (delivery : Delivery) : Task :=
  if delivery.groups.isEmpty then
    if delivery.recipients.isEmpty then .over (some (.error .noRecipients))
    else nextCall delivery.content.method [] [delivery.personParams delivery.recipients.eraseDups]
  else .seekingGroups (.delivery delivery)

/-- What is done with groups that are known: what is recorded, and how the task goes on. -/
def Wanted.next (groups : GroupDirectory) : Wanted → List LogRecord × Task
  | .answer _ => ([], .over (some (.ok (.groups groups))))
  | .delivery d =>
    let (ids, log) := groupIds d.account groups d.groups
    (log, nextCall d.content.method [] (ids.map d.groupParams))

namespace Shared

/-- A gateway at which nothing goes on. -/
def of (gateway : Gateway δ) : Shared δ := { gateway }

/-- A task goes on to be another one. -/
def put (k : Nat) (task : Task) (π : Shared δ) : Shared δ :=
  { π with tasks := π.tasks.set k task }

/-- A task gets its answer. -/
def answer (k : Nat) (a : Answer) (π : Shared δ) : Shared δ := π.put k (.over (some a))

/-! ## Beginning -/

/-- Begin to enable or disable the gateway, unless another task is at it. -/
def acquire (k : Nat) (act : Shared δ → List Sign × Shared δ) (π : Shared δ) :
    List Sign × Shared δ :=
  if π.holder.isSome then ([], π) else act { π with holder := some k }

/-- Go on if the gateway is enabled. -/
def pass (k : Nat) (next : Task) (π : Shared δ) : List Sign × Shared δ :=
  if π.gateway.enabled then ([.passed k], π.put k next) else ([], π.answer k (.error .disabled))

theorem pass_of_enabled {k : Nat} {next : Task} {π : Shared δ} (h : π.gateway.enabled = true) :
    π.pass k next = ([.passed k], π.put k next) := if_pos h

theorem pass_of_disabled {k : Nat} {next : Task} {π : Shared δ} (h : π.gateway.enabled = false) :
    π.pass k next = ([], π.answer k (.error .disabled)) := if_neg (ne_true_of_eq_false h)

/-- Disable the gateway, and tell its worker to stop. -/
def beginDisabling (k : Nat) (π : Shared δ) : List Sign × Shared δ :=
  let after := { π with gateway := { π.gateway with enabled := false, worker := none } }
  match π.gateway.worker with
  | none => ([.disabling k], after.put k (.stopping none))
  | some worker =>
    let leaver : Leaver := { worker, stage := π.stage, teller := k }
    ([.disabling k],
      { after with leavers := π.leavers ++ [leaver] }.put k (.stopping (some π.leavers.length)))

theorem beginDisabling_of_none {π : Shared δ} (h : π.gateway.worker = none) (k : Nat) :
    π.beginDisabling k
      = ([.disabling k],
        { π with gateway := { π.gateway with enabled := false, worker := none } }.put k
          (.stopping none)) := by
  simp only [beginDisabling, h]

theorem beginDisabling_of_some {π : Shared δ} {worker : Stream.Worker}
    (h : π.gateway.worker = some worker) (k : Nat) :
    let leaver : Leaver := { worker, stage := π.stage, teller := k }
    π.beginDisabling k
      = ([.disabling k],
        { π with
          gateway := { π.gateway with enabled := false, worker := none }
          leavers := π.leavers ++ [leaver] }.put k (.stopping (some π.leavers.length))) := by
  simp only [beginDisabling, h]

/-- What the gateway shows of itself; the state of the stream is that of the last worker. -/
def status (π : Shared δ) : Status :=
  match π.gateway.worker with
  | some _ => π.gateway.status
  | none =>
    { π.gateway.status with
      stream := (π.leavers.getLast?.map fun l => l.worker.state).getD .stopped }

/-- A task takes its first step. What happens to the worker is no task. -/
def start (d : Daemon δ) (k : Nat) (op : Operation) (π : Shared δ) : List Sign × Shared δ :=
  match op with
  | .enable => π.acquire k fun π => ([], π.put k (.asking .version (.admission true)))
  | .enableCalls => π.acquire k fun π => ([], π.put k (.asking .version (.admission false)))
  | .disable => π.acquire k (beginDisabling k)
  | .version => ([], π.put k (.asking .version .version))
  | .groups account => π.pass k (.seekingGroups (.answer account))
  | .identities account => π.pass k (.seekingIdentities account)
  | .call method params chosen => π.pass k (.asking ⟨method, params, chosen⟩ .result)
  | .send delivery => π.pass k (firstCall delivery)
  | .inspect => ([], π.answer k (.ok (.status π.status)))
  | .register .. | .unregister _ | .pass _ =>
    let (answer, notices, gateway) := apply d op π.gateway
    (notices.map .noticed, { π with gateway }.answer k answer)
  | .listen _ | .occur _ => ([], π.answer k (.ok .nothing))

/-! ## Going on -/

/-- The groups of an account are known. -/
def withGroups (k : Nat) (wanted : Wanted) (groups : GroupDirectory) (π : Shared δ) :
    List Sign × Shared δ :=
  (logged (wanted.next groups).1, π.put k (wanted.next groups).2)

/-- Look for groups in the cache; a stale entry is dropped. -/
def seekGroups (k : Nat) (wanted : Wanted) (π : Shared δ) : List Sign × Shared δ :=
  let g := π.gateway
  match g.groups.fresh? g.now wanted.account with
  | some groups =>
    { π with gateway := { g with groups := g.groups.touch g.now wanted.account } }.withGroups k
      wanted groups
  | none =>
    ([], { π with gateway := { g with groups := g.groups.invalidate wanted.account } }.put k
      (.asking (.list listGroups wanted.account) (.groups wanted)))

/-- Look for identities in the cache; a stale entry is dropped. -/
def seekIdentities (k : Nat) (account : String) (π : Shared δ) : List Sign × Shared δ :=
  let g := π.gateway
  match g.identities.fresh? g.now account with
  | some identities =>
    ([], { π with gateway := { g with identities := g.identities.touch g.now account } }.answer k
      (.ok (.identities identities)))
  | none =>
    ([], { π with gateway := { g with identities := g.identities.invalidate account } }.put k
      (.asking (.list listIdentities account) (.identities account)))

/-- Ask the daemon. -/
def ask (d : Daemon δ) (k : Nat) (question : Question) (purpose : Purpose) (π : Shared δ) :
    List Sign × Shared δ :=
  let (reply, log, link) := π.gateway.link.call d question.method question.params question.chosen
  ([], { π with gateway := { π.gateway with link } }.put k (.hearing reply log purpose))

/-- The gateway is enabled. A worker that is started has done nothing yet. -/
def letIn (listens : Bool) (π : Shared δ) : Shared δ :=
  { π with
    gateway := π.gateway.admitted listens
    stage := if listens && π.gateway.worker.isNone then .fresh else π.stage }

/-- A reply arrives. -/
def hear (k : Nat) (reply : Except Rpc.Error Value) (log : List LogRecord) (purpose : Purpose)
    (π : Shared δ) : List Sign × Shared δ :=
  let g := π.gateway
  match purpose with
  | .version => (logged (log ++ versionLog g reply), π.answer k (.ok (.version (told reply))))
  | .admission listens =>
    let free := { π with holder := none }
    match told reply with
    | none =>
      (logged (log ++ versionLog g reply), free.answer k (.error (.daemonUnavailable g.address)))
    | some version =>
      (logged (log ++ versionLog g reply) ++ .admitted :: logged [connectedRecord version g],
        (free.letIn listens).answer k (.ok (.enabled version)))
  | .groups wanted =>
    match groupsTold reply with
    | .error e => (logged log, π.answer k (.error e))
    | .ok groups =>
      let (signs, after) :=
        { π with gateway := { g with groups := g.groups.store g.now wanted.account groups } }
          |>.withGroups k wanted groups
      (logged log ++ signs, after)
  | .identities account =>
    match identitiesTold reply with
    | .error e => (logged log, π.answer k (.error e))
    | .ok identities =>
      (logged log,
        { π with gateway :=
            { g with identities := g.identities.store g.now account identities } }.answer k
          (.ok (.identities identities)))
  | .result => (logged log, π.answer k ((reply.mapError .rpc).map fun v => .results [v]))
  | .delivery method rest results =>
    match reply with
    | .error e => (logged log, π.answer k (.error (.rpc e)))
    | .ok v => (logged log, π.put k (nextCall method (results ++ [v]) rest))

/-- Whether a worker that was told to stop has stopped. -/
def hasLeft (leaver : Option Nat) (π : Shared δ) : Bool :=
  leaver.all fun i => π.leavers[i]?.all fun l => l.stage.isOver

/-- Forget everything that came from the daemon, and the listeners. -/
def endDisabling (k : Nat) (π : Shared δ) : Shared δ :=
  { π with
    holder := none
    gateway := { π.gateway with
      groups := π.gateway.groups.invalidateAll
      identities := π.gateway.identities.invalidateAll
      registry := π.gateway.registry.reset } }.answer k (.ok .nothing)

/-- A task goes on, if it can. -/
def proceed (d : Daemon δ) (k : Nat) (task : Task) (π : Shared δ) : List Sign × Shared δ :=
  match task with
  | .begun op => π.start d k op
  | .seekingGroups wanted => π.seekGroups k wanted
  | .seekingIdentities account => π.seekIdentities k account
  | .asking question purpose => π.ask d k question purpose
  | .hearing reply log purpose => π.hear k reply log purpose
  | .stopping leaver => if π.hasLeft leaver then ([], π.endDisabling k) else ([], π)
  | .over _ => ([], π)

/-- One of the tasks goes on. -/
def advance (d : Daemon δ) (k : Nat) (π : Shared δ) : List Sign × Shared δ :=
  match π.tasks[k]? with
  | some task => π.proceed d k task
  | none => ([], π)

/-- A task is given up, and what it holds is let go. -/
def giveUp (k : Nat) (π : Shared δ) : Shared δ :=
  match π.tasks[k]? with
  | some (.over _) | none => π
  | some _ =>
    { π with holder := if π.holder = some k then none else π.holder }.put k (.over none)

/-! ## The worker -/

/-- A worker takes a turn. When it asks for the event stream, a request goes out. -/
def work (d : Daemon δ) (t : Stream.Turn (Around δ)) (isCancelled : Bool)
    (worker : Stream.Worker) (stage : Stream.Stage) (g : Gateway δ) :
    List Stream.Sign × Stream.Worker × Stream.Stage × Gateway δ :=
  if t.isOwn then
    let resolver := Cache.titles (GroupDirectory.load d) g.now
    let (signs, μ) := Stream.Moment.step resolver t
      { feed := ⟨worker, g.registry, g.groups, g.link⟩, stage, isCancelled }
    let (groups, link) := μ.feed.around
    let link := if signs.any Stream.Sign.isAsked then (link.listen d).2 else link
    (signs, μ.feed.worker, μ.stage, { g with registry := μ.feed.registry, groups, link })
  else ([], worker, stage, g)

/-! ## Turns -/

/-- Somebody takes a turn. -/
def step (d : Daemon δ) (t : Turn δ) (π : Shared δ) : List Sign × Shared δ :=
  match t with
  | .begin op => ([], { π with tasks := π.tasks ++ [.begun op] })
  | .go k => π.advance d k
  | .giveUp k => ([], π.giveUp k)
  | .worker t =>
    match π.gateway.worker with
    | none => ([], π)
    | some worker =>
      let (signs, worker, stage, gateway) := work d t false worker π.stage π.gateway
      (signs.map .worked, { π with gateway := { gateway with worker := some worker }, stage })
  | .leaver i t =>
    match π.leavers[i]? with
    | none => ([], π)
    | some l =>
      let (signs, worker, stage, gateway) := work d t true l.worker l.stage π.gateway
      (signs.map .worked,
        { π with gateway, leavers := π.leavers.set i { l with worker, stage } })

/-- Turns are taken one after the other. -/
def run (d : Daemon δ) : List (Turn δ) → Shared δ → List Sign × Shared δ
  | [], π => ([], π)
  | t :: ts, π =>
    let (signs, π) := π.step d t
    let (more, π) := run d ts π
    (signs ++ more, π)

theorem run_append (d : Daemon δ) (ts ts' : List (Turn δ)) (π : Shared δ) :
    run d (ts ++ ts') π
      = ((run d ts π).1 ++ (run d ts' (run d ts π).2).1, (run d ts' (run d ts π).2).2) := by
  induction ts generalizing π with
  | nil => rfl
  | cons t ts ih => simp only [List.cons_append, run, ih, List.append_assoc]

end Shared
end Gateway
end Messenger
