import Messenger.Gateway

set_option autoImplicit false

/-! # The life of a gateway

Everything that a program may do with a gateway, and everything that may happen to its worker, as
operations that are applied one after the other. Every operation has an answer and shows notices. -/

namespace Messenger

open Json

namespace Gateway

variable {δ : Type}

/-- What is done with a gateway, or happens to it. -/
inductive Operation where
  | enable
  | enableCalls
  | disable
  | version
  | groups (account : String)
  | identities (account : String)
  | call (method : String) (params : Value) (chosen : Option String)
  | send (delivery : Delivery)
  | register (id : ListenerId) (listener : Listener Message)
  | unregister (id : ListenerId)
  /-- The worker connects up to some number of times. -/
  | listen (attempts : Nat)
  /-- Something happens to the worker. -/
  | occur (o : Stream.Occurrence)
  | inspect
  /-- Time passes. -/
  | pass (elapsed : Nat)

/-- What a gateway shows of itself. -/
structure Status where
  settings : Settings
  address : String
  enabled : Bool
  stream : Stream.WorkerState
  /-- The number of messages kept for listeners that come late. -/
  buffered : Nat

/-- What an operation tells when it succeeds. -/
inductive Told where
  | nothing
  | version (text : Option String)
  | enabled (version : String)
  | groups (groups : GroupDirectory)
  | identities (identities : IdentityDirectory)
  | results (values : List Value)
  /-- How many messages a listener was handed at once. -/
  | registered (replayed : Nat)
  | unregistered (found : Bool)
  | status (s : Status)

/-- The answer of an operation. -/
abbrev Answer := Except GatewayError Told

/-- What can be seen of one operation. -/
abbrev Outcome := Answer × List (Notice Message)

/-- What a gateway shows of itself. -/
def status (g : Gateway δ) : Status where
  settings := g.settings
  address := g.address
  enabled := g.enabled
  stream := g.streamState
  buffered := g.registry.history.length

/-- Something happens to the worker, if there is one. -/
def occur (d : Daemon δ) (o : Stream.Occurrence) (g : Gateway δ) :
    List (Notice Message) × Gateway δ :=
  match g.worker with
  | none => ([], g)
  | some worker =>
    let resolver := Cache.titles (GroupDirectory.load d) g.now
    let (notices, f) := Stream.Feed.step resolver o ⟨worker, g.registry, g.groups, g.link⟩
    (notices, { g with
      worker := some f.worker, registry := f.registry, groups := f.around.1, link := f.around.2 })

/-- The result of an operation, as an answer. -/
def Result.told {α : Type} (tell : α → Told) (r : Result δ (Except GatewayError α)) :
    Result δ Answer :=
  (r.1.map tell, r.2)

/-- The result of an operation that does not fail, as an answer. -/
def Result.sure {α : Type} (tell : α → Told) (r : Result δ α) : Result δ Answer :=
  (.ok (tell r.1), r.2)

/-- Apply an operation. -/
def apply (d : Daemon δ) (op : Operation) (g : Gateway δ) : Result δ Answer :=
  match op with
  | .enable => Result.told .enabled (g.enable d)
  | .enableCalls => Result.told .enabled (g.enableCalls d)
  | .disable => Result.sure (fun _ => .nothing) g.disable
  | .version => Result.sure .version (g.version d)
  | .groups account => Result.told .groups (g.groupsOf d account)
  | .identities account => Result.told .identities (g.identitiesOf d account)
  | .call method params chosen =>
    Result.told (fun v => .results [v]) (g.call d method params chosen)
  | .send delivery => Result.told .results (g.send d delivery)
  | .register id listener => Result.sure .registered (g.register id listener)
  | .unregister id => Result.sure .unregistered (g.unregister id)
  | .listen attempts => Result.sure (fun _ => .nothing) ((), g.listen d attempts)
  | .occur o => Result.sure (fun _ => .nothing) ((), g.occur d o)
  | .inspect => (.ok (.status g.status), [], g)
  | .pass elapsed => (.ok .nothing, [], { g with now := g.now + elapsed })

/-- Apply operations in turn. -/
def run (d : Daemon δ) : List Operation → Gateway δ → List Outcome × Gateway δ
  | [], g => ([], g)
  | op :: ops, g =>
    let (answer, notices, g) := apply d op g
    let (outcomes, g) := run d ops g
    ((answer, notices) :: outcomes, g)

end Gateway
end Messenger
