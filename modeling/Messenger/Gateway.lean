import Messenger.Gateway.Delivery
import Messenger.Gateway.Directories
import Messenger.Stream.Worker

set_option autoImplicit false

/-! # The gateway

A gateway is the one place through which a program talks to a daemon. It is disabled until the
daemon has told its version, and while it is disabled it refuses to send and to ask. Enabling it may
start a worker that reads the event stream and hands messages to listeners; disabling it stops the
worker and forgets everything that came from the daemon, and the listeners too.

Every operation yields a result, what can be seen of its work, and the gateway after it. -/

namespace Messenger

open Json

/-- A gateway to a daemon whose states are `δ`. -/
structure Gateway (δ : Type) where
  settings : Settings
  link : Link δ
  groups : Cache GroupDirectory
  identities : Cache IdentityDirectory
  registry : Registry Message
  worker : Option Stream.Worker := none
  enabled : Bool := false
  /-- The time in milliseconds. -/
  now : Nat := 0

namespace Gateway

variable {δ : Type}

/-- What an operation yields. -/
abbrev Result (δ α : Type) := α × List (Notice Message) × Gateway δ

/-! ## Life -/

/-- A disabled gateway to the daemon in the settings. `sequence` is where generated identifiers
stand. -/
def create (settings : Settings) (sequence : Rpc.Sequence) (daemon : δ) :
    Except GatewayError (Gateway δ) := do
  settings.validate.mapError .settings
  let endpoint ← (Endpoint.parse settings.daemonUrl).mapError .endpoint
  let ttl := settings.cacheTtlSecs.toNat * 1000
  return {
    settings
    link := { endpoint, sequence, daemon }
    groups := { ttl }
    identities := { ttl }
    registry := .withCapacity settings.replayCapacity.toNat }

/-- The base address of the daemon, as it is shown. -/
def address (g : Gateway δ) : String := g.link.endpoint.display

/-- What the worker is doing. -/
def streamState (g : Gateway δ) : Stream.WorkerState :=
  match g.worker with
  | some w => w.state
  | none => .stopped

/-- Whether the event stream is connected. -/
def isListening (g : Gateway δ) : Bool := g.streamState == .streaming

/-- Records as notices. -/
def noted (log : List LogRecord) : List (Notice Message) := log.map .logged

/-- The version that a result tells: the text under `version`, unless it is blank. -/
def versionOf (result : Value) : Option String := do
  let text := Text.trim (← (← result.get? "version").str?)
  if text.isEmpty then none else some text

/-- The version of the daemon, if it tells one. -/
def version (d : Daemon δ) (g : Gateway δ) : Result δ (Option String) :=
  let (result, log, link) := g.link.call d "version" (.obj []) none
  let g := { g with link }
  match result with
  | .ok v => (versionOf v, noted log, g)
  | .error _ =>
    (none, noted (log ++ [.error "version check failed" [("url", g.address)]]), g)

/-- Enable the gateway if the daemon tells its version, for calls only. -/
def enableCalls (d : Daemon δ) (g : Gateway δ) : Result δ (Except GatewayError String) :=
  match g.version d with
  | (none, notices, g) => (.error (.daemonUnavailable g.address), notices, g)
  | (some version, notices, g) =>
    let record := .info "connected to signal daemon" [("version", version), ("url", g.address)]
    (.ok version, notices ++ noted [record], { g with enabled := true })

/-- Enable the gateway if the daemon tells its version, and start a worker unless there is one. -/
def enable (d : Daemon δ) (g : Gateway δ) : Result δ (Except GatewayError String) :=
  match g.enableCalls d with
  | (.error e, notices, g) => (.error e, notices, g)
  | (.ok version, notices, g) =>
    let worker := g.worker.getD { address := g.link.endpoint.events.text }
    (.ok version, notices, { g with worker := some worker })

/-- Stop the worker. -/
def stopWorker (g : Gateway δ) : List (Notice Message) × Gateway δ :=
  match g.worker with
  | none => ([], g)
  | some worker =>
    let (notices, _) := Stream.Feed.step none .cancelled ⟨worker, g.registry, ()⟩
    (notices, { g with worker := none })

/-- Disable the gateway, and forget listeners and everything that came from the daemon. -/
def disable (g : Gateway δ) : Result δ Unit :=
  let (notices, g) := g.stopWorker
  ((), notices, { g with
    enabled := false
    groups := g.groups.invalidateAll
    identities := g.identities.invalidateAll
    registry := g.registry.reset })

/-- What surrounds the worker: the cache that knows titles, and the link. -/
abbrev Around (δ : Type) := Cache GroupDirectory × Link δ

/-- Let the worker connect up to `attempts` times, or until it rests in a connection. -/
def listen (d : Daemon δ) (attempts : Nat) (g : Gateway δ) : List (Notice Message) × Gateway δ :=
  match g.worker with
  | none => ([], g)
  | some worker =>
    let connect := fun ((cache, link) : Around δ) =>
      let (connection, link) := link.listen d
      (connection, cache, link)
    let resolver := Cache.titles (GroupDirectory.load d) g.now
    let (notices, f) :=
      Stream.Feed.run connect resolver attempts ⟨worker, g.registry, g.groups, g.link⟩
    (notices, { g with
      worker := some f.worker, registry := f.registry, groups := f.around.1, link := f.around.2 })

/-! ## Questions -/

/-- Do something if the gateway is enabled. -/
def guarded {α : Type} (g : Gateway δ)
    (act : Gateway δ → Result δ (Except GatewayError α)) : Result δ (Except GatewayError α) :=
  if g.enabled then act g else (.error .disabled, [], g)

/-- The groups of an account, from the cache or from the daemon. -/
def cachedGroups (d : Daemon δ) (account : String) (g : Gateway δ) :
    Result δ (Except GatewayError GroupDirectory) :=
  let (result, log, groups, link) := g.groups.get (GroupDirectory.load d) g.now account g.link
  (result, noted log, { g with groups, link })

/-- The groups of an account. -/
def groupsOf (d : Daemon δ) (account : String) (g : Gateway δ) :
    Result δ (Except GatewayError GroupDirectory) :=
  g.guarded (cachedGroups d account)

/-- The identities known to an account. -/
def identitiesOf (d : Daemon δ) (account : String) (g : Gateway δ) :
    Result δ (Except GatewayError IdentityDirectory) :=
  g.guarded fun g =>
    let (result, log, identities, link) :=
      g.identities.get (IdentityDirectory.load d) g.now account g.link
    (result, noted log, { g with identities, link })

/-- Call a method of the daemon. -/
def callMethod (d : Daemon δ) (method : String) (params : Value) (chosen : Option String)
    (g : Gateway δ) : Result δ (Except GatewayError Value) :=
  let (result, log, link) := g.link.call d method params chosen
  (result.mapError .rpc, noted log, { g with link })

/-- Call any method of the daemon, under a chosen identifier unless that is missing or blank. -/
def call (d : Daemon δ) (method : String) (params : Value) (chosen : Option String)
    (g : Gateway δ) : Result δ (Except GatewayError Value) :=
  g.guarded (callMethod d method params chosen)

/-! ## Listeners -/

/-- Register a listener under a handle. The result is how many messages it was handed at once. -/
def register (id : ListenerId) (listener : Listener Message) (g : Gateway δ) : Result δ Nat :=
  let (count, notices, registry) := g.registry.register id listener
  (count, notices, { g with registry })

/-- Stop handing messages to a handle. The result is whether it was in use. -/
def unregister (id : ListenerId) (g : Gateway δ) : Result δ Bool :=
  let (found, notices, registry) := g.registry.remove id
  (found, notices, { g with registry })

/-! ## Sending -/

/-- The identifiers of the groups that some names stand for, each once, in the order in which they
are first named; `chosen` are those found so far. A name that no group has is recorded. -/
def resolveNames (account : String) (groups : GroupDirectory) (chosen : List String) :
    List String → List String × List LogRecord
  | [] => (chosen, [])
  | name :: names => match groups.resolve name with
    | some group =>
      resolveNames account groups
        (if chosen.contains group.id then chosen else chosen ++ [group.id]) names
    | none =>
      let (ids, log) := resolveNames account groups chosen names
      (ids, .warn "could not find group" [("account", account), ("group", name)] :: log)

/-- The identifiers of the groups that some names stand for. If the account has no groups, that
alone is recorded. -/
def groupIds (account : String) (groups : GroupDirectory) (names : List String) :
    List String × List LogRecord :=
  if groups.isEmpty then
    ([], [.error "no groups found for account" [("account", account)]])
  else resolveNames account groups [] names

/-- Call a method with several parameters in turn, up to the first failure. -/
def callAll (d : Daemon δ) (method : String) :
    List Value → Gateway δ → Result δ (Except GatewayError (List Value))
  | [], g => (.ok [], [], g)
  | params :: rest, g => match g.callMethod d method params none with
    | (.error e, notices, g) => (.error e, notices, g)
    | (.ok result, notices, g) =>
      let (results, more, g) := callAll d method rest g
      (results.map (result :: ·), notices ++ more, g)

/-- The parameters of the calls that a delivery needs: one call for each group, or one for all
persons. -/
def calls (d : Daemon δ) (delivery : Delivery) (g : Gateway δ) :
    Result δ (Except GatewayError (List Value)) :=
  if delivery.groups.isEmpty then
    if delivery.recipients.isEmpty then (.error .noRecipients, [], g)
    else (.ok [delivery.personParams delivery.recipients.eraseDups], [], g)
  else match g.cachedGroups d delivery.account with
    | (.error e, notices, g) => (.error e, notices, g)
    | (.ok groups, notices, g) =>
      let (ids, log) := groupIds delivery.account groups delivery.groups
      (.ok (ids.map delivery.groupParams), notices ++ noted log, g)

/-- Send something. The result has one result of the daemon for each call. -/
def send (d : Daemon δ) (delivery : Delivery) (g : Gateway δ) :
    Result δ (Except GatewayError (List Value)) :=
  g.guarded fun g => match g.calls d delivery with
    | (.error e, notices, g) => (.error e, notices, g)
    | (.ok params, notices, g) =>
      let (results, more, g) := callAll d delivery.content.method params g
      (results, notices ++ more, g)

end Gateway
end Messenger
