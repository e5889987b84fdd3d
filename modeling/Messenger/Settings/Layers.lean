import Messenger.File
import Messenger.Json.Merge
import Messenger.Json.Read
import Messenger.Log
import Messenger.Settings
import Messenger.Text.Ascii
import Messenger.Text.Utf8

set_option autoImplicit false

/-! # Layers of settings

Settings are built in layers: the defaults, a file that may be missing, and the environment. Every
layer says only what it changes. A value of the environment that is not a number in its range
changes nothing and leaves a record; a fault of the file is an error. What results is checked once,
at the end, so the environment can mend what the file got wrong. -/

namespace Messenger

open Json

/-- The values of environment variables. -/
abbrev Environment := String → Option String

namespace Settings

/-! ## The file -/

/-- The defaults as a document. -/
def defaults : Value := (toJson {}).sorted

/-- The settings of a document laid over the defaults. -/
def ofLayer (v : Value) : Except Fault Settings := ofJson (defaults.merge v)

/-- The settings of the text of a file. -/
def ofFileText (s : String) : Except SettingsError Settings := do
  let v ← (Value.parse s).mapError .undecodable
  (ofLayer v).mapError .undecodable

/-- The settings of a file; without one, the defaults. -/
def ofFile : File → Except SettingsError Settings
  | .absent => (ofJson defaults).mapError .undecodable
  | .unreadable => .error .unreadable
  | .bytes bs => match Text.ofUtf8? bs with
    | some s => ofFileText s
    | none => .error .unreadable

/-- A file or directory inside a directory. -/
def inside (directory : String) (name : String) : String :=
  if directory.isEmpty || directory.endsWith "/" then directory ++ name
  else directory ++ "/" ++ name

/-- Where the settings file is, given the home directory. -/
def path (home : Option String) : String :=
  inside (inside (home.getD "/tmp") ".signal-gateway") "settings.json"

/-! ## The environment -/

/-- The number in a range that a text writes, surrounding blanks aside. -/
def inRange? (low high : UInt64) (s : String) : Option UInt64 := do
  let n ← Text.unsigned? (Text.trim s).toList
  if n < UInt64.size && low.toNat ≤ n && n ≤ high.toNat then some (UInt64.ofNat n) else none

/-- A variable of the environment that changes settings. -/
structure Override where
  /-- The name of the variable. -/
  name : String
  /-- The settings with a value of it, unless that is invalid. -/
  apply : String → Settings → Option Settings

/-- An override of a text. -/
def Override.text (name : String) (put : String → Settings → Settings) : Override :=
  ⟨name, fun v s => some (put v s)⟩

/-- An override of a number in a range. -/
def Override.number (name : String) (low high : UInt64) (put : UInt64 → Settings → Settings) :
    Override :=
  ⟨name, fun v s => (inRange? low high v).map fun n => put n s⟩

/-- The variables of the environment, in the order in which they are applied. -/
def overrides : List Override :=
  [.text "SIGNAL_GATEWAY_DAEMON_URL" fun v s => { s with daemonUrl := v },
    .number "SIGNAL_GATEWAY_RECONNECT_DELAY_MS" 10 600000 fun n s =>
      { s with reconnectDelayMs := n },
    .number "SIGNAL_GATEWAY_CACHE_TTL_SECS" 1 604800 fun n s => { s with cacheTtlSecs := n },
    .number "SIGNAL_GATEWAY_REPLAY_CAPACITY" 1 1000000 fun n s => { s with replayCapacity := n },
    .text "SIGNAL_GATEWAY_LOG_LEVEL" fun v s =>
      { s with logging := { s.logging with level := v } }]

/-- The record of an invalid value. -/
def invalidOverride (name value : String) : LogRecord :=
  .warn "invalid numeric env var, ignoring" [("key", name), ("value", value)]

/-- Apply one override. A blank value counts as none. -/
def applyOverride (env : Environment) (o : Override) (s : Settings) : List LogRecord × Settings :=
  match (env o.name).filter fun v => !Text.isBlankText v with
  | none => ([], s)
  | some v => match o.apply v s with
    | some s => ([], s)
    | none => ([invalidOverride o.name v], s)

/-- Apply overrides in turn. -/
def applyAll (env : Environment) : List Override → Settings → List LogRecord × Settings
  | [], s => ([], s)
  | o :: os, s =>
    let (log, s) := applyOverride env o s
    let (more, s) := applyAll env os s
    (log ++ more, s)

/-- Lay the environment over settings. -/
def withEnvironment (env : Environment) (s : Settings) : List LogRecord × Settings :=
  applyAll env overrides s

/-! ## All layers -/

/-- The settings of a file and an environment, checked. -/
def load (file : File) (env : Environment) :
    List LogRecord × Except SettingsError Settings :=
  match ofFile file with
  | .error e => ([], .error e)
  | .ok s =>
    let (log, s) := s.withEnvironment env
    (log, s.validate.map fun _ => s)

end Settings
end Messenger
