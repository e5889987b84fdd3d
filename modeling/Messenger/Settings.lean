import Messenger.Json.Decode
import Messenger.Text.Blank

set_option autoImplicit false

/-! # Settings

The settings of one gateway. All have defaults, so every member of a settings document may be left
out. -/

namespace Messenger

open Json

/-- How log records are laid out. -/
inductive LogFormat where
  | compact
  | json
deriving DecidableEq, Repr

/-- Settings of the log. -/
structure LogSettings where
  /-- Which records are shown. -/
  level : String := "info"
  format : LogFormat := .compact
deriving DecidableEq, Repr

/-- Settings of a gateway. -/
structure Settings where
  /-- The address of the daemon. -/
  daemonUrl : String := "http://127.0.0.1:8080"
  /-- The pause before a lost event stream is opened again, in milliseconds. -/
  reconnectDelayMs : UInt64 := 5000
  /-- The idle time after which a directory is loaded again, in seconds. -/
  cacheTtlSecs : UInt64 := 21600
  /-- The number of messages kept for listeners that come late. -/
  replayCapacity : UInt64 := 1000
  /-- The time that opening a connection may take, in milliseconds. -/
  connectTimeoutMs : UInt64 := 10000
  logging : LogSettings := {}
deriving DecidableEq, Repr

/-- Why settings could not be loaded. -/
inductive SettingsError where
  /-- The file could not be read as text. -/
  | unreadable
  /-- The file is not JSON, or a member has the wrong shape. -/
  | undecodable (fault : Fault)
  | blankDaemonUrl
  | zeroReplayCapacity
deriving DecidableEq, Repr

/-- The wording of a failure. What a file system or a reader would add stays open. -/
def SettingsError.message : SettingsError → String
  | .unreadable => "failed to read settings file: "
  | .undecodable _ => "failed to parse settings JSON: "
  | .blankDaemonUrl => "invalid settings value: daemonUrl is empty"
  | .zeroReplayCapacity => "invalid settings value: replayCapacity must be at least 1"

namespace LogFormat

/-- The names of the layouts. -/
def names : List (String × LogFormat) := [("compact", .compact), ("json", .json)]

/-- The name of a layout. -/
def name : LogFormat → String
  | .compact => "compact"
  | .json => "json"

end LogFormat

namespace LogSettings

/-- The fields of log settings while they are read. -/
structure Draft where
  level : Option String := none
  format : Option LogFormat := none

open Decoder (field) in
/-- How log settings are written. -/
def shape : Decoder.Shape Draft LogSettings where
  empty := {}
  fields :=
    [field ["level"] .string (·.level.isSome) fun a d => { d with level := some a },
      field ["format"] (.name LogFormat.names) (·.format.isSome) fun a d =>
        { d with format := some a }]
  finish d :=
    let defaults : LogSettings := {}
    .ok { level := d.level.getD defaults.level, format := d.format.getD defaults.format }
  positional := true

/-- Log settings as JSON. -/
def toJson (s : LogSettings) : Value :=
  .obj [("level", .str s.level), ("format", .str s.format.name)]

end LogSettings

namespace Settings

/-- The fields of settings while they are read. -/
structure Draft where
  daemonUrl : Option String := none
  reconnectDelayMs : Option UInt64 := none
  cacheTtlSecs : Option UInt64 := none
  replayCapacity : Option UInt64 := none
  connectTimeoutMs : Option UInt64 := none
  logging : Option LogSettings := none

open Decoder (field) in
/-- How settings are written. -/
def shape : Decoder.Shape Draft Settings where
  empty := {}
  fields :=
    [field ["daemonUrl"] .string (·.daemonUrl.isSome) fun a d => { d with daemonUrl := some a },
      field ["reconnectDelayMs"] .uint64 (·.reconnectDelayMs.isSome) fun a d =>
        { d with reconnectDelayMs := some a },
      field ["cacheTtlSecs"] .uint64 (·.cacheTtlSecs.isSome) fun a d =>
        { d with cacheTtlSecs := some a },
      field ["replayCapacity"] .uint64 (·.replayCapacity.isSome) fun a d =>
        { d with replayCapacity := some a },
      field ["connectTimeoutMs"] .uint64 (·.connectTimeoutMs.isSome) fun a d =>
        { d with connectTimeoutMs := some a },
      field ["logging"] LogSettings.shape.decoder (·.logging.isSome) fun a d =>
        { d with logging := some a }]
  finish d :=
    let defaults : Settings := {}
    .ok {
      daemonUrl := d.daemonUrl.getD defaults.daemonUrl
      reconnectDelayMs := d.reconnectDelayMs.getD defaults.reconnectDelayMs
      cacheTtlSecs := d.cacheTtlSecs.getD defaults.cacheTtlSecs
      replayCapacity := d.replayCapacity.getD defaults.replayCapacity
      connectTimeoutMs := d.connectTimeoutMs.getD defaults.connectTimeoutMs
      logging := d.logging.getD defaults.logging }
  positional := true

/-- The settings that a value is. -/
def ofJson (v : Value) : Except Fault Settings := shape.ofValue v

/-- The settings that a text is. -/
def ofText (s : String) : Except Fault Settings := Decoder.ofText shape.decoder s

/-- Settings as JSON. -/
def toJson (s : Settings) : Value :=
  .obj [("daemonUrl", .str s.daemonUrl), ("reconnectDelayMs", .ofUInt64 s.reconnectDelayMs),
    ("cacheTtlSecs", .ofUInt64 s.cacheTtlSecs), ("replayCapacity", .ofUInt64 s.replayCapacity),
    ("connectTimeoutMs", .ofUInt64 s.connectTimeoutMs), ("logging", s.logging.toJson)]

/-- Refuse settings that a gateway cannot work with. -/
def validate (s : Settings) : Except SettingsError Unit :=
  if Text.isBlankText s.daemonUrl then .error .blankDaemonUrl
  else if s.replayCapacity = 0 then .error .zeroReplayCapacity
  else .ok ()

end Settings
end Messenger
