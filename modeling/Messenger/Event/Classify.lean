import Messenger.Json.Read
import Messenger.Json.Render
import Messenger.Log
import Messenger.Message
import Messenger.Text.Cut

set_option autoImplicit false

/-! # Classifying events

The payload of an event is a JSON object with an account and an envelope. A text wins over a
reaction; remote deletes, receipts and typing indicators are recognised and not delivered. Nothing
fails here: a payload that yields no message yields a reason instead, and a record that shows the
beginning of the payload. -/

namespace Messenger

open Json

/-- Why a payload yields no message. -/
inductive Ignored where
  /-- The text is not JSON. -/
  | invalidJson
  /-- The payload is not an object. -/
  | notAnObject
  /-- No account, or one that is no string. -/
  | missingAccount
  /-- No envelope, or one that is no object. -/
  | missingEnvelope
  /-- No timestamp, or one that is no 64-bit integer. -/
  | missingTimestamp
  /-- A reaction that is no object. -/
  | malformedReaction
  | remoteDelete
  | receipt
  | typing
  /-- Any other shape. -/
  | unsupported
deriving DecidableEq, Repr

namespace Ignored

/-- Whether the payload breaks the contract of events, rather than being of a kind that is not
delivered. -/
def isMalformed : Ignored → Bool
  | .invalidJson | .notAnObject | .missingAccount | .missingEnvelope | .missingTimestamp
  | .malformedReaction => true
  | .remoteDelete | .receipt | .typing | .unsupported => false

/-- The label of a reason. -/
def label : Ignored → String
  | .invalidJson => "invalid_json"
  | .notAnObject => "not_an_object"
  | .missingAccount => "missing_account"
  | .missingEnvelope => "missing_envelope"
  | .missingTimestamp => "missing_timestamp"
  | .malformedReaction => "malformed_reaction"
  | .remoteDelete => "remote_delete"
  | .receipt => "receipt"
  | .typing => "typing"
  | .unsupported => "unsupported"

end Ignored

/-- A message to publish, or the reason why there is none. -/
abbrev Classification := Except Ignored Message

namespace Event

/-- The string under a key, if there is one. -/
def string? (key : String) (ms : Members) : Option String := (ms.get? key).bind Value.str?

/-- The signed word under a key, if there is one. -/
def int64? (key : String) (ms : Members) : Option Int64 := (ms.get? key).bind Value.int64?

/-- The truth value under a key, false if there is none. -/
def flag (key : String) (ms : Members) : Bool := ((ms.get? key).bind Value.bool?).getD false

/-- The object under a key, if there is one. -/
def object? (key : String) (ms : Members) : Option Members := (ms.get? key).bind Value.obj?

/-- The value under a key, unless it is `null`. -/
def present? (key : String) (ms : Members) : Option Value :=
  (ms.get? key).filter fun v => !v.isNull

/-- The value, or the reason why it is missing. -/
def orIgnored {α : Type} (reason : Ignored) : Option α → Except Ignored α
  | some a => .ok a
  | none => .error reason

/-- The text of a message body: a string as it is, any other value as compact JSON. -/
def bodyText : Value → String
  | .str s => s
  | v => v.compact

/-- The envelope of a message, without the title of its group. -/
def envelope (account : String) (timestamp : Int64) (source data : Members) : Envelope where
  account
  sourceNumber := (string? "sourceNumber" source).getD unknownSource
  sourceUuid := (string? "sourceUuid" source).getD unknownSource
  sourceName := (string? "sourceName" source).getD unknownSource
  timestamp
  groupId := ((data.get? "groupInfo").bind (Value.get? "groupId")).bind Value.str?
  groupName := none

/-- The content of a text. -/
def textContent (body : Value) (data : Members) : Content :=
  .text (bodyText body) (flag "viewOnce" data) ((int64? "expiresInSeconds" data).getD (-1))

/-- The author of the message to which a reaction belongs: a number before an unspecified name
before an identifier. -/
def targetAuthor (reaction : Members) : String :=
  ((string? "targetAuthorNumber" reaction).or ((string? "targetAuthor" reaction).or
    (string? "targetAuthorUuid" reaction))).getD unknownSource

/-- The content of a reaction. -/
def reactionContent (reaction : Members) : Content :=
  .reaction ((string? "emoji" reaction).getD "") (targetAuthor reaction)
    ((int64? "targetSentTimestamp" reaction).getD (-1)) (flag "isRemove" reaction)

/-- The reason for an envelope that carries no data message. -/
def withoutData (envelope : Members) : Ignored :=
  if envelope.hasKey "receiptMessage" then .receipt
  else if envelope.hasKey "typingMessage" then .typing
  else .unsupported

/-- The content of a data message. -/
def content (data : Members) : Except Ignored Content :=
  match present? "message" data with
  | some body => .ok (textContent body data)
  | none => match present? "reaction" data with
    | some reaction => match reaction.obj? with
      | some reaction => .ok (reactionContent reaction)
      | none => .error .malformedReaction
    | none => .error (if data.hasKey "remoteDelete" then .remoteDelete else .unsupported)

/-- The message of a payload, or the reason why there is none. -/
def parse (payload : Value) : Classification := do
  let root ← orIgnored .notAnObject payload.obj?
  let account ← orIgnored .missingAccount (string? "account" root)
  let source ← orIgnored .missingEnvelope (object? "envelope" root)
  let timestamp ← orIgnored .missingTimestamp (int64? "timestamp" source)
  let data ← orIgnored (withoutData source) (object? "dataMessage" source)
  return ⟨envelope account timestamp source data, ← content data⟩

/-- The greatest number of bytes of a payload that a record shows. -/
def payloadPreview : Nat := 200

/-- The greatest number of bytes of a text that is not JSON that a record shows. -/
def textPreview : Nat := 100

/-- The record of a message that was received. -/
def received (m : Message) : LogRecord :=
  .info (match m.content with
    | .text .. => "received message"
    | .reaction .. => "received reaction")
    [("account", m.account), ("source", m.envelope.sourceNumber)]

/-- The record of a payload that yields no message. -/
def dropped (reason : Ignored) (payload : Value) : LogRecord :=
  let preview := ("payload_preview", Text.cut payloadPreview payload.compact)
  if reason.isMalformed then
    .warn "dropping malformed event" [("reason", reason.label), preview]
  else if reason = .unsupported then .warn "unsupported event" [preview]
  else .debug "event not delivered" [("reason", reason.label)]

/-- Classify a payload and record what became of it. -/
def parseLogged (payload : Value) : Classification × List LogRecord :=
  match parse payload with
  | .ok m => (.ok m, [received m])
  | .error reason => (.error reason, [dropped reason payload])

/-- What is known of the title of a group: a title, no such group, or a failure to find out. -/
inductive Title where
  | known (title : String)
  | unknown
  | failed
deriving DecidableEq, Repr

/-- How titles of groups are found: by account and group, in a state that the search may change
(a cache, the daemon) and with records of its own. No resolver means that titles are left out. -/
abbrev Resolver (σ : Type) := Option (String → String → σ → Title × List LogRecord × σ)

/-- What classifying yields: the classification, the records, and the state of the resolver. -/
abbrev Outcome (σ : Type) := Classification × List LogRecord × σ

/-- The record of a group whose title was sought in vain. -/
def unresolved (title : Title) (account groupId : String) : List LogRecord :=
  let fields := [("account", account), ("group_id", groupId)]
  match title with
  | .known _ => []
  | .unknown => [.debug "group not found in cache" fields]
  | .failed => [.warn "group name lookup failed" fields]

/-- The message with a title, if there is one. -/
def withTitle (m : Message) : Title → Message
  | .known name => m.withGroupName name
  | .unknown => m
  | .failed => m

/-- Classify a payload, and give a message of a group the title of the group. -/
def classify {σ : Type} (resolver : Resolver σ) (payload : Value) (s : σ) : Outcome σ :=
  match parseLogged payload with
  | (.error reason, log) => (.error reason, log, s)
  | (.ok m, log) => match resolver, m.envelope.groupId with
    | some resolve, some groupId =>
      let (title, records, s) := resolve m.account groupId s
      (.ok (withTitle m title), log ++ records ++ unresolved title m.account groupId, s)
    | _, _ => (.ok m, log, s)

/-- The record of a text that is not JSON. -/
def unparsable (text : String) : LogRecord :=
  .warn "dropping unparsable event payload" [("data_preview", Text.cut textPreview text)]

/-- Classify the text of a payload. -/
def classifyText {σ : Type} (resolver : Resolver σ) (text : String) (s : σ) : Outcome σ :=
  match Value.parse text with
  | .ok payload => classify resolver payload s
  | .error _ => (.error .invalidJson, [unparsable text], s)

end Event
end Messenger
