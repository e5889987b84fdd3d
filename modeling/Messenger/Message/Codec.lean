import Messenger.Message
import Messenger.Json.Decode

set_option autoImplicit false

/-! # Messages as JSON

A message is one flat object: its kind under `type`, then the envelope, then the content. The group
fields are left out when missing. Reading needs the kind to know the other fields, so the kind is
checked as soon as it is met and the rest when the object is complete. -/

namespace Messenger

open Json

/-- A member for an optional string, left out when missing. -/
def optionalMember (key : String) : Option String → Members
  | none => []
  | some s => [(key, .str s)]

namespace Envelope

/-- The members of an envelope. -/
def members (e : Envelope) : Members :=
  [("account", .str e.account), ("sourceNumber", .str e.sourceNumber),
    ("sourceUuid", .str e.sourceUuid), ("sourceName", .str e.sourceName),
    ("timestamp", .ofInt64 e.timestamp)]
  ++ optionalMember "groupId" e.groupId ++ optionalMember "groupName" e.groupName

end Envelope

/-- The members of a content. -/
def Content.members : Content → Members
  | .text body viewOnce expires =>
    [("body", .str body), ("viewOnce", .bool viewOnce), ("expiresInSeconds", .ofInt64 expires)]
  | .reaction emoji author target remove =>
    [("emoji", .str emoji), ("targetAuthor", .str author),
      ("targetSentTimestamp", .ofInt64 target), ("remove", .bool remove)]

namespace Message

/-- A message as JSON, its members in the order in which they are written. -/
def toJson (m : Message) : Value :=
  .obj (("type", .str m.kind) :: (m.envelope.members ++ m.content.members))

/-- The fields of a message while it is read. -/
structure Draft where
  account : Option String := none
  sourceNumber : Option String := none
  sourceUuid : Option String := none
  sourceName : Option String := none
  timestamp : Option Int64 := none
  groupId : Option (Option String) := none
  groupName : Option (Option String) := none
  body : Option String := none
  viewOnce : Option Bool := none
  expiresInSeconds : Option Int64 := none
  emoji : Option String := none
  targetAuthor : Option String := none
  targetSentTimestamp : Option Int64 := none
  remove : Option Bool := none

open Decoder (field required)

/-- The fields of the envelope. -/
def envelopeFields : List (Decoder.Field Draft) :=
  [field ["account"] .string (·.account.isSome) fun a d => { d with account := some a },
    field ["sourceNumber"] .string (·.sourceNumber.isSome) fun a d =>
      { d with sourceNumber := some a },
    field ["sourceUuid"] .string (·.sourceUuid.isSome) fun a d => { d with sourceUuid := some a },
    field ["sourceName"] .string (·.sourceName.isSome) fun a d => { d with sourceName := some a },
    field ["timestamp"] .int64 (·.timestamp.isSome) fun a d => { d with timestamp := some a },
    field ["groupId"] (.option .string) (·.groupId.isSome) fun a d => { d with groupId := some a },
    field ["groupName"] (.option .string) (·.groupName.isSome) fun a d =>
      { d with groupName := some a }]

/-- The envelope of a draft. -/
def finishEnvelope (d : Draft) : Except Fault Envelope := do
  return {
    account := ← required d.account
    sourceNumber := ← required d.sourceNumber
    sourceUuid := ← required d.sourceUuid
    sourceName := ← required d.sourceName
    timestamp := ← required d.timestamp
    groupId := d.groupId.join
    groupName := d.groupName.join }

/-- How a text is written. -/
def textShape : Decoder.Shape Draft Message where
  empty := {}
  fields := envelopeFields ++
    [field ["body"] .string (·.body.isSome) fun a d => { d with body := some a },
      field ["viewOnce"] .bool (·.viewOnce.isSome) fun a d => { d with viewOnce := some a },
      field ["expiresInSeconds"] .int64 (·.expiresInSeconds.isSome) fun a d =>
        { d with expiresInSeconds := some a }]
  finish d := do
    return ⟨← finishEnvelope d,
      .text (← required d.body) (← required d.viewOnce) (← required d.expiresInSeconds)⟩
  positional := false

/-- How a reaction is written. -/
def reactionShape : Decoder.Shape Draft Message where
  empty := {}
  fields := envelopeFields ++
    [field ["emoji"] .string (·.emoji.isSome) fun a d => { d with emoji := some a },
      field ["targetAuthor"] .string (·.targetAuthor.isSome) fun a d =>
        { d with targetAuthor := some a },
      field ["targetSentTimestamp"] .int64 (·.targetSentTimestamp.isSome) fun a d =>
        { d with targetSentTimestamp := some a },
      field ["remove"] .bool (·.remove.isSome) fun a d => { d with remove := some a }]
  finish d := do
    return ⟨← finishEnvelope d,
      .reaction (← required d.emoji) (← required d.targetAuthor)
        (← required d.targetSentTimestamp) (← required d.remove)⟩
  positional := false

/-- The kinds of messages, and how each is written. -/
def kinds : List (String × Decoder.Shape Draft Message) :=
  [("text", textShape), ("reaction", reactionShape)]

/-- The kind under the key `type`. -/
def kindDecoder : Decoder (Decoder.Shape Draft Message) where
  ofValue v := do Decoder.ofName kinds (← Decoder.string.ofValue v)
  read depth i := do
    let (s, i) ← Decoder.string.read depth i
    return (← Decoder.ofName kinds s, i)

/-- The key of the kind. -/
def kindKey : String := "type"

/-- Decode the members of an object. -/
def ofMembers (ms : Members) : Except Fault Message := do
  match ms.filter fun m => m.1 == kindKey with
  | [(_, v)] =>
    let shape ← kindDecoder.ofValue v
    shape.ofValue (.obj (ms.filter fun m => m.1 != kindKey))
  | _ => .error .mismatched

/-- Read the object form after its opening brace, or after one of its members. -/
def readMembers (depth : Nat) : Nat → (first : Bool) → Option (Decoder.Shape Draft Message) →
    Members → Input → Except Fault (Message × Input)
  | 0, _, _, _, _ => .error .truncated
  | fuel + 1, first, kind, ms, i => match skipSpace i with
    | [] => .error .truncated
    | .char '}' :: i => do
      let shape ← required kind
      return (← shape.ofValue (.obj ms.reverse), i)
    | i =>
      let key : Input → Except Fault (Message × Input)
        | [] => .error .truncated
        | .char '"' :: i => do
          let (k, i) ← Read.stringBody [] true i
          if k = kindKey then
            if kind.isSome then .error .mismatched
            else do
              let (shape, i) ← kindDecoder.read depth (← Read.colon i)
              readMembers depth fuel false (some shape) ms i
          else do
            let (v, i) ← Read.anyValue depth (← Read.colon i)
            readMembers depth fuel false kind ((k, v) :: ms) i
        | _ => .error .malformed
      if first then key i
      else match i with
        | .char ',' :: i => key (skipSpace i)
        | _ => .error .malformed

/-- Read the array form after its opening bracket: the kind comes first, and no message is written
as an array. -/
def readArray (depth : Nat) (i : Input) : Except Fault (Message × Input) := do
  match skipSpace i with
  | [] => .error .truncated
  | .char ']' :: _ => .error .mismatched
  | i =>
    let (_, i) ← kindDecoder.read depth i
    let _ ← Read.moreItems (Read.fuelFor i) depth i
    .error .mismatched

/-- The decoder of messages. -/
def decoder : Decoder Message where
  ofValue
    | .obj ms => ofMembers ms
    | _ => .error .mismatched
  read depth i := match skipSpace i with
    | [] => .error .truncated
    | .char '[' :: i => match depth with
      | 0 => .error .malformed
      | depth + 1 => readArray depth i
    | .char '{' :: i => match depth with
      | 0 => .error .malformed
      | depth + 1 => readMembers depth (i.length + 1) true none [] i
    | i => Decoder.wrongKind i

/-- The message that a value is. -/
def ofJson (v : Value) : Except Fault Message := decoder.ofValue v

/-- The message that a text is. -/
def ofText (s : String) : Except Fault Message := Decoder.ofText decoder s

end Message
end Messenger
