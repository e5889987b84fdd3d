set_option autoImplicit false

/-! # Inbound messages

What listeners receive: a text or an emoji reaction, together with an envelope that says on which
account, from whom and when. Other events of the daemon (remote deletes, receipts, typing
indicators) never become messages. -/

namespace Messenger

/-- The metadata of a message. -/
structure Envelope where
  /-- The local account on which the event arrived. -/
  account : String
  sourceNumber : String
  sourceUuid : String
  sourceName : String
  /-- The time at which the sender says it was sent, in milliseconds. -/
  timestamp : Int64
  /-- The group to which it was sent. -/
  groupId : Option String
  /-- The title of that group, where known. -/
  groupName : Option String
deriving DecidableEq, Repr

/-- What a message says. -/
inductive Content where
  /-- A text, with the seconds after which it disappears (`-1` when it does not). -/
  | text (body : String) (viewOnce : Bool) (expiresInSeconds : Int64)
  /-- A reaction to the message that `targetAuthor` sent at `targetSentTimestamp`, or the
  withdrawal of one. -/
  | reaction (emoji : String) (targetAuthor : String) (targetSentTimestamp : Int64) (remove : Bool)
deriving DecidableEq, Repr

/-- A message delivered to listeners. -/
structure Message where
  envelope : Envelope
  content : Content
deriving DecidableEq, Repr

/-- The name of a kind of content. -/
def Content.kind : Content → String
  | .text .. => "text"
  | .reaction .. => "reaction"

namespace Message

/-- The name of the kind of message. -/
def kind (m : Message) : String := m.content.kind

/-- The sender's timestamp, by which replays are ordered. -/
def timestamp (m : Message) : Int64 := m.envelope.timestamp

/-- The account that received the message. -/
def account (m : Message) : String := m.envelope.account

/-- The message with the title of its group. -/
def withGroupName (m : Message) (name : String) : Message :=
  { m with envelope := { m.envelope with groupName := some name } }

/-- Naming the group keeps the rest of the envelope and the content. -/
theorem withGroupName_eq (m : Message) (name : String) :
    (m.withGroupName name).content = m.content
      ∧ (m.withGroupName name).envelope = { m.envelope with groupName := some name } :=
  ⟨rfl, rfl⟩

end Message

/-- What an envelope says of a source that the event does not name. -/
def unknownSource : String := "Unknown"

end Messenger
