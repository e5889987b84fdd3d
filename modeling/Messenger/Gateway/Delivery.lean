import Messenger.Outbound

set_option autoImplicit false

/-! # Outbound messages

A delivery says what is sent, on behalf of which account, and to whom. What is sent fixes the method
of the daemon and its parameters; the recipients are added when they are known. -/

namespace Messenger

open Json

/-- What is sent. -/
inductive Outgoing where
  | text (body : String) (quote : Option Quote) (attachment : Option Attachment)
  /-- A reaction to the message that `targetAuthor` sent at `targetTimestamp`, or its
  withdrawal. -/
  | reaction (emoji targetAuthor : String) (targetTimestamp : Int64) (remove : Bool)
  /-- The deletion of an own message. -/
  | deletion (targetTimestamp : Int64)
deriving DecidableEq, Repr

/-- Something to send. -/
structure Delivery where
  account : String
  content : Outgoing
  /-- Phone numbers or identifiers of persons. -/
  recipients : List String
  /-- Groups, by identifier or title. They are preferred to persons. -/
  groups : List String
deriving DecidableEq, Repr

namespace Outgoing

/-- The method of the daemon. -/
def method : Outgoing → String
  | .text .. => "send"
  | .reaction .. => "sendReaction"
  | .deletion _ => "remoteDelete"

/-- The parameters of a quote. -/
def quoteParams : Option Quote → Members
  | none => []
  | some q =>
    [("quote-timestamp", .ofInt64 q.timestamp), ("quote-author", .str q.author),
      ("quote-message", .str q.message)]
    ++ match q.mention with
      | none => []
      | some m => [("quote-mention", .str m)]

/-- The parameters of an attachment. -/
def attachmentParams : Option Attachment → Members
  | none => []
  | some a => [("attachment", .str a.descriptor)]

/-- The parameters of what is sent. -/
def params : Outgoing → Members
  | .text body quote attachment =>
    ("message", .str body) :: (quoteParams quote ++ attachmentParams attachment)
  | .reaction emoji author target remove =>
    [("emoji", .str emoji), ("target-author", .str author),
      ("target-timestamp", .ofInt64 target), ("remove", .bool remove)]
  | .deletion target => [("target-timestamp", .ofInt64 target)]

end Outgoing

namespace Delivery

/-- The parameters that all calls of a delivery share. -/
def params (d : Delivery) : Members := ("account", .str d.account) :: d.content.params

/-- The parameters of the call for one group. -/
def groupParams (d : Delivery) (groupId : String) : Value :=
  .obj (d.params ++ [("group-id", .str groupId)])

/-- The parameters of the call for persons. -/
def personParams (d : Delivery) (recipients : List String) : Value :=
  .obj (d.params ++ [("recipient", .strings recipients)])

end Delivery
end Messenger
