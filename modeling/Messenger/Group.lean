import Messenger.Json.Decode
import Messenger.Text.Lowercase

set_option autoImplicit false

/-! # Groups

A group as the daemon lists it. A member may be known by a phone number, by an identifier, or by
both; a title is compared without regard to case, in any script. -/

namespace Messenger

open Json

/-- A member of a group. -/
structure Member where
  number : Option String
  uuid : Option String
deriving DecidableEq, Repr

/-- Who may act on a group, in the daemon's words. -/
structure Permissions where
  addMember : Option String
  editDetails : Option String
  sendMessage : Option String
deriving DecidableEq, Repr

/-- A group to which an account belongs. -/
structure Group where
  id : String
  /-- The title. -/
  name : Option String
  description : Option String
  /-- The seconds after which messages disappear, `-1` when unknown. -/
  expirationTime : Int64
  permissions : Permissions
  members : List Member
deriving DecidableEq, Repr

namespace Member

/-- The fields of a member while it is read. -/
structure Draft where
  number : Option (Option String) := none
  uuid : Option (Option String) := none

open Decoder (field) in
/-- How a member is written. -/
def shape : Decoder.Shape Draft Member where
  empty := {}
  fields :=
    [field ["number"] (.option .string) (·.number.isSome) fun a d => { d with number := some a },
      field ["uuid"] (.option .string) (·.uuid.isSome) fun a d => { d with uuid := some a }]
  finish d := .ok { number := d.number.join, uuid := d.uuid.join }
  positional := true

/-- A member as JSON. -/
def toJson (m : Member) : Value :=
  .obj [("number", .ofOption .str m.number), ("uuid", .ofOption .str m.uuid)]

end Member

namespace Group

/-- Whether a title is the name of the group, up to case. A group without name has no title. -/
def hasTitle (g : Group) (title : String) : Bool :=
  match g.name with
  | some name => Text.lowercase name == Text.lowercase title
  | none => false

/-- The numbers of the members other than the account, each once, in order. -/
def memberNumbers (g : Group) (account : String) : List String :=
  ((g.members.filterMap Member.number).filter (· != account)).eraseDups

/-- The fields of a group while it is read. -/
structure Draft where
  id : Option String := none
  name : Option (Option String) := none
  description : Option (Option String) := none
  expirationTime : Option Int64 := none
  addMember : Option (Option String) := none
  editDetails : Option (Option String) := none
  sendMessage : Option (Option String) := none
  members : Option (List Member) := none

open Decoder (field required) in
/-- How a group is written. The permissions stand among its own fields. -/
def shape : Decoder.Shape Draft Group where
  empty := {}
  fields :=
    [field ["id"] .string (·.id.isSome) fun a d => { d with id := some a },
      field ["name"] (.option .string) (·.name.isSome) fun a d => { d with name := some a },
      field ["description"] (.option .string) (·.description.isSome) fun a d =>
        { d with description := some a },
      field ["messageExpirationTime"] .int64 (·.expirationTime.isSome) fun a d =>
        { d with expirationTime := some a },
      field ["permissionAddMember"] (.option .string) (·.addMember.isSome) fun a d =>
        { d with addMember := some a },
      field ["permissionEditDetails"] (.option .string) (·.editDetails.isSome) fun a d =>
        { d with editDetails := some a },
      field ["permissionSendMessage"] (.option .string) (·.sendMessage.isSome) fun a d =>
        { d with sendMessage := some a },
      field ["members"] (.list Member.shape.decoder) (·.members.isSome) fun a d =>
        { d with members := some a }]
  finish d := do
    return {
      id := ← required d.id
      name := d.name.join
      description := d.description.join
      expirationTime := d.expirationTime.getD (-1)
      permissions := {
        addMember := d.addMember.join
        editDetails := d.editDetails.join
        sendMessage := d.sendMessage.join }
      members := d.members.getD [] }
  positional := false

/-- The group that a value is. -/
def ofJson (v : Value) : Except Fault Group := shape.ofValue v

/-- A group as JSON. -/
def toJson (g : Group) : Value :=
  .obj [("id", .str g.id), ("name", .ofOption .str g.name),
    ("description", .ofOption .str g.description),
    ("messageExpirationTime", .ofInt64 g.expirationTime),
    ("permissionAddMember", .ofOption .str g.permissions.addMember),
    ("permissionEditDetails", .ofOption .str g.permissions.editDetails),
    ("permissionSendMessage", .ofOption .str g.permissions.sendMessage),
    ("members", .arr (g.members.map Member.toJson))]

end Group
end Messenger
