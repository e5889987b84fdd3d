import Messenger.Json.Value

set_option autoImplicit false

/-! # Merging JSON documents

A document is laid over another one. Objects are merged key by key, at every depth; any other value
replaces what it is laid over. A `null` in the upper document says nothing, so it changes nothing
where there is a value below, and adds no member to an object that is merged. -/

namespace Messenger.Json

mutual

/-- The value that results from laying the second value over the first. -/
def Value.merge : Value → Value → Value
  | .obj target, .obj source => .obj (mergeMembers target source)
  | _, source => source

/-- Lay members over those of an object, in turn. -/
def mergeMembers (target : Members) : Members → Members
  | [] => target
  | (k, v) :: ms => mergeMembers (mergeMember target k v) ms

/-- Lay one member over those of an object. -/
def mergeMember (target : Members) (key : String) : Value → Members
  | .null => target
  | .obj source => match target.get? key with
    | some (.obj below) => target.insert key (.obj (mergeMembers below source))
    | _ => target.insert key (.obj source)
  | v => target.insert key v

end

end Messenger.Json
