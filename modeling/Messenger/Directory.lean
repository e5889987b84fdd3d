import Messenger.Group
import Messenger.Identity
import Std.Data.TreeMap

set_option autoImplicit false

/-! # Directories

The groups or identities of an account, in the order in which the daemon lists them, each under a
key: groups under their identifier, identities under their phone number. An item without key is
dropped, and so is an item whose key an earlier one has. The items and the index of their keys are
kept side by side, and nothing but the way in which a directory is built makes them agree. -/

namespace Messenger

/-- Items in order, and an index that gives for a key the position of its item. -/
structure Directory (α : Type) where
  items : List α := []
  index : Std.TreeMap String Nat := ∅

namespace Directory

variable {α : Type}

/-- The directory without items. -/
def empty : Directory α := {}

instance : Inhabited (Directory α) := ⟨empty⟩

/-- The position that the index gives for a key. -/
def position? (d : Directory α) (key : String) : Option Nat := d.index[key]?

/-- Whether a key is present. -/
def contains (d : Directory α) (key : String) : Bool := d.index.contains key

/-- The item under a key. -/
def get? (d : Directory α) (key : String) : Option α := (d.position? key).bind (d.items[·]?)

/-- The number of items. -/
def size (d : Directory α) : Nat := d.items.length

/-- Whether there are no items. -/
def isEmpty (d : Directory α) : Bool := d.items.isEmpty

/-- Add an item at the end, unless its key is taken. -/
def add (d : Directory α) (key : String) (item : α) : Directory α :=
  if d.contains key then d
  else { items := d.items ++ [item], index := d.index.insert key d.items.length }

/-- The directory of a list: of the items with one key the first, and no item without key. -/
def ofList (key : α → Option String) (items : List α) : Directory α :=
  items.foldl (fun d a => match key a with
    | some k => d.add k a
    | none => d) empty

/-- The items as a JSON array. -/
def toJson (f : α → Json.Value) (d : Directory α) : Json.Value := .arr (d.items.map f)

end Directory

/-- The groups of an account, under their identifiers. -/
abbrev GroupDirectory := Directory Group

/-- The identities known to an account, under their phone numbers. -/
abbrev IdentityDirectory := Directory Identity

namespace GroupDirectory

/-- The directory of a list of groups. -/
def ofList (groups : List Group) : GroupDirectory := Directory.ofList (fun g => some g.id) groups

/-- The group with an identifier, else the first group with that title. -/
def resolve (d : GroupDirectory) (idOrTitle : String) : Option Group :=
  match d.get? idOrTitle with
  | some g => some g
  | none => d.items.find? fun g => g.hasTitle idOrTitle

end GroupDirectory

namespace IdentityDirectory

/-- The directory of a list of identities. -/
def ofList (identities : List Identity) : IdentityDirectory :=
  Directory.ofList Identity.number identities

end IdentityDirectory
end Messenger
