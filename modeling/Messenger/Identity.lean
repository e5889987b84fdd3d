import Messenger.Json.Decode

set_option autoImplicit false

/-! # Identities

What the daemon knows of the safety identity of a contact. Two of its fields have an older spelling
that is still read; a record that carries both spellings of one field is refused. -/

namespace Messenger

open Json

/-- A known safety identity of a contact. -/
structure Identity where
  number : Option String
  uuid : Option String
  fingerprint : Option String
  safetyNumber : Option String
  scannableSafetyNumber : Option String
  trustLevel : Option String
  /-- When the identity was first seen, in milliseconds. -/
  addedTimestamp : Int64
deriving DecidableEq, Repr

namespace Identity

/-- The fields of an identity while it is read. -/
structure Draft where
  number : Option (Option String) := none
  uuid : Option (Option String) := none
  fingerprint : Option (Option String) := none
  safetyNumber : Option (Option String) := none
  scannableSafetyNumber : Option (Option String) := none
  trustLevel : Option (Option String) := none
  addedTimestamp : Option Int64 := none

open Decoder (field) in
/-- How an identity is written. -/
def shape : Decoder.Shape Draft Identity where
  empty := {}
  fields :=
    [field ["number"] (.option .string) (·.number.isSome) fun a d => { d with number := some a },
      field ["uuid"] (.option .string) (·.uuid.isSome) fun a d => { d with uuid := some a },
      field ["fingerprint"] (.option .string) (·.fingerprint.isSome) fun a d =>
        { d with fingerprint := some a },
      field ["safetyNumber", "saftyNumber"] (.option .string) (·.safetyNumber.isSome) fun a d =>
        { d with safetyNumber := some a },
      field ["scannableSafetyNumber", "scannableSaftyNumber"] (.option .string)
        (·.scannableSafetyNumber.isSome) fun a d => { d with scannableSafetyNumber := some a },
      field ["trustLevel"] (.option .string) (·.trustLevel.isSome) fun a d =>
        { d with trustLevel := some a },
      field ["addedTimestamp"] .int64 (·.addedTimestamp.isSome) fun a d =>
        { d with addedTimestamp := some a }]
  finish d := .ok {
    number := d.number.join
    uuid := d.uuid.join
    fingerprint := d.fingerprint.join
    safetyNumber := d.safetyNumber.join
    scannableSafetyNumber := d.scannableSafetyNumber.join
    trustLevel := d.trustLevel.join
    addedTimestamp := d.addedTimestamp.getD 0 }
  positional := true

/-- The identity that a value is. -/
def ofJson (v : Value) : Except Fault Identity := shape.ofValue v

/-- An identity as JSON. -/
def toJson (i : Identity) : Value :=
  .obj [("number", .ofOption .str i.number), ("uuid", .ofOption .str i.uuid),
    ("fingerprint", .ofOption .str i.fingerprint),
    ("safetyNumber", .ofOption .str i.safetyNumber),
    ("scannableSafetyNumber", .ofOption .str i.scannableSafetyNumber),
    ("trustLevel", .ofOption .str i.trustLevel),
    ("addedTimestamp", .ofInt64 i.addedTimestamp)]

end Identity
end Messenger
