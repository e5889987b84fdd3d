import Messenger.Json.Skim

set_option autoImplicit false

/-! # Decoding structures

A decoder takes a structure either from a JSON value or directly from text. Read from text, a
structure is built while the text is read, so of two faults the earlier one counts, and a member
that occurs twice is a fault; in a value, members occur once. Either way members that a structure
does not know are passed over.

A structure is described by its fields. While it is built it is a *draft* in which every field may
be missing; when all members are in, the draft is finished, which supplies defaults or finds a
required field missing. A structure may also be written as the array of its fields in order. -/

namespace Messenger.Json

/-- How to obtain an `α` from a value, and from the front of a text in which `depth` more levels of
nesting are allowed. -/
structure Decoder (α : Type) where
  ofValue : Value → Except Fault α
  read : (depth : Nat) → Input → Except Fault (α × Input)

namespace Decoder

/-- The fault of a value of the wrong kind: a scalar is read first, and its own faults come
first. -/
def wrongKind {α : Type} (i : Input) : Except Fault α :=
  match i with
  | .char '[' :: _ => .error .mismatched
  | .char '{' :: _ => .error .mismatched
  | i => do
    let _ ← Read.value 1 0 i
    .error .mismatched

/-- A scalar that satisfies a test. -/
def scalar {α : Type} (test : Value → Option α) : Decoder α where
  ofValue v := match test v with
    | some a => .ok a
    | none => .error .mismatched
  read _ i := match skipSpace i with
    | .char '[' :: _ => .error .mismatched
    | .char '{' :: _ => .error .mismatched
    | i => do
      let (v, i) ← Read.value 1 0 i
      match test v with
      | some a => .ok (a, i)
      | none => .error .mismatched

/-- A string. -/
def string : Decoder String := scalar Value.str?

/-- A signed 64-bit word. -/
def int64 : Decoder Int64 := scalar Value.int64?

/-- An unsigned 64-bit word. -/
def uint64 : Decoder UInt64 := scalar Value.uint64?

/-- A truth value. -/
def bool : Decoder Bool := scalar Value.bool?

/-- Any value. -/
def any : Decoder Value where
  ofValue v := .ok v
  read depth i := do
    let (v, i) ← Read.anyValue depth i
    return (v.sorted, i)

/-- Apply a function to what is decoded. -/
def map {α β : Type} (f : α → β) (d : Decoder α) : Decoder β where
  ofValue v := (d.ofValue v).map f
  read depth i := do
    let (a, i) ← d.read depth i
    return (f a, i)

/-- Nothing for `null`. -/
def option {α : Type} (d : Decoder α) : Decoder (Option α) where
  ofValue v := if v.isNull then .ok none else (d.ofValue v).map some
  read depth i := match skipSpace i with
    | .char 'n' :: i => do return (none, ← Read.word ['u', 'l', 'l'] i)
    | i => do
      let (a, i) ← d.read depth i
      return (some a, i)

/-- The items of an array after one of them. -/
def readItems {α : Type} (d : Decoder α) (depth : Nat) : Nat → Input → Except Fault (List α × Input)
  | 0, _ => .error .truncated
  | fuel + 1, i =>
    match skipSpace i with
    | [] => .error .truncated
    | .char ']' :: i => .ok ([], i)
    | .char ',' :: i => do
      let (a, i) ← d.read depth i
      let (as, i) ← readItems d depth fuel i
      return (a :: as, i)
    | _ => .error .malformed

/-- An array. -/
def list {α : Type} (d : Decoder α) : Decoder (List α) where
  ofValue
    | .arr items => items.mapM d.ofValue
    | _ => .error .mismatched
  read depth i := match skipSpace i with
    | [] => .error .truncated
    | .char '[' :: i => match depth with
      | 0 => .error .malformed
      | depth + 1 => match skipSpace i with
        | [] => .error .truncated
        | .char ']' :: i => .ok ([], i)
        | i => do
          let (a, i) ← d.read depth i
          let (as, i) ← readItems d depth i.length i
          return (a :: as, i)
    | i => wrongKind i

/-- The value of a name. -/
def ofName {α : Type} (names : List (String × α)) (s : String) : Except Fault α :=
  match names.lookup s with
  | some a => .ok a
  | none => .error .mismatched

/-- One of several names, alone or as the only key of an object whose value is `null`. From text,
anything that is neither a string nor an object is broken grammar. -/
def name {α : Type} (names : List (String × α)) : Decoder α where
  ofValue
    | .str s => ofName names s
    | .obj [(s, v)] => do
      let a ← ofName names s
      if v.isNull then .ok a else .error .mismatched
    | _ => .error .mismatched
  read depth i := match skipSpace i with
    | [] => .error .truncated
    | .char '"' :: i => do
      let (s, i) ← Read.stringBody [] true i
      return (← ofName names s, i)
    | .char '{' :: i => match depth with
      | 0 => .error .malformed
      | _ + 1 => do
        let (s, i) ← string.read 0 i
        let a ← ofName names s
        let i ← Read.colon i
        let (_, i) ← (scalar fun v => if v.isNull then some () else none).read 0 i
        match skipSpace i with
        | [] => .error .truncated
        | .char '}' :: i => .ok (a, i)
        | _ => .error .malformed
    | _ => .error .malformed

/-- A field of a structure under construction. -/
structure Field (δ : Type) where
  /-- The keys under which the field may be written. -/
  names : List String
  /-- Whether the draft has the field already. -/
  isSet : δ → Bool
  /-- Decode the field and put it into the draft. -/
  put : Decoder (δ → δ)

/-- The field written under a key. -/
def Field.find? {δ : Type} (fields : List (Field δ)) (key : String) : Option (Field δ) :=
  fields.find? fun f => f.names.contains key

/-- How a structure is written. -/
structure Shape (δ α : Type) where
  /-- The draft without any field. -/
  empty : δ
  /-- The fields, in the order of the array form. -/
  fields : List (Field δ)
  /-- The structure that a draft stands for, unless a required field is missing. -/
  finish : δ → Except Fault α
  /-- Whether the structure has an array form. -/
  positional : Bool

namespace Shape

variable {δ α : Type}

/-- Put the members of an object into a draft. A second member of one field is a fault. -/
def ofMembers (s : Shape δ α) : δ → Members → Except Fault δ
  | d, [] => .ok d
  | d, (k, v) :: ms => match Field.find? s.fields k with
    | none => ofMembers s d ms
    | some f =>
      if f.isSet d then .error .mismatched
      else do ofMembers s ((← f.put.ofValue v) d) ms

/-- Put the items of an array into a draft; too many of them are a fault. -/
def ofItems : List (Field δ) → δ → List Value → Except Fault δ
  | _, d, [] => .ok d
  | [], _, _ :: _ => .error .mismatched
  | f :: fs, d, v :: vs => do ofItems fs ((← f.put.ofValue v) d) vs

/-- Decode from a value. -/
def ofValue (s : Shape δ α) : Value → Except Fault α
  | .obj ms => do s.finish (← s.ofMembers s.empty ms)
  | .arr vs => if s.positional then do s.finish (← ofItems s.fields s.empty vs)
      else .error .mismatched
  | _ => .error .mismatched

/-- Read the array form after its opening bracket, or after one of its items. -/
def readItems (s : Shape δ α) (depth : Nat) :
    List (Field δ) → (first : Bool) → δ → Input → Except Fault (α × Input)
  | [], _, d, i => do
    let a ← s.finish d
    match skipSpace i with
    | [] => .error .truncated
    | .char ']' :: i => .ok (a, i)
    | _ => .error .malformed
  | f :: fs, first, d, i => match skipSpace i with
    | [] => .error .truncated
    | .char ']' :: i => do return (← s.finish d, i)
    | i =>
      if first then do
        let (g, i) ← f.put.read depth i
        readItems s depth fs false (g d) i
      else match i with
        | .char ',' :: i => do
          let (g, i) ← f.put.read depth i
          readItems s depth fs false (g d) i
        | _ => .error .malformed

/-- Read a member after the opening quote of its key. -/
def readMember (s : Shape δ α) (depth : Nat) (d : δ) (i : Input) : Except Fault (δ × Input) := do
  let (k, i) ← Read.stringBody [] true i
  match Field.find? s.fields k with
  | none => return (d, ← Skim.anyValue (← Read.colon i))
  | some f =>
    if f.isSet d then .error .mismatched
    else do
      let (g, i) ← f.put.read depth (← Read.colon i)
      return (g d, i)

/-- Read the object form after its opening brace, or after one of its members. -/
def readMembers (s : Shape δ α) (depth : Nat) :
    Nat → (first : Bool) → δ → Input → Except Fault (α × Input)
  | 0, _, _, _ => .error .truncated
  | fuel + 1, first, d, i => match skipSpace i with
    | [] => .error .truncated
    | .char '}' :: i => do return (← s.finish d, i)
    | i =>
      let key : Input → Except Fault (α × Input)
        | [] => .error .truncated
        | .char '"' :: i => do
          let (d, i) ← s.readMember depth d i
          readMembers s depth fuel false d i
        | _ => .error .malformed
      if first then key i
      else match i with
        | .char ',' :: i => key (skipSpace i)
        | _ => .error .malformed

/-- The decoder of a structure. -/
def decoder (s : Shape δ α) : Decoder α where
  ofValue := s.ofValue
  read depth i := match skipSpace i with
    | [] => .error .truncated
    | .char '[' :: i => match depth with
      | 0 => .error .malformed
      | depth + 1 =>
        if s.positional then s.readItems depth s.fields true s.empty i else .error .mismatched
    | .char '{' :: i => match depth with
      | 0 => .error .malformed
      | depth + 1 => s.readMembers depth (i.length + 1) true s.empty i
    | i => wrongKind i

end Shape

/-- Decode a whole text. -/
def ofText {α : Type} (d : Decoder α) (s : String) : Except Fault α := do
  let (a, i) ← d.read maxDepth (Text.piecesOfText s)
  Read.atEnd i
  return a

/-- A field whose value is stored as it is. -/
def field {δ α : Type} (names : List String) (d : Decoder α) (isSet : δ → Bool)
    (put : α → δ → δ) : Field δ :=
  { names, isSet, put := d.map put }

/-- A required field of a draft. -/
def required {α : Type} : Option α → Except Fault α
  | some a => .ok a
  | none => .error .mismatched

end Decoder
end Messenger.Json
