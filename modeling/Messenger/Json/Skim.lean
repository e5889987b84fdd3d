import Messenger.Json.Read

set_option autoImplicit false

/-! # Passing over a value

A member that a structure does not know is passed over without being built. Passing over checks the
grammar less closely than reading: any nesting depth, any magnitude of a number and any four
hexadecimal digits of an escape are accepted, and a numeral that stops short is broken grammar even
where the text ends. -/

namespace Messenger.Json.Skim

/-- Pass over at least one digit. -/
def someDigits (i : Input) : Except Fault (List Nat × Input) :=
  match Read.digits i with
  | ([], _) => .error .malformed
  | (ds, i) => .ok (ds, i)

/-- Pass over an exponent, if there is one. -/
def exponent (i : Input) : Except Fault Input :=
  if Read.startsExponent i then do
    let i := match i.tail with
      | .char '+' :: i => i
      | .char '-' :: i => i
      | i => i
    return (← someDigits i).2
  else .ok i

/-- Pass over a numeral after its sign. -/
def numeral (i : Input) : Except Fault Input := do
  let (ds, i) ← someDigits i
  match ds with
  | 0 :: _ :: _ => .error .malformed
  | _ => match i with
    | .char '.' :: i => exponent (← someDigits i).2
    | i => exponent i

/-- Pass over the rest of a string after its opening quote. -/
def stringBody : Input → Except Fault Input
  | [] => .error .truncated
  | .stray _ :: i => stringBody i
  | .char '"' :: i => .ok i
  | .char '\\' :: [] => .error .truncated
  | .char '\\' :: .char 'u' :: a :: b :: c :: d :: i =>
    match Read.hexWord a b c d with
    | none => .error .malformed
    | some _ => stringBody i
  | .char '\\' :: .char 'u' :: i => .error (Read.hexFault i)
  | .char '\\' :: .char c :: i =>
    match Read.escape? c with
    | some _ => stringBody i
    | none => .error .malformed
  | .char '\\' :: .stray _ :: _ => .error .malformed
  | .char c :: i => if c.toNat < 0x20 then .error .malformed else stringBody i

mutual

/-- Pass over a value. `fuel` bounds the steps and exceeds twice the length of the input. -/
def value : Nat → Input → Except Fault Input
  | 0, _ => .error .truncated
  | fuel + 1, i =>
    match skipSpace i with
    | [] => .error .truncated
    | .stray _ :: _ => .error .malformed
    | .char 'n' :: i => Read.word ['u', 'l', 'l'] i
    | .char 't' :: i => Read.word ['r', 'u', 'e'] i
    | .char 'f' :: i => Read.word ['a', 'l', 's', 'e'] i
    | .char '"' :: i => stringBody i
    | .char '-' :: i => numeral i
    | .char '[' :: i => match skipSpace i with
      | .char ']' :: i => .ok i
      | [] => .error .truncated
      | i => do moreItems fuel (← value fuel i)
    | .char '{' :: i => match skipSpace i with
      | .char '}' :: i => .ok i
      | i => member fuel i
    | .char c :: i => if c.isDigit then numeral (.char c :: i) else .error .malformed

/-- Pass over the items of an array after one of them. -/
def moreItems : Nat → Input → Except Fault Input
  | 0, _ => .error .truncated
  | fuel + 1, i =>
    match skipSpace i with
    | [] => .error .truncated
    | .char ']' :: i => .ok i
    | .char ',' :: i => do moreItems fuel (← value fuel i)
    | _ => .error .malformed

/-- Pass over a member and the members after it. -/
def member : Nat → Input → Except Fault Input
  | 0, _ => .error .truncated
  | fuel + 1, i =>
    match skipSpace i with
    | [] => .error .truncated
    | .char '"' :: i => do
      let i ← stringBody i
      let i ← value fuel (← Read.colon i)
      match skipSpace i with
      | [] => .error .truncated
      | .char '}' :: i => .ok i
      | .char ',' :: i => member fuel i
      | _ => .error .malformed
    | _ => .error .malformed

end

/-- Pass over the value at the front of an input. -/
def anyValue (i : Input) : Except Fault Input := value (Read.fuelFor i) i

end Messenger.Json.Skim
