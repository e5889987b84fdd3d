import Messenger.Json.Value
import Messenger.Number.Shortest
import Messenger.Text.Ascii

set_option autoImplicit false

/-! # Writing JSON

Two layouts: the compact one has no blank outside strings, the indented one puts every item and
member on a line of its own. Both write the members of an object in the order in which the value
lists them. A string escapes the quote, the backslash and the control characters, and nothing else;
a floating-point number always shows that it is one. -/

namespace Messenger.Json

/-- How a floating-point number is laid out. -/
structure FloatLayout where
  /-- The least exponent of the leading digit that is written positionally. -/
  minPositional : Int
  /-- The greatest exponent of the leading digit that is written positionally. -/
  maxPositional : Int
  /-- The mark before the exponent. -/
  mark : Char
  /-- Whether an exponent that is not negative carries a plus sign. -/
  plus : Bool

/-- Positional from `1e-5` to below `1e16`, otherwise `1.25e-7` and `1e+16`. -/
def floatLayout : FloatLayout := ⟨-5, 15, 'e', true⟩

/-- The digits with a point after the first `whole` of them. -/
def pointAfter (digits : List Char) (whole : Nat) : List Char :=
  let fraction := digits.drop whole
  digits.take whole ++ '.' :: (if fraction.isEmpty then ['0'] else fraction)

/-- A positive decimal in a layout. -/
def FloatLayout.decimal (l : FloatLayout) (d : Decimal) : List Char :=
  let digits := Text.decimalDigits d.digits
  let leading : Int := d.exponent + digits.length - 1
  if l.minPositional ≤ leading ∧ leading ≤ l.maxPositional then
    if leading < 0 then '0' :: '.' :: (List.replicate (-leading - 1).toNat '0' ++ digits)
    else pointAfter (digits ++ List.replicate d.exponent.toNat '0') (leading.toNat + 1)
  else
    (match digits with
      | [] => []
      | [c] => [c]
      | c :: cs => c :: '.' :: cs)
    ++ l.mark :: ((if l.plus ∧ 0 ≤ leading then ['+'] else []) ++ Text.decimal leading)

/-- A floating-point number: its sign and its shortest decimal. -/
def floatChars (x : Binary64) : List Char :=
  (if x.negative then ['-'] else [])
  ++ (if x.isZero then ['0', '.', '0'] else floatLayout.decimal x.shortest)

/-- A character inside a string. -/
def escapeChar (c : Char) : List Char :=
  if c = '"' then ['\\', '"']
  else if c = '\\' then ['\\', '\\']
  else if c = '\n' then ['\\', 'n']
  else if c = '\r' then ['\\', 'r']
  else if c = '\t' then ['\\', 't']
  else if c = '\x08' then ['\\', 'b']
  else if c = '\x0c' then ['\\', 'f']
  else if c.toNat < 0x20 then
    ['\\', 'u', '0', '0', Text.hexDigit (c.toNat / 16), Text.hexDigit (c.toNat % 16)]
  else [c]

/-- A string in quotes. -/
def stringChars (s : String) : List Char := '"' :: (s.toList.flatMap escapeChar ++ ['"'])

namespace Value

mutual

/-- The compact layout. -/
def chars : Value → List Char
  | .null => ['n', 'u', 'l', 'l']
  | .bool true => ['t', 'r', 'u', 'e']
  | .bool false => ['f', 'a', 'l', 's', 'e']
  | .int n => Text.decimal n
  | .float x => floatChars x
  | .str s => stringChars s
  | .arr [] => ['[', ']']
  | .arr (v :: vs) => '[' :: (chars v ++ itemChars vs)
  | .obj [] => ['{', '}']
  | .obj ((k, v) :: ms) => '{' :: (stringChars k ++ ':' :: (chars v ++ memberChars ms))

/-- The items after the first, and the closing bracket. -/
def itemChars : List Value → List Char
  | [] => [']']
  | v :: vs => ',' :: (chars v ++ itemChars vs)

/-- The members after the first, and the closing brace. -/
def memberChars : Members → List Char
  | [] => ['}']
  | (k, v) :: ms => ',' :: (stringChars k ++ ':' :: (chars v ++ memberChars ms))

end

/-- The compact text of a value. -/
def compact (v : Value) : String := String.ofList v.chars

/-- A line break and the indentation of a level: two spaces each. -/
def newline (level : Nat) : List Char := '\n' :: List.replicate (2 * level) ' '

mutual

/-- The indented layout of a value that starts at an indentation level. -/
def indentedChars (level : Nat) : Value → List Char
  | .null => ['n', 'u', 'l', 'l']
  | .bool true => ['t', 'r', 'u', 'e']
  | .bool false => ['f', 'a', 'l', 's', 'e']
  | .int n => Text.decimal n
  | .float x => floatChars x
  | .str s => stringChars s
  | .arr [] => ['[', ']']
  | .arr (v :: vs) => '[' :: (newline (level + 1) ++ indentedChars (level + 1) v
      ++ indentedItems level vs)
  | .obj [] => ['{', '}']
  | .obj ((k, v) :: ms) => '{' :: (newline (level + 1) ++ stringChars k ++ ':' :: ' '
      :: (indentedChars (level + 1) v ++ indentedMembers level ms))

/-- The items after the first of an array at a level, and its closing bracket. -/
def indentedItems (level : Nat) : List Value → List Char
  | [] => newline level ++ [']']
  | v :: vs => ',' :: (newline (level + 1) ++ indentedChars (level + 1) v
      ++ indentedItems level vs)

/-- The members after the first of an object at a level, and its closing brace. -/
def indentedMembers (level : Nat) : Members → List Char
  | [] => newline level ++ ['}']
  | (k, v) :: ms => ',' :: (newline (level + 1) ++ stringChars k ++ ':' :: ' '
      :: (indentedChars (level + 1) v ++ indentedMembers level ms))

end

/-- The indented text of a value. -/
def indented (v : Value) : String := String.ofList (v.indentedChars 0)

end Value
end Messenger.Json
