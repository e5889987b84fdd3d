import Messenger.Text.Ascii
import Messenger.Text.Utf8

set_option autoImplicit false

/-! # Percent-encoding

A byte that a place of a text does not admit is written as a percent sign and two upper-case
hexadecimal digits. Which bytes are admitted depends on the place; everything outside ASCII is
encoded everywhere, through its UTF-8 bytes. -/

namespace Messenger.Text.Percent

/-- A byte as a percent sign and two digits. -/
def escape (b : UInt8) : List Char :=
  ['%', hexDigitUpper (b.toNat / 16), hexDigitUpper (b.toNat % 16)]

/-- A byte, escaped unless admitted. -/
def encodeByte (admitted : Char → Bool) (b : UInt8) : List Char :=
  let c := Char.ofNat b.toNat
  if b < 0x80 && admitted c then [c] else escape b

/-- A byte string. -/
def encode (admitted : Char → Bool) (bytes : List UInt8) : List Char :=
  bytes.flatMap (encodeByte admitted)

/-- A list of characters, through its UTF-8 bytes. -/
def encodeChars (admitted : Char → Bool) (cs : List Char) : List Char :=
  encode admitted (cs.flatMap utf8Char)

/-- The bytes of a text, with every percent sign that two hexadecimal digits follow decoded. -/
def decode : List UInt8 → List UInt8
  | [] => []
  | b :: h :: l :: bytes =>
    if b = 0x25 then
      match hexDigit? (Char.ofNat h.toNat), hexDigit? (Char.ofNat l.toNat) with
      | some x, some y => UInt8.ofNat (16 * x + y) :: decode bytes
      | _, _ => b :: decode (h :: l :: bytes)
    else b :: decode (h :: l :: bytes)
  | b :: bytes => b :: decode bytes

/-- What a file name admits: letters, digits and four marks. -/
def admittedInName (c : Char) : Bool :=
  c.isAlphanum || c == '*' || c == '-' || c == '.' || c == '_'

end Messenger.Text.Percent
