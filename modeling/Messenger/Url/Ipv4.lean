import Messenger.Text.Ascii
import Messenger.Url.Domain

set_option autoImplicit false

/-! # Addresses of version 4

A host that ends in a number must be an address. An address has up to four parts separated by
points, each in decimal, octal (after `0`) or hexadecimal (after `0x`); the last part fills all
the bytes that the parts before it leave. It is always shown as four decimal bytes. -/

namespace Messenger.Url

/-- An address of version 4. -/
structure Ipv4 where
  bits : UInt32
deriving DecidableEq, Repr

namespace Ipv4

/-- The digits of a part, and their base. -/
def baseOf : List Char → Nat × List Char
  | '0' :: 'x' :: cs => (16, cs)
  | '0' :: 'X' :: cs => (16, cs)
  | '0' :: c :: cs => (8, c :: cs)
  | cs => (10, cs)

/-- The number that a part writes. After `0x` no digits are needed. -/
def part? (cs : List Char) : Option Nat :=
  if cs.isEmpty then none
  else
    let (base, digits) := baseOf cs
    (digits.mapM fun c => (Text.hexDigit? c).filter (· < base)).map (Text.ofDigits base)

/-- The parts of a host, without an empty one at the end. -/
def parts (cs : List Char) : List (List Char) :=
  let ls := Domain.labels cs
  if 1 < ls.length && ls.getLast? == some [] then ls.dropLast else ls

/-- Whether a host must be an address. -/
def endsInNumber (cs : List Char) : Bool :=
  match (parts cs).getLast? with
  | none => false
  | some part => (!part.isEmpty && part.all Char.isDigit) || (part? part).isSome

/-- The address of parts: each but the last is one byte from the front, and the last one must fit
into the bytes that are left. -/
def assemble? (numbers : List Nat) : Option Ipv4 :=
  match numbers.reverse with
  | [] => none
  | last :: front =>
    if 3 < front.length then none
    else if 1 <<< (8 * (4 - front.length)) ≤ last then none
    else if front.any (255 < ·) then none
    else
      let high := Text.ofDigits 256 front.reverse <<< (8 * (4 - front.length))
      some ⟨UInt32.ofNat (high + last)⟩

/-- The address that a host is. -/
def parse? (cs : List Char) : Option Ipv4 := do assemble? (← (parts cs).mapM part?)

/-- The four bytes of an address. -/
def bytes (a : Ipv4) : List Nat :=
  let n := a.bits.toNat
  [n >>> 24, n >>> 16 % 256, n >>> 8 % 256, n % 256]

/-- An address as text. -/
def chars (a : Ipv4) : List Char :=
  ['.'].intercalate (a.bytes.map Text.decimalDigits)

end Ipv4
end Messenger.Url
