set_option autoImplicit false

/-! # ASCII letters and decimal numbers

Field names of the event stream, scheme names and hosts are compared without regard to the case of
ASCII letters only; numbers in environment variables and command lines are written with ASCII
digits only. Neither depends on Unicode, and both are exact for any text. -/

namespace Messenger.Text

/-- Equality up to the case of ASCII letters. -/
def eqIgnoreCase (a b : List Char) : Bool := a.map Char.toLower == b.map Char.toLower

/-- The value of a decimal digit. -/
def digit? (c : Char) : Option Nat := if c.isDigit then some (c.toNat - '0'.toNat) else none

/-- The value of a hexadecimal digit of either case. -/
def hexDigit? (c : Char) : Option Nat :=
  if c.isDigit then some (c.toNat - '0'.toNat)
  else if 'a' ≤ c && c ≤ 'f' then some (c.toNat - 'a'.toNat + 10)
  else if 'A' ≤ c && c ≤ 'F' then some (c.toNat - 'A'.toNat + 10)
  else none

/-- The number written by a list of digits in base `base`, most significant first. -/
def ofDigits (base : Nat) (ds : List Nat) : Nat := ds.foldl (fun n d => n * base + d) 0

/-- The number that a non-empty list of decimal digits writes. -/
def nat? (cs : List Char) : Option Nat :=
  if cs.isEmpty then none else (cs.mapM digit?).map (ofDigits 10)

/-- An optional plus sign, then decimal digits. -/
def unsigned? : List Char → Option Nat
  | '+' :: cs => nat? cs
  | cs => nat? cs

/-- An optional sign, then decimal digits. -/
def signed? : List Char → Option Int
  | '+' :: cs => (nat? cs).map Int.ofNat
  | '-' :: cs => (nat? cs).map fun n => -(n : Int)
  | cs => (nat? cs).map Int.ofNat

/-- The digit of `n < 16` in lower-case hexadecimal. -/
def hexDigit (n : Nat) : Char :=
  if n < 10 then Char.ofNat ('0'.toNat + n) else Char.ofNat ('a'.toNat + (n - 10))

/-- The digit of `n < 16` in upper-case hexadecimal. -/
def hexDigitUpper (n : Nat) : Char :=
  if n < 10 then Char.ofNat ('0'.toNat + n) else Char.ofNat ('A'.toNat + (n - 10))

/-- The digits of a number in base 10, most significant first. -/
def decimalDigits (n : Nat) : List Char := (Nat.toDigits 10 n)

/-- The decimal writing of an integer. -/
def decimal : Int → List Char
  | .ofNat n => decimalDigits n
  | .negSucc n => '-' :: decimalDigits (n + 1)

end Messenger.Text
