import Messenger.Number.Binary64

set_option autoImplicit false

/-! # Reading a decimal numeral as a scaled word

A numeral with a point, an exponent or too many digits is read in two steps. Its digits are first
gathered into one 64-bit word: digits that no longer fit are dropped, and each one dropped before
the point counts as a factor of ten. The word is then rounded to a binary number and multiplied or
divided by one power of ten, with a second rounding; only exponents beyond 308 take several
divisions. Numerals of up to 15 digits and small exponents are read exactly as the nearest number. -/

namespace Messenger.Scaled

/-- The greatest word. -/
def wordMax : Nat := 0xFFFFFFFFFFFFFFFF

/-- Append digits to a word for as long as they fit, and give the digits left over. -/
def gather : Nat → List Nat → Nat × List Nat
  | w, [] => (w, [])
  | w, d :: ds => if w * 10 + d ≤ wordMax then gather (w * 10 + d) ds else (w, d :: ds)

/-- Divide by ten to the power `e`. Beyond 308 the division is done in steps of `10 ^ 308`, and a
number that has become zero stays zero. -/
def divideByTen (x : Binary64) (e : Nat) : Option Binary64 :=
  if e ≤ 308 then do x.div? (← Binary64.ofQuotient? false (Nat.pow 10 e) 1)
  else if x.isZero then some x
  else do divideByTen (← x.div? (← Binary64.ofQuotient? false (Nat.pow 10 308) 1)) (e - 308)
termination_by e

/-- Multiply by ten to the power `e`; a number other than zero is out of range beyond 308. -/
def multiplyByTen (x : Binary64) (e : Nat) : Option Binary64 :=
  if e ≤ 308 then do x.mul? (← Binary64.ofQuotient? false (Nat.pow 10 e) 1)
  else if x.isZero then some x
  else none

/-- The number `± word * 10 ^ exponent`, rounded as described above; nothing when out of range. -/
def toBinary? (negative : Bool) (word : Nat) (exponent : Int) : Option Binary64 := do
  let x ← Binary64.ofQuotient? negative word 1
  if 0 ≤ exponent then multiplyByTen x exponent.toNat else divideByTen x (-exponent).toNat

/-- The numeral with the digits `whole` before and `fraction` after the point, times ten to the
power `exponent`. -/
def ofNumeral? (negative : Bool) (whole fraction : List Nat) (exponent : Int) : Option Binary64 :=
  let (w, dropped) := gather 0 whole
  let (w', rest) := gather w fraction
  toBinary? negative w' (exponent + dropped.length - ((fraction.length : Int) - rest.length))

end Messenger.Scaled
