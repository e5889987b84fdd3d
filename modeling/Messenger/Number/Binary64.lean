set_option autoImplicit false

/-! # Finite binary floating-point numbers

A number of the 64-bit binary format is a sign, a significand below `2 ^ 53` and an exponent of
two. Arithmetic on it is exact arithmetic on quotients of natural numbers followed by one rounding
to the nearest representable value, ties to the even significand; a result too large to represent
is no number. There is no infinity and no NaN: the texts this library reads cannot write them. -/

namespace Messenger

/-- The value `± significand * 2 ^ exponent`. In canonical form the significand is below `2 ^ 53`,
the exponent lies between `-1074` and `971`, and a significand below `2 ^ 52` has the least
exponent. -/
structure Binary64 where
  /-- Whether the number carries a minus sign; zero may. -/
  negative : Bool
  significand : Nat
  exponent : Int
deriving DecidableEq, Repr

namespace Binary64

/-- Every significand is below `2 ^ 53`. -/
def limit : Nat := 0x20000000000000

/-- The least exponent of the format. -/
def minExponent : Int := -1074

/-- The greatest exponent of the format. -/
def maxExponent : Int := 971

/-- The number zero, with a sign. -/
def zero (negative : Bool) : Binary64 := ⟨negative, 0, minExponent⟩

/-- Whether the number is zero of either sign. -/
def isZero (x : Binary64) : Bool := x.significand == 0

/-- The greatest integer `k` with `2 ^ k ≤ num / den`, for positive arguments. -/
def floorLog2 (num den : Nat) : Int :=
  let k : Int := (num.log2 : Int) - (den.log2 : Int)
  let reaches := if 0 ≤ k then den <<< k.toNat ≤ num else den ≤ num <<< (-k).toNat
  if reaches then k else k - 1

/-- The quotient `num / den` in units of `2 ^ exponent`: its integer part, and how the rest
compares with one half. -/
def scaledQuotient (num den : Nat) (exponent : Int) : Nat × Ordering :=
  let n := if 0 ≤ exponent then num else num <<< (-exponent).toNat
  let d := if 0 ≤ exponent then den <<< exponent.toNat else den
  (n / d, compare (2 * (n % d)) d)

/-- The nearest number to `± num / den`, ties to the even significand; nothing when it is too large
to represent. The denominator is positive. -/
def ofQuotient? (negative : Bool) (num den : Nat) : Option Binary64 :=
  if num = 0 then some (zero negative)
  else
    let exponent := max (floorLog2 num den - 52) minExponent
    let (q, rest) := scaledQuotient num den exponent
    let q := match rest with
      | .lt => q
      | .gt => q + 1
      | .eq => if q % 2 = 0 then q else q + 1
    let (q, exponent) := if q = limit then (limit / 2, exponent + 1) else (q, exponent)
    if exponent ≤ maxExponent then some ⟨negative, q, exponent⟩ else none

/-- The absolute value as a numerator and a denominator. -/
def quotient (x : Binary64) : Nat × Nat :=
  if 0 ≤ x.exponent then (x.significand <<< x.exponent.toNat, 1)
  else (x.significand, 1 <<< (-x.exponent).toNat)

/-- The rounded product. -/
def mul? (x y : Binary64) : Option Binary64 :=
  let (a, b) := x.quotient
  let (c, d) := y.quotient
  ofQuotient? (x.negative != y.negative) (a * c) (b * d)

/-- The rounded quotient, for a divisor that is not zero. -/
def div? (x y : Binary64) : Option Binary64 :=
  let (a, b) := x.quotient
  let (c, d) := y.quotient
  ofQuotient? (x.negative != y.negative) (a * d) (b * c)

end Binary64
end Messenger
