import Messenger.Number.Binary64
import Messenger.Text.Ascii

set_option autoImplicit false

/-! # The shortest decimal that reads back

Every number of the binary format has an interval of reals that round to it; its end points belong
to it exactly when the significand is even. The decimal written for a number is the one with the
fewest digits inside this interval, and of those the nearest to the number; of two equally near
ones, the one with the even last digit. All of it is exact arithmetic on natural numbers: for a
given count of digits only the two neighbours of the number on the decimal grid can be hits. -/

namespace Messenger

/-- A positive decimal: the digits of `digits` times ten to the power `exponent`. -/
structure Decimal where
  digits : Nat
  exponent : Int
deriving DecidableEq, Repr

namespace Shortest

/-- A positive number and its rounding interval, in common units: the value is `value / den`, the
interval reaches from `low / den` to `high / den`, ends included iff `closed`. -/
structure Interval where
  value : Nat
  low : Nat
  high : Nat
  den : Nat
  closed : Bool

/-- The interval of the reals that round to `m * 2 ^ q`. Below a power of two the spacing halves,
except at the least exponent. -/
def interval (m : Nat) (q : Int) : Interval :=
  let up := if 0 ≤ q then 1 <<< q.toNat else 1
  let den := if 0 ≤ q then 4 else 4 <<< (-q).toNat
  let below := if m = Binary64.limit / 2 ∧ q ≠ Binary64.minExponent then 1 else 2
  { value := 4 * m * up, low := (4 * m - below) * up, high := (4 * m + 2) * up, den,
    closed := m % 2 = 0 }

/-- Whether `num / den` lies in the interval. -/
def Interval.contains (i : Interval) (num den : Nat) : Bool :=
  let x := num * i.den
  if i.closed then i.low * den ≤ x && x ≤ i.high * den else i.low * den < x && x < i.high * den

/-- The grid of multiples of `10 ^ e`: of the two neighbours of the value, the nearest hit. -/
def hit? (i : Interval) (e : Int) : Option Decimal :=
  let up := if 0 ≤ e then Nat.pow 10 e.toNat else 1
  let down := if 0 ≤ e then 1 else Nat.pow 10 (-e).toNat
  let n := i.value * down
  let d := i.den * up
  let k := n / d
  let lower := k != 0 && i.contains (k * up) down
  let upper := i.contains ((k + 1) * up) down
  let upperNearer := match compare (2 * (n % d)) d with
    | .lt => false
    | .gt => true
    | .eq => k % 2 == 1
  if lower then some ⟨if upper && upperNearer then k + 1 else k, e⟩
  else if upper then some ⟨k + 1, e⟩
  else none

/-- The coarsest grid with a hit, from `10 ^ e` down, in at most `steps` steps. -/
def search (i : Interval) : Nat → Int → Option Decimal
  | 0, _ => none
  | steps + 1, e => match hit? i e with
    | some d => some d
    | none => search i steps (e - 1)

/-- A power of ten that is greater than the positive number `m * 2 ^ q`. -/
def topExponent (m : Nat) (q : Int) : Int := ((m.log2 : Int) + q + 1) * 30103 / 100000 + 2

/-- Strip the zeros at the end of the digits. -/
def normalize : Nat → Decimal → Decimal
  | 0, d => d
  | steps + 1, d => if d.digits % 10 = 0 ∧ d.digits ≠ 0
      then normalize steps ⟨d.digits / 10, d.exponent + 1⟩ else d

end Shortest

/-- The shortest decimal that reads back as the absolute value of a number other than zero. -/
def Binary64.shortest (x : Binary64) : Decimal :=
  let i := Shortest.interval x.significand x.exponent
  let top := Shortest.topExponent x.significand x.exponent
  (Shortest.search i 24 top).elim ⟨0, 0⟩ (Shortest.normalize 24)

end Messenger
