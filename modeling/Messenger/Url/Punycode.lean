set_option autoImplicit false

/-! # Punycode

A label of a domain name that is not ASCII travels as ASCII: its ASCII characters come first, then
the others, in ascending order, as a list of numbers. Each number says how many steps lie between
one insertion and the next, where a step moves on by one place in the label and, past its end, to
the next code point. The numbers have digits in base 36, the lowest first, and every digit below
its *threshold* is the last one of its number; the thresholds follow the size of the numbers before,
through a *bias*. -/

namespace Messenger.Url.Punycode

/-- The digits, in ascending order of their values. -/
def digits : List Char := "abcdefghijklmnopqrstuvwxyz0123456789".toList

/-- A digit. -/
def digit (n : Nat) : Char := digits.getD n 'a'

/-- The value of a digit, of either case. -/
def value? (c : Char) : Option Nat := digits.idxOf? c.toLower

/-- The threshold of the digit at a place; places count in steps of 36. -/
def threshold (place bias : Nat) : Nat := max 1 (min 26 (place - bias))

theorem threshold_pos (place bias : Nat) : 1 ≤ threshold place bias := Nat.le_max_left _ _

/-- Scale a number down until it is small, and count the steps. -/
def scaleDown (n steps : Nat) : Nat × Nat :=
  if h : 455 < n then scaleDown (n / 35) (steps + 1) else (n, steps)
termination_by n
decreasing_by exact Nat.div_lt_self (by omega) (by decide)

/-- The bias after a number, in a label of `length` characters. -/
def adapt (number length : Nat) (first : Bool) : Nat :=
  let scaled := if first then number / 700 else number / 2
  let (n, steps) := scaleDown (scaled + scaled / length) 0
  36 * steps + 36 * n / (n + 38)

/-- The bias before the first number. -/
def initialBias : Nat := 72

/-- The first code point that is not ASCII. -/
def firstCode : Nat := 0x80

/-! ## Writing -/

/-- The digits of a number, from a place on. -/
def numberDigits (bias place n : Nat) : List Char :=
  let t := threshold place bias
  if h : n < t then [digit n]
  else digit (t + (n - t) % (36 - t)) :: numberDigits bias (place + 36) ((n - t) / (36 - t))
termination_by n
decreasing_by
  have h1 := threshold_pos place bias
  have h2 : (n - threshold place bias) / (36 - threshold place bias)
      ≤ n - threshold place bias := Nat.div_le_self _ _
  omega

/-- What is known while the numbers of a label are written. -/
structure Writer where
  /-- The steps since the last insertion. -/
  steps : Nat
  bias : Nat
  /-- How many characters are inserted already. -/
  length : Nat
  /-- How many of them are ASCII. -/
  ascii : Nat

/-- Pass the characters of a label on the way of one code point. -/
def writeRound (code : Nat) : List Char → Writer → List Char × Writer
  | [], w => ([], w)
  | c :: cs, w =>
    if c.toNat < code then writeRound code cs { w with steps := w.steps + 1 }
    else if c.toNat = code then
      let out := numberDigits w.bias 36 w.steps
      let (more, w) := writeRound code cs { w with
        steps := 0
        bias := adapt w.steps (w.length + 1) (w.length == w.ascii)
        length := w.length + 1 }
      (out ++ more, w)
    else writeRound code cs w

/-- Write the numbers of the given code points, the first of which are below `next`. -/
def writeRounds (label : List Char) : List Nat → (next : Nat) → Writer → List Char
  | [], _, _ => []
  | code :: codes, next, w =>
    let (out, w) := writeRound code label
      { w with steps := w.steps + (code - next) * (w.length + 1) }
    out ++ writeRounds label codes (code + 1) { w with steps := w.steps + 1 }

/-- Whether a character is ASCII. -/
def isAscii (c : Char) : Bool := c.toNat < firstCode

/-- A label as ASCII, without the mark that it is encoded. -/
def encode (label : List Char) : List Char :=
  let basic := label.filter isAscii
  let codes := (((label.filter fun c => !isAscii c).map Char.toNat).mergeSort (· ≤ ·)).eraseDups
  basic ++ (if basic.isEmpty then [] else ['-'])
    ++ writeRounds label codes firstCode ⟨0, initialBias, basic.length, basic.length⟩

/-! ## Reading -/

/-- What is known while a label is read. -/
structure Reader where
  /-- The characters so far. -/
  label : List Char
  /-- The place of the next insertion, if it took no step. -/
  place : Nat
  code : Nat
  bias : Nat

/-- Insert the character that is a number of steps away, if that is a character. -/
def Reader.insert? (r : Reader) (number : Nat) : Option Reader :=
  let length := r.label.length + 1
  let reached := r.place + number
  let code := r.code + reached / length
  let place := reached % length
  if h : code.isValidChar then
    some {
      label := r.label.take place ++ Char.ofNatAux code h :: r.label.drop place
      place := place + 1
      code := code
      bias := adapt number length (r.place == 0) }
  else none

/-- A number of which some digits are read: its value so far, the weight of the next digit, and the
place of that digit. -/
structure Partial where
  value : Nat := 0
  weight : Nat := 1
  place : Nat := 36

/-- Read digits. They must not end inside a number. -/
def read (r : Reader) (p : Partial) : List Char → Option Reader
  | [] => if p.place = 36 then some r else none
  | c :: cs => do
    let d ← value? c
    let t := threshold p.place r.bias
    let value := p.value + d * p.weight
    if d < t then read (← r.insert? value) {} cs
    else read r ⟨value, p.weight * (36 - t), p.place + 36⟩ cs

/-- The parts of an encoded label before and after its last hyphen. -/
def split (cs : List Char) : List Char × List Char :=
  if cs.contains '-' && (cs.reverse.dropWhile (· != '-')).length != 1 then
    ((cs.reverse.dropWhile (· != '-')).drop 1 |>.reverse,
      (cs.reverse.takeWhile (· != '-')).reverse)
  else ([], cs)

/-- The label that an ASCII text encodes. -/
def decode? (cs : List Char) : Option (List Char) := do
  let (basic, numbers) := split cs
  let r ← read ⟨basic, 0, firstCode, initialBias⟩ {} numbers
  return r.label

end Messenger.Url.Punycode
