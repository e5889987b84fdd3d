import Messenger.Text.Ascii
import Messenger.Url.Domain

set_option autoImplicit false

/-! # Addresses of version 6

An address has eight groups of up to four hexadecimal digits, separated by colons. A run of zero
groups may be left out once, between two colons, and the last two groups may be written as four
decimal bytes. It is shown with the first of the longest runs of at least two zero groups left
out. -/

namespace Messenger.Url

/-- An address of version 6: eight groups. -/
structure Ipv6 where
  groups : List Nat
deriving DecidableEq, Repr

namespace Ipv6

/-- The groups read so far: those before the gap and, if there was one, those after it. -/
structure Groups where
  front : List Nat := []
  back : Option (List Nat) := none

/-- The number of groups that are taken; a gap takes one at least. -/
def Groups.taken (g : Groups) : Nat :=
  g.front.length + match g.back with
    | none => 0
    | some back => back.length + 1

/-- Add groups. -/
def Groups.add (g : Groups) (ns : List Nat) : Groups :=
  match g.back with
  | none => { g with front := g.front ++ ns }
  | some back => { g with back := some (back ++ ns) }

/-- All eight groups. -/
def Groups.close? (g : Groups) : Option Ipv6 :=
  match g.back with
  | none => if g.front.length = 8 then some ⟨g.front⟩ else none
  | some back =>
    some ⟨g.front ++ List.replicate (8 - g.front.length - back.length) 0 ++ back⟩

/-- At most `n` hexadecimal digits, and what follows them. -/
def digits : Nat → List Char → List Nat × List Char
  | 0, cs => ([], cs)
  | _, [] => ([], [])
  | n + 1, c :: cs => match Text.hexDigit? c with
    | none => ([], c :: cs)
    | some d =>
      let (ds, rest) := digits n cs
      (d :: ds, rest)

theorem length_digits_le (n : Nat) (cs : List Char) : (digits n cs).2.length ≤ cs.length := by
  induction n generalizing cs with
  | zero => exact Nat.le_refl _
  | succ n ih =>
    cases cs with
    | nil => exact Nat.le_refl _
    | cons c cs =>
      unfold digits
      split
      · exact Nat.le_refl _
      · exact Nat.le_succ_of_le (ih cs)

/-- A decimal byte without leading zeros. -/
def byte? (cs : List Char) : Option Nat := do
  let n ← Text.nat? cs
  if (cs.length = 1 || cs.head? ≠ some '0') && n ≤ 255 then some n else none

/-- The two groups of four decimal bytes. -/
def quad? (cs : List Char) : Option (List Nat) := do
  match ← (Domain.labels cs).mapM byte? with
  | [a, b, c, d] => some [a * 256 + b, c * 256 + d]
  | _ => none

/-- Read groups, where a group or the second colon of a gap is expected. -/
def read (g : Groups) (cs : List Char) : Option Groups :=
  match cs with
  | [] => some g
  | ':' :: cs =>
    if g.taken = 8 || g.back.isSome then none else read { g with back := some [] } cs
  | cs =>
    if g.taken = 8 then none
    else match _h : digits 4 cs with
      | (ds, []) => some (g.add [Text.ofDigits 16 ds])
      | (ds, '.' :: _) =>
        if ds.isEmpty || 6 < g.taken then none else (quad? cs).map g.add
      | (ds, ':' :: rest) =>
        if rest.isEmpty then none else read (g.add [Text.ofDigits 16 ds]) rest
      | _ => none
termination_by cs.length
decreasing_by
  · simp
  · have := length_digits_le 4 cs
    rw [_h] at this
    simp only [List.length_cons] at this
    omega

/-- The address that a text is. -/
def parse? (cs : List Char) : Option Ipv6 := do
  let g ← match cs with
    | ':' :: ':' :: cs => read { back := some [] } cs
    | ':' :: _ => none
    | cs => read {} cs
  g.close?

/-- The longest run of zeros from the front. -/
def zerosAhead (gs : List Nat) : Nat := (gs.takeWhile (· == 0)).length

/-- Start and length of the first of the longest runs of zeros in groups that start at a place. -/
def longestZeros (start : Nat) : List Nat → Nat × Nat
  | [] => (start, 0)
  | g :: gs =>
    let here := zerosAhead (g :: gs)
    let later := longestZeros (start + 1) gs
    if later.2 ≤ here then (start, here) else later

/-- Groups in hexadecimal. -/
def groupChars (gs : List Nat) : List Char := [':'].intercalate (gs.map (Nat.toDigits 16))

/-- An address as text. -/
def chars (a : Ipv6) : List Char :=
  let (start, length) := longestZeros 0 a.groups
  if length < 2 then groupChars a.groups
  else groupChars (a.groups.take start) ++ [':', ':']
    ++ groupChars (a.groups.drop (start + length))

end Ipv6
end Messenger.Url
