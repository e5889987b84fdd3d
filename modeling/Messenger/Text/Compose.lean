import Messenger.Text.ComposeTable
import Messenger.Text.Table

set_option autoImplicit false

/-! # Composed characters

One text can be written in several ways that mean the same: an accent can be part of its letter or
follow it. The *composed form* is the one in which equal texts agree: everything is taken apart,
the marks after each letter are put into the order of their classes, and what can be put together is
put together again. A mark is kept from its letter by an uncomposed mark of the same or a higher
class between them.

Characters that stand alone but are equal to others are not taken apart here: in domain names, where
this form is used, they are replaced before. -/

namespace Messenger.Text.Compose

/-! ## Tables -/

/-- A composed character and its two parts. -/
structure Composition where
  base : Nat
  mark : Nat
  whole : Nat

/-- The composition that an entry of the table states. -/
def composition? (entry : String) : Option Composition := do
  let (parts, whole) ← Table.cutAt? ">" entry
  let (base, mark) ← Table.cutAt? "." parts
  return ⟨Table.number base, Table.number mark, Table.number whole⟩

/-- The compositions other than those of Hangul. -/
def compositions : List Composition := (Table.entries compositionText).filterMap composition?

/-- The combining classes. -/
def combiningClasses : List ((Nat × Nat) × Nat) := Table.numbered combiningText

/-- The first character that combines with one before it. -/
def firstMark : Nat := 0x300

/-- The combining class of a character; zero if it does not combine. -/
def combiningClass (c : Char) : Nat :=
  if c.toNat < firstMark then 0 else Table.numberOf combiningClasses c

/-! ## Hangul -/

/-- The syllables of Hangul are numbered: 19 leading consonants, times 21 vowels, times 28 trailing
consonants, of which the first is none. -/
def hangulParts? (c : Char) : Option (List Char) :=
  let s := c.toNat - 0xAC00
  if 0xAC00 ≤ c.toNat && s < 19 * 21 * 28 then
    let l := Char.ofNat (0x1100 + s / 588)
    let v := Char.ofNat (0x1161 + s % 588 / 28)
    some (if s % 28 = 0 then [l, v] else [l, v, Char.ofNat (0x11A7 + s % 28)])
  else none

/-- The syllable of two letters, or of an open syllable and a trailing consonant. -/
def hangulWhole? (a b : Char) : Option Char :=
  let l := a.toNat - 0x1100
  let v := b.toNat - 0x1161
  let s := a.toNat - 0xAC00
  let t := b.toNat - 0x11A7
  if 0x1100 ≤ a.toNat && l < 19 && 0x1161 ≤ b.toNat && v < 21 then
    some (Char.ofNat (0xAC00 + (l * 21 + v) * 28))
  else if 0xAC00 ≤ a.toNat && s < 19 * 21 * 28 && s % 28 = 0 && 0x11A8 ≤ b.toNat && t < 28 then
    some (Char.ofNat (a.toNat + t))
  else none

/-! ## Taking apart -/

/-- The greatest number of times that one character is taken apart. -/
def depth : Nat := 4

/-- The parts of a character that are not composed themselves. -/
def partsWithin : Nat → Char → List Char
  | 0, c => [c]
  | n + 1, c =>
    if c.toNat < 0xC0 then [c]
    else match hangulParts? c with
      | some cs => cs
      | none => match compositions.find? fun e => e.whole = c.toNat with
        | some e => partsWithin n (Char.ofNat e.base) ++ [Char.ofNat e.mark]
        | none => [c]

/-- Insert a mark, the last so far, before the marks of higher classes. `marks` is in reverse. -/
def insertMark (c : Char) : List Char → List Char
  | [] => [c]
  | m :: ms => if combiningClass c < combiningClass m then m :: insertMark c ms else c :: m :: ms

/-- Put the marks after each letter in order; `marks` are the last ones, in reverse. -/
def reorder (marks : List Char) : List Char → List Char
  | [] => marks.reverse
  | c :: cs =>
    if combiningClass c = 0 then marks.reverse ++ c :: reorder [] cs
    else reorder (insertMark c marks) cs

/-- A text with everything taken apart. -/
def decompose (cs : List Char) : List Char := reorder [] (cs.flatMap (partsWithin depth))

/-! ## Putting together -/

/-- The character that two make. -/
def whole? (a b : Char) : Option Char :=
  match hangulWhole? a b with
  | some c => some c
  | none => (compositions.find? fun e => e.base = a.toNat && e.mark = b.toNat).map
      fun e => Char.ofNat e.whole

/-- A letter that may still grow, and the marks after it that stay, in reverse. -/
structure Open where
  letter : Char
  marks : List Char

/-- The class that keeps a further mark from the letter: that of the last mark that stays. -/
def Open.barrier (o : Open) : Nat :=
  match o.marks with
  | [] => 0
  | m :: _ => combiningClass m

/-- The letter with a further character, if they make one. -/
def Open.grow? (o : Open) (c : Char) : Option Open :=
  if firstMark ≤ c.toNat && (o.marks.isEmpty || o.barrier < combiningClass c) then
    (whole? o.letter c).map fun w => { o with letter := w }
  else none

/-- The characters of a letter and its marks. -/
def Open.close (o : Open) : List Char := o.letter :: o.marks.reverse

/-- Put together what follows an open letter. -/
def recompose (o : Open) : List Char → List Char
  | [] => o.close
  | c :: cs => match o.grow? c with
    | some o => recompose o cs
    | none =>
      if combiningClass c = 0 then o.close ++ recompose ⟨c, []⟩ cs
      else recompose { o with marks := c :: o.marks } cs

/-- Put together what follows the marks without a letter at the beginning of a text. -/
def recomposeAll : List Char → List Char
  | [] => []
  | c :: cs =>
    if combiningClass c = 0 then recompose ⟨c, []⟩ cs else c :: recomposeAll cs

end Compose

/-- The composed form of a text. -/
def compose (cs : List Char) : List Char := Compose.recomposeAll (Compose.decompose cs)

end Messenger.Text
