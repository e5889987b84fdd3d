import Messenger.Text.Ascii

set_option autoImplicit false

/-! # Tables of characters

Data of the Unicode character database is kept as text: entries with a blank between them, each a
character or a range of characters, with what is known of them after a mark. Code points are written
in hexadecimal. -/

namespace Messenger.Text.Table

/-- The entries of a table. -/
def entries (lines : List String) : List String := lines.flatMap (·.splitOn " ")

/-- The number that hexadecimal digits write. -/
def number (s : String) : Nat := ofDigits 16 (s.toList.filterMap hexDigit?)

/-- The two sides of a mark in an entry, if it has the mark. -/
def cutAt? (mark : String) (entry : String) : Option (String × String) :=
  match entry.splitOn mark with
  | [left, right] => some (left, right)
  | _ => none

/-- The first and the last of a range. -/
def range (entry : String) : Nat × Nat :=
  match cutAt? "-" entry with
  | some (first, last) => (number first, number last)
  | none => (number entry, number entry)

/-- A table of ranges. -/
def ranges (lines : List String) : List (Nat × Nat) := (entries lines).map range

/-- Whether a character lies in one of some ranges. -/
def contains (ranges : List (Nat × Nat)) (c : Char) : Bool :=
  ranges.any fun r => r.1 ≤ c.toNat && c.toNat ≤ r.2

/-- A table that gives each of its ranges a number. -/
def numbered (lines : List String) : List ((Nat × Nat) × Nat) :=
  (entries lines).filterMap fun e => (cutAt? "=" e).map fun (r, n) => (range r, number n)

/-- The number of a character, zero if none of the ranges has it. -/
def numberOf (table : List ((Nat × Nat) × Nat)) (c : Char) : Nat :=
  match table.find? fun e => e.1.1 ≤ c.toNat && c.toNat ≤ e.1.2 with
  | some e => e.2
  | none => 0

/-- Characters separated by points. -/
def sequence (s : String) : List Nat := (s.splitOn ".").map number

end Messenger.Text.Table
