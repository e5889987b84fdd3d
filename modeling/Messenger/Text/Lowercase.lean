import Messenger.Text.CaseTable
import Messenger.Text.Table

set_option autoImplicit false

/-! # Lower case

The full lower-case mapping of Unicode, without regard to language. It maps characters one by one,
with two exceptions: the capital I with a dot becomes two characters, and a capital sigma at the
end of a word becomes the final sigma. Whether a sigma ends a word is seen from the nearest
characters on both sides that are not case-ignorable. -/

namespace Messenger.Text

/-- The property `Cased`. -/
def isCased (c : Char) : Bool := Table.contains casedRanges c

/-- The property `Case_Ignorable`. -/
def isCaseIgnorable (c : Char) : Bool := Table.contains caseIgnorableRanges c

/-- Whether a run holds a character. -/
def LowercaseRun.contains (r : LowercaseRun) (c : Char) : Bool :=
  r.first ≤ c.toNat && c.toNat ≤ r.last && (c.toNat - r.first) % r.step == 0

/-- The lower case of a character on its own. -/
def lowercaseChar (c : Char) : List Char :=
  if c.toNat < 0x80 then [c.toLower]
  else if c = 'İ' then ['i', '\u0307']
  else match lowercaseRuns.find? (·.contains c) with
    | some r => [Char.ofNat ((c.toNat : Int) + r.offset).toNat]
    | none => [c]

/-- Whether the first character that is not case-ignorable is cased. -/
def meetsCased (cs : List Char) : Bool :=
  match cs.dropWhile isCaseIgnorable with
  | [] => false
  | c :: _ => isCased c

/-- The lower case of the characters after `before`, which is given in reverse. -/
def lowercaseFrom (before : List Char) : List Char → List Char
  | [] => []
  | c :: cs =>
    (if c = 'Σ' then [if meetsCased before && !meetsCased cs then 'ς' else 'σ']
      else lowercaseChar c)
    ++ lowercaseFrom (c :: before) cs

/-- The lower case of a text. -/
def lowercase (s : String) : String := String.ofList (lowercaseFrom [] s.toList)

end Messenger.Text
