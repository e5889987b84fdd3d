import Messenger.Text.Compose
import Messenger.Url.LabelTable
import Messenger.Url.MappingTable
import Messenger.Url.Punycode

set_option autoImplicit false

/-! # Domain names

A domain name is compared and sent as ASCII. Its characters are first replaced by those they stand
for (capitals by small letters, wide forms by plain ones), and brought into composed form; then
every label that is not ASCII is encoded. A label that is encoded already is decoded to be checked:
a name is refused when one of its labels could not be read aloud, that is, when a label begins with
a mark, holds a character that no name may hold or a joiner without effect, or mixes directions of
writing. No length is too great, and labels may be empty. -/

namespace Messenger.Url.Domain

open Text (Table.contains)

/-! ## Replacing characters -/

/-- Characters that are replaced: `more + 1` of them from `first` on, each `step` after the one
before. The replacement of one of them is `target`, which advances by `advance` from one to the
next if it is a single character. -/
structure Mapping where
  first : Nat
  more : Nat
  step : Nat
  advance : Nat
  target : List Nat

/-- The mapping that an entry of the table states. -/
def Mapping.ofEntry? (entry : String) : Option Mapping := do
  let (source, target) ← Text.Table.cutAt? ">" entry
  let target := Text.Table.sequence target
  match Text.Table.cutAt? "+" source with
  | none => return ⟨Text.Table.number source, 0, 1, 1, target⟩
  | some (first, run) =>
    match (run.splitOn "/").map Text.Table.number with
    | [more, step, advance] => return ⟨Text.Table.number first, more, step, advance, target⟩
    | [more] => return ⟨Text.Table.number first, more, 1, 1, target⟩
    | _ => none

/-- Whether a character is replaced by this mapping. -/
def Mapping.applies (m : Mapping) (c : Char) : Bool :=
  m.first ≤ c.toNat && (c.toNat - m.first) % m.step == 0 && (c.toNat - m.first) / m.step ≤ m.more

/-- What a character is replaced by. -/
def Mapping.replacement (m : Mapping) (c : Char) : List Char :=
  m.target.map fun t => Char.ofNat (t + m.advance * ((c.toNat - m.first) / m.step))

/-- The characters that are replaced. -/
def mappings : List Mapping := (Text.Table.entries mappingText).filterMap Mapping.ofEntry?

/-- The characters that are dropped. -/
def ignored : List (Nat × Nat) := Text.Table.ranges ignoredText

/-- The characters that no name may hold. -/
def disallowed : List (Nat × Nat) := Text.Table.ranges disallowedText

/-- How a character is treated. -/
inductive Treatment where
  | kept
  /-- Replaced, perhaps by nothing. -/
  | replaced (cs : List Char)
  | refused
deriving DecidableEq, Repr

/-- How a character is treated. Of ASCII, capitals are replaced. -/
def treatment (c : Char) : Treatment :=
  if isAscii c then (if c.isUpper then .replaced [c.toLower] else .kept)
  else if Table.contains disallowed c then .refused
  else if Table.contains ignored c then .replaced []
  else match mappings.find? (·.applies c) with
    | some m => .replaced (m.replacement c)
    | none => .kept
where
  isAscii := Punycode.isAscii

/-- What a character contributes to a name, if a name may hold it. -/
def replace? (c : Char) : Option (List Char) :=
  match treatment c with
  | .kept => some [c]
  | .replaced cs => some cs
  | .refused => none

/-- The characters of ASCII that no name of a web address holds: those that separate the parts of an
address, blanks and controls. -/
def isForbidden (c : Char) : Bool :=
  c.toNat ≤ 0x20 || c.toNat == 0x7F || "%#/:<>?@[\\]^|".toList.contains c

/-! ## Labels -/

/-- The marks, which may not begin a label. -/
def marks : List (Nat × Nat) := Text.Table.ranges markText

/-- The direction in which a character is written, as far as the rules tell directions apart. -/
inductive Direction where
  | leftToRight
  | rightToLeft
  | europeanNumber
  | arabicNumber
  | nonspacing
  | neutral
deriving DecidableEq, Repr

/-- The characters that are not written from left to right. -/
def directions : List (List (Nat × Nat) × Direction) :=
  [(Text.Table.ranges rightToLeftText, .rightToLeft),
    (Text.Table.ranges europeanNumberText, .europeanNumber),
    (Text.Table.ranges arabicNumberText, .arabicNumber),
    (Text.Table.ranges nonspacingText, .nonspacing),
    (Text.Table.ranges neutralText, .neutral)]

/-- The direction of a character. -/
def direction (c : Char) : Direction :=
  match directions.find? fun d => Table.contains d.1 c with
  | some d => d.2
  | none => .leftToRight

/-- How a character joins its neighbours. -/
inductive Joining where
  | left
  | right
  | dual
  | transparent
  | none
deriving DecidableEq, Repr

/-- The characters that join, or that joining looks through. -/
def joinings : List (List (Nat × Nat) × Joining) :=
  [(Text.Table.ranges joiningLeftText, .left), (Text.Table.ranges joiningRightText, .right),
    (Text.Table.ranges joiningDualText, .dual), (Text.Table.ranges transparentText, .transparent)]

/-- How a character joins its neighbours. -/
def joining (c : Char) : Joining :=
  match joinings.find? fun j => Table.contains j.1 c with
  | some j => j.2
  | Option.none => .none

/-- The combining class of the marks after which joiners are allowed. -/
def viramaClass : Nat := 9

/-- Whether characters in some order begin, transparent ones aside, with one that joins. -/
def joins (side : Joining) (cs : List Char) : Bool :=
  match cs.dropWhile fun c => joining c = .transparent with
  | [] => false
  | c :: _ => joining c = side || joining c = .dual

/-- Whether a joiner has an effect between what is before it, in reverse, and what is after it. -/
def joinerAllowed (before : List Char) (c : Char) (after : List Char) : Bool :=
  let afterVirama := match before with
    | [] => false
    | b :: _ => Text.Compose.combiningClass b == viramaClass
  if c = '\u200D' then afterVirama
  else if c = '\u200C' then afterVirama || (joins .left before && joins .right after)
  else true

/-- Whether all joiners of a label have an effect. -/
def joinersAllowed (before : List Char) : List Char → Bool
  | [] => true
  | c :: cs => joinerAllowed before c cs && joinersAllowed (c :: before) cs

/-- Whether a label, decoded, may stand in a name. -/
def isValidLabel (cs : List Char) : Bool :=
  cs.all (fun c => treatment c = .kept && !isForbidden c)
    && Text.compose cs == cs
    && !(cs.head?.any (Table.contains marks))
    && joinersAllowed [] cs

/-- What marks a label as encoded. -/
def encodedMark : List Char := ['x', 'n', '-', '-']

/-- The greatest length of a label that is decoded, and of one that is encoded. -/
def maxDecoded : Nat := 2000
@[inherit_doc maxDecoded] def maxEncoded : Nat := 1000

/-- A label as it is read: decoded, if it is encoded. An encoded label stands for something that is
not ASCII. -/
def readLabel? (cs : List Char) : Option (List Char) :=
  if encodedMark.isPrefixOf cs then do
    let encoded := cs.drop encodedMark.length
    if maxDecoded < encoded.length then none
    let label ← Punycode.decode? encoded
    if label.all Punycode.isAscii then none else some label
  else some cs

/-- A label as ASCII. -/
def writeLabel? (cs : List Char) : Option (List Char) :=
  if cs.all Punycode.isAscii then some cs
  else if maxEncoded < cs.length then none
  else some (encodedMark ++ Punycode.encode cs)

/-! ## Directions of a name -/

/-- The directions of a label without the nonspacing marks at its end. -/
def withoutTrailing (ds : List Direction) : List Direction :=
  (ds.reverse.dropWhile (· = .nonspacing)).reverse

/-- Whether a label may stand in a name that is partly written from right to left. -/
def isOrderly (label : List Char) : Bool :=
  let ds := label.map direction
  let last := (withoutTrailing ds).getLast?
  match ds.head? with
  | none => true
  | some .rightToLeft =>
    !ds.contains .leftToRight
      && (last = some .rightToLeft || last = some .europeanNumber || last = some .arabicNumber)
      && !(ds.contains .europeanNumber && ds.contains .arabicNumber)
  | some .leftToRight =>
    !ds.contains .rightToLeft && !ds.contains .arabicNumber
      && (last = some .leftToRight || last = some .europeanNumber)
  | some _ => false

/-- Whether a label is partly written from right to left. -/
def isRightToLeft (label : List Char) : Bool :=
  label.any fun c => direction c = .rightToLeft || direction c = .arabicNumber

/-! ## Names -/

/-- The labels of a name. -/
def labels : List Char → List (List Char)
  | [] => [[]]
  | c :: cs =>
    if c = '.' then [] :: labels cs
    else match labels cs with
      | [] => [[c]]
      | l :: ls => (c :: l) :: ls

/-- A name of labels. -/
def ofLabels : List (List Char) → List Char
  | [] => []
  | [l] => l
  | l :: ls => l ++ '.' :: ofLabels ls

/-- A domain name as ASCII, if it is one. -/
def toAscii? (cs : List Char) : Option (List Char) := do
  let replaced ← cs.mapM replace?
  let read ← (labels (Text.compose replaced.flatten)).mapM readLabel?
  if !read.all isValidLabel then none
  if read.any isRightToLeft && !read.all isOrderly then none
  return ofLabels (← read.mapM writeLabel?)

end Messenger.Url.Domain
