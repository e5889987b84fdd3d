import Messenger.Json.Value
import Messenger.Number.Scaled
import Messenger.Text.Ascii
import Messenger.Text.Utf8

set_option autoImplicit false

/-! # Reading JSON

A strict reader: no byte order mark, no comment, no comma at an end, blanks are space, tab, line
feed and carriage return only, control characters and unpaired surrogate escapes are refused, and
arrays and objects nest at most 127 deep. It works on the pieces of a byte string, so it also says
what happens to bytes that are no UTF-8: a string that holds a stray piece is refused at its closing
quote, a stray piece elsewhere where it stands.

A failure says only whether the text ended too early, broke the grammar, or had the wrong shape for
what was to be read. The last kind arises when values are decoded, not here. -/

namespace Messenger.Json

/-- Why a document could not be read. -/
inductive Fault where
  /-- The text breaks the grammar. -/
  | malformed
  /-- The text ends before the document does. -/
  | truncated
  /-- The document is JSON but not of the expected shape. -/
  | mismatched
deriving DecidableEq, Repr

/-- What is left to read. -/
abbrev Input := List Text.Piece

/-- The deepest nesting of arrays and objects. -/
def maxDepth : Nat := 127

/-- A blank of the grammar. -/
def isSpace (c : Char) : Bool := c == ' ' || c == '\t' || c == '\n' || c == '\r'

/-- Whether a piece is a blank of the grammar. -/
def isSpacePiece : Text.Piece → Bool
  | .char c => isSpace c
  | .stray _ => false

/-- The input from its first piece that is no blank. -/
def skipSpace (i : Input) : Input := i.dropWhile isSpacePiece

namespace Read

/-- Expect the characters of a word. -/
def word : List Char → Input → Except Fault Input
  | [], i => .ok i
  | _ :: _, [] => .error .truncated
  | c :: cs, .char d :: i => if c = d then word cs i else .error .malformed
  | _ :: _, .stray _ :: _ => .error .malformed

/-- The digits at the front of the input. -/
def digits : Input → List Nat × Input
  | .char c :: i => match Text.digit? c with
    | some d => let (ds, i) := digits i; (d :: ds, i)
    | none => ([], .char c :: i)
  | i => ([], i)

/-- At least one digit. -/
def someDigits (i : Input) : Except Fault (List Nat × Input) :=
  match digits i with
  | ([], []) => .error .truncated
  | ([], _ :: _) => .error .malformed
  | (ds, i) => .ok (ds, i)

/-- The exponent at the front of the input, zero if there is none. -/
def exponent : Input → Except Fault (Int × Input)
  | .char c :: i =>
    if c = 'e' ∨ c = 'E' then
      let (negative, i) := match i with
        | .char '+' :: i => (false, i)
        | .char '-' :: i => (true, i)
        | i => (false, i)
      do
        let (ds, i) ← someDigits i
        let n : Int := Text.ofDigits 10 ds
        .ok (if negative then -n else n, i)
    else .ok (0, .char c :: i)
  | i => .ok (0, i)

/-- Whether the input goes on with an exponent. -/
def startsExponent : Input → Bool
  | .char c :: _ => c == 'e' || c == 'E'
  | _ => false

/-- A floating-point number, refused when it is out of range. -/
def float (negative : Bool) (whole fraction : List Nat) (exponent : Int) : Except Fault Value :=
  match Scaled.ofNumeral? negative whole fraction exponent with
  | some x => .ok (.float x)
  | none => .error .malformed

/-- A numeral without point and exponent: a whole number if it is one of the range, and not a
negative zero. -/
def whole (negative : Bool) (ds : List Nat) : Except Fault Value :=
  let n := Text.ofDigits 10 ds
  if negative then
    if 0 < n ∧ n ≤ 0x8000000000000000 then .ok (.int (-n)) else float true ds [] 0
  else if n ≤ Scaled.wordMax then .ok (.int n) else float false ds [] 0

/-- What follows the digits before the point. -/
def afterWhole (negative : Bool) (ds : List Nat) (i : Input) : Except Fault (Value × Input) :=
  match i with
  | .char '.' :: i => do
    let (fs, i) ← someDigits i
    let (e, i) ← exponent i
    return (← float negative ds fs e, i)
  | i =>
    if startsExponent i then do
      let (e, i) ← exponent i
      return (← float negative ds [] e, i)
    else do return (← whole negative ds, i)

/-- A numeral after its sign. A zero before other digits is refused. -/
def numeral (negative : Bool) (i : Input) : Except Fault (Value × Input) := do
  let (ds, i) ← someDigits i
  match ds with
  | 0 :: _ :: _ => .error .malformed
  | ds => afterWhole negative ds i

/-- The value of four hexadecimal digits. -/
def hexWord (a b c d : Text.Piece) : Option Nat := do
  let ds ← [a, b, c, d].mapM fun p => p.char?.bind Text.hexDigit?
  return Text.ofDigits 16 ds

/-- The fault of an escape that is not followed by four hexadecimal digits. -/
def hexFault (i : Input) : Fault :=
  if Text.Piece.total i < 4 then .truncated else .malformed

/-- The character of a one-letter escape. -/
def escape? : Char → Option Char
  | '"' => some '"'
  | '\\' => some '\\'
  | '/' => some '/'
  | 'b' => some '\x08'
  | 'f' => some '\x0c'
  | 'n' => some '\n'
  | 'r' => some '\r'
  | 't' => some '\t'
  | _ => none

/-- The first word of a surrogate pair. -/
def isHighSurrogate (n : Nat) : Bool := 0xD800 ≤ n && n ≤ 0xDBFF

/-- The second word of a surrogate pair. -/
def isLowSurrogate (n : Nat) : Bool := 0xDC00 ≤ n && n ≤ 0xDFFF

/-- The character of a surrogate pair. -/
def ofSurrogates (high low : Nat) : Char :=
  Char.ofNat (0x10000 + (high - 0xD800) * 0x400 + (low - 0xDC00))

/-- The rest of a string after its opening quote. `acc` holds its characters so far, last first;
`clean` says that no stray piece was met. -/
def stringBody (acc : List Char) (clean : Bool) : Input → Except Fault (String × Input)
  | [] => .error .truncated
  | .stray _ :: i => stringBody acc false i
  | .char '"' :: i => if clean then .ok (String.ofList acc.reverse, i) else .error .malformed
  | .char '\\' :: [] => .error .truncated
  | .char '\\' :: .char 'u' :: a :: b :: c :: d :: i =>
    match hexWord a b c d with
    | none => .error .malformed
    | some n =>
      if isLowSurrogate n then .error .malformed
      else if isHighSurrogate n then
        match i with
        | [] => .error .truncated
        | .char '\\' :: [] => .error .truncated
        | .char '\\' :: .char 'u' :: a :: b :: c :: d :: i =>
          match hexWord a b c d with
          | none => .error .malformed
          | some m =>
            if isLowSurrogate m then stringBody (ofSurrogates n m :: acc) clean i
            else .error .malformed
        | .char '\\' :: .char 'u' :: i => .error (hexFault i)
        | _ => .error .malformed
      else stringBody (Char.ofNat n :: acc) clean i
  | .char '\\' :: .char 'u' :: i => .error (hexFault i)
  | .char '\\' :: .char c :: i =>
    match escape? c with
    | some e => stringBody (e :: acc) clean i
    | none => .error .malformed
  | .char '\\' :: .stray _ :: _ => .error .malformed
  | .char c :: i => if c.toNat < 0x20 then .error .malformed else stringBody (c :: acc) clean i

/-- The colon between a key and its value. -/
def colon (i : Input) : Except Fault Input :=
  match skipSpace i with
  | [] => .error .truncated
  | .char ':' :: i => .ok i
  | _ => .error .malformed

mutual

/-- A value. `fuel` bounds the steps and exceeds twice the length of the input; `depth` is the
nesting still allowed. -/
def value : Nat → Nat → Input → Except Fault (Value × Input)
  | 0, _, _ => .error .truncated
  | fuel + 1, depth, i =>
    match skipSpace i with
    | [] => .error .truncated
    | .stray _ :: _ => .error .malformed
    | .char 'n' :: i => do return (.null, ← word ['u', 'l', 'l'] i)
    | .char 't' :: i => do return (.bool true, ← word ['r', 'u', 'e'] i)
    | .char 'f' :: i => do return (.bool false, ← word ['a', 'l', 's', 'e'] i)
    | .char '"' :: i => do
      let (s, i) ← stringBody [] true i
      return (.str s, i)
    | .char '-' :: i => numeral true i
    | .char '[' :: i => match depth with
      | 0 => .error .malformed
      | depth + 1 => do
        let (vs, i) ← firstItem fuel depth i
        return (.arr vs, i)
    | .char '{' :: i => match depth with
      | 0 => .error .malformed
      | depth + 1 => do
        let (ms, i) ← firstMember fuel depth i
        return (.obj ms, i)
    | .char c :: i => if c.isDigit then numeral false (.char c :: i) else .error .malformed

/-- The items of an array after its opening bracket. -/
def firstItem : Nat → Nat → Input → Except Fault (List Value × Input)
  | 0, _, _ => .error .truncated
  | fuel + 1, depth, i =>
    match skipSpace i with
    | [] => .error .truncated
    | .char ']' :: i => .ok ([], i)
    | i => do
      let (v, i) ← value fuel depth i
      let (vs, i) ← moreItems fuel depth i
      return (v :: vs, i)

/-- The items of an array after one of them. -/
def moreItems : Nat → Nat → Input → Except Fault (List Value × Input)
  | 0, _, _ => .error .truncated
  | fuel + 1, depth, i =>
    match skipSpace i with
    | [] => .error .truncated
    | .char ']' :: i => .ok ([], i)
    | .char ',' :: i => do
      let (v, i) ← value fuel depth i
      let (vs, i) ← moreItems fuel depth i
      return (v :: vs, i)
    | _ => .error .malformed

/-- The members of an object after its opening brace. -/
def firstMember : Nat → Nat → Input → Except Fault (Members × Input)
  | 0, _, _ => .error .truncated
  | fuel + 1, depth, i =>
    match skipSpace i with
    | [] => .error .truncated
    | .char '}' :: i => .ok ([], i)
    | .char '"' :: i => do
      let (k, i) ← stringBody [] true i
      let (v, i) ← value fuel depth (← colon i)
      let (ms, i) ← moreMembers fuel depth i
      return ((k, v) :: ms, i)
    | _ => .error .malformed

/-- The members of an object after one of them. -/
def moreMembers : Nat → Nat → Input → Except Fault (Members × Input)
  | 0, _, _ => .error .truncated
  | fuel + 1, depth, i =>
    match skipSpace i with
    | [] => .error .truncated
    | .char '}' :: i => .ok ([], i)
    | .char ',' :: i => match skipSpace i with
      | [] => .error .truncated
      | .char '"' :: i => do
        let (k, i) ← stringBody [] true i
        let (v, i) ← value fuel depth (← colon i)
        let (ms, i) ← moreMembers fuel depth i
        return ((k, v) :: ms, i)
      | _ => .error .malformed
    | _ => .error .malformed

end

/-- Enough fuel for an input. -/
def fuelFor (i : Input) : Nat := 2 * i.length + 2

/-- A value at the front of an input, its members as they stand in the text. -/
def anyValue (depth : Nat) (i : Input) : Except Fault (Value × Input) := value (fuelFor i) depth i

/-- Nothing but blanks may follow a document. -/
def atEnd (i : Input) : Except Fault Unit :=
  if (skipSpace i).isEmpty then .ok () else .error .malformed

/-- A whole document, its members as they stand in the text. -/
def document (i : Input) : Except Fault Value := do
  let (v, i) ← anyValue maxDepth i
  atEnd i
  return v

end Read

/-- The value of a text. -/
def Value.parse (s : String) : Except Fault Value :=
  (Read.document (Text.piecesOfText s)).map Value.sorted

/-- The value of a byte string. -/
def Value.parseBytes (bytes : List UInt8) : Except Fault Value :=
  (Read.document (Text.pieces bytes)).map Value.sorted

end Messenger.Json
