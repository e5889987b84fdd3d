set_option autoImplicit false

/-! # Reading bytes as UTF-8

Bytes are read one at a time by a machine that is either between characters or inside one, owing
some continuation bytes. A run of bytes that begins a character and cannot be finished is one
*stray* piece: this is the unit that lossy reading replaces by U+FFFD, and it is also what a reader
of structured text meets where a character was expected. No piece is lost: strict reading succeeds
exactly when every piece is a character. -/

namespace Messenger.Text

/-- What a stretch of bytes reads as. -/
inductive Piece where
  /-- A character. -/
  | char (c : Char)
  /-- A maximal run of `length` bytes that starts like a character and is none. -/
  | stray (length : Nat)
deriving DecidableEq, Repr

/-- The number of bytes a piece stands for. -/
def Piece.size : Piece → Nat
  | .char c => c.utf8Size
  | .stray n => n

/-- The number of bytes that pieces stand for. -/
def Piece.total : List Piece → Nat
  | [] => 0
  | p :: ps => p.size + total ps

/-- The character of a piece, if it is one. -/
def Piece.char? : Piece → Option Char
  | .char c => some c
  | .stray _ => none

namespace Utf8

/-- Where the reading machine stands between two bytes. -/
inductive State where
  /-- Between characters. -/
  | ready
  /-- Inside a character: `seen` bytes read, `owed` more expected, the next one between `low` and
  `high`, and `code` the bits collected so far. -/
  | inside (seen owed : Nat) (low high : UInt8) (code : Nat)
deriving DecidableEq, Repr

/-- Begin a character with byte `b`. The bounds on the second byte exclude overlong forms,
surrogates and code points above U+10FFFF. -/
def lead (b : UInt8) : List Piece × State :=
  if b < 0x80 then ([.char (Char.ofNat b.toNat)], .ready)
  else if b < 0xC2 then ([.stray 1], .ready)
  else if b < 0xE0 then ([], .inside 1 1 0x80 0xBF (b.toNat - 0xC0))
  else if b == 0xE0 then ([], .inside 1 2 0xA0 0xBF 0)
  else if b == 0xED then ([], .inside 1 2 0x80 0x9F 0xD)
  else if b < 0xF0 then ([], .inside 1 2 0x80 0xBF (b.toNat - 0xE0))
  else if b == 0xF0 then ([], .inside 1 3 0x90 0xBF 0)
  else if b < 0xF4 then ([], .inside 1 3 0x80 0xBF (b.toNat - 0xF0))
  else if b == 0xF4 then ([], .inside 1 3 0x80 0x8F 4)
  else ([.stray 1], .ready)

/-- Read one byte. A byte that cannot continue the character begun before it ends a stray piece
and is then read afresh. -/
def step (b : UInt8) : State → List Piece × State
  | .ready => lead b
  | .inside seen owed low high code =>
    if low ≤ b && b ≤ high then
      let code := code * 64 + (b.toNat - 0x80)
      if owed ≤ 1 then ([.char (Char.ofNat code)], .ready)
      else ([], .inside (seen + 1) (owed - 1) 0x80 0xBF code)
    else
      let (pieces, state) := lead b
      (.stray seen :: pieces, state)

/-- The pieces of the bytes that follow a state. -/
def piecesFrom : State → List UInt8 → List Piece
  | .ready, [] => []
  | .inside seen _ _ _ _, [] => [.stray seen]
  | s, b :: bs =>
    let (pieces, s) := step b s
    pieces ++ piecesFrom s bs

end Utf8

/-- The pieces of a byte string, in order. -/
def pieces (bytes : List UInt8) : List Piece := Utf8.piecesFrom .ready bytes

/-- The pieces of a text: every one is a character. -/
def piecesOfText (s : String) : List Piece := s.toList.map .char

/-- The text that the bytes encode, if they are valid UTF-8. -/
def ofUtf8? (bytes : List UInt8) : Option String :=
  ((pieces bytes).mapM Piece.char?).map String.ofList

/-- The text that the bytes encode, with U+FFFD for each stray piece. -/
def ofUtf8Lossy (bytes : List UInt8) : String :=
  String.ofList ((pieces bytes).map fun p => p.char?.getD '\uFFFD')

/-- The bytes that encode a character. -/
def utf8Char (c : Char) : List UInt8 := String.utf8EncodeChar c

/-- The bytes that encode a text. -/
def toUtf8 (s : String) : List UInt8 := s.toList.flatMap utf8Char

end Messenger.Text
