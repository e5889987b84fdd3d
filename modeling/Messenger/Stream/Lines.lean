import Messenger.Log
import Messenger.Text.Blank
import Messenger.Text.Utf8

set_option autoImplicit false

/-! # Splitting a byte stream into lines

Bytes arrive in chunks that end anywhere, inside a line or inside a character. A line ends with a
line feed; one carriage return before it belongs to the end of the line. A line that is not valid
UTF-8 is dropped as a whole. When the stream ends cleanly, what is left unterminated counts as a
line; when reading fails, it is lost. -/

namespace Messenger.Stream

/-- The bytes of a line that is not yet complete. -/
structure Splitter where
  rest : List UInt8 := []
deriving DecidableEq, Repr

/-- The byte that ends a line. -/
def lineFeed : UInt8 := 0x0A

/-- The byte that may precede it. -/
def carriageReturn : UInt8 := 0x0D

/-- The terminated segments of some bytes, and what follows the last line feed. -/
def segments : List UInt8 → List (List UInt8) × List UInt8
  | [] => ([], [])
  | b :: bs =>
    let (lines, rest) := segments bs
    if b = lineFeed then ([] :: lines, rest)
    else match lines with
      | [] => ([], b :: rest)
      | line :: lines => ((b :: line) :: lines, rest)

/-- A segment without one carriage return at its end. -/
def dropReturn (segment : List UInt8) : List UInt8 :=
  if segment.getLast? = some carriageReturn then segment.dropLast else segment

/-- The record of a line that is dropped. -/
def undecodable (segment : List UInt8) : LogRecord :=
  .debug "skipping non-UTF-8 stream line" [("len", toString segment.length)]

/-- The line of a terminated segment, or the record of its loss. -/
def lineOf (segment : List UInt8) : Except LogRecord String :=
  match Text.ofUtf8? (dropReturn segment) with
  | some line => .ok line
  | none => .error (undecodable (dropReturn segment))

namespace Splitter

/-- Take a chunk: the lines it completes, each as text or as the record of its loss. -/
def push (s : Splitter) (chunk : List UInt8) : List (Except LogRecord String) × Splitter :=
  let (done, rest) := segments (s.rest ++ chunk)
  (done.map lineOf, ⟨rest⟩)

/-- The line that is left when the stream ends cleanly. All carriage returns at its end are
dropped, and it is lost if it is not valid UTF-8. -/
def finish (s : Splitter) : Option String :=
  if s.rest.isEmpty then none
  else (Text.ofUtf8? s.rest).map (Text.trimEnd '\r')

end Splitter

/-- An item of a chunked stream: bytes, or a failure to read that ends it. -/
inductive Chunk (ε : Type) where
  | bytes (bs : List UInt8)
  | failure (e : ε)
deriving Repr

/-- The lines that were completed. -/
def completed (items : List (Except LogRecord String)) : List String :=
  items.filterMap fun
    | .ok line => some line
    | .error _ => none

/-- The lines of a chunked stream in order. A failure is passed on once, as the last item. -/
def splitFrom {ε : Type} (s : Splitter) : List (Chunk ε) → List (Except ε String)
  | [] => s.finish.toList.map .ok
  | .failure e :: _ => [.error e]
  | .bytes bs :: chunks =>
    let (lines, s) := s.push bs
    (completed lines).map .ok ++ splitFrom s chunks

/-- The lines of a chunked stream in order. -/
def splitLines {ε : Type} (chunks : List (Chunk ε)) : List (Except ε String) :=
  splitFrom {} chunks

end Messenger.Stream
