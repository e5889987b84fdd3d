import Messenger.Stream.Connection
import Messenger.Stream.Lines
import Messenger.Status

set_option autoImplicit false

/-! # Where chunks end does not matter

A chunk may end inside a line or inside a character. What is left of it waits for the next one, so
the lines of a chunked stream are those of its bytes in one piece (`splitLines_flatten`). -/

namespace Messenger.Stream

/-! ## Segments -/

/-- Bytes complete the same segments whether they come at once or in two parts. -/
theorem segments_append (xs ys : List UInt8) :
    segments (xs ++ ys)
      = ((segments xs).1 ++ (segments ((segments xs).2 ++ ys)).1,
          (segments ((segments xs).2 ++ ys)).2) := by
  induction xs with
  | nil => rfl
  | cons b xs ih =>
      by_cases hb : b = lineFeed
      · simp only [List.cons_append, segments, if_pos hb, ih]
      · cases hlines : (segments xs).1 with
        | nil =>
            -- No segment is complete yet, so the byte is part of what waits.
            simp only [List.cons_append, segments, if_neg hb, ih, hlines, List.nil_append]
        | cons line lines =>
            simp only [List.cons_append, segments, if_neg hb, ih, hlines]

/-- What is left over holds no line feed. -/
theorem lineFeed_not_mem_rest (bytes : List UInt8) : lineFeed ∉ (segments bytes).2 := by
  induction bytes with
  | nil => exact List.not_mem_nil
  | cons b bytes ih =>
      by_cases hb : b = lineFeed
      · simpa only [segments, if_pos hb] using ih
      · cases hlines : (segments bytes).1 with
        | nil =>
            simp only [segments, if_neg hb, hlines, List.mem_cons, not_or]
            exact ⟨Ne.symm hb, ih⟩
        | cons line lines => simpa only [segments, if_neg hb, hlines] using ih

/-- Without a line feed no line is complete. -/
theorem segments_of_not_mem {bytes : List UInt8} (h : lineFeed ∉ bytes) :
    segments bytes = ([], bytes) := by
  induction bytes with
  | nil => rfl
  | cons b bytes ih =>
      rw [List.mem_cons, not_or] at h
      simp only [segments, ih h.2, if_neg (Ne.symm h.1)]

/-- Bytes up to a line feed are the first segment. -/
theorem segments_line {line : List UInt8} (h : lineFeed ∉ line) (rest : List UInt8) :
    segments (line ++ lineFeed :: rest) = (line :: (segments rest).1, (segments rest).2) := by
  induction line with
  | nil => simp [segments]
  | cons b line ih =>
      simp only [List.mem_cons, not_or] at h
      simp only [List.cons_append, segments, ih h.2, if_neg (Ne.symm h.1)]

theorem dropReturn_concat (bs : List UInt8) : dropReturn (bs ++ [carriageReturn]) = bs := by
  rw [dropReturn, List.getLast?_concat, if_pos rfl, List.dropLast_concat]

theorem Splitter.push_append (s : Splitter) (xs ys : List UInt8) :
    s.push (xs ++ ys)
      = ((s.push xs).1 ++ ((s.push xs).2.push ys).1, ((s.push xs).2.push ys).2) := by
  simp only [Splitter.push]
  rw [← List.append_assoc, segments_append, List.map_append]

/-! ## Chunks -/

variable {ε : Type}

theorem completed_append (items more : List (Except LogRecord String)) :
    completed (items ++ more) = completed items ++ completed more :=
  List.filterMap_append

@[simp] theorem completed_map_ok (lines : List String) :
    completed (lines.map .ok) = lines := by
  rw [completed, List.filterMap_map]
  exact List.filterMap_some

theorem splitFrom_bytes_bytes (s : Splitter) (xs ys : List UInt8) (rest : List (Chunk ε)) :
    splitFrom s (.bytes xs :: .bytes ys :: rest) = splitFrom s (.bytes (xs ++ ys) :: rest) := by
  simp only [splitFrom, Splitter.push_append, completed_append, List.map_append, List.append_assoc]

theorem splitFrom_flatten (s : Splitter) (chunks : List (List UInt8)) (xs : List UInt8)
    (rest : List (Chunk ε)) :
    splitFrom s (.bytes xs :: (chunks.map .bytes ++ rest))
      = splitFrom s (.bytes (xs ++ chunks.flatten) :: rest) := by
  induction chunks generalizing xs with
  | nil => rw [List.flatten_nil, List.append_nil, List.map_nil, List.nil_append]
  | cons ys chunks ih =>
      rw [List.map_cons, List.cons_append, splitFrom_bytes_bytes, ih, List.flatten_cons,
        List.append_assoc]

/-- **Where chunks end does not matter.** -/
theorem splitLines_flatten (chunks : List (List UInt8)) (rest : List (Chunk ε)) :
    splitLines (chunks.map .bytes ++ rest) = splitLines (.bytes chunks.flatten :: rest) := by
  have hempty : splitLines (chunks.map .bytes ++ rest)
      = splitFrom {} (.bytes [] :: (chunks.map .bytes ++ rest)) := rfl
  rw [hempty, splitFrom_flatten, List.nil_append]
  rfl

/-! ## The lines of a connection -/

/-- How a chunked stream goes on where a connection ends: unless it is closed, nothing that is left
counts as a line. -/
def Ending.chunks : Ending → List (Chunk Unit)
  | .closed => []
  | .broken => [.failure ()]
  | .pending => [.failure ()]

/-- The lines of the items of a chunked stream. -/
def linesOf (items : List (Except ε String)) : List String :=
  items.filterMap Except.toOption

/-- The lines that arrive on a connection: those of all its bytes, if the request succeeded. -/
def Connection.lines : Connection → List String
  | .refused => []
  | .silent => []
  | .answered status chunks ending =>
    if isSuccessStatus status then
      linesOf (splitLines (.bytes chunks.flatten :: ending.chunks))
    else []

/-- Whether a connection has ended. -/
def Connection.isEnded : Connection → Bool
  | .refused => true
  | .silent => false
  | .answered status _ ending => !isSuccessStatus status || ending != .pending

@[simp] theorem linesOf_map_ok (lines : List String) :
    linesOf (lines.map (.ok : String → Except ε String)) = lines := by
  rw [linesOf, List.filterMap_map]
  exact List.filterMap_some

theorem linesOf_append (items more : List (Except ε String)) :
    linesOf (items ++ more) = linesOf items ++ linesOf more :=
  List.filterMap_append

end Messenger.Stream
