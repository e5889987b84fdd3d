import Mathlib.Data.List.DropRight
import Messenger.Proofs.Stream.Chunks
import Messenger.Proofs.Text.Strict

set_option autoImplicit false

/-! # The lines of a byte stream

The lines of a chunked stream are told by its bytes and by how it ends. Line feeds cut the bytes
into segments: each one but the last is terminated, and holds a line if it is UTF-8, apart from one
carriage return before the line feed. A failure is the last item, and what was not terminated then
is lost; at a clean end it may hold one more line (`lines_of_stream`).

The two ways to end a line differ in one point. From a line that is not terminated all carriage
returns at its end are removed, from a terminated one only the last of them. So a last line is what
it would be in front of a line feed, unless two carriage returns end it
(`ends_as_terminated_iff`, `second_return_is_lost`). -/

namespace Messenger.Stream

open Text

/-! ## Line feeds -/

/-- Segments are what line feeds separate. -/
theorem splitOn_lineFeed (bytes : List UInt8) :
    bytes.splitOn lineFeed = (segments bytes).1 ++ [(segments bytes).2] := by
  induction bytes with
  | nil => rfl
  | cons b bytes ih =>
      rw [List.splitOn, List.splitOnP_cons_eq_if_modifyHead, ← List.splitOn, ih]
      by_cases hb : b = lineFeed
      · simp only [segments, hb, beq_self_eq_true, if_true, List.cons_append]
      · cases hlines : (segments bytes).1 with
        | nil => simp [segments, hb, hlines]
        | cons line lines => simp [segments, hb, hlines]

variable {ε : Type}

/-- The bytes that arrive on a chunked stream before reading it fails. -/
def received : List (Chunk ε) → List UInt8
  | [] => []
  | .bytes bs :: items => bs ++ received items
  | .failure _ :: _ => []

/-- The failure that ends a chunked stream, if one does. -/
def failure? : List (Chunk ε) → Option ε
  | [] => none
  | .bytes _ :: items => failure? items
  | .failure e :: _ => some e

@[simp] theorem received_map_bytes (chunks : List (List UInt8)) :
    received (chunks.map (.bytes : List UInt8 → Chunk ε)) = chunks.flatten := by
  induction chunks with
  | nil => rfl
  | cons chunk chunks ih => rw [List.map_cons, received, ih, List.flatten_cons]

@[simp] theorem failure?_map_bytes (chunks : List (List UInt8)) :
    failure? (chunks.map (.bytes : List UInt8 → Chunk ε)) = none := by
  induction chunks with
  | nil => rfl
  | cons chunk chunks ih => rw [List.map_cons, failure?, ih]

/-- A stream is read as its bytes in one piece, and its failure. -/
theorem splitLines_eq (items : List (Chunk ε)) :
    splitLines items
      = splitLines (.bytes (received items) :: (failure? items).toList.map .failure) := by
  have hpiece : ∀ xs, splitFrom {} (.bytes xs :: items)
      = splitFrom {} (.bytes (xs ++ received items) :: (failure? items).toList.map .failure) := by
    induction items with
    | nil =>
        intro xs
        rw [received, List.append_nil]
        rfl
    | cons item items ih =>
        intro xs
        cases item with
        | bytes ys => rw [splitFrom_bytes_bytes, ih, received, failure?, List.append_assoc]
        | failure e =>
            rw [received, List.append_nil]
            rfl
  exact hpiece []

/-! ## Texts in front of carriage returns -/

/-- One more carriage return is one more character. -/
theorem ofUtf8?_concat_return (bytes : List UInt8) :
    ofUtf8? (bytes ++ [carriageReturn]) = (ofUtf8? bytes).map (· ++ "\r") := by
  ext s
  rw [ofUtf8?_eq_some_iff, Option.map_eq_some_iff]
  constructor
  · intro h
    have hlast : s.toList.getLast? = some '\r' :=
      getLast?_of_getLast?_toUtf8 (h ▸ List.getLast?_concat) (by decide)
    obtain ⟨cs, hcs⟩ := List.getLast?_eq_some_iff.1 hlast
    obtain rfl : String.ofList cs ++ "\r" = s := by
      rw [← String.toList_inj, String.toList_append, String.toList_ofList, hcs]
      rfl
    rw [toUtf8_append] at h
    exact ⟨_, ofUtf8?_eq_some_iff.2 (List.append_cancel_right h), rfl⟩
  · rintro ⟨t, ht, rfl⟩
    rw [toUtf8_append, ofUtf8?_eq_some_iff.1 ht]
    rfl

theorem toUtf8_returns (n : Nat) :
    toUtf8 (String.ofList (List.replicate n '\r')) = List.replicate n carriageReturn := by
  rw [toUtf8, String.toList_ofList]
  induction n with
  | zero => rfl
  | succ n ih =>
      rw [List.replicate_succ, List.flatMap_cons, ih]
      rfl

/-- A text is what is left of it without the carriage returns at its end, and these. -/
theorem exists_returns (s : String) :
    ∃ n, s = trimEnd '\r' s ++ String.ofList (List.replicate n '\r') := by
  have hreturns : ∀ c ∈ s.toList.rtakeWhile (· == '\r'), c = '\r' := fun c hc => by
    simpa using List.mem_rtakeWhile_imp hc
  refine ⟨(s.toList.rtakeWhile (· == '\r')).length, ?_⟩
  rw [← List.eq_replicate_of_mem hreturns, trimEnd, ← String.ofList_append]
  exact (congrArg String.ofList List.rdropWhile_append_rtakeWhile |>.trans
    String.ofList_toList).symm

/-- What is left does not end with one. -/
theorem getLast?_toUtf8_trimEnd (s : String) :
    (toUtf8 (trimEnd '\r' s)).getLast? ≠ some carriageReturn := by
  intro hlast
  have hchar : (s.toList.rdropWhile (· == '\r')).getLast? = some '\r' := by
    have h := getLast?_of_getLast?_toUtf8 hlast (by decide)
    rwa [trimEnd, String.toList_ofList] at h
  have hne : s.toList.rdropWhile (· == '\r') ≠ [] := by
    intro hnil
    rw [hnil] at hchar
    contradiction
  exact List.rdropWhile_last_not _ _ hne
    (beq_iff_eq.2 ((List.getLast_eq_iff_getLast?_eq_some hne).2 hchar))

theorem trimEnd_append_returns (s : String) (n : Nat) :
    trimEnd '\r' (s ++ String.ofList (List.replicate n '\r')) = trimEnd '\r' s := by
  rw [trimEnd, trimEnd, String.toList_append, String.toList_ofList]
  refine congrArg String.ofList ?_
  induction n with
  | zero => rw [List.replicate_zero, List.append_nil]
  | succ n ih =>
      rw [List.replicate_succ', ← List.append_assoc,
        @trimRight_concat_of_pos (· == '\r') '\r' _ rfl, ih]

theorem trimEnd_eq_self {s : String} (h : (toUtf8 s).getLast? ≠ some carriageReturn) :
    trimEnd '\r' s = s := by
  obtain ⟨n, hn⟩ := exists_returns s
  cases n with
  | zero => exact (hn.trans String.append_empty).symm
  | succ n =>
      rw [hn, toUtf8_append, toUtf8_returns, List.replicate_succ', ← List.append_assoc] at h
      exact absurd List.getLast?_concat h

/-! ## What segments hold -/

/-- A terminated segment holds a line: its bytes are those of the line, and perhaps one carriage
return, which is not part of the line if it is there. -/
def Holds (segment : List UInt8) (line : String) : Prop :=
  segment = toUtf8 line ++ [carriageReturn]
    ∨ segment = toUtf8 line ∧ segment.getLast? ≠ some carriageReturn

/-- What follows the last line feed holds a line: it is not empty, and its bytes are those of the
line and any number of carriage returns, none of which is part of the line. -/
def HoldsLast (rest : List UInt8) (line : String) : Prop :=
  rest ≠ [] ∧ (toUtf8 line).getLast? ≠ some carriageReturn
    ∧ ∃ n, rest = toUtf8 line ++ List.replicate n carriageReturn

/-- The line that a terminated segment holds. -/
def lineIn? (segment : List UInt8) : Option String := (lineOf segment).toOption

/-- The line that is left at a clean end. -/
def lastIn? (rest : List UInt8) : Option String := (⟨rest⟩ : Splitter).finish

theorem lineIn?_eq (segment : List UInt8) : lineIn? segment = ofUtf8? (dropReturn segment) := by
  rw [lineIn?, lineOf]
  cases ofUtf8? (dropReturn segment) <;> rfl

theorem lineIn?_eq_some_iff {segment : List UInt8} {line : String} :
    lineIn? segment = some line ↔ Holds segment line := by
  rw [lineIn?_eq, ofUtf8?_eq_some_iff]
  by_cases hlast : segment.getLast? = some carriageReturn
  · obtain ⟨bytes, rfl⟩ := List.getLast?_eq_some_iff.1 hlast
    rw [dropReturn_concat, Holds, List.append_cancel_right_eq, eq_comm]
    exact (or_iff_left fun h => h.2 hlast).symm
  · rw [dropReturn, if_neg hlast, Holds, eq_comm]
    refine ⟨fun h => Or.inr ⟨h, hlast⟩, fun h => ?_⟩
    rcases h with rfl | h
    · exact absurd List.getLast?_concat hlast
    · exact h.1

theorem lastIn?_eq_some_iff {rest : List UInt8} {line : String} :
    lastIn? rest = some line ↔ HoldsLast rest line := by
  by_cases hempty : rest = []
  · simp [lastIn?, Splitter.finish, HoldsLast, hempty]
  rw [lastIn?, Splitter.finish, if_neg (by simpa using hempty), Option.map_eq_some_iff]
  constructor
  · rintro ⟨s, hs, rfl⟩
    obtain ⟨n, hn⟩ := exists_returns s
    refine ⟨hempty, getLast?_toUtf8_trimEnd s, n, ?_⟩
    rw [← toUtf8_returns, ← toUtf8_append, ← hn, ofUtf8?_eq_some_iff.1 hs]
  · rintro ⟨-, hlast, n, rfl⟩
    refine ⟨line ++ String.ofList (List.replicate n '\r'), ?_, ?_⟩
    · rw [ofUtf8?_eq_some_iff, toUtf8_append, toUtf8_returns]
    · rw [trimEnd_append_returns, trimEnd_eq_self hlast]

/-! ## The lines of a stream -/

/-- The lines of a stream, from its bytes and its end. -/
theorem splitLines_received (items : List (Chunk ε)) :
    splitLines items
      = ((segments (received items)).1.filterMap lineIn?).map .ok
        ++ match failure? items with
          | some e => [.error e]
          | none => (lastIn? (segments (received items)).2).toList.map .ok := by
  have hlines : completed ((segments (received items)).1.map lineOf)
      = (segments (received items)).1.filterMap lineIn? := by
    rw [completed, List.filterMap_map]
    refine List.filterMap_congr fun segment _ => ?_
    rw [Function.comp_apply, lineIn?]
    cases lineOf segment <;> rfl
  rw [splitLines_eq, splitLines, splitFrom, Splitter.push, ← hlines]
  cases failure? items <;> rfl

/-- **The lines of a stream.** They are told by its bytes, up to a failure if there is one, and by
the failure, wherever the chunks are cut. The segments between line feeds are read in order: a
terminated one as the line that it holds, or as nothing if it holds none. A failure comes once and
last; without one, what follows the last line feed may hold one more line. -/
theorem lines_of_stream :
    (∀ segment line, lineIn? segment = some line ↔ Holds segment line)
      ∧ (∀ rest line, lastIn? rest = some line ↔ HoldsLast rest line)
      ∧ ∀ items : List (Chunk ε),
        let pieces := (received items).splitOn lineFeed
        splitLines items
          = (pieces.dropLast.filterMap lineIn?).map .ok
            ++ match failure? items with
              | some e => [.error e]
              | none => (pieces.getLast?.bind lastIn?).toList.map .ok := by
  refine ⟨fun _ _ => lineIn?_eq_some_iff, fun _ _ => lastIn?_eq_some_iff, fun items => ?_⟩
  intro pieces
  have hpieces : pieces = (segments (received items)).1 ++ [(segments (received items)).2] :=
    splitOn_lineFeed (received items)
  rw [hpieces, List.dropLast_concat, List.getLast?_concat, Option.bind_some]
  exact splitLines_received items

/-- The end of a line that is cut, a line that is not UTF-8, and one that a failure cuts off. -/
example :
    splitLines [.bytes [0x61, 0x0D], .bytes [], .bytes [0x0A, 0xFF, 0x0A, 0x62], .failure (),
        .bytes [0x0A]] = [.ok "a", .error ()] := by
  decide

/-! ## The last line -/

theorem rest_ne_nil {bytes : List UInt8} (hne : bytes ≠ [])
    (hopen : bytes.getLast? ≠ some lineFeed) : (segments bytes).2 ≠ [] := by
  obtain ⟨ys, b, rfl⟩ := (List.eq_nil_or_concat' bytes).resolve_left hne
  rw [List.getLast?_concat, ne_eq, Option.some.injEq] at hopen
  have hwaiting : lineFeed ∉ (segments ys).2 ++ [b] := by
    rw [List.mem_append, List.mem_singleton, not_or]
    exact ⟨lineFeed_not_mem_rest ys, Ne.symm hopen⟩
  rw [segments_append, segments_of_not_mem hwaiting]
  exact List.append_ne_nil_of_right_ne_nil _ (List.cons_ne_nil b [])

/-- A line feed at the end terminates what is left. -/
theorem segments_concat_lineFeed (bytes : List UInt8) :
    segments (bytes ++ [lineFeed]) = ((segments bytes).1 ++ [(segments bytes).2], []) := by
  rw [segments_append, segments_line (lineFeed_not_mem_rest bytes)]
  rfl

/-- At a clean end, more carriage returns are removed from what is left than in front of a line
feed. -/
theorem lastIn?_eq {rest : List UInt8} (hne : rest ≠ []) :
    lastIn? rest = (lineIn? rest).map (trimEnd '\r') := by
  rw [lastIn?, Splitter.finish, if_neg (by simpa using hne), lineIn?_eq]
  by_cases hlast : rest.getLast? = some carriageReturn
  · obtain ⟨bytes, rfl⟩ := List.getLast?_eq_some_iff.1 hlast
    rw [dropReturn_concat, ofUtf8?_concat_return, Option.map_map]
    exact congrArg (Option.map · _) (funext fun s => trimEnd_append_returns s 1)
  · rw [dropReturn, if_neg hlast]

/-- The removal makes no difference exactly if no text stands in front of two carriage returns. -/
theorem map_trimEnd_lineIn?_iff (rest : List UInt8) :
    (lineIn? rest).map (trimEnd '\r') = lineIn? rest
      ↔ ∀ line : String, rest ≠ toUtf8 line ++ [carriageReturn, carriageReturn] := by
  constructor
  · rintro h line rfl
    have hline : lineIn? (toUtf8 line ++ [carriageReturn, carriageReturn]) = some (line ++ "\r") := by
      refine lineIn?_eq_some_iff.2 (Or.inl ?_)
      rw [toUtf8_append, List.append_assoc]
      rfl
    rw [hline, Option.map_some, Option.some.injEq] at h
    refine getLast?_toUtf8_trimEnd (line ++ "\r") ?_
    rw [h, toUtf8_append]
    exact List.getLast?_concat
  · intro h
    cases hline : lineIn? rest with
    | none => rfl
    | some line =>
        rw [Option.map_some, Option.some.injEq]
        refine trimEnd_eq_self fun hlast => ?_
        obtain ⟨bytes, hbytes⟩ := List.getLast?_eq_some_iff.1 hlast
        rcases lineIn?_eq_some_iff.1 hline with hrest | ⟨hrest, hnot⟩
        · -- The line ends with a carriage return itself, in front of the one that was removed.
          have hread : ofUtf8? (bytes ++ [carriageReturn]) = some line :=
            ofUtf8?_eq_some_iff.2 hbytes
          rw [ofUtf8?_concat_return, Option.map_eq_some_iff] at hread
          obtain ⟨text, htext, -⟩ := hread
          refine h text ?_
          rw [hrest, hbytes, ofUtf8?_eq_some_iff.1 htext, List.append_assoc]
          rfl
        · exact hnot (hrest ▸ hlast)

/-- **A last line without a line feed.** Let some bytes not end with a line feed, and let the same
bytes and one line feed arrive in other chunks. Both streams hold the same lines up to the last one,
and in the last one they differ by the carriage returns at its end: none is left where the line feed
is missing. So the streams hold the same lines exactly if what follows the last line feed of the
bytes is no text in front of two carriage returns. -/
theorem ends_as_terminated_iff {chunks terminated : List (List UInt8)}
    (hne : chunks.flatten ≠ []) (hopen : chunks.flatten.getLast? ≠ some lineFeed)
    (hterminated : terminated.flatten = chunks.flatten ++ [lineFeed]) :
    let ended := splitLines (chunks.map (.bytes : List UInt8 → Chunk ε))
    let whole := splitLines (terminated.map (.bytes : List UInt8 → Chunk ε))
    ∃ (lines : List String) (last : Option String),
      whole = (lines ++ last.toList).map .ok
        ∧ ended = (lines ++ (last.map (trimEnd '\r')).toList).map .ok
        ∧ (ended = whole ↔ ∀ line : String, (chunks.flatten.splitOn lineFeed).getLast?
            ≠ some (toUtf8 line ++ [carriageReturn, carriageReturn])) := by
  intro ended whole
  have hrest := rest_ne_nil hne hopen
  have hwhole : whole = ((segments chunks.flatten).1.filterMap lineIn?
      ++ (lineIn? (segments chunks.flatten).2).toList).map .ok := by
    simp only [whole, splitLines_received, received_map_bytes, failure?_map_bytes, hterminated,
      segments_concat_lineFeed, List.filterMap_append]
    cases h : lineIn? (segments chunks.flatten).2 <;> simp [h, lastIn?, Splitter.finish]
  have hended : ended = ((segments chunks.flatten).1.filterMap lineIn?
      ++ ((lineIn? (segments chunks.flatten).2).map (trimEnd '\r')).toList).map .ok := by
    simp only [ended, splitLines_received, received_map_bytes, failure?_map_bytes,
      lastIn?_eq hrest, List.map_append]
  refine ⟨_, _, hwhole, hended, ?_⟩
  have hsame : ended = whole
      ↔ (lineIn? (segments chunks.flatten).2).map (trimEnd '\r')
        = lineIn? (segments chunks.flatten).2 := by
    rw [hended, hwhole, List.map_inj_right fun _ _ => Except.ok.inj, List.append_cancel_left_eq]
    exact ⟨fun h => by simpa using congrArg List.head? h, congrArg Option.toList⟩
  rw [hsame, map_trimEnd_lineIn?_iff, splitOn_lineFeed, List.getLast?_concat]
  simp only [ne_eq, Option.some.injEq]

/-- One carriage return behind a character that is cut makes no difference. -/
theorem ends_as_terminated_inside_character :
    let chunks : List (List UInt8) := [[0x78, 0x0A, 0xC3], [0xA9, 0x0D]]
    let terminated : List (List UInt8) := [[0x78], [], [0x0A, 0xC3, 0xA9, 0x0D, 0x0A]]
    chunks.flatten ≠ [] ∧ chunks.flatten.getLast? ≠ some lineFeed
      ∧ terminated.flatten = chunks.flatten ++ [lineFeed]
      ∧ splitLines (chunks.map (.bytes : List UInt8 → Chunk Unit))
        = splitLines (terminated.map (.bytes : List UInt8 → Chunk Unit)) := by
  intro chunks terminated
  have hne : chunks.flatten ≠ [] := by decide
  have hopen : chunks.flatten.getLast? ≠ some lineFeed := by decide
  have hterminated : terminated.flatten = chunks.flatten ++ [lineFeed] := by decide
  obtain ⟨_, _, -, -, hsame⟩ := @ends_as_terminated_iff Unit chunks terminated hne hopen hterminated
  refine ⟨hne, hopen, hterminated, hsame.2 fun line h => ?_⟩
  have hrest : (chunks.flatten.splitOn lineFeed).getLast? = some [0xC3, 0xA9, 0x0D] := by decide
  rw [hrest, Option.some.injEq, List.append_cons] at h
  -- The byte in front of the carriage return is none.
  have hbefore := congrArg (fun bytes => bytes.dropLast.getLast?) h
  rw [List.dropLast_concat, List.getLast?_concat] at hbefore
  contradiction

/-- The second of two carriage returns at the end of a stream is lost, though it would not be in
front of a line feed. -/
theorem second_return_is_lost :
    splitLines ([[0x61, 0x0D, 0x0D]].map (.bytes : List UInt8 → Chunk Unit))
      ≠ splitLines ([[0x61, 0x0D, 0x0D, 0x0A]].map (.bytes : List UInt8 → Chunk Unit)) := by
  decide

end Messenger.Stream
