import Messenger.Proofs.Stream.Whole

set_option autoImplicit false

/-! # A connection that breaks

A connection may break after any byte: inside a line, a character or a payload. What it has
published until then is the beginning of what it would have published had the daemon sent
everything, and a line of which only a part arrived is not in it (`published_before_break`). -/

namespace Messenger.Stream

variable {σ : Type}

/-! ## Bytes cut anywhere -/

/-- What follows the last line feed is not read when the connection breaks. -/
theorem items_broken_append (xs : List UInt8) {part : List UInt8} (h : lineFeed ∉ part) :
    Ending.broken.items (xs ++ part) = Ending.broken.items xs := by
  have hwaiting : lineFeed ∉ (segments xs).2 ++ part := by
    rw [List.mem_append, not_or]
    exact ⟨lineFeed_not_mem_rest xs, h⟩
  simp only [Ending.items, segments_append xs part, segments_of_not_mem hwaiting, List.append_nil]

/-- Where a connection does not break it is read on. -/
theorem items_closed_append (xs ys : List UInt8) :
    ∃ more, Ending.closed.items (xs ++ ys) = Ending.broken.items xs ++ more := by
  refine ⟨(segments ((segments xs).2 ++ ys)).1.map lineOf
    ++ (⟨(segments (xs ++ ys)).2⟩ : Splitter).finish.toList.map .ok, ?_⟩
  simp only [Ending.items, segments_append xs ys, List.map_append, List.append_nil,
    List.append_assoc]

/-! ## Payloads -/

/-- The payloads of a connection that broke come first among those of the whole. -/
theorem payloads_of_cut (status : Nat) {cut whole : List (List UInt8)}
    (h : cut.flatten <+: whole.flatten) :
    ∃ more, (Connection.answered status whole .closed).payloads
      = (Connection.answered status cut .broken).payloads ++ more := by
  obtain ⟨rest, hrest⟩ := h
  cases hstatus : isSuccessStatus status with
  | false =>
      refine ⟨[], ?_⟩
      simp [Connection.payloads, Connection.lines, hstatus]
  | true =>
      obtain ⟨more, hmore⟩ := items_closed_append cut.flatten rest
      refine ⟨((({} : Framer).feedAll (completed (Ending.broken.items cut.flatten))).2.feedAll
        (completed more)).1, ?_⟩
      rw [Connection.payloads, Connection.payloads, Connection.lines_answered hstatus,
        Connection.lines_answered hstatus, ← hrest, hmore, completed_append,
        Framer.feedAll_append]

/-- A part of a line at the end of a connection that broke has no say in its payloads. -/
theorem payloads_of_part (status : Nat) {cut chunks : List (List UInt8)} {part : List UInt8}
    (h : chunks.flatten ++ part = cut.flatten) (hpart : lineFeed ∉ part) :
    (Connection.answered status cut .broken).payloads
      = (Connection.answered status chunks .broken).payloads := by
  cases hstatus : isSuccessStatus status with
  | false => simp [Connection.payloads, Connection.lines, hstatus]
  | true =>
      rw [Connection.payloads, Connection.payloads, Connection.lines_answered hstatus,
        Connection.lines_answered hstatus, ← h, items_broken_append _ hpart]

/-! ## What is published -/

/-- **A break only costs what would have come later.** Let the first `n` bytes of a connection
arrive before it breaks, in whatever chunks. It has published `ms` then, and the whole, ended by the
daemon, would have published `ms` and perhaps more. What stands after the last line feed makes no
difference: without it the connection publishes `ms` as well, and asks the resolver the same. -/
theorem published_before_break (resolver : Event.Resolver σ) (bytes : List UInt8) (n : Nat)
    {cut whole : List (List UInt8)} (hcut : cut.flatten = bytes.take n)
    (hwhole : whole.flatten = bytes) (status : Nat) {w : Worker} (hw : w.Awaits) (s : σ) :
    ∃ ms lost s' s'', Publishes resolver (.answered status cut .broken) w s ms s'
      ∧ Publishes resolver (.answered status whole .closed) w s (ms ++ lost) s''
      ∧ ∀ chunks part, chunks.flatten ++ part = bytes.take n → lineFeed ∉ part →
        Publishes resolver (.answered status chunks .broken) w s ms s' := by
  have hfirst : cut.flatten <+: whole.flatten := by
    rw [hcut, hwhole]
    exact List.take_prefix n bytes
  obtain ⟨more, hmore⟩ := payloads_of_cut status hfirst
  have hpublished := @publishes_answered σ resolver w s hw status cut .broken
  have hall := @publishes_answered σ resolver w s hw status whole .closed
  rw [hmore, Event.messages_append] at hall
  refine ⟨_, _, _, _, hpublished, hall, ?_⟩
  intro chunks part hpart hline
  rw [payloads_of_part status (hpart.trans hcut.symm) hline]
  exact publishes_answered hw status chunks .broken

/-- The line with the payload of a message of the given time, without its end. -/
def dataLine (time : String) : List UInt8 :=
  Text.toUtf8 "data:\x7b\"account\":\"\",\"envelope\":\x7b\"timestamp\":" ++ Text.toUtf8 time
    ++ Text.toUtf8 ",\"dataMessage\":\x7b\"message\":\"\"\x7d\x7d\x7d"

/-- The second of two payloads arrives as a whole, and is not published, since the end of its line
is missing. -/
theorem published_before_break_inside_line :
    let name := Text.toUtf8 "event:receive\n"
    let first := name ++ dataLine "1" ++ [lineFeed] ++ name
    let bytes := first ++ dataLine "2"
    let w : Worker := { address := "", state := .connecting }
    ∃ ms lost s' s'', Publishes none (.answered 200 [first, dataLine "2"] .broken) w () ms s'
      ∧ Publishes none (.answered 200 [bytes] .closed) w () (ms ++ lost) s''
      ∧ Publishes none (.answered 200 [first] .broken) w () ms s'
      ∧ ms.map Message.timestamp = [1] ∧ (ms ++ lost).map Message.timestamp = [1, 2] := by
  intro name first bytes w
  have hw : w.Awaits := by decide
  have hcut : [first, dataLine "2"].flatten = bytes.take bytes.length := by
    rw [List.take_length]
    exact congrArg (first ++ ·) (List.append_nil _)
  have hwhole : [bytes].flatten = bytes := List.append_nil _
  obtain ⟨ms, lost, s', s'', hms, hall, hpart⟩ :=
    published_before_break none bytes bytes.length hcut hwhole 200 hw ()
  refine ⟨ms, lost, s', s'', hms, hall, hpart [first] (dataLine "2") ?_ (by decide +kernel), ?_, ?_⟩
  · rw [List.take_length, List.flatten_singleton]
  · rw [hms.unique (publishes_answered hw 200 [first, dataLine "2"] .broken)]
    decide +kernel
  · rw [hall.unique (publishes_answered hw 200 [bytes] .closed)]
    decide +kernel

end Messenger.Stream
