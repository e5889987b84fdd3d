import Mathlib.Logic.Relation
import Messenger.Proofs.Stream.Cut
import Messenger.Proofs.Stream.Wire

set_option autoImplicit false

/-! # Bad events change nothing

A daemon may send events that yield no message, and lines that say nothing about events. Wherever
such lines are inserted into what it sends, as long as a line starts there and, for an event, no
payload is awaited, the connection publishes the same messages, asks the resolver the same and ends
in the same way (`insertions_change_nothing`). Only the records of what was dropped tell the
difference. -/

namespace Messenger

variable {σ : Type}

/-! ## Payloads that yield no message -/

/-- The messages of the records of what was dropped: a line, or a payload. -/
def LogRecord.lossMessages : List String :=
  ["skipping non-UTF-8 stream line", "dropping unparsable event payload",
    "dropping malformed event", "unsupported event", "event not delivered"]

/-- Whether a record is one of something that was dropped. -/
def LogRecord.isLoss (r : LogRecord) : Bool := lossMessages.contains r.message

/-- Whether a payload yields no message: it is not JSON, it is malformed, or it is of a kind that is
not delivered. -/
def Event.IsIgnored (payload : String) : Prop :=
  ∃ reason, (Event.classifyText (none : Event.Resolver Unit) payload ()).1 = .error reason

theorem Event.isLoss_dropped (reason : Ignored) (v : Json.Value) :
    (Event.dropped reason v).isLoss = true := by
  unfold Event.dropped
  split
  · show LogRecord.lossMessages.contains "dropping malformed event" = true
    decide
  · split
    · show LogRecord.lossMessages.contains "unsupported event" = true
      decide
    · show LogRecord.lossMessages.contains "event not delivered" = true
      decide

/-- The resolver is not asked about a payload that yields no message. -/
theorem Event.IsIgnored.classifyText {payload : String} (h : Event.IsIgnored payload)
    (resolver : Event.Resolver σ) (s : σ) :
    ∃ reason record, Event.classifyText resolver payload s = (.error reason, [record], s)
      ∧ record.isLoss = true := by
  obtain ⟨reason, hreason⟩ := h
  cases hparse : Json.Value.parse payload with
  | error fault =>
      refine ⟨.invalidJson, Event.unparsable payload, ?_, ?_⟩
      · rw [Event.classifyText, hparse]
      · show LogRecord.lossMessages.contains "dropping unparsable event payload" = true
        decide
  | ok v =>
      cases hvalue : Event.parse v with
      | ok m =>
          simp only [Event.classifyText, hparse, Event.classify, Event.parseLogged,
            hvalue] at hreason
          cases hreason
      | error why =>
          refine ⟨why, Event.dropped why v, ?_, Event.isLoss_dropped why v⟩
          simp only [Event.classifyText, hparse, Event.classify, Event.parseLogged, hvalue]

/-- What can be seen apart from the records of what was dropped. -/
def withoutLosses {M : Type} (ns : List (Notice M)) : List (Notice M) :=
  ns.filter fun
    | .logged r => !r.isLoss
    | _ => true

theorem withoutLosses_append {M : Type} (ns more : List (Notice M)) :
    withoutLosses (ns ++ more) = withoutLosses ns ++ withoutLosses more :=
  List.filter_append _ _

/-- What is seen besides records is seen apart from those of what was dropped. -/
theorem unlogged_withoutLosses {M : Type} (ns : List (Notice M)) :
    unlogged (withoutLosses ns) = unlogged ns := by
  rw [unlogged, withoutLosses, List.filter_filter, unlogged]
  refine List.filter_congr fun n _ => ?_
  cases n <;> simp

namespace Stream

open Text

/-! ## What is inserted -/

/-- The bytes of a line that is read as a text, up to the line feed. -/
def ReadsAs (line : List UInt8) (text : String) : Prop :=
  lineFeed ∉ line ∧ lineOf line = .ok text

instance (line : List UInt8) (text : String) : Decidable (ReadsAs line text) :=
  inferInstanceAs (Decidable (_ ∧ _))

/-- A line that says nothing about events, up to the line feed. -/
inductive Inert : List UInt8 → Prop where
  /-- A comment; the one without text keeps the connection alive. -/
  | comment {rest : List UInt8} (hline : lineFeed ∉ rest) : Inert (toUtf8 ":" ++ rest)
  | id {rest : List UInt8} (hline : lineFeed ∉ rest) : Inert (toUtf8 "id" ++ rest)
  | retry {rest : List UInt8} (hline : lineFeed ∉ rest) : Inert (toUtf8 "retry" ++ rest)
  /-- A line that is no text. -/
  | garbled {line : List UInt8} (hline : lineFeed ∉ line) (hbad : ofUtf8? line = none) :
      Inert line

/-- The bytes of an event whose payload yields no message: a line with its name, one with the
payload, and an empty one. -/
inductive BadEvent : List UInt8 → Prop where
  | mk {name data blank : List UInt8} {marker carrier payload : String}
      (hname : ReadsAs name marker) (hmarker : Marker marker)
      (hdata : ReadsAs data carrier) (hcarrier : Carrier payload carrier)
      (hblank : ReadsAs blank "") (hignored : Event.IsIgnored payload) :
      BadEvent (name ++ lineFeed :: (data ++ lineFeed :: (blank ++ [lineFeed])))

/-- Whether a line starts behind some bytes. -/
def LineStarts (bytes : List UInt8) : Prop := ∀ b ∈ bytes.getLast?, b = lineFeed

instance (bytes : List UInt8) : Decidable (LineStarts bytes) :=
  decidable_of_iff (bytes.getLast?.all (· == lineFeed) = true)
    (by simp [LineStarts, Option.all_eq_true])

/-- What a new framer knows behind some bytes. -/
def framerAfter (bytes : List UInt8) : Framer :=
  (({} : Framer).feedAll (completed ((segments bytes).1.map lineOf))).2

/-- One insertion into what a daemon sends: a line without meaning where a line starts, or a bad
event where a line starts and no payload is awaited. -/
inductive Inserted : List UInt8 → List UInt8 → Prop where
  | line {before after line : List UInt8} (hstart : LineStarts before) (hline : Inert line) :
      Inserted (before ++ after) (before ++ (line ++ lineFeed :: after))
  | event {before after event : List UInt8} (hstart : LineStarts before)
      (hdisarmed : (framerAfter before).armed = false) (hevent : BadEvent event) :
      Inserted (before ++ after) (before ++ (event ++ after))

/-! ## Lines without meaning -/

/-- A text that starts like a comment, an identifier or a time to wait has no event field. -/
theorem Framer.feed_of_head {c : Char} (hc : c ∈ [':', 'i', 'r']) {s : String} {cs : List Char}
    (hs : s.toList = c :: cs) (f : Framer) : f.feed s = (none, f) := by
  have hhead (field : List Char) (first : Char) (rest : List Char) (hfield : field = first :: rest)
      (hne : c.toLower ≠ first.toLower) : ¬ HasField field s := by
    intro h
    rw [HasField, hs, hfield, List.length_cons, List.take_succ_cons] at h
    exact hne (List.cons.inj (eq_of_beq h)).1
  have hnotE : ∀ c ∈ [':', 'i', 'r'], c.toLower ≠ 'e'.toLower := by
    simp only [List.mem_cons, List.not_mem_nil, or_false]
    rintro c (rfl | rfl | rfl) <;> decide
  have hnotD : ∀ c ∈ [':', 'i', 'r'], c.toLower ≠ 'd'.toLower := by
    simp only [List.mem_cons, List.not_mem_nil, or_false]
    rintro c (rfl | rfl | rfl) <;> decide
  have hne : s ≠ "" := by
    rintro rfl
    cases hs
  exact Framer.feed_other hne (hhead eventField 'e' _ rfl (hnotE c hc))
    (hhead dataField 'd' _ rfl (hnotD c hc)) f

/-- A carriage return at the end of a line leaves its beginning alone. -/
theorem dropReturn_cons {b : UInt8} (hb : b ≠ carriageReturn) (rest : List UInt8) :
    ∃ rest', dropReturn (b :: rest) = b :: rest' := by
  rw [dropReturn]
  split
  · cases rest with
    | nil =>
        rename_i h
        exact absurd (Option.some.inj h) hb
    | cons b' rest => exact ⟨_, rfl⟩
  · exact ⟨rest, rfl⟩

/-- What a line without meaning is read as does nothing to a framer. -/
theorem Inert.feed {line : List UInt8} (h : Inert line) {text : String}
    (htext : lineOf line = .ok text) (f : Framer) : f.feed text = (none, f) := by
  have hread : ofUtf8? (dropReturn line) = some text := by
    rw [lineOf] at htext
    split at htext
    · rename_i s hs
      rw [hs, Except.ok.inj htext]
    · cases htext
  -- A line that begins with one of the three characters is read as a text that does.
  have hplain (c : Char) (hc : c ∈ [':', 'i', 'r']) (b : UInt8) (hb : b ≠ carriageReturn)
      (hone : ofUtf8? [b] = some (String.singleton c)) (rest : List UInt8)
      (hline : line = b :: rest) : f.feed text = (none, f) := by
    obtain ⟨rest', hrest⟩ := dropReturn_cons hb rest
    have happend : b :: rest' = [b] ++ rest' := rfl
    rw [hline, hrest, happend, ofUtf8?_append hone] at hread
    obtain ⟨more, -, rfl⟩ := Option.map_eq_some_iff.1 hread
    exact @Framer.feed_of_head c hc _ more.toList (by simp) f
  cases h with
  | comment => exact hplain ':' (by decide) 0x3A (by decide) (by decide) _ rfl
  | id => exact hplain 'i' (by decide) 0x69 (by decide) (by decide) _ rfl
  | retry => exact hplain 'r' (by decide) 0x72 (by decide) (by decide) _ rfl
  | garbled hline hbad =>
      rw [ofUtf8?_dropReturn hbad] at hread
      cases hread

theorem Inert.lineFeed_not_mem {line : List UInt8} (h : Inert line) : lineFeed ∉ line := by
  cases h with
  | comment hline => exact fun hmem => (List.mem_append.1 hmem).elim (by decide) hline
  | id hline => exact fun hmem => (List.mem_append.1 hmem).elim (by decide) hline
  | retry hline => exact fun hmem => (List.mem_append.1 hmem).elim (by decide) hline
  | garbled hline => exact hline

/-! ## Taking what was inserted -/

/-- Some items make no difference to a feed: it is afterwards what it was, and nothing is seen but
records of what was dropped. -/
def Feed.Unmoved (resolver : Event.Resolver σ) (items : List (Except LogRecord String))
    (f : Feed σ) : Prop :=
  (Feed.takeLines resolver items f).2 = f
    ∧ withoutLosses (Feed.takeLines resolver items f).1 = []

theorem Inert.unmoved {line : List UInt8} (h : Inert line) (resolver : Event.Resolver σ)
    (f : Feed σ) : f.Unmoved resolver [lineOf line] := by
  cases hread : lineOf line with
  | error record =>
      have hloss : record.isLoss = true := by
        rw [lineOf] at hread
        split at hread
        · cases hread
        · obtain rfl := Except.error.inj hread
          show LogRecord.lossMessages.contains "skipping non-UTF-8 stream line" = true
          decide
      refine ⟨rfl, ?_⟩
      show withoutLosses [.logged record] = []
      simp [withoutLosses, hloss]
  | ok text =>
      have htake : f.takeLine resolver (.ok text) = ([], f) := by
        simp only [Feed.takeLine, h.feed hread f.worker.framer]
      simp only [Feed.Unmoved, Feed.takeLines, htake, true_and]
      rfl

/-- A bad event arms the framer, is dropped, and leaves the framer as it was. -/
theorem unmoved_badEvent {marker carrier payload : String} (hmarker : Marker marker)
    (hcarrier : Carrier payload carrier) (hignored : Event.IsIgnored payload)
    (resolver : Event.Resolver σ) {f : Feed σ} (hdisarmed : f.worker.framer = ⟨false⟩) :
    f.Unmoved resolver [.ok marker, .ok carrier, .ok ""] := by
  obtain ⟨⟨address, state, isOver, splitter, framer⟩, registry, around⟩ := f
  obtain rfl : framer = ⟨false⟩ := hdisarmed
  obtain ⟨reason, record, hclass, hloss⟩ := hignored.classifyText resolver around
  have hblank : Framer.feed ⟨false⟩ "" = (none, ⟨false⟩) := by decide
  simp only [Feed.Unmoved, Feed.takeLines, Feed.takeLine, Framer.feed_marker hmarker,
    Framer.feed_carrier hcarrier, Feed.takePayload, hclass, hblank, true_and]
  simp [withoutLosses, hloss]

/-! ## Bytes with an insertion -/

theorem segments_of_lineStarts {before : List UInt8} (h : LineStarts before) :
    (segments before).2 = [] := by
  rcases List.eq_nil_or_concat' before with rfl | ⟨bytes, b, rfl⟩
  · rfl
  · obtain rfl : b = lineFeed := h b List.getLast?_concat
    rw [segments_append, segments_line (lineFeed_not_mem_rest bytes)]
    rfl

/-- Behind a place where a line starts, the lines are those of the rest. -/
theorem items_of_lineStarts (ending : Ending) {before : List UInt8} (h : LineStarts before)
    (after : List UInt8) :
    ending.items (before ++ after) = (segments before).1.map lineOf ++ ending.items after := by
  simp only [Ending.items, segments_append before after, segments_of_lineStarts h, List.nil_append,
    List.map_append, List.append_assoc]

/-- A line in front of others is read first. -/
theorem items_line (ending : Ending) {line : List UInt8} (h : lineFeed ∉ line)
    (after : List UInt8) :
    ending.items (line ++ lineFeed :: after) = lineOf line :: ending.items after := by
  simp only [Ending.items, segments_line h, List.map_cons, List.cons_append]

/-- What was inserted is read as items of its own, and they make no difference to a feed that has
read what comes before. -/
theorem Inserted.items {sent padded : List UInt8} (h : Inserted sent padded) (ending : Ending) :
    ∃ first new rest, ending.items sent = first ++ rest
      ∧ ending.items padded = first ++ (new ++ rest)
      ∧ ∀ (resolver : Event.Resolver σ) (f : Feed σ),
        f.worker.framer = (({} : Framer).feedAll (completed first)).2 → f.Unmoved resolver new := by
  cases h with
  | @line before after line hstart hline =>
      refine ⟨_, [lineOf line], _, items_of_lineStarts ending hstart after, ?_, ?_⟩
      · rw [items_of_lineStarts ending hstart, items_line ending hline.lineFeed_not_mem]
        rfl
      · intro resolver f _
        exact hline.unmoved resolver f
  | @event before after event hstart hdisarmed hevent =>
      obtain @⟨name, data, blank, marker, carrier, payload, hname, hmarker, hdata, hcarrier, hblank,
        hignored⟩ := hevent
      refine ⟨_, [.ok marker, .ok carrier, .ok ""], _, items_of_lineStarts ending hstart after, ?_,
        ?_⟩
      · simp only [items_of_lineStarts ending hstart, List.append_assoc, List.cons_append,
          items_line ending hname.1, items_line ending hdata.1, items_line ending hblank.1,
          hname.2, hdata.2, hblank.2, List.nil_append]
      · intro resolver f hf
        refine unmoved_badEvent hmarker hcarrier hignored resolver (hf.trans ?_)
        exact congrArg Framer.mk hdisarmed

/-! ## Whole connections -/

/-- Two results that differ in the records of what was dropped only. -/
structure SameButLosses (result result' : List (Notice Message) × Feed σ) : Prop where
  feed : result'.2 = result.2
  seen : withoutLosses result'.1 = withoutLosses result.1

/-- A line moves the framer of a feed, whatever else it does. -/
theorem Feed.takeLines_framer (resolver : Event.Resolver σ)
    (items : List (Except LogRecord String)) (f : Feed σ) :
    (Feed.takeLines resolver items f).2.worker.framer
      = (f.worker.framer.feedAll (completed items)).2 := by
  induction items generalizing f with
  | nil => rfl
  | cons item items ih =>
      have hitems : completed (item :: items) = completed [item] ++ completed items :=
        completed_append [item] items
      rw [hitems, Framer.feedAll_append]
      show (Feed.takeLines resolver items (f.takeLine resolver item).2).2.worker.framer = _
      rw [ih, (Feed.publishing_takeLine resolver item f).2]

theorem SameButLosses.refl (result : List (Notice Message) × Feed σ) :
    SameButLosses result result :=
  ⟨rfl, rfl⟩

theorem SameButLosses.trans {first second third : List (Notice Message) × Feed σ}
    (h : SameButLosses first second) (h' : SameButLosses second third) :
    SameButLosses first third :=
  ⟨h'.feed.trans h.feed, h'.seen.trans h.seen⟩

/-- What makes no difference to a feed can be taken between other lines. -/
theorem Feed.Unmoved.sameButLosses {resolver : Event.Resolver σ}
    {first new : List (Except LogRecord String)} {f : Feed σ}
    (h : (Feed.takeLines resolver first f).2.Unmoved resolver new)
    (rest : List (Except LogRecord String)) :
    SameButLosses (Feed.takeLines resolver (first ++ rest) f)
      (Feed.takeLines resolver (first ++ (new ++ rest)) f) := by
  obtain ⟨hkept, hseen⟩ := h
  simp only [Feed.takeLines_append, hkept]
  refine ⟨rfl, ?_⟩
  simp only [withoutLosses_append, hseen, List.nil_append]

/-- The line that is begun where the bytes end stays what it was. -/
theorem Inserted.rest {sent padded : List UInt8} (h : Inserted sent padded) :
    (segments padded).2 = (segments sent).2 := by
  have hbehind {before : List UInt8} (hstart : LineStarts before) (after : List UInt8) :
      (segments (before ++ after)).2 = (segments after).2 := by
    rw [segments_append, segments_of_lineStarts hstart, List.nil_append]
  cases h with
  | line hstart hline =>
      rw [hbehind hstart, hbehind hstart, segments_line hline.lineFeed_not_mem]
  | event hstart hdisarmed hevent =>
      obtain ⟨hname, -, hdata, -, hblank, -⟩ := hevent
      simp only [hbehind hstart, List.append_assoc, List.cons_append, List.nil_append,
        segments_line hname.1, segments_line hdata.1, segments_line hblank.1]

/-- One insertion into what an open connection sends. -/
theorem Inserted.readAll {sent padded : List UInt8} (h : Inserted sent padded)
    (resolver : Event.Resolver σ) (ending : Ending) (f : Feed σ) :
    SameButLosses (f.readAll resolver sent ending) (f.readAll resolver padded ending) := by
  obtain ⟨first, new, rest, hsent, hpadded, hunmoved⟩ := h.items (σ := σ) ending
  have hread : SameButLosses
      (Feed.takeLines resolver (ending.items sent) (f.opened ⟨(segments sent).2⟩))
      (Feed.takeLines resolver (ending.items padded) (f.opened ⟨(segments padded).2⟩)) := by
    rw [hsent, hpadded, h.rest]
    exact Feed.Unmoved.sameButLosses (hunmoved resolver _ (Feed.takeLines_framer resolver _ _)) rest
  have hopened : withoutLosses (f.noted "event stream connected" :: (Feed.takeLines resolver
        (ending.items padded) (f.opened ⟨(segments padded).2⟩)).1)
      = withoutLosses (f.noted "event stream connected" :: (Feed.takeLines resolver
        (ending.items sent) (f.opened ⟨(segments sent).2⟩)).1) :=
    congrArg (withoutLosses [f.noted "event stream connected"] ++ ·) hread.seen
  refine ⟨?_, ?_⟩
  · show (Feed.conclude ending _).2 = (Feed.conclude ending _).2
    rw [hread.feed]
  · simp only [Feed.readAll, withoutLosses_append, hread.feed, hopened]

/-- What was inserted makes no difference to what is published. -/
theorem SameButLosses.publishing {before : Registry Message}
    {result result' : List (Notice Message) × Feed σ} (h : SameButLosses result result')
    {ms : List Message} {s : σ} (hms : Feed.Publishing before result ms s) :
    Feed.Publishing before result' ms s where
  registry := h.feed ▸ hms.registry
  seen := by rw [← unlogged_withoutLosses, h.seen, unlogged_withoutLosses, hms.seen]
  around := h.feed ▸ hms.around

/-- **Bad events are invisible.** Let lines without meaning be inserted where a line starts, and bad
events where no payload is awaited either, into what a daemon sends, and let the result arrive in
whatever chunks. The connection publishes the same messages as before, asks the resolver the same
and leaves the worker, the registry and the resolver in the same state; all that is seen is the
same apart from records of what was dropped. -/
theorem insertions_change_nothing (resolver : Event.Resolver σ) {sent padded : List UInt8}
    (hpadded : Relation.ReflTransGen Inserted sent padded) {chunks chunks' : List (List UInt8)}
    (hchunks : chunks.flatten = sent) (hchunks' : chunks'.flatten = padded) (status : Nat)
    (ending : Ending) {w : Worker} (hw : w.Awaits) (s : σ) :
    let c := Connection.answered status chunks ending
    let c' := Connection.answered status chunks' ending
    (∃ ms s', Publishes resolver c w s ms s' ∧ Publishes resolver c' w s ms s')
      ∧ ∀ registry, SameButLosses (Feed.steps resolver c.occurrences ⟨w, registry, s⟩)
          (Feed.steps resolver c'.occurrences ⟨w, registry, s⟩) := by
  intro c c'
  have hsame : ∀ registry, SameButLosses (Feed.steps resolver c.occurrences ⟨w, registry, s⟩)
      (Feed.steps resolver c'.occurrences ⟨w, registry, s⟩) := by
    intro registry
    cases hstatus : isSuccessStatus status with
    | false =>
        rw [Feed.steps_rejected hw.1 hw.2 hstatus, Feed.steps_rejected hw.1 hw.2 hstatus]
        exact SameButLosses.refl _
    | true =>
        rw [Feed.steps_answered hw.1 hw.2 hstatus, Feed.steps_answered hw.1 hw.2 hstatus, hchunks,
          hchunks']
        clear hchunks' c'
        induction hpadded with
        | refl => exact SameButLosses.refl _
        | tail _ hone ih => exact ih.trans (hone.readAll resolver ending _)
  have hms := @publishes_answered σ resolver w s hw status chunks ending
  exact ⟨⟨_, _, hms, fun registry => (hsame registry).publishing (hms registry)⟩, hsame⟩

/-- A resolver that knows no titles and keeps what it is asked. -/
def recorder : Event.Resolver (List (String × String)) :=
  some fun account groupId asked => (.unknown, [], asked ++ [(account, groupId)])

/-- The lines of an event with a message to a group of the given name. -/
def groupBlock (group : String) : List UInt8 :=
  toUtf8 "event:receive\ndata:\x7b\"account\":\"\",\"envelope\":\x7b\"timestamp\":1," ++
    toUtf8 "\"dataMessage\":\x7b\"message\":1,\"groupInfo\":\x7b\"groupId\":\"" ++
    toUtf8 group ++ toUtf8 "\"\x7d\x7d\x7d\x7d\n\n"

/-- A line that is not UTF-8 in front of an event, and an event without JSON behind it: the resolver
is asked once. -/
theorem insertions_change_nothing_recorded :
    let sent := groupBlock "a"
    let padded := [0xFF, lineFeed] ++ groupBlock "a" ++ toUtf8 "event:receive\ndata:\x7b\n\n"
    let c := Connection.answered 200 [sent] .closed
    let c' := Connection.answered 200 [padded] .closed
    let w : Worker := { address := "", state := .connecting }
    (∃ ms s', Publishes recorder c w [] ms s' ∧ Publishes recorder c' w [] ms s')
      ∧ (∀ registry, SameButLosses (Feed.steps recorder c.occurrences ⟨w, registry, []⟩)
          (Feed.steps recorder c'.occurrences ⟨w, registry, []⟩))
      ∧ (Event.messages recorder c'.payloads []).2 = [("", "a")] := by
  intro sent padded c c' w
  have hmarker : Marker "event:receive" :=
    @Marker.mk eventField [] Framer.wanted [] (by decide) (by decide) (by decide)
  have hcarrier : Carrier "\x7b" "data:\x7b" :=
    @Carrier.joined "\x7b" dataField (by decide) (by decide)
  have hbad : BadEvent (toUtf8 "event:receive\ndata:\x7b\n\n") :=
    @BadEvent.mk (toUtf8 "event:receive") (toUtf8 "data:\x7b") [] _ _ _ (by decide +kernel) hmarker
      (by decide +kernel) hcarrier (by decide) ⟨.invalidJson, by decide +kernel⟩
  have hevent : Inserted sent (sent ++ toUtf8 "event:receive\ndata:\x7b\n\n") := by
    have h := @Inserted.event sent [] _ (by decide +kernel) (by decide +kernel) hbad
    rwa [List.append_nil, List.append_nil] at h
  have hline : Inserted (sent ++ toUtf8 "event:receive\ndata:\x7b\n\n") padded :=
    @Inserted.line [] _ [0xFF] (by decide) (.garbled (by decide) (by decide))
  have hsent : [sent].flatten = sent := List.append_nil _
  have hpadded : [padded].flatten = padded := List.append_nil _
  obtain ⟨hpublished, hsame⟩ := @insertions_change_nothing _ recorder sent padded
    (.tail (.single hevent) hline) _ _ hsent hpadded 200 .closed w (by decide) []
  exact ⟨hpublished, hsame, by decide +kernel⟩

end Stream
end Messenger
