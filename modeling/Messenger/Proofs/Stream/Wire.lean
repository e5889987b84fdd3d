import Messenger.Proofs.Stream.Chunks
import Messenger.Proofs.Stream.Feed
import Messenger.Proofs.Text.Utf8

set_option autoImplicit false

/-! # Payloads arrive as they are sent

A sender writes each payload as a block of three lines: the name of the event, the payload, and an
empty line. The words may stand in any case, blanks may surround the name, and other lines may come
between, even ones that are not UTF-8. Whatever ends the lines and wherever the chunks are cut, a
framer that reads the stream releases the payloads, each once and in order (`received_as_sent`). -/

namespace Messenger.Stream

open Text

/-! ## Lines on the wire -/

/-- How a line ends. -/
inductive LineEnd where
  /-- A line feed. -/
  | lf
  /-- A carriage return and a line feed. -/
  | crlf
deriving DecidableEq, Repr

/-- What precedes the line feed. -/
def LineEnd.returns : LineEnd → List UInt8
  | .lf => []
  | .crlf => [carriageReturn]

/-- A line as a sender writes it. -/
structure WireLine where
  content : List UInt8
  ending : LineEnd
deriving DecidableEq, Repr

namespace WireLine

/-- A line of text. -/
def ofText (text : String) (ending : LineEnd) : WireLine := ⟨toUtf8 text, ending⟩

/-- What precedes the line feed. -/
def segment (l : WireLine) : List UInt8 := l.content ++ l.ending.returns

@[simp] theorem segment_lf (content : List UInt8) : segment ⟨content, .lf⟩ = content :=
  List.append_nil content

@[simp] theorem segment_crlf (content : List UInt8) :
    segment ⟨content, .crlf⟩ = content ++ [carriageReturn] :=
  rfl

/-- The bytes of a line. -/
def bytes (l : WireLine) : List UInt8 := l.segment ++ [lineFeed]

/-- The text that a line is read as, unless it is dropped. -/
def text? (l : WireLine) : Option String := (lineOf l.segment).toOption

end WireLine

/-- The texts that lines are read as. -/
def textsOf (lines : List WireLine) : List String := lines.flatMap fun l => l.text?.toList

/-! ## Blocks -/

/-- Whether a text is a line that is read back as it is, up to the end of the line. -/
def FitsLine (s : String) : Prop := '\n' ∉ s.toList ∧ s.toList.getLast? ≠ some '\r'

instance (s : String) : Decidable (FitsLine s) := inferInstanceAs (Decidable (_ ∧ _))

/-- Whether a line starts with a field name, in any case. -/
def HasField (field : List Char) (s : String) : Prop :=
  eqIgnoreCase (s.toList.take field.length) field = true

instance (field : List Char) (s : String) : Decidable (HasField field s) :=
  inferInstanceAs (Decidable (_ = true))

/-- Whether there are only blanks that can stand inside a line. -/
def BlankInLine (cs : List Char) : Prop := ∀ c ∈ cs, isBlank c = true ∧ c ≠ '\n'

instance (cs : List Char) : Decidable (BlankInLine cs) :=
  List.decidableBAll (fun c => isBlank c = true ∧ c ≠ '\n') cs

/-- A line that announces a wanted event: both words in any case, and blanks other than a line feed
around the name. -/
inductive Marker : String → Prop where
  | mk {field before name after : List Char} (hfield : eqIgnoreCase field eventField = true)
      (hname : eqIgnoreCase name Framer.wanted = true)
      (hblank : BlankInLine (before ++ after)) :
      Marker (String.ofList (field ++ (before ++ (name ++ after))))

/-- A line that carries a payload. A space may separate the field name from it, and does so if the
payload starts with a space itself. -/
inductive Carrier (payload : String) : String → Prop where
  | joined {field : List Char} (hfield : eqIgnoreCase field dataField = true)
      (hspace : payload.toList.head? ≠ some ' ') :
      Carrier payload (String.ofList (field ++ payload.toList))
  | spaced {field : List Char} (hfield : eqIgnoreCase field dataField = true) :
      Carrier payload (String.ofList (field ++ ' ' :: payload.toList))

/-- A line without meaning for the events around it. -/
inductive Filler : List UInt8 → Prop where
  | keepAlive : Filler (toUtf8 ":")
  | text {s : String} (hne : s ≠ "") (hfits : FitsLine s) (hevent : ¬ HasField eventField s)
      (hdata : ¬ HasField dataField s) : Filler (toUtf8 s)
  | garbled {content : List UInt8} (hline : lineFeed ∉ content) (hbad : ofUtf8? content = none) :
      Filler content

/-- Lines that send some payloads, in order. -/
inductive Sends : List String → List WireLine → Prop where
  | done : Sends [] []
  | filler {payloads : List String} {l : WireLine} {lines : List WireLine}
      (hfiller : Filler l.content) (hrest : Sends payloads lines) : Sends payloads (l :: lines)
  | block {payload marker carrier : String} {payloads : List String} {e e' e'' : LineEnd}
      {between between' lines : List WireLine} (hmarker : Marker marker)
      (hbetween : ∀ l ∈ between, Filler l.content) (hcarrier : Carrier payload carrier)
      (hbetween' : ∀ l ∈ between', Filler l.content) (hrest : Sends payloads lines) :
      Sends (payload :: payloads)
        (.ofText marker e :: (between ++ .ofText carrier e'
          :: (between' ++ .ofText "" e'' :: lines)))

/-! ## Words in any case -/

section Words

variable {cs ds rest : List Char}

theorem length_of_eqIgnoreCase (h : eqIgnoreCase cs ds = true) : cs.length = ds.length := by
  have hmap := congrArg List.length (eq_of_beq h)
  rwa [List.length_map, List.length_map] at hmap

/-- A character that is no letter of a word does not occur in it in any case. -/
theorem not_mem_of_eqIgnoreCase (h : eqIgnoreCase cs ds = true) {c : Char}
    (hc : c.toLower ∉ ds.map Char.toLower) : c ∉ cs := by
  intro hmem
  rw [← eq_of_beq h] at hc
  exact hc (List.mem_map_of_mem hmem)

theorem afterField_append (h : eqIgnoreCase cs ds = true) :
    afterField ds (cs ++ rest) = some rest := by
  rw [afterField, ← length_of_eqIgnoreCase h, List.take_left, List.drop_left, if_pos h]

/-- The two field names differ in their first letter. -/
theorem afterField_dataField (h : eqIgnoreCase cs dataField = true) :
    afterField eventField (cs ++ rest) = none := by
  rw [afterField, if_neg]
  intro hevent
  cases cs with
  | nil => contradiction
  | cons c cs =>
      have hd : c.toLower = 'd' := (List.cons.inj (eq_of_beq h)).1
      have he : c.toLower = 'e' := (List.cons.inj (eq_of_beq hevent)).1
      exact absurd (hd.symm.trans he) (by decide)

/-- A blank is no capital letter. -/
theorem toLower_of_isBlank {c : Char} (h : isBlank c = true) : c.toLower = c := by
  have hnot : ¬ (c.val ≥ 'A'.val ∧ c.val ≤ 'Z'.val) := by
    intro hupper
    have hlow : 65 ≤ c.toNat := UInt32.le_iff_toNat_le.1 hupper.1
    have hhigh : c.toNat ≤ 90 := UInt32.le_iff_toNat_le.1 hupper.2
    simp [isBlank] at h
    omega
  exact dif_neg hnot

theorem isBlank_of_mem_name (h : eqIgnoreCase cs Framer.wanted = true) {c : Char} (hc : c ∈ cs) :
    isBlank c = false := by
  by_contra hblank
  rw [Bool.not_eq_false] at hblank
  have hnone : (Framer.wanted.map Char.toLower).any isBlank = false := by decide
  have hmem : c.toLower ∈ Framer.wanted.map Char.toLower :=
    eq_of_beq h ▸ List.mem_map_of_mem hc
  rw [toLower_of_isBlank hblank] at hmem
  exact List.any_eq_false.1 hnone c hmem hblank

/-- Blanks around a word are removed. -/
theorem trim_around {before word after : List Char} (hbefore : ∀ c ∈ before, isBlank c = true)
    (hword : ∀ c ∈ word, isBlank c = false) (hne : word ≠ [])
    (hafter : ∀ c ∈ after, isBlank c = true) :
    trim (String.ofList (before ++ (word ++ after))) = String.ofList word := by
  have hleft : trimLeft isBlank (before ++ (word ++ after)) = word ++ after := by
    rw [trimLeft, List.dropWhile_append_of_pos hbefore]
    obtain ⟨c, cs, rfl⟩ := List.exists_cons_of_ne_nil hne
    rw [List.cons_append, List.dropWhile_cons_of_neg]
    rw [hword c List.mem_cons_self]
    exact Bool.false_ne_true
  have hright : trimRight isBlank (word ++ after) = word := by
    rw [trimRight, List.reverse_append, List.dropWhile_append_of_pos
      fun c hc => hafter c (List.mem_reverse.1 hc)]
    obtain ⟨cs, c, rfl⟩ := (List.eq_nil_or_concat' word).resolve_left hne
    rw [List.reverse_append, List.reverse_singleton, List.singleton_append,
      List.dropWhile_cons_of_neg, List.reverse_cons, List.reverse_reverse]
    rw [hword c List.mem_concat_self]
    exact Bool.false_ne_true
  rw [trim, String.toList_ofList, hleft, hright]

end Words

/-! ## What a line does to a framer -/

/-- A line that is not empty and no lone colon means what its field says. -/
theorem Line.ofString_of_length {cs : List Char} (h : 2 ≤ cs.length) :
    Line.ofString (String.ofList cs)
      = match afterField eventField cs with
        | some name => .event (trim (String.ofList name))
        | none => match afterField dataField cs with
          | some payload => .data (String.ofList (dropSpace payload))
          | none => .other := by
  have hne : cs.isEmpty = false := by
    cases cs with
    | nil => contradiction
    | cons => rfl
  have hcolon : cs ≠ [':'] := by
    rintro rfl
    contradiction
  rw [Line.ofString, String.toList_ofList, hne, if_neg hcolon]
  rfl

theorem Framer.feed_marker {s : String} (h : Marker s) (f : Framer) :
    f.feed s = (none, ⟨true⟩) := by
  obtain @⟨field, before, name, after, hfield, hname, hblank⟩ := h
  have hlength : 2 ≤ (field ++ (before ++ (name ++ after))).length := by
    rw [List.length_append, length_of_eqIgnoreCase hfield]
    exact Nat.le_add_right_of_le (by decide)
  have hne : name ≠ [] := by
    rintro rfl
    contradiction
  have htrim : trim (String.ofList (before ++ (name ++ after))) = String.ofList name :=
    trim_around (fun c hc => (hblank c (List.mem_append_left _ hc)).1)
      (fun c hc => isBlank_of_mem_name hname hc) hne
      (fun c hc => (hblank c (List.mem_append_right _ hc)).1)
  have hline : Line.ofString (String.ofList (field ++ (before ++ (name ++ after))))
      = .event (String.ofList name) := by
    rw [Line.ofString_of_length hlength, afterField_append hfield]
    exact congrArg Line.event htrim
  rw [Framer.feed, hline, Framer.take, String.toList_ofList, hname]

theorem Line.ofString_data {field payload : List Char} (h : eqIgnoreCase field dataField = true) :
    Line.ofString (String.ofList (field ++ payload))
      = .data (String.ofList (dropSpace payload)) := by
  have hlength : 2 ≤ (field ++ payload).length := by
    rw [List.length_append, length_of_eqIgnoreCase h]
    exact Nat.le_add_right_of_le (by decide)
  rw [Line.ofString_of_length hlength, afterField_dataField h, afterField_append h]

theorem Carrier.ofString {payload s : String} (h : Carrier payload s) :
    Line.ofString s = .data payload := by
  cases h with
  | joined hfield hspace =>
      rw [Line.ofString_data hfield, dropSpace, String.ofList_toList]
      rintro cs hcs
      exact hspace (by rw [hcs]; rfl)
  | spaced hfield => rw [Line.ofString_data hfield, dropSpace, String.ofList_toList]

theorem Framer.feed_carrier {payload s : String} (h : Carrier payload s) :
    Framer.feed ⟨true⟩ s = (some payload, ⟨false⟩) := by
  rw [Framer.feed, h.ofString]
  rfl

theorem Framer.feed_other {s : String} (hne : s ≠ "") (hevent : ¬ HasField eventField s)
    (hdata : ¬ HasField dataField s) (f : Framer) : f.feed s = (none, f) := by
  have hchars : s.toList.isEmpty = false := by
    rw [List.isEmpty_eq_false_iff, ne_eq, String.toList_eq_nil_iff]
    exact hne
  have hnone : afterField eventField s.toList = none := if_neg hevent
  have hnone' : afterField dataField s.toList = none := if_neg hdata
  have hline : Line.ofString s = .keepAlive ∨ Line.ofString s = .other := by
    rw [Line.ofString, hchars, hnone, hnone']
    by_cases hcolon : s.toList = [':']
    · exact .inl (if_pos hcolon)
    · exact .inr (if_neg hcolon)
  rcases hline with hline | hline <;> rw [Framer.feed, hline] <;> rfl

/-! ## What a line is read as -/

theorem dropReturn_toUtf8 {s : String} (h : s.toList.getLast? ≠ some '\r') :
    dropReturn (toUtf8 s) = toUtf8 s := by
  rw [dropReturn, if_neg]
  intro hlast
  exact h (getLast?_of_getLast?_toUtf8 hlast (by decide))

theorem lineOf_of_dropReturn {segment : List UInt8} {s : String}
    (h : dropReturn segment = toUtf8 s) : (lineOf segment).toOption = some s := by
  rw [lineOf, h, ofUtf8?_toUtf8]
  rfl

/-- A text that fits a line is read as it is. -/
theorem text?_of_fits {s : String} (h : s.toList.getLast? ≠ some '\r') (e : LineEnd) :
    (WireLine.ofText s e).text? = some s := by
  apply lineOf_of_dropReturn
  cases e with
  | lf =>
      rw [WireLine.ofText, WireLine.segment_lf]
      exact dropReturn_toUtf8 h
  | crlf => exact dropReturn_concat _

/-- A line that announces an event may end with a carriage return, which is a blank; without it, it
announces the same. -/
theorem exists_marker_of_getLast? {s : String} (h : Marker s)
    (hlast : s.toList.getLast? = some '\r') :
    ∃ s', Marker s' ∧ toUtf8 s = toUtf8 s' ++ [carriageReturn] := by
  obtain @⟨field, before, name, after, hfield, hname, hblank⟩ := h
  rw [String.toList_ofList] at hlast
  rcases List.eq_nil_or_concat' after with rfl | ⟨after', c, rfl⟩
  · -- The name itself does not end with a carriage return.
    have hne : name ≠ [] := by
      rintro rfl
      contradiction
    have hword : before ++ name ≠ [] := List.append_ne_nil_of_right_ne_nil _ hne
    rw [List.append_nil, List.getLast?_append_of_ne_nil _ hword,
      List.getLast?_append_of_ne_nil _ hne] at hlast
    exact absurd (isBlank_of_mem_name hname (List.mem_of_getLast? hlast)) (by decide)
  · rw [← List.append_assoc, ← List.append_assoc, ← List.append_assoc,
      List.getLast?_concat] at hlast
    obtain rfl : c = '\r' := Option.some.inj hlast
    have hshorter : BlankInLine (before ++ after') := by
      rw [← List.append_assoc] at hblank
      exact fun c hc => hblank c (List.mem_append_left _ hc)
    refine ⟨String.ofList (field ++ (before ++ (name ++ after'))), ⟨hfield, hname, hshorter⟩, ?_⟩
    · rw [toUtf8, toUtf8, String.toList_ofList, String.toList_ofList]
      simp only [List.flatMap_append, List.append_assoc]
      rfl

theorem text?_marker {s : String} (h : Marker s) (e : LineEnd) :
    ∃ s', (WireLine.ofText s e).text? = some s' ∧ Marker s' := by
  by_cases hlast : s.toList.getLast? = some '\r'
  · cases e with
    | lf =>
        obtain ⟨s', hmarker, hbytes⟩ := exists_marker_of_getLast? h hlast
        refine ⟨s', lineOf_of_dropReturn ?_, hmarker⟩
        rw [WireLine.ofText, WireLine.segment_lf, hbytes, dropReturn_concat]
    | crlf => exact ⟨s, lineOf_of_dropReturn (dropReturn_concat _), h⟩
  · exact ⟨s, text?_of_fits hlast e, h⟩

theorem text?_carrier {payload s : String} (h : Carrier payload s)
    (hpayload : payload.toList.getLast? ≠ some '\r') (e : LineEnd) :
    (WireLine.ofText s e).text? = some s := by
  apply text?_of_fits
  -- Neither the field name nor the space behind it ends with a carriage return.
  have hlast : ∀ cs : List Char, '\r' ∉ cs → (cs ++ payload.toList).getLast? ≠ some '\r' := by
    intro cs hcs
    by_cases hempty : payload.toList = []
    · rw [hempty, List.append_nil]
      exact fun hlast => hcs (List.mem_of_getLast? hlast)
    · rwa [List.getLast?_append_of_ne_nil _ hempty]
  cases h with
  | joined hfield =>
      rw [String.toList_ofList]
      exact hlast _ (not_mem_of_eqIgnoreCase hfield (by decide))
  | @spaced field hfield =>
      have hfield : '\r' ∉ field := not_mem_of_eqIgnoreCase hfield (by decide)
      rw [String.toList_ofList, List.append_cons]
      exact hlast _ (by simp [hfield])

/-- Bytes that are no text are none without a carriage return at their end either. -/
theorem ofUtf8?_dropReturn {bs : List UInt8} (h : ofUtf8? bs = none) :
    ofUtf8? (dropReturn bs) = none := by
  rcases List.eq_nil_or_concat' bs with rfl | ⟨bs, b, rfl⟩
  · exact h
  · rw [dropReturn, List.getLast?_concat]
    split
    next hb =>
      obtain rfl : b = carriageReturn := Option.some.inj hb
      rw [List.dropLast_concat]
      by_contra hsome
      obtain ⟨s, hs⟩ := Option.ne_none_iff_exists'.1 hsome
      have hreturn : ofUtf8? [carriageReturn] = some "\r" := by decide
      rw [ofUtf8?_append hs, hreturn] at h
      contradiction
    next => exact h

/-- A line without meaning leaves a framer as it is. -/
theorem feedAll_filler {content : List UInt8} (h : Filler content) (e : LineEnd) (f : Framer) :
    f.feedAll (WireLine.text? ⟨content, e⟩).toList = ([], f) := by
  cases h with
  | keepAlive =>
      have htext : WireLine.text? ⟨toUtf8 ":", e⟩ = some ":" := text?_of_fits (by decide) e
      rw [htext]
      rfl
  | @text s hne hfits hevent hdata =>
      have htext : WireLine.text? ⟨toUtf8 s, e⟩ = some s := text?_of_fits hfits.2 e
      rw [htext, Option.toList_some, Framer.feedAll, Framer.feed_other hne hevent hdata]
      rfl
  | garbled hline hbad =>
      have hdrop : ofUtf8? (dropReturn (WireLine.segment ⟨content, e⟩)) = none := by
        cases e with
        | lf =>
            rw [WireLine.segment_lf]
            exact ofUtf8?_dropReturn hbad
        | crlf => rwa [WireLine.segment_crlf, dropReturn_concat]
      have htext : WireLine.text? ⟨content, e⟩ = none := by
        rw [WireLine.text?, lineOf, hdrop]
        rfl
      rw [htext]
      rfl

theorem feedAll_fillers {lines : List WireLine} (h : ∀ l ∈ lines, Filler l.content) (f : Framer) :
    f.feedAll (textsOf lines) = ([], f) := by
  induction lines with
  | nil => rfl
  | cons l lines ih =>
      rw [textsOf, List.flatMap_cons, Framer.feedAll_append,
        feedAll_filler (h l List.mem_cons_self) l.ending]
      exact congrArg (Prod.map ([] ++ ·) id) (ih fun l' hl => h l' (List.mem_cons_of_mem _ hl))

/-! ## What a stream releases -/

theorem textsOf_cons (l : WireLine) (lines : List WireLine) :
    textsOf (l :: lines) = l.text?.toList ++ textsOf lines :=
  rfl

theorem textsOf_append (lines more : List WireLine) :
    textsOf (lines ++ more) = textsOf lines ++ textsOf more :=
  List.flatMap_append

/-- Lines that send some payloads release them, whatever a framer waits for before. -/
theorem Sends.released {payloads : List String} {lines : List WireLine}
    (h : Sends payloads lines) (hfits : ∀ p ∈ payloads, FitsLine p) (f : Framer) :
    (f.feedAll (textsOf lines)).1 = payloads := by
  induction h generalizing f with
  | done => rfl
  | filler hfiller _ ih =>
      rw [textsOf_cons, Framer.feedAll_append, feedAll_filler hfiller]
      exact ih hfits f
  | @block payload marker carrier payloads e e' e'' between between' lines hmarker hbetween
      hcarrier hbetween' _ ih =>
      obtain ⟨marker', htext, hmarker'⟩ := text?_marker hmarker e
      have hfit : FitsLine payload := hfits payload List.mem_cons_self
      have hrest : ((⟨false⟩ : Framer).feedAll (textsOf lines)).1 = payloads :=
        ih (fun p hp => hfits p (List.mem_cons_of_mem _ hp)) ⟨false⟩
      have harm : f.feedAll [marker'] = ([], ⟨true⟩) := by
        rw [Framer.feedAll, Framer.feed_marker hmarker']
        rfl
      have hrelease : (⟨true⟩ : Framer).feedAll [carrier] = ([payload], ⟨false⟩) := by
        rw [Framer.feedAll, Framer.feed_carrier hcarrier]
        rfl
      have hblank : (⟨false⟩ : Framer).feedAll [""] = ([], ⟨false⟩) := by decide
      simp only [textsOf_cons, textsOf_append, Framer.feedAll_append, htext,
        text?_carrier hcarrier hfit.2, text?_of_fits (s := "") (by decide), Option.toList_some,
        harm, feedAll_fillers hbetween, hrelease, feedAll_fillers hbetween', hblank, hrest,
        List.nil_append]
      rfl

/-! ## The bytes of lines -/

theorem segments_bytes {lines : List WireLine} (h : ∀ l ∈ lines, lineFeed ∉ l.content) :
    segments (lines.flatMap WireLine.bytes) = (lines.map WireLine.segment, []) := by
  induction lines with
  | nil => rfl
  | cons l lines ih =>
      have hsegment : lineFeed ∉ l.segment := by
        obtain ⟨content, e⟩ := l
        have hcontent : lineFeed ∉ content := h _ List.mem_cons_self
        cases e with
        | lf => rwa [WireLine.segment_lf]
        | crlf =>
            rw [WireLine.segment_crlf, List.mem_append, not_or]
            exact ⟨hcontent, by decide⟩
      rw [List.flatMap_cons, WireLine.bytes, List.append_assoc, List.singleton_append,
        segments_line hsegment, ih fun l' hl => h l' (List.mem_cons_of_mem _ hl), List.map_cons]

theorem completed_segments (lines : List WireLine) :
    completed ((lines.map WireLine.segment).map lineOf) = textsOf lines := by
  induction lines with
  | nil => rfl
  | cons l lines ih =>
      rw [textsOf_cons, ← ih, WireLine.text?, completed, List.map_cons, List.map_cons,
        List.filterMap_cons]
      cases lineOf l.segment <;> rfl

/-- Lines arrive as the texts they are read as, wherever the chunks are cut. -/
theorem splitLines_bytes {ε : Type} {lines : List WireLine}
    (h : ∀ l ∈ lines, lineFeed ∉ l.content) {chunks : List (List UInt8)}
    (hbytes : chunks.flatten = lines.flatMap WireLine.bytes) :
    splitLines (chunks.map (.bytes : List UInt8 → Chunk ε)) = (textsOf lines).map .ok := by
  have hwhole := @splitLines_flatten ε chunks []
  rw [List.append_nil] at hwhole
  rw [hwhole, hbytes, splitLines, splitFrom, Splitter.push]
  simp only [List.nil_append, segments_bytes h, completed_segments]
  exact List.append_nil _

theorem lineFeed_not_mem_toUtf8 {s : String} (h : '\n' ∉ s.toList) : lineFeed ∉ toUtf8 s :=
  fun hmem => h (mem_of_mem_toUtf8 hmem (by decide))

theorem Marker.newline_not_mem {s : String} (h : Marker s) : '\n' ∉ s.toList := by
  obtain @⟨field, before, name, after, hfield, hname, hblank⟩ := h
  have hfield : '\n' ∉ field := not_mem_of_eqIgnoreCase hfield (by decide)
  have hname : '\n' ∉ name := not_mem_of_eqIgnoreCase hname (by decide)
  have hblank : '\n' ∉ before ++ after := fun hmem => (hblank _ hmem).2 rfl
  simp only [String.toList_ofList, List.mem_append, not_or] at hblank ⊢
  exact ⟨hfield, hblank.1, hname, hblank.2⟩

theorem Carrier.newline_not_mem {payload s : String} (h : Carrier payload s)
    (hpayload : '\n' ∉ payload.toList) : '\n' ∉ s.toList := by
  cases h with
  | @joined field hfield =>
      have hfield : '\n' ∉ field := not_mem_of_eqIgnoreCase hfield (by decide)
      simp [hfield, hpayload]
  | @spaced field hfield =>
      have hfield : '\n' ∉ field := not_mem_of_eqIgnoreCase hfield (by decide)
      simp [hfield, hpayload]

theorem Filler.lineFeed_not_mem {content : List UInt8} (h : Filler content) :
    lineFeed ∉ content := by
  cases h with
  | keepAlive => decide
  | text _ hfits => exact lineFeed_not_mem_toUtf8 hfits.1
  | garbled hline => exact hline

theorem Sends.lineFeed_not_mem {payloads : List String} {lines : List WireLine}
    (h : Sends payloads lines) (hfits : ∀ p ∈ payloads, FitsLine p) :
    ∀ l ∈ lines, lineFeed ∉ l.content := by
  induction h with
  | done => exact fun l hl => absurd hl List.not_mem_nil
  | filler hfiller _ ih => exact List.forall_mem_cons.2 ⟨hfiller.lineFeed_not_mem, ih hfits⟩
  | block hmarker hbetween hcarrier hbetween' _ ih =>
      obtain ⟨hfit, hfits⟩ := List.forall_mem_cons.1 hfits
      have hmarker := lineFeed_not_mem_toUtf8 hmarker.newline_not_mem
      have hcarrier := lineFeed_not_mem_toUtf8 (hcarrier.newline_not_mem hfit.1)
      have hblank : lineFeed ∉ toUtf8 "" := by decide
      refine List.forall_mem_cons.2 ⟨hmarker, List.forall_mem_append.2
        ⟨fun l hl => (hbetween l hl).lineFeed_not_mem, List.forall_mem_cons.2 ⟨hcarrier,
          List.forall_mem_append.2 ⟨fun l hl => (hbetween' l hl).lineFeed_not_mem,
            List.forall_mem_cons.2 ⟨hblank, ih hfits⟩⟩⟩⟩⟩

/-- **Payloads arrive as they are sent.** Every line of the stream is read as a text or dropped, no
item is a failure, and the texts release exactly the payloads, in order. -/
theorem received_as_sent {ε : Type} {payloads : List String} {lines : List WireLine}
    (hsends : Sends payloads lines) (hfits : ∀ p ∈ payloads, FitsLine p)
    {chunks : List (List UInt8)} (hbytes : chunks.flatten = lines.flatMap WireLine.bytes) :
    ∃ texts, splitLines (chunks.map (.bytes : List UInt8 → Chunk ε)) = texts.map .ok
      ∧ (({} : Framer).feedAll texts).1 = payloads :=
  ⟨textsOf lines, splitLines_bytes (hsends.lineFeed_not_mem hfits) hbytes,
    hsends.released hfits {}⟩

/-- A payload cut inside a character, behind a line that is not UTF-8 and in front of one that keeps
the connection alive. -/
theorem received_as_sent_cut :
    ∃ texts, splitLines ([toUtf8 "Event:\treceive \r\n" ++ [0xFF, 0x0A], toUtf8 "DATA:  " ++ [0xC3],
        [0xA9] ++ toUtf8 "\r\n:\n\n"].map (.bytes : List UInt8 → Chunk Unit)) = texts.map .ok
      ∧ (({} : Framer).feedAll texts).1 = [" é"] :=
  have hmarker : Marker (String.ofList "Event:\treceive \r".toList) :=
    @Marker.mk "Event:".toList ['\t'] "receive".toList " \r".toList (by decide) (by decide)
      (by decide)
  have hcarrier : Carrier " é" (String.ofList "DATA:  é".toList) :=
    @Carrier.spaced " é" "DATA:".toList (by decide)
  have hsends : Sends [" é"] [.ofText (String.ofList "Event:\treceive \r".toList) .lf,
      ⟨[0xFF], .lf⟩, .ofText (String.ofList "DATA:  é".toList) .crlf, .ofText ":" .lf,
      .ofText "" .lf] :=
    @Sends.block " é" _ _ [] .lf .crlf .lf [⟨[0xFF], .lf⟩] [.ofText ":" .lf] [] hmarker
      (List.forall_mem_singleton.2 (.garbled (by decide) (by decide))) hcarrier
      (List.forall_mem_singleton.2 .keepAlive) .done
  received_as_sent hsends (by decide) (by decide)

end Messenger.Stream
