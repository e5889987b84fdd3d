import Messenger.Proofs.Stream.Wire

set_option autoImplicit false

/-! # Which lines release a payload

A line releases a payload if it carries one and the last line before it that matters announces a
wanted event (`released_iff`). Only three kinds of lines matter: those that name an event, those that
carry a payload, and empty ones. So an announcement releases one payload at most, and whatever keeps
the connection alive or has no meaning can be left out.

What a framer has kept of the lines before is whether a payload is *awaited*. That is said here
about the lines alone, by what each of them means; that the framer keeps it is one lemma about a
line (`Framer.armed_feed_iff`) and an induction over the lines (`Framer.armed_feedAll_iff`). -/

namespace Messenger.Stream

open Text

/-! ## What lines mean -/

/-- A line names an event: the field name in any case, and the name, perhaps between blanks. -/
inductive Names (name : String) : String → Prop where
  | mk {field rest : List Char} (hfield : eqIgnoreCase field eventField = true)
      (hname : trim (String.ofList rest) = name) : Names name (String.ofList (field ++ rest))

/-- A line names the wanted event, in any case. -/
def Announces (line : String) : Prop :=
  ∃ name, Names name line ∧ eqIgnoreCase name.toList Framer.wanted = true

/-- A line that can change what is awaited. -/
inductive Matters : String → Prop where
  | name {name line : String} (h : Names name line) : Matters line
  | payload {payload line : String} (h : Carrier payload line) : Matters line
  | blank : Matters ""

/-- What follows a field name, in any case. -/
theorem afterField_eq_some_iff {field cs rest : List Char} :
    afterField field cs = some rest
      ↔ ∃ front, eqIgnoreCase front field = true ∧ cs = front ++ rest := by
  constructor
  · intro h
    unfold afterField at h
    split at h
    next hfield =>
      obtain rfl := Option.some.inj h
      exact ⟨_, hfield, (List.take_append_drop _ _).symm⟩
    next => contradiction
  · rintro ⟨front, hfield, rfl⟩
    exact afterField_append hfield

theorem Names.ofString {name line : String} (h : Names name line) :
    Line.ofString line = .event name := by
  obtain ⟨hfield, rfl⟩ := h
  rw [Line.ofString_of_length, afterField_append hfield]
  rw [List.length_append, length_of_eqIgnoreCase hfield]
  exact Nat.le_add_right_of_le (by decide)

theorem carrier_of_afterField {payload line : List Char}
    (h : afterField dataField line = some payload) :
    Carrier (String.ofList (dropSpace payload)) (String.ofList line) := by
  obtain ⟨field, hfield, rfl⟩ := afterField_eq_some_iff.1 h
  unfold dropSpace
  split
  next cs =>
    have hcarrier := @Carrier.spaced (String.ofList cs) field hfield
    rwa [String.toList_ofList] at hcarrier
  next hspace =>
    have hne : (String.ofList payload).toList.head? ≠ some ' ' := by
      rw [String.toList_ofList]
      intro hhead
      obtain ⟨cs, rfl⟩ := List.head?_eq_some_iff.1 hhead
      exact hspace cs rfl
    have hcarrier := Carrier.joined hfield hne
    rwa [String.toList_ofList] at hcarrier

/-- What a line can mean, and when. -/
theorem Line.ofString_cases (line : String) :
    line = "" ∧ Line.ofString line = .blank ∨ Line.ofString line = .keepAlive
      ∨ (∃ name, Names name line ∧ Line.ofString line = .event name)
      ∨ (∃ payload, Carrier payload line ∧ Line.ofString line = .data payload)
      ∨ Line.ofString line = .other := by
  obtain ⟨cs, rfl⟩ : ∃ cs, line = String.ofList cs := ⟨_, String.ofList_toList.symm⟩
  simp only [Line.ofString, String.toList_ofList]
  split
  next hempty =>
    rw [List.isEmpty_iff] at hempty
    exact .inl ⟨by rw [hempty], rfl⟩
  split
  · exact .inr (.inl rfl)
  split
  next rest hrest =>
    obtain ⟨field, hfield, rfl⟩ := afterField_eq_some_iff.1 hrest
    exact .inr (.inr (.inl ⟨_, .mk hfield rfl, rfl⟩))
  split
  next payload hpayload =>
    exact .inr (.inr (.inr (.inl ⟨_, carrier_of_afterField hpayload, rfl⟩)))
  · exact .inr (.inr (.inr (.inr rfl)))

/-- A line that names an event announces a payload if the name is the wanted one. -/
theorem announces_iff {name line : String} (h : Names name line) :
    Announces line ↔ eqIgnoreCase name.toList Framer.wanted = true := by
  constructor
  · rintro ⟨name', hname', hwanted⟩
    obtain rfl : name = name' := Line.event.inj (h.ofString.symm.trans hname'.ofString)
    exact hwanted
  · exact fun hwanted => ⟨name, h, hwanted⟩

theorem Announces.matters {line : String} (h : Announces line) : Matters line := by
  obtain ⟨name, hname, -⟩ := h
  exact .name hname

theorem Carrier.not_announces {payload line : String} (h : Carrier payload line) :
    ¬ Announces line := by
  rintro ⟨name, hname, -⟩
  have hline := h.ofString.symm.trans hname.ofString
  contradiction

theorem not_matters_iff {line : String} :
    ¬ Matters line ↔ Line.ofString line = .keepAlive ∨ Line.ofString line = .other := by
  constructor
  · intro h
    rcases Line.ofString_cases line with ⟨rfl, -⟩ | hline | ⟨name, hname, -⟩
      | ⟨payload, hcarrier, -⟩ | hline
    · exact absurd .blank h
    · exact .inl hline
    · exact absurd (.name hname) h
    · exact absurd (.payload hcarrier) h
    · exact .inr hline
  · rintro h hmatters
    cases hmatters with
    | name hname => simp [hname.ofString] at h
    | payload hcarrier => simp [hcarrier.ofString] at h
    | blank => simp [Line.ofString] at h

instance (line : String) : Decidable (Matters line) :=
  decidable_of_iff (¬ (Line.ofString line = .keepAlive ∨ Line.ofString line = .other))
    (by rw [← not_matters_iff, not_not])

theorem not_announces_blank : ¬ Announces "" := by
  rintro ⟨name, hname, -⟩
  have hline : Line.ofString "" = .event name := hname.ofString
  contradiction

/-! ## One line -/

namespace Framer

theorem feed_of_names {name line : String} (h : Names name line) (f : Framer) :
    f.feed line = (none, ⟨eqIgnoreCase name.toList wanted⟩) := by
  rw [feed, h.ofString]
  rfl

theorem feed_of_carrier {payload line : String} (h : Carrier payload line) (f : Framer) :
    f.feed line = if f.armed then (some payload, ⟨false⟩) else (none, f) := by
  rw [feed, h.ofString]
  rfl

/-- A line that does not matter leaves a framer as it is. -/
theorem feed_of_not_matters {line : String} (h : ¬ Matters line) (f : Framer) :
    f.feed line = (none, f) := by
  rcases not_matters_iff.1 h with hline | hline <;> rw [feed, hline] <;> rfl

/-- A line releases the payload that it carries, if one is awaited. -/
theorem feed_eq_some_iff {line payload : String} {f : Framer} :
    (f.feed line).1 = some payload ↔ f.armed = true ∧ Carrier payload line := by
  constructor
  · intro h
    by_cases hmatters : Matters line
    · cases hmatters with
      | name hname =>
          rw [feed_of_names hname] at h
          contradiction
      | payload hcarrier =>
          rw [feed_of_carrier hcarrier] at h
          split at h
          next harmed =>
            obtain rfl := Option.some.inj h
            exact ⟨harmed, hcarrier⟩
          next => contradiction
      | blank => contradiction
    · rw [feed_of_not_matters hmatters] at h
      contradiction
  · rintro ⟨harmed, hcarrier⟩
    rw [feed_of_carrier hcarrier, if_pos harmed]

/-- A payload is awaited after a line that announces one, and after a line that does not matter if
one was awaited before. -/
theorem armed_feed_iff {line : String} {f : Framer} :
    (f.feed line).2.armed = true ↔ Announces line ∨ f.armed = true ∧ ¬ Matters line := by
  by_cases hmatters : Matters line
  · rw [or_iff_left fun h => h.2 hmatters]
    cases hmatters with
    | name hname => rw [feed_of_names hname, announces_iff hname]
    | payload hcarrier =>
        have hdisarmed : (f.feed line).2.armed = false := by
          rw [feed_of_carrier hcarrier]
          split
          · rfl
          next harmed => exact Bool.eq_false_iff.2 harmed
        rw [hdisarmed]
        exact iff_of_false Bool.false_ne_true hcarrier.not_announces
    | blank => exact iff_of_false Bool.false_ne_true not_announces_blank
  · rw [feed_of_not_matters hmatters, or_iff_right fun h => hmatters (Announces.matters h)]
    exact (and_iff_left hmatters).symm

end Framer

/-! ## What is awaited -/

/-- Of some lines, the last one that matters announces a payload. -/
def Awaited (lines : List String) : Prop :=
  ∃ earlier marker later, lines = earlier ++ marker :: later ∧ Announces marker
    ∧ ∀ line ∈ later, ¬ Matters line

theorem awaited_concat_iff {lines : List String} {line : String} :
    Awaited (lines ++ [line]) ↔ Announces line ∨ Awaited lines ∧ ¬ Matters line := by
  constructor
  · rintro ⟨earlier, marker, later, hlines, hmarker, hlater⟩
    rcases List.eq_nil_or_concat' later with rfl | ⟨later, last, rfl⟩
    · obtain ⟨rfl, rfl⟩ := List.append_singleton_inj.1 hlines
      exact .inl hmarker
    · rw [← List.cons_append, ← List.append_assoc] at hlines
      obtain ⟨rfl, rfl⟩ := List.append_singleton_inj.1 hlines
      rw [List.forall_mem_append, List.forall_mem_singleton] at hlater
      exact .inr ⟨⟨earlier, marker, later, rfl, hmarker, hlater.1⟩, hlater.2⟩
  · rintro (hline | ⟨⟨earlier, marker, later, rfl, hmarker, hlater⟩, hline⟩)
    · exact ⟨lines, line, [], rfl, hline, List.forall_mem_nil _⟩
    · refine ⟨earlier, marker, later ++ [line], by rw [List.append_assoc]; rfl, hmarker, ?_⟩
      rw [List.forall_mem_append, List.forall_mem_singleton]
      exact ⟨hlater, hline⟩

namespace Framer

/-- A new framer keeps whether a payload is awaited. -/
theorem armed_feedAll_iff (lines : List String) :
    (({} : Framer).feedAll lines).2.armed = true ↔ Awaited lines := by
  induction lines using List.reverseRecOn with
  | nil =>
      refine iff_of_false Bool.false_ne_true ?_
      rintro ⟨earlier, marker, later, hlines, -⟩
      simp at hlines
  | append_singleton lines line ih =>
      rw [feedAll_append, awaited_concat_iff, ← ih]
      exact armed_feed_iff

/-- What each of some lines releases. -/
def releases (f : Framer) : List String → List (Option String)
  | [] => []
  | line :: lines => (f.feed line).1 :: releases (f.feed line).2 lines

theorem feedAll_fst (f : Framer) (lines : List String) :
    (f.feedAll lines).1 = (f.releases lines).reduceOption := by
  induction lines generalizing f with
  | nil => rfl
  | cons line lines ih =>
      show (f.feed line).1.toList ++ ((f.feed line).2.feedAll lines).1 = _
      rw [ih, releases]
      cases (f.feed line).1 <;> rfl

/-- What a line releases depends on the lines before it. -/
theorem getElem?_releases (f : Framer) (lines : List String) (i : Nat) :
    (f.releases lines)[i]?
      = lines[i]?.map fun line => ((f.feedAll (lines.take i)).2.feed line).1 := by
  induction lines generalizing f i with
  | nil => rfl
  | cons line lines ih =>
      cases i with
      | zero => rfl
      | succ i =>
          rw [releases, List.getElem?_cons_succ, ih]
          rfl

/-- A line releases the payload that it carries, if one is awaited after the lines before it. -/
theorem getElem?_releases_eq_some_iff {lines : List String} {i : Nat} {payload : String} :
    (({} : Framer).releases lines)[i]? = some (some payload)
      ↔ Awaited (lines.take i) ∧ ∃ line, lines[i]? = some line ∧ Carrier payload line := by
  simp only [getElem?_releases, Option.map_eq_some_iff, feed_eq_some_iff, armed_feedAll_iff]
  exact ⟨fun ⟨line, hline, hawaited, hcarrier⟩ => ⟨hawaited, line, hline, hcarrier⟩,
    fun ⟨hawaited, line, hline, hcarrier⟩ => ⟨line, hline, hawaited, hcarrier⟩⟩

/-- A line that does not matter can be left out. -/
theorem feedAll_without {line : String} (h : ¬ Matters line) (f : Framer)
    (front back : List String) : f.feedAll (front ++ line :: back) = f.feedAll (front ++ back) := by
  have hline : ∀ g : Framer, g.feedAll (line :: back) = g.feedAll back := by
    intro g
    rw [feedAll, feed_of_not_matters h]
    rfl
  rw [feedAll_append, feedAll_append, hline]

end Framer

/-- What is awaited was announced by one of the lines, and no line behind that matters. -/
theorem Awaited.exists_getElem? {lines : List String} {k : Nat} (h : Awaited (lines.take k)) :
    ∃ j marker, j < k ∧ lines[j]? = some marker ∧ Announces marker
      ∧ ∀ i line, j < i → i < k → lines[i]? = some line → ¬ Matters line := by
  obtain ⟨earlier, marker, later, htake, hmarker, hlater⟩ := h
  have hlookup : ∀ i < k, lines[i]? = (earlier ++ marker :: later)[i]? := fun i hi => by
    rw [← htake, List.getElem?_take_of_lt hi]
  have hj : earlier.length < k := by
    have hlength := congrArg List.length htake
    rw [List.length_take, List.length_append, List.length_cons] at hlength
    omega
  refine ⟨earlier.length, marker, hj, ?_, hmarker, fun i line hji hik hline => ?_⟩
  · rw [hlookup _ hj, List.getElem?_append_right le_rfl, Nat.sub_self]
    rfl
  · rw [hlookup i hik, List.getElem?_append_right hji.le, List.getElem?_cons,
      if_neg (by omega)] at hline
    exact hlater line (List.mem_of_getElem? hline)

/-- **Which lines release a payload.** Feed any lines to a new framer. A line releases a payload
exactly if it carries that payload and, of the lines before it that matter, the last one announces a
wanted event. The payloads released by all lines are these, in order, and one is awaited in the end
by the same rule. Between two lines that release a payload one announces a wanted event. A line that
does not matter can be left out. -/
theorem released_iff (lines : List String) :
    let released := ({} : Framer).releases lines
    (∀ i payload, released[i]? = some (some payload)
        ↔ Awaited (lines.take i) ∧ ∃ line, lines[i]? = some line ∧ Carrier payload line)
      ∧ (({} : Framer).feedAll lines).1 = released.reduceOption
      ∧ ((({} : Framer).feedAll lines).2.armed = true ↔ Awaited lines)
      ∧ (∀ (i k : Nat) (p q : String), i < k →
          released[i]? = some (some p) → released[k]? = some (some q) →
          ∃ j marker, i < j ∧ j < k ∧ lines[j]? = some marker ∧ Announces marker)
      ∧ ∀ front line back, lines = front ++ line :: back → ¬ Matters line →
          ({} : Framer).feedAll lines = ({} : Framer).feedAll (front ++ back) := by
  intro released
  refine ⟨fun _ _ => Framer.getElem?_releases_eq_some_iff, Framer.feedAll_fst _ lines,
    Framer.armed_feedAll_iff lines, ?_, ?_⟩
  · intro i k p q hik hi hk
    obtain ⟨-, line, hline, hcarrier⟩ := Framer.getElem?_releases_eq_some_iff.1 hi
    obtain ⟨hawaited, -⟩ := Framer.getElem?_releases_eq_some_iff.1 hk
    obtain ⟨j, marker, hjk, hj, hmarker, hbetween⟩ := hawaited.exists_getElem?
    refine ⟨j, marker, ?_, hjk, hj, hmarker⟩
    -- The first of the two lines matters, and announces nothing itself.
    rcases Nat.lt_trichotomy i j with hij | rfl | hji
    · exact hij
    · obtain rfl := Option.some.inj (hline.symm.trans hj)
      exact absurd hmarker hcarrier.not_announces
    · exact absurd (.payload hcarrier) (hbetween i line hji hik hline)
  · rintro front line back rfl hline
    exact Framer.feedAll_without hline {} front back

/-- Two of four payloads are released: the first one in spite of what stands between the name and
the payload, and not the one behind it, for which nothing was announced. -/
theorem released_iff_announced_twice :
    let front := ["data:early", "Event:\tRECEIVE "]
    let back := ["id:1", "DATA:  x", "data:late", "event:receive", ":", "data:y"]
    let lines := front ++ ": note" :: back
    let released := ({} : Framer).releases lines
    released.reduceOption = [" x", "y"] ∧ released[4]? = some (some " x")
      ∧ Awaited (lines.take 4) ∧ ¬ Matters ": note"
      ∧ (∃ j marker, 4 < j ∧ j < 8 ∧ lines[j]? = some marker ∧ Announces marker)
      ∧ (({} : Framer).feedAll (front ++ back)).1 = [" x", "y"] := by
  intro front back lines released
  obtain ⟨hlaw, hall, -, hbetween, hwithout⟩ := released_iff lines
  have hfirst : released[4]? = some (some " x") := by decide
  have hsecond : released[8]? = some (some "y") := by decide
  have hpayloads : released.reduceOption = [" x", "y"] := by decide
  have hnote : ¬ Matters ": note" := by decide
  refine ⟨hpayloads, hfirst, ((hlaw 4 " x").1 hfirst).1, hnote,
    hbetween 4 8 " x" "y" (by decide) hfirst hsecond, ?_⟩
  rw [← hwithout front ": note" back rfl hnote, hall, hpayloads]

end Messenger.Stream
