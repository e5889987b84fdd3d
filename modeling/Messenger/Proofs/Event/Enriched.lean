import Messenger.Proofs.Cache.Titles
import Messenger.Proofs.Event.Said

set_option autoImplicit false

/-! # Messages with the titles of their groups

A resolver adds the title of a group to a message, and that is all it does
(`enriched_by_title_only`). Whatever it answers, a payload is ignored for the same reason, and a
message keeps everything but the title, which it has exactly if the resolver knows one. A resolver
is asked at most once, about the account and the group of the message, and never about a payload
that yields no message of a group.

Where a cache of groups stands behind the resolver, the title is the name of the group with that
very identifier in the directory of the account. -/

namespace Messenger.Event

open Json

variable {σ : Type}

/-! ## What a resolver is asked -/

/-- A title that was sought, and what was found. -/
structure Inquiry where
  account : String
  groupId : String
  title : Title
deriving DecidableEq

/-- A search for titles that keeps a record of what it is asked, oldest first. -/
def recorded (find : String → String → σ → Title × List LogRecord × σ) :
    String → String → σ × List Inquiry → Title × List LogRecord × σ × List Inquiry :=
  fun account groupId s =>
    let (title, log, state) := find account groupId s.1
    (title, log, state, s.2 ++ [⟨account, groupId, title⟩])

/-- What is to be asked once a payload is classified: the title of the group of a message. -/
def inquiry? (find : String → String → σ → Title × List LogRecord × σ) (s : σ) :
    Classification → Option Inquiry
  | .error _ => none
  | .ok m => m.envelope.groupId.map fun groupId =>
      ⟨m.account, groupId, (find m.account groupId s).1⟩

/-- A message with the title that was found, if one was sought. -/
def titled : Option Inquiry → Message → Message
  | some inquiry, m => withTitle m inquiry.title
  | none, m => m

/-- The message `m'` is the message `m`, up to the title of its group. -/
structure SameButTitle (m m' : Message) : Prop where
  content : m'.content = m.content
  envelope : m'.envelope = { m.envelope with groupName := m'.envelope.groupName }

/-! ## Classifying with a resolver -/

variable (find : String → String → σ → Title × List LogRecord × σ) (payload : Value) (s : σ)

theorem classify_fst :
    (classify (some find) payload s).1
      = (parseLogged payload).1.map (titled (inquiry? find s (parseLogged payload).1)) := by
  unfold classify
  rcases parseLogged payload with ⟨reason | m, log⟩
  · rfl
  · cases hgroup : m.envelope.groupId <;> simp [inquiry?, titled, hgroup, Except.map]

/-- A resolver is left as the one inquiry leaves it, and untouched if there is none. -/
theorem classify_state :
    (classify (some find) payload s).2.2
      = match inquiry? find s (parseLogged payload).1 with
        | some inquiry => (find inquiry.account inquiry.groupId s).2.2
        | none => s := by
  unfold classify
  rcases parseLogged payload with ⟨reason | m, log⟩
  · rfl
  · cases hgroup : m.envelope.groupId <;> simp [inquiry?, hgroup]

theorem inquiry?_recorded (asked : List Inquiry) (c : Classification) :
    inquiry? (recorded find) (s, asked) c = inquiry? find s c := by
  cases c <;> rfl

/-- What is found is what a resolver answers to the inquiry. -/
theorem title_of_inquiry? {c : Classification} {q : Inquiry} (h : inquiry? find s c = some q) :
    (find q.account q.groupId s).1 = q.title := by
  cases c with
  | error reason => cases h
  | ok m =>
      rw [inquiry?, Option.map_eq_some_iff] at h
      obtain ⟨groupId, -, rfl⟩ := h
      rfl

/-- The record is as long as there are inquiries, and holds them. -/
theorem asked_of_classify (asked : List Inquiry) :
    (classify (some (recorded find)) payload (s, asked)).2.2.2
      = asked ++ (inquiry? find s (parseLogged payload).1).toList := by
  rw [classify_state, inquiry?_recorded]
  cases hinquiry : inquiry? find s (parseLogged payload).1 with
  | none => exact (List.append_nil asked).symm
  | some q => simp [recorded, title_of_inquiry? find s hinquiry]

/-- A resolver is asked about a message of a group. -/
theorem classify_of_group {m : Message} {groupId : String}
    (hm : (parseLogged payload).1 = .ok m) (hgroup : m.envelope.groupId = some groupId) :
    (classify (some find) payload s).1
        = .ok (titled (some ⟨m.account, groupId, (find m.account groupId s).1⟩) m)
      ∧ (classify (some find) payload s).2.2 = (find m.account groupId s).2.2 := by
  have hinquiry : inquiry? find s (parseLogged payload).1
      = some ⟨m.account, groupId, (find m.account groupId s).1⟩ := by
    rw [hm, inquiry?, hgroup, Option.map_some]
  rw [classify_fst, classify_state, hinquiry, hm]
  exact ⟨rfl, rfl⟩

theorem classify_none_fst :
    (classify (none : Resolver σ) payload s).1 = (parseLogged payload).1 := by
  unfold classify
  rcases parseLogged payload with ⟨reason | m, log⟩ <;> rfl

/-- A payload says nothing of the title of a group. -/
theorem groupName_of_parseLogged {payload : Value} {m : Message}
    (h : (parseLogged payload).1 = .ok m) : m.envelope.groupName = none := by
  rw [parseLogged_fst, parse_eq_ok_iff_said] at h
  exact h.envelope.groupName

/-! ## Adding a title -/

theorem sameButTitle_withTitle (m : Message) (title : Title) :
    SameButTitle m (withTitle m title) := by
  cases title with
  | known t => exact ⟨(m.withGroupName_eq t).1, (m.withGroupName_eq t).2⟩
  | unknown => exact ⟨rfl, rfl⟩
  | failed => exact ⟨rfl, rfl⟩

theorem groupName_withTitle {m : Message} (hm : m.envelope.groupName = none) (title : Title)
    (t : String) : (withTitle m title).envelope.groupName = some t ↔ title = .known t := by
  cases title <;> simp [withTitle, Message.withGroupName, hm]

/-- A message is known by its title and the message that it is up to the title. -/
theorem SameButTitle.eq {m m₁ m₂ : Message} (h₁ : SameButTitle m m₁) (h₂ : SameButTitle m m₂)
    (htitle : m₁.envelope.groupName = m₂.envelope.groupName) : m₁ = m₂ := by
  have henvelope : m₁.envelope = m₂.envelope := by
    rw [h₁.envelope, h₂.envelope, htitle]
  have hcontent : m₁.content = m₂.content := h₁.content.trans h₂.content.symm
  cases m₁
  cases m₂
  rw [Message.mk.injEq]
  exact ⟨henvelope, hcontent⟩

/-- A message without title gets the one that was found, and nothing else about it changes. -/
theorem titled_eq_iff {m : Message} (hm : m.envelope.groupName = none) (inquiry : Option Inquiry)
    (m' : Message) :
    titled inquiry m = m' ↔ SameButTitle m m' ∧ ∀ t, m'.envelope.groupName = some t
      ↔ ∃ q, inquiry = some q ∧ q.title = .known t := by
  have hsame : SameButTitle m (titled inquiry m) := by
    cases inquiry with
    | none => exact ⟨rfl, rfl⟩
    | some q => exact sameButTitle_withTitle m q.title
  have hname : ∀ t, (titled inquiry m).envelope.groupName = some t
      ↔ ∃ q, inquiry = some q ∧ q.title = .known t := by
    intro t
    cases inquiry with
    | none => simp [titled, hm]
    | some q => simp [titled, groupName_withTitle hm]
  constructor
  · rintro rfl
    exact ⟨hsame, hname⟩
  · rintro ⟨hsame', hname'⟩
    exact hsame.eq hsame' (Option.ext fun t => (hname t).trans (hname' t).symm)

/-! ## Enriched messages -/

/-- **A resolver adds titles and nothing else.** For the same payload the reasons are the same, and
so are the messages up to the titles, which are those that the resolver knows. It is asked at most
once, for the account and the group of the message that the payload yields. In a cache of groups,
whatever happened to it before, a title is found exactly if it is the name of the group with that
identifier in the directory that the account is answered; the groups of a daemon are loaded into
such a cache. -/
theorem enriched_by_title_only :
    (∀ asked : List Inquiry,
      let plain := (parseLogged payload).1
      let enriched := classify (some (recorded find)) payload (s, asked)
      (∀ reason, enriched.1 = .error reason ↔ plain = .error reason)
        ∧ (∀ m', enriched.1 = .ok m' ↔ ∃ m, plain = .ok m ∧ SameButTitle m m'
          ∧ ∀ t, m'.envelope.groupName = some t
            ↔ ∃ q, inquiry? find s plain = some q ∧ q.title = .known t)
        ∧ enriched.2.2.2 = asked ++ (inquiry? find s plain).toList
        ∧ (classify (some find) payload s).1 = enriched.1
        ∧ (classify (none : Resolver σ) payload s).1 = plain)
      ∧ (∀ (list : GroupDirectory.Lister σ) (ttl now : Nat) (ops : List Cache.Operation)
          (m : Message) (groupId : String),
        (parseLogged payload).1 = .ok m → m.envelope.groupId = some groupId →
        let load := GroupDirectory.loading list
        let c := (Cache.Course.start ttl now s).run load Cache.titleInGroups ops
        let enriched := classify (Cache.titles (Cache.recorded load) c.now) payload
          (c.cache, c.state)
        ∃ m' directory, enriched.1 = .ok m' ∧ SameButTitle m m'
          ∧ c.Answers m.account directory enriched.2.2.2.2
          ∧ ∀ t, m'.envelope.groupName = some t ↔ ∃ groups, directory = .ok groups
            ∧ ∃ g ∈ groups.items, g.id = groupId ∧ g.name = some t)
      ∧ ∀ {δ : Type} (d : Daemon δ), GroupDirectory.load d
        = GroupDirectory.loading fun account link =>
            link.list d listGroups Group.ofJson account := by
  refine ⟨fun asked => ?_, fun list ttl now ops m groupId hm hgroup => ?_,
    fun d => GroupDirectory.load_eq_loading d⟩
  · intro plain enriched
    have hfst : enriched.1 = plain.map (titled (inquiry? find s plain)) := by
      simp only [enriched, classify_fst, inquiry?_recorded, plain]
    refine ⟨fun reason => ?_, fun m' => ?_, ?_, ?_, classify_none_fst payload s⟩
    · rw [hfst]
      cases plain <;> simp [Except.map]
    · rw [hfst, Decoder.map_eq_ok_iff]
      refine exists_congr fun m => and_congr_right fun hm => ?_
      exact titled_eq_iff (groupName_of_parseLogged hm) _ m'
    · exact asked_of_classify find payload s asked
    · rw [hfst, classify_fst]
  · intro load c enriched
    obtain ⟨directory, hanswers, htitle⟩ :=
      Cache.Course.title_of_directory list ttl now s ops m.account groupId
    obtain ⟨hfst, hstate⟩ := classify_of_group
      (Cache.findTitle (Cache.recorded load) c.now) payload (c.cache, c.state) hm hgroup
    rw [← Cache.titles_eq] at hfst hstate
    obtain ⟨hsame, hname⟩ := (titled_eq_iff (groupName_of_parseLogged hm) _ _).1 rfl
    refine ⟨_, directory, hfst, hsame, hstate ▸ hanswers, fun t => ?_⟩
    refine (hname t).trans ?_
    simp only [Option.some.injEq, exists_eq_left']
    exact htitle t

/-- A text to a group. -/
def groupText (groupId : String) : Value :=
  .obj [("account", .str "+1"), ("envelope", .obj [("timestamp", .int 5), ("dataMessage",
    .obj [("message", .str "hi"), ("groupInfo", .obj [("groupId", .str groupId)])])])]

/-- A group about which only its identifier and title are known. -/
def groupWithTitle (id title : String) : Group :=
  ⟨id, some title, none, -1, ⟨none, none, none⟩, []⟩

/-- Identifiers are compared exactly: of two groups whose identifiers differ in case only, the title
is that of the one to which the message belongs. -/
theorem enriched_by_title_only_of_its_group :
    let list : GroupDirectory.Lister Unit := fun _ s =>
      (.ok [groupWithTitle "G" "Others", groupWithTitle "g" "Team"], [], s)
    let m : Message := ⟨⟨"+1", "Unknown", "Unknown", "Unknown", 5, some "g", none⟩,
      .text "hi" false (-1)⟩
    (parseLogged (groupText "g")).1 = .ok m ∧ m.envelope.groupId = some "g"
      ∧ ∃ m', (classify (Cache.titles (Cache.recorded (GroupDirectory.loading list)) 0)
          (groupText "g") ({ ttl := 10 }, (), [])).1 = .ok m'
        ∧ SameButTitle m m' ∧ m'.envelope.groupName = some "Team" := by
  intro list m
  have hm : (parseLogged (groupText "g")).1 = .ok m := rfl
  obtain ⟨-, hcache, -⟩ := enriched_by_title_only (fun _ _ s => (.unknown, [], s)) (groupText "g") ()
  obtain ⟨m', directory, henriched, hsame, hanswers, htitle⟩ := hcache list 10 0 [] m "g" hm rfl
  have hnot : ¬ Cache.Served 10 "+1" 0 ([] : List (Cache.Step GatewayError GroupDirectory)) := by
    rintro ⟨step, hstep, -⟩
    cases hstep
  have hloads : [("+1", (GroupDirectory.loading list "+1" ()).1)] = [("+1", directory)] :=
    hanswers.stale hnot
  obtain rfl : (GroupDirectory.loading list "+1" ()).1 = directory := by simpa using hloads
  exact ⟨hm, rfl, m', henriched, hsame, (htitle "Team").2
    ⟨_, rfl, groupWithTitle "g" "Team", by decide, rfl, rfl⟩⟩

end Messenger.Event
