import Messenger.Proofs.Event.Said
import Messenger.Proofs.Text.Cut

set_option autoImplicit false

/-! # No text is dropped in silence

Whatever becomes of the text of an event is recorded. A text that yields no message leaves one
record, which is a warning that shows how the text begins unless the kind of event is one that is
never delivered; a message leaves one record, and a second one if the title of its group was sought
in vain (`every_text_accounted_for`). These are the records of the classifier: a resolver has its
own, which stand between them. -/

namespace Messenger.Event

open Json

variable {σ : Type}

/-! ## What is to be recorded -/

/-- The record shows how the text begins: in canonical form if it is JSON. -/
def Shows (text : String) (record : LogRecord) : Prop :=
  match Value.parse text with
  | .ok payload => ∃ shown, record.fields.lookup "payload_preview" = some shown
      ∧ Text.LongestFit 200 payload.compact shown
  | .error _ => ∃ shown, record.fields.lookup "data_preview" = some shown
      ∧ Text.LongestFit 100 text shown

/-- What is recorded of a text, by what it is classified as and by what is found out about the title
of the group of a message, if anybody is asked. -/
inductive Accounts (text : String) (found : Message → Option Title) :
    Classification → List LogRecord → Prop where
  | warned {reason : Ignored} {record : LogRecord}
      (hreason : reason.isMalformed = true ∨ reason = .unsupported) (hlevel : record.level = .warn)
      (hshows : Shows text record) : Accounts text found (.error reason) [record]
  | noted {reason : Ignored} {record : LogRecord}
      (hreason : reason = .remoteDelete ∨ reason = .receipt ∨ reason = .typing)
      (hlevel : record.level = .debug) : Accounts text found (.error reason) [record]
  | received {m : Message} {record : LogRecord}
      (hfound : found m = none ∨ ∃ title, found m = some (.known title))
      (hlevel : record.level = .info) : Accounts text found (.ok m) [record]
  | unknown {m : Message} {record more : LogRecord} (hfound : found m = some .unknown)
      (hlevel : record.level = .info) (hmore : more.level = .debug) :
      Accounts text found (.ok m) [record, more]
  | failed {m : Message} {record more : LogRecord} (hfound : found m = some .failed)
      (hlevel : record.level = .info) (hmore : more.level = .warn) :
      Accounts text found (.ok m) [record, more]

/-- Two outcomes of which the second has some more records, between those of the first, and is
otherwise the same. -/
structure Interspersed (own all : Outcome σ) (more : List LogRecord) : Prop where
  classification : own.1 = all.1
  state : own.2.2 = all.2.2
  records : ∃ before after, own.2.1 = before ++ after ∧ all.2.1 = before ++ more ++ after

/-! ## Resolvers and their records -/

/-- A search for titles that has the same results and records nothing. -/
def silenced (find : String → String → σ → Title × List LogRecord × σ) :
    String → String → σ → Title × List LogRecord × σ :=
  fun account groupId s => ((find account groupId s).1, [], (find account groupId s).2.2)

/-- What a resolver returns for a message: nothing if there is none, or no group. -/
def consulted (resolver : Resolver σ) (s : σ) (m : Message) :
    Option (Title × List LogRecord × σ) :=
  match resolver, m.envelope.groupId with
  | some find, some groupId => some (find m.account groupId s)
  | _, _ => none

/-- The title that a resolver returns. -/
def titleFound (resolver : Resolver σ) (s : σ) (m : Message) : Option Title :=
  (consulted resolver s m).map (·.1)

/-- The records that a resolver returns while a payload is classified. -/
def foreign (resolver : Resolver σ) (s : σ) : Classification → List LogRecord
  | .ok m => ((consulted resolver s m).map (·.2.1)).getD []
  | .error _ => []

/-- A title does not change whom a resolver is asked about. -/
theorem consulted_withTitle (resolver : Resolver σ) (s : σ) (m : Message) (title : Title) :
    consulted resolver s (withTitle m title) = consulted resolver s m := by
  cases title <;> rfl

/-! ## What is recorded -/

/-- A payload that breaks the contract, or of an unknown shape, is reported with its beginning. -/
theorem dropped_of_warned {reason : Ignored}
    (h : reason.isMalformed = true ∨ reason = .unsupported) (payload : Value) :
    (dropped reason payload).level = .warn
      ∧ (dropped reason payload).fields.lookup "payload_preview"
        = some (Text.cut payloadPreview payload.compact) := by
  rcases h with h | rfl
  · rw [dropped, if_pos h]
    exact ⟨rfl, rfl⟩
  · exact ⟨rfl, rfl⟩

theorem accounts_dropped {text : String} {payload : Value} (hparse : Value.parse text = .ok payload)
    (found : Message → Option Title) (reason : Ignored) :
    Accounts text found (.error reason) [dropped reason payload] := by
  have hwarned (h : reason.isMalformed = true ∨ reason = .unsupported) :
      Accounts text found (.error reason) [dropped reason payload] := by
    obtain ⟨hlevel, hpreview⟩ := dropped_of_warned h payload
    refine .warned h hlevel ?_
    rw [Shows, hparse]
    exact ⟨_, hpreview, Text.longestFit_cut _ _⟩
  cases reason with
  | remoteDelete => exact .noted (.inl rfl) rfl
  | receipt => exact .noted (.inr (.inl rfl)) rfl
  | typing => exact .noted (.inr (.inr rfl)) rfl
  | unsupported => exact hwarned (.inr rfl)
  | _ => exact hwarned (.inl rfl)

theorem accounts_unparsable {text : String} {fault : Fault} (hparse : Value.parse text = .error fault)
    (found : Message → Option Title) :
    Accounts text found (.error .invalidJson) [unparsable text] := by
  refine .warned (.inl rfl) rfl ?_
  rw [Shows, hparse]
  exact ⟨_, rfl, Text.longestFit_cut _ _⟩

/-! ## Payloads and texts -/

section Payload

variable {payload : Value} {m : Message}

theorem classify_of_ignored {reason : Ignored} (hparse : parse payload = .error reason)
    (resolver : Resolver σ) (s : σ) :
    classify resolver payload s = (.error reason, [dropped reason payload], s) := by
  rw [classify, parseLogged, hparse]

/-- A message about whose group nobody is asked. -/
theorem classify_of_not_consulted {resolver : Resolver σ} {s : σ} (hparse : parse payload = .ok m)
    (hnone : resolver = none ∨ m.envelope.groupId = none) :
    classify resolver payload s = (.ok m, [received m], s) := by
  rw [classify, parseLogged, hparse]
  rcases hnone with rfl | hgroup
  · rfl
  · cases resolver <;> simp only [hgroup]

theorem classify_of_consulted {find : String → String → σ → Title × List LogRecord × σ}
    {groupId : String} (s : σ) (hparse : parse payload = .ok m)
    (hgroup : m.envelope.groupId = some groupId) :
    classify (some find) payload s
      = (.ok (withTitle m (find m.account groupId s).1),
          received m :: ((find m.account groupId s).2.1
            ++ unresolved (find m.account groupId s).1 m.account groupId),
          (find m.account groupId s).2.2) := by
  rw [classify, parseLogged, hparse]
  simp only [hgroup]
  rfl

end Payload

/-- The title that was found, or not, is accounted for beside the message. -/
theorem accounts_titled {text : String} {found : Message → Option Title} {m m' : Message}
    {title : Title} (hfound : found m' = some title) (account groupId : String) :
    Accounts text found (.ok m') (received m :: unresolved title account groupId) := by
  cases title with
  | known t => exact .received (.inr ⟨t, hfound⟩) rfl
  | unknown => exact .unknown hfound rfl rfl
  | failed => exact .failed hfound rfl rfl

theorem classify_accounted {text : String} {payload : Value}
    (htext : Value.parse text = .ok payload) (resolver : Resolver σ) (s : σ) :
    Interspersed (classify (resolver.map silenced) payload s) (classify resolver payload s)
        (foreign resolver s (classify resolver payload s).1)
      ∧ Accounts text (titleFound resolver s) (classify resolver payload s).1
        (classify (resolver.map silenced) payload s).2.1 := by
  cases hparse : parse payload with
  | error reason =>
      rw [classify_of_ignored hparse, classify_of_ignored hparse]
      exact ⟨⟨rfl, rfl, [_], [], rfl, rfl⟩, accounts_dropped htext _ reason⟩
  | ok m =>
      by_cases hnone : resolver = none ∨ m.envelope.groupId = none
      · have hsilenced : resolver.map silenced = none ∨ m.envelope.groupId = none :=
          hnone.imp_left fun h => by rw [h, Option.map_none]
        have hconsulted : consulted resolver s m = none := by
          rcases hnone with rfl | hgroup
          · rfl
          · cases resolver <;> simp only [consulted, hgroup]
        rw [classify_of_not_consulted hparse hnone, classify_of_not_consulted hparse hsilenced]
        refine ⟨⟨rfl, rfl, [_], [], rfl, ?_⟩, .received (.inl ?_) rfl⟩
        · rw [foreign, hconsulted]
          rfl
        · rw [titleFound, hconsulted]
          rfl
      · obtain ⟨hresolver, hgroup⟩ := not_or.1 hnone
        obtain ⟨find, rfl⟩ := Option.ne_none_iff_exists'.1 hresolver
        obtain ⟨groupId, hgroup⟩ := Option.ne_none_iff_exists'.1 hgroup
        have hconsulted (title : Title) : consulted (some find) s (withTitle m title)
            = some (find m.account groupId s) := by
          rw [consulted_withTitle]
          simp only [consulted, hgroup]
        rw [Option.map_some, classify_of_consulted s hparse hgroup,
          classify_of_consulted s hparse hgroup]
        refine ⟨⟨rfl, rfl, [received m], _, rfl, ?_⟩, accounts_titled ?_ _ _⟩
        · rw [foreign, hconsulted]
          rfl
        · rw [titleFound, hconsulted]
          rfl

/-- **No text is dropped in silence.** Of its own, the classifier leaves for every text exactly the
records of `Accounts`: one that is a warning for a text that is malformed or of an unknown shape, and
shows as many bytes of it as a record may, without breaking a character; one of detail for a kind of
event that is not delivered; one for a message, and one more if the resolver does not know the title
of its group or fails. The records of the resolver stand between them and change nothing else. -/
theorem every_text_accounted_for (resolver : Resolver σ) (text : String) (s : σ) :
    let all := classifyText resolver text s
    let own := classifyText (resolver.map silenced) text s
    Interspersed own all (foreign resolver s all.1)
      ∧ Accounts text (titleFound resolver s) all.1 own.2.1 := by
  cases htext : Value.parse text with
  | ok payload =>
      simp only [classifyText, htext]
      exact classify_accounted htext resolver s
  | error fault =>
      simp only [classifyText, htext]
      exact ⟨⟨rfl, rfl, [_], [], rfl, rfl⟩, accounts_unparsable htext _⟩

/-- Whatever a resolver that fails records is followed by the record of its failure. -/
example (s : σ) :
    (classify (some fun _ _ s => (.failed, [.debug "asked"], s)) (.obj [("account", .str "+1"),
      ("envelope", .obj [("timestamp", .int 5), ("dataMessage", .obj [("message", .str "hi"),
        ("groupInfo", .obj [("groupId", .str "g")])])])]) s).2.1.map (·.level)
      = [.info, .debug, .warn] := rfl

end Messenger.Event
