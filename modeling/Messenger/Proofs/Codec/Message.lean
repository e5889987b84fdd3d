import Messenger.Message.Codec
import Messenger.Proofs.Json.RoundTrip

set_option autoImplicit false

/-! # Messages written and read

A message is one flat object, and the kind among its members decides how the others are decoded, so
its decoder is none of the general ones. It is steady all the same: what it makes of an object does
not depend on where the kind stands (`Message.steady`). With the kind set apart, what is left are
the members of the envelope and of the content, each in its field. -/

namespace Messenger

open Json Decoder
open Decoder.Shape (ofMembers_field)

namespace Message

/-! ## Shapes -/

theorem textShape_orderless : textShape.Orderless where
  sets := by simp [textShape, envelopeFields, sets_field]
  apart := by simp [textShape, envelopeFields, apart_field]

theorem reactionShape_orderless : reactionShape.Orderless where
  sets := by simp [reactionShape, envelopeFields, sets_field]
  apart := by simp [reactionShape, envelopeFields, apart_field]

/-- A way in which messages are written. -/
structure IsKind (shape : Decoder.Shape Draft Message) : Prop where
  orderless : shape.Orderless
  steady : ∀ f ∈ shape.fields, f.put.Steady

theorem textShape_isKind : IsKind textShape :=
  ⟨textShape_orderless, by simp [textShape, envelopeFields]⟩

theorem reactionShape_isKind : IsKind reactionShape :=
  ⟨reactionShape_orderless, by simp [reactionShape, envelopeFields]⟩

theorem isKind_of_ofName {name : String} {shape : Decoder.Shape Draft Message}
    (h : ofName kinds name = .ok shape) : IsKind shape := by
  unfold ofName at h
  split at h
  · rename_i hlookup
    cases h
    simp only [kinds, List.lookup_cons] at hlookup
    split at hlookup
    · cases hlookup
      exact textShape_isKind
    · split at hlookup
      · cases hlookup
        exact reactionShape_isKind
      · cases hlookup
  · cases h

theorem kindDecoder_eq_ok_iff {v : Value} {shape : Decoder.Shape Draft Message} :
    kindDecoder.ofValue v = .ok shape ↔ ∃ name, v = .str name ∧ ofName kinds name = .ok shape := by
  rw [kindDecoder, bind_eq_ok_iff]
  simp only [string_eq_ok_iff]

theorem kindDecoder_faithful : kindDecoder.Faithful := by
  intro v shape depth i h hi hv
  obtain ⟨name, rfl, hname⟩ := kindDecoder_eq_ok_iff.1 hv
  have hread := faithful_string h hi rfl
  simp only [kindDecoder, hread, hname, bind, Except.bind]
  rfl

/-! ## Reading -/

/-- Read a member after the opening quote of its key, and what follows it. -/
def readMember (depth fuel : Nat) (kind : Option (Decoder.Shape Draft Message)) (ms : Members)
    (i : Input) : Except Fault (Message × Input) := do
  let (k, i) ← Read.stringBody [] true i
  if k = kindKey then
    if kind.isSome then .error .mismatched
    else do
      let (shape, i) ← kindDecoder.read depth (← Read.colon i)
      readMembers depth fuel false (some shape) ms i
  else do
    let (v, i) ← Read.anyValue depth (← Read.colon i)
    readMembers depth fuel false kind ((k, v) :: ms) i

theorem readMembers_first (depth fuel : Nat) (kind : Option (Decoder.Shape Draft Message))
    (ms : Members) (i : Input) :
    readMembers depth (fuel + 1) true kind ms (.char '"' :: i)
      = readMember depth fuel kind ms i := by
  rw [readMembers, skipSpace_cons rfl]
  rfl

theorem readMembers_comma (depth fuel : Nat) (kind : Option (Decoder.Shape Draft Message))
    (ms : Members) (i : Input) :
    readMembers depth (fuel + 1) false kind ms (.char ',' :: .char '"' :: i)
      = readMember depth fuel kind ms i := by
  rw [readMembers, skipSpace_cons rfl]
  rfl

/-- The kind of a message is known already, or one of the members to come says it. -/
inductive Pending (shape : Decoder.Shape Draft Message) :
    Option (Decoder.Shape Draft Message) → Members → Prop where
  | known {ms : Members} (h : ms.filter (·.1 == kindKey) = []) : Pending shape (some shape) ms
  | toCome {ms : Members} {k : String} {v : Value} (h : ms.filter (·.1 == kindKey) = [(k, v)])
      (hkind : kindDecoder.ofValue v = .ok shape) : Pending shape none ms

/-- The members other than the kind. -/
def others (ms : Members) : Members := ms.filter (·.1 != kindKey)

section Reading

variable {shape : Decoder.Shape Draft Message} {kind : Option (Decoder.Shape Draft Message)}
  {ms : Members} {m : Message} {depth : Nat} {i : Input}

/-- After a member, the kind is known or still to come, and its value is kept unless it is the
kind. -/
theorem readMember_spell (acc : Members) {k : String} {v : Value}
    (hpending : Pending shape kind ((k, v) :: ms))
    (h : v.Legible depth)
    (hvalue : shape.ofValue (.obj (acc.reverse ++ others ((k, v) :: ms))) = .ok m)
    (hi : Delimits i) (fuel : Nat) :
    ∃ kind' acc', Pending shape kind' ms
      ∧ shape.ofValue (.obj (acc'.reverse ++ others ms)) = .ok m
      ∧ readMember depth fuel kind acc
          (spell (k.toList.flatMap escapeChar) ++ .char '"' :: .char ':' :: (spell v.chars ++ i))
        = readMembers depth fuel false kind' acc' i := by
  by_cases hk : k = kindKey
  · -- Nothing is kept of the kind, and no later member says it again.
    subst hk
    cases hpending with
    | known hnone => simp at hnone
    | toCome hone hkind =>
        simp only [List.filter_cons, beq_self_eq_true, if_true, List.cons.injEq,
          Prod.mk.injEq] at hone
        obtain ⟨⟨rfl, rfl⟩, hnone⟩ := hone
        have hread := kindDecoder_faithful h hi hkind
        refine ⟨some shape, acc, .known hnone, by simpa [others] using hvalue, ?_⟩
        rw [readMember, Read.stringBody_spell]
        simp only [Read.colon_cons, hread, bind, Except.bind]
        rfl
  · have hread := Read.anyValue_spell h hi
    refine ⟨kind, (k, v) :: acc, ?_, by simpa [others, hk] using hvalue, ?_⟩
    · cases hpending with
      | known hnone => exact .known (by simpa [hk] using hnone)
      | toCome hone hkind => exact .toCome (by simpa [hk] using hone) hkind
    · rw [readMember, Read.stringBody_spell]
      simp only [Read.colon_cons, hread, hk, if_false, bind, Except.bind]

/-- The members of a message are read, in whatever order they stand. -/
theorem readMembers_spell {acc : Members} (hpending : Pending shape kind ms)
    (h : Value.LegibleMembers depth ms)
    (hvalue : shape.ofValue (.obj (acc.reverse ++ others ms)) = .ok m) {fuel : Nat}
    (hfuel : ms.length < fuel) :
    readMembers depth fuel false kind acc (spell (Value.memberChars ms) ++ i) = .ok (m, i) := by
  induction ms generalizing kind acc fuel with
  | nil =>
      obtain ⟨fuel, rfl⟩ : ∃ f, fuel = f + 1 := ⟨fuel - 1, by omega⟩
      cases hpending with
      | known _ =>
          rw [others, List.filter_nil, List.append_nil] at hvalue
          rw [Value.memberChars, spell_cons, List.cons_append, readMembers, skipSpace_cons rfl]
          simp only [required, hvalue, bind, Except.bind]
          rfl
      | toCome hone _ => cases hone
  | cons first ms ih =>
      obtain ⟨k, v⟩ := first
      obtain ⟨fuel, rfl⟩ : ∃ f, fuel = f + 1 := ⟨fuel - 1, by omega⟩
      obtain ⟨kind', acc', hpending, hvalue, hread⟩ :=
        readMember_spell acc hpending h.1 hvalue (delimits_memberChars ms i) fuel
      rw [Value.memberChars]
      simp only [spell_append, spell_cons, List.cons_append, List.append_assoc]
      rw [spell_stringChars, readMembers_comma, hread]
      exact ih hpending h.2 hvalue (Nat.lt_of_succ_lt_succ hfuel)

end Reading

/-- An object is a message if one of its members says the kind, and the others decode as that. -/
theorem ofMembers_eq_ok_iff {ms : Members} {m : Message} :
    ofMembers ms = .ok m
      ↔ ∃ shape, Pending shape none ms ∧ shape.ofValue (.obj (others ms)) = .ok m := by
  constructor
  · intro h
    unfold ofMembers at h
    split at h
    · rename_i k v hone
      obtain ⟨shape, hkind, hvalue⟩ := bind_eq_ok_iff.1 h
      exact ⟨shape, .toCome hone hkind, hvalue⟩
    · cases h
  · rintro ⟨shape, ⟨⟩ | @⟨_, k, v, hone, hkind⟩, hvalue⟩
    unfold ofMembers
    rw [hone]
    exact bind_eq_ok_iff.2 ⟨shape, hkind, hvalue⟩

/-- The object form is read from its brace on. -/
theorem read_brace (depth : Nat) (i : Input) :
    decoder.read (depth + 1) (.char '{' :: i)
      = readMembers depth (i.length + 1) true none [] i := rfl

theorem faithful : decoder.Faithful := by
  intro v m depth i h hi hv
  cases v with
  | obj ms =>
      obtain _ | depth := depth
      · exact h.elim
      obtain ⟨shape, hpending, hvalue⟩ := ofMembers_eq_ok_iff.1 hv
      obtain _ | ⟨⟨k, v⟩, ms⟩ := ms
      · cases hpending with
        | toCome hone _ => cases hone
      · rw [Value.chars, spell_cons, List.cons_append, read_brace]
        simp only [spell_append, spell_cons, List.cons_append, List.append_assoc]
        obtain ⟨kind', acc', hpending, hvalue, hread⟩ :=
          readMember_spell [] hpending h.1 hvalue (delimits_memberChars ms i) _
        rw [spell_stringChars, readMembers_first, hread]
        refine readMembers_spell hpending h.2 hvalue ?_
        have hlength := Value.length_lt_memberChars ms
        simp only [List.length_cons, List.length_append, length_spell]
        omega
  | _ => cases hv

/-! ## The order of members -/

theorem filter_sortedMembers (p : String → Bool) (ms : Members) :
    (Value.sortedMembers ms).filter (fun m => p m.1)
      = Value.sortedMembers (ms.filter fun m => p m.1) := by
  induction ms with
  | nil => rfl
  | cons m ms ih =>
      obtain ⟨k, v⟩ := m
      cases hk : p k <;> simp [Value.sortedMembers, hk, ih]

theorem ignoresOrder : decoder.IgnoresOrder := by
  intro v m h hv
  cases v with
  | obj ms =>
      obtain ⟨shape, hpending, hvalue⟩ := ofMembers_eq_ok_iff.1 hv
      obtain ⟨ms', hsorted, hperm⟩ := Value.sorted_obj_perm h
      cases hpending with
      | @toCome _ k v hone hkind =>
          obtain ⟨name, rfl, hname⟩ := kindDecoder_eq_ok_iff.1 hkind
          have hshape := isKind_of_ofName hname
          have hone' : ms'.filter (·.1 == kindKey) = [(k, .str name)] := by
            have hkinds := hperm.filter (·.1 == kindKey)
            rw [filter_sortedMembers (· == kindKey), hone] at hkinds
            exact List.perm_singleton.1 hkinds
          have hothers : (others ms').Perm (Value.sortedMembers (others ms)) := by
            have hrest := hperm.filter (·.1 != kindKey)
            rwa [filter_sortedMembers (· != kindKey)] at hrest
          have hdistinct : Value.DistinctMembers (others ms) :=
            Value.distinctMembers_iff.2 fun n hn =>
              Value.distinctMembers_iff.1 h.2 n (List.mem_of_mem_filter hn)
          rw [hsorted]
          refine ofMembers_eq_ok_iff.2 ⟨shape, .toCome hone' hkind, ?_⟩
          exact hshape.orderless.ofValue_obj (fun f hf => (hshape.steady f hf).ignoresOrder)
            hdistinct hothers hvalue
  | _ => cases hv

/-- **Messages are decoded whatever the order** of their members, and are read as they are
decoded. -/
theorem steady : decoder.Steady := ⟨faithful, ignoresOrder⟩

/-! ## Writing -/

/-- The draft of an envelope. -/
def Draft.ofEnvelope (e : Envelope) : Draft where
  account := some e.account
  sourceNumber := some e.sourceNumber
  sourceUuid := some e.sourceUuid
  sourceName := some e.sourceName
  timestamp := some e.timestamp
  groupId := e.groupId.map some
  groupName := e.groupName.map some

theorem finishEnvelope_ofEnvelope (e : Envelope) :
    finishEnvelope (Draft.ofEnvelope e) = .ok e := by
  obtain ⟨account, number, uuid, name, timestamp, groupId, groupName⟩ := e
  cases groupId <;> cases groupName <;> rfl

/-- The members of an envelope go into its fields, whatever the kind of message. -/
theorem ofMembers_envelope {shape : Decoder.Shape Draft Message}
    {more : List (Decoder.Field Draft)} (hshape : shape.fields = envelopeFields ++ more)
    (e : Envelope) {ms : Members} {y : Draft}
    (h : shape.ofMembers (Draft.ofEnvelope e) ms = .ok y) :
    shape.ofMembers {} (e.members ++ ms) = .ok y := by
  have hfind {k : String} {f : Decoder.Field Draft} (hk : Field.find? envelopeFields k = some f) :
      Field.find? shape.fields k = some f := by
    rw [Field.find?] at hk ⊢
    rw [hshape, List.find?_append, hk]
    rfl
  obtain ⟨account, number, uuid, name, timestamp, groupId, groupName⟩ := e
  have hmembers :
      Envelope.members ⟨account, number, uuid, name, timestamp, groupId, groupName⟩ ++ ms
      = ("account", .str account) :: ("sourceNumber", .str number) :: ("sourceUuid", .str uuid)
        :: ("sourceName", .str name) :: ("timestamp", .ofInt64 timestamp)
        :: (optionalMember "groupId" groupId ++ (optionalMember "groupName" groupName ++ ms)) := by
    simp [Envelope.members]
  rw [hmembers]
  refine ofMembers_field (hfind rfl) rfl (string_ofValue_str account) ?_
  refine ofMembers_field (hfind rfl) rfl (string_ofValue_str number) ?_
  refine ofMembers_field (hfind rfl) rfl (string_ofValue_str uuid) ?_
  refine ofMembers_field (hfind rfl) rfl (string_ofValue_str name) ?_
  refine ofMembers_field (hfind rfl) rfl (int64_ofValue_ofInt64 timestamp) ?_
  cases groupId with
  | none =>
      cases groupName with
      | none => exact h
      | some title => exact ofMembers_field (hfind rfl) rfl (option_ofValue_ofOption (some title)) h
  | some id =>
      refine ofMembers_field (hfind rfl) rfl (option_ofValue_ofOption (some id)) ?_
      cases groupName with
      | none => exact h
      | some title => exact ofMembers_field (hfind rfl) rfl (option_ofValue_ofOption (some title)) h

theorem ofValue_text (e : Envelope) (body : String) (viewOnce : Bool) (expires : Int64) :
    textShape.ofValue (.obj (e.members ++ (Content.text body viewOnce expires).members))
      = .ok ⟨e, .text body viewOnce expires⟩ :=
  bind_eq_ok_iff.2 ⟨_, ofMembers_envelope rfl e <|
    ofMembers_field rfl rfl (string_ofValue_str body) <|
    ofMembers_field rfl rfl (bool_ofValue_bool viewOnce) <|
    ofMembers_field rfl rfl (int64_ofValue_ofInt64 expires) rfl,
    bind_eq_ok_iff.2 ⟨e, finishEnvelope_ofEnvelope e, rfl⟩⟩

theorem ofValue_reaction (e : Envelope) (emoji author : String) (target : Int64) (remove : Bool) :
    reactionShape.ofValue
        (.obj (e.members ++ (Content.reaction emoji author target remove).members))
      = .ok ⟨e, .reaction emoji author target remove⟩ :=
  bind_eq_ok_iff.2 ⟨_, ofMembers_envelope rfl e <|
    ofMembers_field rfl rfl (string_ofValue_str emoji) <|
    ofMembers_field rfl rfl (string_ofValue_str author) <|
    ofMembers_field rfl rfl (int64_ofValue_ofInt64 target) <|
    ofMembers_field rfl rfl (bool_ofValue_bool remove) rfl,
    bind_eq_ok_iff.2 ⟨e, finishEnvelope_ofEnvelope e, rfl⟩⟩

/-- No member of an envelope or of a content is the kind. -/
theorem key_ne_kindKey (m : Message) :
    ∀ n ∈ m.envelope.members ++ m.content.members, n.1 ≠ kindKey := by
  obtain ⟨⟨account, number, uuid, name, timestamp, groupId, groupName⟩, content⟩ := m
  cases groupId <;> cases groupName <;> cases content <;>
    simp [Envelope.members, Content.members, optionalMember, kindKey]

/-- A message as it is written decodes. -/
theorem ofValue_toJson (m : Message) : decoder.ofValue m.toJson = .ok m := by
  let rest : Members := m.envelope.members ++ m.content.members
  have hkey := key_ne_kindKey m
  have hone :
      (("type", .str m.kind) :: rest).filter (·.1 == kindKey) = [("type", .str m.kind)] := by
    have hnone : rest.filter (·.1 == kindKey) = [] :=
      List.filter_eq_nil_iff.2 fun n hn => by simpa using hkey n hn
    rw [List.filter_cons_of_pos (by simp [kindKey]), hnone]
  have hothers : others (("type", .str m.kind) :: rest) = rest := by
    rw [others, List.filter_cons_of_neg (by simp [kindKey])]
    exact List.filter_eq_self.2 fun n hn => by simpa using hkey n hn
  have hshape : ∃ shape, ofName kinds m.kind = .ok shape ∧ shape.ofValue (.obj rest) = .ok m := by
    obtain ⟨e, content⟩ := m
    cases content with
    | text body viewOnce expires => exact ⟨textShape, rfl, ofValue_text e body viewOnce expires⟩
    | reaction emoji author target remove =>
        exact ⟨reactionShape, rfl, ofValue_reaction e emoji author target remove⟩
  obtain ⟨shape, hname, hvalue⟩ := hshape
  refine ofMembers_eq_ok_iff.2
    ⟨shape, .toCome hone (kindDecoder_eq_ok_iff.2 ⟨_, rfl, hname⟩), ?_⟩
  rw [hothers]
  exact hvalue

theorem legible_toJson (m : Message) (depth : Nat) : m.toJson.Legible (depth + 1) := by
  obtain ⟨⟨account, number, uuid, name, timestamp, groupId, groupName⟩, content⟩ := m
  cases groupId <;> cases groupName <;> cases content <;>
    simp [toJson, Envelope.members, Content.members, optionalMember, Value.Legible,
      Value.LegibleMembers]

theorem distinct_toJson (m : Message) : m.toJson.Distinct := by
  obtain ⟨⟨account, number, uuid, name, timestamp, groupId, groupName⟩, content⟩ := m
  cases groupId <;> cases groupName <;> cases content <;>
    simp [toJson, Envelope.members, Content.members, optionalMember, Value.Distinct,
      Value.DistinctMembers]

/-- A message survives being written and decoded. -/
theorem roundTrips : RoundTrips toJson decoder :=
  .of_value steady ofValue_toJson (legible_toJson · _) distinct_toJson

end Message
end Messenger
