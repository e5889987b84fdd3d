import Messenger.Event.Classify
import Messenger.Proofs.Json.Decode
import Messenger.Proofs.Json.Path

set_option autoImplicit false

/-! # What a payload says

Whether a payload yields a message, and which one, depends on what stands at the ends of a few paths
of keys. `Says` lists those paths and what each of them gives to the message, without the order in
which they are looked at; `Deliverable` says when there is a message at all. A payload yields the
messages that it says (`parse_eq_ok_iff_said`), hence at most one, and two payloads that agree at
those paths yield the same one. -/

namespace Messenger

open Json

namespace Event

/-- A path inside the data message of a payload. -/
def inData (keys : List String) : List String := "envelope" :: "dataMessage" :: keys

/-- The objects that are opened on the way to the data message. -/
structure Opened (payload : Value) (root source data : Members) : Prop where
  opens_payload : payload = .obj root
  opens_envelope : root.get? "envelope" = some (.obj source)
  opens_data : source.get? "dataMessage" = some (.obj data)

namespace Opened

variable {payload : Value} {root source data : Members}

theorem at_root (h : Opened payload root source data) (key : String) :
    payload.at? [key] = root.get? key := by
  rw [h.opens_payload, Value.at?_obj, Value.bind_at?_nil]

theorem at_source (h : Opened payload root source data) (key : String) :
    payload.at? ["envelope", key] = source.get? key := by
  rw [h.opens_payload, Value.at?_obj, h.opens_envelope, Option.bind_some, Value.at?_obj,
    Value.bind_at?_nil]

theorem at_data (h : Opened payload root source data) (key : String) (keys : List String) :
    payload.at? (inData (key :: keys)) = (data.get? key).bind (Value.at? keys) := by
  rw [h.opens_payload, inData, Value.at?_obj, h.opens_envelope, Option.bind_some, Value.at?_obj,
    h.opens_data, Option.bind_some, Value.at?_obj]

theorem at_data_one (h : Opened payload root source data) (key : String) :
    payload.at? (inData [key]) = data.get? key := by
  rw [h.at_data, Value.bind_at?_nil]

end Opened

/-- Whatever stands inside the data message stands inside objects. -/
theorem exists_opened {payload : Value} {key : String} {keys : List String} {w : Value}
    (h : payload.at? (inData (key :: keys)) = some w) :
    ∃ root source data, Opened payload root source data := by
  obtain ⟨root, x, hroot, hx, h⟩ := Value.exists_obj_of_at? h
  obtain ⟨source, y, rfl, hy, h⟩ := Value.exists_obj_of_at? h
  obtain ⟨data, _, rfl, -, -⟩ := Value.exists_obj_of_at? h
  exact ⟨root, source, data, hroot, hx, hy⟩

/-! ## Members with defaults -/

/-- `a` is what the first of some values that has a shape says, or the default when none has it. -/
inductive Said {α : Type} (shape : α → Value) (default : α) : List (Option Value) → α → Prop where
  | missing : Said shape default [] default
  | here (a : α) (later : List (Option Value)) : Said shape default (some (shape a) :: later) a
  | later {x : Option Value} {xs : List (Option Value)} {a : α} (hother : ∀ b, x ≠ some (shape b))
      (h : Said shape default xs a) : Said shape default (x :: xs) a

section Said

variable {α : Type} {shape : α → Value} {test : Value → Option α} {default : α}

/-- What is said is found by testing the values in turn. -/
theorem said_iff (htest : ∀ v a, test v = some a ↔ v = shape a) (xs : List (Option Value))
    (a : α) : Said shape default xs a ↔ (xs.findSome? fun x => x.bind test).getD default = a := by
  have hsome : ∀ x b, x.bind test = some b ↔ x = some (shape b) := by
    intro x b
    cases x with
    | none => simp
    | some v => simp [htest]
  constructor
  · intro h
    induction h with
    | missing => rfl
    | here a later => simp [(hsome _ a).2 rfl]
    | @later x xs a hother _ ih =>
        have hnone : x.bind test = none := by
          by_contra hne
          obtain ⟨b, hb⟩ := Option.ne_none_iff_exists'.1 hne
          exact hother b ((hsome x b).1 hb)
        simp [hnone, ih]
  · intro h
    induction xs with
    | nil => exact h ▸ .missing
    | cons x xs ih =>
        rw [List.findSome?_cons] at h
        cases hx : x.bind test with
        | some b =>
            obtain rfl := (hsome x b).1 hx
            rw [hx] at h
            obtain rfl : b = a := h
            exact .here b xs
        | none =>
            rw [hx] at h
            refine .later (fun b hb => ?_) (ih h)
            rw [(hsome x b).2 hb] at hx
            cases hx

theorem said_one_iff (htest : ∀ v a, test v = some a ↔ v = shape a) (x : Option Value) (a : α) :
    Said shape default [x] a ↔ (x.bind test).getD default = a := by
  rw [said_iff htest, List.findSome?_cons]
  cases x.bind test <;> rfl

end Said

/-- The string that a payload gives to a field, or a default. -/
theorem said_string_iff (default : String) (key : String) (ms : Members) (s : String) :
    Said .str default [ms.get? key] s ↔ (string? key ms).getD default = s :=
  said_one_iff (fun _ _ => Value.str?_eq_some_iff) _ s

theorem said_int64_iff (default : Int64) (key : String) (ms : Members) (n : Int64) :
    Said .ofInt64 default [ms.get? key] n ↔ (int64? key ms).getD default = n :=
  said_one_iff (fun _ _ => Value.int64?_eq_some_iff) _ n

theorem said_flag_iff (key : String) (ms : Members) (b : Bool) :
    Said .bool false [ms.get? key] b ↔ flag key ms = b :=
  said_one_iff (fun _ _ => Value.bool?_eq_some_iff) _ b

/-! ## What a payload says of a message -/

/-- The text of a body: a string itself, any other value as compact JSON. -/
inductive BodyText : Value → String → Prop where
  | string (s : String) : BodyText (.str s) s
  | other {v : Value} (hother : ∀ s, v ≠ .str s) : BodyText v v.compact

/-- What a payload says of the envelope of a message. -/
structure SaysEnvelope (payload : Value) (e : Envelope) : Prop where
  account : payload.at? ["account"] = some (.str e.account)
  timestamp : payload.at? ["envelope", "timestamp"] = some (.int e.timestamp.toInt)
  sourceNumber : Said .str "Unknown" [payload.at? ["envelope", "sourceNumber"]] e.sourceNumber
  sourceUuid : Said .str "Unknown" [payload.at? ["envelope", "sourceUuid"]] e.sourceUuid
  sourceName : Said .str "Unknown" [payload.at? ["envelope", "sourceName"]] e.sourceName
  groupId : ∀ id, e.groupId = some id
    ↔ payload.at? (inData ["groupInfo", "groupId"]) = some (.str id)
  groupName : e.groupName = none

/-- What a payload says of the content of a message: a text if there is one, whatever else there is,
and otherwise a reaction. -/
inductive SaysContent (payload : Value) : Content → Prop where
  | text {v : Value} {body : String} {viewOnce : Bool} {expires : Int64}
      (hmessage : payload.at? (inData ["message"]) = some v) (hnull : v.isNull = false)
      (hbody : BodyText v body)
      (hviewOnce : Said .bool false [payload.at? (inData ["viewOnce"])] viewOnce)
      (hexpires : Said .ofInt64 (-1) [payload.at? (inData ["expiresInSeconds"])] expires) :
      SaysContent payload (.text body viewOnce expires)
  | reaction {ms : Members} {emoji author : String} {target : Int64} {remove : Bool}
      (hmessage : Missing (payload.at? (inData ["message"])))
      (hreaction : payload.at? (inData ["reaction"]) = some (.obj ms))
      (hemoji : Said .str "" [payload.at? (inData ["reaction", "emoji"])] emoji)
      (hauthor : Said .str "Unknown"
        [payload.at? (inData ["reaction", "targetAuthorNumber"]),
          payload.at? (inData ["reaction", "targetAuthor"]),
          payload.at? (inData ["reaction", "targetAuthorUuid"])] author)
      (htarget : Said .ofInt64 (-1) [payload.at? (inData ["reaction", "targetSentTimestamp"])]
        target)
      (hremove : Said .bool false [payload.at? (inData ["reaction", "isRemove"])] remove) :
      SaysContent payload (.reaction emoji author target remove)

/-- What a payload says of a message. -/
structure Says (payload : Value) (m : Message) : Prop where
  envelope : SaysEnvelope payload m.envelope
  content : SaysContent payload m.content

/-- A payload that yields a message: it has an account, a timestamp among the signed 64-bit words,
and a data message with a body, or else with a reaction. -/
structure Deliverable (payload : Value) : Prop where
  account : ∃ account, payload.at? ["account"] = some (.str account)
  timestamp : ∃ n, payload.at? ["envelope", "timestamp"] = some (.int n)
    ∧ -0x8000000000000000 ≤ n ∧ n < 0x8000000000000000
  content : ¬ Missing (payload.at? (inData ["message"]))
    ∨ Missing (payload.at? (inData ["message"]))
      ∧ ∃ ms, payload.at? (inData ["reaction"]) = some (.obj ms)

/-- The paths at the ends of which a message is said. -/
def paths : List (List String) :=
  [["account"], ["envelope", "timestamp"], ["envelope", "sourceNumber"],
    ["envelope", "sourceUuid"], ["envelope", "sourceName"], inData ["groupInfo", "groupId"],
    inData ["message"], inData ["viewOnce"], inData ["expiresInSeconds"],
    inData ["reaction", "emoji"], inData ["reaction", "targetAuthorNumber"],
    inData ["reaction", "targetAuthor"], inData ["reaction", "targetAuthorUuid"],
    inData ["reaction", "targetSentTimestamp"], inData ["reaction", "isRemove"]]

/-- Payloads that agree at the ends of those paths, and on whether there is a reaction. -/
structure SaidAlike (payload payload' : Value) : Prop where
  ends : ∀ path ∈ paths, payload.at? path = payload'.at? path
  reaction : (∃ ms, payload.at? (inData ["reaction"]) = some (.obj ms))
    ↔ ∃ ms, payload'.at? (inData ["reaction"]) = some (.obj ms)

/-! ## Envelopes and contents -/

theorem bodyText_iff (v : Value) (s : String) : BodyText v s ↔ bodyText v = s := by
  constructor
  · intro h
    cases h with
    | string => rfl
    | other hother =>
        cases v with
        | str s => exact absurd rfl (hother s)
        | _ => rfl
  · rintro rfl
    cases v with
    | str s => exact .string s
    | _ => exact .other nofun

theorem present?_eq_some_iff {key : String} {ms : Members} {v : Value} :
    present? key ms = some v ↔ ms.get? key = some v ∧ v.isNull = false := by
  simp [present?, Option.filter_eq_some_iff]

theorem present?_eq_none_iff {key : String} {ms : Members} :
    present? key ms = none ↔ Missing (ms.get? key) := by
  simp [present?, Option.filter_eq_none_iff, Missing]

namespace Opened

variable {payload : Value} {root source data : Members}

theorem saysEnvelope_iff (h : Opened payload root source data) (e : Envelope) :
    SaysEnvelope payload e ↔ ∃ account timestamp, root.get? "account" = some (.str account)
      ∧ source.get? "timestamp" = some (.ofInt64 timestamp)
      ∧ e = envelope account timestamp source data := by
  have hgroup : ∀ id, payload.at? (inData ["groupInfo", "groupId"]) = some (.str id)
      ↔ (envelope e.account e.timestamp source data).groupId = some id := by
    intro id
    rw [h.at_data]
    cases hinfo : data.get? "groupInfo" with
    | none => simp [envelope, hinfo]
    | some info =>
        cases hid : info.get? "groupId" <;>
          simp [envelope, hinfo, hid, Value.at?, Value.str?_eq_some_iff]
  constructor
  · intro hsaid
    obtain ⟨haccount, htimestamp, hnumber, huuid, hname, hgroupId, hgroupName⟩ := hsaid
    rw [h.at_root] at haccount
    rw [h.at_source] at htimestamp hnumber huuid hname
    rw [said_string_iff] at hnumber huuid hname
    refine ⟨e.account, e.timestamp, haccount, htimestamp, ?_⟩
    have hid : e.groupId = (envelope e.account e.timestamp source data).groupId := by
      apply Option.ext
      intro id
      rw [hgroupId, hgroup]
    obtain ⟨account, number, uuid, name, timestamp, groupId, groupName⟩ := e
    cases hnumber
    cases huuid
    cases hname
    cases hid
    cases hgroupName
    rfl
  · rintro ⟨account, timestamp, haccount, htimestamp, rfl⟩
    refine ⟨?_, ?_, ?_, ?_, ?_, fun id => (hgroup id).symm, rfl⟩
    · rw [h.at_root]
      exact haccount
    · rw [h.at_source]
      exact htimestamp
    all_goals
      rw [h.at_source, said_string_iff]
      rfl

/-- A member of the reaction. -/
theorem at_reaction (h : Opened payload root source data) {ms : Members}
    (hms : data.get? "reaction" = some (.obj ms)) (key : String) :
    payload.at? (inData ["reaction", key]) = ms.get? key := by
  rw [h.at_data, hms, Option.bind_some, Value.at?_obj, Value.bind_at?_nil]

theorem saysContent_iff (h : Opened payload root source data) (c : Content) :
    SaysContent payload c ↔ content data = .ok c := by
  have hauthor : ∀ ms author, Said .str "Unknown" [Members.get? "targetAuthorNumber" ms,
      ms.get? "targetAuthor", ms.get? "targetAuthorUuid"] author
        ↔ targetAuthor ms = author := by
    intro ms author
    rw [said_iff (fun _ _ => Value.str?_eq_some_iff)]
    unfold targetAuthor string?
    simp only [List.findSome?_cons, List.findSome?_nil]
    cases (ms.get? "targetAuthorNumber").bind Value.str? <;>
      cases (ms.get? "targetAuthor").bind Value.str? <;>
        cases (ms.get? "targetAuthorUuid").bind Value.str? <;> rfl
  constructor
  · intro hsaid
    cases hsaid with
    | text hmessage hnull hbody hviewOnce hexpires =>
        rw [h.at_data_one] at hmessage hviewOnce hexpires
        rw [content, present?_eq_some_iff.2 ⟨hmessage, hnull⟩]
        rw [bodyText_iff] at hbody
        rw [said_flag_iff] at hviewOnce
        rw [said_int64_iff] at hexpires
        simp only [textContent, hbody, hviewOnce, hexpires]
    | @reaction ms _ _ _ _ hmessage hreaction hemoji hwho htarget hremove =>
        rw [h.at_data_one] at hmessage hreaction
        simp only [h.at_reaction hreaction] at hemoji hwho htarget hremove
        rw [said_string_iff] at hemoji
        rw [hauthor] at hwho
        rw [said_int64_iff] at htarget
        rw [said_flag_iff] at hremove
        rw [content, present?_eq_none_iff.2 hmessage,
          present?_eq_some_iff.2 ⟨hreaction, rfl⟩]
        simp only [Value.obj?, reactionContent, hemoji, hwho, htarget, hremove]
  · intro hcontent
    unfold content at hcontent
    split at hcontent
    · rename_i v hv
      obtain ⟨hmessage, hnull⟩ := present?_eq_some_iff.1 hv
      cases hcontent
      refine .text ?_ hnull ((bodyText_iff v _).2 rfl) ?_ ?_
      · rw [h.at_data_one, hmessage]
      · rw [h.at_data_one, said_flag_iff]
      · rw [h.at_data_one, said_int64_iff]
    · rename_i hmessage
      rw [present?_eq_none_iff] at hmessage
      split at hcontent
      · rename_i v hv
        obtain ⟨hreaction, -⟩ := present?_eq_some_iff.1 hv
        split at hcontent
        · rename_i ms hms
          obtain rfl := Value.obj?_eq_some_iff.1 hms
          cases hcontent
          have hobject : payload.at? (inData ["reaction"]) = some (.obj ms) := by
            rw [h.at_data_one, hreaction]
          refine .reaction ?_ hobject ?_ ?_ ?_ ?_
          · rw [h.at_data_one]
            exact hmessage
          · rw [h.at_reaction hreaction, said_string_iff]
          · rw [h.at_reaction hreaction, h.at_reaction hreaction, h.at_reaction hreaction, hauthor]
          · rw [h.at_reaction hreaction, said_int64_iff]
          · rw [h.at_reaction hreaction, said_flag_iff]
        · cases hcontent
      · cases hcontent

end Opened

/-! ## Payloads -/

theorem orIgnored_eq_ok_iff {α : Type} {reason : Ignored} {x : Option α} {a : α} :
    orIgnored reason x = .ok a ↔ x = some a := by
  cases x <;> simp [orIgnored]

/-- A payload yields a message once its objects are opened. -/
theorem parse_eq_ok_iff {payload : Value} {m : Message} :
    parse payload = .ok m ↔ ∃ root source data, Opened payload root source data
      ∧ (∃ account timestamp, root.get? "account" = some (.str account)
        ∧ source.get? "timestamp" = some (.ofInt64 timestamp)
        ∧ m.envelope = envelope account timestamp source data)
      ∧ content data = .ok m.content := by
  simp only [parse, Decoder.bind_eq_ok_iff, orIgnored_eq_ok_iff, string?, object?, int64?,
    Option.bind_eq_some_iff, Value.obj?_eq_some_iff, Value.str?_eq_some_iff,
    Value.int64?_eq_some_iff]
  constructor
  · rintro ⟨root, hroot, account, ⟨_, haccount, rfl⟩, source, ⟨_, hsource, rfl⟩, timestamp,
      ⟨_, htimestamp, rfl⟩, data, ⟨_, hdata, rfl⟩, c, hc, hm⟩
    cases hm
    exact ⟨root, source, data, ⟨hroot, hsource, hdata⟩, ⟨account, timestamp, haccount, htimestamp,
      rfl⟩, hc⟩
  · rintro ⟨root, source, data, ⟨hroot, hsource, hdata⟩, ⟨account, timestamp, haccount, htimestamp,
      henvelope⟩, hc⟩
    refine ⟨root, hroot, account, ⟨_, haccount, rfl⟩, source, ⟨_, hsource, rfl⟩, timestamp,
      ⟨_, htimestamp, rfl⟩, data, ⟨_, hdata, rfl⟩, m.content, hc, ?_⟩
    rw [← henvelope]
    rfl

theorem Says.opened {payload : Value} {m : Message} (h : Says payload m) :
    ∃ root source data, Opened payload root source data := by
  obtain ⟨e, c⟩ := m
  obtain ⟨-, hcontent⟩ := h
  cases hcontent with
  | text hmessage => exact exists_opened hmessage
  | reaction _ hreaction => exact exists_opened hreaction

/-- A payload yields the messages that it says. -/
theorem parse_eq_ok_iff_said {payload : Value} {m : Message} :
    parse payload = .ok m ↔ Says payload m := by
  rw [parse_eq_ok_iff]
  constructor
  · rintro ⟨root, source, data, hopened, henvelope, hcontent⟩
    exact ⟨(hopened.saysEnvelope_iff m.envelope).2 henvelope,
      (hopened.saysContent_iff m.content).2 hcontent⟩
  · intro h
    obtain ⟨root, source, data, hopened⟩ := h.opened
    exact ⟨root, source, data, hopened, (hopened.saysEnvelope_iff m.envelope).1 h.envelope,
      (hopened.saysContent_iff m.content).1 h.content⟩

theorem Deliverable.opened {payload : Value} (h : Deliverable payload) :
    ∃ root source data, Opened payload root source data := by
  rcases h.content with hmessage | ⟨-, ms, hreaction⟩
  · simp only [Missing, not_forall] at hmessage
    obtain ⟨v, hv, -⟩ := hmessage
    exact exists_opened hv
  · exact exists_opened hreaction

/-- A payload yields a message if and only if it is deliverable. -/
theorem exists_parse_iff {payload : Value} :
    (∃ m, parse payload = .ok m) ↔ Deliverable payload := by
  constructor
  · rintro ⟨m, hm⟩
    obtain ⟨e, c⟩ := m
    obtain ⟨henvelope, hcontent⟩ := parse_eq_ok_iff_said.1 hm
    refine ⟨⟨_, henvelope.account⟩, ⟨_, henvelope.timestamp, e.timestamp.le_toInt,
      e.timestamp.toInt_lt⟩, ?_⟩
    cases hcontent with
    | @text v _ _ _ hmessage hnull =>
        refine .inl fun hmissing => ?_
        rw [hmissing v hmessage] at hnull
        cases hnull
    | reaction hmessage hreaction => exact .inr ⟨hmessage, _, hreaction⟩
  · intro h
    obtain ⟨root, source, data, hopened⟩ := h.opened
    obtain ⟨account, haccount⟩ := h.account
    obtain ⟨n, hn, hlow, hhigh⟩ := h.timestamp
    rw [hopened.at_root] at haccount
    have htimestamp : source.get? "timestamp" = some (.ofInt64 (Int64.ofInt n)) := by
      rw [Value.ofInt64, Int64.toInt_ofInt_of_le hlow hhigh, ← hopened.at_source, hn]
    have hcontent : ∃ c, content data = .ok c := by
      unfold content
      rcases h.content with hmessage | ⟨hmessage, ms, hreaction⟩
      · rw [hopened.at_data_one, ← present?_eq_none_iff] at hmessage
        obtain ⟨v, hv⟩ := Option.ne_none_iff_exists'.1 hmessage
        rw [hv]
        exact ⟨_, rfl⟩
      · rw [hopened.at_data_one] at hmessage hreaction
        rw [present?_eq_none_iff.2 hmessage,
          present?_eq_some_iff.2 ⟨hreaction, rfl⟩]
        exact ⟨_, rfl⟩
    obtain ⟨c, hc⟩ := hcontent
    exact ⟨⟨envelope account (Int64.ofInt n) source data, c⟩, parse_eq_ok_iff.2
      ⟨root, source, data, hopened, ⟨account, Int64.ofInt n, haccount, htimestamp, rfl⟩, hc⟩⟩

theorem SaidAlike.symm {payload payload' : Value} (h : SaidAlike payload payload') :
    SaidAlike payload' payload :=
  ⟨fun path hpath => (h.ends path hpath).symm, h.reaction.symm⟩

/-- What a payload says is said at the ends of the paths. -/
theorem SaidAlike.transfer {payload payload' : Value} (h : SaidAlike payload payload') {m : Message}
    (hsaid : Says payload m) : Says payload' m := by
  have hends := h.ends
  simp only [paths, List.forall_mem_cons] at hends
  obtain ⟨haccount, htimestamp, hnumber, huuid, hname, hgroup, hmessage, hviewOnce, hexpires,
    hemoji, hfirst, hsecond, hthird, htarget, hremove, -⟩ := hends
  obtain ⟨e, c⟩ := m
  obtain ⟨henvelope, hcontent⟩ := hsaid
  constructor
  · refine ⟨?_, ?_, ?_, ?_, ?_, fun id => ?_, henvelope.groupName⟩
    · rw [← haccount, henvelope.account]
    · rw [← htimestamp, henvelope.timestamp]
    · rw [← hnumber]
      exact henvelope.sourceNumber
    · rw [← huuid]
      exact henvelope.sourceUuid
    · rw [← hname]
      exact henvelope.sourceName
    · rw [← hgroup]
      exact henvelope.groupId id
  · cases hcontent with
    | text hv hnull hbody hwatch hexpiry =>
        rw [hmessage] at hv
        rw [hviewOnce] at hwatch
        rw [hexpires] at hexpiry
        exact .text hv hnull hbody hwatch hexpiry
    | reaction hnone hreaction hface hwho hwhen hgone =>
        obtain ⟨ms, hms⟩ := h.reaction.1 ⟨_, hreaction⟩
        rw [hmessage] at hnone
        rw [hemoji] at hface
        rw [hfirst, hsecond, hthird] at hwho
        rw [htarget] at hwhen
        rw [hremove] at hgone
        exact .reaction hnone hms hface hwho hwhen hgone

theorem parseLogged_fst (payload : Value) : (parseLogged payload).1 = parse payload := by
  unfold parseLogged
  cases parse payload <;> rfl

/-- **What a payload yields.** There is a message exactly when the payload is deliverable; it is the
message that the payload says; and nothing but what stands at the ends of the paths matters. -/
theorem classified_as_said (payload : Value) :
    ((∃ m, (parseLogged payload).1 = .ok m) ↔ Deliverable payload)
      ∧ (∀ m, (parseLogged payload).1 = .ok m ↔ Says payload m)
      ∧ ∀ payload', SaidAlike payload payload' →
        ∀ m, (parseLogged payload).1 = .ok m ↔ (parseLogged payload').1 = .ok m := by
  simp only [parseLogged_fst]
  refine ⟨exists_parse_iff, fun m => parse_eq_ok_iff_said, fun payload' halike m => ?_⟩
  rw [parse_eq_ok_iff_said, parse_eq_ok_iff_said]
  exact ⟨halike.transfer, halike.symm.transfer⟩

/-- A reaction whose author is named by the last of the three keys only, beside a body that is
`null` and members that belong to no message. -/
def strangeReaction (others : Members) : Value :=
  .obj [("account", .str "+1"), ("envelope", .obj (others ++ [("timestamp", .int 5),
    ("sourceName", .int 1), ("dataMessage", .obj [("message", .null), ("reaction",
      .obj [("emoji", .str "x"), ("targetAuthor", .int 7), ("targetAuthorUuid", .str "u"),
        ("targetSentTimestamp", .int 9223372036854775808)])])]))]

theorem classified_as_said_beside :
    SaidAlike (strangeReaction []) (strangeReaction [("typingMessage", .null)])
      ∧ (parseLogged (strangeReaction [("typingMessage", .null)])).1
        = .ok ⟨⟨"+1", "Unknown", "Unknown", "Unknown", 5, none, none⟩,
            .reaction "x" "u" (-1) false⟩ :=
  have halike : SaidAlike (strangeReaction []) (strangeReaction [("typingMessage", .null)]) :=
    ⟨List.map_inj_left.1 rfl, Iff.rfl⟩
  ⟨halike, ((classified_as_said (strangeReaction [])).2.2 _ halike _).1 rfl⟩

end Event
end Messenger
