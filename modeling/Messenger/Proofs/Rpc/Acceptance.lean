import Messenger.Daemon
import Messenger.Proofs.Rpc.Reply

set_option autoImplicit false

/-! # When a reply is accepted

What a call yields is decided by a few things that its reply says: `Answers` lists what makes it an
answer to the request. A call succeeds exactly on an answer that reports no failure, it yields the
failure of the daemon exactly on an answer that reports one, and in every other case it fails on
the way (`call_outcome_iff`). -/

namespace Messenger.Rpc

open Json

variable {δ : Type}

/-! ## Identifiers -/

/-- The identifier of a request is the chosen one, trimmed, unless nothing is left of it. -/
theorem Sequence.identify_fst (s : Sequence) (chosen : Option String) (method : String) :
    (s.identify chosen method).1
      = ((chosen.map Text.trim).filter (· ≠ "")).getD (generatedId method s.next) := by
  cases chosen with
  | none => rfl
  | some given =>
      by_cases hblank : Text.isBlankText given = true
      · have htrim : Text.trim given = "" := (Text.trim_eq_empty_iff given).2 hblank
        simp [identify, hblank, htrim, identify.generate, Option.filter]
      · have htrim : Text.trim given ≠ "" := fun h => hblank ((Text.trim_eq_empty_iff given).1 h)
        simp [identify, hblank, htrim, Option.filter]

/-- The text of an identifier in a reply: a string as it is, any other value as compact JSON. -/
def identifierText : Value → String
  | .str s => s
  | v => v.compact

theorem Reply.idText_eq (r : Reply) : r.idText = r.id.map identifierText := by
  unfold idText
  congr 1

/-! ## Answers -/

/-- A response answers the request with an identifier, and its body has the members `ms`. -/
structure Answers (id : String) (r : Response) (ms : Members) : Prop where
  success : isSuccessStatus r.status = true
  parsed : Value.parseBytes r.body = .ok (.obj ms)
  decoded : ∃ reply, Reply.ofJson (.obj ms) = .ok reply
  version : ms.get? "jsonrpc" = some (.str "2.0")
  repeated : ∃ v, ms.get? "id" = some v ∧ v.isNull = false ∧ identifierText v = id

theorem Answers.nodup {id : String} {r : Response} {ms : Members} (h : Answers id r ms) :
    (ms.map Prod.fst).Nodup := by
  have hordered : (Value.obj ms).Ordered := Value.ordered_of_parseBytes h.parsed
  exact hordered.1.nodup

/-- The checks of a response, in order. -/
theorem Response.resultFor_eq (id : String) (r : Response) :
    r.resultFor id =
      if isSuccessStatus r.status then
        match Value.parseBytes r.body with
        | .error fault => .error (.undecodable fault)
        | .ok (.obj ms) => match Reply.ofJson (.obj ms) with
          | .error fault => .error (.undecodable fault)
          | .ok reply => reply.check id
        | .ok _ => .error (.violation .notAnObject)
      else .error (.refused r.status (Text.cut keptBody (Text.ofUtf8Lossy r.body))) := by
  unfold resultFor
  cases isSuccessStatus r.status with
  | false => rfl
  | true =>
      cases Value.parseBytes r.body with
      | error fault => rfl
      | ok v =>
          cases v with
          | obj ms =>
              simp only [if_true]
              change ((Reply.ofJson (.obj ms)).mapError Error.undecodable >>= fun reply =>
                reply.check id) = _
              cases Reply.ofJson (.obj ms) <;> rfl
          | _ => rfl

/-- An answer repeats the identifier. -/
theorem Answers.idText_eq {id : String} {r : Response} {ms : Members} (h : Answers id r ms)
    {reply : Reply} (hreply : Reply.ofJson (.obj ms) = .ok reply) : reply.idText = some id := by
  obtain ⟨-, hid, -, -⟩ := (Reply.ofJson_eq_ok_iff h.nodup).1 hreply
  obtain ⟨v, hv, hnull, htext⟩ := h.repeated
  have hsome : Decoder.any.optional (ms.get? "id") = .ok (some v) :=
    (Decoder.optional_eq_some_iff ..).2 ⟨v, hv, hnull, rfl⟩
  rw [Reply.idText_eq, ← Except.ok.inj (hsome.symm.trans hid), Option.map_some, htext]

/-- An answer is of the protocol's version. -/
theorem Answers.jsonrpc_eq {id : String} {r : Response} {ms : Members} (h : Answers id r ms)
    {reply : Reply} (hreply : Reply.ofJson (.obj ms) = .ok reply) :
    reply.jsonrpc = some protocolVersion := by
  obtain ⟨hjsonrpc, -, -, -⟩ := (Reply.ofJson_eq_ok_iff h.nodup).1 hreply
  have htag : Decoder.string.optional (ms.get? "jsonrpc") = .ok (some "2.0") :=
    (Decoder.optional_eq_some_iff ..).2 ⟨_, h.version, rfl, Decoder.string_eq_ok_iff.2 rfl⟩
  exact (Except.ok.inj (htag.symm.trans hjsonrpc)).symm

/-- An answer passes every check but the last. -/
theorem Answers.resultFor_eq {id : String} {r : Response} {ms : Members} (h : Answers id r ms)
    {reply : Reply} (hreply : Reply.ofJson (.obj ms) = .ok reply) :
    r.resultFor id = match reply.error with
      | some e => .error (.server e.code e.message)
      | none => .ok (reply.result.getD .null) := by
  cases herror : reply.error <;>
    simp only [Response.resultFor_eq, h.success, h.parsed, hreply, if_true, Reply.check,
      h.jsonrpc_eq hreply, h.idText_eq hreply, ne_eq, not_true_eq_false, if_false, herror]

/-- A missing value stands for `null`. -/
theorem getD_of_optional {x o : Option Value} (h : Decoder.any.optional x = .ok o) :
    o.getD .null = x.getD .null := by
  cases x with
  | none =>
      cases h
      rfl
  | some v => cases v <;> cases h <;> rfl

/-- An answer that reports no failure gives its result, `null` if that is missing. -/
theorem Answers.resultFor_of_missing {id : String} {r : Response} {ms : Members}
    (h : Answers id r ms) (hmissing : Missing (ms.get? "error")) :
    r.resultFor id = .ok ((ms.get? "result").getD .null) := by
  obtain ⟨reply, hreply⟩ := h.decoded
  obtain ⟨-, -, hresult, herror⟩ := (Reply.ofJson_eq_ok_iff h.nodup).1 hreply
  have hnone : reply.error = none := by
    have hoptional := (Decoder.optional_eq_none_iff ServerError.shape.decoder _).2 hmissing
    exact (Except.ok.inj (hoptional.symm.trans herror)).symm
  have hvalue : reply.result.getD .null = (ms.get? "result").getD .null := getD_of_optional hresult
  rw [h.resultFor_eq hreply, hnone, hvalue]

/-- An answer that reports a failure gives that. -/
theorem Answers.resultFor_of_reports {id : String} {r : Response} {ms : Members}
    (h : Answers id r ms) {e : Value} (he : ms.get? "error" = some e) {code : Int64}
    {message : String} (hreports : Reports e code message) :
    r.resultFor id = .error (.server code message) := by
  obtain ⟨reply, hreply⟩ := h.decoded
  obtain ⟨-, -, -, herror⟩ := (Reply.ofJson_eq_ok_iff h.nodup).1 hreply
  have hordered : (Value.obj ms).Ordered := Value.ordered_of_parseBytes h.parsed
  obtain ⟨data, hdata⟩ := (ServerError.ofJson_iff (hordered.get? he)).2 hreports
  have hsome : ServerError.shape.decoder.optional (ms.get? "error")
      = .ok (some ⟨code, message, data⟩) := by
    refine (Decoder.optional_eq_some_iff ..).2 ⟨e, he, ?_, hdata⟩
    cases hreports <;> rfl
  rw [h.resultFor_eq hreply, ← Except.ok.inj (hsome.symm.trans herror)]

/-- An answer reports no failure, or it reports one. -/
theorem Answers.missing_or_reports {id : String} {r : Response} {ms : Members}
    (h : Answers id r ms) : Missing (ms.get? "error")
      ∨ ∃ e code message, ms.get? "error" = some e ∧ Reports e code message := by
  obtain ⟨reply, hreply⟩ := h.decoded
  obtain ⟨-, -, -, herror⟩ := (Reply.ofJson_eq_ok_iff h.nodup).1 hreply
  cases hfailure : reply.error with
  | none =>
      rw [hfailure] at herror
      exact .inl ((Decoder.optional_eq_none_iff ..).1 herror)
  | some failure =>
      rw [hfailure] at herror
      obtain ⟨e, he, -, hdata⟩ := (Decoder.optional_eq_some_iff ..).1 herror
      have hordered : (Value.obj ms).Ordered := Value.ordered_of_parseBytes h.parsed
      exact .inr ⟨e, failure.code, failure.message, he,
        (ServerError.ofJson_iff (hordered.get? he)).1 ⟨failure.data, hdata⟩⟩

/-- A reply that passes the checks is an answer. -/
theorem answers_of_check {id : String} {r : Response} {ms : Members} {reply : Reply}
    (hsuccess : isSuccessStatus r.status = true) (hparsed : Value.parseBytes r.body = .ok (.obj ms))
    (hreply : Reply.ofJson (.obj ms) = .ok reply) (hversion : reply.jsonrpc = some protocolVersion)
    (hid : reply.idText = some id) : Answers id r ms := by
  have hordered : (Value.obj ms).Ordered := Value.ordered_of_parseBytes hparsed
  obtain ⟨hjsonrpc, hrepeated, -, -⟩ := (Reply.ofJson_eq_ok_iff hordered.1.nodup).1 hreply
  rw [hversion] at hjsonrpc
  obtain ⟨tag, htag, -, htext⟩ := (Decoder.optional_eq_some_iff ..).1 hjsonrpc
  obtain rfl := Decoder.string_eq_ok_iff.1 htext
  rw [Reply.idText_eq, Option.map_eq_some_iff] at hid
  obtain ⟨v, hv, hvtext⟩ := hid
  rw [hv] at hrepeated
  obtain ⟨w, hw, hnull, hwv⟩ := (Decoder.optional_eq_some_iff ..).1 hrepeated
  cases hwv
  exact ⟨hsuccess, hparsed, ⟨reply, hreply⟩, htag, ⟨v, hw, hnull, hvtext⟩⟩

/-- What answers nothing fails on the way. -/
theorem Response.resultFor_of_not_answers {id : String} {r : Response}
    (h : ∀ ms, ¬ Answers id r ms) : ∃ e, r.resultFor id = .error e ∧ e.isTransport = true := by
  rw [resultFor_eq]
  split
  · rename_i hsuccess
    split
    · exact ⟨_, rfl, rfl⟩
    · rename_i ms hparsed
      split
      · exact ⟨_, rfl, rfl⟩
      · rename_i reply hreply
        -- The body decodes, so what is wrong is the version or the identifier.
        unfold Reply.check
        split
        · exact ⟨_, rfl, rfl⟩
        · rename_i version hversion
          split
          · exact ⟨_, rfl, rfl⟩
          · rename_i htag
            split
            · exact ⟨_, rfl, rfl⟩
            · rename_i hid
              exact absurd (answers_of_check hsuccess hparsed hreply
                (hversion.trans (congrArg some (not_not.1 htag))) (not_not.1 hid)) (h ms)
    · exact ⟨_, rfl, rfl⟩
  · exact ⟨_, rfl, rfl⟩

/-! ## Outcomes -/

/-- The result of a call, given what came back. -/
def resultOf (id : String) : Option Response → Except Error Value
  | none => .error .unreachable
  | some r => r.resultFor id

theorem Response.resultFor_eq_ok_iff (id : String) (r : Response) (v : Value) :
    r.resultFor id = .ok v
      ↔ ∃ ms, Answers id r ms ∧ Missing (ms.get? "error") ∧ v = (ms.get? "result").getD .null := by
  constructor
  · intro hv
    by_cases hanswers : ∃ ms, Answers id r ms
    · obtain ⟨ms, h⟩ := hanswers
      rcases h.missing_or_reports with hmissing | ⟨e, code, message, he, hreports⟩
      · rw [h.resultFor_of_missing hmissing] at hv
        exact ⟨ms, h, hmissing, (Except.ok.inj hv).symm⟩
      · rw [h.resultFor_of_reports he hreports] at hv
        cases hv
    · obtain ⟨e, he, -⟩ := resultFor_of_not_answers (not_exists.1 hanswers)
      rw [he] at hv
      cases hv
  · rintro ⟨ms, h, hmissing, rfl⟩
    exact h.resultFor_of_missing hmissing

theorem Response.resultFor_eq_server_iff (id : String) (r : Response) (code : Int64)
    (message : String) :
    r.resultFor id = .error (.server code message)
      ↔ ∃ ms e, Answers id r ms ∧ ms.get? "error" = some e ∧ Reports e code message := by
  constructor
  · intro hfailure
    by_cases hanswers : ∃ ms, Answers id r ms
    · obtain ⟨ms, h⟩ := hanswers
      rcases h.missing_or_reports with hmissing | ⟨e, code', message', he, hreports⟩
      · rw [h.resultFor_of_missing hmissing] at hfailure
        cases hfailure
      · rw [h.resultFor_of_reports he hreports] at hfailure
        cases hfailure
        exact ⟨ms, e, h, he, hreports⟩
    · obtain ⟨e, he, htransport⟩ := resultFor_of_not_answers (not_exists.1 hanswers)
      rw [he] at hfailure
      cases hfailure
      cases htransport
  · rintro ⟨ms, e, h, he, hreports⟩
    exact h.resultFor_of_reports he hreports

theorem Response.resultFor_isTransport_iff (id : String) (r : Response) :
    (∃ e, r.resultFor id = .error e ∧ e.isTransport = true) ↔ ¬ ∃ ms, Answers id r ms := by
  constructor
  · rintro ⟨e, he, htransport⟩ ⟨ms, h⟩
    rcases h.missing_or_reports with hmissing | ⟨e', code, message, he', hreports⟩
    · rw [h.resultFor_of_missing hmissing] at he
      cases he
    · rw [h.resultFor_of_reports he' hreports] at he
      cases he
      cases htransport
  · intro h
    exact resultFor_of_not_answers (not_exists.1 h)

/-- **When a call succeeds, and how it fails.** It yields a result exactly on an answer that reports
no failure, and the code and message of the daemon exactly on an answer that reports one. In every
other case, also without any response, it fails on the way. -/
theorem call_outcome_iff (d : Daemon δ) (method : String) (params : Value) (chosen : Option String)
    (l : Link δ) :
    let id := ((chosen.map Text.trim).filter (· ≠ "")).getD (generatedId method l.sequence.next)
    let response := (d.call l.endpoint.rpc ⟨id, method, params⟩ l.daemon).1
    let result := (l.call d method params chosen).1
    (∀ v, result = .ok v ↔ ∃ r ms, response = some r ∧ Answers id r ms
        ∧ Missing (ms.get? "error") ∧ v = (ms.get? "result").getD .null)
      ∧ (∀ code message, result = .error (.server code message)
        ↔ ∃ r ms e, response = some r ∧ Answers id r ms ∧ ms.get? "error" = some e
          ∧ Reports e code message)
      ∧ ((∃ e, result = .error e ∧ e.isTransport = true)
        ↔ ¬ ∃ r ms, response = some r ∧ Answers id r ms) := by
  intro id response result
  have hresult : result = resultOf id response := by
    simp only [result, response, id, ← Sequence.identify_fst]
    rfl
  clear_value result response
  cases response with
  | none => simp [hresult, resultOf, Error.isTransport, Error.isServer]
  | some r =>
      obtain rfl : result = r.resultFor id := hresult
      refine ⟨?_, ?_, ?_⟩
      · simpa using r.resultFor_eq_ok_iff id
      · simpa using r.resultFor_eq_server_iff id
      · simpa using r.resultFor_isTransport_iff id

end Messenger.Rpc
