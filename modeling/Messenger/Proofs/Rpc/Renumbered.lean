import Messenger.Proofs.Alike
import Messenger.Proofs.Rpc.Acceptance

set_option autoImplicit false

/-! # Replies to renumbered requests

Two runs of one program may make the same requests under identifiers with different numbers. A
daemon that uses an identifier for nothing but to repeat it sends replies that are *alike*: the same
one to both, or two that differ in the identifier that they repeat. Then what the calls come to is
alike as well: the same result, or failures that differ in an identifier
(`Response.Alike.resultFor`). -/

namespace Messenger

open Json

namespace Rpc

/-- Two identifiers are the same, or generated for one method, with numbers that are equally far
from `n` and from `n'`. -/
def Renumbered (n n' : UInt64) (id id' : String) : Prop :=
  id = id' ∨ ∃ method k, id = generatedId method (n + k) ∧ id' = generatedId method (n' + k)

/-- Two failures are the same, or they differ in an identifier: the one that was expected, or one
inside the body of a refused reply. -/
inductive Error.Alike (I : String → String → Prop) : Error → Error → Prop
  | same (e : Error) : Alike I e e
  | wrongId {id id' : String} (h : I id id') (actual : Option String) :
      Alike I (.wrongId id actual) (.wrongId id' actual)
  | refused {id id' : String} (h : I id id') (status : Nat) (before after : List UInt8) :
      Alike I
        (.refused status
          (Text.cut Response.keptBody (Text.ofUtf8Lossy (before ++ Text.toUtf8 id ++ after))))
        (.refused status
          (Text.cut Response.keptBody (Text.ofUtf8Lossy (before ++ Text.toUtf8 id' ++ after))))

/-- Two responses, to requests with the identifiers `id` and `id'`, differ at most in that each
repeats the identifier of its own request. -/
inductive Response.Alike (id id' : String) : Response → Response → Prop
  /-- The same response, and if it answers one of the requests, it answers the other. -/
  | same (r : Response) (h : ∀ ms, Answers id r ms ↔ Answers id' r ms) : Alike id id' r r
  /-- Two objects with the same members but for the identifiers. -/
  | repeated {r r' : Response} {ms ms' : Members} (hsuccess : isSuccessStatus r.status = true)
      (hsuccess' : isSuccessStatus r'.status = true)
      (hbody : Value.parseBytes r.body = .ok (.obj ms))
      (hbody' : Value.parseBytes r'.body = .ok (.obj ms'))
      (hid : ms.get? "id" = some (.str id)) (hid' : ms'.get? "id" = some (.str id'))
      (hrest : ∀ key, key ≠ "id" → ms.get? key = ms'.get? key) : Alike id id' r r'
  /-- A refusal that repeats the identifier somewhere in its body. -/
  | refused (status : Nat) (hstatus : isSuccessStatus status = false)
      (before after : List UInt8) :
      Alike id id' ⟨status, before ++ Text.toUtf8 id ++ after⟩
        ⟨status, before ++ Text.toUtf8 id' ++ after⟩

variable {id id' : String}

/-- The identifier of a reply that is a string. -/
theorem Reply.eq_of_ofJson {ms : Members} (hms : (ms.map Prod.fst).Nodup)
    (hid : ms.get? "id" = some (.str id)) {reply : Reply}
    (hreply : Reply.ofJson (.obj ms) = .ok reply) :
    { reply with id := some (.str id) } = reply := by
  obtain ⟨-, hreplyId, -, -⟩ := (Reply.ofJson_eq_ok_iff hms).1 hreply
  rw [hid] at hreplyId
  have hsome : some (.str id) = reply.id := Except.ok.inj hreplyId
  rw [hsome]

/-- Objects with the same members but for the identifiers decode to replies that differ in these, or
are no replies. -/
theorem Reply.ofJson_repeated {ms ms' : Members} (hms : (ms.map Prod.fst).Nodup)
    (hms' : (ms'.map Prod.fst).Nodup) (hid : ms.get? "id" = some (.str id))
    (hid' : ms'.get? "id" = some (.str id'))
    (hrest : ∀ key, key ≠ "id" → ms.get? key = ms'.get? key) :
    (∃ reply : Reply, Reply.ofJson (.obj ms) = .ok { reply with id := some (.str id) }
        ∧ Reply.ofJson (.obj ms') = .ok { reply with id := some (.str id') })
      ∨ Reply.ofJson (.obj ms) = .error .mismatched
        ∧ Reply.ofJson (.obj ms') = .error .mismatched := by
  have hiff (reply : Reply) : Reply.ofJson (.obj ms) = .ok { reply with id := some (.str id) }
      ↔ Reply.ofJson (.obj ms') = .ok { reply with id := some (.str id') } := by
    have hread (s : String) : Decoder.any.optional (some (.str s)) = .ok (some (.str s)) := rfl
    rw [Reply.ofJson_eq_ok_iff hms, Reply.ofJson_eq_ok_iff hms', hid, hid', hread, hread,
      hrest "jsonrpc" (by decide), hrest "result" (by decide), hrest "error" (by decide)]
    simp
  cases hreply : Reply.ofJson (.obj ms) with
  | ok reply =>
      have hsame := Reply.eq_of_ofJson hms hid hreply
      rw [← hsame] at hreply
      exact .inl ⟨reply, by rw [hsame], (hiff reply).1 hreply⟩
  | error fault =>
      cases hreply' : Reply.ofJson (.obj ms') with
      | ok reply' =>
          rw [← Reply.eq_of_ofJson hms' hid' hreply'] at hreply'
          cases hreply.symm.trans ((hiff reply').2 hreply')
      | error fault' =>
          obtain rfl := Reply.onlyMismatches (.obj ms) fault hreply
          obtain rfl := Reply.onlyMismatches (.obj ms') fault' hreply'
          exact .inr ⟨rfl, rfl⟩

/-- An answer that the identifiers do not matter for. -/
theorem Reply.check_repeated (reply : Reply) (id id' : String) :
    ({ reply with id := some (.str id) } : Reply).check id
      = ({ reply with id := some (.str id') } : Reply).check id' := by
  simp only [check, idText, Option.map_some, ne_eq, not_true_eq_false, if_false]

/-- A reply that answers both requests or none. -/
theorem Reply.check_alike {I : String → String → Prop} (hI : I id id') {reply : Reply}
    (h : reply.jsonrpc = some protocolVersion →
      (reply.idText = some id ↔ reply.idText = some id')) :
    SameUnless (Error.Alike I) (reply.check id) (reply.check id') := by
  unfold check
  cases hversion : reply.jsonrpc with
  | none => exact .error (.same _)
  | some version =>
      by_cases htag : version = protocolVersion
      · have hiff := h (hversion.trans (congrArg some htag))
        simp only [ne_eq, htag, not_true_eq_false, if_false, hiff]
        by_cases hid : reply.idText = some id'
        · rw [if_neg (not_not.2 hid), if_neg (not_not.2 hid)]
          exact .refl .same _
        · rw [if_pos hid, if_pos hid]
          exact .error (.wrongId hI _)
      · simp only [ne_eq, htag, not_false_eq_true, if_true]
        exact .error (.same _)

/-- **Alike responses give alike results.** -/
theorem Response.Alike.resultFor {I : String → String → Prop} (hI : I id id') {r r' : Response}
    (h : Response.Alike id id' r r') :
    SameUnless (Error.Alike I) (r.resultFor id) (r'.resultFor id') := by
  cases h with
  | same r h =>
      rw [resultFor_eq, resultFor_eq]
      split
      · rename_i hsuccess
        split
        · exact .error (.same _)
        · rename_i ms hparsed
          split
          · exact .error (.same _)
          · rename_i reply hreply
            -- A reply of the right version that repeats one identifier is an answer to its
            -- request, hence to the other one.
            refine Reply.check_alike hI fun hversion => ⟨fun hid => ?_, fun hid => ?_⟩
            · have hanswers := answers_of_check hsuccess hparsed hreply hversion hid
              exact ((h ms).1 hanswers).idText_eq hreply
            · have hanswers := answers_of_check hsuccess hparsed hreply hversion hid
              exact ((h ms).2 hanswers).idText_eq hreply
        · exact .error (.same _)
      · exact .error (.same _)
  | @repeated r r' ms ms' hsuccess hsuccess' hbody hbody' hid hid' hrest =>
      have hordered : (Value.obj ms).Ordered := Value.ordered_of_parseBytes hbody
      have hordered' : (Value.obj ms').Ordered := Value.ordered_of_parseBytes hbody'
      rw [resultFor_eq, resultFor_eq, if_pos hsuccess, if_pos hsuccess', hbody, hbody']
      rcases Reply.ofJson_repeated hordered.1.nodup hordered'.1.nodup hid hid' hrest with
        ⟨reply, hreply, hreply'⟩ | ⟨hreply, hreply'⟩
      · simp only [hreply, hreply']
        rw [Reply.check_repeated reply id id']
        exact .refl .same _
      · simp only [hreply, hreply']
        exact .error (.same _)
  | refused status hstatus before after =>
      rw [resultFor_eq, resultFor_eq, if_neg (by simp [hstatus]), if_neg (by simp [hstatus])]
      exact .error (.refused hI status before after)

/-- So do alike responses that may be missing. -/
theorem resultOf_alike {I : String → String → Prop} (hI : I id id') {r r' : Option Response}
    (h : Option.Rel (Response.Alike id id') r r') :
    SameUnless (Error.Alike I) (resultOf id r) (resultOf id' r') := by
  cases h with
  | none => exact .error (.same _)
  | some h => exact h.resultFor hI

end Rpc
end Messenger
