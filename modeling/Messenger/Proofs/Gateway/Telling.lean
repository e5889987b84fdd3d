import Messenger.Proofs.Gateway.Impartial
import Messenger.Proofs.Json.Plain
import Messenger.Proofs.Text.Utf8

set_option autoImplicit false

/-! # A daemon that tells its version

The smallest daemon that a gateway can be enabled with: it tells its version, and repeats the
identifier of the request when it does. It is impartial (`Daemon.telling_impartial`). -/

namespace Messenger

open Json Rpc

/-- The reply that tells a version, as text. -/
def Rpc.versionReply (id : String) : String :=
  "\x7b\"id\":\"" ++ id ++ "\",\"jsonrpc\":\"2.0\",\"result\":\x7b\"version\":\"1\"\x7d\x7d"

/-- The members of a reply that gives a result. -/
def Rpc.giving (id : String) (v : Value) : Members :=
  [("id", .str id), ("jsonrpc", .str protocolVersion), ("result", v)]

/-- The result that tells a version. -/
def Rpc.versionTold : Value := .obj [("version", .str "1")]

/-- A daemon that tells its version under any identifier that needs no escape, and answers nothing
else. -/
def Daemon.telling : Daemon Unit where
  call _ request s :=
    (if request.method = "version" ∧ PlainText request.id then
      some ⟨200, Text.toUtf8 (versionReply request.id)⟩ else none, s)
  listen _ s := (.refused, s)

/-- The address on this machine with some segments. -/
def Url.loopback (path : List (List Char)) : Url where
  scheme := "http"
  username := []
  password := []
  host := .ipv6 ⟨[0, 0, 0, 0, 0, 0, 0, 1]⟩
  port := some 8080
  path := path
  query := none
  fragment := none

/-- The addresses of a daemon on this machine. -/
def Endpoint.loopback : Endpoint where
  base := .loopback [[]]
  rpc := .loopback ["api".toList, "v1".toList, "rpc".toList]
  events := .loopback ["api".toList, "v1".toList, "events".toList]

/-- The settings for a daemon on this machine. -/
def Settings.loopback : Settings := { daemonUrl := "http://[::1]:8080" }

/-! ## Reading the reply -/

/-- The reply as it is read, its members as they stand in the text. -/
theorem Rpc.value_versionReply {id : String} (h : PlainText id) (fuel : Nat) :
    Read.value (fuel + 9) maxDepth (Text.piecesOfText (versionReply id))
      = .ok (.obj (giving id versionTold), []) := by
  have hbody (i : Input) : Read.stringBody [] true (id.toList.map .char ++ .char '"' :: i)
      = .ok (id, i) := Read.stringBody_plain h i
  simp [versionReply, giving, versionTold, protocolVersion, Text.piecesOfText, maxDepth, Read.value,
    Read.firstMember, Read.moreMembers, Read.stringBody, Read.colon, skipSpace, isSpacePiece,
    isSpace, hbody, bind, Except.bind, pure, Except.pure]

/-- The members of a reply stand in order. -/
theorem Rpc.sorted_giving (id : String) (v : Value) :
    (Value.obj (giving id v)).sorted = .obj (giving id v.sorted) := by
  simp [giving, Value.sorted, Value.sortedMembers, Members.sorted, Members.insert,
    show ¬ "jsonrpc" < "id" by decide, show ¬ "result" < "id" by decide,
    show ¬ "result" < "jsonrpc" by decide]

/-- **The reply is read back.** -/
theorem Rpc.parseBytes_versionReply {id : String} (h : PlainText id) :
    Value.parseBytes (Text.toUtf8 (versionReply id)) = .ok (.obj (giving id versionTold)) := by
  -- The text is long enough for the steps that reading it takes.
  obtain ⟨fuel, hfuel⟩ :
      ∃ fuel, Read.fuelFor (Text.piecesOfText (versionReply id)) = fuel + 9 := by
    refine ⟨_, (Nat.sub_add_cancel ?_).symm⟩
    simp [Read.fuelFor, Text.piecesOfText, versionReply]
    omega
  unfold Value.parseBytes Read.document Read.anyValue
  rw [Text.pieces_toUtf8, hfuel, value_versionReply h]
  exact congrArg Except.ok (sorted_giving id versionTold)

/-! ## Impartiality -/

/-- A generated identifier needs an escape only for its method. -/
theorem Rpc.plain_generatedId {method : String} {k : UInt64}
    (h : PlainText (generatedId method k)) (k' : UInt64) : PlainText (generatedId method k') := by
  have hdigit (c : Char) (hc : c.isDigit = true) : PlainChar c := by
    obtain ⟨hlow, hhigh⟩ := Char.isDigit_iff_toNat.1 hc
    change 48 ≤ c.toNat at hlow
    change c.toNat ≤ 57 at hhigh
    refine ⟨by omega, by omega, ?_, ?_⟩
    · rintro rfl
      cases hc
    · rintro rfl
      cases hc
  simp only [PlainText, generatedId, String.toList_append, String.toList_ofList,
    List.forall_mem_append] at h ⊢
  exact ⟨h.1, fun c hc => hdigit c (Nat.isDigit_of_mem_toDigits (by decide) (by decide) hc)⟩

/-- A daemon that tells its version uses an identifier for nothing but to repeat it. -/
theorem Daemon.telling_impartial (n n' : UInt64) : telling.Impartial n n' Eq where
  call address method params id id' s s' hid hs := by
    subst hs
    refine ⟨?_, rfl⟩
    rcases hid with rfl | ⟨name, k, rfl, rfl⟩
    · cases (telling.call address ⟨id, method, params⟩ s).1 with
      | none => exact .none
      | some r => exact .some (.same r fun _ => Iff.rfl)
    · by_cases hasked : method = "version" ∧ PlainText (generatedId name (n + k))
      · have hplain' := plain_generatedId hasked.2 (n' + k)
        simp only [telling]
        rw [if_pos hasked, if_pos ⟨hasked.1, hplain'⟩]
        refine .some (.repeated rfl rfl (parseBytes_versionReply hasked.2)
          (parseBytes_versionReply hplain') rfl rfl fun key hkey => ?_)
        simp [giving, Members.get?_cons, hkey.symm]
      · simp only [telling]
        rw [if_neg hasked, if_neg fun h => hasked ⟨h.1, plain_generatedId h.2 _⟩]
        exact .none
  listen address s s' hs := ⟨rfl, hs⟩

end Messenger
