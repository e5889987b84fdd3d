import Messenger.Proofs.Json.Decode
import Messenger.Proofs.Text.Numeral
import Messenger.Proofs.Text.Percent
import Messenger.Proofs.Text.Utf8
import Messenger.Proofs.Url.Domain
import Messenger.Url

set_option autoImplicit false

/-! # Authorities with controls behind them

Controls at the end of an address are no part of it, but they are once something follows. Behind an
authority they belong to the port, which consists of digits, or to the host, which holds no
control; either way the address is refused (`readAuthority_append`). -/

namespace Messenger

open Json.Decoder (bind_eq_error_iff bind_eq_ok_iff)

namespace Url

open Domain (IsControl)

variable {pad : List Char}

/-! ## Hosts -/

/-- A control is one byte, and that is no digit. -/
theorem isPlain_of_control {c : Char} (h : IsControl c) :
    ∀ b ∈ Text.utf8Char c, Text.Percent.IsPlain b := by
  have hall : ((Text.utf8Char c).all fun b =>
      (Text.hexDigit? (Char.ofNat b.toNat)).isNone) = true :=
    h.of_forall (P := fun c => ((Text.utf8Char c).all fun b =>
      (Text.hexDigit? (Char.ofNat b.toNat)).isNone) = true) (by decide)
  exact fun b hb => Option.isNone_iff_eq_none.1 (List.all_eq_true.1 hall b hb)

theorem orFault_eq_ok_iff {α : Type} {fault : Fault} {o : Option α} {a : α} :
    orFault fault o = .ok a ↔ o = some a := by
  cases o <;> simp [orFault]

/-- What is in brackets ends in a bracket. -/
theorem Host.bracketed?_append {cs : List Char} {result : Except Fault Host}
    (h : bracketed? cs = some result) (hpad : ∀ c ∈ pad, IsControl c) (hne : pad ≠ []) :
    bracketed? (cs ++ pad) = some (.error .invalidIpv6) := by
  obtain ⟨front, c, rfl⟩ := (List.eq_nil_or_concat' pad).resolve_left hne
  have hc : c ≠ ']' := (hpad c (by simp)).ne (by decide)
  unfold bracketed? at h
  split at h
  · rename_i rest
    have hlast : (rest ++ (front ++ [c])).getLast? = some c := by
      rw [← List.append_assoc, List.getLast?_concat]
    simp only [List.cons_append, bracketed?, hlast, Option.some.injEq, hc, if_false]
  · cases h

theorem Host.bracketed?_append_of_none {cs : List Char} (h : bracketed? cs = none)
    (hpad : ∀ c ∈ pad, IsControl c) : bracketed? (cs ++ pad) = none := by
  have hhead : ∀ rest, cs ++ pad ≠ '[' :: rest := by
    intro rest heq
    cases cs with
    | nil =>
        have hcontrol : IsControl '[' := hpad '[' (by rw [← List.nil_append pad, heq]; simp)
        exact hcontrol.ne (by decide) rfl
    | cons c cs =>
        obtain ⟨rfl, -⟩ := List.cons.inj heq
        simp [bracketed?] at h
  unfold bracketed?
  split
  · rename_i rest heq
    exact absurd heq (hhead rest)
  · rfl

/-- Decoding leaves controls behind a text alone. -/
theorem ofUtf8?_decode_append {cs : List Char} {decoded : String}
    (h : Text.ofUtf8? (Text.Percent.decode (cs.flatMap Text.utf8Char)) = some decoded)
    (hpad : ∀ c ∈ pad, IsControl c) :
    Text.ofUtf8? (Text.Percent.decode ((cs ++ pad).flatMap Text.utf8Char))
      = some (decoded ++ String.ofList pad) := by
  have hplain : ∀ b ∈ pad.flatMap Text.utf8Char, Text.Percent.IsPlain b := by
    intro b hb
    obtain ⟨c, hc, hb⟩ := List.mem_flatMap.1 hb
    exact isPlain_of_control (hpad c hc) b hb
  have htext : Text.ofUtf8? (pad.flatMap Text.utf8Char) = some (String.ofList pad) := by
    have hread := Text.ofUtf8?_toUtf8 (String.ofList pad)
    rwa [Text.toUtf8, String.toList_ofList] at hread
  rw [List.flatMap_append, Text.Percent.decode_append hplain, Text.ofUtf8?_append h, htext]
  rfl

/-- **A host with controls behind it is refused.** -/
theorem Host.parse_append {cs : List Char} {host : Host} (hhost : parse cs = .ok host)
    (hpad : ∀ c ∈ pad, IsControl c) (hne : pad ≠ []) :
    ∃ fault, parse (cs ++ pad) = .error fault := by
  cases hbrackets : bracketed? cs with
  | some result =>
      refine ⟨.invalidIpv6, ?_⟩
      rw [parse, bracketed?_append hbrackets hpad hne]
  | none =>
      obtain ⟨front, c, rfl⟩ := (List.eq_nil_or_concat' pad).resolve_left hne
      have hc : IsControl c := hpad c (by simp)
      rw [parse, hbrackets] at hhost
      obtain ⟨decoded, hdecoded, -⟩ := bind_eq_ok_iff.1 hhost
      have hall := ofUtf8?_decode_append (orFault_eq_ok_iff.1 hdecoded) hpad
      have hname : Domain.toAscii? (decoded ++ String.ofList (front ++ [c])).toList = none := by
        rw [String.toList_append, String.toList_ofList, ← List.append_assoc]
        exact Domain.toAscii?_concat hc _
      refine ⟨.invalidDomain, ?_⟩
      rw [parse, bracketed?_append_of_none hbrackets hpad, hall]
      refine bind_eq_error_iff.2 (.inr ⟨_, rfl, bind_eq_error_iff.2 (.inl ?_)⟩)
      rw [hname]
      rfl

/-! ## Ports and credentials -/

/-- A port with controls behind it is refused. -/
theorem readPort_append (cs : List Char) (hpad : ∀ c ∈ pad, IsControl c) (hne : pad ≠ []) :
    readPort (cs ++ pad) = .error .invalidPort := by
  have hnat : Text.nat? (cs ++ pad) = none := by
    cases hread : Text.nat? (cs ++ pad) with
    | none => rfl
    | some n =>
        obtain ⟨c, hc⟩ := List.exists_mem_of_ne_nil pad hne
        have hdigit := (Text.nat?_eq_some_iff.1 hread).2.1 c (List.mem_append_right cs hc)
        have hnot : c.isDigit = false :=
          (hpad c hc).of_forall (P := fun c => c.isDigit = false) (by decide)
        rw [hnot] at hdigit
        cases hdigit
  rw [readPort, if_neg (by simp [hne]), hnat]

theorem splitPort_of_not_mem {cs : List Char} (h : ':' ∉ cs) (inBrackets : Bool) :
    splitPort inBrackets cs = (cs, none) := by
  induction cs generalizing inBrackets with
  | nil => rfl
  | cons c cs ih =>
      rw [List.mem_cons, not_or] at h
      rw [splitPort, if_neg (by simp [Ne.symm h.1]), ih h.2]

/-- What stands behind an authority belongs to the port, or else to the host. -/
theorem splitPort_append (hpad : ':' ∉ pad) (cs : List Char) (inBrackets : Bool) :
    splitPort inBrackets (cs ++ pad) = match splitPort inBrackets cs with
      | (host, none) => (host ++ pad, none)
      | (host, some port) => (host, some (port ++ pad)) := by
  induction cs generalizing inBrackets with
  | nil => rw [List.nil_append, splitPort_of_not_mem hpad]; rfl
  | cons c cs ih =>
      rw [List.cons_append, splitPort, splitPort]
      split
      · rfl
      · rw [ih]
        rcases splitPort (c = '[' || (inBrackets && c ≠ ']')) cs with ⟨host, _ | port⟩ <;> rfl

theorem splitCredentials_append (hpad : '@' ∉ pad) (cs : List Char) :
    splitCredentials (cs ++ pad)
      = ((splitCredentials cs).1, (splitCredentials cs).2 ++ pad) := by
  have hall : ∀ c ∈ pad.reverse, (c != '@') = true := by
    intro c hc
    rw [List.mem_reverse] at hc
    have hat : c ≠ '@' := by
      rintro rfl
      exact hpad hc
    simp [hat]
  have hdrop : (cs ++ pad).reverse.dropWhile (· != '@') = cs.reverse.dropWhile (· != '@') := by
    rw [List.reverse_append, List.dropWhile_append_of_pos hall]
  have htake : ((cs ++ pad).reverse.takeWhile (· != '@')).reverse
      = (cs.reverse.takeWhile (· != '@')).reverse ++ pad := by
    rw [List.reverse_append, List.takeWhile_append_of_pos hall, List.reverse_append,
      List.reverse_reverse]
  unfold splitCredentials
  rw [hdrop, htake]
  split <;> rfl

/-! ## Authorities -/

/-- What an authority is read as. -/
structure Authority where
  username : List Char
  password : List Char
  host : Host
  port : Option Nat

/-- Read an authority. -/
def readAuthority (defaultPort : Nat) (cs : List Char) : Except Fault Authority := do
  let (given, rest) := splitCredentials cs
  let (username, password) := credentials (given.getD [])
  let (hostText, portText) := splitPort false rest
  if hostText.isEmpty then .error .emptyHost
  let host ← Host.parse hostText
  let port ← readPort (portText.getD [])
  return ⟨username, password, host, port.filter (· ≠ defaultPort)⟩

/-- The parts of an address are read one by one. -/
theorem ofParts_eq (scheme : String) (defaultPort : Nat) (p : Parts) :
    ofParts scheme defaultPort p = (readAuthority defaultPort p.authority).map fun a =>
      { scheme, username := a.username, password := a.password, host := a.host, port := a.port
        path := segments p.path
        query := p.query.map (Text.Percent.encodeChars plainInQuery)
        fragment := p.fragment.map (Text.Percent.encodeChars plainInFragment) } := by
  simp only [ofParts, readAuthority]
  rcases splitPort false (splitCredentials p.authority).2 with ⟨hostText, portText⟩
  cases hostText.isEmpty with
  | true => rfl
  | false =>
      cases Host.parse hostText with
      | error fault => rfl
      | ok host => cases readPort (portText.getD []) <;> rfl

/-- **An authority with controls behind it is refused.** -/
theorem readAuthority_append {defaultPort : Nat} {cs : List Char} {a : Authority}
    (h : readAuthority defaultPort cs = .ok a) (hpad : ∀ c ∈ pad, IsControl c) (hne : pad ≠ []) :
    ∃ fault, readAuthority defaultPort (cs ++ pad) = .error fault := by
  have hat : '@' ∉ pad := fun hmem => (hpad _ hmem).ne (by decide) rfl
  have hcolon : ':' ∉ pad := fun hmem => (hpad _ hmem).ne (by decide) rfl
  obtain ⟨hostText, portText, hsplit⟩ :
      ∃ host port, splitPort false (splitCredentials cs).2 = (host, port) := ⟨_, _, rfl⟩
  simp only [readAuthority, splitCredentials_append hat, splitPort_append hcolon, hsplit] at h ⊢
  cases hempty : hostText.isEmpty with
  | true =>
      rw [hempty] at h
      cases h
  | false =>
      rw [hempty] at h
      obtain ⟨host, hhost, -⟩ := bind_eq_ok_iff.1 h
      cases portText with
      | none =>
          obtain ⟨fault, hfault⟩ := Host.parse_append hhost hpad hne
          have hfull : (hostText ++ pad).isEmpty = false := by simp [hne]
          refine ⟨fault, ?_⟩
          simp only [hfull, hfault]
          rfl
      | some portText =>
          refine ⟨.invalidPort, ?_⟩
          simp only [hempty, hhost, Option.getD_some, readPort_append portText hpad hne]
          rfl

end Url
end Messenger
