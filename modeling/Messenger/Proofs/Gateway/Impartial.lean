import Messenger.Gateway.Directories
import Messenger.Proofs.Cache.Shift
import Messenger.Proofs.Rpc.Renumbered

set_option autoImplicit false

/-! # Impartial daemons

A daemon is *impartial* if it uses the identifier of a request for nothing but to repeat it. Over
links that differ only in the numbers of their identifiers, an impartial daemon answers calls alike
(`Link.Alike.call`), so what is loaded from it is alike too. -/

namespace Messenger

open Json Rpc

variable {δ : Type}

/-! ## Daemons -/

/-- A daemon does not tell apart requests whose identifiers are numbered from `n` and from `n'`: it
answers with responses that are alike, and goes on in states that `R` relates. -/
structure Daemon.Impartial (n n' : UInt64) (R : δ → δ → Prop) (d : Daemon δ) : Prop where
  call : ∀ (address : Url) (method : String) (params : Value) (id id' : String) (s s' : δ),
    Renumbered n n' id id' → R s s' →
      Option.Rel (Response.Alike id id') (d.call address ⟨id, method, params⟩ s).1
          (d.call address ⟨id', method, params⟩ s').1
        ∧ R (d.call address ⟨id, method, params⟩ s).2 (d.call address ⟨id', method, params⟩ s').2
  listen : ∀ (address : Url) (s s' : δ), R s s' →
    (d.listen address s).1 = (d.listen address s').1
      ∧ R (d.listen address s).2 (d.listen address s').2

theorem Rpc.renumbered_self {n : UInt64} {id id' : String} (h : Renumbered n n id id') :
    id = id' := by
  rcases h with h | ⟨method, k, h, h'⟩
  · exact h
  · exact h.trans h'.symm

/-- Every daemon tells no request from itself. -/
theorem Daemon.impartial_self (n : UInt64) (d : Daemon δ) : d.Impartial n n Eq where
  call address method params id id' s s' hid hs := by
    obtain rfl := renumbered_self hid
    subst hs
    refine ⟨?_, rfl⟩
    cases (d.call address ⟨id, method, params⟩ s).1 with
    | none => exact .none
    | some r => exact .some (.same r fun _ => Iff.rfl)
  listen address s s' hs := by
    subst hs
    exact ⟨rfl, rfl⟩

/-- States with records of demands that are alike. -/
structure Recorded (I : String → String → Prop) (R : δ → δ → Prop)
    (s s' : δ × List Demand) : Prop where
  state : R s.1 s'.1
  demands : List.Forall₂ (Demand.Alike I) s.2 s'.2

/-- An impartial daemon that keeps a record of what it is asked is impartial. -/
theorem Daemon.Impartial.recorded {n n' : UInt64} {R : δ → δ → Prop} {d : Daemon δ}
    (h : d.Impartial n n' R) : d.recorded.Impartial n n' (Recorded (Renumbered n n') R) where
  call address method params id id' s s' hid hs := by
    obtain ⟨hresponse, hstate⟩ := h.call address method params id id' s.1 s'.1 hid hs.state
    exact ⟨hresponse, hstate, List.rel_append hs.demands (.cons (.call hid ..) .nil)⟩
  listen address s s' hs := by
    obtain ⟨hconnection, hstate⟩ := h.listen address s.1 s'.1 hs.state
    exact ⟨hconnection, hstate, List.rel_append hs.demands (.cons (.same _) .nil)⟩

/-! ## Links -/

/-- Two links to the addresses `e` whose next identifiers are numbered equally far from `n` and from
`n'`. -/
structure Link.Alike (e : Endpoint) (n n' : UInt64) (R : δ → δ → Prop) (l l' : Link δ) : Prop where
  endpoint : l.endpoint = e
  endpoint' : l'.endpoint = e
  number : ∃ k, l.sequence.next = n + k ∧ l'.sequence.next = n' + k
  daemon : R l.daemon l'.daemon

variable {e : Endpoint} {n n' : UInt64} {R : δ → δ → Prop} {d : Daemon δ} {l l' : Link δ}

/-- The next identifiers are renumbered, and so are those after them. -/
theorem Link.Alike.identify (h : l.Alike e n n' R l') (chosen : Option String) (method : String) :
    Renumbered n n' (l.sequence.identify chosen method).1 (l'.sequence.identify chosen method).1
      ∧ ∃ k, (l.sequence.identify chosen method).2.next = n + k
        ∧ (l'.sequence.identify chosen method).2.next = n' + k := by
  obtain ⟨k, hk, hk'⟩ := h.number
  -- A generated identifier takes one number on either side, a chosen one takes none.
  have hgenerate : Renumbered n n' (Sequence.identify.generate l.sequence method).1
        (Sequence.identify.generate l'.sequence method).1
      ∧ ∃ k, (Sequence.identify.generate l.sequence method).2.next = n + k
        ∧ (Sequence.identify.generate l'.sequence method).2.next = n' + k := by
    refine ⟨.inr ⟨method, k, by rw [← hk]; rfl, by rw [← hk']; rfl⟩, k + 1, ?_, ?_⟩
    · rw [← UInt64.add_assoc, ← hk]
      rfl
    · rw [← UInt64.add_assoc, ← hk']
      rfl
  cases chosen with
  | none => exact hgenerate
  | some given =>
      unfold Sequence.identify
      simp only
      split
      · exact hgenerate
      · exact ⟨.inl rfl, k, hk, hk'⟩

/-- The record of a refused reply tells the identifier. -/
theorem Link.rejected_alike {I : String → String → Prop} {id id' : String} (hid : I id id')
    (method : String) {x x' : Except Rpc.Error Value} (h : SameUnless (Error.Alike I) x x') :
    List.Forall₂ (LogRecord.Alike I) (rejected method id x) (rejected method id' x') := by
  cases h with
  | ok value => exact .nil
  | @error err _ he =>
      cases he with
      | same =>
          cases err with
          | refused status body => exact .cons (.rejected hid ..) .nil
          | _ => exact .nil
      | wrongId _ actual => exact .nil
      | refused _ status before after => exact .cons (.rejected hid ..) .nil

/-- A call, in the terms of its identifier and of what comes back. -/
theorem Link.call_eq (d : Daemon δ) (method : String) (params : Value) (chosen : Option String)
    (l : Link δ) :
    l.call d method params chosen =
      let named := l.sequence.identify chosen method
      let answered := d.call l.endpoint.rpc ⟨named.1, method, params⟩ l.daemon
      (resultOf named.1 answered.1, rejected method named.1 (resultOf named.1 answered.1),
        { l with sequence := named.2, daemon := answered.2 }) := by
  unfold Link.call resultOf
  rfl

/-- The same call over links that are alike. -/
theorem Link.Alike.call (hd : d.Impartial n n' R) (h : l.Alike e n n' R l') (method : String)
    (params : Value) (chosen : Option String) :
    let x := l.call d method params chosen
    let x' := l'.call d method params chosen
    SameUnless (Error.Alike (Renumbered n n')) x.1 x'.1
      ∧ List.Forall₂ (LogRecord.Alike (Renumbered n n')) x.2.1 x'.2.1
      ∧ x.2.2.Alike e n n' R x'.2.2 := by
  obtain ⟨hid, hnumber⟩ := h.identify chosen method
  obtain ⟨hresponse, hdaemon⟩ := hd.call e.rpc method params _ _ _ _ hid h.daemon
  have hresult := resultOf_alike hid hresponse
  rw [Link.call_eq, Link.call_eq, h.endpoint, h.endpoint']
  exact ⟨hresult, rejected_alike hid method hresult, rfl, rfl, hnumber, hdaemon⟩

/-- The same attempt to open the event stream. -/
theorem Link.Alike.listen (hd : d.Impartial n n' R) (h : l.Alike e n n' R l') :
    (l.listen d).1 = (l'.listen d).1 ∧ (l.listen d).2.Alike e n n' R (l'.listen d).2 := by
  obtain ⟨hconnection, hdaemon⟩ := hd.listen e.events _ _ h.daemon
  unfold Link.listen
  rw [h.endpoint, h.endpoint']
  exact ⟨hconnection, rfl, rfl, h.number, hdaemon⟩

/-! ## Directories -/

/-- Two failures of a gateway are the same, or they differ in an identifier. -/
inductive GatewayError.Alike (I : String → String → Prop) : GatewayError → GatewayError → Prop
  | same (e : GatewayError) : Alike I e e
  | rpc {e e' : Rpc.Error} (h : e.Alike I e') : Alike I (.rpc e) (.rpc e')

/-- What a list is asked for with a failing call is a failure that is alike. -/
theorem Link.Alike.list {α : Type} (hd : d.Impartial n n' R) (h : l.Alike e n n' R l')
    (method : String) (item : Value → Except Fault α) (account : String) :
    let x := l.list d method item account
    let x' := l'.list d method item account
    SameUnless (GatewayError.Alike (Renumbered n n')) x.1 x'.1
      ∧ List.Forall₂ (LogRecord.Alike (Renumbered n n')) x.2.1 x'.2.1
      ∧ x.2.2.Alike e n n' R x'.2.2 := by
  obtain ⟨hresult, hlog, hlink⟩ := h.call hd method (.obj [("account", .str account)]) none
  exact ⟨(hresult.mapError .rpc).bind .same _, hlog, hlink⟩

/-- Groups are loaded alike over links that are alike. -/
theorem GroupDirectory.loadsAlike (hd : d.Impartial n n' R) :
    Cache.LoadsAlike (GatewayError.Alike (Renumbered n n')) (Renumbered n n')
      (Link.Alike e n n' R) (GroupDirectory.load d) := by
  intro account l l' h
  obtain ⟨hgroups, hlog, hlink⟩ := h.list hd listGroups Group.ofJson account
  exact ⟨hgroups.map _, hlog, hlink⟩

/-- Identities are loaded alike over links that are alike. -/
theorem IdentityDirectory.loadsAlike (hd : d.Impartial n n' R) :
    Cache.LoadsAlike (GatewayError.Alike (Renumbered n n')) (Renumbered n n')
      (Link.Alike e n n' R) (IdentityDirectory.load d) := by
  intro account l l' h
  obtain ⟨hidentities, hlog, hlink⟩ := h.list hd listIdentities Identity.ofJson account
  exact ⟨hidentities.map _, hlog, hlink⟩

end Messenger
