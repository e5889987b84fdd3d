import Mathlib.Data.List.Forall2
import Messenger.Daemon
import Messenger.Listener

set_option autoImplicit false

/-! # What differs in identifiers only

Results, records and demands that are the same but for the identifiers of requests in them. Which
identifiers may stand for each other is a relation `I`. -/

namespace Messenger

/-- Two results are the same value, or failures that are related. -/
inductive SameUnless {ε α : Type} (E : ε → ε → Prop) : Except ε α → Except ε α → Prop
  | ok (value : α) : SameUnless E (.ok value) (.ok value)
  | error {e e' : ε} (h : E e e') : SameUnless E (.error e) (.error e')

namespace SameUnless

variable {ε η α β : Type} {E : ε → ε → Prop} {x x' : Except ε α}

theorem refl (hE : ∀ e, E e e) (x : Except ε α) : SameUnless E x x := by
  cases x with
  | ok value => exact .ok value
  | error e => exact .error (hE e)

theorem map (h : SameUnless E x x') (f : α → β) : SameUnless E (x.map f) (x'.map f) := by
  cases h with
  | ok value => exact .ok (f value)
  | error h => exact .error h

theorem mapError (h : SameUnless E x x') {H : η → η → Prop} {f : ε → η}
    (hf : ∀ {e e'}, E e e' → H (f e) (f e')) : SameUnless H (x.mapError f) (x'.mapError f) := by
  cases h with
  | ok value => exact .ok value
  | error h => exact .error (hf h)

theorem bind (h : SameUnless E x x') (hE : ∀ e, E e e) (f : α → Except ε β) :
    SameUnless E (x.bind f) (x'.bind f) := by
  cases h with
  | ok value => exact refl hE (f value)
  | error h => exact .error h

end SameUnless

variable {M : Type} (I : String → String → Prop)

/-- Two records are the same, or they tell that a call was refused under one identifier or the
other. -/
inductive LogRecord.Alike : LogRecord → LogRecord → Prop
  | same (r : LogRecord) : Alike r r
  | rejected {id id' : String} (h : I id id') (method status : String) :
      Alike (.warn "rpc call rejected" [("method", method), ("id", id), ("status", status)])
        (.warn "rpc call rejected" [("method", method), ("id", id'), ("status", status)])

/-- Two notices are the same, or records that are alike. -/
inductive Notice.Alike : Notice M → Notice M → Prop
  | same (n : Notice M) : Alike n n
  | logged {r r' : LogRecord} (h : r.Alike I r') : Alike (.logged r) (.logged r')

/-- Two demands are the same, or the same call under one identifier or the other. -/
inductive Demand.Alike : Demand → Demand → Prop
  | same (x : Demand) : Alike x x
  | call {id id' : String} (h : I id id') (address : Url) (method : String) (params : Json.Value) :
      Alike (.call address ⟨id, method, params⟩) (.call address ⟨id', method, params⟩)

variable {I}

theorem LogRecord.alike_refl (log : List LogRecord) : List.Forall₂ (LogRecord.Alike I) log log :=
  List.forall₂_same.2 fun r _ => .same r

theorem Notice.alike_refl (notices : List (Notice M)) :
    List.Forall₂ (Notice.Alike I) notices notices :=
  List.forall₂_same.2 fun n _ => .same n

/-- Records that are alike are alike as notices. -/
theorem Notice.alike_logged {log log' : List LogRecord}
    (h : List.Forall₂ (LogRecord.Alike I) log log') :
    List.Forall₂ (Notice.Alike I) (log.map (.logged : LogRecord → Notice M))
      (log'.map .logged) := by
  induction h with
  | nil => exact .nil
  | cons hr _ ih => exact .cons (.logged hr) ih

end Messenger
