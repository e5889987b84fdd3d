import Messenger.Cache
import Messenger.Proofs.Alike

set_option autoImplicit false

/-! # A cache at another time

Only the time that has passed since an entry was asked for counts. So a cache whose entries are all
later by some time answers, that much later, as the original does, and is again the original moved
in time (`Cache.get_shift`). Its loader may be in another state, as long as it loads alike. -/

namespace Messenger.Cache

variable {α ε σ : Type}

/-- The cache some time later, all of its entries having been asked for later too. -/
def shift (t : Nat) (c : Cache α) : Cache α :=
  { c with entries := c.entries.map fun e =>
      (e.1, { e.2 with lastAccess := e.2.lastAccess + t }) }

theorem isFresh_shift (ttl now t : Nat) (e : CacheEntry α) :
    isFresh ttl (now + t) { e with lastAccess := e.lastAccess + t } = isFresh ttl now e := by
  rw [isFresh, isFresh, Nat.add_sub_add_right]

theorem lookup_shift (t : Nat) (account : String) (c : Cache α) :
    (c.shift t).entries.lookup account
      = (c.entries.lookup account).map fun e => { e with lastAccess := e.lastAccess + t } := by
  unfold shift
  induction c.entries with
  | nil => rfl
  | cons e entries ih =>
      rw [List.map_cons, List.lookup_cons, List.lookup_cons, ih]
      cases account == e.1 <;> rfl

theorem fresh?_shift (t now : Nat) (account : String) (c : Cache α) :
    (c.shift t).fresh? (now + t) account = c.fresh? now account := by
  unfold fresh?
  rw [lookup_shift]
  cases c.entries.lookup account with
  | none => rfl
  | some e =>
      simp only [Option.map_some]
      rw [show (c.shift t).ttl = c.ttl from rfl, isFresh_shift]

theorem touch_shift (t now : Nat) (account : String) (c : Cache α) :
    (c.shift t).touch (now + t) account = (c.touch now account).shift t := by
  unfold touch shift
  simp only [List.map_map, Cache.mk.injEq, true_and]
  refine List.map_congr_left fun e _ => ?_
  by_cases h : e.1 = account <;> simp [h]

theorem sweep_shift (t now : Nat) (c : Cache α) :
    (c.shift t).sweep (now + t) = (c.sweep now).shift t := by
  unfold sweep shift
  simp only [List.filter_map, Function.comp_def, isFresh_shift]

theorem invalidate_shift (t : Nat) (account : String) (c : Cache α) :
    (c.shift t).invalidate account = (c.invalidate account).shift t := by
  unfold invalidate shift others
  simp only [List.filter_map, Function.comp_def]

theorem store_shift (t now : Nat) (account : String) (value : α) (c : Cache α) :
    (c.shift t).store (now + t) account value = (c.store now account value).shift t := by
  have hsweep := congrArg entries (sweep_shift t now c)
  unfold store
  rw [hsweep]
  simp [shift, others, List.filter_map, Function.comp_def]

/-- The idle time stays. -/
theorem get_ttl (load : Loader ε σ α) (now : Nat) (account : String) (c : Cache α) (s : σ) :
    (c.get load now account s).2.2.1.ttl = c.ttl := by
  unfold get
  cases c.fresh? now account with
  | some value => rfl
  | none => rcases load account s with ⟨_ | _, log, s⟩ <;> rfl

/-- A loader loads alike in related states. -/
def LoadsAlike (E : ε → ε → Prop) (I : String → String → Prop) (S : σ → σ → Prop)
    (load : Loader ε σ α) : Prop :=
  ∀ account s s', S s s' →
    SameUnless E (load account s).1 (load account s').1
      ∧ List.Forall₂ (LogRecord.Alike I) (load account s).2.1 (load account s').2.1
      ∧ S (load account s).2.2 (load account s').2.2

/-- What a cache answers some time later is alike. -/
theorem get_shift {E : ε → ε → Prop} {I : String → String → Prop} {S : σ → σ → Prop}
    {load : Loader ε σ α} (hload : LoadsAlike E I S load) (t now : Nat) (account : String)
    (c : Cache α) {s s' : σ} (hs : S s s') :
    let x := (c.shift t).get load (now + t) account s
    let x' := c.get load now account s'
    SameUnless E x.1 x'.1 ∧ List.Forall₂ (LogRecord.Alike I) x.2.1 x'.2.1
      ∧ x.2.2.1 = x'.2.2.1.shift t ∧ S x.2.2.2 x'.2.2.2 := by
  unfold get
  -- A value is as fresh as it was, so both caches have it or both load.
  rw [fresh?_shift]
  cases c.fresh? now account with
  | some value => exact ⟨.ok value, .nil, touch_shift .., hs⟩
  | none =>
      obtain ⟨hresult, hlog, hstate⟩ := hload account s s' hs
      rcases hx : load account s with ⟨result, log, u⟩
      rcases hx' : load account s' with ⟨result', log', u'⟩
      rw [hx, hx'] at hresult hlog hstate
      cases hresult with
      | ok value => exact ⟨.ok value, hlog, store_shift .., hstate⟩
      | error he => exact ⟨.error he, hlog, invalidate_shift .., hstate⟩

end Messenger.Cache
