import Messenger.Proofs.Cache.Sound

set_option autoImplicit false

/-! # Loads that take time

A cache decides when it is asked whether there is a value that may still be used, and it stores what
is loaded when the load is over. Time may pass in between. It may as well pass before the cache is
asked, because a value that may not be used before the load may not be used after it either
(`getSlowly_eq`). So courses with loads that take time keep all that waiting and the operations of
other courses keep (`Course.runSlowly_induction`). -/

namespace Messenger.Cache

variable {α ε σ : Type}

/-- The value of an account if a load takes some time, and when that is known. A stale entry is
dropped before the load. -/
def getSlowly (load : Loader ε σ α) (now elapsed : Nat) (account : String) (c : Cache α) (s : σ) :
    Nat × Except ε α × List LogRecord × Cache α × σ :=
  match c.fresh? now account with
  | some value => (now, .ok value, [], c.touch now account, s)
  | none =>
    let c := c.invalidate account
    match load account s with
    | (.ok value, log, s) =>
      (now + elapsed, .ok value, log, c.store (now + elapsed) account value, s)
    | (.error e, log, s) => (now + elapsed, .error e, log, c, s)

/-- What may not be used may not be used later. -/
theorem fresh?_later {now : Nat} {account : String} {c : Cache α}
    (h : c.fresh? now account = none) (elapsed : Nat) :
    c.fresh? (now + elapsed) account = none := by
  unfold fresh? at h ⊢
  cases hlookup : c.entries.lookup account with
  | none => rfl
  | some e =>
      have hstale : ¬ now - e.lastAccess ≤ c.ttl := fun hfresh => by
        simp [hlookup, isFresh, hfresh] at h
      have hlater : ¬ now + elapsed - e.lastAccess ≤ c.ttl := by omega
      exact if_neg fun hfresh => hlater (of_decide_eq_true hfresh)

/-- A value that is stored takes the place of the entry of its account. -/
theorem store_invalidate (now : Nat) (account : String) (value : α) (c : Cache α) :
    (c.invalidate account).store now account value = c.store now account value := by
  unfold store sweep invalidate others
  simp only [List.filter_filter]
  congr 3
  funext e
  cases e.1 != account <;> simp

/-- The time that a load takes may as well pass before. -/
theorem getSlowly_eq (load : Loader ε σ α) (now elapsed : Nat) (account : String) (c : Cache α)
    (s : σ) :
    let known := if (c.fresh? now account).isSome then now else now + elapsed
    c.getSlowly load now elapsed account s = (known, c.get load known account s) := by
  unfold getSlowly get
  cases hfresh : c.fresh? now account with
  | some value => simp [hfresh]
  | none =>
      have hlater := fresh?_later hfresh elapsed
      rcases hload : load account s with ⟨_ | value, log, s'⟩ <;>
        simp [hlater, store_invalidate]

namespace Course

variable (load : Loader ε σ α) (titleIn : α → String → Option String)

/-- Let time pass without noting it. -/
def wait (elapsed : Nat) (c : Course ε σ α) : Course ε σ α := { c with now := c.now + elapsed }

/-- Ask the cache for an account, and wait for the load if there is one. -/
def askSlowly (elapsed : Nat) (account : String) (c : Course ε σ α) :
    Except ε α × Course ε σ α :=
  let (now, result, _, cache, state) :=
    c.cache.getSlowly (recorded load) c.now elapsed account c.state
  (result, { c with cache, now, state })

/-- Apply an operation. If a load comes with it, that takes some time. -/
def applySlowly (c : Course ε σ α) (op : Operation) (elapsed : Nat) : Course ε σ α :=
  match op with
  | .get account =>
    let (result, c) := c.askSlowly load elapsed account
    c.note op (op.answer titleIn result)
  | .title account _ =>
    let (result, c) := c.askSlowly load elapsed account
    c.note op (op.answer titleIn result)
  | _ => c.apply load titleIn op

/-- Apply operations in turn, each with the time that a load takes in it. -/
def runSlowly (ops : List (Operation × Nat)) (c : Course ε σ α) : Course ε σ α :=
  ops.foldl (fun c step => c.applySlowly load titleIn step.1 step.2) c

variable {c : Course ε σ α} {account : String}

/-- How long it takes to ask for an account. -/
def waits (elapsed : Nat) (account : String) (c : Course ε σ α) : Nat :=
  if (c.cache.fresh? c.now account).isSome then 0 else elapsed

theorem askSlowly_eq (elapsed : Nat) (account : String) (c : Course ε σ α) :
    c.askSlowly load elapsed account = (c.wait (c.waits elapsed account)).ask load account := by
  have hover : c.now + c.waits elapsed account
      = if (c.cache.fresh? c.now account).isSome then c.now else c.now + elapsed := by
    unfold waits
    split <;> rfl
  unfold askSlowly ask wait
  rw [getSlowly_eq, hover]

/-- What asking for an account comes to: the value in the cache, or one load that takes its time. -/
theorem askSlowly_cases (elapsed : Nat) (account : String) (c : Course ε σ α) :
    (∃ value, c.cache.fresh? c.now account = some value
        ∧ c.askSlowly load elapsed account
          = (.ok value, { c with cache := c.cache.touch c.now account }))
      ∨ c.cache.fresh? c.now account = none ∧ ∃ result s, c.askSlowly load elapsed account
        = (result, { c with
            now := c.now + elapsed
            cache := match result with
              | .ok value => c.cache.store (c.now + elapsed) account value
              | .error _ => c.cache.invalidate account
            state := (s, c.loads ++ [(account, result)]) }) := by
  rw [askSlowly_eq]
  cases hfresh : c.cache.fresh? c.now account with
  | some value =>
      have hwaits : c.waits elapsed account = 0 := by simp [waits, hfresh]
      rw [hwaits]
      rcases (c.wait 0).ask_cases load account with ⟨value', hvalue, hask⟩ | ⟨hnone, -⟩
      · exact .inl ⟨value', hfresh.symm.trans hvalue, hask⟩
      · cases hfresh.symm.trans hnone
  | none =>
      have hwaits : c.waits elapsed account = elapsed := by simp [waits, hfresh]
      rw [hwaits]
      rcases (c.wait elapsed).ask_cases load account with
        ⟨value, hvalue, -⟩ | ⟨-, result, s, -, hask⟩
      · cases (fresh?_later hfresh elapsed).symm.trans hvalue
      · exact .inr ⟨rfl, result, s, hask⟩

/-- An operation that asks for an account notes what the cache answers, and when. -/
theorem applySlowly_of_asks {op : Operation} (hasks : op.asks account = true) (elapsed : Nat) :
    c.applySlowly load titleIn op elapsed
      = (c.askSlowly load elapsed account).2.note op
        (op.answer titleIn (c.askSlowly load elapsed account).1) := by
  cases op with
  | get a =>
      obtain rfl := of_decide_eq_true hasks
      rfl
  | title a groupId =>
      obtain rfl := of_decide_eq_true hasks
      rfl
  | _ => cases hasks

/-- Every operation is one before which time passes. -/
theorem applySlowly_eq (c : Course ε σ α) (op : Operation) (elapsed : Nat) :
    ∃ waited, c.applySlowly load titleIn op elapsed
      = (c.wait waited).apply load titleIn op := by
  cases op with
  | get a =>
      refine ⟨c.waits elapsed a, ?_⟩
      rw [applySlowly, apply, askSlowly_eq]
  | title a groupId =>
      refine ⟨c.waits elapsed a, ?_⟩
      rw [applySlowly, apply, askSlowly_eq]
  | _ => exact ⟨0, rfl⟩

/-- What waiting and every operation keep is kept by courses with loads that take time. -/
theorem runSlowly_induction {P : Course ε σ α → Prop}
    (hwait : ∀ c elapsed, P c → P (c.wait elapsed))
    (happly : ∀ c op, P c → P (c.apply load titleIn op)) (h : P c) (ops : List (Operation × Nat)) :
    P (c.runSlowly load titleIn ops) :=
  List.foldlRecOn ops _ h fun c h step _ => by
    obtain ⟨waited, heq⟩ := applySlowly_eq load titleIn c step.1 step.2
    rw [heq]
    exact happly _ _ (hwait c waited h)

/-- What the entries stand for does not depend on how late it is. -/
theorem Sound.wait (h : c.Sound account) (elapsed : Nat) : (c.wait elapsed).Sound account :=
  h.frame (Nat.le_add_right ..) rfl (fun _ => Iff.rfl) rfl (fun _ hmem => hmem)
    fun _ hmem _ => hmem

theorem Sound.runSlowly (h : c.Sound account) (ops : List (Operation × Nat)) :
    (c.runSlowly load titleIn ops).Sound account :=
  runSlowly_induction load titleIn (fun _ elapsed h => h.wait elapsed)
    (fun _ op h => h.apply load titleIn op) h ops

end Course
end Messenger.Cache
