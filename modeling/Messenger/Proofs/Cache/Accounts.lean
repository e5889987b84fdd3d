import Messenger.Proofs.Cache.Sound

set_option autoImplicit false

/-! # One account among others

The law of a cache speaks of one account: of the times at which it was served, and of what was
loaded for it. So an account cannot tell what else happens to the cache. Where the answers of a
loader are fixed for every account, the steps that concern one account and the loads made for it are
those of a course in which nothing else happens (`Cache.served_or_loaded`). -/

namespace Messenger.Cache

variable {α ε : Type}

/-- A loader whose answers are fixed: for every account a first one, a second one, and so on. Its
state counts the loads. -/
def scripted (answers : String → Nat → Except ε α) : Loader ε (String → Nat) α :=
  fun account count =>
    (answers account (count account), [], fun b => if b = account then count b + 1 else count b)

namespace Course

/-- What a course says about an account agrees with what another one says in which nothing else
happened. -/
structure Agree (account : String) (c alone : Course ε (String → Nat) α) : Prop where
  now : c.now = alone.now
  ttl : c.cache.ttl = alone.cache.ttl
  count : c.state.1 account = alone.state.1 account
  history : c.history.filter (·.operation.concerns account) = alone.history
  loads : c.loads.filter (·.1 = account) = alone.loads
  served : ∀ ttl time, Served ttl account time c.history ↔ Served ttl account time alone.history
  value : lastLoaded account c.loads = lastLoaded account alone.loads

variable (answers : String → Nat → Except ε α) (titleIn : α → String → Option String)
variable {account : String} {c alone : Course ε (String → Nat) α}

/-- Two courses that agree note the same step. -/
theorem Agree.noted (h : Agree account c alone) {op : Operation}
    (hconcerns : op.concerns account = true) (answer : Answer ε α) :
    Agree account (c.note op answer) (alone.note op answer) where
  now := h.now
  ttl := h.ttl
  count := h.count
  history := by
    rw [note, List.filter_append, h.history, h.now]
    simp [note, hconcerns]
  loads := h.loads
  served ttl time := by
    rw [note, note, served_concat, served_concat, h.served, h.now]
  value := h.value

/-- Two courses that agree load the same. -/
theorem Agree.loading (h : Agree account c alone) (result : Except ε α) {s s' : String → Nat}
    (hcount : s account = s' account) :
    Agree account { c with state := (s, c.loads ++ [(account, result)]) }
      { alone with state := (s', alone.loads ++ [(account, result)]) } where
  now := h.now
  ttl := h.ttl
  count := hcount
  history := h.history
  loads := by
    show (c.loads ++ [(account, result)]).filter _ = alone.loads ++ [(account, result)]
    rw [List.filter_append, h.loads]
    simp
  served := h.served
  value := by
    show lastLoaded account (c.loads ++ [_]) = lastLoaded account (alone.loads ++ [_])
    rw [lastLoaded_concat, lastLoaded_concat, h.value]

/-- What the entries of the caches are does not count. -/
theorem Agree.caching (h : Agree account c alone) {cache cache' : Cache α}
    (httl : cache.ttl = c.cache.ttl) (httl' : cache'.ttl = alone.cache.ttl) :
    Agree account { c with cache } { alone with cache := cache' } where
  now := h.now
  ttl := httl.trans (h.ttl.trans httl'.symm)
  count := h.count
  history := h.history
  loads := h.loads
  served := h.served
  value := h.value

/-- Asking for the account comes to the same in both. -/
theorem Agree.asked (h : Agree account c alone) (hc : c.Sound account)
    (halone : alone.Sound account) :
    (c.ask (scripted answers) account).1 = (alone.ask (scripted answers) account).1
      ∧ Agree account (c.ask (scripted answers) account).2
        (alone.ask (scripted answers) account).2 := by
  have hserved : Served c.cache.ttl account c.now c.history
      ↔ Served alone.cache.ttl account alone.now alone.history := by
    rw [h.served, h.ttl, h.now]
  -- Since both are sound, a fresh value means that the account was served, so the caches have one
  -- both or neither.
  rcases c.ask_cases (scripted answers) account with
    ⟨value, hfresh, hask⟩ | ⟨hstale, result, s, hloaded, hask⟩
  · rcases alone.ask_cases (scripted answers) account with
      ⟨value', hfresh', hask'⟩ | ⟨hstale', -⟩
    · obtain ⟨hvalue, -⟩ := hc.of_fresh? hfresh
      obtain ⟨hvalue', -⟩ := halone.of_fresh? hfresh'
      have hsame : value = value' := by
        rw [h.value, hvalue'] at hvalue
        exact (Option.some.inj hvalue).symm
      rw [hask, hask', hsame]
      exact ⟨rfl, h.caching rfl rfl⟩
    · exact absurd (hserved.1 (hc.of_fresh? hfresh).2) (halone.of_stale hstale')
  · rcases alone.ask_cases (scripted answers) account with
      ⟨value', hfresh', -⟩ | ⟨-, result', s', hloaded', hask'⟩
    · exact absurd (hserved.2 (halone.of_fresh? hfresh').2) (hc.of_stale hstale)
    · obtain ⟨rfl, rfl⟩ := Prod.mk.inj hloaded
      obtain ⟨rfl, rfl⟩ := Prod.mk.inj hloaded'
      rw [hask, hask', h.count]
      refine ⟨rfl, (h.loading _ (by simp [h.count])).caching ?_ ?_⟩
      · cases answers account (alone.state.1 account) <;> rfl
      · cases answers account (alone.state.1 account) <;> rfl

/-- An operation that concerns the account is applied to both courses. -/
theorem Agree.apply (h : Agree account c alone) (hc : c.Sound account)
    (halone : alone.Sound account) {op : Operation} (hconcerns : op.concerns account = true) :
    Agree account (c.apply (scripted answers) titleIn op)
      (alone.apply (scripted answers) titleIn op) := by
  by_cases hasks : op.asks account = true
  · obtain ⟨hresult, hagree⟩ := h.asked answers hc halone
    rw [apply_of_asks _ _ hasks, apply_of_asks _ _ hasks, hresult]
    exact hagree.noted hconcerns _
  · cases op with
    | get a => simp_all [Operation.concerns, Operation.forgets]
    | title a groupId => simp_all [Operation.concerns, Operation.forgets]
    | invalidate a => exact (h.noted hconcerns .nothing).caching rfl rfl
    | invalidateAll => exact (h.noted hconcerns .nothing).caching rfl rfl
    | advance elapsed =>
        have hnoted := h.noted hconcerns .nothing
        exact ⟨congrArg (· + elapsed) h.now, h.ttl, h.count, hnoted.history, h.loads,
          hnoted.served, h.value⟩

/-- What is noted of other accounts does not count. -/
theorem Agree.noted_other (h : Agree account c alone) {op : Operation}
    (hother : op.concerns account = false) (answer : Answer ε α) :
    Agree account (c.note op answer) alone where
  now := h.now
  ttl := h.ttl
  count := h.count
  history := by
    rw [note, List.filter_append, h.history]
    simp [hother]
  loads := h.loads
  served ttl time := by
    rw [← h.served]
    refine served_concat_of_other ?_ ?_
    · cases op <;> simp_all [Operation.concerns, Step.serves]
    · cases op <;> simp_all [Operation.concerns]
  value := h.value

/-- What is loaded for other accounts does not count. -/
theorem Agree.loading_other (h : Agree account c alone) {other : String} (hne : other ≠ account)
    (result : Except ε α) {s : String → Nat} (hcount : s account = c.state.1 account) :
    Agree account { c with state := (s, c.loads ++ [(other, result)]) } alone where
  now := h.now
  ttl := h.ttl
  count := hcount.trans h.count
  history := h.history
  loads := by
    show (c.loads ++ [(other, result)]).filter _ = alone.loads
    rw [List.filter_append, h.loads]
    simp [hne]
  served := h.served
  value := by
    show lastLoaded account (c.loads ++ [_]) = lastLoaded account alone.loads
    rw [lastLoaded_concat, h.value]
    cases result <;> simp [hne]

/-- Asking for another account does not count. -/
theorem Agree.asked_other (h : Agree account c alone) {other : String} (hne : other ≠ account) :
    Agree account (c.ask (scripted answers) other).2 alone := by
  rcases c.ask_cases (scripted answers) other with
    ⟨value, -, hask⟩ | ⟨-, result, s, hloaded, hask⟩
  · rw [hask]
    exact h.caching rfl rfl
  · obtain ⟨rfl, rfl⟩ := Prod.mk.inj hloaded
    rw [hask]
    refine (h.loading_other hne _ (if_neg (Ne.symm hne))).caching ?_ rfl
    cases answers other (c.state.1 other) <;> rfl

/-- An operation that does not concern the account is applied to one course only. -/
theorem Agree.apply_other (h : Agree account c alone) {op : Operation}
    (hother : op.concerns account = false) :
    Agree account (c.apply (scripted answers) titleIn op) alone := by
  cases op with
  | get a =>
      have hne : a ≠ account := by
        simpa [Operation.concerns, Operation.asks, Operation.forgets] using hother
      exact (h.asked_other answers hne).noted_other hother _
  | title a groupId =>
      have hne : a ≠ account := by
        simpa [Operation.concerns, Operation.asks, Operation.forgets] using hother
      exact (h.asked_other answers hne).noted_other hother _
  | invalidate a => exact (h.noted_other hother .nothing).caching rfl rfl
  | invalidateAll => cases hother
  | advance elapsed => cases hother

theorem Agree.run (h : Agree account c alone) (hc : c.Sound account)
    (halone : alone.Sound account) (ops : List Operation) :
    Agree account (c.run (scripted answers) titleIn ops)
      (alone.run (scripted answers) titleIn (ops.filter (·.concerns account))) := by
  -- The second course stands still while the first one does what does not concern the account.
  induction ops generalizing c alone with
  | nil => exact h
  | cons op ops ih =>
      cases hconcerns : op.concerns account with
      | true =>
          rw [List.filter_cons_of_pos hconcerns]
          exact ih (h.apply answers titleIn hc halone hconcerns)
            (hc.apply (scripted answers) titleIn op) (halone.apply (scripted answers) titleIn op)
      | false =>
          rw [List.filter_cons_of_neg (by simp [hconcerns])]
          exact ih (h.apply_other answers titleIn hconcerns)
            (hc.apply (scripted answers) titleIn op) halone

end Course

open Course in
/-- **The law of the cache.** After any course, an account that was served not longer ago than the
idle time, and not forgotten since, is answered with the value that was loaded last for it, and
nothing is loaded; in every other case it is loaded once, and that is the answer. So no account can
tell what happens to others: what it is answered, when, and what is loaded for it, is the same where
only operations that concern it are applied. In a cache of groups, titles are sought so too. -/
theorem served_or_loaded {σ : Type} (load : Loader ε σ α) (titleIn : α → String → Option String)
    (ttl now : Nat) (s : σ) (ops : List Operation) (account : String) :
    (∀ op : Operation, op.asks account = true →
      let c := (start ttl now s).run load titleIn ops
      let after := c.apply load titleIn op
      ∃ result, after.history = c.history ++ [⟨c.now, op, op.answer titleIn result⟩]
        ∧ (Served ttl account c.now c.history → after.loads = c.loads
          ∧ ∃ value, lastLoaded account c.loads = some value ∧ result = .ok value)
        ∧ (¬ Served ttl account c.now c.history → after.loads = c.loads ++ [(account, result)]))
    ∧ (∀ answers : String → Nat → Except ε α,
      let all := (start ttl now fun _ => 0).run (scripted answers) titleIn ops
      let alone := (start ttl now fun _ => 0).run (scripted answers) titleIn
        (ops.filter (·.concerns account))
      all.history.filter (·.operation.concerns account) = alone.history
        ∧ all.loads.filter (·.1 = account) = alone.loads)
    ∧ ∀ (load : Loader GatewayError σ GroupDirectory) (now : Nat),
      Cache.titles load now = some fun account groupId around =>
        let asked := around.1.get load now account around.2
        (titleFrom titleInGroups groupId asked.1, asked.2) := by
  refine ⟨fun op hasks => ?_, fun answers => ?_, titles_eq⟩
  · have hsound := (sound_start ttl now s account).run load titleIn ops
    obtain ⟨result, hhistory, hserved, hstale⟩ := hsound.law load titleIn hasks
    rw [ttl_run] at hserved hstale
    exact ⟨result, hhistory, hserved, hstale⟩
  · have hstart : Agree account (start ttl now fun _ => 0 : Course ε (String → Nat) α)
        (start ttl now fun _ => 0) :=
      ⟨rfl, rfl, rfl, rfl, rfl, fun _ _ => Iff.rfl, rfl⟩
    have hagree := hstart.run answers titleIn (sound_start ..) (sound_start ..) ops
    exact ⟨hagree.history, hagree.loads⟩

/-- A loader that answers with the number of letters. -/
def letters : Loader Unit Unit Nat := fun account s => (.ok account.length, [], s)

open Course in
/-- The idle time is the last moment at which a value is used, also where another account was loaded
in between. -/
theorem served_at_the_last_moment :
    let c := (start 10 0 ()).run letters (fun _ _ => none)
      [.get "a", .advance 6, .get "bb", .advance 4]
    (Operation.get "a").asks "a" = true ∧ Served 10 "a" c.now c.history
      ∧ (c.apply letters (fun _ _ => none) (.get "a")).loads = [("a", .ok 1), ("bb", .ok 2)] := by
  have hserved : Served 10 "a" 10 [(⟨0, .get "a", .value (.ok 1)⟩ : Step Unit Nat),
      ⟨0, .advance 6, .nothing⟩, ⟨6, .get "bb", .value (.ok 2)⟩, ⟨6, .advance 4, .nothing⟩] :=
    ⟨⟨0, .get "a", .value (.ok 1)⟩, by simp [sinceForgotten, Operation.forgets], rfl, by decide⟩
  obtain ⟨hlaw, -, -⟩ := served_or_loaded letters (fun _ _ => none) 10 0 ()
    [.get "a", .advance 6, .get "bb", .advance 4] "a"
  obtain ⟨result, -, hsame, -⟩ := hlaw (.get "a") rfl
  exact ⟨rfl, hserved, (hsame hserved).1⟩

end Messenger.Cache
