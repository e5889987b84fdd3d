import Messenger.Proofs.Cache.Course

set_option autoImplicit false

/-! # What the entries of a cache stand for

An entry holds the value that was loaded last for its account, and as long as it is fresh, the
account was served recently enough. Every operation keeps that (`Course.Sound.apply`), though asking
for one account may sweep away the stale entries of others. The law of the cache follows: an account
that was served recently is answered with the value that was loaded last, and any other by one load
(`Course.Sound.law`). -/

namespace Messenger.Cache

variable {α ε σ : Type}

/-! ## Entries -/

theorem mem_others {account b : String} {e : CacheEntry α}
    {entries : List (String × CacheEntry α)} :
    (b, e) ∈ others account entries ↔ (b, e) ∈ entries ∧ b ≠ account := by
  simp [others]

/-- The entry of the account that was asked for starts its idle time anew. -/
theorem mem_touch_self {now : Nat} {account : String} {c : Cache α} {e : CacheEntry α} :
    (account, e) ∈ (c.touch now account).entries
      ↔ e.lastAccess = now ∧ ∃ t, (account, ⟨e.value, t⟩) ∈ c.entries := by
  unfold touch
  rw [List.mem_map]
  constructor
  · rintro ⟨⟨a, e'⟩, hmem, heq⟩
    by_cases ha : a = account
    · subst ha
      rw [if_pos rfl] at heq
      cases heq
      exact ⟨rfl, e'.lastAccess, hmem⟩
    · rw [if_neg ha] at heq
      cases heq
      exact absurd rfl ha
  · rintro ⟨rfl, t, hmem⟩
    exact ⟨_, hmem, if_pos rfl⟩

/-- The entries of the other accounts are as they were. -/
theorem mem_touch_of_ne {now : Nat} {account b : String} (hb : b ≠ account) {c : Cache α}
    {e : CacheEntry α} : (b, e) ∈ (c.touch now account).entries ↔ (b, e) ∈ c.entries := by
  unfold touch
  rw [List.mem_map]
  constructor
  · rintro ⟨⟨a, e'⟩, hmem, heq⟩
    by_cases ha : a = account
    · rw [if_pos ha] at heq
      cases heq
      exact absurd ha hb
    · rw [if_neg ha] at heq
      exact heq ▸ hmem
  · intro hmem
    exact ⟨_, hmem, if_neg hb⟩

theorem mem_store_self {now : Nat} {account : String} {value : α} {c : Cache α}
    {e : CacheEntry α} :
    (account, e) ∈ (c.store now account value).entries ↔ e = ⟨value, now⟩ := by
  simp [store, mem_others]

theorem mem_store_of_ne {now : Nat} {account b : String} (hb : b ≠ account) {value : α}
    {c : Cache α} {e : CacheEntry α} :
    (b, e) ∈ (c.store now account value).entries
      ↔ (b, e) ∈ c.entries ∧ now - e.lastAccess ≤ c.ttl := by
  simp [store, mem_others, sweep, isFresh, hb]

theorem fresh?_eq_some {now : Nat} {account : String} {c : Cache α} {value : α}
    (h : c.fresh? now account = some value) :
    ∃ t, (account, ⟨value, t⟩) ∈ c.entries ∧ now - t ≤ c.ttl := by
  unfold fresh? at h
  split at h
  · rename_i e hlookup
    split at h
    · rename_i hfresh
      obtain rfl := Option.some.inj h
      obtain ⟨before, after, hentries, -⟩ := List.lookup_eq_some_iff.1 hlookup
      exact ⟨e.lastAccess, by simp [hentries], of_decide_eq_true hfresh⟩
    · cases h
  · cases h

/-- A value is missing because there is no entry, or because the entry is stale. -/
theorem fresh?_eq_none {now : Nat} {account : String} {c : Cache α}
    (h : c.fresh? now account = none) :
    (∀ e, (account, e) ∉ c.entries)
      ∨ ∃ e, (account, e) ∈ c.entries ∧ ¬ now - e.lastAccess ≤ c.ttl := by
  unfold fresh? at h
  split at h
  · rename_i e hlookup
    split at h
    · cases h
    · rename_i hstale
      obtain ⟨before, after, hentries, -⟩ := List.lookup_eq_some_iff.1 hlookup
      exact .inr ⟨e, by simp [hentries], fun hfresh => hstale (decide_eq_true hfresh)⟩
  · rename_i hlookup
    left
    intro e hmem
    simpa using List.lookup_eq_none_iff.1 hlookup _ hmem

/-! ## What the entries stand for -/

namespace Course

variable (load : Loader ε σ α) (titleIn : α → String → Option String)

/-- What asking for an account comes to: the value in the cache, or one load. -/
theorem ask_cases (account : String) (c : Course ε σ α) :
    (∃ value, c.cache.fresh? c.now account = some value
        ∧ c.ask load account = (.ok value, { c with cache := c.cache.touch c.now account }))
      ∨ c.cache.fresh? c.now account = none ∧ ∃ result s, c.loaded load account = (result, s)
        ∧ c.ask load account = (result, { c with
          cache := match result with
            | .ok value => c.cache.store c.now account value
            | .error _ => c.cache.invalidate account
          state := (s, c.loads ++ [(account, result)]) }) := by
  unfold ask get
  cases c.cache.fresh? c.now account with
  | some value => exact .inl ⟨value, rfl, rfl⟩
  | none =>
      rcases hload : load account c.state.1 with ⟨result, log, s⟩
      refine .inr ⟨rfl, result, s, by simp [loaded, hload], ?_⟩
      cases result <;> simp [recorded, hload, loads]

/-- What the entries of an account say: the value is the one that was loaded last, and the account
was served last when the entry was asked for last. Without an entry it was not served recently
enough. -/
structure Sound (account : String) (c : Course ε σ α) : Prop where
  entry : ∀ e, (account, e) ∈ c.cache.entries →
    lastLoaded account c.loads = some e.value ∧ e.lastAccess ≤ c.now
      ∧ ∀ time, c.now ≤ time →
        (Served c.cache.ttl account time c.history ↔ time - e.lastAccess ≤ c.cache.ttl)
  absent : (∀ e, (account, e) ∉ c.cache.entries) →
    ¬ Served c.cache.ttl account c.now c.history

variable {account : String} {c : Course ε σ α}

theorem Sound.of_fresh? (h : c.Sound account) {value : α}
    (hvalue : c.cache.fresh? c.now account = some value) :
    lastLoaded account c.loads = some value ∧ Served c.cache.ttl account c.now c.history := by
  obtain ⟨t, hmem, hfresh⟩ := fresh?_eq_some hvalue
  obtain ⟨hloaded, -, hserved⟩ := h.entry _ hmem
  exact ⟨hloaded, (hserved c.now (Nat.le_refl _)).2 hfresh⟩

theorem Sound.of_stale (h : c.Sound account) (hnone : c.cache.fresh? c.now account = none) :
    ¬ Served c.cache.ttl account c.now c.history := by
  rcases fresh?_eq_none hnone with habsent | ⟨e, hmem, hstale⟩
  · exact h.absent habsent
  · obtain ⟨-, -, hserved⟩ := h.entry e hmem
    exact fun hs => hstale ((hserved c.now (Nat.le_refl _)).1 hs)

/-- An account with which an operation has nothing to do loses a stale entry at most. -/
theorem Sound.frame (h : c.Sound account) {c' : Course ε σ α} (hnow : c.now ≤ c'.now)
    (httl : c'.cache.ttl = c.cache.ttl)
    (hserved : ∀ time, Served c.cache.ttl account time c'.history
      ↔ Served c.cache.ttl account time c.history)
    (hloaded : lastLoaded account c'.loads = lastLoaded account c.loads)
    (hentries : ∀ e, (account, e) ∈ c'.cache.entries → (account, e) ∈ c.cache.entries)
    (hfresh : ∀ e, (account, e) ∈ c.cache.entries → c.now - e.lastAccess ≤ c.cache.ttl →
      (account, e) ∈ c'.cache.entries) : c'.Sound account where
  entry e hmem := by
    obtain ⟨hvalue, hpast, hserves⟩ := h.entry e (hentries e hmem)
    refine ⟨hloaded.trans hvalue, Nat.le_trans hpast hnow, fun time htime => ?_⟩
    rw [httl, hserved]
    exact hserves time (Nat.le_trans hnow htime)
  absent hnone hserves := by
    rw [httl, hserved] at hserves
    have hearlier := hserves.earlier hnow
    -- The account was served recently, so it had an entry, and one that was fresh.
    by_cases habsent : ∀ e, (account, e) ∉ c.cache.entries
    · exact h.absent habsent hearlier
    · simp only [Classical.not_forall, Classical.not_not] at habsent
      obtain ⟨e, hmem⟩ := habsent
      obtain ⟨-, -, hiff⟩ := h.entry e hmem
      exact hnone e (hfresh e hmem ((hiff c.now (Nat.le_refl _)).1 hearlier))

/-- An operation that has nothing to do with an account does not serve it. -/
theorem served_note_of_other {op : Operation} (hasks : op.asks account = false)
    (hforgets : op.forgets account = false) (answer : Answer ε α) (time : Nat) :
    Served c.cache.ttl account time (c.note op answer).history
      ↔ Served c.cache.ttl account time c.history :=
  served_concat_of_other (by rw [Step.serves, hasks, Bool.false_and]) hforgets

/-- The value is there, and its entry starts its idle time anew. -/
theorem Sound.touched (h : c.Sound account) {op : Operation} (hasks : op.asks account = true)
    {value : α} (hfresh : c.cache.fresh? c.now account = some value) :
    ({ c with cache := c.cache.touch c.now account }.note op
      (op.answer titleIn (.ok value))).Sound account where
  entry e hmem := by
    obtain ⟨hnow, t, hold⟩ := mem_touch_self.1 hmem
    obtain ⟨hloaded, hpast, hserved⟩ := h.entry _ hold
    have hpast : t ≤ c.now := hpast
    refine ⟨hloaded, Nat.le_of_eq hnow,
      fun time htime => (served_of_asks titleIn hasks ..).trans ?_⟩
    rw [hnow]
    constructor
    · rintro (⟨-, hidle⟩ | hbefore)
      · exact hidle
      · -- An older step that still serves the account is no later than the entry was.
        have hidle : time - t ≤ c.cache.ttl := (hserved time htime).1 hbefore
        exact Nat.le_trans (Nat.sub_le_sub_left hpast time) hidle
    · exact fun hidle => .inl ⟨rfl, hidle⟩
  absent hnone := by
    obtain ⟨t, hold, -⟩ := fresh?_eq_some hfresh
    exact absurd (mem_touch_self.2 ⟨rfl, t, hold⟩) (hnone ⟨value, c.now⟩)

theorem Sound.never (h : c.Sound account) (hstale : c.cache.fresh? c.now account = none)
    {time : Nat} (htime : c.now ≤ time) : ¬ Served c.cache.ttl account time c.history :=
  fun hserved => h.of_stale hstale (hserved.earlier htime)

/-- A value is loaded and stored. -/
theorem Sound.stored (h : c.Sound account) {op : Operation} (hasks : op.asks account = true)
    (hstale : c.cache.fresh? c.now account = none) (value : α) (s : σ) :
    ({ c with cache := c.cache.store c.now account value
              state := (s, c.loads ++ [(account, Except.ok value)]) }.note op
      (op.answer titleIn (.ok value))).Sound account where
  entry e hmem := by
    obtain rfl := mem_store_self.1 hmem
    have hloaded : lastLoaded account (c.loads ++ [(account, .ok value)]) = some value := by
      simp [lastLoaded_concat]
    refine ⟨hloaded, Nat.le_refl _, fun time htime => (served_of_asks titleIn hasks ..).trans ?_⟩
    constructor
    · rintro (⟨-, hidle⟩ | hbefore)
      · exact hidle
      · exact absurd hbefore (h.never hstale htime)
    · exact fun hidle => .inl ⟨rfl, hidle⟩
  absent hnone := absurd (mem_store_self.2 rfl) (hnone ⟨value, c.now⟩)

/-- Loading fails, and what was there is dropped. -/
theorem Sound.failed (h : c.Sound account) {op : Operation} (hasks : op.asks account = true)
    (hstale : c.cache.fresh? c.now account = none) (e : ε) (s : σ) :
    ({ c with cache := c.cache.invalidate account
              state := (s, c.loads ++ [(account, Except.error e)]) }.note op
      (op.answer titleIn (.error e))).Sound account where
  entry e hmem := absurd rfl (mem_others.1 hmem).2
  absent _ hserved := by
    rcases (served_of_asks titleIn hasks ..).1 hserved with ⟨hok, -⟩ | hbefore
    · cases hok
    · exact h.never hstale (Nat.le_refl _) hbefore

/-- Asking for an account keeps its entries sound. -/
theorem Sound.asked (h : c.Sound account) {op : Operation} (hasks : op.asks account = true) :
    (c.apply load titleIn op).Sound account := by
  rw [apply_of_asks load titleIn hasks]
  rcases c.ask_cases load account with ⟨value, hfresh, hask⟩ | ⟨hstale, result, s, -, hask⟩
  · rw [hask]
    exact h.touched titleIn hasks hfresh
  · rw [hask]
    cases result with
    | ok value => exact h.stored titleIn hasks hstale value s
    | error e => exact h.failed titleIn hasks hstale e s

/-- Asking for another account keeps the entries of an account sound. -/
theorem Sound.asked_other (h : c.Sound account) {op : Operation} {other : String}
    (hasks : op.asks other = true) (hne : account ≠ other) :
    (c.apply load titleIn op).Sound account := by
  have hforgets := Operation.forgets_of_asks hasks account
  have hother : op.asks account = false := by rw [Operation.asks_eq hasks, decide_eq_false hne]
  rw [apply_of_asks load titleIn hasks]
  rcases c.ask_cases load other with ⟨value, -, hask⟩ | ⟨-, result, s, -, hask⟩
  · rw [hask]
    refine h.frame (Nat.le_refl _) rfl (fun time => served_note_of_other hother hforgets _ time) rfl
      (fun e hmem => ?_) (fun e hmem _ => ?_)
    · exact (mem_touch_of_ne hne).1 hmem
    · exact (mem_touch_of_ne hne).2 hmem
  · rw [hask]
    cases result with
    | ok value =>
        refine h.frame (Nat.le_refl _) rfl (fun time => served_note_of_other hother hforgets _ time)
          ?_ (fun e hmem => ?_) (fun e hmem hfresh => ?_)
        · simp [note, loads, lastLoaded_concat, Ne.symm hne]
        · exact ((mem_store_of_ne hne).1 hmem).1
        · exact (mem_store_of_ne hne).2 ⟨hmem, hfresh⟩
    | error e =>
        refine h.frame (Nat.le_refl _) rfl (fun time => served_note_of_other hother hforgets _ time)
          ?_ (fun e hmem => (mem_others.1 hmem).1) (fun e hmem _ => mem_others.2 ⟨hmem, hne⟩)
        simp [note, loads, lastLoaded_concat]

/-- Forgetting an account leaves nothing of it. -/
theorem Sound.forgotten {c : Course ε σ α} {op : Operation} {answer : Answer ε α}
    (hforgets : op.forgets account = true) {entries : List (String × CacheEntry α)}
    (hnone : ∀ e, (account, e) ∉ entries) :
    Sound account { c.note op answer with cache := ⟨c.cache.ttl, entries⟩ } where
  entry e hmem := absurd hmem (hnone e)
  absent _ hserved := by
    have hiff := (served_concat ..).1 hserved
    simp [hforgets] at hiff

/-- Every operation keeps the entries of an account sound. -/
theorem Sound.apply (h : c.Sound account) (op : Operation) :
    (c.apply load titleIn op).Sound account := by
  cases op with
  | get a =>
      by_cases ha : account = a
      · exact h.asked load titleIn (decide_eq_true ha.symm)
      · exact h.asked_other load titleIn (decide_eq_true rfl) ha
  | title a groupId =>
      by_cases ha : account = a
      · exact h.asked load titleIn (decide_eq_true ha.symm)
      · exact h.asked_other load titleIn (decide_eq_true rfl) ha
  | invalidate a =>
      by_cases ha : account = a
      · have hforgets : (Operation.invalidate a).forgets account = true := decide_eq_true ha.symm
        exact Sound.forgotten hforgets fun e hmem => (mem_others.1 hmem).2 ha
      · have hforgets : (Operation.invalidate a).forgets account = false :=
          decide_eq_false (Ne.symm ha)
        exact h.frame (Nat.le_refl _) rfl (served_note_of_other rfl hforgets _) rfl
          (fun e hmem => (mem_others.1 hmem).1) (fun e hmem _ => mem_others.2 ⟨hmem, ha⟩)
  | invalidateAll => exact Sound.forgotten rfl fun e => List.not_mem_nil
  | advance elapsed =>
      exact h.frame (Nat.le_add_right ..) rfl (served_note_of_other rfl rfl _) rfl
        (fun e hmem => hmem) (fun e hmem _ => hmem)

theorem sound_start (ttl now : Nat) (s : σ) (account : String) :
    Sound account (start ttl now s : Course ε σ α) where
  entry _ hmem := nomatch hmem
  absent _ := not_served_nil ttl account now

theorem Sound.run (h : c.Sound account) (ops : List Operation) :
    (c.run load titleIn ops).Sound account :=
  List.foldlRecOn ops _ h fun _ h op _ => h.apply load titleIn op

/-- The idle time stays. -/
theorem ttl_apply (c : Course ε σ α) (op : Operation) :
    (c.apply load titleIn op).cache.ttl = c.cache.ttl := by
  have hask (a : String) : (c.ask load a).2.cache.ttl = c.cache.ttl := by
    rcases c.ask_cases load a with ⟨value, -, hask⟩ | ⟨-, result, s, -, hask⟩
    · rw [hask]
      rfl
    · rw [hask]
      cases result <;> rfl
  cases op with
  | get a => exact hask a
  | title a groupId => exact hask a
  | _ => rfl

theorem ttl_run (ops : List Operation) (c : Course ε σ α) :
    (c.run load titleIn ops).cache.ttl = c.cache.ttl := by
  induction ops generalizing c with
  | nil => rfl
  | cons op ops ih => exact (ih _).trans (ttl_apply load titleIn c op)

/-- What an account is answered, and the loads after that, in view of what became of a cache: if the
account was served recently, the value that was loaded last for it, and nothing is loaded; otherwise
the answer of one load. -/
structure Answers (c : Course ε σ α) (account : String) (result : Except ε α)
    (loads : List (String × Except ε α)) : Prop where
  served : Served c.cache.ttl account c.now c.history →
    loads = c.loads ∧ ∃ value, lastLoaded account c.loads = some value ∧ result = .ok value
  stale : ¬ Served c.cache.ttl account c.now c.history → loads = c.loads ++ [(account, result)]

/-- Who was served is answered with the value that was loaded last, and everyone else by one
load. -/
theorem Sound.answers (h : c.Sound account) :
    c.Answers account (c.ask load account).1 (c.ask load account).2.loads := by
  rcases c.ask_cases load account with ⟨value, hfresh, hask⟩ | ⟨hstale, result, s, -, hask⟩
  · obtain ⟨hloaded, hserved⟩ := h.of_fresh? hfresh
    rw [hask]
    exact ⟨fun _ => ⟨rfl, value, hloaded, rfl⟩, fun hnot => absurd hserved hnot⟩
  · rw [hask]
    exact ⟨fun hserved => absurd hserved (h.of_stale hstale), fun _ => rfl⟩

/-- The law for one operation. -/
theorem Sound.law (h : c.Sound account) {op : Operation} (hasks : op.asks account = true) :
    ∃ result, (c.apply load titleIn op).history
        = c.history ++ [⟨c.now, op, op.answer titleIn result⟩]
      ∧ c.Answers account result (c.apply load titleIn op).loads := by
  have hhistory : (c.ask load account).2.history = c.history := rfl
  have hnow : (c.ask load account).2.now = c.now := rfl
  rw [apply_of_asks load titleIn hasks]
  refine ⟨(c.ask load account).1, ?_, h.answers load⟩
  rw [note, hhistory, hnow]

/-! ## Where values come from -/

/-- All that was loaded was answered by a loader. -/
def LoadedBy (c : Course ε σ α) : Prop := ∀ l ∈ c.loads, ∃ s, (load l.1 s).1 = l.2

variable {load}

theorem LoadedBy.ask (h : c.LoadedBy load) (account : String) :
    (c.ask load account).2.LoadedBy load := by
  rcases c.ask_cases load account with ⟨value, -, hask⟩ | ⟨-, result, s, hloaded, hask⟩
  · rw [hask]
    exact h
  · rw [hask]
    intro l hl
    rcases List.mem_append.1 hl with hl | hl
    · exact h l hl
    · obtain rfl := List.mem_singleton.1 hl
      exact ⟨c.state.1, congrArg Prod.fst hloaded⟩

theorem LoadedBy.apply (h : c.LoadedBy load) (op : Operation) :
    (c.apply load titleIn op).LoadedBy load := by
  cases op with
  | get a => exact h.ask a
  | title a groupId => exact h.ask a
  | _ => exact h

theorem LoadedBy.run (h : c.LoadedBy load) (ops : List Operation) :
    (c.run load titleIn ops).LoadedBy load :=
  List.foldlRecOn ops _ h fun _ h op _ => h.apply titleIn op

theorem loadedBy_start (ttl now : Nat) (s : σ) : (start ttl now s : Course ε σ α).LoadedBy load :=
  fun _ hl => absurd hl List.not_mem_nil

end Course
end Messenger.Cache
