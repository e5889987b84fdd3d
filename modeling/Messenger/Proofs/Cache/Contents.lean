import Mathlib.Data.List.Nodup
import Messenger.Proofs.Cache.Slow

set_option autoImplicit false

/-! # What a cache holds

The fresh entries of a cache are known from its course alone: an account has one if it was served
not longer ago than the idle time, and the entry keeps the moment at which that was
(`Course.Sound.lastServed_of_fresh`, `Course.Sound.entry_of_lastServed`). Since a load sweeps the
other entries away, the cache holds nothing else after it. A failed load takes away the stale entry
of its own account at most, and a hit moves one moment (`contents_after_asking`). -/

namespace Messenger.Cache

variable {α ε σ : Type}

/-! ## When an account was served last -/

/-- When an account was served last since it was forgotten. -/
def lastServed? (account : String) (history : List (Step ε α)) : Option Nat :=
  ((sinceForgotten account history).find? (·.serves account)).map Step.time

/-- Served recently means that the last time was recent, if steps are noted as time passes. -/
theorem served_iff_lastServed {ttl : Nat} {account : String} {time : Nat}
    {history : List (Step ε α)} (h : history.Pairwise fun s s' => s.time ≤ s'.time) :
    Served ttl account time history
      ↔ ∃ t, lastServed? account history = some t ∧ time - t ≤ ttl := by
  constructor
  · rintro ⟨s, hs, hserves, hidle⟩
    have hordered : (sinceForgotten account history).Pairwise fun s s' => s'.time ≤ s.time :=
      (List.pairwise_reverse.2 h).sublist (List.takeWhile_sublist _)
    cases hfind : (sinceForgotten account history).find? (·.serves account) with
    | none => exact absurd hserves (List.find?_eq_none.1 hfind s hs)
    | some newest =>
        refine ⟨newest.time, congrArg (Option.map Step.time) hfind, ?_⟩
        -- A step that serves the account is the newest one that does, or older.
        have holder : s.time ≤ newest.time := by
          obtain ⟨-, before, after, hsplit, hnot⟩ := List.find?_eq_some_iff_append.1 hfind
          rw [hsplit] at hs hordered
          rcases List.mem_append.1 hs with hs | hs
          · have hnot := hnot s hs
            rw [hserves] at hnot
            cases hnot
          · rcases List.mem_cons.1 hs with rfl | hs
            · exact Nat.le_refl _
            · exact (List.pairwise_cons.1 (List.pairwise_append.1 hordered).2.1).1 s hs
        exact Nat.le_trans (Nat.sub_le_sub_left holder time) hidle
  · rintro ⟨t, hlast, hidle⟩
    obtain ⟨s, hfind, rfl⟩ := Option.map_eq_some_iff.1 hlast
    exact ⟨s, List.mem_of_find?_eq_some hfind, List.find?_some hfind, hidle⟩

/-! ## Accounts -/

/-- The accounts that have a value. -/
def accounts (c : Cache α) : List String := c.entries.map Prod.fst

theorem mem_accounts_iff {c : Cache α} {b : String} :
    b ∈ c.accounts ↔ ∃ e, (b, e) ∈ c.entries := by
  simp [accounts]

/-- An account has one entry. -/
theorem eq_of_mem_entries {c : Cache α} (h : c.accounts.Nodup) {b : String}
    {e e' : CacheEntry α} (he : (b, e) ∈ c.entries) (he' : (b, e') ∈ c.entries) : e = e' := by
  have hsame := List.inj_on_of_nodup_map h he he' rfl
  exact (Prod.mk.inj hsame).2

theorem nodup_others (account : String) {entries : List (String × CacheEntry α)}
    (h : (entries.map Prod.fst).Nodup) : ((others account entries).map Prod.fst).Nodup :=
  h.sublist (List.filter_sublist.map _)

theorem accounts_touch (now : Nat) (account : String) (c : Cache α) :
    (c.touch now account).accounts = c.accounts := by
  rw [accounts, touch, List.map_map, accounts]
  refine List.map_congr_left fun e _ => ?_
  rw [Function.comp_apply]
  split <;> rfl

theorem nodup_store (now : Nat) (account : String) (value : α) {c : Cache α}
    (h : c.accounts.Nodup) : (c.store now account value).accounts.Nodup := by
  have hswept : ((c.sweep now).entries.map Prod.fst).Nodup :=
    h.sublist (List.filter_sublist.map _)
  rw [accounts, store, List.map_append, List.nodup_append]
  refine ⟨nodup_others account hswept, List.nodup_singleton _, fun b hb other hother => ?_⟩
  obtain ⟨⟨b, e⟩, hmem, rfl⟩ := List.mem_map.1 hb
  rw [List.mem_singleton.1 hother]
  exact (mem_others.1 hmem).2

namespace Course

variable (load : Loader ε σ α) (titleIn : α → String → Option String)
variable {account : String} {c : Course ε σ α}

/-- Asking keeps accounts distinct. -/
theorem nodup_ask (h : c.cache.accounts.Nodup) (account : String) :
    (c.ask load account).2.cache.accounts.Nodup := by
  rcases c.ask_cases load account with ⟨value, -, hask⟩ | ⟨-, result, s, -, hask⟩
  · rw [hask]
    exact (accounts_touch c.now account c.cache).symm ▸ h
  · rw [hask]
    cases result with
    | ok value => exact nodup_store c.now account value h
    | error e => exact nodup_others account h

theorem nodup_apply (h : c.cache.accounts.Nodup) (op : Operation) :
    (c.apply load titleIn op).cache.accounts.Nodup := by
  cases op with
  | get a => exact nodup_ask load h a
  | title a groupId => exact nodup_ask load h a
  | invalidate a => exact nodup_others a h
  | invalidateAll => exact List.nodup_nil
  | advance elapsed => exact h

theorem nodup_applySlowly (h : c.cache.accounts.Nodup) (op : Operation) (elapsed : Nat) :
    (c.applySlowly load titleIn op elapsed).cache.accounts.Nodup := by
  obtain ⟨waited, heq⟩ := applySlowly_eq load titleIn c op elapsed
  rw [heq]
  exact nodup_apply load titleIn (c := c.wait waited) h op

theorem nodup_runSlowly (h : c.cache.accounts.Nodup) (ops : List (Operation × Nat)) :
    (c.runSlowly load titleIn ops).cache.accounts.Nodup :=
  runSlowly_induction load titleIn (P := fun c => c.cache.accounts.Nodup) (fun _ _ h => h)
    (fun _ op h => nodup_apply load titleIn h op) h ops

theorem ttl_runSlowly (ops : List (Operation × Nat)) (c : Course ε σ α) :
    (c.runSlowly load titleIn ops).cache.ttl = c.cache.ttl :=
  runSlowly_induction load titleIn (P := fun c' => c'.cache.ttl = c.cache.ttl) (fun _ _ h => h)
    (fun c' op h => (ttl_apply load titleIn c' op).trans h) rfl ops

/-! ## Time -/

/-- Steps are noted as time passes. -/
structure Timely (c : Course ε σ α) : Prop where
  ordered : c.history.Pairwise fun s s' => s.time ≤ s'.time
  past : ∀ s ∈ c.history, s.time ≤ c.now

theorem Timely.note (h : c.Timely) (op : Operation) (answer : Answer ε α) :
    (c.note op answer).Timely where
  ordered := by
    refine List.pairwise_append.2 ⟨h.ordered, List.pairwise_singleton _ _, fun s hs s' hs' => ?_⟩
    rw [List.mem_singleton.1 hs']
    exact h.past s hs
  past s hs := by
    rcases List.mem_append.1 hs with hs | hs
    · exact h.past s hs
    · rw [List.mem_singleton.1 hs]
      exact Nat.le_refl _

theorem Timely.wait (h : c.Timely) (elapsed : Nat) : (c.wait elapsed).Timely :=
  ⟨h.ordered, fun s hs => Nat.le_trans (h.past s hs) (Nat.le_add_right ..)⟩

theorem Timely.apply (h : c.Timely) (op : Operation) : (c.apply load titleIn op).Timely := by
  cases op with
  | get a => exact Timely.note (c := (c.ask load a).2) ⟨h.ordered, h.past⟩ _ _
  | title a groupId => exact Timely.note (c := (c.ask load a).2) ⟨h.ordered, h.past⟩ _ _
  | invalidate a => exact ⟨(h.note _ _).ordered, (h.note _ _).past⟩
  | invalidateAll => exact ⟨(h.note _ _).ordered, (h.note _ _).past⟩
  | advance elapsed => exact (h.note (.advance elapsed) .nothing).wait elapsed

theorem Timely.runSlowly (h : c.Timely) (ops : List (Operation × Nat)) :
    (c.runSlowly load titleIn ops).Timely :=
  runSlowly_induction load titleIn (fun _ elapsed h => h.wait elapsed)
    (fun _ op h => h.apply load titleIn op) h ops

theorem timely_start (ttl now : Nat) (s : σ) : (start ttl now s : Course ε σ α).Timely :=
  ⟨List.Pairwise.nil, fun _ hs => nomatch hs⟩

/-! ## Fresh entries -/

/-- A fresh entry was asked for last when its account was served last. -/
theorem Sound.lastServed_of_fresh (h : c.Sound account) (htimely : c.Timely)
    {e : CacheEntry α} (hmem : (account, e) ∈ c.cache.entries)
    (hfresh : c.now - e.lastAccess ≤ c.cache.ttl) :
    lastServed? account c.history = some e.lastAccess := by
  obtain ⟨-, -, hserved⟩ := h.entry e hmem
  -- The account counts as served up to the last moment of the idle time, and not any longer.
  have hlast := (hserved (e.lastAccess + c.cache.ttl) (by omega)).2 (by omega)
  have hover := (hserved (e.lastAccess + c.cache.ttl + 1) (by omega)).not.2 (by omega)
  obtain ⟨t, ht, hidle⟩ := (served_iff_lastServed htimely.ordered).1 hlast
  have hidle' : ¬ e.lastAccess + c.cache.ttl + 1 - t ≤ c.cache.ttl := fun hidle =>
    hover ((served_iff_lastServed htimely.ordered).2 ⟨t, ht, hidle⟩)
  have hsame : t = e.lastAccess := by omega
  rw [ht, hsame]

/-- An account that was served not too long ago has an entry. -/
theorem Sound.entry_of_lastServed (h : c.Sound account) (htimely : c.Timely) {t : Nat}
    (ht : lastServed? account c.history = some t) (hidle : c.now - t ≤ c.cache.ttl) :
    ∃ e, (account, e) ∈ c.cache.entries := by
  have hserved := (served_iff_lastServed htimely.ordered).2 ⟨t, ht, hidle⟩
  by_contra hnone
  exact h.absent (fun e hmem => hnone ⟨e, hmem⟩) hserved

/-! ## Asking -/

/-- What becomes of the entries when an account is asked for. -/
inductive Effect (ttl : Nat) (account : String) (c after : Course ε σ α) : Except ε α → Prop where
  /-- The value is there: its entry gets another moment, and all others stay as they are. -/
  | hit {value : α} {t : Nat} (hnow : after.now = c.now) (hloads : after.loads = c.loads)
      (hold : (account, ⟨value, t⟩) ∈ c.cache.entries)
      (hown : ∀ e, (account, e) ∈ after.cache.entries ↔ e = ⟨value, c.now⟩)
      (hothers : ∀ b e, b ≠ account →
        ((b, e) ∈ after.cache.entries ↔ (b, e) ∈ c.cache.entries)) :
      Effect ttl account c after (.ok value)
  /-- A value is loaded: the accounts with an entry are those that were served not too long before
  the end of the load, and an entry keeps when that was and what was loaded last. -/
  | loaded {value : α} (hloads : after.loads = c.loads ++ [(account, .ok value)])
      (haccounts : ∀ b, b ∈ after.cache.accounts
        ↔ ∃ t, lastServed? b after.history = some t ∧ after.now - t ≤ ttl)
      (hentries : ∀ b e, (b, e) ∈ after.cache.entries →
        lastLoaded b after.loads = some e.value
          ∧ lastServed? b after.history = some e.lastAccess) :
      Effect ttl account c after (.ok value)
  /-- Loading fails: an entry of the account, which was stale, is gone, and all others stay as they
  are. -/
  | failed {error : ε} (hloads : after.loads = c.loads ++ [(account, .error error)])
      (hstale : ∀ e, (account, e) ∈ c.cache.entries → ttl < c.now - e.lastAccess)
      (hown : account ∉ after.cache.accounts)
      (hothers : ∀ b e, b ≠ account →
        ((b, e) ∈ after.cache.entries ↔ (b, e) ∈ c.cache.entries)) :
      Effect ttl account c after (.error error)

variable {op : Operation}

/-- A fresh value is answered, and its entry is asked for now. -/
theorem effect_of_fresh (hdistinct : c.cache.accounts.Nodup) {value : α}
    (hfresh : c.cache.fresh? c.now account = some value) {after : Course ε σ α}
    (hcache : after.cache = c.cache.touch c.now account) (hnow : after.now = c.now)
    (hloads : after.loads = c.loads) (ttl : Nat) : Effect ttl account c after (.ok value) := by
  obtain ⟨t, hold, -⟩ := fresh?_eq_some hfresh
  refine .hit hnow hloads hold (fun e => ?_) fun b e hb => ?_
  · rw [hcache, mem_touch_self]
    constructor
    · rintro ⟨hnow, t', hmem⟩
      obtain ⟨hvalue, -⟩ := CacheEntry.mk.inj (eq_of_mem_entries hdistinct hmem hold)
      rw [← hvalue, ← hnow]
    · rintro rfl
      exact ⟨rfl, t, hold⟩
  · rw [hcache, mem_touch_of_ne hb]

/-- A value is stored. What the entries stand for afterwards says which of them are left. -/
theorem effect_of_stored {value : α} {after : Course ε σ α} (hsound : ∀ b, after.Sound b)
    (htimely : after.Timely) (hcache : after.cache = c.cache.store after.now account value)
    (hloads : after.loads = c.loads ++ [(account, .ok value)]) :
    Effect c.cache.ttl account c after (.ok value) := by
  have httl : after.cache.ttl = c.cache.ttl := by
    rw [hcache]
    rfl
  -- The sweep leaves fresh entries, and the new one is fresh.
  have hfresh (b : String) (e : CacheEntry α) (hmem : (b, e) ∈ after.cache.entries) :
      after.now - e.lastAccess ≤ after.cache.ttl := by
    rw [httl]
    rw [hcache] at hmem
    by_cases hb : b = account
    · subst hb
      rw [mem_store_self.1 hmem]
      exact Nat.sub_self after.now ▸ Nat.zero_le _
    · exact ((mem_store_of_ne hb).1 hmem).2
  refine .loaded hloads (fun b => ?_) fun b e hmem => ?_
  · rw [mem_accounts_iff, ← httl]
    constructor
    · rintro ⟨e, hmem⟩
      exact ⟨_, (hsound b).lastServed_of_fresh htimely hmem (hfresh b e hmem), hfresh b e hmem⟩
    · rintro ⟨t, ht, hidle⟩
      exact (hsound b).entry_of_lastServed htimely ht hidle
  · exact ⟨((hsound b).entry e hmem).1,
      (hsound b).lastServed_of_fresh htimely hmem (hfresh b e hmem)⟩

/-- Loading fails where no value was fresh. -/
theorem effect_of_failed (hsound : c.Sound account)
    (hstale : c.cache.fresh? c.now account = none) {error : ε} {after : Course ε σ α}
    (hcache : after.cache = c.cache.invalidate account)
    (hloads : after.loads = c.loads ++ [(account, .error error)]) :
    Effect c.cache.ttl account c after (.error error) := by
  have hentries : after.cache.entries = others account c.cache.entries := congrArg entries hcache
  refine .failed hloads (fun e hmem => ?_) (fun hmem => ?_) fun b e hb => ?_
  · obtain ⟨-, -, hserved⟩ := hsound.entry e hmem
    have hidle := (hserved c.now (Nat.le_refl _)).not.1 (hsound.of_stale hstale)
    exact Nat.lt_of_not_le hidle
  · obtain ⟨e, hmem⟩ := mem_accounts_iff.1 hmem
    rw [hentries] at hmem
    exact (mem_others.1 hmem).2 rfl
  · rw [hentries, mem_others, and_iff_left hb]

/-- The effect of one operation. -/
theorem effect_of_asking (hsound : ∀ b, c.Sound b) (htimely : c.Timely)
    (hdistinct : c.cache.accounts.Nodup) (hasks : op.asks account = true) (elapsed : Nat) :
    ∃ result, (c.applySlowly load titleIn op elapsed).history
        = c.history ++ [⟨(c.applySlowly load titleIn op elapsed).now, op, op.answer titleIn result⟩]
      ∧ Effect c.cache.ttl account c (c.applySlowly load titleIn op elapsed) result := by
  have hkept : (∀ b, (c.applySlowly load titleIn op elapsed).Sound b)
      ∧ (c.applySlowly load titleIn op elapsed).Timely := by
    obtain ⟨waited, heq⟩ := applySlowly_eq load titleIn c op elapsed
    rw [heq]
    exact ⟨fun b => ((hsound b).wait waited).apply load titleIn op,
      (htimely.wait waited).apply load titleIn op⟩
  rw [applySlowly_of_asks load titleIn hasks] at hkept ⊢
  rcases askSlowly_cases load elapsed account c with
    ⟨value, hfresh, hask⟩ | ⟨hstale, result, s, hask⟩
  · rw [hask]
    refine ⟨.ok value, rfl, effect_of_fresh hdistinct hfresh ?_ ?_ ?_ _⟩ <;> rfl
  · rw [hask] at hkept ⊢
    refine ⟨result, rfl, ?_⟩
    cases result with
    | ok value => exact effect_of_stored hkept.1 hkept.2 rfl rfl
    | error error => exact effect_of_failed (hsound account) hstale rfl rfl

end Course

open Course in
/-- **What a cache holds.** After any course, each account has one entry at most. When an account is
asked for and found, its entry gets another moment and nothing else changes. When a value is loaded
for it, which may take time, the accounts that have an entry afterwards are those whose last
successful question, since they were forgotten, lies no further back than the idle time. When
loading fails, nothing is stored, and at most the stale entry of the account itself is gone. -/
theorem contents_after_asking (load : Loader ε σ α) (titleIn : α → String → Option String)
    (ttl now : Nat) (s : σ) (ops : List (Operation × Nat)) {op : Operation} {account : String}
    (hasks : op.asks account = true) (elapsed : Nat) :
    let c := (start ttl now s).runSlowly load titleIn ops
    let after := c.applySlowly load titleIn op elapsed
    after.cache.accounts.Nodup
    ∧ ∃ result, after.history = c.history ++ [⟨after.now, op, op.answer titleIn result⟩]
      ∧ Effect ttl account c after result := by
  intro c after
  have hdistinct : c.cache.accounts.Nodup :=
    nodup_runSlowly load titleIn (c := start ttl now s) List.nodup_nil ops
  have hsound (b : String) : c.Sound b := (sound_start ttl now s b).runSlowly load titleIn ops
  have htimely : c.Timely := (timely_start ttl now s).runSlowly load titleIn ops
  have httl : c.cache.ttl = ttl := ttl_runSlowly load titleIn ops _
  exact ⟨nodup_applySlowly load titleIn hdistinct op elapsed,
    httl ▸ effect_of_asking load titleIn hsound htimely hdistinct hasks elapsed⟩

/-- A loader that answers with the account itself, and knows no account without a name. -/
def named : Loader Unit Unit String := fun account s =>
  (if account = "" then .error () else .ok account, [], s)

open Course in
/-- A failed load leaves a stale entry of another account alone, and the next load that succeeds
sweeps it away. -/
theorem contents_after_asking_twice :
    let c := (start 10 0 ()).runSlowly named (fun _ _ => none)
      [(.get "a", 0), (.advance 2, 0), (.get "b", 4), (.get "", 5)]
    let after := c.applySlowly named (fun _ _ => none) (.get "c") 1
    (Operation.get "c").asks "c" = true ∧ c.cache.accounts = ["a", "b"]
      ∧ after.cache.accounts = ["b", "c"] ∧ ∃ result, Effect 10 "c" c after result := by
  intro c after
  have hasks : (Operation.get "c").asks "c" = true := rfl
  obtain ⟨-, result, -, heffect⟩ := contents_after_asking named (fun _ _ => none) 10 0 ()
    [(.get "a", 0), (.advance 2, 0), (.get "b", 4), (.get "", 5)] hasks 1
  exact ⟨hasks, rfl, rfl, result, heffect⟩

end Messenger.Cache
