import Messenger.Cli
import Messenger.Proofs.Settings.Document
import Messenger.Proofs.Text.Numeral

set_option autoImplicit false

/-! # The layers of settings

Settings come from options, the environment, a file and defaults. Every setting is looked for in
these layers by itself, from the top down, and is what the first layer says that says something
about it (`Setting.Holds`). A fault of the file is one in any layer, though: neither the environment
nor an option makes up for it.

Loading fails or yields these settings, and nothing else (`Cli.Invocation.settings_by_layers`). -/

namespace Messenger

open Json

/-- A text gives a number between bounds, blanks around it aside. -/
def GivesNumber (low high : Nat) (text : String) (n : UInt64) : Prop :=
  Text.Numeral (Text.trim text).toList n.toNat ∧ low ≤ n.toNat ∧ n.toNat ≤ high

theorem Settings.inRange?_eq_some_iff {low high : UInt64} {text : String} {n : UInt64} :
    Settings.inRange? low high text = some n ↔ GivesNumber low.toNat high.toNat text n := by
  simp only [Settings.inRange?, Option.bind_eq_bind, Option.bind_eq_some_iff,
    Text.unsigned?_eq_some_iff, GivesNumber]
  constructor
  · rintro ⟨m, hm, hn⟩
    split at hn
    · rename_i hrange
      simp only [Bool.and_eq_true, decide_eq_true_eq] at hrange
      obtain rfl := Option.some.inj hn
      rw [UInt64.toNat_ofNat_of_lt' hrange.1.1]
      exact ⟨hm, hrange.1.2, hrange.2⟩
    · cases hn
  · rintro ⟨hm, hlow, hhigh⟩
    refine ⟨n.toNat, hm, ?_⟩
    have hsize : n.toNat < UInt64.size := n.toNat_lt
    simp [hsize, hlow, hhigh]

/-! ## What the layers say -/

namespace Setting

variable {β : Type}

/-- The variable of the environment for a setting, if there is one. -/
def environmentName : {β : Type} → Setting β → Option String
  | _, .daemonUrl => some "SIGNAL_GATEWAY_DAEMON_URL"
  | _, .reconnectDelayMs => some "SIGNAL_GATEWAY_RECONNECT_DELAY_MS"
  | _, .cacheTtlSecs => some "SIGNAL_GATEWAY_CACHE_TTL_SECS"
  | _, .replayCapacity => some "SIGNAL_GATEWAY_REPLAY_CAPACITY"
  | _, .connectTimeoutMs => none
  | _, .logLevel => some "SIGNAL_GATEWAY_LOG_LEVEL"
  | _, .logFormat => none

/-- The values that a text in the environment stands for: a text for itself, and a number for a
number in the range of the setting. -/
def Reads (text : String) : {β : Type} → Setting β → β → Prop
  | _, .daemonUrl, url => url = text
  | _, .reconnectDelayMs, n => GivesNumber 10 600000 text n
  | _, .cacheTtlSecs, n => GivesNumber 1 604800 text n
  | _, .replayCapacity, n => GivesNumber 1 1000000 text n
  | _, .connectTimeoutMs, _ => False
  | _, .logLevel, level => level = text
  | _, .logFormat, _ => False

/-- The environment gives a setting a value: its variable is not blank and stands for the value. -/
def Given (l : Setting β) (env : Environment) (b : β) : Prop :=
  ∃ name text, l.environmentName = some name ∧ env name = some text ∧ Text.isBlankText text = false
    ∧ l.Reads text b

/-- The value of a setting with the environment over a document over the defaults. -/
inductive Loaded (l : Setting β) (env : Environment) (ms : Members) : β → Prop where
  | environment {b : β} (hgiven : l.Given env b) : Loaded l env ms b
  | document {b : β} {v : Value} (hnot : ∀ b, ¬ l.Given env b) (hsaid : l.said ms = some v)
      (hnull : v.isNull = false) (hdecoded : l.decoder.ofValue v = .ok b) : Loaded l env ms b
  | default (hnot : ∀ b, ¬ l.Given env b) (hmissing : Missing (l.said ms)) :
      Loaded l env ms (l.of {})

/-- A document says something about a setting that does not decode. -/
def Faulty (l : Setting β) (ms : Members) : Prop :=
  ∃ v fault, l.said ms = some v ∧ v.isNull = false ∧ l.decoder.ofValue v = .error fault

/-- The option for a setting, if there is one and it is given. -/
def option? (i : Cli.Invocation) : {β : Type} → Setting β → Option β
  | _, .daemonUrl => i.url
  | _, .reconnectDelayMs => none
  | _, .cacheTtlSecs => none
  | _, .replayCapacity => none
  | _, .connectTimeoutMs => none
  | _, .logLevel => i.logLevel
  | _, .logFormat => none

/-- The value of a setting with options over everything else. -/
inductive Holds (l : Setting β) (i : Cli.Invocation) (env : Environment) (ms : Members) :
    β → Prop where
  | option {b : β} (hgiven : l.option? i = some b) : Holds l i env ms b
  | loaded {b : β} (hnone : l.option? i = none) (hloaded : l.Loaded env ms b) : Holds l i env ms b

theorem Reads.unique {l : Setting β} {text : String} {b b' : β} (h : l.Reads text b)
    (h' : l.Reads text b') : b = b' := by
  have hnumber {low high : Nat} {n n' : UInt64} (h : GivesNumber low high text n)
      (h' : GivesNumber low high text n') : n = n' := by
    have hsame := (Text.unsigned?_eq_some_iff.2 h.1).symm.trans (Text.unsigned?_eq_some_iff.2 h'.1)
    exact UInt64.toNat_inj.1 (Option.some.inj hsame)
  cases l with
  | daemonUrl => exact h.trans h'.symm
  | logLevel => exact h.trans h'.symm
  | reconnectDelayMs => exact hnumber h h'
  | cacheTtlSecs => exact hnumber h h'
  | replayCapacity => exact hnumber h h'
  | connectTimeoutMs => exact h.elim
  | logFormat => exact h.elim

theorem Given.unique {l : Setting β} {env : Environment} {b b' : β} (h : l.Given env b)
    (h' : l.Given env b') : b = b' := by
  obtain ⟨name, text, hname, htext, -, hreads⟩ := h
  obtain ⟨name', text', hname', htext', -, hreads'⟩ := h'
  obtain rfl := Option.some.inj (hname.symm.trans hname')
  obtain rfl := Option.some.inj (htext.symm.trans htext')
  exact hreads.unique hreads'

/-- The layers determine a value. -/
theorem Loaded.unique {l : Setting β} {env : Environment} {ms : Members} {b b' : β}
    (h : l.Loaded env ms b) (h' : l.Loaded env ms b') : b = b' := by
  cases h with
  | environment hgiven =>
      cases h' with
      | environment hgiven' => exact hgiven.unique hgiven'
      | document hnot => exact absurd hgiven (hnot _)
      | default hnot => exact absurd hgiven (hnot _)
  | document hnot hsaid hnull hdecoded =>
      cases h' with
      | environment hgiven => exact absurd hgiven (hnot _)
      | document _ hsaid' _ hdecoded' =>
          obtain rfl := Option.some.inj (hsaid.symm.trans hsaid')
          exact Except.ok.inj (hdecoded.symm.trans hdecoded')
      | default _ hmissing => simp [hmissing _ hsaid] at hnull
  | default hnot hmissing =>
      cases h' with
      | environment hgiven => exact absurd hgiven (hnot _)
      | document _ hsaid hnull => simp [hmissing _ hsaid] at hnull
      | default => rfl

theorem Holds.unique {l : Setting β} {i : Cli.Invocation} {env : Environment} {ms : Members}
    {b b' : β} (h : l.Holds i env ms b) (h' : l.Holds i env ms b') : b = b' := by
  cases h with
  | option hgiven =>
      cases h' with
      | option hgiven' => exact Option.some.inj (hgiven.symm.trans hgiven')
      | loaded hnone => simp [hgiven] at hnone
  | loaded hnone hloaded =>
      cases h' with
      | option hgiven => simp [hgiven] at hnone
      | loaded _ hloaded' => exact hloaded.unique hloaded'

/-- The settings with another value of one of them. -/
def put : {β : Type} → Setting β → β → Settings → Settings
  | _, .daemonUrl, b, s => { s with daemonUrl := b }
  | _, .reconnectDelayMs, b, s => { s with reconnectDelayMs := b }
  | _, .cacheTtlSecs, b, s => { s with cacheTtlSecs := b }
  | _, .replayCapacity, b, s => { s with replayCapacity := b }
  | _, .connectTimeoutMs, b, s => { s with connectTimeoutMs := b }
  | _, .logLevel, b, s => { s with logging := { s.logging with level := b } }
  | _, .logFormat, b, s => { s with logging := { s.logging with format := b } }

theorem of_put_self (l : Setting β) (b : β) (s : Settings) : l.of (l.put b s) = b := by
  cases l <;> rfl

theorem of_put_of_ne {γ : Type} {l : Setting β} {l' : Setting γ}
    (h : (⟨β, l⟩ : (β : Type) × Setting β) ≠ ⟨γ, l'⟩) (b : γ) (s : Settings) :
    l.of (l'.put b s) = l.of s := by
  cases l <;> cases l' <;> first | rfl | exact absurd rfl h

/-- No two settings share a variable. -/
theorem eq_of_environmentName {γ : Type} {l : Setting β} {l' : Setting γ} {name : String}
    (h : l.environmentName = some name) (h' : l'.environmentName = some name) :
    (⟨β, l⟩ : (β : Type) × Setting β) = ⟨γ, l'⟩ := by
  have hsame := h.trans h'.symm
  cases l <;> cases l' <;> first | rfl | simp [environmentName] at hsame h

/-- What the environment gives a setting depends on its variable only. -/
theorem given_congr {l : Setting β} {env env' : Environment}
    (h : ∀ name, l.environmentName = some name → env' name = env name) (b : β) :
    l.Given env' b ↔ l.Given env b := by
  refine exists_congr fun name => exists_congr fun text => and_congr_right fun hname => ?_
  rw [h name hname]

theorem Holds.congr {l : Setting β} {i : Cli.Invocation} {env env' : Environment} {ms : Members}
    {b : β} (hsame : ∀ name, l.environmentName = some name → env' name = env name)
    (h : l.Holds i env ms b) : l.Holds i env' ms b := by
  have hgiven := given_congr hsame
  cases h with
  | option h => exact .option h
  | loaded hnone h =>
      refine .loaded hnone ?_
      cases h with
      | environment h => exact .environment ((hgiven _).2 h)
      | document hnot hsaid hnull hdecoded =>
          exact .document (fun b hb => hnot b ((hgiven b).1 hb)) hsaid hnull hdecoded
      | default hnot hmissing => exact .default (fun b hb => hnot b ((hgiven b).1 hb)) hmissing

/-- What a document says about a setting is decoded unless it is faulty. -/
theorem exists_saidAs {l : Setting β} {ms : Members} (h : ¬ l.Faulty ms) :
    ∃ given, l.SaidAs ms given := by
  unfold SaidAs
  cases hresult : l.decoder.optional (l.said ms) with
  | ok given => exact ⟨given, rfl⟩
  | error fault =>
      refine absurd ?_ h
      cases hsaid : l.said ms with
      | none => simp [hsaid, Decoder.optional] at hresult
      | some v =>
          cases hnull : v.isNull with
          | true => simp [hsaid, Decoder.optional, Decoder.option, hnull] at hresult
          | false =>
              simp [hsaid, Decoder.optional, Decoder.option, hnull,
                Decoder.map_eq_error_iff] at hresult
              exact ⟨v, fault, hsaid, hnull, hresult⟩

theorem SaidAs.not_faulty {l : Setting β} {ms : Members} {given : Option β}
    (h : l.SaidAs ms given) : ¬ l.Faulty ms := by
  rintro ⟨v, fault, hsaid, hnull, herror⟩
  simp [SaidAs, hsaid, Decoder.optional, Decoder.option, hnull, herror, Except.map] at h

end Setting

/-! ## The environment -/

namespace Settings

variable {β : Type} {l : Setting β} {env : Environment}

/-- An override is the one of a setting: it gives it the value that a text stands for, and refuses
any other text. -/
structure Override.Sets {γ : Type} (o : Override) (l : Setting γ) : Prop where
  name : l.environmentName = some o.name
  apply : ∀ text s, (∃ b, l.Reads text b ∧ o.apply text s = some (l.put b s))
    ∨ (o.apply text s = none ∧ ∀ b, ¬ l.Reads text b)

theorem sets_text (l : Setting String) {name : String} (hname : l.environmentName = some name)
    (hreads : ∀ text, l.Reads text text) : (Override.text name l.put).Sets l where
  name := hname
  apply text _ := .inl ⟨text, hreads text, rfl⟩

theorem sets_number (l : Setting UInt64) {name : String} {low high : UInt64}
    (hname : l.environmentName = some name)
    (hreads : ∀ text n, l.Reads text n ↔ GivesNumber low.toNat high.toNat text n) :
    (Override.number name low high l.put).Sets l where
  name := hname
  apply text s := by
    cases hread : inRange? low high text with
    | none =>
        refine .inr ⟨by simp [Override.number, hread], fun n hn => ?_⟩
        rw [hreads, ← inRange?_eq_some_iff, hread] at hn
        cases hn
    | some n =>
        refine .inl ⟨n, ?_, by simp [Override.number, hread]⟩
        rw [hreads, ← inRange?_eq_some_iff, hread]

/-- Every override is the one of a setting. -/
theorem exists_sets : ∀ o ∈ overrides, ∃ (γ : Type) (l : Setting γ), o.Sets l := by
  simp only [overrides, List.forall_mem_cons]
  refine ⟨⟨_, _, sets_text .daemonUrl rfl ?_⟩, ⟨_, _, sets_number .reconnectDelayMs rfl ?_⟩,
    ⟨_, _, sets_number .cacheTtlSecs rfl ?_⟩, ⟨_, _, sets_number .replayCapacity rfl ?_⟩,
    ⟨_, _, sets_text .logLevel rfl ?_⟩, by simp⟩
  all_goals simp [Setting.Reads]

/-- Every variable belongs to an override. -/
theorem name_mem_overrides {name : String} (h : l.environmentName = some name) :
    name ∈ overrides.map Override.name := by
  cases l with
  | connectTimeoutMs => cases h
  | logFormat => cases h
  | _ =>
      obtain rfl := Option.some.inj h
      simp [overrides, Override.text, Override.number]

/-- The override of another setting changes nothing. -/
theorem Override.Sets.spares {γ : Type} {o : Override} {l' : Setting γ} (h : o.Sets l')
    (hne : l.environmentName ≠ some o.name) (s : Settings) :
    l.of (applyOverride env o s).2 = l.of s := by
  have hother : (⟨β, l⟩ : (β : Type) × Setting β) ≠ ⟨γ, l'⟩ := by
    intro hsame
    cases hsame
    exact hne h.name
  unfold applyOverride
  split
  · rfl
  · rename_i text _
    rcases h.apply text s with ⟨b, -, happly⟩ | ⟨happly, -⟩
    · rw [happly]
      exact Setting.of_put_of_ne hother b s
    · rw [happly]

/-- A setting is what the environment gives it, or else what it was. -/
def Overlaid (l : Setting β) (env : Environment) (s s' : Settings) : Prop :=
  l.Given env (l.of s') ∨ ((∀ b, ¬ l.Given env b) ∧ l.of s' = l.of s)

/-- The override of a setting. -/
theorem Override.Sets.overlaid {o : Override} (h : o.Sets l) (s : Settings) :
    Overlaid l env s (applyOverride env o s).2 := by
  have hgiven (b : β) : l.Given env b
      ↔ ∃ text, ((env o.name).filter fun v => !Text.isBlankText v) = some text
        ∧ l.Reads text b := by
    simp only [Setting.Given, h.name, Option.some.injEq, Option.filter_eq_some_iff,
      Bool.not_eq_true', exists_and_left, exists_eq_left', and_assoc]
  unfold applyOverride
  split
  · rename_i hnone
    refine .inr ⟨fun b hb => ?_, rfl⟩
    obtain ⟨text, htext, -⟩ := (hgiven b).1 hb
    rw [hnone] at htext
    cases htext
  · rename_i text htext
    rcases h.apply text s with ⟨b, hreads, happly⟩ | ⟨happly, hnot⟩
    · rw [happly]
      refine .inl ((hgiven _).2 ⟨text, htext, ?_⟩)
      rwa [Setting.of_put_self]
    · rw [happly]
      refine .inr ⟨fun b hb => ?_, rfl⟩
      obtain ⟨text', htext', hreads⟩ := (hgiven b).1 hb
      obtain rfl := Option.some.inj (htext.symm.trans htext')
      exact hnot b hreads

theorem of_applyAll_of_ne {os : List Override} (hos : ∀ o ∈ os, o ∈ overrides)
    (hne : ∀ o ∈ os, l.environmentName ≠ some o.name) (s : Settings) :
    l.of (applyAll env os s).2 = l.of s := by
  induction os generalizing s with
  | nil => rfl
  | cons o os ih =>
      rw [List.forall_mem_cons] at hos hne
      obtain ⟨_, _, hsets⟩ := exists_sets o hos.1
      show l.of (applyAll env os (applyOverride env o s).2).2 = _
      rw [ih hos.2 hne.2, hsets.spares hne.1]

/-- Overrides with distinct names, one of them that of the setting. -/
theorem overlaid_applyAll {os : List Override} (hos : ∀ o ∈ os, o ∈ overrides)
    (hnames : (os.map Override.name).Nodup) {name : String} (hname : l.environmentName = some name)
    (hmem : name ∈ os.map Override.name) (s : Settings) :
    Overlaid l env s (applyAll env os s).2 := by
  induction os generalizing s with
  | nil => cases hmem
  | cons o os ih =>
      rw [List.forall_mem_cons] at hos
      rw [List.map_cons, List.nodup_cons] at hnames
      obtain ⟨γ, l', hsets⟩ := exists_sets o hos.1
      show Overlaid l env s (applyAll env os (applyOverride env o s).2).2
      rcases List.mem_cons.1 hmem with rfl | hmem
      · obtain hsame := Setting.eq_of_environmentName hname hsets.name
        cases hsame
        have hrest : l.of (applyAll env os (applyOverride env o s).2).2
            = l.of (applyOverride env o s).2 := by
          refine of_applyAll_of_ne hos.2 (fun o' ho' heq => hnames.1 ?_) _
          exact List.mem_map.2 ⟨o', ho', Option.some.inj (heq.symm.trans hname)⟩
        rw [Overlaid, hrest]
        exact hsets.overlaid s
      · have hne : l.environmentName ≠ some o.name := by
          intro heq
          exact hnames.1 (Option.some.inj (hname.symm.trans heq) ▸ hmem)
        rw [Overlaid, ← hsets.spares hne s]
        exact ih hos.2 hnames.2 hmem _

/-- **The environment over settings**: each variable changes its own setting. -/
theorem overlaid_withEnvironment (l : Setting β) (env : Environment) (s : Settings) :
    Overlaid l env s (s.withEnvironment env).2 := by
  have hnames : (overrides.map Override.name).Nodup := by
    simp [overrides, Override.text, Override.number]
  cases hname : l.environmentName with
  | some name => exact overlaid_applyAll (fun _ => id) hnames hname (name_mem_overrides hname) s
  | none =>
      refine .inr ⟨?_, of_applyAll_of_ne (fun _ => id) (by simp [hname]) s⟩
      rintro b ⟨name, text, hsome, -⟩
      rw [hname] at hsome
      cases hsome

end Settings

end Messenger
