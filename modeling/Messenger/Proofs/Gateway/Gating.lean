import Messenger.Proofs.Gateway.Lifecycle

set_option autoImplicit false

/-! # Nothing is asked before the version

A gateway asks its daemon for nothing but the version until that is told, and again once it is
disabled. What an operation asks for is what it adds to the record of demands, which is never cut
(`Link.Reached.grown`). A worker asks too, without a check of its own, and so do the caches: they
can because a worker exists in an enabled gateway only, and a gateway is enabled only if a check
succeeded and it was not disabled since (`Gateway.enabled_iff_admitted`). -/

namespace Messenger

open Json

variable {δ : Type}

/-! ## Demands -/

/-- Asking adds to the record and loses nothing of it. -/
theorem Link.Reached.grown {d : Daemon δ} {l l' : Link (δ × List Demand)}
    (h : l.Reached d.recorded l') : l.daemon.2 <+: l'.daemon.2 := by
  induction h with
  | refl => exact List.prefix_rfl
  | called _ method params chosen ih => exact ih.trans (List.prefix_append _ _)
  | listened _ ih => exact ih.trans (List.prefix_append _ _)

namespace Gateway

/-- What the daemon of a gateway was asked for, oldest first. -/
def demands (g : Gateway (δ × List Demand)) : List Demand := g.link.daemon.2

/-- Operations that ask the daemon for its version. -/
def Operation.asksVersion : Operation → Bool
  | .enable => true
  | .enableCalls => true
  | .version => true
  | _ => false

/-- Operations that need an enabled gateway: questions and deliveries. -/
def Operation.isGated : Operation → Bool
  | .groups _ => true
  | .identities _ => true
  | .call .. => true
  | .send _ => true
  | _ => false

/-! ## Admission -/

variable {d : Daemon δ} {g g₀ : Gateway δ}

theorem run_append_snd (d : Daemon δ) (ops more : List Operation) (g : Gateway δ) :
    (run d (ops ++ more) g).2 = (run d more (run d ops g).2).2 := by
  induction ops generalizing g with
  | nil => rfl
  | cons op ops ih => exact ih (g := (apply d op g).2.2)

/-- An operation enables a gateway: the version was checked, and was told. -/
def Enables (d : Daemon δ) (op : Operation) (g : Gateway δ) : Prop :=
  (op = .enable ∨ op = .enableCalls) ∧ ∃ version, (apply d op g).1 = .ok (.enabled version)

/-- Some operation of the past enabled the gateway, and none after it disabled it. -/
def Admitted (d : Daemon δ) (past : List Operation) (g₀ : Gateway δ) : Prop :=
  ∃ before op between, past = before ++ op :: between ∧ Enables d op (run d before g₀).2
    ∧ .disable ∉ between

theorem admitted_concat_iff {past : List Operation} {op : Operation} :
    Admitted d (past ++ [op]) g₀
      ↔ Enables d op (run d past g₀).2 ∨ Admitted d past g₀ ∧ op ≠ .disable := by
  constructor
  · rintro ⟨before, check, between, hpast, henables, hbetween⟩
    rcases List.eq_nil_or_concat' between with rfl | ⟨between, last, rfl⟩
    · obtain ⟨rfl, hlast⟩ := List.append_inj' hpast rfl
      obtain rfl : op = check := (List.cons.inj hlast).1
      exact .inl henables
    · have hsplit : past ++ [op] = (before ++ check :: between) ++ [last] := by
        rw [hpast, List.append_assoc, List.cons_append]
      obtain ⟨rfl, hlast⟩ := List.append_inj' hsplit rfl
      obtain rfl : op = last := (List.cons.inj hlast).1
      rw [List.mem_append, not_or, List.mem_singleton] at hbetween
      exact .inr ⟨⟨before, check, between, rfl, henables, hbetween.1⟩, Ne.symm hbetween.2⟩
  · rintro (henables | ⟨⟨before, check, between, rfl, henables, hbetween⟩, hop⟩)
    · exact ⟨past, op, [], rfl, henables, List.not_mem_nil⟩
    · refine ⟨before, check, between ++ [op], by simp, henables, ?_⟩
      rw [List.mem_append, not_or, List.mem_singleton]
      exact ⟨hbetween, Ne.symm hop⟩

theorem map_enabled_iff {answer : Except GatewayError String} :
    (∃ version, answer.map Told.enabled = .ok (.enabled version))
      ↔ ∃ version, answer = .ok version := by
  cases answer <;> simp [Except.map]

theorem enables_enable_iff : Enables d .enable g ↔ ∃ version, (g.enable d).1 = .ok version :=
  (and_iff_right (.inl rfl)).trans map_enabled_iff

theorem enables_enableCalls_iff :
    Enables d .enableCalls g ↔ ∃ version, (g.enableCalls d).1 = .ok version :=
  (and_iff_right (.inr rfl)).trans map_enabled_iff

theorem Gated.enabled {α : Type} {x : Result δ (Except GatewayError α)} (h : Gated d g x) :
    x.2.2.enabled = g.enabled := by
  obtain ⟨groups, identities, link, -, hg⟩ := h.uses.gateway
  rw [hg]

theorem Gated.worker {α : Type} {x : Result δ (Except GatewayError α)} (h : Gated d g x) :
    x.2.2.worker = g.worker := by
  obtain ⟨groups, identities, link, -, hg⟩ := h.uses.gateway
  rw [hg]

/-- A gateway is enabled after an operation if that enabled it, or if it was before and was not
disabled. -/
theorem enabled_apply_iff (d : Daemon δ) (op : Operation) (g : Gateway δ) :
    (apply d op g).2.2.enabled = true
      ↔ Enables d op g ∨ g.enabled = true ∧ op ≠ .disable := by
  -- What neither checks the version nor disables leaves this alone.
  have hother (hcheck : ¬ (op = .enable ∨ op = .enableCalls)) (hdisable : op ≠ .disable)
      (hsame : (apply d op g).2.2.enabled = g.enabled) :
      (apply d op g).2.2.enabled = true ↔ Enables d op g ∨ g.enabled = true ∧ op ≠ .disable := by
    rw [hsame, or_iff_right fun h => hcheck h.1, and_iff_left hdisable]
  cases op with
  | enable =>
      rw [enables_enable_iff, and_iff_left (by simp)]
      exact (checked_enable d g).enabled_iff
  | enableCalls =>
      rw [enables_enableCalls_iff, and_iff_left (by simp)]
      exact (checked_enableCalls d g).enabled_iff
  | disable =>
      have hafter : (apply d .disable g).2.2 = g.forgotten := disable_gateway g
      rw [hafter]
      refine iff_of_false (by simp [forgotten]) ?_
      rintro (henables | ⟨-, hne⟩)
      · exact absurd henables.1 (by simp)
      · exact hne rfl
  | version =>
      have hafter : (apply d .version g).2.2 = _ := version_gateway d g
      exact hother (by simp) (by simp) (by rw [hafter])
  | groups account => exact hother (by simp) (by simp) (gated_groupsOf d account g).enabled
  | identities account =>
      exact hother (by simp) (by simp) (gated_identitiesOf d account g).enabled
  | call method params chosen =>
      exact hother (by simp) (by simp) (gated_call d method params chosen g).enabled
  | send delivery => exact hother (by simp) (by simp) (gated_send d delivery g).enabled
  | listen attempts =>
      have hsame : (g.listen d attempts).2.enabled = g.enabled := by
        unfold listen
        cases g.worker <;> rfl
      exact hother (by simp) (by simp) hsame
  | occur o =>
      have hsame : (g.occur d o).2.enabled = g.enabled := by
        unfold occur
        cases g.worker <;> rfl
      exact hother (by simp) (by simp) hsame
  | _ => exact hother (by simp) (by simp) rfl

/-- **A gateway is enabled if and only if it was admitted.** -/
theorem enabled_iff_admitted (hnew : g₀.enabled = false) (past : List Operation) :
    (run d past g₀).2.enabled = true ↔ Admitted d past g₀ := by
  induction past using List.reverseRecOn with
  | nil =>
      refine iff_of_false (fun h => absurd (hnew.symm.trans h) (by decide)) ?_
      rintro ⟨before, op, between, hpast, -⟩
      cases before <;> cases hpast
  | append_singleton past op ih =>
      rw [run_append_snd, admitted_concat_iff, ← ih]
      exact enabled_apply_iff d op _

/-! ## What an operation asks for -/

variable {op : Operation}

/-- Asking for the version adds one call to the record, and only that. -/
theorem demands_version (d : Daemon δ) (l : Link (δ × List Demand)) :
    (l.call d.recorded "version" (.obj []) none).2.2.daemon.2
      = l.daemon.2 ++ [.call l.endpoint.rpc
          ⟨(l.sequence.identify none "version").1, "version", .obj []⟩] :=
  rfl

theorem link_of_asksVersion (hop : op.asksVersion = true) (d : Daemon δ) (g : Gateway δ) :
    (apply d op g).2.2.link = (g.link.call d "version" (.obj []) none).2.2 := by
  have hcalls : (g.enableCalls d).2.2.link = (g.link.call d "version" (.obj []) none).2.2 := by
    cases h : (g.version d).1 with
    | none => rw [(enableCalls_of_none h).2, version_gateway]
    | some version => rw [(enableCalls_of_some h).2, version_gateway]
  cases op with
  | enable =>
      have henable : (g.enable d).2.2.link = (g.enableCalls d).2.2.link := by
        cases h : (g.enableCalls d).1 with
        | error e => rw [(enable_of_error h).2]
        | ok version => rw [(enable_of_ok h).2]
      exact henable.trans hcalls
  | enableCalls => exact hcalls
  | version =>
      have hafter : (apply d .version g).2.2 = _ := version_gateway d g
      rw [hafter]
  | _ => cases hop

theorem refused_of_isGated (hop : op.isGated = true) (hdisabled : g.enabled = false) :
    apply d op g = (.error .disabled, [], g) := by
  cases op with
  | groups account =>
      exact congrArg (Result.told _) ((gated_groupsOf d account g).refused hdisabled)
  | identities account =>
      exact congrArg (Result.told _) ((gated_identitiesOf d account g).refused hdisabled)
  | call method params chosen =>
      exact congrArg (Result.told _) ((gated_call d method params chosen g).refused hdisabled)
  | send delivery =>
      exact congrArg (Result.told _) ((gated_send d delivery g).refused hdisabled)
  | _ => cases hop

theorem worker_of_isGated (hop : op.isGated = true) (d : Daemon δ)
    (g : Gateway δ) : (apply d op g).2.2.worker = g.worker := by
  cases op with
  | groups account => exact (gated_groupsOf d account g).worker
  | identities account => exact (gated_identitiesOf d account g).worker
  | call method params chosen => exact (gated_call d method params chosen g).worker
  | send delivery => exact (gated_send d delivery g).worker
  | _ => cases hop

/-- Without a worker and disabled, a gateway asks for nothing but the version. -/
theorem link_of_disabled (hop : op.asksVersion = false) (hdisabled : g.enabled = false)
    (hworker : g.worker = none) : (apply d op g).2.2.link = g.link := by
  by_cases hgated : op.isGated = true
  · rw [refused_of_isGated hgated hdisabled]
  cases op with
  | enable => cases hop
  | enableCalls => cases hop
  | version => cases hop
  | disable =>
      have hafter : (apply d .disable g).2.2 = g.forgotten := disable_gateway g
      rw [hafter]
      rfl
  | listen attempts =>
      have hsame : (g.listen d attempts).2.link = g.link := by
        unfold listen
        rw [hworker]
      exact hsame
  | occur o =>
      have hsame : (g.occur d o).2.link = g.link := by
        unfold occur
        rw [hworker]
      exact hsame
  | register id listener => rfl
  | unregister id => rfl
  | inspect => rfl
  | pass elapsed => rfl
  | _ => exact absurd rfl hgated

/-- After any past, a gateway that was made is enabled if and only if it was admitted: a check
succeeded, and the gateway was not disabled since. What an operation then asks for is added to what
the daemon was asked for. One that asks for the version adds the one call for it. Any other one adds
demands only if the gateway was admitted. If it was not, questions and deliveries are refused,
whatever they are, and leave everything as it is. -/
theorem asked_in_turn {settings : Settings} {sequence : Rpc.Sequence} {s : δ}
    {g₀ : Gateway (δ × List Demand)} (hcreate : create settings sequence (s, []) = .ok g₀)
    (d : Daemon δ) (past : List Operation) (op : Operation) :
    let g := (run d.recorded past g₀).2
    (g.enabled = true ↔ Admitted d.recorded past g₀)
      ∧ ∃ new, (apply d.recorded op g).2.2.demands = g.demands ++ new
        ∧ (op.asksVersion = true →
          ∃ id, new = [.call g.link.endpoint.rpc ⟨id, "version", .obj []⟩])
        ∧ (op.asksVersion = false → new ≠ [] → Admitted d.recorded past g₀)
        ∧ (op.isGated = true → ¬ Admitted d.recorded past g₀ →
          apply d.recorded op g = (.error .disabled, [], g)) := by
  intro g
  obtain ⟨-, endpoint, -, hnew⟩ := create_eq_ok_iff.1 hcreate
  have hadmitted : g.enabled = true ↔ Admitted d.recorded past g₀ :=
    enabled_iff_admitted (by rw [hnew]; rfl) past
  have horderly : g.Orderly := (orderly_of_create hcreate).run past
  have hdisabled (h : ¬ Admitted d.recorded past g₀) : g.enabled = false :=
    Bool.eq_false_iff.2 fun henabled => h (hadmitted.1 henabled)
  obtain ⟨new, hgrown⟩ := (moves d.recorded op g).link.grown
  have hnew' : (apply d.recorded op g).2.2.demands = g.demands ++ new := hgrown.symm
  refine ⟨hadmitted, new, hnew', fun hasks => ?_, fun hother hasked => ?_, fun hgated h => ?_⟩
  · have hversion : (apply d.recorded op g).2.2.demands = g.demands ++ [.call g.link.endpoint.rpc
        ⟨(g.link.sequence.identify none "version").1, "version", .obj []⟩] := by
      rw [demands, link_of_asksVersion hasks, demands_version]
      rfl
    exact ⟨_, List.append_cancel_left (hnew'.symm.trans hversion)⟩
  · by_contra hnot
    have hworker : g.worker = none := by
      by_contra hsome
      exact hnot (hadmitted.1 (horderly.enabled hsome))
    rw [demands, link_of_disabled hother (hdisabled hnot) hworker] at hnew'
    exact hasked (List.self_eq_append_right.1 hnew')
  · exact refused_of_isGated hgated (hdisabled h)

end Gateway
end Messenger
