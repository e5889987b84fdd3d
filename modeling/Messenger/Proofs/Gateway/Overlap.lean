import Messenger.Proofs.Gateway.Alone
import Messenger.Proofs.Gateway.Telling

set_option autoImplicit false

/-! # What is asked when operations overlap

An operation finds out once whether its gateway is enabled, and a disable can come while it waits.
So a request can go out although the gateway is disabled: what can be said is that its task was let
pass when the gateway was enabled. A worker asks while the gateway is enabled, and may ask for a title
once more while it is being stopped. Each of these is kept by every turn, whoever takes it
(`Shared.Sound.step`). -/

namespace Messenger.Gateway

open Json

variable {δ : Type}

/-! ## Signs -/

/-- A version was told to an operation that enables the gateway, and nothing disabled it since. -/
def Allowed (signs : List Sign) : Prop :=
  ∃ before after, signs = before ++ .admitted :: after ∧ ∀ k, .disabling k ∉ after

/-- A sign was shown when the gateway was enabled. -/
def Sign.ShownAllowed (sign : Sign) (signs : List Sign) : Prop :=
  ∃ before after, signs = before ++ sign :: after ∧ Allowed before

/-- Signs that neither enable nor disable. -/
def Sign.isPlain : Sign → Bool
  | .admitted | .disabling _ => false
  | _ => true

variable {signs more : List Sign} {sign : Sign}

theorem allowed_append_iff :
    Allowed (signs ++ more) ↔ Allowed more ∨ Allowed signs ∧ ∀ k, .disabling k ∉ more := by
  constructor
  · rintro ⟨before, after, heq, hafter⟩
    rcases List.append_eq_append_iff.1 heq with ⟨rest, -, rfl⟩ | ⟨rest, rfl, hrest⟩
    · exact .inl ⟨rest, after, rfl, hafter⟩
    · cases rest with
      | nil => exact .inl ⟨[], after, hrest.symm, hafter⟩
      | cons sign rest =>
          obtain ⟨rfl, rfl⟩ := List.cons.inj hrest
          exact .inr ⟨⟨before, rest, rfl, fun k hk => hafter k (List.mem_append_left _ hk)⟩,
            fun k hk => hafter k (List.mem_append_right _ hk)⟩
  · rintro (⟨before, after, rfl, hafter⟩ | ⟨⟨before, after, rfl, hafter⟩, hmore⟩)
    · exact ⟨signs ++ before, after, (List.append_assoc ..).symm, hafter⟩
    · refine ⟨before, after ++ more, by simp, fun k hk => ?_⟩
      exact (List.mem_append.1 hk).elim (hafter k) (hmore k)

theorem not_allowed_nil : ¬ Allowed [] := by
  rintro ⟨before, after, heq, -⟩
  cases before <;> cases heq

theorem allowed_append_of_plain (hplain : ∀ s ∈ more, s.isPlain = true) :
    Allowed (signs ++ more) ↔ Allowed signs := by
  have hmore : ¬ Allowed more := by
    rintro ⟨before, after, rfl, -⟩
    cases hplain .admitted (by simp)
  have hkeeps (k : Nat) : .disabling k ∉ more := fun hk => by cases hplain _ hk
  rw [allowed_append_iff, or_iff_right hmore, and_iff_left hkeeps]

theorem not_allowed_append_disabling (k : Nat) : ¬ Allowed (signs ++ [.disabling k]) := by
  rw [allowed_append_iff]
  rintro (⟨before, after, heq, -⟩ | ⟨-, hnone⟩)
  · have hmem : Sign.admitted ∈ [Sign.disabling k] := by simp [heq]
    cases List.mem_singleton.1 hmem
  · exact hnone k (List.mem_singleton.2 rfl)

theorem Sign.ShownAllowed.append (h : sign.ShownAllowed signs) (more : List Sign) :
    sign.ShownAllowed (signs ++ more) := by
  obtain ⟨before, after, rfl, hbefore⟩ := h
  exact ⟨before, after ++ more, by simp, hbefore⟩

theorem Sign.ShownAllowed.concat (h : Allowed signs) (sign : Sign) :
    sign.ShownAllowed (signs ++ [sign]) := ⟨signs, [], rfl, h⟩

theorem plain_map {α : Type} {f : α → Sign} (hf : ∀ a, (f a).isPlain = true) (as : List α) :
    ∀ s ∈ as.map f, s.isPlain = true := List.forall_mem_map.2 fun a _ => hf a

theorem plain_logged (log : List LogRecord) : ∀ s ∈ logged log, s.isPlain = true :=
  plain_map (fun _ => rfl) log

/-! ## Tasks -/

/-- Replies that are wanted whether or not the gateway is enabled. -/
def Purpose.isVersion : Purpose → Bool
  | .version | .admission _ => true
  | _ => false

/-- Tasks that ask for nothing but the version before they take their next step. -/
inductive Task.Ungated : Task → Prop where
  | begun {op : Operation} : Ungated (.begun op)
  | asking {purpose : Purpose} (h : purpose.isVersion = true) : Ungated (.asking .version purpose)
  | hearing {reply : Except Rpc.Error Value} {log : List LogRecord} {purpose : Purpose}
      (h : purpose.isVersion = true) : Ungated (.hearing reply log purpose)
  | stopping {leaver : Option Nat} : Ungated (.stopping leaver)
  | over {answer : Option Answer} : Ungated (.over answer)

/-- The task that told a worker to stop waits for it, or was given up meanwhile. -/
def Leaver.IsAwaited (l : Leaver) (i : Nat) (tasks : List Task) : Prop :=
  tasks[l.teller]? = some (.stopping (some i)) ∨ tasks[l.teller]? = some (.over none)

namespace Shared

variable {d : Daemon δ} {k : Nat} {π π' : Shared δ} {task task' : Task}

/-- A step that changes nothing of what is allowed, or asked. -/
structure Keeps (π π' : Shared δ) : Prop where
  enabled : π'.gateway.enabled = π.gateway.enabled
  worker : π'.gateway.worker = π.gateway.worker
  link : π'.gateway.link = π.gateway.link
  leavers : π'.leavers = π.leavers

/-- A task that can go on is not over, and a worker that it waits for has stopped. -/
def CanGo (π : Shared δ) : Task → Prop
  | .over _ => False
  | .stopping leaver => π.hasLeft leaver = true
  | _ => True

/-- What a task can do in one step. -/
inductive Goes (d : Daemon δ) (k : Nat) (π : Shared δ) : Task → List Sign → Shared δ → Prop where
  | waits {task : Task} : Goes d k π task [] π
  /-- It goes on to be a task that asks for no more than it may ask for itself. -/
  | goes {task task' : Task} {signs : List Sign} {π' : Shared δ} (hcan : π.CanGo task)
      (hkeeps : Keeps π π') (htasks : π'.tasks = π.tasks.set k task')
      (hplain : ∀ s ∈ signs, s.isPlain = true) (hnext : task.Ungated → task'.Ungated) :
      Goes d k π task signs π'
  | passes {op : Operation} {next : Task} (henabled : π.gateway.enabled = true) :
      Goes d k π (.begun op) [.passed k] (π.put k next)
  | asks (question : Question) (purpose : Purpose) :
      Goes d k π (.asking question purpose) (π.ask d k question purpose).1
        (π.ask d k question purpose).2
  | disables : Goes d k π (.begun .disable) (beginDisabling k { π with holder := some k }).1
      (beginDisabling k { π with holder := some k }).2
  | admits {reply : Except Rpc.Error Value} {log before after : List LogRecord}
      {listens : Bool} {a : Answer} :
      Goes d k π (.hearing reply log (.admission listens))
        (logged before ++ .admitted :: logged after)
        (({ π with holder := none }.letIn listens).answer k a)

/-! ## A task goes on -/

theorem goes_pass (d : Daemon δ) (k : Nat) (op : Operation) (next : Task) (π : Shared δ) :
    Goes d k π (.begun op) (π.pass k next).1 (π.pass k next).2 := by
  cases henabled : π.gateway.enabled with
  | true =>
      rw [pass_of_enabled henabled]
      exact .passes henabled
  | false =>
      rw [pass_of_disabled henabled]
      exact .goes trivial ⟨rfl, rfl, rfl, rfl⟩ rfl (List.forall_mem_nil _) fun _ => .over

theorem goes_acquire {op : Operation} {act : Shared δ → List Sign × Shared δ}
    (hact : Goes d k π (.begun op) (act { π with holder := some k }).1
      (act { π with holder := some k }).2) :
    Goes d k π (.begun op) (π.acquire k act).1 (π.acquire k act).2 := by
  unfold acquire
  split
  · exact .waits
  · exact hact

theorem goes_start (d : Daemon δ) (k : Nat) (op : Operation) (π : Shared δ) :
    Goes d k π (.begun op) (π.start d k op).1 (π.start d k op).2 := by
  have hasking {purpose : Purpose} (hpurpose : purpose.isVersion = true) {π' : Shared δ}
      (hkeeps : Keeps π π') (htasks : π'.tasks = π.tasks.set k (.asking .version purpose)) :
      Goes d k π (.begun op) [] π' :=
    .goes trivial hkeeps htasks (List.forall_mem_nil _) fun _ => .asking hpurpose
  have hanswer {signs : List Sign} (hplain : ∀ s ∈ signs, s.isPlain = true) {a : Answer}
      {π' : Shared δ} (hkeeps : Keeps π π')
      (htasks : π'.tasks = π.tasks.set k (.over (some a))) : Goes d k π (.begun op) signs π' :=
    .goes trivial hkeeps htasks hplain fun _ => .over
  cases op with
  | enable => exact goes_acquire (hasking rfl ⟨rfl, rfl, rfl, rfl⟩ rfl)
  | enableCalls => exact goes_acquire (hasking rfl ⟨rfl, rfl, rfl, rfl⟩ rfl)
  | disable => exact goes_acquire .disables
  | version => exact hasking rfl ⟨rfl, rfl, rfl, rfl⟩ rfl
  | groups account => exact goes_pass ..
  | identities account => exact goes_pass ..
  | call method params chosen => exact goes_pass ..
  | send delivery => exact goes_pass ..
  | register id listener => exact hanswer (plain_map (fun _ => rfl) _) ⟨rfl, rfl, rfl, rfl⟩ rfl
  | unregister id => exact hanswer (plain_map (fun _ => rfl) _) ⟨rfl, rfl, rfl, rfl⟩ rfl
  | pass elapsed => exact hanswer (plain_map (fun _ => rfl) _) ⟨rfl, rfl, rfl, rfl⟩ rfl
  | inspect => exact hanswer (List.forall_mem_nil _) ⟨rfl, rfl, rfl, rfl⟩ rfl
  | listen attempts => exact hanswer (List.forall_mem_nil _) ⟨rfl, rfl, rfl, rfl⟩ rfl
  | occur o => exact hanswer (List.forall_mem_nil _) ⟨rfl, rfl, rfl, rfl⟩ rfl

/-- A task that was let pass goes on, and its surroundings are kept. -/
theorem goes_gated {signs : List Sign} (hcan : π.CanGo task) (hgated : ¬ task.Ungated)
    (hkeeps : Keeps π π') (htasks : ∃ task', π'.tasks = π.tasks.set k task')
    (hplain : ∀ s ∈ signs, s.isPlain = true) : Goes d k π task signs π' :=
  have ⟨_, htasks⟩ := htasks
  .goes hcan hkeeps htasks hplain fun h => absurd h hgated

theorem goes_seekGroups (d : Daemon δ) (k : Nat) (wanted : Wanted) (π : Shared δ) :
    Goes d k π (.seekingGroups wanted) (π.seekGroups k wanted).1 (π.seekGroups k wanted).2 := by
  unfold seekGroups
  dsimp only
  split
  · exact goes_gated trivial nofun ⟨rfl, rfl, rfl, rfl⟩ ⟨_, rfl⟩ (plain_logged _)
  · exact goes_gated trivial nofun ⟨rfl, rfl, rfl, rfl⟩ ⟨_, rfl⟩ (List.forall_mem_nil _)

theorem goes_seekIdentities (d : Daemon δ) (k : Nat) (account : String) (π : Shared δ) :
    Goes d k π (.seekingIdentities account) (π.seekIdentities k account).1
      (π.seekIdentities k account).2 := by
  unfold seekIdentities
  dsimp only
  split <;>
    exact goes_gated trivial nofun ⟨rfl, rfl, rfl, rfl⟩ ⟨_, rfl⟩ (List.forall_mem_nil _)

theorem goes_hear (d : Daemon δ) (k : Nat) (reply : Except Rpc.Error Value) (log : List LogRecord)
    (purpose : Purpose) (π : Shared δ) :
    Goes d k π (.hearing reply log purpose) (π.hear k reply log purpose).1
      (π.hear k reply log purpose).2 := by
  have hgated {purpose : Purpose} (hpurpose : purpose.isVersion = false) :
      ¬ (Task.hearing reply log purpose).Ungated := fun h => by
    cases h with
    | hearing h => cases hpurpose.symm.trans h
  unfold hear
  cases purpose with
  | version => exact .goes trivial ⟨rfl, rfl, rfl, rfl⟩ rfl (plain_logged _) fun _ => .over
  | admission listens =>
      dsimp only
      split
      · exact .goes trivial ⟨rfl, rfl, rfl, rfl⟩ rfl (plain_logged _) fun _ => .over
      · exact .admits
  | groups wanted =>
      dsimp only
      split
      · exact goes_gated trivial (hgated rfl) ⟨rfl, rfl, rfl, rfl⟩ ⟨_, rfl⟩ (plain_logged _)
      · refine goes_gated trivial (hgated rfl) ⟨rfl, rfl, rfl, rfl⟩ ⟨_, rfl⟩ ?_
        exact List.forall_mem_append.2 ⟨plain_logged _, plain_logged _⟩
  | identities account =>
      dsimp only
      split <;>
        exact goes_gated trivial (hgated rfl) ⟨rfl, rfl, rfl, rfl⟩ ⟨_, rfl⟩ (plain_logged _)
  | result => exact goes_gated trivial (hgated rfl) ⟨rfl, rfl, rfl, rfl⟩ ⟨_, rfl⟩ (plain_logged _)
  | delivery method rest results =>
      dsimp only
      split <;> exact goes_gated trivial (hgated rfl) ⟨rfl, rfl, rfl, rfl⟩ ⟨_, rfl⟩ (plain_logged _)

theorem goes_proceed (d : Daemon δ) (k : Nat) (task : Task) (π : Shared δ) :
    Goes d k π task (π.proceed d k task).1 (π.proceed d k task).2 := by
  cases task with
  | begun op => exact goes_start d k op π
  | seekingGroups wanted => exact goes_seekGroups d k wanted π
  | seekingIdentities account => exact goes_seekIdentities d k account π
  | asking question purpose => exact .asks question purpose
  | hearing reply log purpose => exact goes_hear d k reply log purpose π
  | stopping leaver =>
      simp only [proceed]
      split
      next hleft =>
        exact .goes hleft ⟨rfl, rfl, rfl, rfl⟩ rfl (List.forall_mem_nil _) fun _ => .over
      next => exact .waits
  | _ => exact .waits

/-! ## The worker takes a turn -/

theorem work_gateway (d : Daemon δ) (t : Stream.Turn (Around δ)) (isCancelled : Bool)
    (w : Stream.Worker) (stage : Stream.Stage) (g : Gateway δ) :
    let g' := (work d t isCancelled w stage g).2.2.2
    g'.enabled = g.enabled ∧ g'.worker = g.worker := by
  unfold work
  split <;> exact ⟨rfl, rfl⟩

/-- A worker that has stopped does nothing more. -/
theorem work_over {t : Stream.Turn (Around δ)} {isCancelled : Bool} (w : Stream.Worker)
    (g : Gateway δ) : work d t isCancelled w .over g = ([], w, .over, g) := by
  cases t <;> cases isCancelled <;> rfl

/-- A worker that is on its way after a turn was so before it. -/
theorem isOver_of_work {t : Stream.Turn (Around δ)} {isCancelled : Bool} {w : Stream.Worker}
    {stage : Stream.Stage} {g : Gateway δ}
    (h : (work d t isCancelled w stage g).2.2.1.isOver = false) : stage.isOver = false := by
  refine Bool.eq_false_iff.2 fun hover => ?_
  obtain rfl := Stream.Stage.isOver_iff.1 hover
  rw [work_over] at h
  cases h

/-! ## What every turn keeps -/

/-- The gateway is enabled if and only if the signs allow it, and whoever may ask for more than the
version was let pass, or started, while they did. -/
structure Sound (signs : List Sign) (π : Shared δ) : Prop where
  enabled : π.gateway.enabled = true ↔ Allowed signs
  worker : π.gateway.worker ≠ none → π.gateway.enabled = true
  tasks : ∀ k task, π.tasks[k]? = some task →
    task.Ungated ∨ (Sign.passed k).ShownAllowed signs
  leavers : ∀ (i : Nat) (l : Leaver), π.leavers[i]? = some l → l.stage.isOver = false →
    l.IsAwaited i π.tasks ∧ (Sign.disabling l.teller).ShownAllowed signs

theorem Sound.start {g : Gateway δ} (henabled : g.enabled = false) (hworker : g.worker = none) :
    Sound [] (.of g) where
  enabled := iff_of_false (ne_true_of_eq_false henabled) not_allowed_nil
  worker h := absurd hworker h
  tasks _ _ h := by cases h
  leavers _ _ h := by cases h

section

variable {signs more : List Sign}

theorem Sound.tasks_append (h : Sound signs π) (more : List Sign) {j : Nat}
    (hj : π.tasks[j]? = some task) : task.Ungated ∨ (Sign.passed j).ShownAllowed (signs ++ more) :=
  (h.tasks j task hj).imp_right (·.append more)

/-- Another task takes the place of one. -/
theorem Sound.tasks_set (h : Sound signs π)
    (hnext : task'.Ungated ∨ (Sign.passed k).ShownAllowed (signs ++ more)) {j : Nat}
    (hj : (π.tasks.set k task')[j]? = some task) :
    task.Ungated ∨ (Sign.passed j).ShownAllowed (signs ++ more) := by
  rw [List.getElem?_set] at hj
  split at hj
  next hjk =>
    subst hjk
    split at hj
    · rwa [← Option.some.inj hj]
    · cases hj
  next => exact h.tasks_append more hj

/-- A task that can go on is none that told a worker on its way to stop. -/
theorem Sound.leavers_set (h : Sound signs π) (htask : π.tasks[k]? = some task)
    (hcan : π.CanGo task) {i : Nat} {l : Leaver} (hl : π.leavers[i]? = some l)
    (hstage : l.stage.isOver = false) :
    l.IsAwaited i (π.tasks.set k task')
      ∧ (Sign.disabling l.teller).ShownAllowed (signs ++ more) := by
  obtain ⟨hawaited, hshown⟩ := h.leavers i l hl hstage
  have hother : k ≠ l.teller := by
    rintro rfl
    rcases hawaited with hstop | hover
    · obtain rfl := Option.some.inj (htask.symm.trans hstop)
      simp [CanGo, hasLeft, hl, hstage] at hcan
    · obtain rfl := Option.some.inj (htask.symm.trans hover)
      exact hcan
  refine ⟨?_, hshown.append more⟩
  simpa only [Leaver.IsAwaited, List.getElem?_set_ne hother] using hawaited

theorem Sound.beginDisabling (h : Sound signs π) {op : Operation}
    (htask : π.tasks[k]? = some (.begun op)) :
    Sound (signs ++ (π.beginDisabling k).1) (π.beginDisabling k).2 := by
  cases hworker : π.gateway.worker with
  | none =>
      rw [beginDisabling_of_none hworker]
      refine ⟨?_, nofun, fun j t hj => ?_, fun i l hl hstage => ?_⟩
      · exact iff_of_false Bool.false_ne_true (not_allowed_append_disabling k)
      · exact h.tasks_set (.inl .stopping) hj
      · exact h.leavers_set htask trivial hl hstage
  | some w =>
      have hallowed : Allowed signs := h.enabled.1 (h.worker (by simp [hworker]))
      have hk : k < π.tasks.length := (List.getElem?_eq_some_iff.1 htask).1
      simp only [beginDisabling_of_some hworker]
      refine ⟨?_, nofun, fun j t hj => ?_, fun i l hl hstage => ?_⟩
      · exact iff_of_false Bool.false_ne_true (not_allowed_append_disabling k)
      · exact h.tasks_set (.inl .stopping) hj
      · replace hl : (π.leavers ++ [(⟨w, π.stage, k⟩ : Leaver)])[i]? = some l := hl
        rw [List.getElem?_append] at hl
        split at hl
        next => exact h.leavers_set htask trivial hl hstage
        next hnew =>
          rw [List.getElem?_singleton] at hl
          split at hl
          next hlast =>
            obtain rfl : i = π.leavers.length := by omega
            obtain rfl := Option.some.inj hl
            exact ⟨.inl (List.getElem?_set_self hk), .concat hallowed _⟩
          next => cases hl

/-- A step of a task keeps it. -/
theorem Sound.goes (h : Sound signs π) (htask : π.tasks[k]? = some task)
    (hgoes : Goes d k π task more π') : Sound (signs ++ more) π' := by
  cases hgoes with
  | waits => rwa [List.append_nil]
  | goes hcan hkeeps htasks hplain hnext =>
      refine ⟨?_, ?_, fun j t hj => ?_, fun i l hl hstage => ?_⟩
      · rw [hkeeps.enabled, allowed_append_of_plain hplain, h.enabled]
      · rw [hkeeps.worker, hkeeps.enabled]
        exact h.worker
      · rw [htasks] at hj
        exact h.tasks_set ((h.tasks_append more htask).imp_left hnext) hj
      · rw [hkeeps.leavers] at hl
        rw [htasks]
        exact h.leavers_set htask hcan hl hstage
  | passes henabled =>
      refine ⟨?_, h.worker, fun j t hj => ?_, fun i l hl hstage => ?_⟩
      · rw [allowed_append_of_plain (List.forall_mem_singleton.2 rfl)]
        exact h.enabled
      · exact h.tasks_set (.inr (.concat (h.enabled.1 henabled) _)) hj
      · exact h.leavers_set htask trivial hl hstage
  | asks question purpose =>
      have hnext : (Task.asking question purpose).Ungated → ∀ reply log,
          (Task.hearing reply log purpose).Ungated := by
        rintro ⟨⟩ reply log
        exact .hearing ‹_›
      have hmore : (π.ask d k question purpose).1 = [] := rfl
      rw [hmore]
      refine ⟨?_, h.worker, fun j t hj => ?_, fun i l hl hstage => ?_⟩
      · rw [List.append_nil]
        exact h.enabled
      · exact h.tasks_set ((h.tasks_append [] htask).imp_left (hnext · _ _)) hj
      · exact h.leavers_set htask trivial hl hstage
  | disables =>
      exact Sound.beginDisabling ⟨h.enabled, h.worker, h.tasks, h.leavers⟩ htask
  | admits =>
      refine ⟨iff_of_true rfl ?_, fun _ => rfl, fun j t hj => ?_, fun i l hl hstage => ?_⟩
      · refine allowed_append_iff.2 (.inl ⟨_, _, rfl, fun j hj => ?_⟩)
        cases plain_logged _ _ hj
      · exact h.tasks_set (.inl .over) hj
      · exact h.leavers_set htask trivial hl hstage

/-- Beginning an operation keeps it. -/
theorem Sound.begin (h : Sound signs π) (op : Operation) :
    Sound signs { π with tasks := π.tasks ++ [.begun op] } := by
  refine ⟨h.enabled, h.worker, fun j t hj => ?_, fun i l hl hstage => ?_⟩
  · rw [List.getElem?_append] at hj
    split at hj
    next => exact h.tasks j t hj
    next =>
      obtain rfl := List.mem_singleton.1 (List.mem_of_getElem? hj)
      exact .inl .begun
  · obtain ⟨hawaited, hshown⟩ := h.leavers i l hl hstage
    have hkeeps {j : Nat} {t : Task} (hj : π.tasks[j]? = some t) :
        (π.tasks ++ [.begun op])[j]? = some t :=
      (List.getElem?_append_left (List.getElem?_eq_some_iff.1 hj).1).trans hj
    exact ⟨hawaited.imp hkeeps hkeeps, hshown⟩

/-- Giving a task up keeps it; a worker that it waits for goes on stopping. -/
theorem Sound.giveUp (h : Sound signs π) (k : Nat) : Sound signs (π.giveUp k) := by
  unfold Shared.giveUp
  split
  · exact h
  · exact h
  next task hover htask =>
    refine ⟨h.enabled, h.worker, fun j t hj => ?_, fun i l hl hstage => ?_⟩
    · have hset : t.Ungated ∨ (Sign.passed j).ShownAllowed (signs ++ []) :=
        h.tasks_set (.inl .over) hj
      rwa [List.append_nil] at hset
    · obtain ⟨hawaited, hshown⟩ := h.leavers i l hl hstage
      refine ⟨?_, hshown⟩
      have hk : k < π.tasks.length := (List.getElem?_eq_some_iff.1 htask).1
      by_cases hteller : k = l.teller
      · subst hteller
        exact .inr (List.getElem?_set_self hk)
      · simpa only [Leaver.IsAwaited, put, List.getElem?_set_ne hteller] using hawaited

/-- **Every turn keeps it**, whoever takes it. -/
theorem Sound.step (h : Sound signs π) (d : Daemon δ) (t : Turn δ) :
    Sound (signs ++ (π.step d t).1) (π.step d t).2 := by
  cases t with
  | begin op =>
      have hmore : (π.step d (.begin op)).1 = [] := rfl
      rw [hmore, List.append_nil]
      exact h.begin op
  | go k =>
      simp only [Shared.step, advance]
      split
      next task htask => exact h.goes htask (goes_proceed d k task π)
      next =>
        rw [List.append_nil]
        exact h
  | giveUp k =>
      have hmore : (π.step d (.giveUp k)).1 = [] := rfl
      rw [hmore, List.append_nil]
      exact h.giveUp k
  | worker t =>
      simp only [Shared.step]
      split
      next =>
        rw [List.append_nil]
        exact h
      next w hworker =>
        obtain ⟨henabled, -⟩ := work_gateway d t false w π.stage π.gateway
        refine ⟨?_, fun _ => ?_, fun j t hj => h.tasks_append _ hj, fun i l hl hstage => ?_⟩
        · rw [allowed_append_of_plain (plain_map (fun _ => rfl) _)]
          exact henabled ▸ h.enabled
        · exact henabled.trans (h.worker (by simp [hworker]))
        · obtain ⟨hawaited, hshown⟩ := h.leavers i l hl hstage
          exact ⟨hawaited, hshown.append _⟩
  | leaver i t =>
      simp only [Shared.step]
      split
      next =>
        rw [List.append_nil]
        exact h
      next l hleaver =>
        obtain ⟨henabled, hworker⟩ := work_gateway d t true l.worker l.stage π.gateway
        refine ⟨?_, fun hsome => ?_, fun j t hj => h.tasks_append _ hj, fun j l' hl hstage => ?_⟩
        · rw [allowed_append_of_plain (plain_map (fun _ => rfl) _)]
          exact henabled ▸ h.enabled
        · exact henabled.trans (h.worker (hworker ▸ hsome))
        · replace hl : (π.leavers.set i { l with
              worker := (work d t true l.worker l.stage π.gateway).2.1
              stage := (work d t true l.worker l.stage π.gateway).2.2.1 })[j]? = some l' := hl
          rw [List.getElem?_set] at hl
          split at hl
          next hij =>
            subst hij
            split at hl
            · obtain rfl := Option.some.inj hl
              obtain ⟨hawaited, hshown⟩ := h.leavers i l hleaver (isOver_of_work hstage)
              exact ⟨hawaited, hshown.append _⟩
            · cases hl
          next =>
            obtain ⟨hawaited, hshown⟩ := h.leavers j l' hl hstage
            exact ⟨hawaited, hshown.append _⟩

theorem Sound.run (h : Sound signs π) (d : Daemon δ) (ts : List (Turn δ)) :
    Sound (signs ++ (run d ts π).1) (run d ts π).2 := by
  induction ts generalizing signs π with
  | nil =>
      rw [Shared.run, List.append_nil]
      exact h
  | cons t ts ih =>
      have hlast := ih (h.step d t)
      rwa [List.append_assoc] at hlast

end

/-! ## What is asked -/

/-- Going on without waiting for anything leaves alone what surrounds a worker. -/
theorem around_goOn {σ : Type} (μ : Stream.Moment σ) : μ.goOn.2.feed.around = μ.feed.around := by
  unfold Stream.Moment.goOn
  split <;> try rfl
  next item items hasEnded _ =>
    unfold Stream.Moment.takeItem
    split
    · rfl
    · dsimp only
      split <;> rfl

/-- A turn of a worker uses what surrounds it to take a payload, if at all. -/
theorem around_moment {σ : Type} (resolver : Event.Resolver σ) {t : Stream.Turn σ}
    (ht : t.isOwn = true) (μ : Stream.Moment σ) :
    (μ.step resolver t).2.feed.around = μ.feed.around
      ∨ ∃ payload, (μ.step resolver t).2.feed.around
        = (μ.feed.takePayload resolver payload).2.around := by
  unfold Stream.Moment.step
  split
  · cases ht
  · cases ht
  · split
    · unfold Stream.Moment.giveUp
      split <;> exact .inl rfl
    · exact .inl (around_goOn μ)
  · unfold Stream.Moment.hear
    split <;> exact .inl rfl
  · exact .inl rfl
  · exact .inl rfl
  · exact .inl rfl
  · next payload items hasEnded _ =>
      rw [(Stream.Moment.sort_eq resolver payload items hasEnded μ).2]
      exact .inr ⟨payload, rfl⟩
  · split <;> exact .inl rfl
  · exact .inl rfl

/-- A worker asks the daemon at most. -/
theorem reached_work (d : Daemon δ) (t : Stream.Turn (Around δ)) (isCancelled : Bool)
    (w : Stream.Worker) (stage : Stream.Stage) (g : Gateway δ) :
    g.link.Reached d (work d t isCancelled w stage g).2.2.2.link := by
  unfold work
  split
  next ht =>
    let μ : Stream.Moment (Around δ) :=
      { feed := ⟨w, g.registry, g.groups, g.link⟩, stage, isCancelled }
    let resolver := Cache.titles (GroupDirectory.load d) g.now
    have hmoment : g.link.Reached d (μ.step resolver t).2.feed.around.2 := by
      rcases around_moment resolver ht μ with hsame | ⟨payload, htaken⟩
      · rw [hsame]
        exact .refl
      · rw [htaken]
        have hself : Stream.Feed.Related (Behind d g.link) μ.feed μ.feed := ⟨rfl, rfl, .refl⟩
        exact ((behind_respected d g.link g.now).takePayload hself payload).feed.behind.2
    dsimp only
    split
    · exact hmoment.listened
    · exact hmoment
  next => exact .refl

/-- Who may ask the daemon, and for what. -/
inductive Warranted (signs : List Sign) (π : Shared δ) : Turn δ → List Demand → Prop where
  /-- Any task may ask for the version. -/
  | version {k : Nat} (id : String) :
      Warranted signs π (.go k) [.call π.gateway.link.endpoint.rpc ⟨id, "version", .obj []⟩]
  /-- The task was let pass when the gateway was enabled. -/
  | task {k : Nat} {new : List Demand} (hpassed : (Sign.passed k).ShownAllowed signs) :
      Warranted signs π (.go k) new
  /-- The worker asks while the gateway is enabled. -/
  | worker {t : Stream.Turn (Around δ)} {new : List Demand} (hallowed : Allowed signs) :
      Warranted signs π (.worker t) new
  /-- The worker was told to stop when the gateway was enabled, and has not done so yet. -/
  | leaver {i : Nat} {l : Leaver} {t : Stream.Turn (Around δ)} {new : List Demand}
      (hl : π.leavers[i]? = some l) (hawaited : l.IsAwaited i π.tasks)
      (htold : (Sign.disabling l.teller).ShownAllowed signs) : Warranted signs π (.leaver i t) new

/-- Whoever takes a turn, what is asked is warranted. -/
theorem Sound.warranted {signs : List Sign} {π : Shared (δ × List Demand)} (h : Sound signs π)
    (d : Daemon δ) (t : Turn (δ × List Demand)) :
    ∃ new, (π.step d.recorded t).2.gateway.demands = π.gateway.demands ++ new
      ∧ (new ≠ [] → Warranted signs π t new) := by
  -- A turn that leaves the link alone asks for nothing.
  have hnothing {π' : Shared (δ × List Demand)} (hlink : π'.gateway.link = π.gateway.link) :
      ∃ new, π'.gateway.demands = π.gateway.demands ++ new
        ∧ (new ≠ [] → Warranted signs π t new) :=
    ⟨[], by rw [demands, hlink, List.append_nil, demands], fun hne => absurd rfl hne⟩
  cases t with
  | begin op => exact hnothing rfl
  | giveUp k =>
      refine hnothing ?_
      simp only [Shared.step, Shared.giveUp]
      split <;> rfl
  | go k =>
      simp only [Shared.step, advance]
      split
      next task htask =>
        have hgoes := goes_proceed d.recorded k task π
        generalize (π.proceed d.recorded k task).1 = shown,
          (π.proceed d.recorded k task).2 = π' at hgoes
        cases hgoes with
        | waits => exact hnothing rfl
        | goes _ hkeeps => exact hnothing hkeeps.link
        | passes => exact hnothing rfl
        | asks question purpose =>
            refine ⟨_, rfl, fun _ => ?_⟩
            rcases h.tasks k _ htask with hungated | hpassed
            · cases hungated
              exact .version _
            · exact .task hpassed
        | disables =>
            refine hnothing ?_
            unfold Shared.beginDisabling
            dsimp only
            split <;> rfl
        | admits => exact hnothing rfl
      next => exact hnothing rfl
  | worker t =>
      simp only [Shared.step]
      split
      next => exact hnothing rfl
      next w hworker =>
        obtain ⟨new, hgrown⟩ := (reached_work d.recorded t false w π.stage π.gateway).grown
        exact ⟨new, hgrown.symm, fun _ => .worker (h.enabled.1 (h.worker (by simp [hworker])))⟩
  | leaver i t =>
      simp only [Shared.step]
      split
      next => exact hnothing rfl
      next l hl =>
        cases hstage : l.stage.isOver with
        | true =>
            refine hnothing ?_
            rw [Stream.Stage.isOver_iff.1 hstage, work_over]
        | false =>
            obtain ⟨new, hgrown⟩ :=
              (reached_work d.recorded t true l.worker l.stage π.gateway).grown
            obtain ⟨hawaited, htold⟩ := h.leavers i l hl hstage
            exact ⟨new, hgrown.symm, fun _ => .leaver hl hawaited htold⟩

/-- A question or a delivery that begins when the gateway is not enabled is answered so at once. -/
theorem step_of_isGated {op : Operation} (hop : op.isGated = true)
    (hdisabled : π.gateway.enabled = false) (htask : π.tasks[k]? = some (.begun op)) :
    π.step d (.go k) = ([], π.answer k (.error .disabled)) := by
  simp only [Shared.step, advance, htask, proceed]
  cases op with
  | groups account => exact pass_of_disabled hdisabled
  | identities account => exact pass_of_disabled hdisabled
  | call method params chosen => exact pass_of_disabled hdisabled
  | send delivery => exact pass_of_disabled hdisabled
  | _ => cases hop

end Shared

/-- **Nothing is asked before the version.** When operations are called one after the other, a
gateway that was made is enabled if and only if it was admitted: a check succeeded, and the gateway
was not disabled since. An operation that asks for the version adds the one call for it to what the
daemon was asked for. Any other one adds demands only if the gateway was admitted; if it was not,
questions and deliveries are refused, whatever they are, and leave everything as it is.

When operations overlap, and may be given up, the gateway is enabled if and only if the signs allow
it. Whoever takes a turn then, what is asked is warranted: it is the version, or it is asked by a task
that was let pass, or by a worker that ran, while the gateway was enabled. A question or a delivery
that begins when it is not enabled is answered so at once, and nothing else changes. Operations that
are called one after the other are a case of this. -/
theorem asked_if_admitted {settings : Settings} {sequence : Rpc.Sequence} {s : δ}
    {g₀ : Gateway (δ × List Demand)} (hcreate : create settings sequence (s, []) = .ok g₀)
    (d : Daemon δ) :
    (∀ (past : List Operation) (op : Operation),
      let g := (run d.recorded past g₀).2
      (g.enabled = true ↔ Admitted d.recorded past g₀)
        ∧ ∃ new, (apply d.recorded op g).2.2.demands = g.demands ++ new
          ∧ (op.asksVersion = true →
            ∃ id, new = [.call g.link.endpoint.rpc ⟨id, "version", .obj []⟩])
          ∧ (op.asksVersion = false → new ≠ [] → Admitted d.recorded past g₀)
          ∧ (op.isGated = true → ¬ Admitted d.recorded past g₀ →
            apply d.recorded op g = (.error .disabled, [], g)))
      ∧ (∀ (ts : List (Turn (δ × List Demand))) (t : Turn (δ × List Demand)),
        let signs := (Shared.run d.recorded ts (.of g₀)).1
        let π := (Shared.run d.recorded ts (.of g₀)).2
        (π.gateway.enabled = true ↔ Allowed signs)
          ∧ (∃ new, (π.step d.recorded t).2.gateway.demands = π.gateway.demands ++ new
            ∧ (new ≠ [] → π.Warranted signs t new))
          ∧ ∀ k op, t = .go k → π.tasks[k]? = some (.begun op) → op.isGated = true →
            ¬ Allowed signs → π.step d.recorded t = ([], π.answer k (.error .disabled)))
      ∧ ∀ ops : List Operation, (∀ op ∈ ops, op.isCalled = true) →
        let outcomes := (run d.recorded ops g₀).1
        ∃ ts, noticesOf (Shared.run d.recorded ts (.of g₀)).1 = (outcomes.map Prod.snd).flatten
          ∧ (Shared.run d.recorded ts (.of g₀)).2.gateway = (run d.recorded ops g₀).2
          ∧ (Shared.run d.recorded ts (.of g₀)).2.tasks
            = outcomes.map fun o => .over (some o.1) := by
  obtain ⟨-, endpoint, -, hnew⟩ := create_eq_ok_iff.1 hcreate
  have henabled : g₀.enabled = false := by rw [hnew]; rfl
  have hworker : g₀.worker = none := by rw [hnew]; rfl
  refine ⟨asked_in_turn hcreate d, fun ts t => ?_, fun ops hops => ?_⟩
  · have hsound := (Shared.Sound.start henabled hworker).run d.recorded ts
    rw [List.nil_append] at hsound
    refine ⟨hsound.enabled, hsound.warranted d t, ?_⟩
    rintro k op rfl htask hgated hallowed
    exact Shared.step_of_isGated hgated
      (Bool.eq_false_iff.2 fun h => hallowed (hsound.enabled.1 h)) htask
  · have hrest : (Shared.of g₀).AtRest :=
      ⟨rfl, fun w hw => absurd (hworker.symm.trans hw) nofun, List.forall_mem_nil _⟩
    exact Shared.alone_run d.recorded hops hrest

/-- A daemon that tells its version, and knows one group of every account. -/
def listing : Daemon Unit where
  call _ request s :=
    let result : Value :=
      if request.method = "version" then Rpc.versionTold else .arr [.obj [("id", .str "g1")]]
    (some ⟨200, Text.toUtf8 (Value.obj (Rpc.giving request.id result)).compact⟩, s)
  listen _ s := (.refused, s)

/-- A deletion that is sent to one group, by its title or identifier. -/
def toGroup : Delivery := ⟨"me", .deletion 5, [], ["g1"]⟩

/-- The gateway is disabled while a delivery waits for the groups of its account. -/
def overtaken : List (Turn (Unit × List Demand)) :=
  [.begin .enableCalls, .go 0, .go 0, .go 0, .begin (.send toGroup), .go 1, .go 1, .go 1,
    .begin .disable, .go 2, .go 2, .go 1]

/-- A new gateway to a daemon on this machine. -/
def fresh : Gateway (Unit × List Demand) := newborn .loopback .loopback {} ((), [])

theorem create_fresh : create .loopback {} ((), []) = .ok fresh :=
  create_eq_ok_iff.2 ⟨by decide +kernel, .loopback, by decide +kernel, rfl⟩

/-- What a demand calls. -/
def methodOf : Demand → Option String
  | .call _ request => some request.method
  | .listen _ => none

theorem disabled_overtaken :
    (Shared.run listing.recorded overtaken (.of fresh)).2.gateway.enabled = false := by
  decide +kernel

theorem methods_overtaken :
    let π := (Shared.run listing.recorded overtaken (.of fresh)).2
    (π.step listing.recorded (.go 1)).2.gateway.demands.map methodOf
      = π.gateway.demands.map methodOf ++ [some "remoteDelete"] := by
  decide +kernel

/-- Called in turn, a delivery to nobody is refused because the gateway was disabled again. Overtaken
by a disable, a delivery still asks, and was let pass before. -/
theorem asked_if_admitted_after_disabling :
    let past : List Operation := [.enable, .disable]
    let g := (run listing.recorded past fresh).2
    let nobody : Operation := .send ⟨"me", .deletion 5, [], []⟩
    let signs := (Shared.run listing.recorded overtaken (.of fresh)).1
    let π := (Shared.run listing.recorded overtaken (.of fresh)).2
    create .loopback {} ((), []) = .ok fresh
      ∧ ¬ Admitted listing.recorded past fresh
      ∧ apply listing.recorded nobody g = (.error .disabled, [], g)
      ∧ ¬ Allowed signs
      ∧ ∃ demand, (π.step listing.recorded (.go 1)).2.gateway.demands = π.gateway.demands ++ [demand]
        ∧ π.Warranted signs (.go 1) [demand] := by
  intro past g nobody signs π
  obtain ⟨hturn, hoverlap, -⟩ := asked_if_admitted create_fresh listing
  obtain ⟨hadmitted, -, -, -, -, hrefused⟩ := hturn past nobody
  obtain ⟨hallowed, ⟨new, hnew, hwarranted⟩, -⟩ := hoverlap overtaken (.go 1)
  have hdisabled : g.enabled = false := by decide +kernel
  have hnot : ¬ Admitted listing.recorded past fresh := fun h =>
    absurd (hdisabled.symm.trans (hadmitted.2 h)) (by decide)
  have hclosed : π.gateway.enabled = false := disabled_overtaken
  have hmethods : π.gateway.demands.map methodOf ++ new.map methodOf
      = π.gateway.demands.map methodOf ++ [some "remoteDelete"] := by
    rw [← List.map_append, ← hnew]
    exact methods_overtaken
  obtain ⟨demand, rfl, -⟩ := List.map_eq_singleton_iff.1 (List.append_cancel_left hmethods)
  exact ⟨create_fresh, hnot, hrefused rfl hnot,
    fun h => absurd (hclosed.symm.trans (hallowed.2 h)) (by decide), demand, hnew,
    hwarranted (List.cons_ne_nil _ _)⟩

/-- A deletion is asked for although the gateway was disabled since the last check, and a disabled
gateway asks for the version and answers with it. -/
theorem asked_though_disabled :
    let signs := (Shared.run listing.recorded overtaken (.of fresh)).1
    let π := (Shared.run listing.recorded overtaken (.of fresh)).2
    (π.gateway.enabled = false ∧ ¬ Allowed signs
      ∧ (π.step listing.recorded (.go 1)).2.gateway.demands.map methodOf
        = π.gateway.demands.map methodOf ++ [some "remoteDelete"])
      ∧ fresh.enabled = false
      ∧ (apply listing.recorded .version fresh).1 = .ok (.version (some "1"))
      ∧ (apply listing.recorded .version fresh).2.2.demands.map methodOf = [some "version"] := by
  intro signs π
  have hclosed : π.gateway.enabled = false := disabled_overtaken
  have hsound := (Shared.Sound.start (g := fresh) rfl rfl).run listing.recorded overtaken
  have hversion : (fresh.version listing.recorded).1 = some "1" := by decide +kernel
  refine ⟨⟨hclosed, fun h => ?_, methods_overtaken⟩, rfl, ?_, by decide +kernel⟩
  · exact absurd (hclosed.symm.trans (hsound.enabled.2 h)) (by decide)
  · exact congrArg (fun text => Except.ok (Told.version text)) hversion

end Messenger.Gateway
