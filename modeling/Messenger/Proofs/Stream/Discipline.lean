import Messenger.Proofs.Stream.Moments

set_option autoImplicit false

/-! # What a worker may do next

What a worker has shown so far decides what it may show next. A `View` is what an onlooker keeps of
it, and `Follows` says which signs may follow: which state after which, one request for the stream
in each attempt to connect, messages only while streaming, and nothing once it is stopped, which
takes a cancellation. Every worker keeps to it, however the turns fall (`keeps_discipline`). -/

namespace Messenger.Stream

variable {σ : Type}

/-! ## Onlookers -/

/-- What an onlooker keeps of a worker. -/
structure View where
  /-- The state entered last; before that a worker is stopped. -/
  state : WorkerState := .stopped
  /-- Whether it entered any state. -/
  hasBegun : Bool := false
  /-- How often it asked for the stream since it entered its state. -/
  asked : Nat := 0
  /-- The answers since it entered its state. -/
  answers : List (Option Nat) := []
  isCancelled : Bool := false
deriving Repr

namespace View

/-- What is kept after another sign. -/
def see (v : View) : Sign → View
  | .entered state => { state, hasBegun := true, isCancelled := v.isCancelled }
  | .asked => { v with asked := v.asked + 1 }
  | .answered status => { v with answers := v.answers ++ [status] }
  | .cancelled => { v with isCancelled := true }
  | .published _ => v
  | .noticed _ => v

/-- What is kept after some signs. -/
def after (v : View) (signs : List Sign) : View := signs.foldl see v

/-- What is kept of all signs of a worker. -/
def of (signs : List Sign) : View := after {} signs

@[simp] theorem after_nil (v : View) : v.after [] = v := rfl

@[simp] theorem after_cons (v : View) (s : Sign) (signs : List Sign) :
    v.after (s :: signs) = (v.see s).after signs := rfl

@[simp] theorem after_append (v : View) (signs more : List Sign) :
    v.after (signs ++ more) = (v.after signs).after more := List.foldl_append

/-- Records and what listeners do leave no trace. -/
@[simp] theorem after_noticed (v : View) (notices : List (Notice Message)) :
    v.after (notices.map .noticed) = v := by
  induction notices with
  | nil => rfl
  | cons n notices ih => exact ih

end View

/-- A sign that may follow. -/
inductive Follows (v : View) : Sign → Prop where
  /-- Connecting comes first, and after a pause. -/
  | connecting (h : v.state = .stopped ∧ v.hasBegun = false ∨ v.state = .backoff) :
      Follows v (.entered .connecting)
  /-- Streaming comes with an answer of success to the one request. -/
  | streaming {status : Option Nat} (hstate : v.state = .connecting) (hasked : v.asked = 1)
      (hanswers : v.answers = [status]) (hopens : opensStream status = true) :
      Follows v (.entered .streaming)
  /-- A pause comes with any other answer to the one request. -/
  | pauseRefused {status : Option Nat} (hstate : v.state = .connecting) (hasked : v.asked = 1)
      (hanswers : v.answers = [status]) (hopens : opensStream status = false) :
      Follows v (.entered .backoff)
  /-- A pause comes when the stream is over. -/
  | pauseEnded (hstate : v.state = .streaming) : Follows v (.entered .backoff)
  /-- The end comes once, with a cancellation, and not in place of a stream that was opened. -/
  | stopped (hcancelled : v.isCancelled = true) (halive : v.state = .stopped → v.hasBegun = false)
      (hanswers : v.state = .connecting → ∀ a ∈ v.answers, opensStream a = false) :
      Follows v (.entered .stopped)
  /-- The stream is asked for once while connecting. -/
  | asked (hstate : v.state = .connecting) (hasked : v.asked = 0) : Follows v .asked
  | answered (status : Option Nat) (hstate : v.state = .connecting) (hasked : v.asked = 1)
      (hanswers : v.answers = []) : Follows v (.answered status)
  /-- Messages are published while streaming. -/
  | published (m : Message) (hstate : v.state = .streaming) : Follows v (.published m)
  | noticed (n : Notice Message) : Follows v (.noticed n)
  | cancelled : Follows v .cancelled

/-- Each sign may follow those before it. -/
def Disciplined (v : View) : List Sign → Prop
  | [] => True
  | s :: signs => Follows v s ∧ Disciplined (v.see s) signs

namespace Disciplined

theorem append {v : View} {signs more : List Sign} (h : Disciplined v signs)
    (hmore : Disciplined (v.after signs) more) : Disciplined v (signs ++ more) := by
  induction signs generalizing v with
  | nil => exact hmore
  | cons s signs ih => exact ⟨h.1, ih h.2 hmore⟩

theorem noticed (v : View) (notices : List (Notice Message)) :
    Disciplined v (notices.map .noticed) := by
  induction notices with
  | nil => trivial
  | cons n notices ih => exact ⟨.noticed n, ih⟩

/-- After some signs, the rest keeps to it as well. -/
theorem rest {v : View} {past later : List Sign} (h : Disciplined v (past ++ later)) :
    Disciplined (v.after past) later := by
  induction past generalizing v with
  | nil => exact h
  | cons p past ih => exact ih h.2

/-- A worker that has stopped enters no state, asks for nothing and publishes nothing. -/
theorem final {v : View} {signs : List Sign} (h : Disciplined v signs) (hstate : v.state = .stopped)
    (hbegun : v.hasBegun = true) : ∀ s ∈ signs, s = .cancelled ∨ ∃ n, s = .noticed n := by
  induction signs generalizing v with
  | nil => simp
  | cons s signs ih =>
      obtain ⟨hfollows, hrest⟩ := h
      have hone : s = .cancelled ∨ ∃ n, s = .noticed n := by
        cases hfollows <;> simp_all
      have hsame : (v.see s).state = v.state ∧ (v.see s).hasBegun = v.hasBegun := by
        rcases hone with rfl | ⟨n, rfl⟩ <;> exact ⟨rfl, rfl⟩
      intro t ht
      rcases List.mem_cons.1 ht with rfl | ht
      · exact hone
      · exact ih hrest (hsame.1.trans hstate) (hsame.2.trans hbegun) t ht

end Disciplined

/-! ## Views and moments -/

/-- What an onlooker knows at a stage. -/
def View.Fits (v : View) : Stage → Prop
  | .fresh => v.state = .stopped ∧ v.hasBegun = false
  | .due => v.state = .stopped ∧ v.hasBegun = false ∨ v.state = .backoff
  | .opening => v.state = .connecting ∧ v.asked = 0 ∧ v.answers = []
  | .waiting => v.state = .connecting ∧ v.asked = 1 ∧ v.answers = []
  | .taking _ _ => v.state = .streaming
  | .sorting _ _ _ => v.state = .streaming
  | .ended _ => v.state = .streaming ∨ v.state = .connecting ∧ v.asked = 1
      ∧ ∃ status, v.answers = [status] ∧ opensStream status = false
  | .pausing => v.state = .backoff
  | .over => v.state = .stopped ∧ v.hasBegun = true

/-- An onlooker knows the state of a worker, whether it is cancelled, and what its stage says. -/
structure Knows (v : View) (μ : Moment σ) : Prop where
  state : v.state = μ.feed.worker.state
  isCancelled : v.isCancelled = μ.isCancelled
  fits : v.Fits μ.stage

/-- While connecting, no answer of success is left unheeded. -/
theorem Knows.unheeded {v : View} {μ : Moment σ} (h : Knows v μ) (hstate : v.state = .connecting) :
    ∀ a ∈ v.answers, opensStream a = false := by
  have hfits := h.fits
  cases hstage : μ.stage with
  | ended record =>
      rw [hstage] at hfits
      rcases hfits with hstreaming | ⟨-, -, status, hone, hopens⟩
      · simp [hstate] at hstreaming
      · simpa [hone] using hopens
  | _ => simp_all [View.Fits]

/-- A worker shows signs that may follow, and the onlooker knows where it is after them. -/
structure Keeps (v : View) (shown : List Sign × Moment σ) : Prop where
  disciplined : Disciplined v shown.1
  knows : Knows (v.after shown.1) shown.2

theorem Knows.keeps_nil {v : View} {μ : Moment σ} (h : Knows v μ) : Keeps v ([], μ) :=
  ⟨trivial, h⟩

/-- Nothing but notices, and the state stays. -/
theorem Knows.keeps_noticed {v : View} {μ μ' : Moment σ} (h : Knows v μ)
    (notices : List (Notice Message)) (hstate : μ'.feed.worker.state = μ.feed.worker.state)
    (hcancelled : μ'.isCancelled = μ.isCancelled) (hfits : v.Fits μ'.stage) :
    Keeps v (notices.map .noticed, μ') := by
  refine ⟨Disciplined.noticed v notices, ?_⟩
  rw [View.after_noticed]
  exact ⟨h.state.trans hstate.symm, h.isCancelled.trans hcancelled.symm, hfits⟩

/-- Only the stage changes. -/
theorem Knows.keeps_move {v : View} {μ μ' : Moment σ} (h : Knows v μ)
    (hstate : μ'.feed.worker.state = μ.feed.worker.state)
    (hcancelled : μ'.isCancelled = μ.isCancelled) (hfits : v.Fits μ'.stage) : Keeps v ([], μ') :=
  h.keeps_noticed [] hstate hcancelled hfits

/-! ## Turns -/

section Turns

variable {v : View} {μ : Moment σ}

theorem Knows.keeps_stop (h : Knows v μ) (hcancelled : μ.isCancelled = true)
    (halive : μ.stage ≠ .over) : Keeps v μ.stop := by
  have hfits := h.fits
  have hlive : v.state = .stopped → v.hasBegun = false := by
    intro hstate
    cases hstage : μ.stage <;> simp_all [View.Fits]
  refine ⟨⟨.stopped (h.isCancelled.trans hcancelled) hlive h.unheeded, Disciplined.noticed _ _⟩, ?_⟩
  rw [Moment.stop, View.after_cons, View.after_noticed]
  exact ⟨rfl, h.isCancelled, rfl, rfl⟩

theorem Knows.keeps_giveUp (h : Knows v μ) (hcancelled : μ.isCancelled = true)
    (hheeds : μ.heeds = true) : Keeps v μ.giveUp := by
  have halive : μ.stage ≠ .over := by
    intro hover
    simp [Moment.heeds, hover] at hheeds
  have hstop := h.keeps_stop hcancelled halive
  unfold Moment.giveUp
  split
  · exact ⟨⟨.noticed _, hstop.disciplined⟩, hstop.knows⟩
  · exact hstop

theorem Knows.keeps_takeItem (h : Knows v μ) (hstate : v.state = .streaming)
    (item : Except LogRecord String) (items : List (Except LogRecord String)) (hasEnded : Bool) :
    Keeps v (μ.takeItem item items hasEnded) := by
  unfold Moment.takeItem
  split
  · exact h.keeps_noticed [_] rfl rfl hstate
  · dsimp only
    split
    · exact h.keeps_move rfl rfl hstate
    · exact h.keeps_move rfl rfl hstate

theorem Knows.keeps_goOn (h : Knows v μ) : Keeps v μ.goOn := by
  have hfits := h.fits
  unfold Moment.goOn
  split
  · rename_i hstage
    rw [hstage] at hfits
    exact h.keeps_noticed [_] rfl rfl (.inl hfits)
  · rename_i hstage
    rw [hstage] at hfits
    exact ⟨⟨.connecting hfits, trivial⟩, rfl, h.isCancelled, rfl, rfl, rfl⟩
  · rename_i hstage
    rw [hstage] at hfits
    obtain ⟨hconnecting, hasked, hanswers⟩ := hfits
    exact ⟨⟨.asked hconnecting hasked, trivial⟩, h.state, h.isCancelled, hconnecting,
      congrArg (· + 1) hasked, hanswers⟩
  · rename_i hstage
    rw [hstage] at hfits
    exact h.keeps_move rfl rfl (.inl hfits)
  · rename_i hstage
    rw [hstage] at hfits
    exact h.keeps_takeItem hfits _ _ _
  · rename_i record hstage
    rw [hstage] at hfits
    have hpause : Follows v (.entered .backoff) := by
      rcases hfits with hstreaming | ⟨hconnecting, hasked, status, hanswers, hopens⟩
      · exact .pauseEnded hstreaming
      · exact .pauseRefused hconnecting hasked hanswers hopens
    exact ⟨⟨.noticed _, hpause, trivial⟩, rfl, h.isCancelled, rfl⟩
  · exact h.keeps_nil

theorem Knows.keeps_hear (h : Knows v μ) (hstage : μ.stage = .waiting) (status : Option Nat) :
    Keeps v (μ.hear status) := by
  have hfits := h.fits
  rw [hstage] at hfits
  obtain ⟨hconnecting, hasked, hanswers⟩ := hfits
  have hanswered : Follows v (.answered status) := .answered status hconnecting hasked hanswers
  have hone : (v.see (.answered status)).answers = [status] := by simp [View.see, hanswers]
  unfold Moment.hear
  split
  · rename_i hopens
    exact ⟨⟨hanswered, .streaming hconnecting hasked hone hopens, .noticed _, trivial⟩, rfl,
      h.isCancelled, rfl⟩
  · rename_i hopens
    exact ⟨⟨hanswered, trivial⟩, h.state, h.isCancelled, .inr ⟨hconnecting, hasked, status, hone,
      Bool.eq_false_iff.2 hopens⟩⟩

theorem Knows.keeps_sort (h : Knows v μ) (hstate : v.state = .streaming)
    (resolver : Event.Resolver σ) (payload : String) (items : List (Except LogRecord String))
    (hasEnded : Bool) : Keeps v (μ.sort resolver payload items hasEnded) := by
  have hrecords (log : List LogRecord) :
      (log.map fun r => Sign.noticed (.logged r)) = (log.map Notice.logged).map .noticed :=
    (List.map_map ..).symm
  unfold Moment.sort
  dsimp only
  rw [hrecords]
  split
  · exact h.keeps_noticed _ rfl rfl hstate
  · rename_i message _
    refine ⟨(Disciplined.noticed _ _).append ?_, ?_⟩
    · rw [View.after_noticed]
      exact ⟨.published message hstate, Disciplined.noticed _ _⟩
    · rw [View.after_append, View.after_noticed, View.after_cons, View.after_noticed]
      exact ⟨h.state, h.isCancelled, hstate⟩

/-- **A turn keeps to the discipline.** -/
theorem Knows.keeps_step (h : Knows v μ) (resolver : Event.Resolver σ) (t : Turn σ) :
    Keeps v (μ.step resolver t) := by
  have hfits := h.fits
  unfold Moment.step
  split
  · -- A cancellation is shown, and nothing else changes.
    refine ⟨⟨.cancelled, trivial⟩, h.state, rfl, ?_⟩
    cases hstage : μ.stage <;> simpa [hstage, View.Fits, View.see] using hfits
  · exact h.keeps_move rfl rfl hfits
  · split
    · rename_i hgives
      rw [Bool.and_eq_true] at hgives
      exact h.keeps_giveUp hgives.1 hgives.2
    · exact h.keeps_goOn
  · rename_i hstage
    exact h.keeps_hear hstage _
  · rename_i hstage
    rw [hstage] at hfits
    exact h.keeps_move rfl rfl hfits
  · rename_i hstage
    rw [hstage] at hfits
    exact h.keeps_move rfl rfl hfits
  · rename_i hstage
    rw [hstage] at hfits
    exact h.keeps_move rfl rfl (.inl hfits)
  · rename_i hstage
    rw [hstage] at hfits
    exact h.keeps_sort hfits _ _ _ _
  · rename_i hstage
    rw [hstage] at hfits
    split
    · exact h.keeps_nil
    · exact h.keeps_move rfl rfl (.inr hfits)
  · exact h.keeps_nil

/-- Turns keep to the discipline, one after another. -/
theorem Knows.keeps_course (h : Knows v μ) (resolver : Event.Resolver σ) (ts : List (Turn σ)) :
    Keeps v (μ.course resolver ts) := by
  induction ts generalizing v μ with
  | nil => exact h.keeps_nil
  | cons t ts ih =>
      have hstep := h.keeps_step resolver t
      have hrest := ih hstep.knows
      refine ⟨hstep.disciplined.append hrest.disciplined, ?_⟩
      rw [Moment.course, View.after_append]
      exact hrest.knows

end Turns

end Messenger.Stream
