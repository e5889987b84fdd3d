import Messenger.Proofs.Stream.Discipline
import Messenger.Proofs.Stream.Run
import Messenger.Proofs.Stream.Whole

set_option autoImplicit false

/-! # Two accounts of a worker

Occurrences and turns tell of the same worker. Whatever occurrences do to a feed, and whatever the
loop of connections does to it, some turns do as well, showing the same notices (`reaches_steps`,
`reaches_run`). Conversely, turns without a cancellation and without others do what some occurrences
do, up to what is still in hand (`proceeds_course`). So what holds of all turns holds of the
worker, and more is said, since turns can also be cut short between two lines. -/

namespace Messenger.Stream

variable {σ : Type}

/-- What others see of the signs of a worker. -/
def noticesOf (signs : List Sign) : List (Notice Message) :=
  signs.filterMap fun
    | .noticed n => some n
    | _ => none

theorem noticesOf_append (signs more : List Sign) :
    noticesOf (signs ++ more) = noticesOf signs ++ noticesOf more := List.filterMap_append

@[simp] theorem noticesOf_noticed (notices : List (Notice Message)) :
    noticesOf (notices.map .noticed) = notices := by
  rw [noticesOf, List.filterMap_map]
  exact List.filterMap_some

@[simp] theorem noticesOf_records (log : List LogRecord) :
    noticesOf (log.map fun r => .noticed (.logged r)) = log.map .logged := by
  rw [← noticesOf_noticed (log.map .logged), List.map_map]
  rfl

namespace Moment

variable (resolver : Event.Resolver σ)

/-- Sorting a payload is taking it. -/
theorem sort_eq (payload : String) (items : List (Except LogRecord String)) (hasEnded : Bool)
    (μ : Moment σ) :
    noticesOf (μ.sort resolver payload items hasEnded).1 = (μ.feed.takePayload resolver payload).1
      ∧ (μ.sort resolver payload items hasEnded).2
        = μ.move (.taking items hasEnded) (μ.feed.takePayload resolver payload).2 := by
  unfold sort Feed.takePayload
  cases hclass : Event.classifyText resolver payload μ.feed.around with
  | mk classification rest =>
      cases classification with
      | error reason => exact ⟨noticesOf_records _, rfl⟩
      | ok message =>
          refine ⟨?_, rfl⟩
          simp only [noticesOf_append, noticesOf_records]
          exact congrArg (rest.1.map Notice.logged ++ ·) (noticesOf_noticed _)

/-! ## Turns for occurrences -/

/-- Some turns lead from one moment to another and show some notices. -/
def Reaches (μ : Moment σ) (notices : List (Notice Message)) (μ' : Moment σ) : Prop :=
  ∃ ts, (μ.course resolver ts).2 = μ' ∧ noticesOf (μ.course resolver ts).1 = notices

variable {resolver}

theorem Reaches.refl (μ : Moment σ) : Reaches resolver μ [] μ := ⟨[], rfl, rfl⟩

/-- One turn, then others. -/
theorem Reaches.step {μ μ' : Moment σ} {notices more : List (Notice Message)} (t : Turn σ)
    (hnotices : noticesOf (μ.step resolver t).1 = notices)
    (h : Reaches resolver (μ.step resolver t).2 more μ') :
    Reaches resolver μ (notices ++ more) μ' := by
  obtain ⟨ts, hlast, hmore⟩ := h
  refine ⟨t :: ts, hlast, ?_⟩
  rw [course, noticesOf_append, hnotices, hmore]

/-- One turn that shows nothing to others, then more. -/
theorem Reaches.quiet {μ μ' : Moment σ} {more : List (Notice Message)} (t : Turn σ)
    (hnotices : noticesOf (μ.step resolver t).1 = [])
    (h : Reaches resolver (μ.step resolver t).2 more μ') : Reaches resolver μ more μ' :=
  .step t hnotices h

theorem Reaches.trans {μ μ' μ'' : Moment σ} {notices more : List (Notice Message)}
    (h : Reaches resolver μ notices μ') (h' : Reaches resolver μ' more μ'') :
    Reaches resolver μ (notices ++ more) μ'' := by
  obtain ⟨ts, rfl, rfl⟩ := h
  induction ts generalizing μ with
  | nil => exact h'
  | cons t ts ih =>
      rw [course, noticesOf_append, List.append_assoc]
      exact .step t rfl (ih h')

/-- Lines are taken by turns. -/
theorem reaches_takeLines (items : List (Except LogRecord String)) (hasEnded : Bool) (f : Feed σ)
    (isCancelled : Bool) :
    Reaches resolver ⟨f, .taking items hasEnded, isCancelled⟩ (f.takeLines resolver items).1
      ⟨(f.takeLines resolver items).2, .taking [] hasEnded, isCancelled⟩ := by
  induction items generalizing f with
  | nil => exact .refl _
  | cons item items ih =>
      rw [Feed.takeLines]
      cases item with
      | error record =>
          refine .step .go ?_ ?_
          · simp [Moment.step, heeds, goOn, takeItem, noticesOf, Feed.takeLine]
          · simpa [Moment.step, heeds, goOn, takeItem, move, Feed.takeLine] using ih f
      | ok line =>
          cases hfeed : f.worker.framer.feed line with
          | mk payload framer =>
              cases payload with
              | none =>
                  refine .step .go ?_ ?_
                  · simp [Moment.step, heeds, goOn, takeItem, noticesOf, Feed.takeLine, hfeed]
                  · simpa [Moment.step, heeds, goOn, takeItem, move, Feed.takeLine, hfeed]
                      using ih { f with worker := { f.worker with framer } }
              | some payload =>
                  let g : Feed σ := { f with worker := { f.worker with framer } }
                  have hline : f.takeLine resolver (.ok line) = g.takePayload resolver payload := by
                    simp only [Feed.takeLine, hfeed]
                    rfl
                  have hgo : Moment.step resolver .go ⟨f, .taking (.ok line :: items) hasEnded,
                      isCancelled⟩ = ([], ⟨g, .sorting payload items hasEnded, isCancelled⟩) := by
                    simp [Moment.step, heeds, goOn, takeItem, move, hfeed, g]
                  obtain ⟨hnotices, hnext⟩ := sort_eq resolver payload items hasEnded
                    ⟨g, .sorting payload items hasEnded, isCancelled⟩
                  refine .quiet .go (by rw [hgo]; rfl) ?_
                  rw [hgo, hline]
                  refine .step .found hnotices ?_
                  change Reaches resolver (sort resolver payload items hasEnded _).2 _ _
                  rw [hnext]
                  exact ih _

end Moment

namespace Feed

open Moment (Reaches)

variable (resolver : Event.Resolver σ)

/-- The stage at which a worker in a state waits for its next occurrence. -/
def stageOf : WorkerState → Stage
  | .stopped => .fresh
  | .connecting => .waiting
  | .streaming => .taking [] false
  | .backoff => .pausing

/-- A worker that waits for its next occurrence. It was cancelled if it is over. -/
def atRest (f : Feed σ) : Moment σ where
  feed := f
  stage := if f.worker.isOver then .over else stageOf f.worker.state
  isCancelled := f.worker.isOver

theorem atRest_of_streaming {g : Feed σ} (hover : g.worker.isOver = false)
    (hstate : g.worker.state = .streaming) : g.atRest = ⟨g, .taking [] false, false⟩ := by
  simp [atRest, hover, hstate, stageOf]

/-- A chunk is taken by turns. -/
theorem reaches_received {f : Feed σ} (hover : f.worker.isOver = false)
    (hstate : f.worker.state = .streaming) (chunk : List UInt8) :
    Reaches resolver f.atRest (f.step resolver (.received chunk)).1
      (f.step resolver (.received chunk)).2.atRest := by
  let items := (f.worker.splitter.push chunk).1
  let g : Feed σ :=
    { f with worker := { f.worker with splitter := (f.worker.splitter.push chunk).2 } }
  have hstep : f.step resolver (.received chunk) = g.takeLines resolver items := by
    unfold step
    rw [if_neg (by simp [hover]), hstate]
  obtain ⟨hover', hstate'⟩ := takeLines_state resolver items g
  rw [hstep, atRest_of_streaming hover hstate,
    atRest_of_streaming (hover'.trans hover) (hstate'.trans hstate)]
  exact .quiet (.chunk chunk) rfl (Moment.reaches_takeLines items false g false)

/-- The end of a stream is taken by turns. -/
theorem reaches_closed {f : Feed σ} (hover : f.worker.isOver = false)
    (hstate : f.worker.state = .streaming) :
    Reaches resolver f.atRest (f.step resolver .closed).1 (f.step resolver .closed).2.atRest := by
  let items := f.worker.splitter.finish.toList.map (Except.ok : String → Except LogRecord String)
  let g := (f.takeLines resolver items).2
  have hstep : f.step resolver .closed
      = ((f.takeLines resolver items).1 ++ [.logged closeRecord], g.moveTo .backoff) := by
    unfold step
    rw [if_neg (by simp [hover]), hstate]
    rfl
  have hpause : Reaches resolver ⟨g, .taking [] true, false⟩ [.logged closeRecord]
      (g.moveTo .backoff).atRest := by
    have hover' : g.worker.isOver = false := (takeLines_state resolver items f).1.trans hover
    have hrest : (g.moveTo .backoff).atRest = ⟨g.moveTo .backoff, .pausing, false⟩ := by
      simp [atRest, moveTo, hover', stageOf]
    rw [hrest]
    exact ⟨[.go, .go], rfl, rfl⟩
  rw [hstep, atRest_of_streaming hover hstate]
  exact .quiet .close rfl ((Moment.reaches_takeLines items true f false).trans hpause)

/-- An answer is taken by turns. -/
theorem reaches_opened {f : Feed σ} (hover : f.worker.isOver = false)
    (hstate : f.worker.state = .connecting) (status : Nat) :
    Reaches resolver f.atRest (f.step resolver (.opened status)).1
      (f.step resolver (.opened status)).2.atRest := by
  have hrest : f.atRest = ⟨f, .waiting, false⟩ := by simp [atRest, hover, hstate, stageOf]
  unfold step
  rw [if_neg (by simp [hover]), hstate, hrest]
  by_cases hstatus : isSuccessStatus status = true
  · refine ⟨[.answer (some status)], ?_, ?_⟩ <;>
      simp [Moment.course, Moment.step, Moment.hear, Moment.move, opensStream, hstatus, atRest,
        hover, stageOf, noticesOf]
  · refine ⟨[.answer (some status), .go], ?_, ?_⟩ <;>
      simp [Moment.course, Moment.step, Moment.hear, Moment.move, Moment.goOn, opensStream, hstatus,
        atRest, hover, stageOf, noticesOf, pause, moveTo, failed, failureRecord]

/-- **Turns do what an occurrence does.** -/
theorem reaches_step (o : Occurrence) (f : Feed σ) :
    Reaches resolver f.atRest (f.step resolver o).1 (f.step resolver o).2.atRest := by
  obtain ⟨⟨address, state, isOver, splitter, framer⟩, registry, around⟩ := f
  cases isOver with
  | true => exact .refl _
  | false =>
      cases state with
      | stopped =>
          cases o with
          | due => exact ⟨[.go, .go, .go], rfl, rfl⟩
          | cancelled => exact ⟨[.go, .cancel, .go], rfl, rfl⟩
          | _ => exact .refl _
      | connecting =>
          cases o with
          | refused => exact ⟨[.answer none, .go], rfl, rfl⟩
          | opened status => exact reaches_opened resolver rfl rfl status
          | cancelled => exact ⟨[.cancel, .go], rfl, rfl⟩
          | _ => exact .refl _
      | streaming =>
          cases o with
          | received chunk => exact reaches_received resolver rfl rfl chunk
          | closed => exact reaches_closed resolver rfl rfl
          | broken => exact ⟨[.breakOff, .go], rfl, rfl⟩
          | cancelled => exact ⟨[.cancel, .go], rfl, rfl⟩
          | _ => exact .refl _
      | backoff =>
          cases o with
          | due => exact ⟨[.wake, .go, .go], rfl, rfl⟩
          | cancelled => exact ⟨[.cancel, .go], rfl, rfl⟩
          | _ => exact .refl _

/-- Turns do what occurrences do. -/
theorem reaches_steps (os : List Occurrence) (f : Feed σ) :
    Reaches resolver f.atRest (f.steps resolver os).1 (f.steps resolver os).2.atRest := by
  induction os generalizing f with
  | nil => exact .refl _
  | cons o os ih => exact (reaches_step resolver o f).trans (ih (f.step resolver o).2)

/-- Turns do what the loop of connections does, whatever answers there are. -/
theorem reaches_run (listen : σ → Connection × σ) (attempts : Nat) (f : Feed σ) :
    Reaches resolver f.atRest (f.run listen resolver attempts).1
      (f.run listen resolver attempts).2.atRest := by
  induction attempts generalizing f with
  | zero => exact .refl _
  | succ attempts ih =>
      by_cases hdue : f.isDue = true
      · have hconnect := reaches_step resolver .due f
        have hstep : (f.step resolver .due).2 = f.moveTo .connecting := by
          rw [step_due ((isDue_iff f).1 hdue)]
        rw [hstep] at hconnect
        -- Being asked changes the state of the daemon.
        have hasked :
            Reaches resolver (f.moveTo .connecting).atRest [] (f.awaiting listen).atRest :=
          ⟨[.others f.registry (listen f.around).2], rfl, rfl⟩
        have hone := reaches_steps resolver (listen f.around).1.occurrences
          (f.awaiting listen)
        rw [run_succ listen attempts hdue, List.append_assoc]
        exact hconnect.trans (hasked.trans (hone.trans (ih (f.afterOne listen resolver).2)))
      · rw [run, if_neg hdue]
        exact .refl _

end Feed

/-! ## Occurrences for turns -/

/-- Whether a turn is one of the worker and its connection: no cancellation, and nothing that others
do. -/
def Turn.isOwn : Turn σ → Bool
  | .cancel | .others .. => false
  | _ => true

namespace Moment

variable (resolver : Event.Resolver σ)

/-- The feed when everything in hand is done. -/
def settle (μ : Moment σ) : Feed σ :=
  match μ.stage with
  | .taking items hasEnded => paused hasEnded (μ.feed.takeLines resolver items).2
  | .sorting payload items hasEnded =>
    paused hasEnded ((μ.feed.takePayload resolver payload).2.takeLines resolver items).2
  | .ended _ => μ.feed.moveTo .backoff
  | _ => μ.feed
where
  paused (hasEnded : Bool) (f : Feed σ) : Feed σ := if hasEnded then f.moveTo .backoff else f

/-- From one moment to the next, the worker does what some occurrences do, and is still alive. -/
structure Proceeds (μ μ' : Moment σ) : Prop where
  settle : ∃ os, μ'.settle resolver = ((μ.settle resolver).steps resolver os).2
  isOver : μ'.feed.worker.isOver = false
  isCancelled : μ'.isCancelled = false

variable {resolver} {v : View} {μ μ' : Moment σ}

theorem Proceeds.trans {μ'' : Moment σ} (h : Proceeds resolver μ μ')
    (h' : Proceeds resolver μ' μ'') : Proceeds resolver μ μ'' := by
  obtain ⟨os, hos⟩ := h.settle
  obtain ⟨os', hos'⟩ := h'.settle
  refine ⟨⟨os ++ os', ?_⟩, h'.isOver, h'.isCancelled⟩
  rw [hos', hos, Feed.steps_append]

/-- What is in hand stays the same. -/
theorem proceeds_of_settle_eq (hover : μ'.feed.worker.isOver = false)
    (hcancelled : μ'.isCancelled = false) (h : μ'.settle resolver = μ.settle resolver) :
    Proceeds resolver μ μ' := ⟨⟨[], h⟩, hover, hcancelled⟩

/-- What is in hand is due to one occurrence. -/
theorem proceeds_of_step (hover : μ'.feed.worker.isOver = false)
    (hcancelled : μ'.isCancelled = false) (o : Occurrence)
    (h : μ'.settle resolver = ((μ.settle resolver).step resolver o).2) :
    Proceeds resolver μ μ' := ⟨⟨[o], h⟩, hover, hcancelled⟩

theorem takePayload_worker (payload : String) (f : Feed σ) :
    (f.takePayload resolver payload).2.worker = f.worker := by
  unfold Feed.takePayload
  rcases Event.classifyText resolver payload f.around with ⟨classification, log, around⟩
  cases classification <;> rfl

section Own

variable (h : Knows v μ) (hover : μ.feed.worker.isOver = false) (hcancelled : μ.isCancelled = false)
include hover hcancelled

theorem proceeds_takeItem (item : Except LogRecord String) (items : List (Except LogRecord String))
    (hasEnded : Bool) (hstage : μ.stage = .taking (item :: items) hasEnded) :
    Proceeds resolver μ (μ.takeItem item items hasEnded).2 := by
  have hnow : μ.settle resolver
      = settle.paused hasEnded (μ.feed.takeLines resolver (item :: items)).2 := by
    rw [settle, hstage]
  cases item with
  | error record =>
      refine proceeds_of_settle_eq hover hcancelled ?_
      rw [hnow]
      rfl
  | ok line =>
      rcases hfeed : μ.feed.worker.framer.feed line with ⟨payload, framer⟩
      rw [Feed.takeLines, Feed.takeLine, hfeed] at hnow
      simp only [takeItem, hfeed]
      cases payload with
      | none => exact proceeds_of_settle_eq hover hcancelled hnow.symm
      | some payload => exact proceeds_of_settle_eq hover hcancelled hnow.symm

include h

theorem proceeds_goOn : Proceeds resolver μ μ.goOn.2 := by
  have hfits := h.fits
  have hstate := h.state
  unfold goOn
  split
  case h_1 hstage | h_3 hstage =>
    refine proceeds_of_settle_eq hover hcancelled ?_
    rw [settle, settle, hstage]
    rfl
  case h_2 hstage =>
    rw [hstage] at hfits
    have hdue : μ.feed.worker.IsDue :=
      ⟨hover, hfits.imp (fun hfresh => hstate ▸ hfresh.1) fun hpaused => hstate ▸ hpaused⟩
    have hnow : μ.settle resolver = μ.feed := by rw [settle, hstage]
    refine proceeds_of_step hover hcancelled .due ?_
    rw [hnow, Feed.step_due hdue]
    rfl
  case h_4 hstage =>
    refine proceeds_of_settle_eq hover hcancelled ?_
    rw [settle, settle, hstage]
    rfl
  case h_5 item items hasEnded hstage =>
    exact proceeds_takeItem hover hcancelled item items hasEnded hstage
  case h_6 record hstage =>
    refine proceeds_of_settle_eq hover hcancelled ?_
    rw [settle, settle, hstage]
    rfl
  case h_7 => exact proceeds_of_settle_eq hover hcancelled rfl

theorem proceeds_hear (hstage : μ.stage = .waiting) (status : Option Nat) :
    Proceeds resolver μ (μ.hear status).2 := by
  have hfits := h.fits
  rw [hstage] at hfits
  have hstate : μ.feed.worker.state = .connecting := h.state.symm.trans hfits.1
  have hnow : μ.settle resolver = μ.feed := by rw [settle, hstage]
  cases status with
  | none =>
      refine proceeds_of_step hover hcancelled .refused ?_
      rw [hnow]
      unfold Feed.step
      rw [if_neg (by simp [hover]), hstate]
      rfl
  | some status =>
      have hstep : (μ.feed.step resolver (.opened status)).2
          = (μ.hear (some status)).2.settle resolver := by
        unfold Feed.step
        rw [if_neg (by simp [hover]), hstate]
        by_cases hstatus : isSuccessStatus status = true
        · simp [hear, opensStream, hstatus, settle, settle.paused, move, Feed.takeLines]
        · simp [hear, opensStream, hstatus, settle, move, Feed.pause]
      refine ⟨⟨[.opened status], ?_⟩, ?_, ?_⟩
      · rw [hnow, ← hstep]
        rfl
      all_goals
        unfold hear
        split <;> assumption

/-- **A turn without a cancellation does what occurrences do.** -/
theorem proceeds_step {t : Turn σ} (ht : t.isOwn = true) :
    Proceeds resolver μ (μ.step resolver t).2 := by
  have hfits := h.fits
  have hread (hstage : μ.stage = .taking [] false) : μ.feed.worker.state = .streaming
        ∧ μ.settle resolver = μ.feed := by
    rw [hstage] at hfits
    exact ⟨h.state.symm.trans hfits, by rw [settle, hstage]; rfl⟩
  unfold step
  split
  · cases ht
  · cases ht
  · rw [hcancelled, Bool.false_and, if_neg Bool.false_ne_true]
    exact proceeds_goOn h hover hcancelled
  · rename_i hstage
    exact proceeds_hear h hover hcancelled hstage _
  · rename_i bytes hstage
    obtain ⟨hstate, hnow⟩ := hread hstage
    refine proceeds_of_step hover hcancelled (.received bytes) ?_
    rw [hnow]
    unfold Feed.step
    rw [if_neg (by simp [hover]), hstate]
    rfl
  · rename_i hstage
    obtain ⟨hstate, hnow⟩ := hread hstage
    refine proceeds_of_step hover hcancelled .closed ?_
    rw [hnow]
    unfold Feed.step
    rw [if_neg (by simp [hover]), hstate]
    rfl
  · rename_i hstage
    obtain ⟨hstate, hnow⟩ := hread hstage
    refine proceeds_of_step hover hcancelled .broken ?_
    rw [hnow]
    unfold Feed.step
    rw [if_neg (by simp [hover]), hstate]
    rfl
  · rename_i payload items hasEnded hstage
    have hnext := (sort_eq resolver payload items hasEnded μ).2
    rw [hnext]
    refine proceeds_of_settle_eq ?_ hcancelled ?_
    · change (μ.feed.takePayload resolver payload).2.worker.isOver = false
      rw [takePayload_worker]
      exact hover
    · rw [settle, settle, hstage]
      rfl
  · rename_i hstage
    rw [hcancelled, if_neg Bool.false_ne_true]
    refine proceeds_of_settle_eq hover hcancelled ?_
    rw [settle, settle, hstage]
    rfl
  · exact proceeds_of_settle_eq hover hcancelled rfl

/-- Turns without a cancellation do what occurrences do. -/
theorem proceeds_course {ts : List (Turn σ)} (hts : ∀ t ∈ ts, t.isOwn = true) :
    Proceeds resolver μ (μ.course resolver ts).2 := by
  induction ts generalizing v μ with
  | nil => exact proceeds_of_settle_eq hover hcancelled rfl
  | cons t ts ih =>
      have hone : Proceeds resolver μ (μ.step resolver t).2 :=
        proceeds_step h hover hcancelled (hts t (.head _))
      have hknows := (h.keeps_step resolver t).knows
      exact hone.trans (ih hknows hone.isOver hone.isCancelled fun u hu => hts u (.tail _ hu))

end Own

end Moment

/-! ## The discipline of a worker -/

/-- **A worker keeps to its discipline**, however its connections end, whatever others do in the
meantime, and whenever it is cancelled. The signs of any turns follow from those before them; a
worker that has stopped does nothing more, and while it is connecting no answer of success is left
unheeded. The turns are those of the worker: they show the notices of all occurrences and of the
loop of connections, and without a cancellation they do nothing else. -/
theorem keeps_discipline (resolver : Event.Resolver σ) (address : String)
    (registry : Registry Message) (around : σ) :
    let f : Feed σ := ⟨{ address }, registry, around⟩
    (∀ ts : List (Turn σ),
      let signs := (f.atRest.course resolver ts).1
      let μ := (f.atRest.course resolver ts).2
      μ.feed.worker.state = (View.of signs).state
        ∧ (∀ past s later, signs = past ++ s :: later → Follows (View.of past) s)
        ∧ (∀ past later, signs = past ++ .entered .stopped :: later →
            ∀ s ∈ later, s = .cancelled ∨ ∃ n, s = .noticed n)
        ∧ ((View.of signs).state = .connecting →
            ∀ a ∈ (View.of signs).answers, opensStream a = false))
    ∧ (∀ os, f.atRest.Reaches resolver (f.steps resolver os).1 (f.steps resolver os).2.atRest)
    ∧ (∀ listen n, f.atRest.Reaches resolver (f.run listen resolver n).1
        (f.run listen resolver n).2.atRest)
    ∧ ∀ ts : List (Turn σ), (∀ t ∈ ts, t.isOwn = true) →
        ∃ os, (f.atRest.course resolver ts).2.settle resolver = (f.steps resolver os).2 := by
  intro f
  have hnew : Knows {} f.atRest := ⟨rfl, rfl, rfl, rfl⟩
  refine ⟨fun ts => ?_, fun os => f.reaches_steps resolver os,
    fun listen n => f.reaches_run resolver listen n, fun ts hts => ?_⟩
  · obtain ⟨hdisciplined, hknows⟩ := hnew.keeps_course resolver ts
    refine ⟨hknows.state.symm, fun past s later hsigns => ?_, fun past later hsigns => ?_,
      hknows.unheeded⟩
    · rw [hsigns] at hdisciplined
      exact hdisciplined.rest.1
    · rw [hsigns] at hdisciplined
      exact hdisciplined.rest.2.final rfl rfl
  · exact (Moment.proceeds_course hnew rfl rfl hts).settle

end Messenger.Stream
