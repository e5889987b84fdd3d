import Messenger.Proofs.Stream.Feed

set_option autoImplicit false

/-! # A feed among others

While a worker goes through its occurrences, others register and remove listeners. A feed is read
here as a program: `Feed.Yields` says of some occurrences what they hand to a handle that stays
registered, from one state of the worker to the next, whatever others do between them. Such
statements hold of single occurrences (`Feed.yields_of_step`) and compose (`Feed.Yields.append`). -/

namespace Messenger.Stream

open Registry

variable {σ : Type}

/-! ## Happenings -/

/-- What happens around a feed: something to its worker, or something that others do with the
registry. -/
inductive Happening where
  | worker (o : Occurrence)
  | others (o : Operation Message)

/-- The occurrence of a happening, if it concerns the worker. -/
def Happening.occurrence? : Happening → Option Occurrence
  | .worker o => some o
  | .others _ => none

/-- Whether a happening leaves publishing to the worker and forgets nothing. -/
def Happening.isBeside : Happening → Bool
  | .worker _ => true
  | .others o => o.isBeside

/-- The occurrences among some happenings. -/
def occurrences (hs : List Happening) : List Occurrence := hs.filterMap Happening.occurrence?

namespace Feed

variable (resolver : Event.Resolver σ)

/-- What can be seen of a happening, and the feed after it. -/
def happen : Happening → Feed σ → List (Notice Message) × Feed σ
  | .worker o, f => f.step resolver o
  | .others o, f => ((o.apply f.registry).1, { f with registry := (o.apply f.registry).2 })

/-- What can be seen of some happenings in turn, and the feed after them. -/
def live : List Happening → Feed σ → List (Notice Message) × Feed σ
  | [], f => ([], f)
  | h :: hs, f =>
    let (notices, f) := f.happen resolver h
    let (more, f) := live hs f
    (notices ++ more, f)

theorem live_append (hs gs : List Happening) (f : Feed σ) :
    f.live resolver (hs ++ gs)
      = ((f.live resolver hs).1 ++ ((f.live resolver hs).2.live resolver gs).1,
          ((f.live resolver hs).2.live resolver gs).2) := by
  induction hs generalizing f with
  | nil => rfl
  | cons h hs ih => simp only [List.cons_append, live, ih, List.append_assoc]

/-- A handle is registered at every moment. -/
def Stays (id : ListenerId) (hs : List Happening) (f : Feed σ) : Prop :=
  ∀ past, past <+: hs → id ∈ ids (f.live resolver past).2.registry.registrations

variable {resolver} {id : ListenerId}

theorem Stays.registered {hs : List Happening} {f : Feed σ} (h : f.Stays resolver id hs) :
    id ∈ ids f.registry.registrations := h [] List.nil_prefix

theorem Stays.left {hs gs : List Happening} {f : Feed σ} (h : f.Stays resolver id (hs ++ gs)) :
    f.Stays resolver id hs :=
  fun past hpast => h past (hpast.trans (List.prefix_append hs gs))

theorem Stays.right {hs gs : List Happening} {f : Feed σ} (h : f.Stays resolver id (hs ++ gs)) :
    (f.live resolver hs).2.Stays resolver id gs := by
  intro past hpast
  have hlater := h (hs ++ past) ((List.prefix_append_right_inj hs).2 hpast)
  rw [live_append] at hlater
  exact hlater

theorem stays_nil_iff {f : Feed σ} :
    f.Stays resolver id [] ↔ id ∈ ids f.registry.registrations := by
  refine ⟨Stays.registered, fun h past hpast => ?_⟩
  rw [List.prefix_nil.1 hpast]
  exact h

theorem stays_cons_iff {h : Happening} {hs : List Happening} {f : Feed σ} :
    f.Stays resolver id (h :: hs)
      ↔ id ∈ ids f.registry.registrations ∧ (f.happen resolver h).2.Stays resolver id hs := by
  constructor
  · intro hall
    have hthen : f.Stays resolver id ([h] ++ hs) := hall
    exact ⟨hall.registered, hthen.right⟩
  · rintro ⟨hnow, hlater⟩ past hpast
    cases past with
    | nil => exact hnow
    | cons g past =>
        obtain ⟨rfl, hrest⟩ := List.cons_prefix_cons.1 hpast
        exact hlater past hrest

/-- Whether a handle is registered at every moment is found by going through the moments once. -/
instance decidableStays : (hs : List Happening) → (f : Feed σ) → Decidable (f.Stays resolver id hs)
  | [], _ => decidable_of_iff _ stays_nil_iff.symm
  | h :: hs, f =>
    have := decidableStays hs (f.happen resolver h).2
    decidable_of_iff _ stays_cons_iff.symm

/-! ## Stretches of occurrences -/

variable (resolver id)

/-- Some occurrences hand `ms` to a handle that stays registered, whatever others do meanwhile, and
take the worker and the resolver from `w` and `s` to `w'` and `s'`. -/
def Yields (os : List Occurrence) (w : Worker) (s : σ) (ms : List Message) (w' : Worker) (s' : σ) :
    Prop :=
  ∀ (hs : List Happening) (f : Feed σ), occurrences hs = os →
    (∀ h ∈ hs, h.isBeside = true) → f.worker = w → f.around = s →
    f.registry.Settled → f.Stays resolver id hs → Hands id f.registry (f.live resolver hs) ms w' s'

variable {resolver id}

theorem Yields.append {os os' : List Occurrence} {w w' w'' : Worker} {s s' s'' : σ}
    {ms more : List Message} (h : Yields resolver id os w s ms w' s')
    (h' : Yields resolver id os' w' s' more w'' s'') :
    Yields resolver id (os ++ os') w s (ms ++ more) w'' s'' := by
  intro hs f hocc hbeside hw hs' hsettled hstays
  -- The happenings fall apart where the occurrences do.
  obtain ⟨xs, ys, rfl, hxs, hys⟩ := List.filterMap_eq_append_iff.1 hocc
  have first := h xs f hxs (fun h hh => hbeside h (List.mem_append_left _ hh)) hw hs' hsettled
    hstays.left
  have second := h' ys _ hys (fun h hh => hbeside h (List.mem_append_right _ hh)) first.worker
    first.around first.settled hstays.right
  rw [live_append]
  exact first.trans second

/-- What others do hands nothing over. -/
theorem yields_nil (w : Worker) (s : σ) : Yields resolver id [] w s [] w s := by
  intro hs
  -- None of the happenings concerns the worker, and others keep a registered handle caught up.
  induction hs with
  | nil =>
      intro f _ _ hw hs hsettled _
      subst hw hs
      exact hands_of_logged hsettled [] f.worker f.around
  | cons h hs ih =>
      intro f hocc hbeside hw hs' hsettled hstays
      cases h with
      | worker o => cases hocc
      | others o =>
          have hrest : f.Stays resolver id ([.others o] ++ hs) := hstays
          have first : Hands id f.registry (f.happen resolver (.others o)) [] w s := by
            refine ⟨hw, hs', hsettled.apply o, fun _ => hstays.registered, fun _ => ?_⟩
            exact hsettled.handedTo_beside hstays.registered (hbeside _ List.mem_cons_self)
          have rest := ih (f.happen resolver (.others o)).2 hocc
            (fun p hp => hbeside p (List.mem_cons_of_mem _ hp)) first.worker first.around
            first.settled hrest.right
          exact first.trans rest

/-- One occurrence. What others do before and after it hands nothing over. -/
theorem yields_of_step {o : Occurrence} {w w' : Worker} {s s' : σ} {ms : List Message}
    (hstep : ∀ f : Feed σ, f.worker = w → f.around = s → f.registry.Settled →
      Hands id f.registry (f.step resolver o) ms w' s') :
    Yields resolver id [o] w s ms w' s' := by
  intro hs f hocc hbeside hw hs' hsettled hstays
  obtain ⟨xs, h, ys, rfl, hxs, hh, hys⟩ := List.filterMap_eq_cons_iff.1 hocc
  obtain ⟨p⟩ | ⟨p⟩ := h
  · obtain rfl := Option.some.inj hh
    have hquiet : occurrences xs = [] := List.filterMap_eq_nil_iff.2 hxs
    have before := yields_nil w s xs f hquiet
      (fun q hq => hbeside q (List.mem_append_left _ hq)) hw hs' hsettled hstays.left
    have now := hstep _ before.worker before.around before.settled
    have hthen : (f.live resolver xs).2.Stays resolver id ([.worker p] ++ ys) := hstays.right
    have hlater : ((f.live resolver xs).2.step resolver p).2.Stays resolver id ys := hthen.right
    have after := yields_nil w' s' ys _ hys
      (fun q hq => hbeside q (List.mem_append_right _ (List.mem_cons_of_mem _ hq)))
      now.worker now.around now.settled hlater
    rw [live_append]
    have hall := before.trans (now.trans after)
    rw [List.nil_append, List.append_nil] at hall
    exact hall
  · cases hh

end Feed
end Messenger.Stream
