import Mathlib.Data.List.Forall2
import Messenger.Stream.Worker

set_option autoImplicit false

/-! # What a worker cannot tell

A worker learns of its registry and of what surrounds it only by publishing messages and by looking
titles up. So two workers do the same as long as these give them the same, whatever else may differ
behind them: a relation that publishing, looking up and connecting respect is respected by every
occurrence (`Feed.Respected.step`) and by the loop (`Feed.Respected.run`). -/

namespace Messenger.Stream.Feed

variable {σ τ : Type}

/-- What is behind a worker. -/
abbrev Behind (σ : Type) := Registry Message × σ

/-- What is behind the worker of a feed. -/
def behind (f : Feed σ) : Behind σ := (f.registry, f.around)

/-- Two workers in the same state, with something related behind them. -/
structure Related (Q : Behind σ → Behind τ → Prop) (f : Feed σ) (f' : Feed τ) : Prop where
  worker : f.worker = f'.worker
  behind : Q f.behind f'.behind

/-- Two feeds after something happened, with what could be seen. -/
structure Moved (N : Notice Message → Notice Message → Prop) (Q : Behind σ → Behind τ → Prop)
    (x : List (Notice Message) × Feed σ) (x' : List (Notice Message) × Feed τ) : Prop where
  notices : List.Forall₂ N x.1 x'.1
  feed : Related Q x.2 x'.2

/-- A relation between what is behind two workers that publishing and classifying respect; notices
are related by `N`. -/
structure Respected (N : Notice Message → Notice Message → Prop)
    (Q : Behind σ → Behind τ → Prop) (resolver : Event.Resolver σ)
    (resolver' : Event.Resolver τ) : Prop where
  same : ∀ n, N n n
  publish : ∀ message b b', Q b b' →
    List.Forall₂ N (b.1.publish message).2.1 (b'.1.publish message).2.1
      ∧ Q ((b.1.publish message).2.2, b.2) ((b'.1.publish message).2.2, b'.2)
  classify : ∀ text b b', Q b b' →
    let x := Event.classifyText resolver text b.2
    let x' := Event.classifyText resolver' text b'.2
    x.1 = x'.1 ∧ List.Forall₂ N (x.2.1.map .logged) (x'.2.1.map .logged)
      ∧ Q (b.1, x.2.2) (b'.1, x'.2.2)

variable {N : Notice Message → Notice Message → Prop} {Q : Behind σ → Behind τ → Prop}
variable {resolver : Event.Resolver σ} {resolver' : Event.Resolver τ}

/-- Stretches follow each other. -/
theorem Moved.append {x y : List (Notice Message) × Feed σ} {x' y' : List (Notice Message) × Feed τ}
    (h : Moved N Q x x') (h' : Moved N Q y y') :
    Moved N Q (x.1 ++ y.1, y.2) (x'.1 ++ y'.1, y'.2) where
  notices := List.rel_append h.notices h'.notices
  feed := h'.feed

namespace Respected

/-- The same notices are related. -/
theorem refl (h : Respected N Q resolver resolver') (ns : List (Notice Message)) :
    List.Forall₂ N ns ns :=
  List.forall₂_same.2 fun n _ => h.same n

/-- Two workers make the same move, and nothing behind them changes. -/
theorem moved (h : Respected N Q resolver resolver') {f : Feed σ} {f' : Feed τ}
    (hQ : Related Q f f') (ns : List (Notice Message)) (w : Worker) :
    Moved N Q (ns, { f with worker := w }) (ns, { f' with worker := w }) where
  notices := h.refl ns
  feed := ⟨rfl, hQ.behind⟩

theorem takePayload (h : Respected N Q resolver resolver') {f : Feed σ} {f' : Feed τ}
    (hQ : Related Q f f') (payload : String) :
    Moved N Q (f.takePayload resolver payload) (f'.takePayload resolver' payload) := by
  obtain ⟨hsame, hlog, hbehind⟩ := h.classify payload _ _ hQ.behind
  unfold Feed.takePayload
  rcases hx : Event.classifyText resolver payload f.around with ⟨classification, log, s⟩
  rcases hx' : Event.classifyText resolver' payload f'.around with ⟨classification', log', s'⟩
  simp only [behind, hx, hx'] at hsame hlog hbehind
  subst hsame
  cases classification with
  | error reason => exact ⟨hlog, hQ.worker, hbehind⟩
  | ok message =>
      obtain ⟨hnotices, hpublished⟩ := h.publish message _ _ hbehind
      exact ⟨List.rel_append hlog hnotices, hQ.worker, hpublished⟩

theorem takeLine (h : Respected N Q resolver resolver') {f : Feed σ} {f' : Feed τ}
    (hQ : Related Q f f') (item : Except LogRecord String) :
    Moved N Q (f.takeLine resolver item) (f'.takeLine resolver' item) := by
  cases item with
  | error record => exact ⟨h.refl _, hQ⟩
  | ok line =>
      obtain ⟨w, r, s⟩ := f
      obtain ⟨w', r', s'⟩ := f'
      obtain rfl : w = w' := hQ.worker
      unfold Feed.takeLine
      rcases hfeed : w.framer.feed line with ⟨_ | payload, framer⟩
      · simpa only [hfeed] using h.moved hQ [] _
      · simp only [hfeed]
        have hfed : Related Q ⟨{ w with framer }, r, s⟩ ⟨{ w with framer }, r', s'⟩ :=
          ⟨rfl, hQ.behind⟩
        exact h.takePayload hfed payload

theorem takeLines (h : Respected N Q resolver resolver') (items : List (Except LogRecord String))
    {f : Feed σ} {f' : Feed τ} (hQ : Related Q f f') :
    Moved N Q (f.takeLines resolver items) (f'.takeLines resolver' items) := by
  induction items generalizing f f' with
  | nil => exact ⟨.nil, hQ⟩
  | cons item items ih =>
      have hline := h.takeLine hQ item
      exact hline.append (ih hline.feed)

theorem pause (h : Respected N Q resolver resolver') {f : Feed σ} {f' : Feed τ}
    (hQ : Related Q f f') (notice : Notice Message) :
    Moved N Q (f.pause notice) (f'.pause notice) where
  notices := h.refl _
  feed := ⟨congrArg (fun w => { w with state := .backoff }) hQ.worker, hQ.behind⟩

/-- Whatever happens, two workers do the same. -/
theorem step (h : Respected N Q resolver resolver') (o : Occurrence) {f : Feed σ} {f' : Feed τ}
    (hQ : Related Q f f') : Moved N Q (f.step resolver o) (f'.step resolver' o) := by
  obtain ⟨w, r, s⟩ := f
  obtain ⟨w', r', s'⟩ := f'
  obtain rfl : w = w' := hQ.worker
  have hstay := h.moved hQ [] w
  -- Only lines reach what is behind the workers; all else moves the workers alone.
  unfold Feed.step
  simp only
  split
  · exact hstay
  · split
    · exact h.moved hQ _ _
    · exact h.moved hQ _ _
    · exact h.moved hQ _ _
    · exact h.moved hQ _ _
    · split <;> exact h.moved hQ _ _
    · exact h.takeLines _ ⟨rfl, hQ.behind⟩
    · have hlines := h.takeLines (w.splitter.finish.toList.map .ok) hQ
      exact hlines.append (h.pause hlines.feed _)
    · exact h.moved hQ _ _
    · exact h.moved hQ _ _
    · exact hstay

theorem steps (h : Respected N Q resolver resolver') (os : List Occurrence) {f : Feed σ}
    {f' : Feed τ} (hQ : Related Q f f') :
    Moved N Q (f.steps resolver os) (f'.steps resolver' os) := by
  induction os generalizing f f' with
  | nil => exact ⟨.nil, hQ⟩
  | cons o os ih =>
      have hstep := h.step o hQ
      exact hstep.append (ih hstep.feed)

variable {listen : σ → Connection × σ} {listen' : τ → Connection × τ}

/-- The same connection comes about, and two workers do the same in its course. -/
theorem connection (h : Respected N Q resolver resolver')
    (hlisten : ∀ b b', Q b b' → (listen b.2).1 = (listen' b'.2).1
      ∧ Q (b.1, (listen b.2).2) (b'.1, (listen' b'.2).2))
    {f : Feed σ} {f' : Feed τ} (hQ : Related Q f f') :
    Moved N Q
      (Feed.steps resolver (listen f.around).1.occurrences
        { f with around := (listen f.around).2 })
      (Feed.steps resolver' (listen' f'.around).1.occurrences
        { f' with around := (listen' f'.around).2 }) := by
  obtain ⟨hsame, hbehind⟩ := hlisten _ _ hQ.behind
  have hconnection : (listen f.around).1 = (listen' f'.around).1 := hsame
  rw [hconnection]
  exact h.steps _ ⟨hQ.worker, hbehind⟩

/-- As long as the same connections come about, two workers do the same in the loop. -/
theorem run (h : Respected N Q resolver resolver')
    (hlisten : ∀ b b', Q b b' → (listen b.2).1 = (listen' b'.2).1
      ∧ Q (b.1, (listen b.2).2) (b'.1, (listen' b'.2).2))
    (attempts : Nat) {f : Feed σ} {f' : Feed τ} (hQ : Related Q f f') :
    Moved N Q (f.run listen resolver attempts) (f'.run listen' resolver' attempts) := by
  induction attempts generalizing f f' with
  | zero => exact ⟨.nil, hQ⟩
  | succ attempts ih =>
      -- Whether to go on is seen from the worker, so both loops stop at once.
      have hdue : f.isDue = f'.isDue := by rw [isDue, isDue, hQ.worker]
      unfold Feed.run
      rw [hdue]
      split
      · have hstep := h.step .due hQ
        have hconnection := h.connection hlisten hstep.feed
        exact (hstep.append hconnection).append (ih hconnection.feed)
      · exact ⟨.nil, hQ⟩

end Respected
end Messenger.Stream.Feed
