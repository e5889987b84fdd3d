import Messenger.Proofs.Registry.Life

set_option autoImplicit false

/-! # Places in the order of publication

Two published messages may be equal, so the messages handed to a listener do not tell which
publications they stem from. To follow them through a life, the same life is lived with *placed*
messages: each carries the number of publications before it. The listeners do not see the places,
and a registry reads nothing of a message but its timestamp and its kind. So the placed life shows,
up to the places, what the life itself shows (`placed_life`), and whatever a listener is handed in
it tells where it was published. -/

namespace Messenger

variable {M N : Type}

/-! ## Changing the messages of what can be seen -/

/-- A request about other messages. -/
def Request.map (f : M → N) : Request M → Request N
  | .publish m => .publish (f m)
  | .publishAll ms => .publishAll (ms.map f)
  | .register id => .register id
  | .registerFresh => .registerFresh
  | .remove id => .remove id
  | .reset => .reset
  | .contains id => .contains id
  | .mark id => .mark id
  | .count => .count
  | .buffered => .buffered
  | .capacity => .capacity
  | .snapshot => .snapshot

/-- An answer about other messages. -/
def Answer.map (f : M → N) : Answer M → Answer N
  | .nothing => .nothing
  | .count n => .count n
  | .flag b => .flag b
  | .mark t => .mark t
  | .messages ms => .messages (ms.map f)

/-- A notice about other messages. -/
def Notice.map (f : M → N) : Notice M → Notice N
  | .handed id label m => .handed id label (f m)
  | .requested label request answer => .requested label (request.map f) (answer.map f)
  | .logged record => .logged record

theorem map_logged (f : M → N) (log : List LogRecord) :
    (log.map Notice.logged).map (Notice.map f) = log.map Notice.logged := by
  rw [List.map_map]
  rfl

/-! ## Placed messages -/

/-- A message with its place in the order of publication. -/
structure Placed (M : Type) where
  /-- The number of publications before it. -/
  place : Nat
  message : M
deriving DecidableEq

instance [Stamped M] : Stamped (Placed M) where
  timestamp p := Stamped.timestamp p.message
  kind p := Stamped.kind p.message

/-- A listener that does not see places. -/
def Listener.placed (l : Listener M) : Listener (Placed M) where
  label := l.label
  react moment p :=
    ((l.react moment p.message).1.map (Request.map (Placed.mk p.place)),
      (l.react moment p.message).2)

namespace Registry

def Registration.placed (l : Registration M) : Registration (Placed M) :=
  ⟨l.id, l.listener.placed⟩

/-- An operation that publishes at a place. -/
def Operation.placed (place : Nat) : Operation M → Operation (Placed M)
  | .publish m => .publish ⟨place, m⟩
  | .register id l => .register id l.placed
  | .remove id => .remove id
  | .reset => .reset

/-- Operations that publish at successive places. -/
def placedFrom : Nat → List (Operation M) → List (Operation (Placed M))
  | _, [] => []
  | place, o :: os => o.placed place :: placedFrom (place + o.published.length) os

theorem placedFrom_append (place : Nat) (os ps : List (Operation M)) :
    placedFrom place (os ++ ps)
      = placedFrom place os ++ placedFrom (place + (publications os).length) ps := by
  induction os generalizing place with
  | nil => rfl
  | cons o os ih =>
      simp only [List.cons_append, placedFrom, ih, publications, List.flatMap_cons,
        List.length_append, Nat.add_assoc]

/-! ## Forgetting places -/

theorem noticesInside_map (f : M → N) (capacity : Nat) (label : String)
    (requests : List (Request M)) :
    (noticesInside capacity label requests).map (Notice.map f)
      = noticesInside capacity label (requests.map (Request.map f)) := by
  unfold noticesInside
  induction requests with
  | nil => rfl
  | cons request requests ih =>
      rw [List.flatMap_cons, List.map_append, ih, List.map_cons, List.flatMap_cons]
      congr 1
      rw [List.map_append, map_logged]
      cases request with
      | publishAll ms =>
          simp [Request.map, recordsInside, answerInside, Notice.map, Answer.map,
            Function.comp_def]
      | _ => rfl

theorem foldl_deferInside_map (f : M → N) (requests : List (Request M))
    (deferred : List ListenerId) :
    (requests.map (Request.map f)).foldl deferInside deferred
      = requests.foldl deferInside deferred := by
  rw [List.foldl_map]
  congr 1
  funext d request
  cases request <;> rfl

theorem Request.map_message_placed (place : Nat) (requests : List (Request M)) :
    (requests.map (Request.map (Placed.mk place))).map (Request.map Placed.message) = requests := by
  rw [List.map_map]
  refine (List.map_congr_left fun request _ => ?_).trans (List.map_id _)
  cases request with
  | publishAll ms => simp [Request.map, Function.comp_def]
  | _ => rfl

/-- A round forgets places: it accepts, shows and queues the same. -/
structure Round.Forgets (p : Round (Placed M)) (r : Round M) : Prop where
  accepted : p.accepted = r.accepted
  notices : p.notices.map (Notice.map Placed.message) = r.notices
  deferred : p.deferred = r.deferred

/-- A registry of placed messages agrees with one of messages. -/
structure Forgets (p : Registry (Placed M)) (r : Registry M) : Prop where
  capacity : p.capacity = r.capacity
  history : p.history.map Placed.message = r.history
  registrations : p.registrations = r.registrations.map Registration.placed
  marks : p.marks = r.marks
  deferred : p.deferred = r.deferred
  moment : p.moment = r.moment

variable [Stamped M]

theorem hand_placed (capacity moment : Nat) (l : Registration M) (p : Placed M)
    (deferred : List ListenerId) :
    (hand capacity moment (Registration.placed l, p) deferred).Forgets
      (hand capacity moment (l, p.message) deferred) where
  accepted := rfl
  notices := by
    simp only [hand, Registration.placed, Listener.placed, List.cons_append, List.map_cons,
      List.map_append, noticesInside_map, Request.map_message_placed, map_logged]
    rfl
  deferred := foldl_deferInside_map _ _ _

theorem runRound_placed (capacity : Nat) (hs : List (Registration M × Placed M)) (moment : Nat)
    (deferred : List ListenerId) :
    (runRound capacity moment (hs.map fun h => (Registration.placed h.1, h.2)) deferred).Forgets
      (runRound capacity moment (hs.map fun h => (h.1, h.2.message)) deferred) := by
  induction hs generalizing moment deferred with
  | nil => exact ⟨rfl, rfl, rfl⟩
  | cons h hs ih =>
      have hfirst := hand_placed capacity moment h.1 h.2 deferred
      have hrest := ih (moment + 1) (hand capacity moment (h.1, h.2.message) deferred).deferred
      simp only [List.map_cons, runRound, hfirst.deferred]
      exact ⟨by simp only [hfirst.accepted, hrest.accepted],
        by simp only [List.map_append, hfirst.notices, hrest.notices], hrest.deferred⟩

theorem raiseAll_placed (hs : List (Registration M × Placed M)) (marks : Marks) :
    raiseAll marks (hs.map fun h => (Registration.placed h.1, h.2))
      = raiseAll marks (hs.map fun h => (h.1, h.2.message)) := by
  unfold raiseAll
  rw [List.foldl_map, List.foldl_map]
  rfl

omit [Stamped M] in
theorem without_placed (gone : List ListenerId) (rs : List (Registration M)) :
    without gone (rs.map Registration.placed) = (without gone rs).map Registration.placed := by
  unfold without
  rw [List.filter_map]
  rfl

theorem conclude_placed {α : Type} {p : Registry (Placed M)} {r : Registry M} (hpr : p.Forgets r)
    (hs : List (Registration M × Placed M)) (result : Nat → α) (record : Nat → LogRecord) :
    (conclude p (hs.map fun h => (Registration.placed h.1, h.2)) result record).2.1.map
        (Notice.map Placed.message)
      = (conclude r (hs.map fun h => (h.1, h.2.message)) result record).2.1
    ∧ (conclude p (hs.map fun h => (Registration.placed h.1, h.2)) result record).2.2.Forgets
        (conclude r (hs.map fun h => (h.1, h.2.message)) result record).2.2 := by
  have hround := runRound_placed r.capacity hs r.moment r.deferred
  simp only [conclude, hpr.capacity, hpr.moment, hpr.deferred]
  constructor
  · rw [List.map_append, map_logged, hround.notices, hround.accepted, hround.deferred]
  · exact {
      capacity := rfl
      history := hpr.history
      registrations := by simp only [hpr.registrations, hround.deferred, without_placed]
      marks := by simp only [hpr.marks, raiseAll_placed]
      deferred := rfl
      moment := by simp only [List.length_map] }

omit [Stamped M] in
theorem keep_placed {p : Registry (Placed M)} {r : Registry M} (hpr : p.Forgets r)
    (m : Placed M) : (p.keep m).map Placed.message = r.keep m.message := by
  have hlength : p.history.length = r.history.length := by rw [← hpr.history, List.length_map]
  unfold keep
  rw [hlength, hpr.capacity, List.map_append]
  split
  · rw [List.map_drop, hpr.history]; rfl
  · rw [hpr.history]; rfl

theorem missed_placed {p : Registry (Placed M)} {r : Registry M} (hpr : p.Forgets r)
    (id : ListenerId) : (p.missed id).map Placed.message = r.missed id := by
  unfold missed
  rw [← hpr.history, List.filter_map, hpr.marks]
  rfl

omit [Stamped M] in
theorem contains_placed {p : Registry (Placed M)} {r : Registry M} (hpr : p.Forgets r)
    (id : ListenerId) : p.contains id = r.contains id := by
  unfold contains
  rw [hpr.registrations, List.any_map]
  rfl

omit [Stamped M] in
theorem put_placed (id : ListenerId) (l : Listener M) (rs : List (Registration M)) :
    put id l.placed (rs.map Registration.placed) = (put id l rs).map Registration.placed := by
  induction rs with
  | nil => rfl
  | cons r rs ih =>
      by_cases h : r.id = id
      · simp [put, Registration.placed, h]
      · simp only [List.map_cons, put, Registration.placed, if_neg h]
        exact congrArg _ ih

/-- A placed operation shows, up to places, what the operation itself shows, and leaves registries
that agree. -/
theorem apply_placed {p : Registry (Placed M)} {r : Registry M} (hpr : p.Forgets r) (place : Nat)
    (o : Operation M) :
    ((o.placed place).apply p).1.map (Notice.map Placed.message) = (o.apply r).1
      ∧ ((o.placed place).apply p).2.Forgets (o.apply r).2 := by
  cases o with
  | publish m =>
      have hkeep : ({ p with history := p.keep ⟨place, m⟩ } : Registry (Placed M)).Forgets
          { r with history := r.keep m } :=
        { hpr with history := keep_placed hpr ⟨place, m⟩ }
      -- The round is that of the placed message to the placed registrations.
      have hround := conclude_placed hkeep
        (r.registrations.map fun l => (l, (⟨place, m⟩ : Placed M))) id (published m)
      simp only [List.map_map, Operation.placed, Operation.apply, publish, hpr.registrations]
        at hround ⊢
      exact hround
  | register id l =>
      have hput : ({ p with registrations := put id l.placed p.registrations } :
          Registry (Placed M)).Forgets { r with registrations := put id l r.registrations } :=
        { hpr with registrations := by simp only [hpr.registrations, put_placed] }
      have hlength : (p.missed id).length = (r.missed id).length := by
        rw [← missed_placed hpr, List.length_map]
      have hround := conclude_placed hput
        ((p.missed id).map fun m => ((⟨id, l⟩ : Registration M), m)) (fun _ => (r.missed id).length)
        (fun _ => registered id (r.missed id).length)
      simp only [Operation.placed, Operation.apply, register, List.length_map, ← missed_placed hpr,
        List.map_map] at hround ⊢
      exact hround
  | remove id =>
      simp only [Operation.placed, Operation.apply, remove, contains_placed hpr]
      split
      · exact ⟨rfl, { hpr with
          registrations := by simp only [hpr.registrations, without_placed] }⟩
      · exact ⟨rfl, hpr⟩
  | reset => exact ⟨rfl, ⟨hpr.capacity, rfl, rfl, rfl, rfl, rfl⟩⟩

omit [Stamped M] in
theorem isReset_placed (place : Nat) (o : Operation M) : (o.placed place).isReset = o.isReset := by
  cases o <;> rfl

/-- A life with placed messages agrees with one with messages. -/
structure Life.Forgets (p : Life (Placed M)) (life : Life M) : Prop where
  registry : p.registry.Forgets life.registry
  notices : p.notices.map (Notice.map Placed.message) = life.notices
  recent : p.recent.map (Notice.map Placed.message) = life.recent

/-- **Living with placed messages changes nothing but the places.** -/
theorem placed_life (capacity : Nat) (os : List (Operation M)) :
    (Life.of capacity (placedFrom 0 os)).Forgets (Life.of capacity os) := by
  induction os using List.reverseRecOn with
  | nil => exact ⟨⟨rfl, rfl, rfl, rfl, rfl, rfl⟩, rfl, rfl⟩
  | append_singleton os o ih =>
      rw [placedFrom_append, placedFrom, placedFrom, Life.of_concat, Life.of_concat]
      obtain ⟨hnotices, hregistry⟩ :=
        apply_placed ih.registry (0 + (publications os).length) o
      refine ⟨hregistry, ?_, ?_⟩
      · simp only [Life.next, List.map_append, ih.notices, hnotices]
      · simp only [Life.next, isReset_placed]
        split
        · rfl
        · simp only [List.map_append, ih.recent, hnotices]

end Registry
end Messenger
