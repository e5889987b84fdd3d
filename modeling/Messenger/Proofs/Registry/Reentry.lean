import Messenger.Proofs.Registry.Life

set_option autoImplicit false

/-! # Requests from inside a call

While listeners are called they may turn to the registry, as often and in whatever order they like.
None of it touches what is kept or the marks: these come out as if the listeners had asked for
nothing. Of the handles, an operation leaves those in use during it, in their order, except those
whose removal was requested after the last request to reset (`requests_inside_iff`). So a removal
is honoured unless a request to reset follows it in the same round, although that request is said
to be refused (`removal_is_dropped`). -/

namespace Messenger

variable {M : Type}

theorem removals_sinceReset_subset (requests : List (Request M)) :
    removals (sinceReset requests) ⊆ removals requests := by
  intro id hid
  obtain ⟨request, hrequest, hremoval⟩ := List.mem_filterMap.1 hid
  exact List.mem_filterMap.2 ⟨request, (List.rtakeWhile_suffix _ _).subset hrequest, hremoval⟩

/-- A listener that ends its calls as another one does, and asks for nothing. -/
def Listener.quiet (l : Listener M) : Listener M where
  label := l.label
  react moment m := ([], (l.react moment m).2)

namespace Registry

def Registration.quiet (l : Registration M) : Registration M := ⟨l.id, l.listener.quiet⟩

/-- A registry whose listeners ask for nothing. -/
def quiet (r : Registry M) : Registry M :=
  { r with registrations := r.registrations.map Registration.quiet }

/-- An operation whose listener asks for nothing. -/
def Operation.quiet : Operation M → Operation M
  | .publish m => .publish m
  | .register id l => .register id l.quiet
  | .remove id => .remove id
  | .reset => .reset

variable [Stamped M]

omit [Stamped M] in
theorem ids_quiet (r : Registry M) : ids r.quiet.registrations = ids r.registrations := by
  rw [quiet, ids, List.map_map]
  rfl

/-- What is kept does not depend on the requests of listeners. -/
theorem history_quiet (o : Operation M) (r : Registry M) :
    (o.quiet.apply r.quiet).2.history = (o.apply r).2.history := by
  cases o with
  | remove id =>
      exact (history_remove id r.quiet).trans (history_remove id r).symm
  | _ => rfl

/-- Marks do not depend on the requests of listeners. -/
theorem marks_quiet (o : Operation M) (r : Registry M) :
    (o.quiet.apply r.quiet).2.marks = (o.apply r).2.marks := by
  cases o with
  | publish m =>
      simp only [Operation.quiet, Operation.apply, marks_publish, ids_quiet]
      rfl
  | register id l =>
      simp only [Operation.quiet, Operation.apply, marks_register]
      rfl
  | remove id =>
      exact (marks_remove id r.quiet).trans (marks_remove id r).symm
  | reset => rfl

/-- Two filters agree on a list if and only if their conditions agree on its members. -/
theorem filter_eq_filter_iff {α : Type} (p q : α → Bool) (l : List α) :
    l.filter p = l.filter q ↔ ∀ a ∈ l, p a = q a := by
  refine ⟨fun h a ha => ?_, List.filter_congr⟩
  have hmem : a ∈ l.filter p ↔ a ∈ l.filter q := by rw [h]
  rw [List.mem_filter, List.mem_filter] at hmem
  exact Bool.eq_iff_iff.2 ⟨fun hp => (hmem.1 ⟨ha, hp⟩).2, fun hq => (hmem.2 ⟨ha, hq⟩).2⟩

/-- **Requests from inside a call.** Take any operation in any life, with whatever its listeners
ask for. What is kept and the marks are as if they asked for nothing. The handles left are those in
use during the operation without those whose removal was requested and stood, not being followed by
a request to reset. They are those without all whose removal was requested if and only if each such
request for a handle in use stood or was made again. -/
theorem requests_inside_iff (capacity : Nat) (os : List (Operation M)) (o : Operation M) :
    let r := (Life.of capacity os).registry
    let requests := requestsIn (o.apply r).1
    (o.apply r).2.history = (o.quiet.apply r.quiet).2.history
      ∧ (o.apply r).2.marks = (o.quiet.apply r.quiet).2.marks
      ∧ ids (o.apply r).2.registrations
          = (o.during (ids r.registrations)).filter
              (fun id => !(removals (sinceReset requests)).contains id)
      ∧ (ids (o.apply r).2.registrations
            = (o.during (ids r.registrations)).filter (fun id => !(removals requests).contains id)
          ↔ ∀ id ∈ o.during (ids r.registrations), id ∈ removals requests →
              id ∈ removals (sinceReset requests)) := by
  intro r requests
  have hids := ids_apply o r (Life.settled capacity os).deferred_eq
  refine ⟨(history_quiet o r).symm, (marks_quiet o r).symm, hids, ?_⟩
  rw [hids, filter_eq_filter_iff]
  refine forall₂_congr fun id _ => ?_
  have hsubset : id ∈ removals (sinceReset requests) → id ∈ removals requests :=
    fun hid => removals_sinceReset_subset requests hid
  rw [Bool.eq_iff_iff]
  simp only [Bool.not_eq_true', List.contains_eq_mem, decide_eq_false_iff_not]
  constructor
  · intro h hid
    by_contra hnot
    exact h.1 hnot hid
  · intro h
    exact not_congr ⟨hsubset, h⟩

/-! ## A removal that is dropped -/

/-- A listener that asks to be removed and then asks to reset. -/
def undecided : Listener Message := ⟨"a", fun _ _ => ([.remove ⟨"a"⟩, .reset], .accepted)⟩

/-- The handle of such a listener stays in use, although its removal was requested. -/
theorem removal_is_dropped :
    let r := (Life.of 1000 [.register ⟨"a"⟩ undecided]).registry
    let o := Operation.publish (sentAt 1)
    ids (o.apply r).2.registrations
      ≠ (o.during (ids r.registrations)).filter
          fun id => !(removals (requestsIn (o.apply r).1)).contains id := by
  decide

end Registry
end Messenger
