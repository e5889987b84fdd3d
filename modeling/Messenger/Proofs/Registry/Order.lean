import Messenger.Proofs.Registry.Place

set_option autoImplicit false

/-! # Messages are handed in order of publication

Whatever happens to a registry, what is handed under one handle is handed in the order of
publication, and nothing twice (`handed_in_order_of_publication`). No mark records a place: marks
compare timestamps, which senders choose. The invariant `InOrder` bridges the two: of the messages
still kept, every one that was published no later than something handed to a handle is covered by
the mark of the handle, and a registration hands out only what is not covered. -/

namespace Messenger.Registry

variable {M : Type}

/-- A placed message is one of some publications, at its place. -/
def Placed.IsIn (p : Placed M) (ms : List M) : Prop := ms[p.place]? = some p.message

theorem Placed.IsIn.place_lt {p : Placed M} {ms : List M} (h : IsIn p ms) :
    p.place < ms.length :=
  (List.getElem?_eq_some_iff.1 h).1

theorem Placed.IsIn.append {p : Placed M} {ms : List M} (h : IsIn p ms) (more : List M) :
    IsIn p (ms ++ more) := by
  unfold IsIn
  rw [List.getElem?_append_left h.place_lt]
  exact h

/-- What an operation publishes next has the place after all publications so far. -/
theorem isIn_of_mem_published {ms : List M} {o : Operation M} {p : Placed M}
    (hp : p ∈ (o.placed ms.length).published) :
    p.place = ms.length ∧ Placed.IsIn p (ms ++ o.published) := by
  cases o with
  | publish m =>
      obtain rfl := List.mem_singleton.1 hp
      exact ⟨rfl, by simp [Placed.IsIn, Operation.published]⟩
  | _ => exact absurd hp List.not_mem_nil

variable [Stamped M]

/-- A placed life is in order: whatever is kept or handed has its place among the publications;
what is kept, and what is handed to one handle, goes by place; and a mark covers every kept message
whose place is not after that of a message handed to its handle. -/
structure InOrder (ms : List M) (life : Life (Placed M)) : Prop where
  settled : life.registry.Settled
  kept_isIn : ∀ p ∈ life.registry.history, Placed.IsIn p ms
  kept_sorted : life.registry.history.Pairwise fun p q => p.place < q.place
  handed_isIn : ∀ id, ∀ p ∈ handedTo id life.notices, Placed.IsIn p ms
  handed_sorted : ∀ id, (handedTo id life.notices).Pairwise fun p q => p.place < q.place
  heard : ∀ id, ∀ p ∈ handedTo id life.notices, ∀ q ∈ life.registry.history,
    q.place ≤ p.place → life.registry.marks.Covers id (Stamped.timestamp q)

namespace InOrder

variable {ms : List M} {life : Life (Placed M)} (h : InOrder ms life) (o : Operation M)
include h

/-- What is kept before an operation, or published by it, has its place. -/
theorem pool_isIn {p : Placed M}
    (hp : p ∈ life.registry.history ++ (o.placed ms.length).published) :
    Placed.IsIn p (ms ++ o.published) := by
  rcases List.mem_append.1 hp with hp | hp
  · exact (h.kept_isIn p hp).append _
  · exact (isIn_of_mem_published hp).2

theorem pool_sorted :
    (life.registry.history ++ (o.placed ms.length).published).Pairwise
      fun p q => p.place < q.place := by
  rw [List.pairwise_append]
  refine ⟨h.kept_sorted, ?_, ?_⟩
  · cases o with
    | publish m => exact List.pairwise_singleton _ _
    | _ => exact List.Pairwise.nil
  · intro p hp q hq
    rw [(isIn_of_mem_published hq).1]
    exact (h.kept_isIn p hp).place_lt

/-- What an operation hands to a handle was published after all that was handed to it before. -/
theorem handed_lt {id : ListenerId} {p q : Placed M} (hp : p ∈ handedTo id life.notices)
    (hq : q ∈ handedTo id ((o.placed ms.length).apply life.registry).1) : p.place < q.place := by
  have hpool := (h.settled.handed_sublist (o.placed ms.length) id).subset hq
  rcases not_covers_of_handed _ hq with hnew | hnot
  · rw [(isIn_of_mem_published hnew).1]
    exact (h.handed_isIn id p hp).place_lt
  · rcases List.mem_append.1 hpool with hkept | hnew
    -- Were it not later, the mark would cover it, and nothing covered is handed out again.
    · by_contra hle
      exact hnot (h.heard id p hp q hkept (Nat.le_of_not_lt hle))
    · rw [(isIn_of_mem_published hnew).1]
      exact (h.handed_isIn id p hp).place_lt

/-- After an operation a mark covers what is kept and not after what was handed to its handle. -/
theorem heard_apply {id : ListenerId} {p q : Placed M}
    (hp : p ∈ handedTo id life.notices ++ handedTo id ((o.placed ms.length).apply life.registry).1)
    (hq : q ∈ ((o.placed ms.length).apply life.registry).2.history) (hle : q.place ≤ p.place) :
    ((o.placed ms.length).apply life.registry).2.marks.Covers id (Stamped.timestamp q) := by
  rcases List.mem_append.1 hp with hold | hnew
  -- Handed before: what the operation publishes comes later, so only what was kept is at stake.
  · have hlt := (h.handed_isIn id p hold).place_lt
    rcases List.mem_append.1 ((history_apply_sublist _ _).subset hq) with hkept | hpublished
    · rw [covers_apply]
      have hreset : (o.placed ms.length).isReset = false := by
        by_contra hreset
        rw [Bool.not_eq_false] at hreset
        rw [Operation.eq_reset hreset] at hq
        exact absurd hq List.not_mem_nil
      exact Or.inl ⟨hreset, h.heard id p hold q hkept hle⟩
    · have hplace := (isIn_of_mem_published hpublished).1
      omega
  -- Handed now: the handle is in use, so the operation leaves it caught up with all that is kept.
  · exact h.settled.covers_during _ (mem_during_of_handed _ hnew) hq

/-- **Each operation leaves a life in order.** -/
theorem next : InOrder (ms ++ o.published) (life.next (o.placed ms.length)) where
  settled := h.settled.apply _
  kept_isIn := fun _ hp => h.pool_isIn o ((history_apply_sublist _ _).subset hp)
  kept_sorted := (h.pool_sorted o).sublist (history_apply_sublist _ _)
  handed_isIn := by
    intro id p hp
    simp only [Life.next, handedTo_append] at hp
    rcases List.mem_append.1 hp with hp | hp
    · exact (h.handed_isIn id p hp).append _
    · exact h.pool_isIn o ((h.settled.handed_sublist _ id).subset hp)
  handed_sorted := by
    intro id
    simp only [Life.next, handedTo_append]
    rw [List.pairwise_append]
    exact ⟨h.handed_sorted id, (h.pool_sorted o).sublist (h.settled.handed_sublist _ id),
      fun _ hp _ hq => h.handed_lt o hp hq⟩
  heard := by
    intro id p hp q hq hle
    simp only [Life.next, handedTo_append] at hp
    exact h.heard_apply o hp hq hle

end InOrder

/-- **Every placed life is in order.** -/
theorem inOrder_life (capacity : Nat) (os : List (Operation M)) :
    InOrder (publications os) (Life.of capacity (placedFrom 0 os)) := by
  induction os using List.reverseRecOn with
  | nil =>
      exact {
        settled := settled_withCapacity capacity
        kept_isIn := fun _ hp => absurd hp List.not_mem_nil
        kept_sorted := List.Pairwise.nil
        handed_isIn := fun _ _ hp => absurd hp List.not_mem_nil
        handed_sorted := fun _ => List.Pairwise.nil
        heard := fun _ _ hp => absurd hp List.not_mem_nil }
  | append_singleton os o ih =>
      rw [placedFrom_append, placedFrom, placedFrom, Life.of_concat, publications_concat,
        Nat.zero_add]
      exact ih.next o

/-- **Handed in order of publication, and nothing twice.** In every life of a registry, follow the
publications by their places: what can be seen is the same, the places of the messages handed to a
handle increase, and each of these messages is the one that was published at its place. -/
theorem handed_in_order_of_publication (capacity : Nat) (os : List (Operation M))
    (id : ListenerId) :
    (Life.of capacity (placedFrom 0 os)).notices.map (Notice.map Placed.message)
        = (Life.of capacity os).notices
      ∧ ((handedTo id (Life.of capacity (placedFrom 0 os)).notices).map Placed.place).Pairwise
          (· < ·)
      ∧ ∀ p ∈ handedTo id (Life.of capacity (placedFrom 0 os)).notices,
          (publications os)[p.place]? = some p.message := by
  have horder := inOrder_life capacity os
  refine ⟨(placed_life capacity os).notices, ?_, ?_⟩
  · rw [List.pairwise_map]
    exact horder.handed_sorted id
  · exact horder.handed_isIn id

end Messenger.Registry
