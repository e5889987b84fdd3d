import Messenger.Proofs.Registry.Place

set_option autoImplicit false

/-! # What a registration makes up for

A listener that registers under a handle is to catch up: whatever is kept and was not yet handed to
the handle is to be handed to it. A registry decides this by the mark, that is by the newest
timestamp handed to the handle since the last reset. Hence a listener catches up exactly if every
kept message that its handle still lacks is newer than all that the handle received
(`register_catches_up_iff`). Senders choose timestamps, so a message may be published late and still
be older; such a message is passed over (`older_message_is_passed_over`). -/

namespace Messenger.Registry

variable {M : Type} [Stamped M]

/-- Of what is kept, a registration leaves handed what was handed before, and what is newer than
all that was handed before. -/
theorem mem_handed_register_iff (capacity : Nat) (os : List (Operation M)) (id : ListenerId)
    (l : Listener M) {m : M} (hm : m ∈ (Life.of capacity os).registry.history) :
    m ∈ handedTo id (Life.of capacity (os ++ [.register id l])).recent
      ↔ m ∈ handedTo id (Life.of capacity os).recent
        ∨ ∀ k ∈ handedTo id (Life.of capacity os).recent,
            Stamped.timestamp k < Stamped.timestamp m := by
  have hnewer : ¬ (Life.of capacity os).registry.marks.Covers id (Stamped.timestamp m)
      ↔ ∀ k ∈ handedTo id (Life.of capacity os).recent,
          Stamped.timestamp k < Stamped.timestamp m := by
    rw [Life.covers_iff]
    simp only [not_exists, not_and, Int64.not_le]
  rw [Life.of_concat]
  simp only [Life.next, Operation.isReset, Operation.apply, handedTo_append, List.mem_append,
    handedTo_register, if_true, Bool.false_eq_true, if_false, mem_missed, hnewer]
  exact or_congr_right ⟨fun h => h.2, fun h => ⟨hm, h⟩⟩

/-- **When a listener catches up.** Follow the messages of a life by their places. When a listener
registers under a handle, all that is kept has then been handed to the handle since the last reset
if and only if every kept message that had not been handed to it was newer than all that had. -/
theorem register_catches_up_iff (capacity : Nat) (os : List (Operation M)) (id : ListenerId)
    (l : Listener M) :
    let before := Life.of capacity (placedFrom 0 os)
    let after := Life.of capacity (placedFrom 0 (os ++ [.register id l]))
    after.Forgets (Life.of capacity (os ++ [.register id l]))
      ∧ after.registry.history = before.registry.history
      ∧ ((∀ p ∈ after.registry.history, p ∈ handedTo id after.recent)
        ↔ ∀ p ∈ before.registry.history, p ∉ handedTo id before.recent →
            ∀ q ∈ handedTo id before.recent, Stamped.timestamp q < Stamped.timestamp p) := by
  intro before after
  have hafter : after = Life.of capacity (placedFrom 0 os ++ [.register id l.placed]) := by
    show Life.of capacity (placedFrom 0 (os ++ [.register id l])) = _
    rw [placedFrom_append]
    rfl
  have hhistory : after.registry.history = before.registry.history := by
    rw [hafter, Life.of_concat]
    rfl
  refine ⟨placed_life capacity _, hhistory, ?_⟩
  rw [hhistory]
  refine forall₂_congr fun p hp => ?_
  rw [hafter, mem_handed_register_iff capacity (placedFrom 0 os) id l.placed hp]
  exact or_iff_not_imp_left

/-! ## A message that is passed over -/

/-- A handle receives a message, is removed, misses an older one, and is registered again. -/
def comeBack : List (Operation Message) :=
  [.register ⟨"a"⟩ accepting, .publish (sentAt 10), .remove ⟨"a"⟩, .publish (sentAt 5),
    .register ⟨"a"⟩ accepting]

/-- Not everything that is kept has been handed to a handle that comes back. -/
theorem older_message_is_passed_over :
    ¬ ∀ p ∈ (Life.of 1000 (placedFrom 0 comeBack)).registry.history,
      p ∈ handedTo ⟨"a"⟩ (Life.of 1000 (placedFrom 0 comeBack)).recent := by
  decide

end Messenger.Registry
