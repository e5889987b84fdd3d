import Messenger.Proofs.Registry.Life

set_option autoImplicit false

/-! # What is kept

A registry keeps the messages that were published last, as many as it has room for
(`history_of_life`). Which ones these are is told by the operations alone: the timestamps do not
matter, nor do the listeners, nor what they ask for. In particular a listener that publishes while
it is called adds nothing. The room is never less than one message, so the newest one is always
kept. -/

namespace Messenger.Registry

/-! ## The end of a list -/

section Ends

variable {α : Type}

theorem rtake_of_length_le {l : List α} {n : Nat} (h : l.length ≤ n) : l.rtake n = l := by
  rw [List.rtake, Nat.sub_eq_zero_of_le h, List.drop_zero]

/-- What follows the end of a list is followed from as far back as from the whole list. -/
theorem rtake_rtake_append (l more : List α) (n : Nat) :
    (l.rtake n ++ more).rtake n = (l ++ more).rtake n := by
  have hle : l.length - n ≤ l.length := Nat.sub_le _ _
  unfold List.rtake
  rw [← List.drop_append_of_le_length hle, List.drop_drop]
  congr 1
  simp only [List.length_drop, List.length_append]
  omega

theorem rtake_min_length (l : List α) (n : Nat) : l.rtake (min n l.length) = l.rtake n := by
  unfold List.rtake
  congr 1
  omega

end Ends

/-! ## One operation -/

variable {M : Type}

/-- The operations since the last reset. -/
def sinceLastReset (os : List (Operation M)) : List (Operation M) :=
  os.rtakeWhile fun o => !o.isReset

/-- One more operation publishes one more message, publishes nothing, or is a reset. -/
theorem publications_sinceLastReset_concat (os : List (Operation M)) (o : Operation M) :
    publications (sinceLastReset (os ++ [o]))
      = if o.isReset then [] else publications (sinceLastReset os) ++ o.published := by
  rw [sinceLastReset, List.rtakeWhile_concat]
  cases o.isReset with
  | true => rfl
  | false => exact publications_concat _ o

/-- Keeping a message keeps the last messages, if there were not too many. -/
theorem keep_eq_rtake {r : Registry M} (hroom : r.history.length ≤ r.capacity) (m : M) :
    r.keep m = (r.history ++ [m]).rtake r.capacity := by
  have hpos := r.capacity_pos
  unfold keep
  by_cases hfull : r.history.length = r.capacity
  · have hone : (r.history ++ [m]).length - r.capacity = 1 := by
      simp only [List.length_append, List.length_singleton]
      omega
    rw [if_pos hfull, List.rtake, hone, List.drop_append_of_le_length (by omega)]
  · rw [if_neg hfull, rtake_of_length_le]
    simp only [List.length_append, List.length_singleton]
    omega

variable [Stamped M]

theorem capacity_apply (o : Operation M) (r : Registry M) :
    (o.apply r).2.capacity = r.capacity := by
  cases o with
  | remove id =>
      simp only [Operation.apply, remove]
      split <;> rfl
  | _ => rfl

/-- After an operation the last of the messages are kept that were kept before it, or are published
by it. A reset forgets all. -/
theorem history_apply (o : Operation M) {r : Registry M}
    (hroom : r.history.length ≤ r.capacity) :
    (o.apply r).2.history
      = if o.isReset then [] else (r.history ++ o.published).rtake r.capacity := by
  have hsame : (r.history ++ []).rtake r.capacity = r.history := by
    rw [List.append_nil, rtake_of_length_le hroom]
  cases o with
  | publish m => exact keep_eq_rtake hroom m
  | register id l => exact hsame.symm
  | remove id => exact (history_remove id r).trans hsame.symm
  | reset => rfl

/-! ## Whole lives -/

/-- The room of a registry stays, and what is kept is the end of what was published since the last
reset. -/
theorem kept_of_life (capacity : Nat) (os : List (Operation M)) :
    (Life.of capacity os).registry.capacity = max capacity 1
      ∧ (Life.of capacity os).registry.history
        = (publications (sinceLastReset os)).rtake (max capacity 1) := by
  induction os using List.reverseRecOn with
  | nil => exact ⟨rfl, (List.rtake_nil _).symm⟩
  | append_singleton os o ih =>
      obtain ⟨hcapacity, hhistory⟩ := ih
      have hroom : (Life.of capacity os).registry.history.length
          ≤ (Life.of capacity os).registry.capacity := by
        rw [hhistory, hcapacity, List.rtake, List.length_drop]
        omega
      rw [Life.of_concat]
      refine ⟨(capacity_apply o _).trans hcapacity, ?_⟩
      rw [Life.next, history_apply o hroom, publications_sinceLastReset_concat]
      by_cases hreset : o.isReset = true
      · rw [if_pos hreset, if_pos hreset, List.rtake_nil]
      · rw [if_neg hreset, if_neg hreset, hcapacity, hhistory, rtake_rtake_append]

/-- **The last messages are kept.** A new registry has room for as many messages as were asked for,
and for one if that was none. After any operations, of the messages that they published since the
last reset, it keeps the last ones: all of them, or as many as there is room for, oldest first. -/
theorem history_of_life (capacity : Nat) (os : List (Operation M)) :
    let room := max capacity 1
    let messages := publications (sinceLastReset os)
    (Life.of capacity os).registry.capacity = room
      ∧ (Life.of capacity os).registry.history = messages.rtake (min room messages.length)
      ∧ (Life.of capacity os).registry.history.length = min room messages.length := by
  intro room messages
  obtain ⟨hcapacity, hhistory⟩ := kept_of_life capacity os
  have hkept : (Life.of capacity os).registry.history = messages.rtake (min room messages.length) :=
    hhistory.trans (rtake_min_length messages room).symm
  refine ⟨hcapacity, hkept, ?_⟩
  rw [hkept, List.rtake, List.length_drop]
  omega

/-- A listener that publishes what it is handed once more. -/
def echoing : Listener Message := ⟨"e", fun _ m => ([.publish m], .accepted)⟩

/-- Two messages since the reset are kept where there is room for two, whatever the listeners
publish; without room for any the last one is kept. -/
example :
    let os : List (Operation Message) :=
      [.publish (sentAt 9), .reset, .register ⟨"e"⟩ echoing, .publish (sentAt 3),
        .publish (sentAt 2), .remove ⟨"e"⟩, .publish (sentAt 7)]
    (Life.of 2 os).registry.history = [sentAt 2, sentAt 7]
      ∧ (Life.of 0 os).registry.history = [sentAt 7] := by
  decide

end Messenger.Registry
