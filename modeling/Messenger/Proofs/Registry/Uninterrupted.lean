import Messenger.Proofs.Registry.Life

set_option autoImplicit false

/-! # Uninterrupted registrations

A handle that was handed nothing yet is handed, from its registration until it goes out of use,
what is kept when it registers and after that every message that is published, once each and in
this order (`handed_while_in_use`). Nothing else matters: neither the timestamps nor which messages
give way, neither what becomes of other listeners nor whether another listener takes the place of
the first one under the handle, nor how calls end or what the listeners ask for. -/

namespace Messenger.Registry

variable {M : Type} [Stamped M]

/-- A handle is in use whenever one of some operations begins. The last of them may end its use: by
its removal, by the end of a round in which its removal was requested, or by a reset. -/
def InUse (id : ListenerId) : List (Operation M) → Registry M → Prop
  | [], _ => True
  | o :: os, r => id ∈ ids r.registrations ∧ InUse id os (o.apply r).2

/-- Whether a handle stays in use is found by going through the operations once. -/
instance decidableInUse (id : ListenerId) :
    (os : List (Operation M)) → (r : Registry M) → Decidable (InUse id os r)
  | [], _ => .isTrue trivial
  | o :: os, r =>
    have := decidableInUse id os (o.apply r).2
    inferInstanceAs (Decidable (_ ∧ _))

/-- An operation hands to a handle in use just what it publishes. -/
theorem Settled.handedTo_apply {r : Registry M} (hr : r.Settled) {id : ListenerId}
    (hid : id ∈ ids r.registrations) (o : Operation M) :
    handedTo id (o.apply r).1 = o.published := by
  cases o with
  | publish m => rw [Operation.apply, handedTo_publish_of_nodup hr.nodup, if_pos hid]; rfl
  | register i l => exact hr.handedTo_beside hid rfl
  | remove i => exact hr.handedTo_beside hid rfl
  | reset => rfl

/-- Operations hand to a handle that stays in use just what they publish. -/
theorem Life.handedTo_foldl_next {life : Life M} (hr : life.registry.Settled) {id : ListenerId}
    {os : List (Operation M)} (huse : InUse id os life.registry) :
    handedTo id (os.foldl Life.next life).notices
      = handedTo id life.notices ++ publications os := by
  induction os generalizing life with
  | nil => exact (List.append_nil _).symm
  | cons o os ih =>
      obtain ⟨hid, hlater⟩ := huse
      have hrest : handedTo id (os.foldl Life.next (life.next o)).notices
          = handedTo id (life.next o).notices ++ publications os := ih (hr.apply o) hlater
      have hfirst : handedTo id (life.next o).notices
          = handedTo id life.notices ++ o.published := by
        rw [Life.next, handedTo_append, hr.handedTo_apply hid]
      rw [List.foldl_cons, hrest, hfirst, List.append_assoc, publications, publications,
        List.flatMap_cons]

/-- A handle without a mark missed all that is kept. -/
theorem missed_of_unmarked {r : Registry M} {id : ListenerId} (h : r.mark? id = none) :
    r.missed id = r.history := by
  have hmark : r.marks.get? id = none := h
  rw [missed, hmark]
  exact List.filter_eq_self.2 fun _ _ => rfl

/-- **An uninterrupted registration misses and repeats nothing.** In any life, let a listener
register under a handle that has no mark, and let any operations follow while the handle stays in
use. To what was handed to the handle before, this adds what was kept when the listener registered,
oldest first, and then all that is published, in order. -/
theorem handed_while_in_use (capacity : Nat) (past future : List (Operation M)) (id : ListenerId)
    (l : Listener M) (hunmarked : (Life.of capacity past).registry.mark? id = none)
    (huse : InUse id future (Life.of capacity (past ++ [.register id l])).registry) :
    handedTo id (Life.of capacity (past ++ .register id l :: future)).notices
      = handedTo id (Life.of capacity past).notices
        ++ (Life.of capacity past).registry.history ++ publications future := by
  have hsplit : Life.of capacity (past ++ .register id l :: future)
      = future.foldl Life.next (Life.of capacity (past ++ [.register id l])) := by
    rw [Life.of, List.foldl_append, List.foldl_cons, Life.of_concat]
    rfl
  have hregistered : handedTo id (Life.of capacity (past ++ [.register id l])).notices
      = handedTo id (Life.of capacity past).notices
        ++ (Life.of capacity past).registry.history := by
    rw [Life.of_concat, Life.next, handedTo_append, Operation.apply, handedTo_register, if_pos rfl,
      missed_of_unmarked hunmarked]
  rw [hsplit, Life.handedTo_foldl_next (Life.settled capacity _) huse, hregistered]

/-- A listener that fails, and asks to be removed when it is handed what was sent at 4. -/
def leaving : Listener Message :=
  ⟨"b", fun _ m => (if m.timestamp = 4 then [.publish (sentAt 9), .remove ⟨"b"⟩] else [],
    .failed "")⟩

/-- The last two of three messages are kept when `b` registers for the first time. Then older and
equal ones are published, another listener is removed and one takes the place under `b`, before the
last message makes it leave. -/
theorem handed_while_in_use_once :
    let past : List (Operation Message) :=
      [.register ⟨"a"⟩ accepting, .publish (sentAt 7), .publish (sentAt 5), .publish (sentAt 6)]
    let future : List (Operation Message) :=
      [.publish (sentAt 2), .register ⟨"b"⟩ leaving, .remove ⟨"a"⟩, .publish (sentAt 2),
        .publish (sentAt 4)]
    let whole := past ++ .register ⟨"b"⟩ accepting :: future
    (Life.of 2 past).registry.mark? ⟨"b"⟩ = none
      ∧ InUse ⟨"b"⟩ future (Life.of 2 (past ++ [.register ⟨"b"⟩ accepting])).registry
      ∧ ⟨"b"⟩ ∉ ids (Life.of 2 whole).registry.registrations
      ∧ handedTo ⟨"b"⟩ (Life.of 2 whole).notices
        = [sentAt 5, sentAt 6, sentAt 2, sentAt 2, sentAt 4] := by
  intro past future whole
  have hunmarked : (Life.of 2 past).registry.mark? ⟨"b"⟩ = none := by decide
  have huse : InUse ⟨"b"⟩ future
      (Life.of 2 (past ++ [.register ⟨"b"⟩ accepting])).registry := by decide
  refine ⟨hunmarked, huse, by decide, ?_⟩
  exact handed_while_in_use 2 past future ⟨"b"⟩ accepting hunmarked huse

end Messenger.Registry
