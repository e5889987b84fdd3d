import Mathlib.Order.Bounds.Basic
import Messenger.Proofs.Registry.Reentry

set_option autoImplicit false

/-! # The mark of a handle

Between operations the mark of a handle is the newest timestamp of all that was handed to the
handle since the last reset, and there is none if nothing was (`mark_is_newest`). It does not matter
whether a message was accepted, whether it was replayed or handed over when it was published, nor
whether it is still kept. Nothing but being handed a message moves a mark: it stays where it is when
a handle is removed, when another listener takes its place, when messages give way to newer ones,
and whatever the listeners ask for.

A mark is known by the timestamps that it covers (`Marks.get?_eq_some_iff`), so all of this follows
from what operations cover. -/

namespace Messenger

/-! ## Marks by what they cover -/

namespace Marks

variable {marks : Marks} {id : ListenerId} {S : Set Int64}

/-- If what a mark covers is what is not newer than one of some timestamps, then the mark is the
newest of these. -/
theorem get?_eq_some_iff (hcovers : ∀ u, marks.Covers id u ↔ ∃ s ∈ S, u ≤ s) (t : Int64) :
    marks.get? id = some t ↔ IsGreatest S t := by
  constructor
  · intro hmark
    have hbound : ∀ s ∈ S, s ≤ t := by
      intro s hs
      obtain ⟨u, hu, hle⟩ := (hcovers s).2 ⟨s, hs, Int64.le_refl s⟩
      rw [hmark] at hu
      exact Option.some.inj hu ▸ hle
    obtain ⟨s, hs, hle⟩ := (hcovers t).1 ⟨t, hmark, Int64.le_refl t⟩
    exact ⟨Int64.le_antisymm (hbound s hs) hle ▸ hs, hbound⟩
  · rintro ⟨ht, hbound⟩
    obtain ⟨s, hmark, hle⟩ := (hcovers t).2 ⟨t, ht, Int64.le_refl t⟩
    -- The mark covers itself, so it is not newer than some timestamp, and these are bounded by `t`.
    obtain ⟨u, hu, hsu⟩ := (hcovers s).1 ⟨s, hmark, Int64.le_refl s⟩
    have hst : s ≤ t := Int64.le_trans hsu (hbound hu)
    rw [hmark, Int64.le_antisymm hst hle]

theorem get?_eq_none_iff : marks.get? id = none ↔ ∀ u, ¬ marks.Covers id u := by
  constructor
  · rintro hnone u ⟨s, hs, -⟩
    rw [hnone] at hs
    cases hs
  · intro hcovers
    by_contra hne
    obtain ⟨t, ht⟩ := Option.ne_none_iff_exists'.1 hne
    exact hcovers t ⟨t, ht, Int64.le_refl t⟩

end Marks

namespace Registry

variable {M : Type} [Stamped M]

/-- The timestamps of some messages. -/
def timestamps (ms : List M) : Set Int64 := {t | ∃ m ∈ ms, Stamped.timestamp m = t}

theorem exists_mem_timestamps {ms : List M} {u : Int64} :
    (∃ s ∈ timestamps ms, u ≤ s) ↔ ∃ m ∈ ms, u ≤ Stamped.timestamp m := by
  constructor
  · rintro ⟨_, ⟨m, hm, rfl⟩, hle⟩
    exact ⟨m, hm, hle⟩
  · rintro ⟨m, hm, hle⟩
    exact ⟨_, ⟨m, hm, rfl⟩, hle⟩

/-! ## What an operation does to a mark -/

/-- After an operation that is no reset, a mark is the newest of what it was before and of the
timestamps that the operation handed to its handle. -/
theorem mark?_apply_eq_some_iff (o : Operation M) (ho : o.isReset = false) (r : Registry M)
    (id : ListenerId) (t : Int64) :
    (o.apply r).2.mark? id = some t
      ↔ IsGreatest ({s | r.mark? id = some s} ∪ timestamps (handedTo id (o.apply r).1)) t := by
  refine Marks.get?_eq_some_iff (fun u => ?_) t
  rw [covers_apply, ho]
  simp only [true_and, Set.mem_union, or_and_right, exists_or, exists_mem_timestamps]
  rfl

/-- What hands nothing to a handle leaves its mark. -/
theorem mark?_apply_of_handed_nothing {o : Operation M} (ho : o.isReset = false) {r : Registry M}
    {id : ListenerId} (hnothing : handedTo id (o.apply r).1 = []) :
    (o.apply r).2.mark? id = r.mark? id := by
  have hempty : timestamps (handedTo id (o.apply r).1) = ∅ := by
    rw [hnothing]
    simp [timestamps]
  apply Option.ext
  intro t
  rw [mark?_apply_eq_some_iff o ho, hempty, Set.union_empty]
  constructor
  · exact fun h => h.1
  · intro h
    refine ⟨h, fun s hs => ?_⟩
    have hsame : some t = some s := h.symm.trans hs
    exact Option.some.inj hsame ▸ Int64.le_refl t

/-- **The mark of a handle is the newest timestamp handed to it.** In every life, the mark is the
newest timestamp of what was handed to its handle since the last reset, and missing if nothing was.
Removing a handle moves no mark, nor does putting another listener under a handle in use. A
publication moves only the marks of the handles in use, by its message, whatever gives way to it.
Requests from inside a call move none. -/
theorem mark_is_newest (capacity : Nat) (os : List (Operation M)) (id : ListenerId) :
    let life := Life.of capacity os
    let r := life.registry
    (∀ t, r.mark? id = some t ↔ IsGreatest (timestamps (handedTo id life.recent)) t)
      ∧ (r.mark? id = none ↔ handedTo id life.recent = [])
      ∧ (∀ i, ((Operation.remove i).apply r).2.mark? id = r.mark? id)
      ∧ (∀ i ∈ ids r.registrations, ∀ l,
          ((Operation.register i l).apply r).2.mark? id = r.mark? id)
      ∧ (∀ m t, ((Operation.publish m).apply r).2.mark? id = some t
          ↔ IsGreatest ({s | r.mark? id = some s}
              ∪ {s | id ∈ ids r.registrations ∧ Stamped.timestamp m = s}) t)
      ∧ ∀ o : Operation M, (o.apply r).2.mark? id = (o.quiet.apply r.quiet).2.mark? id := by
  intro life r
  have hsettled : r.Settled := Life.settled capacity os
  have hcovers : ∀ u, r.marks.Covers id u ↔ ∃ s ∈ timestamps (handedTo id life.recent), u ≤ s :=
    fun u => (Life.covers_iff capacity os id u).trans exists_mem_timestamps.symm
  refine ⟨Marks.get?_eq_some_iff hcovers, ?_, fun i => ?_, fun i hi l => ?_, fun m t => ?_,
    fun o => ?_⟩
  · refine Marks.get?_eq_none_iff.trans ?_
    simp only [r, life, Life.covers_iff, not_exists, not_and]
    rw [List.eq_nil_iff_forall_not_mem]
    exact ⟨fun h m hm => h _ m hm (Int64.le_refl _), fun h _ m hm => absurd hm (h m)⟩
  · exact mark?_apply_of_handed_nothing rfl (handedTo_remove id i r)
  · refine mark?_apply_of_handed_nothing rfl ?_
    rw [Operation.apply, handedTo_register, hsettled.missed_eq_nil hi, ite_self]
  · rw [mark?_apply_eq_some_iff _ rfl, Operation.apply,
      handedTo_publish_of_nodup hsettled.nodup]
    by_cases hid : id ∈ ids r.registrations <;> simp [hid, timestamps]
  · rw [mark?, mark?, marks_quiet]

/-- A listener that accepts nothing. -/
def refusing : Listener Message := ⟨"a", fun _ _ => ([], .failed "")⟩

/-- Two messages are refused, the newer one first. Where there is room for one message only, a third
one that is older than the mark is published while the handle is not in use, and no listener that
comes back is handed it: the mark stays where the first one raised it. -/
theorem mark_is_newest_of_the_refused :
    let life := Life.of 1 [.register ⟨"a"⟩ refusing, .publish (sentAt (-3)), .publish (sentAt (-7)),
      .remove ⟨"a"⟩, .publish (sentAt (-5)), .register ⟨"a"⟩ refusing]
    handedTo ⟨"a"⟩ life.recent = [sentAt (-3), sentAt (-7)]
      ∧ ⟨"a"⟩ ∈ ids life.registry.registrations
      ∧ IsGreatest (timestamps (handedTo ⟨"a"⟩ life.recent)) (-3)
      ∧ ((Operation.register ⟨"a"⟩ accepting).apply life.registry).2.mark? ⟨"a"⟩ = some (-3) := by
  intro life
  have hin : ⟨"a"⟩ ∈ ids life.registry.registrations := by decide
  have hmark : life.registry.mark? ⟨"a"⟩ = some (-3) := by decide
  obtain ⟨hnewest, -, -, hreplaced, -⟩ := mark_is_newest 1 [.register ⟨"a"⟩ refusing,
    .publish (sentAt (-3)), .publish (sentAt (-7)), .remove ⟨"a"⟩, .publish (sentAt (-5)),
    .register ⟨"a"⟩ refusing] ⟨"a"⟩
  exact ⟨by decide, hin, (hnewest _).1 hmark, (hreplaced _ hin accepting).trans hmark⟩

end Registry
end Messenger
