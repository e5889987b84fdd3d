import Messenger.Proofs.Registry.Life

set_option autoImplicit false

/-! # Listeners do not disturb each other

A listener may fail or crash whenever it is called. What it was asked to take is handed to it all
the same, the others are handed what they would be handed anyway, and the registry comes out as if
the call had ended well: only the number of listeners that accepted a message tells the difference
(`handed_however_calls_end`).

The comparison is between two registries whose listeners *ask alike*: they make the same requests
at the same moments, but their calls may end in any way. Every operation keeps that, so it also
holds of whole lives (`Life.asksAlike`). -/

namespace Messenger

variable {M : Type}

/-! ## Listeners that ask alike -/

/-- Whether a listener accepts a message at a moment. -/
def Listener.accepts (l : Listener M) (moment : Nat) (m : M) : Bool :=
  (l.react moment m).2 = .accepted

/-- Two listeners under one label that ask for the same, however their calls end. -/
structure Listener.AsksAlike (l l' : Listener M) : Prop where
  label : l.label = l'.label
  requests : ∀ moment m, (l.react moment m).1 = (l'.react moment m).1

namespace Registry

structure Registration.AsksAlike (k k' : Registration M) : Prop where
  id : k.id = k'.id
  listener : k.listener.AsksAlike k'.listener

/-- Two registries that differ in how the calls of their listeners end. -/
structure AsksAlike (r r' : Registry M) : Prop where
  capacity : r.capacity = r'.capacity
  history : r.history = r'.history
  registrations : List.Forall₂ Registration.AsksAlike r.registrations r'.registrations
  marks : r.marks = r'.marks
  deferred : r.deferred = r'.deferred
  moment : r.moment = r'.moment

/-- Two operations of which the listeners ask alike. -/
inductive Operation.AsksAlike : Operation M → Operation M → Prop where
  | publish (m : M) : AsksAlike (.publish m) (.publish m)
  | register (id : ListenerId) {l l' : Listener M} (h : l.AsksAlike l') :
      AsksAlike (.register id l) (.register id l')
  | remove (id : ListenerId) : AsksAlike (.remove id) (.remove id)
  | reset : AsksAlike .reset .reset

/-- Two handings of one message to registrations that ask alike. -/
structure Handing.AsksAlike (h h' : Handing M) : Prop where
  registration : Registration.AsksAlike h.1 h'.1
  message : h.2 = h'.2

/-! ## Registrations -/

section Registrations

variable {rs rs' : List (Registration M)}

theorem labels_alike (h : List.Forall₂ Registration.AsksAlike rs rs') :
    rs.map (fun k => (k.id, k.listener.label)) = rs'.map fun k => (k.id, k.listener.label) := by
  induction h with
  | nil => rfl
  | cons hk _ ih => rw [List.map_cons, List.map_cons, ih, hk.id, hk.listener.label]

theorem ids_alike (h : List.Forall₂ Registration.AsksAlike rs rs') : ids rs = ids rs' := by
  have hlabels := congrArg (List.map Prod.fst) (labels_alike h)
  rw [List.map_map, List.map_map] at hlabels
  exact hlabels

theorem without_alike (gone : List ListenerId)
    (h : List.Forall₂ Registration.AsksAlike rs rs') :
    List.Forall₂ Registration.AsksAlike (without gone rs) (without gone rs') := by
  unfold without
  induction h with
  | nil => exact .nil
  | cons hk _ ih =>
      rw [List.filter_cons, List.filter_cons, hk.id]
      split
      · exact .cons hk ih
      · exact ih

theorem put_alike (id : ListenerId) {l l' : Listener M} (hl : l.AsksAlike l')
    (h : List.Forall₂ Registration.AsksAlike rs rs') :
    List.Forall₂ Registration.AsksAlike (put id l rs) (put id l' rs') := by
  induction h with
  | nil => exact .cons ⟨rfl, hl⟩ .nil
  | cons hk hks ih =>
      rw [put, put, hk.id]
      split
      · exact .cons ⟨rfl, hl⟩ hks
      · exact .cons hk ih

end Registrations

/-! ## Rounds -/

variable [Stamped M]

/-- The listeners that accept what a round hands to them are counted, each at its own moment. -/
theorem accepted_runRound (capacity : Nat) (hs : List (Handing M)) (moment : Nat)
    (deferred : List ListenerId) :
    (runRound capacity moment hs deferred).accepted
      = (hs.zipIdx moment).countP fun h => h.1.1.listener.accepts h.2 h.1.2 := by
  induction hs generalizing moment deferred with
  | nil => rfl
  | cons h hs ih =>
      rw [List.zipIdx_cons, List.countP_cons, ← ih (moment + 1)
        (hand capacity moment h deferred).deferred, Nat.add_comm]
      simp only [runRound, hand, Listener.accepts, decide_eq_true_eq]

section Rounds

variable {hs hs' : List (Handing M)}

/-- The same removals wait after two rounds whose listeners ask alike. -/
theorem deferred_runRound_alike (h : List.Forall₂ Handing.AsksAlike hs hs')
    (capacity moment : Nat) (deferred : List ListenerId) :
    (runRound capacity moment hs deferred).deferred
      = (runRound capacity moment hs' deferred).deferred := by
  induction h generalizing moment deferred with
  | nil => rfl
  | @cons h h' hs hs' hh _ ih =>
      have hfirst : (hand capacity moment h deferred).deferred
          = (hand capacity moment h' deferred).deferred := by
        simp only [hand, hh.message, hh.registration.listener.requests]
      simp only [runRound, hfirst]
      exact ih _ _

theorem raiseAll_alike (h : List.Forall₂ Handing.AsksAlike hs hs') (marks : Marks) :
    raiseAll marks hs = raiseAll marks hs' := by
  unfold raiseAll
  induction h generalizing marks with
  | nil => rfl
  | cons hh _ ih =>
      rw [List.foldl_cons, List.foldl_cons, hh.registration.id, hh.message]
      exact ih _

/-- Two registries that ask alike still do so after a round. -/
theorem AsksAlike.conclude {r r' : Registry M} (h : r.AsksAlike r')
    (hhs : List.Forall₂ Handing.AsksAlike hs hs') {α : Type} (result result' : Nat → α)
    (record record' : Nat → LogRecord) :
    (conclude r hs result record).2.2.AsksAlike (conclude r' hs' result' record').2.2 := by
  have hdeferred : (runRound r.capacity r.moment hs r.deferred).deferred
      = (runRound r'.capacity r'.moment hs' r'.deferred).deferred := by
    rw [h.capacity, h.moment, h.deferred]
    exact deferred_runRound_alike hhs _ _ _
  exact {
    capacity := h.capacity
    history := h.history
    registrations := by
      simp only [Registry.conclude, hdeferred]
      exact without_alike _ h.registrations
    marks := by
      simp only [Registry.conclude, h.marks]
      exact raiseAll_alike hhs _
    deferred := rfl
    moment := by simp only [Registry.conclude, h.moment, hhs.length_eq] }

end Rounds

/-! ## Operations and lives -/

theorem AsksAlike.publish {r r' : Registry M} (h : r.AsksAlike r') (m : M) :
    (r.publish m).2.2.AsksAlike (r'.publish m).2.2 := by
  have hsame : r.keep m = r'.keep m := by
    rw [keep, keep, h.history, h.capacity]
  have hkeep : ({ r with history := r.keep m } : Registry M).AsksAlike
      { r' with history := r'.keep m } :=
    { h with history := hsame }
  refine hkeep.conclude ?_ _ _ _ _
  rw [List.forall₂_map_left_iff, List.forall₂_map_right_iff]
  exact h.registrations.imp fun _ _ hk => ⟨hk, rfl⟩

theorem AsksAlike.missed {r r' : Registry M} (h : r.AsksAlike r') (id : ListenerId) :
    r.missed id = r'.missed id := by
  rw [Registry.missed, Registry.missed, h.history, h.marks]

theorem AsksAlike.register {r r' : Registry M} (h : r.AsksAlike r') (id : ListenerId)
    {l l' : Listener M} (hl : l.AsksAlike l') :
    (r.register id l).2.2.AsksAlike (r'.register id l').2.2 := by
  have hput : ({ r with registrations := put id l r.registrations } : Registry M).AsksAlike
      { r' with registrations := put id l' r'.registrations } :=
    { h with registrations := put_alike id hl h.registrations }
  refine hput.conclude ?_ _ _ _ _
  rw [h.missed id, List.forall₂_map_left_iff, List.forall₂_map_right_iff, List.forall₂_same]
  exact fun m _ => ⟨⟨rfl, hl⟩, rfl⟩

/-- Each operation hands out the same from two registries that ask alike, and leaves them so. -/
theorem AsksAlike.apply {r r' : Registry M} (h : r.AsksAlike r') {o o' : Operation M}
    (ho : o.AsksAlike o') :
    handings (o.apply r).1 = handings (o'.apply r').1 ∧ (o.apply r).2.AsksAlike (o'.apply r').2 := by
  cases ho with
  | publish m =>
      refine ⟨?_, h.publish m⟩
      have hlabels := congrArg (List.map fun k => (k.1, k.2, m)) (labels_alike h.registrations)
      rw [List.map_map, List.map_map] at hlabels
      simp only [Operation.apply, handings_publish]
      exact hlabels
  | register id hl =>
      refine ⟨?_, h.register id hl⟩
      simp only [Operation.apply, handings_register, h.missed id, hl.label]
  | remove id =>
      have hin : r.contains id = r'.contains id := by
        rw [Bool.eq_iff_iff, contains_iff, contains_iff, ids_alike h.registrations]
      simp only [Operation.apply, remove, hin]
      split
      · exact ⟨rfl, { h with registrations := without_alike _ h.registrations }⟩
      · exact ⟨rfl, h⟩
  | reset => exact ⟨rfl, h.capacity, rfl, .nil, rfl, rfl, rfl⟩

/-- **However calls end, a life takes the same course.** Two lives through operations whose
listeners ask alike hand out the same, and leave registries that differ in how calls end only. -/
theorem Life.asksAlike (capacity : Nat) {os os' : List (Operation M)}
    (h : List.Forall₂ Operation.AsksAlike os os') :
    handings (Life.of capacity os).notices = handings (Life.of capacity os').notices
      ∧ (Life.of capacity os).registry.AsksAlike (Life.of capacity os').registry := by
  -- Both lives go through their operations in step, from lives that already agree.
  have hfrom : ∀ life life' : Life M, handings life.notices = handings life'.notices →
      life.registry.AsksAlike life'.registry →
      handings (os.foldl Life.next life).notices = handings (os'.foldl Life.next life').notices
        ∧ (os.foldl Life.next life).registry.AsksAlike (os'.foldl Life.next life').registry := by
    induction h with
    | nil => exact fun _ _ hnotices hregistry => ⟨hnotices, hregistry⟩
    | cons ho _ ih =>
        intro life life' hnotices hregistry
        obtain ⟨hhanded, hleft⟩ := hregistry.apply ho
        refine ih _ _ ?_ hleft
        simp only [Life.next, handings_append, hnotices, hhanded]
  exact hfrom _ _ rfl ⟨rfl, rfl, .nil, rfl, rfl, rfl⟩

/-- **However calls end, the same is handed out.** In any two states that differ in how the calls of
listeners end, a publication hands its message once to each registered listener, in order of
registration, answers with the number of those that accepted it, and leaves the same kept messages,
marks and registrations. A registration hands over the same missed messages, answers with their
number whoever accepted them, and leaves the same marks. -/
theorem handed_however_calls_end {r r' : Registry M} (h : r.AsksAlike r') (m : M)
    (id : ListenerId) {l l' : Listener M} (hl : l.AsksAlike l') :
    (handings (r.publish m).2.1 = r.registrations.map (fun k => (k.id, k.listener.label, m))
        ∧ handings (r'.publish m).2.1 = handings (r.publish m).2.1
        ∧ (r.publish m).1 = (r.registrations.zipIdx r.moment).countP
            (fun k => k.1.listener.accepts k.2 m)
        ∧ (r.publish m).2.2.AsksAlike (r'.publish m).2.2)
      ∧ handings (r.register id l).2.1 = (r.missed id).map (fun m => (id, l.label, m))
        ∧ handings (r'.register id l').2.1 = handings (r.register id l).2.1
        ∧ (r.register id l).1 = (r.missed id).length
        ∧ (r'.register id l').1 = (r.register id l).1
        ∧ (r.register id l).2.2.AsksAlike (r'.register id l').2.2 := by
  have hcount : (r.publish m).1
      = (r.registrations.zipIdx r.moment).countP fun k => k.1.listener.accepts k.2 m := by
    simp only [Registry.publish, conclude, id_eq, accepted_runRound, List.zipIdx_map,
      List.countP_map]
    rfl
  have hlength : ∀ (r : Registry M) (l : Listener M),
      (r.register id l).1 = (r.missed id).length := by
    intro r l
    simp only [Registry.register, conclude, List.length_map]
  refine ⟨⟨handings_publish m r, ?_, hcount, h.publish m⟩, handings_register id l r, ?_,
    hlength r l, ?_, h.register id hl⟩
  · exact (h.apply (.publish m)).1.symm
  · exact (h.apply (.register id hl)).1.symm
  · rw [hlength r' l', hlength r l, h.missed id]

/-- A listener that asks to be removed, and whose calls end in some way. -/
def leavingBy (outcome : Outcome) : Listener Message :=
  ⟨"b", fun _ _ => ([.remove ⟨"b"⟩], outcome)⟩

/-- The first of two listeners leaves and crashes. The second one is handed the message all the
same, and is the only one left, as if the first had accepted it. -/
theorem handed_however_the_first_call_ends :
    let before := fun outcome : Outcome =>
      (Life.of 2 [.register ⟨"b"⟩ (leavingBy outcome), .register ⟨"a"⟩ accepting]).registry
    let after := fun outcome => (before outcome).publish (sentAt 5)
    (before .accepted).AsksAlike (before .crashed) ∧ accepting.AsksAlike accepting
      ∧ (after .accepted).2.2.AsksAlike (after .crashed).2.2
      ∧ handings (after .crashed).2.1
        = [(⟨"b"⟩, "b", sentAt 5), (⟨"a"⟩, "a", sentAt 5)]
      ∧ (after .accepted).1 = 2 ∧ (after .crashed).1 = 1
      ∧ ids (after .crashed).2.2.registrations = [⟨"a"⟩] := by
  intro before after
  have hleaving : (leavingBy .accepted).AsksAlike (leavingBy .crashed) := ⟨rfl, fun _ _ => rfl⟩
  have haccepting : accepting.AsksAlike accepting := ⟨rfl, fun _ _ => rfl⟩
  have hbefore : (before .accepted).AsksAlike (before .crashed) :=
    (Life.asksAlike 2 (.cons (.register ⟨"b"⟩ hleaving)
      (.cons (.register ⟨"a"⟩ haccepting) .nil))).2
  obtain ⟨⟨hhanded, hsame, -, hafter⟩, -⟩ :=
    handed_however_calls_end hbefore (sentAt 5) ⟨"a"⟩ haccepting
  exact ⟨hbefore, haccepting, hafter, hsame.trans hhanded, by decide, by decide, by decide⟩

end Registry
end Messenger
