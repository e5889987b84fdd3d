import Mathlib.Data.List.DropRight
import Messenger.Proofs.Registry.Marks

set_option autoImplicit false

/-! # What a round does

Of the notices of a round two things matter later: which messages were handed to whom, and
which requests the listeners made. The first depends only on what the round was to hand out, never
on what the listeners did. Of the second only removals have an effect, and only those that no
request to reset follows. -/

namespace Messenger

variable {M : Type}

/-! ## Views of what can be seen -/

/-- The message that a notice says was handed to a handle. -/
def Notice.handedTo? (id : ListenerId) : Notice M → Option M
  | .handed i _ m => if i = id then some m else none
  | _ => none

/-- What a notice says was handed over: to which handle, to the listener of which label, and the
message. -/
def Notice.handing? : Notice M → Option (ListenerId × String × M)
  | .handed id label m => some (id, label, m)
  | _ => none

/-- The request that a notice tells of. -/
def Notice.request? : Notice M → Option (Request M)
  | .requested _ request _ => some request
  | _ => none

/-- The messages handed to a handle, in order. -/
def handedTo (id : ListenerId) (notices : List (Notice M)) : List M :=
  notices.filterMap (Notice.handedTo? id)

/-- All that was handed over, in order. -/
def handings (notices : List (Notice M)) : List (ListenerId × String × M) :=
  notices.filterMap Notice.handing?

/-- The requests that listeners made, in order. -/
def requestsIn (notices : List (Notice M)) : List (Request M) :=
  notices.filterMap Notice.request?

@[simp] theorem handedTo_nil (id : ListenerId) : handedTo id ([] : List (Notice M)) = [] := rfl

theorem handedTo_cons (id : ListenerId) (n : Notice M) (ns : List (Notice M)) :
    handedTo id (n :: ns) = (n.handedTo? id).toList ++ handedTo id ns := by
  cases h : n.handedTo? id <;> simp [handedTo, h]

@[simp] theorem handedTo_append (id : ListenerId) (ns ms : List (Notice M)) :
    handedTo id (ns ++ ms) = handedTo id ns ++ handedTo id ms :=
  List.filterMap_append

@[simp] theorem handedTo_logged (id : ListenerId) (log : List LogRecord) :
    handedTo id (log.map (Notice.logged : LogRecord → Notice M)) = [] := by
  induction log with
  | nil => rfl
  | cons record log ih => rw [List.map_cons, handedTo_cons, ih]; rfl

theorem handings_cons (n : Notice M) (ns : List (Notice M)) :
    handings (n :: ns) = n.handing?.toList ++ handings ns := by
  cases h : n.handing? <;> simp [handings, h]

@[simp] theorem handings_append (ns ms : List (Notice M)) :
    handings (ns ++ ms) = handings ns ++ handings ms :=
  List.filterMap_append

@[simp] theorem handings_logged (log : List LogRecord) :
    handings (log.map (Notice.logged : LogRecord → Notice M)) = [] := by
  induction log with
  | nil => rfl
  | cons record log ih => rw [List.map_cons, handings_cons, ih]; rfl

/-- What was handed to a handle is found among all that was handed over. -/
theorem handedTo_eq (id : ListenerId) (ns : List (Notice M)) :
    handedTo id ns = ((handings ns).filter fun h => h.1 = id).map (·.2.2) := by
  induction ns with
  | nil => rfl
  | cons n ns ih =>
      rw [handedTo_cons, handings_cons, List.filter_append, List.map_append, ih]
      congr 1
      cases n with
      | handed i label m =>
          by_cases h : i = id <;> simp [Notice.handedTo?, Notice.handing?, h]
      | _ => rfl

theorem requestsIn_cons (n : Notice M) (ns : List (Notice M)) :
    requestsIn (n :: ns) = n.request?.toList ++ requestsIn ns := by
  cases h : n.request? <;> simp [requestsIn, h]

@[simp] theorem requestsIn_append (ns ms : List (Notice M)) :
    requestsIn (ns ++ ms) = requestsIn ns ++ requestsIn ms :=
  List.filterMap_append

@[simp] theorem requestsIn_logged (log : List LogRecord) :
    requestsIn (log.map (Notice.logged : LogRecord → Notice M)) = [] := by
  induction log with
  | nil => rfl
  | cons record log ih => rw [List.map_cons, requestsIn_cons, ih]; rfl

/-! ## Requests to remove and to reset -/

/-- The handle that a request asks to remove. -/
def Request.removal? : Request M → Option ListenerId
  | .remove id => some id
  | _ => none

/-- Whether a request is to reset. -/
def Request.isReset : Request M → Bool
  | .reset => true
  | _ => false

/-- The handles that some requests ask to remove. -/
def removals (requests : List (Request M)) : List ListenerId :=
  requests.filterMap Request.removal?

/-- The requests that no request to reset follows. -/
def sinceReset (requests : List (Request M)) : List (Request M) :=
  requests.rtakeWhile fun request => !request.isReset

namespace Registry

/-- The queue grows with each request to remove, and a request to reset empties it. -/
theorem foldl_deferInside (requests : List (Request M)) :
    requests.foldl deferInside [] = removals (sinceReset requests) := by
  induction requests using List.reverseRecOn with
  | nil => rfl
  | append_singleton requests request ih =>
      rw [List.foldl_append, List.foldl_cons, List.foldl_nil, ih]
      cases request with
      | reset => simp [sinceReset, deferInside, Request.isReset, removals]
      | _ =>
          simp [sinceReset, deferInside, Request.isReset, removals, Request.removal?]

theorem requestsIn_noticesInside (capacity : Nat) (label : String) (requests : List (Request M)) :
    requestsIn (noticesInside capacity label requests) = requests := by
  unfold noticesInside
  induction requests with
  | nil => rfl
  | cons request requests ih =>
      rw [List.flatMap_cons, requestsIn_append, requestsIn_append, requestsIn_logged, ih]
      rfl

theorem handings_noticesInside (capacity : Nat) (label : String) (requests : List (Request M)) :
    handings (noticesInside capacity label requests) = [] := by
  unfold noticesInside
  induction requests with
  | nil => rfl
  | cons request requests ih =>
      rw [List.flatMap_cons, handings_append, handings_append, handings_logged, ih]
      rfl

/-! ## Handles -/

/-- The handles in use, in order of registration. -/
def ids (rs : List (Registration M)) : List ListenerId := rs.map (·.id)

theorem ids_without (gone : List ListenerId) (rs : List (Registration M)) :
    ids (without gone rs) = (ids rs).filter fun id => !gone.contains id := by
  unfold ids without
  rw [List.filter_map]
  rfl

theorem ids_put (id : ListenerId) (l : Listener M) (rs : List (Registration M)) :
    ids (put id l rs) = if id ∈ ids rs then ids rs else ids rs ++ [id] := by
  unfold ids
  induction rs with
  | nil => simp [put]
  | cons r rs ih =>
      by_cases h : r.id = id
      · simp [put, h]
      · rw [put, if_neg h, List.map_cons, List.map_cons, ih]
        by_cases hmem : id ∈ rs.map (·.id)
        · rw [if_pos hmem, if_pos (List.mem_cons_of_mem _ hmem)]
        · have hnot : id ∉ r.id :: rs.map (·.id) := by
            simp only [List.mem_cons, not_or]
            exact ⟨Ne.symm h, hmem⟩
          rw [if_neg hmem, if_neg hnot, List.cons_append]

theorem contains_iff (id : ListenerId) (r : Registry M) :
    r.contains id = true ↔ id ∈ ids r.registrations := by
  simp [contains, ids]

/-! ## Handing out -/

variable [Stamped M]

theorem requestsIn_hand (capacity moment : Nat) (h : Handing M) (deferred : List ListenerId) :
    requestsIn (hand capacity moment h deferred).notices
      = (h.1.listener.react moment h.2).1 := by
  simp only [hand, List.cons_append]
  rw [requestsIn_cons, requestsIn_append, requestsIn_logged, requestsIn_noticesInside,
    List.append_nil]
  rfl

theorem handings_hand (capacity moment : Nat) (h : Handing M) (deferred : List ListenerId) :
    handings (hand capacity moment h deferred).notices = [(h.1.id, h.1.listener.label, h.2)] := by
  simp only [hand, List.cons_append]
  rw [handings_cons, handings_append, handings_logged, handings_noticesInside]
  rfl

/-- A round hands out what it was to hand out, whatever the listeners do. -/
theorem handings_runRound (capacity : Nat) (hs : List (Handing M)) (moment : Nat)
    (deferred : List ListenerId) :
    handings (runRound capacity moment hs deferred).notices
      = hs.map fun h => (h.1.id, h.1.listener.label, h.2) := by
  induction hs generalizing moment deferred with
  | nil => rfl
  | cons h hs ih => simp only [runRound, handings_append, handings_hand, ih, List.map_cons,
      List.singleton_append]

/-- The queue after a round is made from the requests of all its listeners in turn. -/
theorem deferred_runRound (capacity : Nat) (hs : List (Handing M)) (moment : Nat)
    (deferred : List ListenerId) :
    (runRound capacity moment hs deferred).deferred
      = (requestsIn (runRound capacity moment hs deferred).notices).foldl deferInside deferred := by
  induction hs generalizing moment deferred with
  | nil => rfl
  | cons h hs ih =>
      simp only [runRound, requestsIn_append, List.foldl_append, requestsIn_hand]
      exact ih _ _

variable {α : Type} (r : Registry M) (hs : List (Handing M)) (result : Nat → α)
  (record : Nat → LogRecord)

theorem handings_conclude :
    handings (conclude r hs result record).2.1
      = hs.map fun h => (h.1.id, h.1.listener.label, h.2) := by
  simp only [conclude, handings_append, handings_logged, handings_runRound, List.append_nil]

theorem handedTo_conclude (id : ListenerId) :
    handedTo id (conclude r hs result record).2.1 = (hs.filter fun h => h.1.id = id).map (·.2) := by
  rw [handedTo_eq, handings_conclude, List.filter_map, List.map_map]
  rfl

theorem requestsIn_conclude :
    requestsIn (conclude r hs result record).2.1
      = requestsIn (runRound r.capacity r.moment hs r.deferred).notices := by
  simp only [conclude, requestsIn_append, requestsIn_logged, List.append_nil]

/-- After a round exactly the handles are gone whose removal was requested after the last request
to reset. -/
theorem registrations_conclude (hr : r.deferred = []) :
    (conclude r hs result record).2.2.registrations
      = without (removals (sinceReset (requestsIn (conclude r hs result record).2.1)))
          r.registrations := by
  rw [requestsIn_conclude, ← foldl_deferInside]
  simp only [conclude, deferred_runRound, hr]

end Registry
end Messenger
