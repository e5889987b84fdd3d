import Messenger.Proofs.Registry.Life
import Messenger.Proofs.Stream.Chunks

set_option autoImplicit false

/-! # What a feed hands to a listener

A feed publishes what its worker reads. This file follows one registered handle through it, from a
payload to a line, from lines to an occurrence: what the handle is given are the messages of the
payloads that the lines release, and nothing else (`hands_takeLines`). What the worker knows after
it, a piece of a line and whether a payload is wanted, is stated along with it, since the next
occurrence goes on from there. -/

namespace Messenger

open Registry

variable {σ : Type}

/-! ## Messages of payloads -/

/-- The messages that some payloads yield, classified in turn, and the state of the resolver after
them. -/
def Event.messages (resolver : Event.Resolver σ) : List String → σ → List Message × σ
  | [], s => ([], s)
  | payload :: payloads, s =>
    let (classification, _, s) := Event.classifyText resolver payload s
    let (ms, s) := messages resolver payloads s
    (classification.toOption.toList ++ ms, s)

theorem Event.messages_append (resolver : Event.Resolver σ) (ps qs : List String) (s : σ) :
    Event.messages resolver (ps ++ qs) s
      = ((Event.messages resolver ps s).1
            ++ (Event.messages resolver qs (Event.messages resolver ps s).2).1,
          (Event.messages resolver qs (Event.messages resolver ps s).2).2) := by
  induction ps generalizing s with
  | nil => rfl
  | cons p ps ih => simp only [List.cons_append, Event.messages, ih, List.append_assoc]

namespace Stream

theorem Framer.feedAll_append (f : Framer) (xs ys : List String) :
    f.feedAll (xs ++ ys)
      = ((f.feedAll xs).1 ++ ((f.feedAll xs).2.feedAll ys).1,
          ((f.feedAll xs).2.feedAll ys).2) := by
  induction xs generalizing f with
  | nil => rfl
  | cons x xs ih => simp only [List.cons_append, Framer.feedAll, ih, List.append_assoc]

namespace Feed

/-! ## What a handle is given -/

/-- What can be seen of a stretch of a feed, and the feed after it, as far as they concern a handle:
if the handle is registered at the end, it was at the beginning and is handed `ms`; the worker and
the resolver are left as `w` and `s`. -/
structure Hands (id : ListenerId) (before : Registry Message)
    (result : List (Notice Message) × Feed σ) (ms : List Message) (w : Worker) (s : σ) : Prop where
  worker : result.2.worker = w
  around : result.2.around = s
  settled : result.2.registry.Settled
  registered : id ∈ ids result.2.registry.registrations → id ∈ ids before.registrations
  handed : id ∈ ids result.2.registry.registrations → handedTo id result.1 = ms

variable {id : ListenerId}

/-- Stretches follow each other. -/
theorem Hands.trans {before : Registry Message} {first second : List (Notice Message) × Feed σ}
    {ms more : List Message} {w w' : Worker} {s s' : σ} (h : Hands id before first ms w s)
    (h' : Hands id first.2.registry second more w' s') :
    Hands id before (first.1 ++ second.1, second.2) (ms ++ more) w' s' where
  worker := h'.worker
  around := h'.around
  settled := h'.settled
  registered hid := h.registered (h'.registered hid)
  handed hid := by rw [handedTo_append, h.handed (h'.registered hid), h'.handed hid]

/-- A stretch that shows only records and leaves the registry alone hands nothing over. -/
theorem hands_of_logged {f : Feed σ} (h : f.registry.Settled) (log : List LogRecord)
    (w : Worker) (s : σ) :
    Hands id f.registry (log.map .logged, { worker := w, registry := f.registry, around := s })
      [] w s :=
  ⟨rfl, rfl, h, fun hid => hid, fun _ => handedTo_logged id log⟩

/-- A pause after a stretch hands nothing more over. -/
theorem Hands.pause {before : Registry Message} {result : List (Notice Message) × Feed σ}
    {ms : List Message} {w : Worker} {s : σ} (h : Hands id before result ms w s)
    (record : LogRecord) :
    Hands id before (result.1 ++ (result.2.pause (.logged record)).1,
      (result.2.pause (.logged record)).2) ms { w with state := .backoff } s where
  worker := by simp only [Feed.pause, moveTo, h.worker]
  around := h.around
  settled := h.settled
  registered := h.registered
  handed hid := by
    have hpause : handedTo id (result.2.pause (.logged record)).1 = [] :=
      handedTo_logged id [record]
    rw [handedTo_append, h.handed hid, hpause, List.append_nil]

theorem hands_publish {f : Feed σ} (h : f.registry.Settled) (m : Message) :
    Hands id f.registry
      ((f.registry.publish m).2.1, { f with registry := (f.registry.publish m).2.2 }) [m]
      f.worker f.around := by
  have hregistered : id ∈ ids (f.registry.publish m).2.2.registrations →
      id ∈ ids f.registry.registrations :=
    mem_during_of_mem_apply (.publish m) h.deferred_eq
  refine ⟨rfl, rfl, h.apply (.publish m), hregistered, fun hid => ?_⟩
  rw [handedTo_publish_of_nodup h.nodup, if_pos (hregistered hid)]

variable (resolver : Event.Resolver σ)

/-- A payload hands over the message that it yields, if any. -/
theorem hands_takePayload (payload : String) {f : Feed σ} (h : f.registry.Settled) :
    Hands id f.registry (f.takePayload resolver payload)
      (Event.messages resolver [payload] f.around).1 f.worker
      (Event.messages resolver [payload] f.around).2 := by
  rcases hclass : Event.classifyText resolver payload f.around with ⟨classification, log, around⟩
  have hmessages : Event.messages resolver [payload] f.around
      = (classification.toOption.toList, around) := by
    simp only [Event.messages, hclass, List.append_nil]
  rw [hmessages]
  have hlog : Hands id f.registry (log.map .logged, { f with around }) [] f.worker around :=
    hands_of_logged h log f.worker around
  cases classification with
  | error reason =>
      have htake : f.takePayload resolver payload = (log.map .logged, { f with around }) := by
        simp only [takePayload, hclass]
      rw [htake]
      exact hlog
  | ok message =>
      have htake : f.takePayload resolver payload
          = (log.map .logged ++ (f.registry.publish message).2.1,
              { f with registry := (f.registry.publish message).2.2, around }) := by
        simp only [takePayload, hclass]
      rw [htake]
      exact hlog.trans (hands_publish (f := { f with around }) h message)

/-- A line hands over the message of the payload that it releases, if any. -/
theorem hands_takeLine (item : Except LogRecord String) {f : Feed σ} (h : f.registry.Settled) :
    let fed := f.worker.framer.feedAll (completed [item])
    Hands id f.registry (f.takeLine resolver item) (Event.messages resolver fed.1 f.around).1
      { f.worker with framer := fed.2 } (Event.messages resolver fed.1 f.around).2 := by
  cases item with
  | error record => exact hands_of_logged h [record] f.worker f.around
  | ok line =>
      rcases hfeed : f.worker.framer.feed line with ⟨payload, framer⟩
      have hfed : f.worker.framer.feedAll (completed [.ok line]) = (payload.toList, framer) := by
        show f.worker.framer.feedAll [line] = _
        simp only [Framer.feedAll, hfeed, List.append_nil]
      simp only [takeLine, hfeed]
      rw [hfed]
      have hread : Hands id f.registry ([], { f with worker := { f.worker with framer } }) []
          { f.worker with framer } f.around := hands_of_logged h [] _ _
      cases payload with
      | none => exact hread
      | some payload =>
          exact hread.trans (hands_takePayload resolver payload
            (f := { f with worker := { f.worker with framer } }) h)

/-- **Lines hand over the messages of the payloads that they release**, in order and once each. -/
theorem hands_takeLines (items : List (Except LogRecord String)) {f : Feed σ}
    (h : f.registry.Settled) :
    let fed := f.worker.framer.feedAll (completed items)
    Hands id f.registry (takeLines resolver items f) (Event.messages resolver fed.1 f.around).1
      { f.worker with framer := fed.2 } (Event.messages resolver fed.1 f.around).2 := by
  induction items generalizing f with
  | nil => exact hands_of_logged h [] f.worker f.around
  | cons item items ih =>
      have first : Hands id f.registry (f.takeLine resolver item) _ _ _ :=
        hands_takeLine resolver item h
      have rest := ih first.settled
      have hitems : completed (item :: items) = completed [item] ++ completed items :=
        completed_append [item] items
      simp only [first.worker, first.around] at rest
      rw [hitems, Framer.feedAll_append]
      simp only [Event.messages_append]
      exact first.trans rest

end Feed
end Stream
end Messenger
