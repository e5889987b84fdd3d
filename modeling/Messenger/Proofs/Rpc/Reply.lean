import Messenger.Proofs.Json.Decode
import Messenger.Rpc.Reply

set_option autoImplicit false

/-! # What a reply says

The body of a reply is decoded field by field. Here is what comes of it, in terms of the members of
the body: a reported failure is one of two shapes (`Reports`, `ServerError.ofJson_iff`), and each of
the four fields of a reply holds what stands under its key, unless that is missing
(`Reply.ofJson_eq_ok_iff`). -/

namespace Messenger.Rpc

open Json
open Decoder (OnlyMismatches Readable Slot bind_eq_error_iff bind_eq_ok_iff onlyMismatches_any
  onlyMismatches_scalar readable_cons_iff spares_field)

/-! ## Reported failures -/

/-- A value reports a failure with a code and a message: as an object, or as an array of the code,
the message and perhaps details. -/
inductive Reports : Value → Int64 → String → Prop where
  | members {ms : Members} {code : Int64} {message : String} {c : Value}
      (hcode : ms.get? "code" = some c) (hword : c.int64? = some code)
      (hmessage : ms.get? "message" = some (.str message)) : Reports (.obj ms) code message
  | items {c : Value} {code : Int64} {message : String} {details : List Value}
      (hword : c.int64? = some code) (hdetails : details.length ≤ 1) :
      Reports (.arr (c :: .str message :: details)) code message

namespace ServerError

theorem slot_code : Slot shape "code" .int64 Draft.code fun a x => { x with code := some a } where
  mem := by simp [shape]
  get_put _ _ := rfl
  frame := by simp [shape, spares_field]

theorem slot_message :
    Slot shape "message" .string Draft.message fun a x => { x with message := some a } where
  mem := by simp [shape]
  get_put _ _ := rfl
  frame := by simp [shape, spares_field]

theorem slot_data :
    Slot shape "data" (.option .any) Draft.data fun a x => { x with data := some a } where
  mem := by simp [shape]
  get_put _ _ := rfl
  frame := by simp [shape, spares_field]

theorem lawful : shape.Lawful where
  names_nodup := by decide
  slotted := by
    simp only [Decoder.Shape.Slotted, shape, List.forall_mem_cons]
    exact ⟨⟨_, _, _, _, _, slot_code, rfl⟩, ⟨_, _, _, _, _, slot_message, rfl⟩,
      ⟨_, _, _, _, _, slot_data, rfl⟩, by simp⟩
  unset := by
    simp only [shape, List.forall_mem_cons]
    exact ⟨rfl, rfl, rfl, by simp⟩

theorem finish_eq_ok_iff {x : Draft} {e : ServerError} :
    shape.finish x = .ok e ↔ x.code = some e.code ∧ x.message = some e.message
      ∧ x.data.join = e.data := by
  obtain ⟨code, message, data⟩ := e
  simp only [shape, bind_eq_ok_iff, Decoder.required_eq_ok_iff]
  constructor
  · rintro ⟨_, hcode, _, hmessage, hall⟩
    cases hall
    exact ⟨hcode, hmessage, rfl⟩
  · rintro ⟨hcode, hmessage, rfl⟩
    exact ⟨code, hcode, message, hmessage, rfl⟩

theorem onlyMismatches : OnlyMismatches shape.decoder := by
  refine Decoder.Shape.onlyMismatches ?_ ?_
  · simp only [shape, List.forall_mem_cons]
    exact ⟨(onlyMismatches_scalar _).field, (onlyMismatches_scalar _).field,
      onlyMismatches_any.option.field, by simp⟩
  · intro x fault h
    simp only [shape, bind_eq_error_iff] at h
    rcases h with h | ⟨_, -, h | ⟨_, -, h⟩⟩
    · exact Decoder.onlyMismatches_required h
    · exact Decoder.onlyMismatches_required h
    · cases h

/-- The object form. -/
theorem ofJson_obj_iff {ms : Members} (hms : (ms.map Prod.fst).Nodup) {code : Int64}
    {message : String} :
    (∃ data, ofJson (.obj ms) = .ok ⟨code, message, data⟩) ↔ Reports (.obj ms) code message := by
  constructor
  · rintro ⟨data, h⟩
    obtain ⟨x, hx, hfinish⟩ := bind_eq_ok_iff.1 h
    obtain ⟨hcode, hmessage, -⟩ := finish_eq_ok_iff.1 hfinish
    have hc := slot_code.under_get? lawful hms hx
    have hm := slot_message.under_get? lawful hms hx
    rw [hcode, Decoder.under_eq_some_iff] at hc
    rw [hmessage, Decoder.under_eq_some_iff] at hm
    obtain ⟨c, hc, hword⟩ := hc
    obtain ⟨m, hm, htext⟩ := hm
    rw [Decoder.string_eq_ok_iff] at htext
    exact .members hc (Decoder.int64_eq_ok_iff.1 hword) (htext ▸ hm)
  · intro h
    obtain @⟨_, _, _, c, hc, hword, hm⟩ := h
    have hcode : Decoder.int64.under (ms.get? "code") = .ok (some code) :=
      Decoder.under_eq_some_iff.2 ⟨_, hc, Decoder.int64_eq_ok_iff.2 hword⟩
    have hmessage : Decoder.string.under (ms.get? "message") = .ok (some message) :=
      Decoder.under_eq_some_iff.2 ⟨_, hm, Decoder.string_eq_ok_iff.2 rfl⟩
    have hread : Readable shape.fields ms := by
      simp only [shape, readable_cons_iff, List.forall_mem_singleton]
      exact ⟨⟨_, hcode⟩, ⟨_, hmessage⟩, Decoder.any_option_under _, by simp [Readable]⟩
    obtain ⟨x, hx⟩ := lawful.ofMembers_isOk hms hread
    have hcode' := slot_code.under_get? lawful hms hx
    have hmessage' := slot_message.under_get? lawful hms hx
    rw [hcode, Except.ok.injEq] at hcode'
    rw [hmessage, Except.ok.injEq] at hmessage'
    exact ⟨x.data.join, bind_eq_ok_iff.2
      ⟨x, hx, finish_eq_ok_iff.2 ⟨hcode'.symm, hmessage'.symm, rfl⟩⟩⟩

/-- The items after the message: details at most, and they change neither code nor message. -/
theorem ofItems_details_iff {details : List Value} {x : Draft} {code : Int64} {message : String} :
    (∃ y data, Decoder.Shape.ofItems (shape.fields.drop 2) x details = .ok y
        ∧ shape.finish y = .ok ⟨code, message, data⟩)
      ↔ x.code = some code ∧ x.message = some message ∧ details.length ≤ 1 := by
  rcases details with _ | ⟨d, _ | ⟨d', details⟩⟩
  · constructor
    · rintro ⟨y, data, hy, hall⟩
      cases hy
      obtain ⟨hcode, hmessage, -⟩ := finish_eq_ok_iff.1 hall
      exact ⟨hcode, hmessage, by simp⟩
    · rintro ⟨hcode, hmessage, -⟩
      exact ⟨x, x.data.join, rfl, finish_eq_ok_iff.2 ⟨hcode, hmessage, rfl⟩⟩
  · constructor
    · rintro ⟨y, data, hy, hall⟩
      obtain ⟨g, hg, hy⟩ := bind_eq_ok_iff.1 hy
      obtain ⟨o, -, rfl⟩ := Decoder.field_put_eq_ok_iff.1 hg
      cases hy
      obtain ⟨hcode, hmessage, -⟩ := finish_eq_ok_iff.1 hall
      exact ⟨hcode, hmessage, by simp⟩
    · rintro ⟨hcode, hmessage, -⟩
      obtain ⟨o, ho⟩ : ∃ o, (Decoder.any.option).ofValue d = .ok o := by
        cases hnull : d.isNull <;> simp [Decoder.option, Decoder.any, hnull, Except.map]
      refine ⟨{ x with data := some o }, o, ?_, finish_eq_ok_iff.2 ⟨hcode, hmessage, rfl⟩⟩
      exact bind_eq_ok_iff.2 ⟨_, Decoder.field_put_eq_ok_iff.2 ⟨o, ho, rfl⟩, rfl⟩
  · constructor
    · rintro ⟨y, data, hy, -⟩
      obtain ⟨g, -, hrest⟩ := bind_eq_ok_iff.1 hy
      cases hrest
    · rintro ⟨-, -, hlength⟩
      simp at hlength

/-- The array form. -/
theorem ofJson_arr_iff {vs : List Value} {code : Int64} {message : String} :
    (∃ data, ofJson (.arr vs) = .ok ⟨code, message, data⟩) ↔ Reports (.arr vs) code message := by
  have hfinish : ∀ data, ofJson (.arr vs) = .ok ⟨code, message, data⟩
      ↔ ∃ y, Decoder.Shape.ofItems shape.fields {} vs = .ok y
          ∧ shape.finish y = .ok ⟨code, message, data⟩ := fun data => bind_eq_ok_iff
  simp only [hfinish]
  constructor
  · rintro ⟨data, y, hy, hall⟩
    rcases vs with _ | ⟨c, _ | ⟨m, details⟩⟩
    · cases hy
      cases hall
    · obtain ⟨g, hg, hrest⟩ := bind_eq_ok_iff.1 hy
      obtain ⟨n, -, rfl⟩ := Decoder.field_put_eq_ok_iff.1 hg
      cases hrest
      cases hall
    · obtain ⟨g, hg, hrest⟩ := bind_eq_ok_iff.1 hy
      obtain ⟨n, hword, rfl⟩ := Decoder.field_put_eq_ok_iff.1 hg
      obtain ⟨g, hg, hrest⟩ := bind_eq_ok_iff.1 hrest
      obtain ⟨s, htext, rfl⟩ := Decoder.field_put_eq_ok_iff.1 hg
      obtain rfl := Decoder.string_eq_ok_iff.1 htext
      obtain ⟨hcode, hmessage, hdetails⟩ := ofItems_details_iff.1 ⟨y, data, hrest, hall⟩
      cases hcode
      cases hmessage
      exact .items (Decoder.int64_eq_ok_iff.1 hword) hdetails
  · intro h
    cases h with
    | items hword hdetails =>
        obtain ⟨y, data, hy, hall⟩ := (ofItems_details_iff
          (x := { code := some code, message := some message })).2 ⟨rfl, rfl, hdetails⟩
        refine ⟨data, y, bind_eq_ok_iff.2 ⟨_, Decoder.field_put_eq_ok_iff.2
          ⟨code, Decoder.int64_eq_ok_iff.2 hword, rfl⟩, ?_⟩, hall⟩
        exact bind_eq_ok_iff.2 ⟨_, Decoder.field_put_eq_ok_iff.2
          ⟨message, Decoder.string_eq_ok_iff.2 rfl, rfl⟩, hy⟩

/-- **A reported failure** is read from exactly the values that report it. -/
theorem ofJson_iff {v : Value} (hv : v.Ordered) {code : Int64} {message : String} :
    (∃ data, ofJson v = .ok ⟨code, message, data⟩) ↔ Reports v code message := by
  cases v with
  | obj ms => exact ofJson_obj_iff hv.1.nodup
  | arr vs => exact ofJson_arr_iff
  | _ =>
      constructor
      · rintro ⟨_, h⟩
        cases h
      · intro h
        cases h

end ServerError

/-! ## Replies -/

namespace Reply

theorem slot_jsonrpc :
    Slot shape "jsonrpc" (.option .string) Draft.jsonrpc
      fun a x => { x with jsonrpc := some a } where
  mem := by simp [shape]
  get_put _ _ := rfl
  frame := by simp [shape, spares_field]

theorem slot_id : Slot shape "id" (.option .any) Draft.id fun a x => { x with id := some a } where
  mem := by simp [shape]
  get_put _ _ := rfl
  frame := by simp [shape, spares_field]

theorem slot_result :
    Slot shape "result" (.option .any) Draft.result fun a x => { x with result := some a } where
  mem := by simp [shape]
  get_put _ _ := rfl
  frame := by simp [shape, spares_field]

theorem slot_error :
    Slot shape "error" (.option ServerError.shape.decoder) Draft.error fun a x =>
      { x with error := some a } where
  mem := by simp [shape]
  get_put _ _ := rfl
  frame := by simp [shape, spares_field]

theorem lawful : shape.Lawful where
  names_nodup := by decide
  slotted := by
    simp only [Decoder.Shape.Slotted, shape, List.forall_mem_cons]
    exact ⟨⟨_, _, _, _, _, slot_jsonrpc, rfl⟩, ⟨_, _, _, _, _, slot_id, rfl⟩,
      ⟨_, _, _, _, _, slot_result, rfl⟩, ⟨_, _, _, _, _, slot_error, rfl⟩, by simp⟩
  unset := by
    simp only [shape, List.forall_mem_cons]
    exact ⟨rfl, rfl, rfl, rfl, by simp⟩

theorem onlyMismatches : OnlyMismatches shape.decoder := by
  refine Decoder.Shape.onlyMismatches ?_ ?_
  · simp only [shape, List.forall_mem_cons]
    exact ⟨(onlyMismatches_scalar _).option.field, onlyMismatches_any.option.field,
      onlyMismatches_any.option.field, ServerError.onlyMismatches.option.field, by simp⟩
  · intro x fault h
    cases h

/-- **What a reply says.** Each field is what stands under its key, unless that is missing. -/
theorem ofJson_eq_ok_iff {ms : Members} (hms : (ms.map Prod.fst).Nodup) {r : Reply} :
    ofJson (.obj ms) = .ok r
      ↔ Decoder.string.optional (ms.get? "jsonrpc") = .ok r.jsonrpc
        ∧ Decoder.any.optional (ms.get? "id") = .ok r.id
        ∧ Decoder.any.optional (ms.get? "result") = .ok r.result
        ∧ ServerError.shape.decoder.optional (ms.get? "error") = .ok r.error := by
  simp only [Decoder.optional_eq_iff_under]
  constructor
  · intro h
    obtain ⟨x, hx, hfinish⟩ := bind_eq_ok_iff.1 h
    cases hfinish
    exact ⟨⟨_, slot_jsonrpc.under_get? lawful hms hx, rfl⟩,
      ⟨_, slot_id.under_get? lawful hms hx, rfl⟩, ⟨_, slot_result.under_get? lawful hms hx, rfl⟩,
      ⟨_, slot_error.under_get? lawful hms hx, rfl⟩⟩
  · -- Whatever stands under the four keys can be read, so there is a draft, and its slots are that.
    rintro ⟨⟨j, hj, hj'⟩, ⟨i, hi, hi'⟩, ⟨v, hv, hv'⟩, ⟨e, he, he'⟩⟩
    have hread : Readable shape.fields ms := by
      simp only [shape, readable_cons_iff, List.forall_mem_singleton]
      exact ⟨⟨j, hj⟩, ⟨i, hi⟩, ⟨v, hv⟩, ⟨e, he⟩, by simp [Readable]⟩
    obtain ⟨x, hx⟩ := lawful.ofMembers_isOk hms hread
    refine bind_eq_ok_iff.2 ⟨x, hx, ?_⟩
    have hj'' := hj.symm.trans (slot_jsonrpc.under_get? lawful hms hx)
    have hi'' := hi.symm.trans (slot_id.under_get? lawful hms hx)
    have hv'' := hv.symm.trans (slot_result.under_get? lawful hms hx)
    have he'' := he.symm.trans (slot_error.under_get? lawful hms hx)
    simp only [Except.ok.injEq] at hj'' hi'' hv'' he''
    simp only [shape, ← hj'', ← hi'', ← hv'', ← he'', hj', hi', hv', he']

end Reply
end Messenger.Rpc
