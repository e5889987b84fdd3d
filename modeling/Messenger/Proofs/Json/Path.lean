import Messenger.Proofs.Json.Order

set_option autoImplicit false

/-! # Paths into JSON values

A path of keys leads from a value through objects, and ends at a value or nowhere. Values are
well-founded along such paths, so what holds of an object as soon as it holds of all that stands
under its keys holds of every value (`Value.objects_induction`). -/

namespace Messenger.Json.Value

/-- The value at the end of a path of keys that leads through objects. -/
def at? : List String → Value → Option Value
  | [], v => some v
  | key :: keys, v => (v.get? key).bind (at? keys)

theorem at?_cons (key : String) (keys : List String) (v : Value) :
    v.at? (key :: keys) = (v.get? key).bind (at? keys) := rfl

theorem at?_obj (key : String) (keys : List String) (ms : Members) :
    (obj ms).at? (key :: keys) = (ms.get? key).bind (at? keys) := rfl

@[simp] theorem bind_at?_nil (x : Option Value) : x.bind (at? []) = x := by
  cases x <;> rfl

/-- Only an object has anything at the end of a path. -/
theorem exists_obj_of_at? {key : String} {keys : List String} {v w : Value}
    (h : v.at? (key :: keys) = some w) :
    ∃ (ms : Members) (x : Value), v = .obj ms ∧ ms.get? key = some x ∧ x.at? keys = some w := by
  rw [at?_cons, Option.bind_eq_some_iff] at h
  obtain ⟨x, hx, hw⟩ := h
  rw [get?, Option.bind_eq_some_iff] at hx
  obtain ⟨ms, hms, hx⟩ := hx
  exact ⟨ms, x, obj?_eq_some_iff.1 hms, hx, hw⟩

/-- What holds of a value that is no object, and of an object if it holds of all that stands under
its keys, holds of every value. -/
theorem objects_induction {P : Value → Prop} (plain : ∀ v, v.obj? = none → P v)
    (objects : ∀ ms : Members, (∀ key v, ms.get? key = some v → P v) → P (.obj ms)) (v : Value) :
    P v := by
  cases v with
  | obj ms =>
      refine objects ms fun key v hv => ?_
      have hsmaller : sizeOf v < sizeOf ms := by
        have hmem := List.sizeOf_lt_of_mem (Members.mem_of_get? hv)
        simp only [Prod.mk.sizeOf_spec] at hmem
        omega
      exact objects_induction plain objects v
  | _ => exact plain _ rfl
termination_by sizeOf v

end Messenger.Json.Value
