import Mathlib.Data.List.Basic
import Messenger.Text.Ascii

set_option autoImplicit false

/-! # Numbers in texts

A number that a text writes is known exactly, however great it is: it is the value of the decimal
digits, and a text with anything else in it, a plus sign in front aside, writes none. -/

namespace Messenger.Text

/-- A text that writes a number: decimal digits, at least one, perhaps behind a plus sign. -/
inductive Numeral : List Char → Nat → Prop where
  | plain {cs : List Char} (hne : cs ≠ []) (hdigits : ∀ c ∈ cs, c.isDigit = true) :
      Numeral cs (ofDigits 10 (cs.map fun c => c.toNat - '0'.toNat))
  | signed {cs : List Char} (hne : cs ≠ []) (hdigits : ∀ c ∈ cs, c.isDigit = true) :
      Numeral ('+' :: cs) (ofDigits 10 (cs.map fun c => c.toNat - '0'.toNat))

theorem mapM_digit?_eq_some_iff {cs : List Char} {ds : List Nat} :
    cs.mapM digit? = some ds
      ↔ (∀ c ∈ cs, c.isDigit = true) ∧ ds = cs.map fun c => c.toNat - '0'.toNat := by
  induction cs generalizing ds with
  | nil =>
      constructor
      · intro h
        exact ⟨nofun, (Option.some.inj h).symm⟩
      · rintro ⟨-, rfl⟩
        rfl
  | cons c cs ih =>
      cases hc : c.isDigit with
      | false => simp [digit?, hc]
      | true =>
          simp only [List.mapM_cons, digit?, hc, if_true, Option.bind_eq_bind, Option.bind_some,
            Option.bind_eq_some_iff, ih, List.forall_mem_cons, true_and, List.map_cons]
          constructor
          · rintro ⟨_, ⟨hdigits, rfl⟩, hds⟩
            exact ⟨hdigits, (Option.some.inj hds).symm⟩
          · rintro ⟨hdigits, rfl⟩
            exact ⟨_, ⟨hdigits, rfl⟩, rfl⟩

theorem nat?_eq_some_iff {cs : List Char} {n : Nat} :
    nat? cs = some n ↔ cs ≠ [] ∧ (∀ c ∈ cs, c.isDigit = true)
      ∧ n = ofDigits 10 (cs.map fun c => c.toNat - '0'.toNat) := by
  cases cs with
  | nil => simp [nat?]
  | cons c cs =>
      simp only [nat?, List.isEmpty_cons, Bool.false_eq_true, if_false, Option.map_eq_some_iff,
        mapM_digit?_eq_some_iff]
      constructor
      · rintro ⟨_, ⟨hdigits, rfl⟩, rfl⟩
        exact ⟨List.cons_ne_nil _ _, hdigits, rfl⟩
      · rintro ⟨-, hdigits, rfl⟩
        exact ⟨_, ⟨hdigits, rfl⟩, rfl⟩

/-- **Numbers are read exactly**, whatever their size. -/
theorem unsigned?_eq_some_iff {cs : List Char} {n : Nat} :
    unsigned? cs = some n ↔ Numeral cs n := by
  constructor
  · intro h
    unfold unsigned? at h
    split at h
    · obtain ⟨hne, hdigits, rfl⟩ := nat?_eq_some_iff.1 h
      exact .signed hne hdigits
    · obtain ⟨hne, hdigits, rfl⟩ := nat?_eq_some_iff.1 h
      exact .plain hne hdigits
  · intro h
    cases h with
    | plain hne hdigits =>
        unfold unsigned?
        split
        · -- A plus sign is no digit.
          exact absurd (hdigits '+' List.mem_cons_self) (by decide)
        · exact nat?_eq_some_iff.2 ⟨hne, hdigits, rfl⟩
    | signed hne hdigits => exact nat?_eq_some_iff.2 ⟨hne, hdigits, rfl⟩

end Messenger.Text
