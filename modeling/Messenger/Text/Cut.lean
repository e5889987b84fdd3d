set_option autoImplicit false

/-! # Cutting a text to a number of bytes

Previews in log records and the bodies of refused replies are bounded in bytes of UTF-8. A text that
is too long is cut at the bound or, if that falls inside a character, at the nearest offset before
it that does not. -/

namespace Messenger.Text

/-- The offset at which a walk from `n` to the front, one byte at a time, comes to stand between two
characters of `s`, or at one of its ends. -/
def backOff (s : String) : Nat → Nat
  | 0 => 0
  | n + 1 => if String.Pos.Raw.isValid s ⟨n + 1⟩ then n + 1 else backOff s n

/-- The walk never ends inside a character. -/
theorem isValid_backOff (s : String) (n : Nat) : String.Pos.Raw.IsValid s ⟨backOff s n⟩ := by
  induction n with
  | zero => exact String.Pos.Raw.isValid_zero
  | succ n ih =>
      unfold backOff
      split
      next hvalid => exact String.Pos.Raw.isValid_eq_true_iff.1 hvalid
      next => exact ih

/-- What is left of `s` when it is cut to `n` bytes. -/
def cut (n : Nat) (s : String) : String :=
  if s.utf8ByteSize ≤ n then s else (s.sliceTo ⟨⟨backOff s n⟩, isValid_backOff s n⟩).copy

theorem backOff_le (s : String) (n : Nat) : backOff s n ≤ n := by
  induction n with
  | zero => exact Nat.le_refl 0
  | succ n ih =>
      unfold backOff
      split
      next => exact Nat.le_refl (n + 1)
      next => exact Nat.le_succ_of_le ih

/-- The walk passes over no offset between characters. -/
theorem le_backOff {s : String} {k n : Nat} (hvalid : String.Pos.Raw.IsValid s ⟨k⟩) (hk : k ≤ n) :
    k ≤ backOff s n := by
  induction n with
  | zero => exact hk
  | succ n ih =>
      unfold backOff
      split
      next => exact hk
      next hpassed =>
        have hne : k ≠ n + 1 := by
          rintro rfl
          exact hpassed (String.Pos.Raw.isValid_eq_true_iff.2 hvalid)
        exact ih (by omega)

/-- What fits is left as it is. -/
theorem cut_of_le {n : Nat} {s : String} (h : s.utf8ByteSize ≤ n) : cut n s = s := if_pos h

/-- What does not fit is taken apart where the walk ends. -/
theorem cut_of_lt {n : Nat} {s : String} (h : n < s.utf8ByteSize) :
    (cut n s).utf8ByteSize = backOff s n ∧ ∃ rest, cut n s ++ rest = s := by
  rw [cut, if_neg (Nat.not_le.2 h)]
  have hsplits := String.Pos.splits (s := s) ⟨⟨backOff s n⟩, isValid_backOff s n⟩
  exact ⟨congrArg String.Pos.Raw.byteIdx hsplits.offset_eq_rawEndPos.symm, _,
    hsplits.eq_append.symm⟩

end Messenger.Text
