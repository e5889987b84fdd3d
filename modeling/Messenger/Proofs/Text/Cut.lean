import Mathlib.Order.Bounds.Basic
import Messenger.Proofs.Text.Utf8
import Messenger.Text.Cut

set_option autoImplicit false

/-! # What is left of a text that is cut

A cut is made at a number of bytes, but leaves a text: of all texts whose bytes begin those of the
whole one and fit, the one with the most bytes (`longestFit_cut`). The walk back from the bound ends
at the last offset between characters (`isGreatest_backOff`), and as no character takes more than
four bytes, less than four bytes of what is allowed are given up (`cut_at_last_boundary`). -/

namespace Messenger.Text

variable {n k : Nat} {s t : String}

theorem length_toUtf8 (s : String) : (toUtf8 s).length = s.utf8ByteSize := by
  rw [← List.size_toByteArray, toUtf8]
  exact congrArg ByteArray.size String.utf8Encode_toList

/-- A text begins with another one exactly if its bytes begin with those of the other. -/
theorem toUtf8_prefix_iff (t s : String) : toUtf8 t <+: toUtf8 s ↔ ∃ rest, t ++ rest = s := by
  constructor
  · rintro ⟨bytes, hbytes⟩
    have hread : ofUtf8? (toUtf8 t ++ bytes) = some s := by rw [hbytes, ofUtf8?_toUtf8]
    rw [ofUtf8?_toUtf8_append, Option.map_eq_some_iff] at hread
    obtain ⟨rest, -, hrest⟩ := hread
    exact ⟨rest, hrest⟩
  · rintro ⟨rest, rfl⟩
    exact ⟨toUtf8 rest, (toUtf8_append t rest).symm⟩

/-! ## Texts that fit -/

/-- `t` is the longest text that some text `s` begins with, of those that fit into `n` bytes. -/
structure LongestFit (n : Nat) (s t : String) : Prop where
  begins : toUtf8 t <+: toUtf8 s
  fits : (toUtf8 t).length ≤ n
  longest : ∀ u, toUtf8 u <+: toUtf8 s → (toUtf8 u).length ≤ n → toUtf8 u <+: toUtf8 t

/-- What is given up of the bytes allowed has no room for one more character. -/
theorem LongestFit.lt_add_four (h : LongestFit n s t) (hlong : n < (toUtf8 s).length) :
    n < (toUtf8 t).length + 4 := by
  obtain ⟨rest, rfl⟩ := (toUtf8_prefix_iff t s).1 h.begins
  obtain ⟨cs, rfl⟩ := String.exists_eq_ofList rest
  cases cs with
  | nil =>
      have hfits := h.fits
      rw [String.ofList_nil, String.append_empty] at hlong
      omega
  | cons c cs =>
      have hbegins : toUtf8 (t ++ String.singleton c) <+: toUtf8 (t ++ String.ofList (c :: cs)) :=
        (toUtf8_prefix_iff _ _).2 ⟨String.ofList cs, by
          rw [String.append_assoc, String.ofList_cons]⟩
      have hsize : (toUtf8 (t ++ String.singleton c)).length = (toUtf8 t).length + c.utf8Size := by
        rw [length_toUtf8, length_toUtf8, String.utf8ByteSize_append, String.utf8ByteSize_singleton]
      have hpos := c.utf8Size_pos
      have hfour := c.utf8Size_le_four
      -- With room for it, the text with one more character would be a longer one that fits.
      by_contra hroom
      have hlonger := (h.longest _ hbegins (by omega)).length_le
      omega

/-! ## Offsets between characters -/

/-- The first `k` bytes of `s` are a text, and so are the others. -/
def IsBoundary (s : String) (k : Nat) : Prop :=
  ∃ t rest, t ++ rest = s ∧ (toUtf8 t).length = k

theorem isBoundary_iff_isValid : IsBoundary s k ↔ String.Pos.Raw.IsValid s ⟨k⟩ := by
  rw [String.Pos.Raw.isValid_iff_exists_append]
  constructor
  · rintro ⟨t, rest, hs, hk⟩
    rw [length_toUtf8] at hk
    exact ⟨t, rest, hs.symm, String.Pos.Raw.ext hk.symm⟩
  · rintro ⟨t, rest, hs, hk⟩
    refine ⟨t, rest, hs.symm, ?_⟩
    rw [length_toUtf8]
    exact (congrArg String.Pos.Raw.byteIdx hk).symm

/-- The walk from `n` ends at the last offset between characters. -/
theorem isGreatest_backOff (s : String) (n : Nat) :
    IsGreatest {k | IsBoundary s k ∧ k ≤ n} (backOff s n) :=
  ⟨⟨isBoundary_iff_isValid.2 (isValid_backOff s n), backOff_le s n⟩,
    fun _ ⟨hboundary, hk⟩ => le_backOff (isBoundary_iff_isValid.1 hboundary) hk⟩

/-! ## Cuts -/

/-- The cut of a text that is too long ends where the walk does. -/
theorem length_cut (h : n < (toUtf8 s).length) : (toUtf8 (cut n s)).length = backOff s n := by
  rw [length_toUtf8] at h ⊢
  exact (cut_of_lt h).1

theorem longestFit_cut (n : Nat) (s : String) : LongestFit n s (cut n s) := by
  by_cases hlong : n < (toUtf8 s).length
  · have hbegins : toUtf8 (cut n s) <+: toUtf8 s :=
      (toUtf8_prefix_iff _ _).2 (cut_of_lt (length_toUtf8 s ▸ hlong)).2
    refine ⟨hbegins, (length_cut hlong).trans_le (backOff_le s n), fun u hu hfits => ?_⟩
    -- Where `u` ends there is a boundary, and the walk from `n` has not passed it.
    obtain ⟨rest, hrest⟩ := (toUtf8_prefix_iff u s).1 hu
    have hend : (toUtf8 u).length ≤ backOff s n :=
      (isGreatest_backOff s n).2 ⟨⟨u, rest, hrest, rfl⟩, hfits⟩
    exact List.prefix_of_prefix_length_le hu hbegins (hend.trans_eq (length_cut hlong).symm)
  · have hwhole : (toUtf8 s).length ≤ n := Nat.not_lt.1 hlong
    rw [cut_of_le (length_toUtf8 s ▸ hwhole)]
    exact ⟨List.prefix_rfl, hwhole, fun u hu _ => hu⟩

/-- **The cut.** The walk from `n` ends between characters, at the last such offset. What is left is
the longest text that fits: the whole one if it fits, and otherwise one that ends where the walk
does, less than four bytes below `n`. -/
theorem cut_at_last_boundary (n : Nat) (s : String) :
    IsGreatest {k | IsBoundary s k ∧ k ≤ n} (backOff s n)
      ∧ LongestFit n s (cut n s)
      ∧ ((toUtf8 s).length ≤ n ∧ cut n s = s
        ∨ n < (toUtf8 s).length ∧ (toUtf8 (cut n s)).length = backOff s n
          ∧ n < backOff s n + 4) := by
  refine ⟨isGreatest_backOff s n, longestFit_cut n s, ?_⟩
  rcases Nat.lt_or_ge n (toUtf8 s).length with hlong | hwhole
  · refine .inr ⟨hlong, length_cut hlong, ?_⟩
    rw [← length_cut hlong]
    exact (longestFit_cut n s).lt_add_four hlong
  · exact .inl ⟨hwhole, cut_of_le (length_toUtf8 s ▸ hwhole)⟩

/-- A character of four bytes does not fit behind one byte of three. -/
example : cut 3 "a👍b" = "a" := by decide

end Messenger.Text
