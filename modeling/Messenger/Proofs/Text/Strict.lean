import Messenger.Proofs.Text.Utf8

set_option autoImplicit false

/-! # Bytes that are a text

Strict reading is the inverse of the encoding in both directions: bytes are read as a text exactly
if they are the bytes that encode it (`ofUtf8?_eq_some_iff`). So a text has one encoding only, and
overlong forms, surrogates and codes that are too large are no part of any. -/

namespace Messenger.Text

namespace Utf8

variable {a b c d : Nat} (bytes : List UInt8)

/-! ## What encodes a code

The code of a character is put together from groups of six bits; its encoding spells out the same
groups. -/

theorem toNat_val_ofNat {n : Nat} (h : n.isValidChar) : (Char.ofNat n).val.toNat = n := by
  rw [Char.ofNat, dif_pos h]
  rfl

theorem utf8Char_one (ha : a < 128) : utf8Char (Char.ofNat a) = [UInt8.ofNat a] := by
  have hvalid : a.isValidChar := Or.inl (by omega)
  simp only [utf8Char, String.utf8EncodeChar, toNat_val_ofNat hvalid]
  rw [if_pos (by omega)]

theorem utf8Char_two (ha : a < 32) (hshort : 2 ≤ a) (hb : b < 64) :
    utf8Char (Char.ofNat (a * 64 + b)) = [UInt8.ofNat (a + 192), UInt8.ofNat (b + 128)] := by
  have hvalid : (a * 64 + b).isValidChar := Or.inl (by omega)
  simp only [utf8Char, String.utf8EncodeChar, toNat_val_ofNat hvalid]
  rw [if_neg (by omega), if_pos (by omega)]
  simp only [List.cons.injEq, and_true]
  refine ⟨congrArg UInt8.ofNat ?_, congrArg UInt8.ofNat ?_⟩ <;> omega

theorem utf8Char_three (ha : a < 16) (hb : b < 64) (hc : c < 64) (hshort : a = 0 → 32 ≤ b)
    (hsurrogate : a = 13 → b < 32) :
    utf8Char (Char.ofNat ((a * 64 + b) * 64 + c))
      = [UInt8.ofNat (a + 224), UInt8.ofNat (b + 128), UInt8.ofNat (c + 128)] := by
  have hvalid : ((a * 64 + b) * 64 + c).isValidChar := by
    unfold Nat.isValidChar
    omega
  simp only [utf8Char, String.utf8EncodeChar, toNat_val_ofNat hvalid]
  rw [if_neg (by omega), if_neg (by omega), if_pos (by omega)]
  simp only [List.cons.injEq, and_true]
  refine ⟨congrArg UInt8.ofNat ?_, congrArg UInt8.ofNat ?_, congrArg UInt8.ofNat ?_⟩ <;> omega

theorem utf8Char_four (ha : a < 5) (hb : b < 64) (hc : c < 64) (hd : d < 64)
    (hshort : a = 0 → 16 ≤ b) (hlarge : a = 4 → b < 16) :
    utf8Char (Char.ofNat (((a * 64 + b) * 64 + c) * 64 + d))
      = [UInt8.ofNat (a + 240), UInt8.ofNat (b + 128), UInt8.ofNat (c + 128),
          UInt8.ofNat (d + 128)] := by
  have hvalid : (((a * 64 + b) * 64 + c) * 64 + d).isValidChar := by
    unfold Nat.isValidChar
    omega
  simp only [utf8Char, String.utf8EncodeChar, toNat_val_ofNat hvalid]
  rw [if_neg (by omega), if_neg (by omega), if_neg (by omega)]
  simp only [List.cons.injEq, and_true]
  refine ⟨congrArg UInt8.ofNat ?_, congrArg UInt8.ofNat ?_, congrArg UInt8.ofNat ?_,
    congrArg UInt8.ofNat ?_⟩ <;> omega

/-! ## What is read as characters

If nothing stray comes of some bytes, each first byte is followed by as many continuation bytes,
within the bounds, as it owes. So the bytes are those that encode the character. -/

theorem step_none : ∀ n < 256, 128 ≤ n → n < 194 ∨ 245 ≤ n →
    step (UInt8.ofNat n) .ready = ([.stray 1], .ready) := by
  decide +kernel

/-- A byte begins a character of one of four widths, or none. -/
theorem first_cases (byte : UInt8) :
    (∃ a < 128, byte = UInt8.ofNat a) ∨ (∃ a < 32, 2 ≤ a ∧ byte = UInt8.ofNat (a + 192))
      ∨ (∃ a < 16, byte = UInt8.ofNat (a + 224)) ∨ (∃ a < 5, byte = UInt8.ofNat (a + 240))
      ∨ step byte .ready = ([.stray 1], .ready) := by
  obtain ⟨n, hn, rfl⟩ : ∃ n < 256, byte = UInt8.ofNat n :=
    ⟨byte.toNat, byte.toNat_lt, UInt8.ofNat_toNat.symm⟩
  have hsub {k : Nat} (hk : k ≤ n) : UInt8.ofNat n = UInt8.ofNat (n - k + k) := by
    rw [Nat.sub_add_cancel hk]
  by_cases hone : n < 128
  · exact .inl ⟨n, hone, rfl⟩
  by_cases hnone : n < 194 ∨ 245 ≤ n
  · exact .inr (.inr (.inr (.inr (step_none n hn (by omega) hnone))))
  by_cases htwo : n < 224
  · exact .inr (.inl ⟨n - 192, by omega, by omega, hsub (by omega)⟩)
  by_cases hthree : n < 240
  · exact .inr (.inr (.inl ⟨n - 224, by omega, hsub (by omega)⟩))
  · exact .inr (.inr (.inr (.inl ⟨n - 240, by omega, hsub (by omega)⟩)))

/-- Inside a character, what is read as characters goes on with a byte within the bounds. -/
theorem exists_continuation {seen owed code : Nat} {low high : UInt8} {cs : List Char}
    (h : (piecesFrom (.inside seen owed low high code) bytes).mapM Piece.char? = some cs)
    (hlow : 0x80 ≤ low) (hhigh : high ≤ 0xBF) :
    ∃ b rest, bytes = UInt8.ofNat (b + 128) :: rest ∧ b < 64 ∧ low.toNat ≤ b + 128
      ∧ b + 128 ≤ high.toNat := by
  cases bytes with
  | nil => simp [piecesFrom, Piece.char?] at h
  | cons byte rest =>
      by_cases hfits : (low ≤ byte && byte ≤ high) = true
      · rw [Bool.and_eq_true, decide_eq_true_eq, decide_eq_true_eq, UInt8.le_iff_toNat_le,
          UInt8.le_iff_toNat_le] at hfits
        have hlow : 128 ≤ low.toNat := UInt8.le_iff_toNat_le.1 hlow
        have hhigh : high.toNat ≤ 191 := UInt8.le_iff_toNat_le.1 hhigh
        refine ⟨byte.toNat - 128, rest, ?_, by omega, by omega, by omega⟩
        rw [Nat.sub_add_cancel (by omega), UInt8.ofNat_toNat]
      · simp only [piecesFrom, step, if_neg hfits, List.cons_append, List.mapM_cons,
          Piece.char?] at h
        contradiction

/-- Bytes that are read as characters begin with those that encode one of them. -/
theorem exists_utf8Char {byte : UInt8} {cs : List Char}
    (h : (piecesFrom .ready (byte :: bytes)).mapM Piece.char? = some cs) :
    ∃ c rest, byte :: bytes = utf8Char c ++ rest := by
  rcases first_cases byte with ⟨a, ha, rfl⟩ | ⟨a, ha, hshort, rfl⟩ | ⟨a, ha, rfl⟩ | ⟨a, ha, rfl⟩
    | hnone
  · exact ⟨Char.ofNat a, bytes, by rw [utf8Char_one ha]; rfl⟩
  · rw [piecesFrom_cons _ (step_two a ha hshort), List.nil_append] at h
    obtain ⟨b, rest, rfl, hb, -, -⟩ := exists_continuation bytes h (by decide) (by decide)
    exact ⟨_, rest, by rw [utf8Char_two ha hshort hb]; rfl⟩
  · rw [piecesFrom_cons _ (step_three a ha), List.nil_append] at h
    obtain ⟨b, rest, rfl, hb, hmin, hmax⟩ :=
      exists_continuation bytes h (by split <;> decide) (by split <;> decide)
    rw [piecesFrom_cons _ (step_inner hb (continues hb hmin hmax)), List.nil_append] at h
    obtain ⟨c, rest, rfl, hc, -, -⟩ := exists_continuation _ h (by decide) (by decide)
    have hshort : a = 0 → 32 ≤ b := fun h => by
      rw [if_pos h] at hmin
      exact Nat.le_of_add_le_add_right (show 32 + 128 ≤ b + 128 from hmin)
    have hsurrogate : a = 13 → b < 32 := fun h => by
      rw [if_pos h] at hmax
      exact Nat.lt_of_add_lt_add_right (Nat.lt_succ_of_le hmax)
    exact ⟨_, rest, by rw [utf8Char_three ha hb hc hshort hsurrogate]; rfl⟩
  · rw [piecesFrom_cons _ (step_four a ha), List.nil_append] at h
    obtain ⟨b, rest, rfl, hb, hmin, hmax⟩ :=
      exists_continuation bytes h (by split <;> decide) (by split <;> decide)
    rw [piecesFrom_cons _ (step_inner hb (continues hb hmin hmax)), List.nil_append] at h
    obtain ⟨c, rest, rfl, hc, -, -⟩ := exists_continuation _ h (by decide) (by decide)
    rw [piecesFrom_cons _ (step_inner hc (continues_tail hc)), List.nil_append] at h
    obtain ⟨d, rest, rfl, hd, -, -⟩ := exists_continuation _ h (by decide) (by decide)
    have hshort : a = 0 → 16 ≤ b := fun h => by
      rw [if_pos h] at hmin
      exact Nat.le_of_add_le_add_right (show 16 + 128 ≤ b + 128 from hmin)
    have hlarge : a = 4 → b < 16 := fun h => by
      rw [if_pos h] at hmax
      exact Nat.lt_of_add_lt_add_right (Nat.lt_succ_of_le hmax)
    exact ⟨_, rest, by rw [utf8Char_four ha hb hc hd hshort hlarge]; rfl⟩
  · rw [piecesFrom_cons _ hnone] at h
    simp [Piece.char?] at h

/-- Bytes that are read as characters encode these. -/
theorem eq_of_mapM_char? {bytes : List UInt8} {cs : List Char}
    (h : (piecesFrom .ready bytes).mapM Piece.char? = some cs) : bytes = cs.flatMap utf8Char := by
  cases bytes with
  | nil =>
      obtain rfl : [] = cs := by simpa [piecesFrom] using h
      rfl
  | cons byte bytes =>
      obtain ⟨c, rest, hbytes⟩ := exists_utf8Char bytes h
      have hshorter : rest.length < (byte :: bytes).length := by
        rw [hbytes, List.length_append]
        exact Nat.lt_add_of_pos_left (List.length_pos_iff.2 String.utf8EncodeChar_ne_nil)
      rw [hbytes, piecesFrom_utf8Char] at h
      have happend := mapM_char?_map_char_append [c] (piecesFrom .ready rest)
      rw [List.map_singleton, List.singleton_append, h] at happend
      obtain ⟨more, hmore, rfl⟩ := Option.map_eq_some_iff.1 happend.symm
      rw [hbytes, eq_of_mapM_char? hmore, List.singleton_append, List.flatMap_cons]
termination_by bytes.length

end Utf8

/-- **Strict reading.** Bytes are read as a text exactly if they encode it. -/
theorem ofUtf8?_eq_some_iff {bytes : List UInt8} {s : String} :
    ofUtf8? bytes = some s ↔ toUtf8 s = bytes := by
  constructor
  · intro h
    obtain ⟨cs, hcs, rfl⟩ := Option.map_eq_some_iff.1 h
    rw [toUtf8, String.toList_ofList]
    exact (Utf8.eq_of_mapM_char? hcs).symm
  · rintro rfl
    exact ofUtf8?_toUtf8 s

end Messenger.Text
