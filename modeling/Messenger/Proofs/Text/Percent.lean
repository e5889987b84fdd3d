import Messenger.Proofs.Text.Strict
import Messenger.Text.Percent

set_option autoImplicit false

/-! # Percent-encoding and decoding

Decoding goes from the front and takes an escape wherever it finds one, so it may only be cut where
no escape can begin (`decode_append`). What bytes are written as is a relation: a character that is
admitted stands for its own byte, and any byte may be escaped (`Spells`). Bytes are written as what
is read as them (`spells_encode`, `Spells.decode`). -/

namespace Messenger.Text.Percent

/-! ## Where escapes end -/

/-- A byte that is no hexadecimal digit. -/
def IsPlain (b : UInt8) : Prop := hexDigit? (Char.ofNat b.toNat) = none

/-- A byte is no escape unless two digits follow. -/
theorem decode_cons (b : UInt8) {bytes : List UInt8}
    (h : ∃ y ys, IsPlain y ∧ (bytes = y :: ys ∨ ∃ x, bytes = x :: y :: ys)) :
    decode (b :: bytes) = b :: decode bytes := by
  obtain ⟨y, ys, hy, rfl | ⟨x, rfl⟩⟩ := h
  · cases ys with
    | nil => rfl
    | cons z ys =>
        rw [decode]
        split
        · rw [hy]
        · rfl
  · rw [decode]
    split
    · rw [hy]
      cases hexDigit? (Char.ofNat x.toNat) <;> rfl
    · rfl

theorem decode_of_plain {ys : List UInt8} (h : ∀ y ∈ ys, IsPlain y) : decode ys = ys := by
  induction ys with
  | nil => rfl
  | cons y ys ih =>
      rw [List.forall_mem_cons] at h
      cases ys with
      | nil => rfl
      | cons z ys => rw [decode_cons y ⟨z, ys, (List.forall_mem_cons.1 h.2).1, .inl rfl⟩, ih h.2]

/-- Bytes that are no digits are no part of an escape. -/
theorem decode_append_cons {y : UInt8} {ys : List UInt8} (h : ∀ z ∈ y :: ys, IsPlain z) :
    ∀ xs : List UInt8, decode (xs ++ y :: ys) = decode xs ++ y :: ys
  | [] => decode_of_plain h
  | [b] => by
      show decode (b :: y :: ys) = _
      rw [decode_cons b ⟨y, ys, h y List.mem_cons_self, .inl rfl⟩, decode_of_plain h]
      rfl
  | [b, c] => by
      have hlast := decode_append_cons h [c]
      rw [List.singleton_append] at hlast
      show decode (b :: c :: y :: ys) = _
      rw [decode_cons b ⟨y, ys, h y List.mem_cons_self, .inr ⟨c, rfl⟩⟩, hlast]
      rfl
  | b :: c :: d :: xs => by
      have hnext := decode_append_cons h (c :: d :: xs)
      have hbehind := decode_append_cons h xs
      simp only [List.cons_append] at hnext
      simp only [List.cons_append, decode]
      split
      · split
        · rw [hbehind, List.cons_append]
        · rw [hnext, List.cons_append]
      · rw [hnext, List.cons_append]

theorem decode_append {ys : List UInt8} (h : ∀ y ∈ ys, IsPlain y) (xs : List UInt8) :
    decode (xs ++ ys) = decode xs ++ ys := by
  cases ys with
  | nil => rw [List.append_nil, List.append_nil]
  | cons y ys => exact decode_append_cons h xs

/-! ## What stands for bytes -/

/-- A text spells bytes: an admitted character stands for its own byte, and a percent sign with two
hexadecimal digits for the byte of that number. -/
inductive Spells (admitted : Char → Bool) : List Char → List UInt8 → Prop where
  | nil : Spells admitted [] []
  | plain {c : Char} {cs : List Char} {bytes : List UInt8} (hadmitted : admitted c = true)
      (hascii : c.toNat < 128) (h : Spells admitted cs bytes) :
      Spells admitted (c :: cs) (UInt8.ofNat c.toNat :: bytes)
  | escape {high low : Char} {x y : Nat} {cs : List Char} {bytes : List UInt8}
      (hhigh : hexDigit? high = some x) (hlow : hexDigit? low = some y)
      (h : Spells admitted cs bytes) :
      Spells admitted ('%' :: high :: low :: cs) (UInt8.ofNat (16 * x + y) :: bytes)

variable {admitted : Char → Bool}

theorem hexDigit?_hexDigitUpper : ∀ n < 16, hexDigit? (hexDigitUpper n) = some n := by
  decide

/-- A byte is written as a text that spells it. -/
theorem spells_encodeByte (b : UInt8) {cs : List Char} {bytes : List UInt8}
    (h : Spells admitted cs bytes) : Spells admitted (encodeByte admitted b ++ cs) (b :: bytes) := by
  have hsmall : b.toNat < 256 := b.toNat_lt
  by_cases hplain : (b < 0x80 && admitted (Char.ofNat b.toNat)) = true
  · have hbyte : encodeByte admitted b = [Char.ofNat b.toNat] := if_pos hplain
    rw [Bool.and_eq_true, decide_eq_true_eq, UInt8.lt_iff_toNat_lt] at hplain
    obtain ⟨hascii, hadmitted⟩ := hplain
    have hcode : (Char.ofNat b.toNat).toNat = b.toNat :=
      Utf8.toNat_val_ofNat (.inl (Nat.lt_trans hascii (by decide)))
    have hspells := Spells.plain hadmitted (hcode.symm ▸ hascii : _ < 128) h
    rw [hcode, UInt8.ofNat_toNat] at hspells
    rwa [hbyte]
  · have hbyte : encodeByte admitted b = escape b := if_neg hplain
    have hspells := Spells.escape (hexDigit?_hexDigitUpper (b.toNat / 16) (by omega))
      (hexDigit?_hexDigitUpper (b.toNat % 16) (by omega)) h
    rw [Nat.div_add_mod, UInt8.ofNat_toNat] at hspells
    rwa [hbyte]

/-- Bytes are written as a text that spells them. -/
theorem spells_encode (bytes : List UInt8) : Spells admitted (encode admitted bytes) bytes := by
  induction bytes with
  | nil => exact .nil
  | cons b bytes ih => exact spells_encodeByte b ih

/-! ## Reading what was spelled -/

theorem decode_of_ne {b : UInt8} (h : b ≠ 0x25) (bytes : List UInt8) :
    decode (b :: bytes) = b :: decode bytes := by
  match bytes with
  | [] => rfl
  | [_] => rfl
  | _ :: _ :: _ => rw [decode, if_neg h]

theorem decode_escape {high low : UInt8} {x y : Nat}
    (hhigh : hexDigit? (Char.ofNat high.toNat) = some x)
    (hlow : hexDigit? (Char.ofNat low.toNat) = some y) (bytes : List UInt8) :
    decode (0x25 :: high :: low :: bytes) = UInt8.ofNat (16 * x + y) :: decode bytes := by
  rw [decode, if_pos rfl, hhigh, hlow]

/-- A hexadecimal digit is an ASCII character. -/
theorem toNat_of_hexDigit? {c : Char} {n : Nat} (h : hexDigit? c = some n) : c.toNat < 128 := by
  unfold hexDigit? at h
  split at h
  next hdigit =>
    have hhigh : c.toNat ≤ 57 := (Char.isDigit_iff_toNat.1 hdigit).2
    omega
  next =>
    split at h
    next hlower =>
      rw [Bool.and_eq_true, decide_eq_true_eq, decide_eq_true_eq] at hlower
      have hhigh : c.toNat ≤ 102 := hlower.2
      omega
    next =>
      split at h
      next hupper =>
        rw [Bool.and_eq_true, decide_eq_true_eq, decide_eq_true_eq] at hupper
        have hhigh : c.toNat ≤ 70 := hupper.2
        omega
      next => cases h

theorem utf8Char_of_ascii {c : Char} (h : c.toNat < 128) :
    utf8Char c = [UInt8.ofNat c.toNat] := by
  have hone := Utf8.utf8Char_one h
  rwa [Char.ofNat_toNat] at hone

theorem ofNat_toNat_ofNat {c : Char} (h : c.toNat < 128) :
    Char.ofNat (UInt8.ofNat c.toNat).toNat = c := by
  rw [UInt8.toNat_ofNat', Nat.mod_eq_of_lt (by omega), Char.ofNat_toNat]

namespace Spells

variable {cs : List Char} {bytes : List UInt8}

/-- **What spells bytes is decoded as them**, unless a percent sign may stand for itself. -/
theorem decode (h : Spells admitted cs bytes) (hpercent : admitted '%' = false) :
    Percent.decode (cs.flatMap utf8Char) = bytes := by
  induction h with
  | nil => rfl
  | @plain c cs bytes hadmitted hascii _ ih =>
      have hne : UInt8.ofNat c.toNat ≠ 0x25 := by
        intro hbyte
        have hc : Char.ofNat (UInt8.ofNat c.toNat).toNat = '%' := by rw [hbyte]; rfl
        rw [ofNat_toNat_ofNat hascii] at hc
        rw [hc, hpercent] at hadmitted
        cases hadmitted
      rw [List.flatMap_cons, utf8Char_of_ascii hascii, List.singleton_append, decode_of_ne hne, ih]
  | @escape high low x y cs bytes hhigh hlow _ ih =>
      have hascii := toNat_of_hexDigit? hhigh
      have hascii' := toNat_of_hexDigit? hlow
      have hpercent : utf8Char '%' = [0x25] := by decide
      simp only [List.flatMap_cons, hpercent, utf8Char_of_ascii hascii, utf8Char_of_ascii hascii',
        List.singleton_append]
      rw [decode_escape, ih]
      · rwa [ofNat_toNat_ofNat hascii]
      · rwa [ofNat_toNat_ofNat hascii']

/-- The characters of such a text are admitted, or they belong to escapes. -/
theorem mem (h : Spells admitted cs bytes) {c : Char} (hc : c ∈ cs) :
    admitted c = true ∨ c = '%' ∨ ∃ n, hexDigit? c = some n := by
  induction h with
  | nil => cases hc
  | plain hadmitted _ _ ih =>
      rcases List.mem_cons.1 hc with rfl | hc
      · exact .inl hadmitted
      · exact ih hc
  | escape hhigh hlow _ ih =>
      simp only [List.mem_cons] at hc
      rcases hc with rfl | rfl | rfl | hc
      · exact .inr (.inl rfl)
      · exact .inr (.inr ⟨_, hhigh⟩)
      · exact .inr (.inr ⟨_, hlow⟩)
      · exact ih hc

end Spells

end Messenger.Text.Percent
