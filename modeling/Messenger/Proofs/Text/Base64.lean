import Mathlib.Data.List.Basic
import Messenger.Text.Base64

set_option autoImplicit false

/-! # Reading base64

Three bytes are the bits of four symbols. The equals sign is no symbol, so the end of what was
written shows how many bytes the last group has, and the bytes are read back (`decode?_encode`). -/

namespace Messenger.Text.Base64

variable {a b c d : Nat}

theorem value?_symbol : ∀ n < 64, value? (symbol n) = some n := by
  decide

theorem symbol_ne : ∀ n < 64, symbol n ≠ '=' := by
  decide

/-! ## One group -/

/-- Four symbols are read as three bytes, whatever follows. -/
theorem decode?_four (ha : a < 64) (hb : b < 64) (hc : c < 64) (hd : d < 64) (cs : List Char) :
    decode? (symbol a :: symbol b :: symbol c :: symbol d :: cs)
      = (decode? cs).map fun bytes => UInt8.ofNat (a * 4 + b / 16)
          :: UInt8.ofNat (b % 16 * 16 + c / 4) :: UInt8.ofNat (c % 4 * 64 + d) :: bytes := by
  have hlast : symbol d ≠ '=' := symbol_ne d hd
  rw [decode?]
  · simp only [value?_symbol a ha, value?_symbol b hb, value?_symbol c hc, value?_symbol d hd]
    cases decode? cs <;> rfl
  · rintro - h -
    exact hlast h
  · rintro h -
    exact hlast h

theorem decode?_three (ha : a < 64) (hb : b < 64) (hc : c < 64) (hrest : c % 4 = 0) :
    decode? [symbol a, symbol b, symbol c, '=']
      = some [UInt8.ofNat (a * 4 + b / 16), UInt8.ofNat (b % 16 * 16 + c / 4)] := by
  rw [decode?]
  · simp only [value?_symbol a ha, value?_symbol b hb, value?_symbol c hc]
    exact if_pos hrest
  · exact symbol_ne c hc

theorem decode?_two (ha : a < 64) (hb : b < 64) (hrest : b % 16 = 0) :
    decode? [symbol a, symbol b, '=', '='] = some [UInt8.ofNat (a * 4 + b / 16)] := by
  rw [decode?]
  simp only [value?_symbol a ha, value?_symbol b hb]
  exact if_pos hrest

/-! ## All groups -/

/-- The six bits of the first symbol and the first two of the second make the first byte. -/
theorem first_bits (hb : b < 256) : a / 4 * 4 + (a % 4 * 16 + b / 16) / 16 = a := by
  omega

/-- **What is written is read back.** -/
theorem decode?_encode (bytes : List UInt8) : decode? (encode bytes) = some bytes := by
  induction bytes using encode.induct with
  | case1 => rfl
  | case2 a =>
      have ha : a.toNat < 256 := a.toNat_lt
      rw [encode, decode?_two (by omega) (by omega) (by omega)]
      have hfirst : a.toNat / 4 * 4 + a.toNat % 4 * 16 / 16 = a.toNat := by omega
      rw [hfirst, UInt8.ofNat_toNat]
  | case3 a b =>
      have ha : a.toNat < 256 := a.toNat_lt
      have hb : b.toNat < 256 := b.toNat_lt
      rw [encode, decode?_three (by omega) (by omega) (by omega) (by omega)]
      have hsecond : (a.toNat % 4 * 16 + b.toNat / 16) % 16 * 16 + b.toNat % 16 * 4 / 4
          = b.toNat := by omega
      rw [first_bits hb, hsecond, UInt8.ofNat_toNat, UInt8.ofNat_toNat]
  | case4 a b c bytes ih =>
      have ha : a.toNat < 256 := a.toNat_lt
      have hb : b.toNat < 256 := b.toNat_lt
      have hc : c.toNat < 256 := c.toNat_lt
      rw [encode, decode?_four (by omega) (by omega) (by omega) (by omega), ih]
      have hsecond : (a.toNat % 4 * 16 + b.toNat / 16) % 16 * 16
          + (b.toNat % 16 * 4 + c.toNat / 64) / 4 = b.toNat := by omega
      have hthird : (b.toNat % 16 * 4 + c.toNat / 64) % 4 * 64 + c.toNat % 64 = c.toNat := by omega
      rw [Option.map_some, first_bits hb, hsecond, hthird, UInt8.ofNat_toNat, UInt8.ofNat_toNat,
        UInt8.ofNat_toNat]

end Messenger.Text.Base64
