import Mathlib.Data.List.Basic
import Messenger.Text.Utf8

set_option autoImplicit false

/-! # Reading the bytes of a text

The reading machine is the inverse of the encoding: after the bytes of a character it is between
characters again and has yielded that character (`Utf8.piecesFrom_utf8Char`). So the bytes of a text
are read as that text, and a text in front of other bytes leaves it to them whether the whole is
valid (`ofUtf8?_append`). An ASCII byte occurs among the bytes of a text only as the character that
it is. -/

namespace Messenger.Text

namespace Utf8

variable {a b c d : Nat} (bytes : List UInt8)

/-! ## One character

The four widths differ in their first byte. What bounds the second one excludes overlong forms,
surrogates and codes that are too large; it is a condition on the first two groups of bits. -/

theorem piecesFrom_cons {byte : UInt8} {s s' : State} {ps : List Piece}
    (h : step byte s = (ps, s')) : piecesFrom s (byte :: bytes) = ps ++ piecesFrom s' bytes := by
  rw [piecesFrom, h]

/-- The six bits that a continuation byte carries. -/
theorem toNat_continuation (hb : b < 64) : (UInt8.ofNat (b + 128)).toNat = b + 128 := by
  rw [UInt8.toNat_ofNat', Nat.mod_eq_of_lt (by omega)]

theorem continues {low high : UInt8} (hb : b < 64) (hlow : low.toNat ≤ b + 128)
    (hhigh : b + 128 ≤ high.toNat) :
    (low ≤ UInt8.ofNat (b + 128) && UInt8.ofNat (b + 128) ≤ high) = true := by
  rw [Bool.and_eq_true, decide_eq_true_eq, decide_eq_true_eq, UInt8.le_iff_toNat_le,
    UInt8.le_iff_toNat_le, toNat_continuation hb]
  exact ⟨hlow, hhigh⟩

/-- After the second byte every continuation byte is within the bounds. -/
theorem continues_tail (hb : b < 64) :
    (0x80 ≤ UInt8.ofNat (b + 128) && UInt8.ofNat (b + 128) ≤ 0xBF) = true :=
  have hlow : (0x80 : UInt8).toNat ≤ b + 128 := Nat.le_add_left 128 b
  have hhigh : b + 128 ≤ (0xBF : UInt8).toNat := Nat.add_le_add_right (Nat.le_of_lt_succ hb) 128
  continues hb hlow hhigh

/-- A byte within the bounds, when more than one is owed, adds its bits to the code. -/
theorem step_inner {seen owed code : Nat} {low high : UInt8} (hb : b < 64)
    (hfits : (low ≤ UInt8.ofNat (b + 128) && UInt8.ofNat (b + 128) ≤ high) = true) :
    step (UInt8.ofNat (b + 128)) (.inside seen (owed + 2) low high code)
      = ([], .inside (seen + 1) (owed + 1) 0x80 0xBF (code * 64 + b)) := by
  have howed : ¬ owed + 2 ≤ 1 := by omega
  have hbits : (UInt8.ofNat (b + 128)).toNat - 0x80 = b := by rw [toNat_continuation hb]; omega
  simp only [step, if_pos hfits, if_neg howed, hbits]
  rfl

/-- The last byte that is owed completes the character. -/
theorem step_last (seen code : Nat) (hb : b < 64) :
    step (UInt8.ofNat (b + 128)) (.inside seen 1 0x80 0xBF code)
      = ([.char (Char.ofNat (code * 64 + b))], .ready) := by
  have hbits : (UInt8.ofNat (b + 128)).toNat - 0x80 = b := by rw [toNat_continuation hb]; omega
  simp only [step, if_pos (continues_tail hb), if_pos (Nat.le_refl 1), hbits]

theorem step_two : ∀ a < 32, 2 ≤ a →
    step (UInt8.ofNat (a + 192)) .ready = ([], .inside 1 1 0x80 0xBF a) := by
  decide

theorem step_three : ∀ a < 16, step (UInt8.ofNat (a + 224)) .ready
    = ([], .inside 1 2 (if a = 0 then 0xA0 else 0x80) (if a = 13 then 0x9F else 0xBF) a) := by
  decide

theorem step_four : ∀ a < 5, step (UInt8.ofNat (a + 240)) .ready
    = ([], .inside 1 3 (if a = 0 then 0x90 else 0x80) (if a = 4 then 0x8F else 0xBF) a) := by
  decide

theorem piecesFrom_one (ha : a < 128) :
    piecesFrom .ready (UInt8.ofNat a :: bytes)
      = .char (Char.ofNat a) :: piecesFrom .ready bytes := by
  have hbyte : (UInt8.ofNat a).toNat = a := by rw [UInt8.toNat_ofNat', Nat.mod_eq_of_lt (by omega)]
  have hsmall : UInt8.ofNat a < 0x80 := by
    rw [UInt8.lt_iff_toNat_lt, hbyte]
    exact ha
  have hfirst : step (UInt8.ofNat a) .ready = ([.char (Char.ofNat a)], .ready) := by
    rw [step, lead, if_pos hsmall, hbyte]
  rw [piecesFrom_cons _ hfirst]
  rfl

theorem piecesFrom_two (ha : a < 32) (hshort : 2 ≤ a) (hb : b < 64) :
    piecesFrom .ready (UInt8.ofNat (a + 192) :: UInt8.ofNat (b + 128) :: bytes)
      = .char (Char.ofNat (a * 64 + b)) :: piecesFrom .ready bytes := by
  rw [piecesFrom_cons _ (step_two a ha hshort), piecesFrom_cons _ (step_last 1 a hb)]
  rfl

theorem piecesFrom_three (ha : a < 16) (hb : b < 64) (hc : c < 64) (hshort : a = 0 → 32 ≤ b)
    (hsurrogate : a = 13 → b < 32) :
    piecesFrom .ready
        (UInt8.ofNat (a + 224) :: UInt8.ofNat (b + 128) :: UInt8.ofNat (c + 128) :: bytes)
      = .char (Char.ofNat ((a * 64 + b) * 64 + c)) :: piecesFrom .ready bytes := by
  have hlow : (if a = 0 then 0xA0 else 0x80 : UInt8).toNat ≤ b + 128 := by
    split <;> simp only [UInt8.reduceToNat] <;> omega
  have hhigh : b + 128 ≤ (if a = 13 then 0x9F else 0xBF : UInt8).toNat := by
    split <;> simp only [UInt8.reduceToNat] <;> omega
  rw [piecesFrom_cons _ (step_three a ha),
    piecesFrom_cons _ (step_inner hb (continues hb hlow hhigh)),
    piecesFrom_cons _ (step_last 2 (a * 64 + b) hc)]
  rfl

theorem piecesFrom_four (ha : a < 5) (hb : b < 64) (hc : c < 64) (hd : d < 64)
    (hshort : a = 0 → 16 ≤ b) (hlarge : a = 4 → b < 16) :
    piecesFrom .ready
        (UInt8.ofNat (a + 240) :: UInt8.ofNat (b + 128) :: UInt8.ofNat (c + 128)
          :: UInt8.ofNat (d + 128) :: bytes)
      = .char (Char.ofNat (((a * 64 + b) * 64 + c) * 64 + d)) :: piecesFrom .ready bytes := by
  have hlow : (if a = 0 then 0x90 else 0x80 : UInt8).toNat ≤ b + 128 := by
    split <;> simp only [UInt8.reduceToNat] <;> omega
  have hhigh : b + 128 ≤ (if a = 4 then 0x8F else 0xBF : UInt8).toNat := by
    split <;> simp only [UInt8.reduceToNat] <;> omega
  rw [piecesFrom_cons _ (step_four a ha),
    piecesFrom_cons _ (step_inner hb (continues hb hlow hhigh)),
    piecesFrom_cons _ (step_inner hc (continues_tail hc)),
    piecesFrom_cons _ (step_last 3 ((a * 64 + b) * 64 + c) hd)]
  rfl

/-- A character is read from the bytes that encode it. -/
theorem piecesFrom_utf8Char (c : Char) :
    piecesFrom .ready (utf8Char c ++ bytes) = .char c :: piecesFrom .ready bytes := by
  have hvalid : c.toNat < 0xD800 ∨ 0xDFFF < c.toNat ∧ c.toNat < 0x110000 := c.valid
  have hchar {n : Nat} (h : n = c.toNat) : Char.ofNat n = c := by rw [h, Char.ofNat_toNat]
  have hcode : c.val.toNat = c.toNat := rfl
  simp only [utf8Char, String.utf8EncodeChar, hcode]
  -- The groups of six bits are read off the code, width by width.
  split
  · exact (piecesFrom_one bytes (by omega)).trans (by rw [hchar rfl])
  split
  · exact (piecesFrom_two bytes (by omega) (by omega) (by omega)).trans
      (by rw [hchar (by omega)])
  split
  · exact (piecesFrom_three bytes (by omega) (by omega) (by omega) (by omega) (by omega)).trans
      (by rw [hchar (by omega)])
  · exact (piecesFrom_four bytes (by omega) (by omega) (by omega) (by omega) (by omega)
      (by omega)).trans (by rw [hchar (by omega)])

theorem piecesFrom_chars (cs : List Char) :
    piecesFrom .ready (cs.flatMap utf8Char ++ bytes)
      = cs.map .char ++ piecesFrom .ready bytes := by
  induction cs with
  | nil => rfl
  | cons c cs ih =>
      rw [List.flatMap_cons, List.append_assoc, piecesFrom_utf8Char, ih, List.map_cons,
        List.cons_append]

end Utf8

/-! ## Texts -/

theorem toUtf8_append (s t : String) : toUtf8 (s ++ t) = toUtf8 s ++ toUtf8 t := by
  rw [toUtf8, String.toList_append, List.flatMap_append]
  rfl

/-- The pieces of a text's bytes are its characters. -/
theorem pieces_toUtf8 (s : String) : pieces (toUtf8 s) = piecesOfText s := by
  have h := Utf8.piecesFrom_chars [] s.toList
  rwa [List.append_nil, Utf8.piecesFrom, List.append_nil] at h

theorem mapM_char?_map_char_append (cs : List Char) (ps : List Piece) :
    (cs.map Piece.char ++ ps).mapM Piece.char? = (ps.mapM Piece.char?).map (cs ++ ·) := by
  induction cs with
  | nil => simp
  | cons c cs ih =>
      rw [List.map_cons, List.cons_append, List.mapM_cons, ih]
      cases ps.mapM Piece.char? <;> rfl

/-- The bytes of a text stand for it in front of any others. -/
theorem ofUtf8?_toUtf8_append (s : String) (bytes : List UInt8) :
    ofUtf8? (toUtf8 s ++ bytes) = (ofUtf8? bytes).map (s ++ ·) := by
  rw [ofUtf8?, pieces, toUtf8, Utf8.piecesFrom_chars, mapM_char?_map_char_append, ofUtf8?, pieces,
    Option.map_map, Option.map_map]
  refine congrArg (Option.map · _) (funext fun cs => ?_)
  rw [Function.comp_apply, Function.comp_apply, String.ofList_append, String.ofList_toList]

/-- A text is read from the bytes that encode it. -/
theorem ofUtf8?_toUtf8 (s : String) : ofUtf8? (toUtf8 s) = some s := by
  have h := ofUtf8?_toUtf8_append s []
  rw [List.append_nil] at h
  rw [h]
  simp [ofUtf8?, pieces, Utf8.piecesFrom]

/-- Bytes that are a text by themselves stand for it in front of any others, wherever the reading
begins. -/
theorem mapM_char?_piecesFrom_append {xs : List UInt8} {state : Utf8.State} {cs : List Char}
    (h : (Utf8.piecesFrom state xs).mapM Piece.char? = some cs) (ys : List UInt8) :
    (Utf8.piecesFrom state (xs ++ ys)).mapM Piece.char?
      = ((pieces ys).mapM Piece.char?).map (cs ++ ·) := by
  induction xs generalizing state cs with
  | nil =>
      cases state with
      | ready =>
          obtain rfl : [] = cs := by simpa [Utf8.piecesFrom] using h
          rw [List.nil_append, pieces]
          simp
      | inside => simp [Utf8.piecesFrom, Piece.char?] at h
  | cons byte xs ih =>
      obtain ⟨ps, state', hstep⟩ : ∃ ps state', Utf8.step byte state = (ps, state') := ⟨_, _, rfl⟩
      rw [Utf8.piecesFrom_cons _ hstep, List.mapM_append] at h
      obtain ⟨front, hfront, h⟩ := Option.bind_eq_some_iff.1 h
      obtain ⟨back, hback, h⟩ := Option.bind_eq_some_iff.1 h
      obtain rfl : front ++ back = cs := Option.some.inj h
      rw [List.cons_append, Utf8.piecesFrom_cons _ hstep, List.mapM_append, hfront, ih hback]
      cases (pieces ys).mapM Piece.char? with
      | none => rfl
      | some more => exact congrArg some (List.append_assoc front back more).symm

theorem ofUtf8?_append {xs : List UInt8} {s : String} (h : ofUtf8? xs = some s)
    (ys : List UInt8) : ofUtf8? (xs ++ ys) = (ofUtf8? ys).map (s ++ ·) := by
  obtain ⟨cs, hcs, rfl⟩ := Option.map_eq_some_iff.1 h
  rw [ofUtf8?, pieces, mapM_char?_piecesFrom_append hcs, ofUtf8?, Option.map_map, Option.map_map]
  exact congrArg (Option.map · _) (funext fun more => String.ofList_append)

/-! ## ASCII bytes -/

theorem not_ascii {n : Nat} (hlow : 128 ≤ n) (hhigh : n < 256) :
    ¬ (UInt8.ofNat n).toNat < 128 := by
  rw [UInt8.toNat_ofNat', Nat.mod_eq_of_lt hhigh]
  omega

/-- An ASCII byte encodes its own character and no part of another one. -/
theorem eq_of_mem_utf8Char {byte : UInt8} {c : Char} (h : byte ∈ utf8Char c)
    (hascii : byte.toNat < 128) : c = Char.ofNat byte.toNat := by
  have hcode : c.val.toNat = c.toNat := rfl
  simp only [utf8Char, String.utf8EncodeChar, hcode] at h
  split at h
  · obtain rfl : byte = UInt8.ofNat c.toNat := List.mem_singleton.1 h
    rw [UInt8.toNat_ofNat', Nat.mod_eq_of_lt (by omega), Char.ofNat_toNat]
  -- Every byte of a longer encoding has its highest bit set.
  all_goals exfalso
  split at h
  · simp only [List.mem_cons, List.not_mem_nil, or_false] at h
    rcases h with rfl | rfl <;> exact not_ascii (by omega) (by omega) hascii
  split at h <;> simp only [List.mem_cons, List.not_mem_nil, or_false] at h
  · rcases h with rfl | rfl | rfl <;> exact not_ascii (by omega) (by omega) hascii
  · rcases h with rfl | rfl | rfl | rfl <;> exact not_ascii (by omega) (by omega) hascii

theorem mem_of_mem_toUtf8 {byte : UInt8} {s : String} (h : byte ∈ toUtf8 s)
    (hascii : byte.toNat < 128) : Char.ofNat byte.toNat ∈ s.toList := by
  obtain ⟨c, hc, hbyte⟩ := List.mem_flatMap.1 h
  rwa [← eq_of_mem_utf8Char hbyte hascii]

/-- If the bytes of a text end with an ASCII byte, the text ends with its character. -/
theorem getLast?_of_getLast?_toUtf8 {byte : UInt8} {s : String}
    (h : (toUtf8 s).getLast? = some byte) (hascii : byte.toNat < 128) :
    s.toList.getLast? = some (Char.ofNat byte.toNat) := by
  rcases List.eq_nil_or_concat s.toList with hs | ⟨cs, c, hs⟩
  · rw [toUtf8, hs] at h
    contradiction
  · have hne : utf8Char c ≠ [] := String.utf8EncodeChar_ne_nil
    rw [toUtf8, hs, List.concat_eq_append, List.flatMap_append, List.flatMap_singleton,
      List.getLast?_append_of_ne_nil _ hne] at h
    have hbyte : byte ∈ utf8Char c := List.mem_of_getLast? h
    rw [hs, List.concat_eq_append, List.getLast?_concat, eq_of_mem_utf8Char hbyte hascii]

end Messenger.Text
