set_option autoImplicit false

/-! # Blank characters and trimming

A character is *blank* when it has the Unicode property `White_Space`: 25 characters, none of them
outside the Basic Multilingual Plane. Identifiers, version texts, base addresses, event names and
environment values are compared after removing the blanks at both ends, so what counts as blank is
part of their meaning: the no-break space is blank, the zero-width space is not. -/

namespace Messenger.Text

/-- The Unicode property `White_Space`. -/
def isBlank (c : Char) : Bool :=
  let n := c.toNat
  (0x09 ≤ n && n ≤ 0x0D) || n == 0x20 || n == 0x85 || n == 0xA0 || n == 0x1680
    || (0x2000 ≤ n && n ≤ 0x200A) || n == 0x2028 || n == 0x2029 || n == 0x202F || n == 0x205F
    || n == 0x3000

/-- Remove the leading characters that satisfy `p`. -/
def trimLeft (p : Char → Bool) (cs : List Char) : List Char := cs.dropWhile p

/-- Remove the trailing characters that satisfy `p`. -/
def trimRight (p : Char → Bool) (cs : List Char) : List Char := (cs.reverse.dropWhile p).reverse

/-- The text without the blanks at its two ends. -/
def trim (s : String) : String := String.ofList (trimRight isBlank (trimLeft isBlank s.toList))

/-- The text without the characters `c` at its end. -/
def trimEnd (c : Char) (s : String) : String := String.ofList (trimRight (· == c) s.toList)

/-- Whether a text is empty after trimming. -/
def isBlankText (s : String) : Bool := s.toList.all isBlank

@[simp] theorem trimRight_nil (p : Char → Bool) : trimRight p [] = [] := rfl

/-- A trailing character that satisfies `p` is removed. -/
theorem trimRight_concat_of_pos {p : Char → Bool} {c : Char} (cs : List Char) (h : p c = true) :
    trimRight p (cs ++ [c]) = trimRight p cs := by
  simp [trimRight, h]

/-- A trailing character that does not satisfy `p` stops the trimming. -/
theorem trimRight_concat_of_neg {p : Char → Bool} {c : Char} (cs : List Char) (h : p c = false) :
    trimRight p (cs ++ [c]) = cs ++ [c] := by
  simp [trimRight, h]

/-- A list without its front satisfies `p` throughout only if it did before. -/
theorem all_trimLeft (p : Char → Bool) (cs : List Char) : (trimLeft p cs).all p = cs.all p := by
  induction cs with
  | nil => rfl
  | cons c cs ih =>
      unfold trimLeft at ih ⊢
      cases h : p c <;> simp [h, ih]

theorem trimLeft_eq_nil_iff (p : Char → Bool) (cs : List Char) :
    trimLeft p cs = [] ↔ cs.all p = true := by
  induction cs with
  | nil => simp [trimLeft]
  | cons c cs ih =>
      unfold trimLeft at ih ⊢
      cases h : p c <;> simp [h, ih]

/-- A text is blank when nothing is left of it after trimming. -/
theorem trim_eq_empty_iff (s : String) : trim s = "" ↔ isBlankText s = true := by
  have hright : ∀ cs : List Char, trimRight isBlank cs = [] ↔ cs.all isBlank = true := by
    intro cs
    rw [trimRight, List.reverse_eq_nil_iff]
    exact (trimLeft_eq_nil_iff isBlank cs.reverse).trans (by rw [List.all_reverse])
  rw [trim, String.ofList_eq_empty_iff, hright, all_trimLeft, isBlankText]

end Messenger.Text
