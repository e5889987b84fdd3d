import Messenger.Json.Render
import Messenger.Json.Skim

set_option autoImplicit false

/-! # How strings and whole numbers are spelled

A string is read as it was written, whatever its characters, and a whole number of the range is read
exactly, wherever they stand: what follows is a delimiter or nothing. Both are also passed over as a
whole. A value is *legible* when that much can be hoped for: its whole numbers lie in the range of
documents, its arrays and objects nest no deeper than is allowed, and it has no floating-point
numbers. -/

namespace Messenger.Json

/-- Characters as an input. -/
def spell (cs : List Char) : Input := cs.map .char

@[simp] theorem spell_nil : spell [] = [] := rfl

@[simp] theorem spell_cons (c : Char) (cs : List Char) :
    spell (c :: cs) = .char c :: spell cs := rfl

@[simp] theorem spell_append (cs ds : List Char) : spell (cs ++ ds) = spell cs ++ spell ds :=
  List.map_append

@[simp] theorem length_spell (cs : List Char) : (spell cs).length = cs.length := List.length_map _

theorem char_eq_of_cons_eq {c d : Char} {i j : Input}
    (h : Text.Piece.char c :: i = .char d :: j) : c = d := by
  injection h with hhead
  injection hhead

/-- What may follow a value: nothing, a comma or a closing bracket. -/
inductive Delimits : Input → Prop where
  | nil : Delimits []
  | comma (i : Input) : Delimits (.char ',' :: i)
  | bracket (i : Input) : Delimits (.char ']' :: i)
  | brace (i : Input) : Delimits (.char '}' :: i)

namespace Value

/-- Whether a whole number may stand in a document. -/
def InRange (n : Int) : Prop := -0x8000000000000000 ≤ n ∧ n ≤ Scaled.wordMax

mutual

/-- A value whose text can be read back when so many levels of nesting are allowed. -/
def Legible : Nat → Value → Prop
  | _, .int n => InRange n
  | _, .float _ => False
  | 0, .arr _ => False
  | 0, .obj _ => False
  | depth + 1, .arr items => LegibleItems depth items
  | depth + 1, .obj ms => LegibleMembers depth ms
  | _, _ => True

/-- `Legible` for every item. -/
def LegibleItems : Nat → List Value → Prop
  | _, [] => True
  | depth, v :: vs => Legible depth v ∧ LegibleItems depth vs

/-- `Legible` for every member's value. -/
def LegibleMembers : Nat → Members → Prop
  | _, [] => True
  | depth, (_, v) :: ms => Legible depth v ∧ LegibleMembers depth ms

end

/-- A value that is neither an array nor an object. -/
def IsScalar : Value → Prop
  | .arr _ => False
  | .obj _ => False
  | _ => True

theorem legibleItems_iff {depth : Nat} {vs : List Value} :
    LegibleItems depth vs ↔ ∀ v ∈ vs, v.Legible depth := by
  induction vs with
  | nil => simp [LegibleItems]
  | cons v vs ih => simp [LegibleItems, ih]

theorem legibleMembers_iff {depth : Nat} {ms : Members} :
    LegibleMembers depth ms ↔ ∀ m ∈ ms, m.2.Legible depth := by
  induction ms with
  | nil => simp [LegibleMembers]
  | cons m ms ih => simp [LegibleMembers, ih]

/-! ## How texts begin -/

/-- What the first character of the text of a value says about it. -/
structure Begins (v : Value) (c : Char) : Prop where
  isSpace : Json.isSpace c = false
  ne_bracket : c ≠ ']'
  null : c = 'n' → v = .null
  arr : c = '[' → ∃ items, v = .arr items
  obj : c = '{' → ∃ ms, v = .obj ms

/-- Other characters say nothing. -/
theorem begins_of_other {v : Value} {c : Char} (hspace : Json.isSpace c = false)
    (hother : c ≠ ']' ∧ c ≠ 'n' ∧ c ≠ '[' ∧ c ≠ '{') : Begins v c where
  isSpace := hspace
  ne_bracket := hother.1
  null h := absurd h hother.2.1
  arr h := absurd h hother.2.2.1
  obj h := absurd h hother.2.2.2

theorem ne_of_isDigit {c d : Char} (h : c.isDigit = true) (hd : d.isDigit = false) : c ≠ d := by
  rintro rfl
  rw [h] at hd
  cases hd

theorem begins_of_isDigit {v : Value} {c : Char} (h : c.isDigit = true) : Begins v c := by
  have hne (d : Char) (hd : d.isDigit = false) : c ≠ d := ne_of_isDigit h hd
  refine begins_of_other ?_ ⟨hne _ rfl, hne _ rfl, hne _ rfl, hne _ rfl⟩
  simp [Json.isSpace, hne ' ' rfl, hne '\t' rfl, hne '\n' rfl, hne '\r' rfl]

theorem exists_chars_eq_cons {v : Value} {depth : Nat} (h : v.Legible depth) :
    ∃ c cs, v.chars = c :: cs ∧ v.Begins c := by
  cases v with
  | null => exact ⟨'n', _, rfl, by decide, by decide, fun _ => rfl, by simp, by simp⟩
  | bool b => cases b <;> exact ⟨_, _, rfl, begins_of_other (by decide) (by decide)⟩
  | int n =>
      cases n with
      | ofNat n =>
          obtain ⟨c, cs, hcs⟩ := List.exists_cons_of_ne_nil (Nat.toDigits_ne_nil (n := n) (b := 10))
          have hdigit : c.isDigit = true :=
            Nat.isDigit_of_mem_toDigits (by decide) (by decide) (hcs ▸ List.mem_cons_self)
          exact ⟨c, cs, hcs, begins_of_isDigit hdigit⟩
      | negSucc n => exact ⟨'-', _, rfl, begins_of_other (by decide) (by decide)⟩
  | float x => exact h.elim
  | str s => exact ⟨'"', _, rfl, begins_of_other (by decide) (by decide)⟩
  | arr items =>
      cases items <;> exact ⟨'[', _, rfl, by decide, by decide, by simp, fun _ => ⟨_, rfl⟩, by simp⟩
  | obj ms =>
      cases ms <;> exact ⟨'{', _, rfl, by decide, by decide, by simp, by simp, fun _ => ⟨_, rfl⟩⟩

/-- No text is empty. -/
theorem not_length_chars_le_zero {v : Value} {depth : Nat} (h : v.Legible depth) :
    ¬ 2 * v.chars.length ≤ 0 := by
  obtain ⟨c, cs, hcs, -⟩ := exists_chars_eq_cons h
  rw [hcs, List.length_cons]
  omega

end Value

theorem skipSpace_cons {c : Char} (h : isSpace c = false) (i : Input) :
    skipSpace (.char c :: i) = .char c :: i := by
  simp [skipSpace, isSpacePiece, h]

/-! ## Strings -/

theorem hexWord_control : ∀ n < 0x20,
    Read.hexWord (.char '0') (.char '0') (.char (Text.hexDigit (n / 16)))
      (.char (Text.hexDigit (n % 16))) = some n := by
  decide

/-- How a character is written inside a string. -/
inductive Written (c : Char) : List Char → Prop where
  /-- With a letter that stands for it. -/
  | letter (e : Char) (hletter : e ≠ 'u') (h : Read.escape? e = some c) : Written c ['\\', e]
  /-- By its number. -/
  | number (h : c.toNat < 0x20) : Written c ['\\', 'u', '0', '0', Text.hexDigit (c.toNat / 16),
      Text.hexDigit (c.toNat % 16)]
  /-- As it is. -/
  | plain (hquote : c ≠ '"') (hbackslash : c ≠ '\\') (h : 0x20 ≤ c.toNat) : Written c [c]

/-- A character is written in one of those ways. -/
theorem written_escapeChar (c : Char) : Written c (escapeChar c) := by
  unfold escapeChar
  split
  · subst c
    exact .letter '"' (by decide) rfl
  split
  · subst c
    exact .letter '\\' (by decide) rfl
  split
  · subst c
    exact .letter 'n' (by decide) rfl
  split
  · subst c
    exact .letter 'r' (by decide) rfl
  split
  · subst c
    exact .letter 't' (by decide) rfl
  split
  · subst c
    exact .letter 'b' (by decide) rfl
  split
  · subst c
    exact .letter 'f' (by decide) rfl
  split
  · rename_i h
    exact .number h
  · rename_i hquote hbackslash _ _ _ _ _ h
    exact .plain hquote hbackslash (Nat.not_lt.1 h)

namespace Read

/-- A character is read as it was written. -/
theorem stringBody_written {c : Char} {cs : List Char} (h : Written c cs) (acc : List Char)
    (i : Input) : stringBody acc true (spell cs ++ i) = stringBody (c :: acc) true i := by
  cases h with
  | letter e hletter h =>
      simp only [spell_cons, spell_nil, List.cons_append, List.nil_append]
      rw [stringBody]
      · rw [h]
      · simp [hletter]
      · simp [hletter]
  | number h =>
      have hlow : isLowSurrogate c.toNat = false := by simp [isLowSurrogate]; omega
      have hhigh : isHighSurrogate c.toNat = false := by simp [isHighSurrogate]; omega
      simp only [spell_cons, spell_nil, List.cons_append, List.nil_append]
      rw [stringBody, hexWord_control _ h]
      simp [hlow, hhigh]
  | plain hquote hbackslash h =>
      simp only [spell_cons, spell_nil, List.cons_append, List.nil_append]
      rw [stringBody, if_neg (Nat.not_lt.2 h)]
      all_goals simp [hquote, hbackslash]

theorem stringBody_flatMap (cs acc : List Char) (i : Input) :
    stringBody acc true (spell (cs.flatMap escapeChar) ++ .char '"' :: i)
      = .ok (String.ofList (acc.reverse ++ cs), i) := by
  induction cs generalizing acc with
  | nil => simp [stringBody]
  | cons c cs ih =>
      rw [List.flatMap_cons, spell_append, List.append_assoc,
        stringBody_written (written_escapeChar c), ih, List.reverse_cons, List.append_assoc]
      rfl

/-- A string is read as it was written. -/
theorem stringBody_spell (s : String) (i : Input) :
    stringBody [] true (spell (s.toList.flatMap escapeChar) ++ .char '"' :: i) = .ok (s, i) := by
  rw [stringBody_flatMap, List.reverse_nil, List.nil_append, String.ofList_toList]

end Read

namespace Skim

theorem stringBody_written {c : Char} {cs : List Char} (h : Written c cs) (i : Input) :
    stringBody (spell cs ++ i) = stringBody i := by
  cases h with
  | letter e hletter h =>
      simp only [spell_cons, spell_nil, List.cons_append, List.nil_append]
      rw [stringBody]
      · rw [h]
      · simp [hletter]
      · simp [hletter]
  | number h =>
      simp only [spell_cons, spell_nil, List.cons_append, List.nil_append]
      rw [stringBody, hexWord_control _ h]
  | plain hquote hbackslash h =>
      simp only [spell_cons, spell_nil, List.cons_append, List.nil_append]
      rw [stringBody, if_neg (Nat.not_lt.2 h)]
      all_goals simp [hquote, hbackslash]

/-- A string is passed over as a whole. -/
theorem stringBody_spell (cs : List Char) (i : Input) :
    stringBody (spell (cs.flatMap escapeChar) ++ .char '"' :: i) = .ok i := by
  induction cs with
  | nil => simp [stringBody]
  | cons c cs ih =>
      rw [List.flatMap_cons, spell_append, List.append_assoc,
        stringBody_written (written_escapeChar c), ih]

end Skim

theorem spell_stringChars (s : String) (i : Input) :
    spell (stringChars s) ++ i
      = .char '"' :: (spell (s.toList.flatMap escapeChar) ++ .char '"' :: i) := by
  simp [stringChars]

/-! ## Whole numbers -/

/-- The number that a decimal digit stands for. -/
def digitValue (c : Char) : Nat := c.toNat - '0'.toNat

theorem ofDigits_decimalDigits (n : Nat) :
    Text.ofDigits 10 ((Text.decimalDigits n).map digitValue) = n := by
  have hfold : ∀ (cs : List Char) (k : Nat),
      (cs.map digitValue).foldl (fun n d => n * 10 + d) k = Nat.ofDigitChars 10 cs k := by
    intro cs k
    rw [Nat.ofDigitChars, List.foldl_map]
    simp only [digitValue, Nat.mul_comm]
  rw [Text.ofDigits, hfold, Text.decimalDigits, Nat.ofDigitChars_ten_toDigits]

theorem isDigit_of_mem_decimalDigits {n : Nat} {c : Char} (h : c ∈ Text.decimalDigits n) :
    c.isDigit = true := Nat.isDigit_of_mem_toDigits (by decide) (by decide) h

/-- Only zero begins with a zero. -/
theorem exists_decimalDigits_eq_cons (n : Nat) :
    ∃ c cs, Text.decimalDigits n = c :: cs ∧ (c = '0' → cs = []) := by
  induction n using Nat.strongRecOn with
  | _ n ih =>
      by_cases hsmall : n < 10
      · exact ⟨_, [], Nat.toDigits_of_lt_base hsmall, fun _ => rfl⟩
      · obtain ⟨c, cs, hcs, hzero⟩ := ih (n / 10) (by omega)
        refine ⟨c, cs ++ [(n % 10).digitChar], ?_, fun hc => ?_⟩
        · rw [Text.decimalDigits, Nat.toDigits_of_base_le (by decide) (Nat.not_lt.1 hsmall),
            ← List.cons_append, ← hcs]
          rfl
        · -- The number without its last digit would be zero.
          have hvalue := ofDigits_decimalDigits (n / 10)
          rw [hcs, hzero hc, hc] at hvalue
          have hnone : n / 10 = 0 := hvalue.symm
          omega

/-- No other digit has the value of zero. -/
theorem digitValue_eq_zero {c : Char} (hdigit : c.isDigit = true) (h : digitValue c = 0) :
    c = '0' := by
  have hlow : '0'.toNat ≤ c.toNat := by
    simp only [Char.isDigit, Bool.and_eq_true, decide_eq_true_eq] at hdigit
    exact hdigit.1
  have hnat : c.toNat = '0'.toNat := by
    rw [digitValue] at h
    omega
  rw [← Char.ofNat_toNat c, hnat]
  rfl

namespace Read

/-- Digits end where a value does. -/
theorem digits_of_delimits {i : Input} (h : Delimits i) : digits i = ([], i) := by
  cases h <;> rfl

theorem digits_spell {cs : List Char} (hdigits : ∀ c ∈ cs, c.isDigit = true) {i : Input}
    (hi : Delimits i) : digits (spell cs ++ i) = (cs.map digitValue, i) := by
  induction cs with
  | nil => exact digits_of_delimits hi
  | cons c cs ih =>
      obtain ⟨hc, hcs⟩ := List.forall_mem_cons.1 hdigits
      have hdigit : Text.digit? c = some (digitValue c) := by rw [Text.digit?, if_pos hc]; rfl
      rw [spell_cons, List.cons_append, digits, hdigit, ih hcs]
      rfl

/-- The digits of a number, none of them in vain. -/
theorem exists_digits_spell (n : Nat) {i : Input} (hi : Delimits i) :
    ∃ d ds, digits (spell (Text.decimalDigits n) ++ i) = (d :: ds, i) ∧ (d = 0 → ds = [])
      ∧ Text.ofDigits 10 (d :: ds) = n := by
  obtain ⟨c, cs, hcs, hzero⟩ := exists_decimalDigits_eq_cons n
  have hdigits {e : Char} (he : e ∈ Text.decimalDigits n) := isDigit_of_mem_decimalDigits he
  have hread := digits_spell (fun e he => hdigits he) hi
  have hvalue := ofDigits_decimalDigits n
  rw [hcs, List.map_cons] at hread hvalue
  refine ⟨_, _, hcs ▸ hread, fun hd => ?_, hvalue⟩
  rw [hzero (digitValue_eq_zero (hdigits (hcs ▸ List.mem_cons_self)) hd), List.map_nil]

theorem afterWhole_of_delimits {i : Input} (h : Delimits i) (negative : Bool) (ds : List Nat) :
    afterWhole negative ds i = (whole negative ds).map fun v => (v, i) := by
  cases h <;> cases hw : whole negative ds <;> simp [afterWhole, startsExponent, hw] <;> rfl

/-- The digits of a number are read as one numeral. -/
theorem numeral_spell (negative : Bool) (n : Nat) {i : Input} (hi : Delimits i) :
    ∃ ds, Text.ofDigits 10 ds = n ∧ numeral negative (spell (Text.decimalDigits n) ++ i)
      = (whole negative ds).map fun v => (v, i) := by
  obtain ⟨d, ds, hread, hzero, hvalue⟩ := exists_digits_spell n hi
  refine ⟨d :: ds, hvalue, ?_⟩
  rw [numeral, someDigits, hread]
  simp only [bind, Except.bind]
  split
  · rename_i hleading
    injection hleading with hfirst hrest
    rw [hzero hfirst] at hrest
    cases hrest
  · exact afterWhole_of_delimits hi negative _

/-- A whole number of the range is read as it was written. -/
theorem whole_spell {n : Nat} (h : n ≤ Scaled.wordMax) {i : Input} (hi : Delimits i) :
    numeral false (spell (Text.decimalDigits n) ++ i) = .ok (.int n, i) := by
  obtain ⟨ds, hvalue, hread⟩ := numeral_spell false n hi
  rw [hread, whole, hvalue]
  simp only [Bool.false_eq_true, if_false, if_pos h]
  rfl

theorem negative_spell {n : Nat} (hpos : 0 < n) (h : n ≤ 0x8000000000000000) {i : Input}
    (hi : Delimits i) :
    numeral true (spell (Text.decimalDigits n) ++ i) = .ok (.int (-n), i) := by
  obtain ⟨ds, hvalue, hread⟩ := numeral_spell true n hi
  rw [hread, whole, hvalue]
  simp only [if_true, if_pos (And.intro hpos h)]
  rfl

end Read

/-- A numeral is passed over as a whole. -/
theorem Skim.numeral_spell (n : Nat) {i : Input} (hi : Delimits i) :
    Skim.numeral (spell (Text.decimalDigits n) ++ i) = .ok i := by
  obtain ⟨d, ds, hread, hzero, -⟩ := Read.exists_digits_spell n hi
  rw [numeral, someDigits, hread]
  simp only [bind, Except.bind]
  split
  · rename_i hleading
    injection hleading with hfirst hrest
    rw [hzero hfirst] at hrest
    cases hrest
  · cases hi <;> rfl

end Messenger.Json
