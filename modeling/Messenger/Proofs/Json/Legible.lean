import Messenger.Proofs.Json.Spelling

set_option autoImplicit false

/-! # Reading back what was written

The compact text of a legible value is read as that value (`Read.value_spell`) and passed over as a
whole (`Skim.value_spell`), so a document that was written is read as it was
(`Value.parse_compact`). -/

namespace Messenger.Json

namespace Value

/-- The text of items is longer than there are items. -/
theorem length_lt_itemChars (vs : List Value) : vs.length < (itemChars vs).length := by
  induction vs with
  | nil => exact Nat.zero_lt_one
  | cons v vs ih =>
      simp only [itemChars, List.length_cons, List.length_append]
      omega

/-- The text of members is longer than there are members. -/
theorem length_lt_memberChars (ms : Members) : ms.length < (memberChars ms).length := by
  induction ms with
  | nil => exact Nat.zero_lt_one
  | cons m ms ih =>
      obtain ⟨k, v⟩ := m
      simp only [memberChars, List.length_cons, List.length_append]
      omega

end Value

/-! ## Reading -/

theorem delimits_itemChars (vs : List Value) (i : Input) :
    Delimits (spell (Value.itemChars vs) ++ i) := by
  cases vs <;> constructor

theorem delimits_memberChars (ms : Members) (i : Input) :
    Delimits (spell (Value.memberChars ms) ++ i) := by
  cases ms with
  | nil => exact .brace i
  | cons m ms => exact .comma _

namespace Read

/-- The first item begins at once. -/
theorem firstItem_of_begins {v : Value} {c : Char} (h : v.Begins c) (fuel depth : Nat) (i : Input) :
    firstItem (fuel + 1) depth (.char c :: i) = do
      let (w, j) ← value fuel depth (.char c :: i)
      let (vs, j) ← moreItems fuel depth j
      return (w :: vs, j) := by
  rw [firstItem, skipSpace_cons h.isSpace]
  split
  · rename_i hnil
    cases hnil
  · rename_i hbracket
    exact absurd (char_eq_of_cons_eq hbracket) h.ne_bracket
  · rfl

theorem colon_cons (i : Input) : colon (.char ':' :: i) = .ok i := rfl

/-- A digit at the front begins a numeral. -/
theorem value_of_isDigit {c : Char} (h : c.isDigit = true) (fuel depth : Nat) (i : Input) :
    value (fuel + 1) depth (.char c :: i) = numeral false (.char c :: i) := by
  have hne (d : Char) (hd : d.isDigit = false) : c ≠ d := Value.ne_of_isDigit h hd
  rw [value, skipSpace_cons (Value.begins_of_isDigit (v := .null) h).isSpace]
  split
  all_goals simp_all

/-- A whole number is read as it was written. -/
theorem value_int {n : Int} (h : Value.InRange n) (fuel depth : Nat) {i : Input} (hi : Delimits i) :
    value (fuel + 1) depth (spell (Value.int n).chars ++ i) = .ok (.int n, i) := by
  obtain ⟨hlow, hhigh⟩ := h
  cases n with
  | ofNat n =>
      obtain ⟨c, cs, hcs, -⟩ := exists_decimalDigits_eq_cons n
      have hdigit : c.isDigit = true := isDigit_of_mem_decimalDigits (hcs ▸ List.mem_cons_self)
      have hwhole := whole_spell (Int.ofNat_le.1 hhigh) hi
      change value (fuel + 1) depth (spell (Text.decimalDigits n) ++ i) = _
      rw [hcs] at hwhole ⊢
      exact (value_of_isDigit hdigit fuel depth _).trans hwhole
  | negSucc n =>
      have hbound : n + 1 ≤ 0x8000000000000000 := by omega
      change value (fuel + 1) depth (.char '-' :: (spell (Text.decimalDigits (n + 1)) ++ i)) = _
      rw [value, skipSpace_cons rfl]
      exact negative_spell n.succ_pos hbound hi

/-- Members are read from the key on. -/
theorem firstMember_spell (fuel depth : Nat) (k : String) (i : Input) :
    firstMember (fuel + 1) depth (spell (stringChars k) ++ .char ':' :: i) = do
      let (v, j) ← value fuel depth i
      let (ms, j) ← moreMembers fuel depth j
      return ((k, v) :: ms, j) := by
  rw [spell_stringChars, firstMember, skipSpace_cons rfl]
  simp only [stringBody_spell, colon_cons, bind, Except.bind]

theorem moreMembers_cons (fuel depth : Nat) (k : String) (i : Input) :
    moreMembers (fuel + 1) depth (.char ',' :: (spell (stringChars k) ++ .char ':' :: i)) = do
      let (v, j) ← value fuel depth i
      let (ms, j) ← moreMembers fuel depth j
      return ((k, v) :: ms, j) := by
  rw [spell_stringChars, moreMembers, skipSpace_cons rfl]
  simp only [skipSpace_cons (c := '"') rfl, stringBody_spell, colon_cons, bind, Except.bind]

/-- A string is read from its quotes, whatever follows. -/
theorem value_string (s : String) (fuel depth : Nat) (i : Input) :
    value (fuel + 1) depth (spell (stringChars s) ++ i) = .ok (.str s, i) := by
  rw [spell_stringChars, value, skipSpace_cons rfl]
  simp only [stringBody_spell, bind, Except.bind]
  rfl

/-- A scalar is read in one step. -/
theorem value_scalar {v : Value} {levels : Nat} (h : v.Legible levels) (hv : v.IsScalar)
    (fuel depth : Nat) {i : Input} (hi : Delimits i) :
    value (fuel + 1) depth (spell v.chars ++ i) = .ok (v, i) := by
  cases v with
  | null =>
      rw [Value.chars, spell_cons, List.cons_append, value, skipSpace_cons rfl]
      rfl
  | bool b =>
      cases b
      all_goals
        rw [Value.chars, spell_cons, List.cons_append, value, skipSpace_cons rfl]
        rfl
  | int n => exact value_int h fuel depth hi
  | float x => exact h.elim
  | str s => exact value_string s fuel depth i
  | arr items => exact hv.elim
  | obj ms => exact hv.elim

mutual

/-- The text of a value is read as that value. -/
theorem value_spell : ∀ (v : Value) (fuel depth : Nat) (i : Input), v.Legible depth →
    2 * v.chars.length ≤ fuel → Delimits i → value fuel depth (spell v.chars ++ i) = .ok (v, i)
  | _, 0, _, _, h, hfuel, _ => absurd hfuel (Value.not_length_chars_le_zero h)
  | .null, fuel + 1, depth, _, h, _, hi => value_scalar h trivial fuel depth hi
  | .bool _, fuel + 1, depth, _, h, _, hi => value_scalar h trivial fuel depth hi
  | .int _, fuel + 1, depth, _, h, _, hi => value_scalar h trivial fuel depth hi
  | .str _, fuel + 1, depth, _, h, _, hi => value_scalar h trivial fuel depth hi
  | .arr [], fuel + 2, depth + 1, i, _, _, _ => by
      rw [Value.chars, spell_cons, List.cons_append, value, skipSpace_cons rfl]
      simp only [spell_cons, spell_nil, List.cons_append, List.nil_append, firstItem,
        skipSpace_cons (c := ']') rfl]
      rfl
  | .arr (v :: vs), fuel + 2, depth + 1, i, h, hfuel, _ => by
      obtain ⟨c, cs, hcs, hbegins⟩ := Value.exists_chars_eq_cons h.1
      simp only [Value.chars, List.length_cons, List.length_append] at hfuel
      have hone := value_spell v fuel depth (spell (Value.itemChars vs) ++ i) h.1 (by omega)
        (delimits_itemChars vs i)
      have hmore := moreItems_spell vs fuel depth i h.2 (by omega)
      rw [hcs] at hone
      rw [Value.chars, hcs, spell_cons, List.cons_append, value, skipSpace_cons rfl]
      simp only [spell_append, spell_cons, List.cons_append, List.append_assoc] at hone ⊢
      rw [firstItem_of_begins hbegins, hone]
      simp only [bind, Except.bind, hmore]
      rfl
  | .obj [], fuel + 2, depth + 1, i, _, _, _ => by
      rw [Value.chars, spell_cons, List.cons_append, value, skipSpace_cons rfl]
      simp only [spell_cons, spell_nil, List.cons_append, List.nil_append, firstMember,
        skipSpace_cons (c := '}') rfl]
      rfl
  | .obj ((k, v) :: ms), fuel + 2, depth + 1, i, h, hfuel, _ => by
      simp only [Value.chars, List.length_cons, List.length_append] at hfuel
      have hone := value_spell v fuel depth (spell (Value.memberChars ms) ++ i) h.1 (by omega)
        (delimits_memberChars ms i)
      have hmore := moreMembers_spell ms fuel depth i h.2 (by omega)
      rw [Value.chars, spell_cons, List.cons_append, value, skipSpace_cons rfl]
      simp only [spell_append, spell_cons, List.cons_append, List.append_assoc]
      rw [firstMember_spell, hone]
      simp only [bind, Except.bind, hmore]
      rfl

theorem moreItems_spell : ∀ (vs : List Value) (fuel depth : Nat) (i : Input),
    Value.LegibleItems depth vs → 2 * (Value.itemChars vs).length ≤ fuel →
    moreItems fuel depth (spell (Value.itemChars vs) ++ i) = .ok (vs, i)
  | [], fuel + 1, _, _, _, _ => by
      rw [Value.itemChars, spell_cons, List.cons_append, moreItems, skipSpace_cons rfl]
      rfl
  | v :: vs, fuel + 1, depth, i, h, hfuel => by
      simp only [Value.itemChars, List.length_cons, List.length_append] at hfuel
      have hone := value_spell v fuel depth (spell (Value.itemChars vs) ++ i) h.1 (by omega)
        (delimits_itemChars vs i)
      have hmore := moreItems_spell vs fuel depth i h.2 (by omega)
      rw [Value.itemChars, spell_cons, List.cons_append, moreItems, skipSpace_cons rfl,
        spell_append, List.append_assoc]
      simp only [hone, hmore, bind, Except.bind]
      rfl

theorem moreMembers_spell : ∀ (ms : Members) (fuel depth : Nat) (i : Input),
    Value.LegibleMembers depth ms → 2 * (Value.memberChars ms).length ≤ fuel →
    moreMembers fuel depth (spell (Value.memberChars ms) ++ i) = .ok (ms, i)
  | [], fuel + 1, _, _, _, _ => by
      rw [Value.memberChars, spell_cons, List.cons_append, moreMembers, skipSpace_cons rfl]
      rfl
  | (k, v) :: ms, fuel + 1, depth, i, h, hfuel => by
      simp only [Value.memberChars, List.length_cons, List.length_append] at hfuel
      have hone := value_spell v fuel depth (spell (Value.memberChars ms) ++ i) h.1 (by omega)
        (delimits_memberChars ms i)
      have hmore := moreMembers_spell ms fuel depth i h.2 (by omega)
      rw [Value.memberChars]
      simp only [spell_append, spell_cons, List.cons_append, List.append_assoc]
      rw [moreMembers_cons, hone]
      simp only [hmore, bind, Except.bind]
      rfl

end

/-- The text of a value is read as that value, whatever follows it. -/
theorem anyValue_spell {v : Value} {depth : Nat} (h : v.Legible depth) {i : Input}
    (hi : Delimits i) : anyValue depth (spell v.chars ++ i) = .ok (v, i) := by
  refine value_spell v _ depth i h ?_ hi
  rw [fuelFor, List.length_append, length_spell]
  omega

/-- **A document is read as it was written.** -/
theorem document_spell {v : Value} (h : v.Legible maxDepth) : document (spell v.chars) = .ok v := by
  have hread := anyValue_spell h .nil
  rw [List.append_nil] at hread
  rw [document, hread]
  rfl

end Read

/-- A text that was written is the value that it was written for, its members sorted. -/
theorem Value.parse_compact {v : Value} (h : v.Legible maxDepth) :
    parse v.compact = .ok v.sorted := by
  rw [parse, compact, Text.piecesOfText, String.toList_ofList]
  exact congrArg _ (Read.document_spell h)

/-! ## Passing over -/

namespace Skim

/-- The first item begins at once. -/
theorem value_bracket {v : Value} {c : Char} (h : v.Begins c) (fuel : Nat) (i : Input) :
    value (fuel + 1) (.char '[' :: .char c :: i)
      = value fuel (.char c :: i) >>= moreItems fuel := by
  rw [value, skipSpace_cons rfl]
  simp only [skipSpace_cons h.isSpace]
  split
  · rename_i hbracket
    exact absurd (char_eq_of_cons_eq hbracket) h.ne_bracket
  · rename_i hnil
    cases hnil
  · rfl

/-- A digit at the front begins a numeral. -/
theorem value_of_isDigit {c : Char} (h : c.isDigit = true) (fuel : Nat) (i : Input) :
    value (fuel + 1) (.char c :: i) = numeral (.char c :: i) := by
  have hne (d : Char) (hd : d.isDigit = false) : c ≠ d := Value.ne_of_isDigit h hd
  rw [value, skipSpace_cons (Value.begins_of_isDigit (v := .null) h).isSpace]
  split
  all_goals simp_all

theorem value_int (n : Int) (fuel : Nat) {i : Input} (hi : Delimits i) :
    value (fuel + 1) (spell (Value.int n).chars ++ i) = .ok i := by
  cases n with
  | ofNat n =>
      obtain ⟨c, cs, hcs, -⟩ := exists_decimalDigits_eq_cons n
      have hdigit : c.isDigit = true := isDigit_of_mem_decimalDigits (hcs ▸ List.mem_cons_self)
      have hwhole := numeral_spell n hi
      change value (fuel + 1) (spell (Text.decimalDigits n) ++ i) = _
      rw [hcs] at hwhole ⊢
      exact (value_of_isDigit hdigit fuel _).trans hwhole
  | negSucc n =>
      change value (fuel + 1) (.char '-' :: (spell (Text.decimalDigits (n + 1)) ++ i)) = _
      rw [value, skipSpace_cons rfl]
      exact numeral_spell (n + 1) hi

/-- What is left of an object after the value of a member. -/
def restOfObject (fuel : Nat) (i : Input) : Except Fault Input :=
  match skipSpace i with
  | [] => .error .truncated
  | .char '}' :: i => .ok i
  | .char ',' :: i => member fuel i
  | _ => .error .malformed

/-- A scalar is passed over in one step. -/
theorem value_scalar {v : Value} {levels : Nat} (h : v.Legible levels) (hv : v.IsScalar)
    (fuel : Nat) {i : Input} (hi : Delimits i) :
    value (fuel + 1) (spell v.chars ++ i) = .ok i := by
  cases v with
  | null =>
      rw [Value.chars, spell_cons, List.cons_append, value, skipSpace_cons rfl]
      rfl
  | bool b =>
      cases b
      all_goals
        rw [Value.chars, spell_cons, List.cons_append, value, skipSpace_cons rfl]
        rfl
  | int n => exact value_int n fuel hi
  | float x => exact h.elim
  | str s =>
      rw [Value.chars, spell_stringChars, value, skipSpace_cons rfl]
      exact stringBody_spell _ i
  | arr items => exact hv.elim
  | obj ms => exact hv.elim

/-- A member is passed over from its key on, and then what is left of the object. -/
theorem member_spell (fuel : Nat) (k : String) (i : Input) :
    member (fuel + 1) (spell (stringChars k) ++ .char ':' :: i)
      = value fuel i >>= restOfObject fuel := by
  rw [spell_stringChars, member, skipSpace_cons rfl]
  simp only [stringBody_spell, Read.colon_cons, bind, Except.bind]
  rfl

/-- After the opening brace comes a key. -/
theorem value_brace (fuel : Nat) (k : String) (i : Input) :
    value (fuel + 1) (.char '{' :: (spell (stringChars k) ++ i))
      = member fuel (spell (stringChars k) ++ i) := by
  rw [value, skipSpace_cons rfl]
  simp only [spell_stringChars, skipSpace_cons (c := '"') rfl]
  rfl

mutual

/-- The text of a value is passed over as a whole. -/
theorem value_spell : ∀ (v : Value) (fuel depth : Nat) (i : Input), v.Legible depth →
    2 * v.chars.length ≤ fuel → Delimits i → value fuel (spell v.chars ++ i) = .ok i
  | _, 0, _, _, h, hfuel, _ => absurd hfuel (Value.not_length_chars_le_zero h)
  | .null, fuel + 1, _, _, h, _, hi => value_scalar h trivial fuel hi
  | .bool _, fuel + 1, _, _, h, _, hi => value_scalar h trivial fuel hi
  | .int _, fuel + 1, _, _, h, _, hi => value_scalar h trivial fuel hi
  | .str _, fuel + 1, _, _, h, _, hi => value_scalar h trivial fuel hi
  | .arr [], fuel + 2, depth + 1, i, _, _, _ => by
      rw [Value.chars, spell_cons, List.cons_append, value, skipSpace_cons rfl]
      rfl
  | .arr (v :: vs), fuel + 2, depth + 1, i, h, hfuel, _ => by
      obtain ⟨c, cs, hcs, hbegins⟩ := Value.exists_chars_eq_cons h.1
      simp only [Value.chars, List.length_cons, List.length_append] at hfuel
      have hone := value_spell v (fuel + 1) depth (spell (Value.itemChars vs) ++ i) h.1 (by omega)
        (delimits_itemChars vs i)
      have hmore := moreItems_spell vs (fuel + 1) depth i h.2 (by omega)
      rw [hcs] at hone
      rw [Value.chars, hcs]
      simp only [spell_append, spell_cons, List.cons_append, List.append_assoc] at hone ⊢
      rw [value_bracket hbegins, hone]
      exact hmore
  | .obj [], fuel + 2, depth + 1, i, _, _, _ => by
      rw [Value.chars, spell_cons, List.cons_append, value, skipSpace_cons rfl]
      rfl
  | .obj ((k, v) :: ms), fuel + 2, depth + 1, i, h, hfuel, _ => by
      simp only [Value.chars, List.length_cons, List.length_append] at hfuel
      have hone := value_spell v fuel depth (spell (Value.memberChars ms) ++ i) h.1 (by omega)
        (delimits_memberChars ms i)
      have hmore := restOfObject_spell ms fuel depth i h.2 (by omega)
      rw [Value.chars]
      simp only [spell_append, spell_cons, List.cons_append, List.append_assoc]
      rw [value_brace, member_spell, hone]
      exact hmore

theorem moreItems_spell : ∀ (vs : List Value) (fuel depth : Nat) (i : Input),
    Value.LegibleItems depth vs → 2 * (Value.itemChars vs).length ≤ fuel →
    moreItems fuel (spell (Value.itemChars vs) ++ i) = .ok i
  | [], fuel + 1, _, _, _, _ => by
      rw [Value.itemChars, spell_cons, List.cons_append, moreItems, skipSpace_cons rfl]
      rfl
  | v :: vs, fuel + 1, depth, i, h, hfuel => by
      simp only [Value.itemChars, List.length_cons, List.length_append] at hfuel
      have hone := value_spell v fuel depth (spell (Value.itemChars vs) ++ i) h.1 (by omega)
        (delimits_itemChars vs i)
      have hmore := moreItems_spell vs fuel depth i h.2 (by omega)
      rw [Value.itemChars, spell_cons, List.cons_append, moreItems, skipSpace_cons rfl,
        spell_append, List.append_assoc]
      simp only [hone, hmore, bind, Except.bind]

/-- What is left of an object is passed over as a whole. -/
theorem restOfObject_spell : ∀ (ms : Members) (fuel depth : Nat) (i : Input),
    Value.LegibleMembers depth ms → 2 * (Value.memberChars ms).length ≤ fuel →
    restOfObject fuel (spell (Value.memberChars ms) ++ i) = .ok i
  | [], fuel, _, _, _, _ => by
      rw [Value.memberChars, spell_cons, List.cons_append, restOfObject, skipSpace_cons rfl]
      rfl
  | (k, v) :: ms, fuel + 1, depth, i, h, hfuel => by
      simp only [Value.memberChars, List.length_cons, List.length_append] at hfuel
      have hone := value_spell v fuel depth (spell (Value.memberChars ms) ++ i) h.1 (by omega)
        (delimits_memberChars ms i)
      have hmore := restOfObject_spell ms fuel depth i h.2 (by omega)
      rw [Value.memberChars]
      simp only [spell_append, spell_cons, List.cons_append, List.append_assoc]
      rw [restOfObject, skipSpace_cons rfl]
      simp only
      rw [member_spell, hone]
      exact hmore

end

/-- The text of a value is passed over as a whole, whatever follows it. -/
theorem anyValue_spell {v : Value} {depth : Nat} (h : v.Legible depth) {i : Input}
    (hi : Delimits i) : anyValue (spell v.chars ++ i) = .ok i := by
  refine value_spell v _ depth i h ?_ hi
  rw [Read.fuelFor, List.length_append, length_spell]
  omega

end Skim

end Messenger.Json
