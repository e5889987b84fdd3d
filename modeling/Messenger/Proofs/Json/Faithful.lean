import Messenger.Proofs.Json.Decode
import Messenger.Proofs.Json.Legible

set_option autoImplicit false

/-! # Decoding what was written

A decoder takes a structure from a value or from text, by two pieces of code. They agree on what was
written: what a decoder takes from a legible value it also reads from the compact text of that value
(`Faithful`), no matter in which order the members stand, and including members that the structure
does not know and the array form of a structure. Each way to build a decoder keeps this. -/

namespace Messenger.Json.Decoder

variable {α β δ : Type}

/-- What the decoder takes from a legible value, it reads from its text. -/
def Faithful (d : Decoder α) : Prop :=
  ∀ ⦃v : Value⦄ ⦃a : α⦄ ⦃depth : Nat⦄ ⦃i : Input⦄, v.Legible depth → Delimits i →
    d.ofValue v = .ok a → d.read depth (spell v.chars ++ i) = .ok (a, i)

/-- **A text that was written decodes as the value that it was written for.** -/
theorem Faithful.ofText {d : Decoder α} (hd : d.Faithful) {v : Value} {a : α}
    (h : v.Legible maxDepth) (hv : d.ofValue v = .ok a) : Decoder.ofText d v.compact = .ok a := by
  have hread := hd h .nil hv
  rw [List.append_nil] at hread
  rw [Decoder.ofText, Value.compact, Text.piecesOfText, String.toList_ofList]
  change d.read maxDepth (spell v.chars) >>= _ = _
  rw [hread]
  rfl

/-! ## Scalars -/

/-- A scalar whose test holds of scalars only. -/
theorem faithful_scalar {test : Value → Option α}
    (hscalar : ∀ v a, test v = some a → v.IsScalar) : (scalar test).Faithful := by
  intro v a depth i h hi hv
  have htest := scalar_eq_ok_iff.1 hv
  have hv := hscalar v a htest
  obtain ⟨c, cs, hcs, hbegins⟩ := Value.exists_chars_eq_cons h
  have hread := Read.value_scalar h hv 0 0 hi
  rw [hcs, spell_cons, List.cons_append] at hread ⊢
  simp only [scalar, skipSpace_cons hbegins.isSpace]
  split
  · rename_i hbracket
    obtain ⟨items, rfl⟩ := hbegins.arr (char_eq_of_cons_eq hbracket)
    exact hv.elim
  · rename_i hbrace
    obtain ⟨ms, rfl⟩ := hbegins.obj (char_eq_of_cons_eq hbrace)
    exact hv.elim
  · simp only [hread, htest, bind, Except.bind]

theorem faithful_string : string.Faithful :=
  faithful_scalar fun v _ h => by
    rw [Value.str?_eq_some_iff.1 h]
    trivial

/-- A string is read from its quotes, whatever follows. -/
theorem string_read_spell (s : String) (depth : Nat) (i : Input) :
    string.read depth (spell (stringChars s) ++ i) = .ok (s, i) := by
  have hread := Read.value_string s 0 0 i
  rw [spell_stringChars] at hread ⊢
  simp only [string, scalar, skipSpace_cons (c := '"') rfl]
  change Read.value 1 0 _ >>= _ = _
  rw [hread]
  rfl

theorem faithful_bool : bool.Faithful :=
  faithful_scalar fun v _ h => by
    rw [Value.bool?_eq_some_iff.1 h]
    trivial

theorem faithful_int64 : int64.Faithful :=
  faithful_scalar fun v _ h => by
    rw [Value.int64?_eq_some_iff.1 h]
    trivial

theorem faithful_uint64 : uint64.Faithful :=
  faithful_scalar fun v _ h => by
    cases v with
    | int n => trivial
    | _ => cases h

/-- The test for `null`. -/
theorem faithful_null : (scalar fun v => if v.isNull then some () else none).Faithful :=
  faithful_scalar fun v _ h => by
    cases v with
    | null => trivial
    | _ => cases h

/-! ## Building blocks -/

theorem Faithful.map {d : Decoder α} (hd : d.Faithful) (f : α → β) : (d.map f).Faithful := by
  intro v b depth i h hi hv
  obtain ⟨a, ha, rfl⟩ := map_eq_ok_iff.1 hv
  simp only [Decoder.map, hd h hi ha, bind, Except.bind]
  rfl

theorem Faithful.option {d : Decoder α} (hd : d.Faithful) : d.option.Faithful := by
  intro v o depth i h hi hv
  obtain ⟨c, cs, hcs, hbegins⟩ := Value.exists_chars_eq_cons h
  cases hnull : v.isNull with
  | true =>
      cases v with
      | null =>
          cases hv
          rfl
      | _ => cases hnull
  | false =>
      simp only [Decoder.option, hnull] at hv
      obtain ⟨a, ha, rfl⟩ := map_eq_ok_iff.1 hv
      have hread := hd h hi ha
      rw [hcs, spell_cons, List.cons_append] at hread ⊢
      simp only [Decoder.option, skipSpace_cons hbegins.isSpace]
      split
      · rename_i hletter
        rw [hbegins.null (char_eq_of_cons_eq hletter)] at hnull
        cases hnull
      · simp only [hread, bind, Except.bind]
        rfl

theorem Faithful.readItems {d : Decoder α} (hd : d.Faithful) {depth : Nat} {i : Input}
    {vs : List Value} {as : List α} (h : Value.LegibleItems depth vs)
    (hvs : vs.mapM d.ofValue = .ok as) {fuel : Nat} (hfuel : vs.length < fuel) :
    Decoder.readItems d depth fuel (spell (Value.itemChars vs) ++ i) = .ok (as, i) := by
  induction vs generalizing as fuel with
  | nil =>
      obtain ⟨fuel, rfl⟩ : ∃ f, fuel = f + 1 := ⟨fuel - 1, by omega⟩
      cases hvs
      rfl
  | cons v vs ih =>
      obtain ⟨fuel, rfl⟩ : ∃ f, fuel = f + 1 := ⟨fuel - 1, by omega⟩
      rw [List.mapM_cons] at hvs
      obtain ⟨a, ha, hvs⟩ := bind_eq_ok_iff.1 hvs
      obtain ⟨as, has, hvs⟩ := bind_eq_ok_iff.1 hvs
      cases hvs
      have hone := hd h.1 (delimits_itemChars vs i) ha
      have hmore := ih h.2 has (Nat.lt_of_succ_lt_succ hfuel)
      rw [Value.itemChars, spell_cons, List.cons_append, Decoder.readItems, skipSpace_cons rfl,
        spell_append, List.append_assoc]
      simp only [hone, hmore, bind, Except.bind]
      rfl

theorem Faithful.list {d : Decoder α} (hd : d.Faithful) : (list d).Faithful := by
  intro v as depth i h hi hv
  cases v with
  | arr vs =>
      obtain _ | depth := depth
      · exact h.elim
      obtain _ | ⟨v, vs⟩ := vs
      · cases hv
        rfl
      · simp only [Decoder.list, List.mapM_cons] at hv
        obtain ⟨a, ha, hv⟩ := bind_eq_ok_iff.1 hv
        obtain ⟨as, has, hv⟩ := bind_eq_ok_iff.1 hv
        cases hv
        obtain ⟨c, cs, hcs, hbegins⟩ := Value.exists_chars_eq_cons h.1
        have hone := hd h.1 (delimits_itemChars vs i) ha
        have hlength : vs.length < (spell (Value.itemChars vs) ++ i).length := by
          have hitems := Value.length_lt_itemChars vs
          rw [List.length_append, length_spell]
          omega
        have hmore : Decoder.readItems d depth _ (spell (Value.itemChars vs) ++ i) = .ok (as, i) :=
          hd.readItems h.2 has hlength
        rw [hcs] at hone
        rw [Value.chars, hcs]
        simp only [spell_append, spell_cons, List.cons_append, List.append_assoc] at hone ⊢
        simp only [Decoder.list, skipSpace_cons (c := '[') rfl, skipSpace_cons hbegins.isSpace]
        split
        · rename_i hnil
          cases hnil
        · rename_i hbracket
          exact absurd (char_eq_of_cons_eq hbracket) hbegins.ne_bracket
        · simp only [hone, hmore, bind, Except.bind]
          rfl
  | _ => cases hv

theorem faithful_name (names : List (String × α)) : (name names).Faithful := by
  intro v a depth i h hi hv
  cases v with
  | str s =>
      change ofName names s = .ok a at hv
      rw [Value.chars, spell_stringChars]
      simp only [name, skipSpace_cons (c := '"') rfl, Read.stringBody_spell, bind, Except.bind, hv]
      rfl
  | obj ms =>
      obtain _ | depth := depth
      · exact h.elim
      obtain _ | ⟨⟨s, w⟩, _ | ⟨m, ms⟩⟩ := ms
      · cases hv
      · obtain ⟨b, hb, hv⟩ := bind_eq_ok_iff.1 hv
        cases w with
        | null =>
            cases hv
            have hlegible : Value.Legible 0 .null := trivial
            have hnull := faithful_null hlegible (delimits_memberChars [] i) rfl
            rw [Value.chars, spell_cons, List.cons_append]
            simp only [spell_append, spell_cons, List.append_assoc, List.cons_append]
            simp only [name, skipSpace_cons (c := '{') rfl, string_read_spell, hb, Read.colon_cons,
              hnull, bind, Except.bind]
            rfl
        | _ => cases hv
      · cases hv
  | _ => cases hv

/-! ## Structures -/

namespace Shape

variable {s : Shape δ α}

/-- What a member does to a draft, by itself. -/
def ofMember (s : Shape δ α) (x : δ) (k : String) (v : Value) : Except Fault δ :=
  match Field.find? s.fields k with
  | none => .ok x
  | some f => if f.isSet x then .error .mismatched else do return (← f.put.ofValue v) x

/-- Members are taken one by one. -/
theorem ofMembers_cons (s : Shape δ α) (x : δ) (k : String) (v : Value) (ms : Members) :
    s.ofMembers x ((k, v) :: ms) = s.ofMember x k v >>= fun y => s.ofMembers y ms := by
  rw [ofMembers, ofMember]
  cases Field.find? s.fields k with
  | none => rfl
  | some f =>
      cases hset : f.isSet x with
      | true => simp only [hset, if_true, bind, Except.bind]
      | false =>
          cases hput : f.put.ofValue v with
          | error fault => simp [hset, hput, bind, Except.bind]
          | ok g => simp [hset, hput, bind, Except.bind, pure, Except.pure]

/-- A member is read as it is taken. -/
theorem readMember_spell (hfields : ∀ f ∈ s.fields, f.put.Faithful) {x y : δ} {k : String}
    {v : Value} {depth : Nat} {i : Input} (h : v.Legible depth) (hi : Delimits i)
    (hmember : s.ofMember x k v = .ok y) :
    s.readMember depth x
        (spell (k.toList.flatMap escapeChar) ++ .char '"' :: .char ':' :: (spell v.chars ++ i))
      = .ok (y, i) := by
  rw [readMember, Read.stringBody_spell]
  unfold ofMember at hmember
  cases hfind : Field.find? s.fields k with
  | none =>
      rw [hfind] at hmember
      cases hmember
      simp only [hfind, Read.colon_cons, Skim.anyValue_spell h hi, bind, Except.bind]
      rfl
  | some f =>
      simp only [hfind] at hmember
      split at hmember
      · cases hmember
      · rename_i hset
        obtain ⟨g, hg, hy⟩ := bind_eq_ok_iff.1 hmember
        cases hy
        have hread := hfields f (List.mem_of_find?_eq_some hfind) h hi hg
        simp only [hfind, if_neg hset, Read.colon_cons, hread, bind, Except.bind]
        rfl

/-- The object form is read from its brace on. -/
theorem read_brace (s : Shape δ α) (depth : Nat) (i : Input) :
    s.decoder.read (depth + 1) (.char '{' :: i)
      = s.readMembers depth (i.length + 1) true s.empty i := rfl

/-- The array form is read from its bracket on. -/
theorem read_bracket {s : Shape δ α} (h : s.positional = true) (depth : Nat) (i : Input) :
    s.decoder.read (depth + 1) (.char '[' :: i) = s.readItems depth s.fields true s.empty i := by
  simp only [decoder, skipSpace_cons (c := '[') rfl, h, if_true]

/-- The first member is read from its key on. -/
theorem readMembers_first (depth fuel : Nat) (x : δ) (i : Input) :
    s.readMembers depth (fuel + 1) true x (.char '"' :: i)
      = s.readMember depth x i >>= fun p => s.readMembers depth fuel false p.1 p.2 := by
  rw [readMembers, skipSpace_cons rfl]
  rfl

/-- After a comma comes a key. -/
theorem readMembers_comma (depth fuel : Nat) (x : δ) (i : Input) :
    s.readMembers depth (fuel + 1) false x (.char ',' :: .char '"' :: i)
      = s.readMember depth x i >>= fun p => s.readMembers depth fuel false p.1 p.2 := by
  rw [readMembers, skipSpace_cons rfl]
  rfl

/-- The first item is read at once. -/
theorem readItems_first {v : Value} {c : Char} (h : v.Begins c) (depth : Nat) (f : Field δ)
    (fs : List (Field δ)) (x : δ) (i : Input) :
    s.readItems depth (f :: fs) true x (.char c :: i)
      = f.put.read depth (.char c :: i) >>= fun p => s.readItems depth fs false (p.1 x) p.2 := by
  rw [readItems, skipSpace_cons h.isSpace]
  split
  · rename_i hnil
    cases hnil
  · rename_i hbracket
    exact absurd (char_eq_of_cons_eq hbracket) h.ne_bracket
  · rfl

/-- After a comma comes an item. -/
theorem readItems_comma (depth : Nat) (f : Field δ) (fs : List (Field δ)) (x : δ) (i : Input) :
    s.readItems depth (f :: fs) false x (.char ',' :: i)
      = f.put.read depth i >>= fun p => s.readItems depth fs false (p.1 x) p.2 := by
  rw [readItems, skipSpace_cons rfl]
  rfl

theorem ofItems_nil_eq_ok_iff {fs : List (Field δ)} {x y : δ} :
    ofItems fs x [] = .ok y ↔ x = y := by
  cases fs <;> simp [ofItems]

/-- The array form may end anywhere. -/
theorem readItems_end {fs : List (Field δ)} {first : Bool} {x : δ} {a : α} {depth : Nat} {i : Input}
    (hfinish : s.finish x = .ok a) :
    s.readItems depth fs first x (.char ']' :: i) = .ok (a, i) := by
  cases fs with
  | nil =>
      simp only [readItems, hfinish, bind, Except.bind]
      rfl
  | cons f fs =>
      rw [readItems, skipSpace_cons rfl]
      simp only [hfinish, bind, Except.bind]
      rfl

/-- Members are read as they are taken. -/
theorem readMembers_spell (hfields : ∀ f ∈ s.fields, f.put.Faithful) {x y : δ} {a : α} {depth : Nat}
    {i : Input} {ms : Members} (h : Value.LegibleMembers depth ms)
    (hms : s.ofMembers x ms = .ok y) (hfinish : s.finish y = .ok a) {fuel : Nat}
    (hfuel : ms.length < fuel) :
    s.readMembers depth fuel false x (spell (Value.memberChars ms) ++ i) = .ok (a, i) := by
  induction ms generalizing x fuel with
  | nil =>
      obtain ⟨fuel, rfl⟩ : ∃ f, fuel = f + 1 := ⟨fuel - 1, by omega⟩
      cases hms
      rw [Value.memberChars, spell_cons, List.cons_append, readMembers, skipSpace_cons rfl]
      simp only [hfinish, bind, Except.bind]
      rfl
  | cons m ms ih =>
      obtain ⟨k, v⟩ := m
      obtain ⟨fuel, rfl⟩ : ∃ f, fuel = f + 1 := ⟨fuel - 1, by omega⟩
      rw [ofMembers_cons] at hms
      obtain ⟨z, hz, hms⟩ := bind_eq_ok_iff.1 hms
      have hone := readMember_spell hfields h.1 (delimits_memberChars ms i) hz
      have hmore := ih h.2 hms (Nat.lt_of_succ_lt_succ hfuel)
      rw [Value.memberChars]
      simp only [spell_append, spell_cons, List.cons_append, List.append_assoc]
      rw [spell_stringChars, readMembers_comma, hone]
      exact hmore

/-- Items are read as they are taken. -/
theorem readItems_spell {fs : List (Field δ)} (hfs : ∀ f ∈ fs, f.put.Faithful) {x y : δ} {a : α}
    {depth : Nat} {i : Input} {vs : List Value} (h : Value.LegibleItems depth vs)
    (hvs : ofItems fs x vs = .ok y) (hfinish : s.finish y = .ok a) :
    s.readItems depth fs false x (spell (Value.itemChars vs) ++ i) = .ok (a, i) := by
  induction vs generalizing x fs with
  | nil =>
      obtain rfl := ofItems_nil_eq_ok_iff.1 hvs
      exact readItems_end hfinish
  | cons v vs ih =>
      cases fs with
      | nil => cases hvs
      | cons f fs =>
          obtain ⟨g, hg, hvs⟩ := bind_eq_ok_iff.1 hvs
          have hone := hfs f List.mem_cons_self h.1 (delimits_itemChars vs i) hg
          have hmore := ih (fun f hf => hfs f (List.mem_cons_of_mem _ hf)) h.2 hvs
          rw [Value.itemChars]
          simp only [spell_append, spell_cons, List.cons_append, List.append_assoc]
          rw [readItems_comma, hone]
          exact hmore

/-- **A structure is read as it is taken**, whether it is written as an object or as an array, and
whatever members it does not know. -/
theorem faithful (hfields : ∀ f ∈ s.fields, f.put.Faithful) : s.decoder.Faithful := by
  intro v a depth i h hi hv
  cases v with
  | obj ms =>
      obtain _ | depth := depth
      · exact h.elim
      obtain ⟨y, hms, hfinish⟩ := bind_eq_ok_iff.1 hv
      obtain _ | ⟨⟨k, v⟩, ms⟩ := ms
      · cases hms
        rw [Value.chars, spell_cons, List.cons_append, read_brace, spell_cons, List.cons_append,
          readMembers, skipSpace_cons rfl]
        simp only [hfinish, bind, Except.bind]
        rfl
      · rw [ofMembers_cons] at hms
        obtain ⟨z, hz, hms⟩ := bind_eq_ok_iff.1 hms
        have hone := readMember_spell hfields h.1 (delimits_memberChars ms i) hz
        rw [Value.chars, spell_cons, List.cons_append, read_brace]
        simp only [spell_append, spell_cons, List.cons_append, List.append_assoc]
        rw [spell_stringChars, readMembers_first, hone]
        refine readMembers_spell hfields h.2 hms hfinish ?_
        have hlength := Value.length_lt_memberChars ms
        simp only [List.length_cons, List.length_append, length_spell]
        omega
  | arr vs =>
      obtain _ | depth := depth
      · exact h.elim
      cases hpositional : s.positional with
      | false => simp [decoder, ofValue, hpositional] at hv
      | true =>
          simp only [decoder, ofValue, hpositional, if_true] at hv
          obtain ⟨y, hvs, hfinish⟩ := bind_eq_ok_iff.1 hv
          obtain _ | ⟨v, vs⟩ := vs
          · obtain rfl := ofItems_nil_eq_ok_iff.1 hvs
            rw [Value.chars, spell_cons, List.cons_append, read_bracket hpositional]
            exact readItems_end hfinish
          · cases hs : s.fields with
            | nil =>
                rw [hs] at hvs
                cases hvs
            | cons f fs =>
                rw [hs] at hvs hfields
                obtain ⟨g, hg, hvs⟩ := bind_eq_ok_iff.1 hvs
                obtain ⟨hf, hfs⟩ := List.forall_mem_cons.1 hfields
                obtain ⟨c, cs, hcs, hbegins⟩ := Value.exists_chars_eq_cons h.1
                have hone := hf h.1 (delimits_itemChars vs i) hg
                rw [hcs] at hone
                rw [Value.chars, hcs, spell_cons, List.cons_append, read_bracket hpositional, hs]
                simp only [spell_append, spell_cons, List.cons_append,
                  List.append_assoc] at hone ⊢
                rw [readItems_first hbegins, hone]
                exact readItems_spell hfs h.2 hvs hfinish
  | _ => cases hv

end Shape

end Messenger.Json.Decoder
