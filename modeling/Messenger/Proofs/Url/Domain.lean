import Mathlib.Data.List.Basic
import Messenger.Url.Domain

set_option autoImplicit false

/-! # Names that end in a control

Nothing on the way from a domain name to its ASCII form takes a control character at its end away:
it has no parts and is no mark, it separates no labels, and an encoded label that ends in it cannot
be decoded. So a name that ends in a control is refused (`Domain.toAscii?_concat`). -/

namespace Messenger

/-! ## Composed forms -/

namespace Text.Compose

variable {c : Char}

theorem combiningClass_of_lt (h : c.toNat < firstMark) : combiningClass c = 0 := if_pos h

/-- A character that is no mark and has no parts is put where it stands. -/
theorem reorder_concat (h : combiningClass c = 0) (cs marks : List Char) :
    reorder marks (cs ++ [c]) = reorder marks cs ++ [c] := by
  induction cs generalizing marks with
  | nil => simp [reorder, h]
  | cons d cs ih =>
      rw [List.cons_append, reorder, reorder]
      split
      · rw [ih, List.append_assoc, List.cons_append]
      · exact ih _

theorem decompose_concat (h : c.toNat < 0xC0) (cs : List Char) :
    decompose (cs ++ [c]) = decompose cs ++ [c] := by
  have hparts : partsWithin depth c = [c] := if_pos h
  have hclass : combiningClass c = 0 := combiningClass_of_lt (by rw [firstMark]; omega)
  rw [decompose, List.flatMap_append, List.flatMap_singleton, hparts, reorder_concat hclass]
  rfl

/-- No letter grows by a character that is no mark. -/
theorem Open.grow?_of_lt (h : c.toNat < firstMark) (o : Open) : o.grow? c = none := by
  rw [grow?, if_neg (by simp [Nat.not_le.2 h])]

theorem recompose_concat (h : c.toNat < firstMark) (cs : List Char) (o : Open) :
    recompose o (cs ++ [c]) = recompose o cs ++ [c] := by
  induction cs generalizing o with
  | nil => simp [recompose, Open.grow?_of_lt h, combiningClass_of_lt h, Open.close]
  | cons d cs ih =>
      rw [List.cons_append, recompose, recompose]
      split
      · exact ih _
      · split
        · rw [ih, List.append_assoc]
        · exact ih _

theorem recomposeAll_concat (h : c.toNat < firstMark) (cs : List Char) :
    recomposeAll (cs ++ [c]) = recomposeAll cs ++ [c] := by
  induction cs with
  | nil => simp [recomposeAll, recompose, combiningClass_of_lt h, Open.close]
  | cons d cs ih =>
      rw [List.cons_append, recomposeAll, recomposeAll]
      split
      · exact recompose_concat h cs _
      · rw [ih, List.cons_append]

/-- The composed form ends in a character without parts that is no mark if the text does. -/
theorem compose_concat (h : c.toNat < 0xC0) (cs : List Char) :
    compose (cs ++ [c]) = compose cs ++ [c] := by
  rw [compose, decompose_concat h, recomposeAll_concat (by rw [firstMark]; omega)]
  rfl

end Text.Compose

namespace Url

/-! ## Encoded labels -/

namespace Punycode

variable {c : Char}

/-- What ends in something that is no digit is no list of numbers. -/
theorem read_concat (h : value? c = none) (cs : List Char) (r : Reader) (p : Partial) :
    read r p (cs ++ [c]) = none := by
  induction cs generalizing r p with
  | nil => simp [read, h]
  | cons d cs ih =>
      rw [List.cons_append, read]
      cases value? d with
      | none => rfl
      | some n =>
          simp only [Option.bind_eq_bind, Option.bind_some]
          split
          · cases r.insert? (p.value + n * p.weight) with
            | none => rfl
            | some r => exact ih r {}
          · exact ih r _

/-- What ends in no hyphen ends in the numbers. -/
theorem split_concat (h : c ≠ '-') (cs : List Char) :
    ∃ basic numbers, split (cs ++ [c]) = (basic, numbers ++ [c]) := by
  have hrest : ((cs ++ [c]).reverse.takeWhile (· != '-')).reverse
      = (cs.reverse.takeWhile (· != '-')).reverse ++ [c] := by
    simp [h]
  unfold split
  split
  · exact ⟨_, _, by rw [hrest]⟩
  · exact ⟨_, _, rfl⟩

theorem decode?_concat (h : value? c = none) (hhyphen : c ≠ '-') (cs : List Char) :
    decode? (cs ++ [c]) = none := by
  obtain ⟨basic, numbers, hsplit⟩ := split_concat hhyphen cs
  simp only [decode?, hsplit, read_concat h, Option.bind_eq_bind, Option.bind_none]

end Punycode

/-! ## Names -/

namespace Domain

/-- A control character of ASCII, or a blank. -/
def IsControl (c : Char) : Prop := c.toNat ≤ 0x20

variable {c : Char}

/-- What holds of the first 33 characters holds of every control. -/
theorem IsControl.of_forall {P : Char → Prop} (h : ∀ n < 0x21, P (Char.ofNat n))
    (hc : IsControl c) : P c := by
  have hn := h c.toNat (Nat.lt_succ_of_le hc)
  rwa [Char.ofNat_toNat] at hn

theorem IsControl.value?_eq_none (h : IsControl c) : Punycode.value? c = none :=
  h.of_forall (P := fun c => Punycode.value? c = none) (by decide)

theorem IsControl.replace?_eq (h : IsControl c) : replace? c = some [c] :=
  h.of_forall (P := fun c => replace? c = some [c]) (by decide)

theorem IsControl.ne (h : IsControl c) {d : Char} (hd : 0x20 < d.toNat) : c ≠ d := by
  rintro rfl
  exact absurd hd (Nat.not_lt.2 h)

/-- The last label is that of the end. -/
theorem labels_concat (h : c ≠ '.') (cs : List Char) :
    ∃ front last, labels cs = front ++ [last] ∧ labels (cs ++ [c]) = front ++ [last ++ [c]] := by
  induction cs with
  | nil => exact ⟨[], [], rfl, by simp [labels, h]⟩
  | cons d cs ih =>
      obtain ⟨front, last, hcs, hconcat⟩ := ih
      rw [List.cons_append, labels, labels]
      split
      · exact ⟨[] :: front, last, by rw [hcs, List.cons_append], by rw [hconcat, List.cons_append]⟩
      · cases front with
        | nil => exact ⟨[], d :: last, by rw [hcs]; rfl, by rw [hconcat]; rfl⟩
        | cons l front => exact ⟨(d :: l) :: front, last, by rw [hcs]; rfl, by rw [hconcat]; rfl⟩

/-- A label that ends in a control is read, if at all, as it is. -/
theorem readLabel?_concat (h : IsControl c) {cs label : List Char}
    (hread : readLabel? (cs ++ [c]) = some label) : label = cs ++ [c] := by
  have hhyphen : c ≠ '-' := h.ne (by decide)
  unfold readLabel? at hread
  split at hread
  · -- The label is encoded, and behind its mark it ends in the control.
    rename_i hmark
    obtain ⟨rest, hrest⟩ := List.isPrefixOf_iff_prefix.1 hmark
    have hne : rest ≠ [] := by
      rintro rfl
      have hlast := congrArg List.getLast? hrest
      rw [List.append_nil, List.getLast?_concat] at hlast
      exact hhyphen (Option.some.inj hlast).symm
    obtain ⟨front, d, rfl⟩ := (List.eq_nil_or_concat' rest).resolve_left hne
    obtain rfl : d = c := by
      rw [← List.append_assoc] at hrest
      exact (List.append_inj_right' hrest rfl |> List.cons.inj).1
    rw [← hrest, List.drop_left] at hread
    simp only [Punycode.decode?_concat h.value?_eq_none hhyphen, Option.bind_eq_bind,
      Option.bind_none] at hread
    split at hread <;> cases hread
  · exact (Option.some.inj hread).symm

theorem isValidLabel_concat (h : IsControl c) (cs : List Char) :
    isValidLabel (cs ++ [c]) = false := by
  have hforbidden : isForbidden c = true := by
    simp only [isForbidden, decide_eq_true (show c.toNat ≤ 0x20 from h), Bool.true_or]
  simp [isValidLabel, hforbidden]

/-- The last of some labels, if it can be read, ends in the control and is not valid. -/
theorem all_isValidLabel_concat (h : IsControl c) {front labels : List (List Char)}
    {last : List Char} (hread : (front ++ [last ++ [c]]).mapM readLabel? = some labels) :
    labels.all isValidLabel = false := by
  simp only [List.mapM_append, Option.bind_eq_bind, Option.bind_eq_some_iff] at hread
  obtain ⟨before, -, after, hafter, hlabels⟩ := hread
  obtain rfl := Option.some.inj hlabels
  simp only [List.mapM_cons, List.mapM_nil, Option.bind_eq_bind, Option.bind_eq_some_iff] at hafter
  obtain ⟨label, hlabel, _, hnil, hcons⟩ := hafter
  obtain rfl := Option.some.inj hnil
  obtain rfl := Option.some.inj hcons
  obtain rfl := readLabel?_concat h hlabel
  simp [isValidLabel_concat h]

/-- **A name that ends in a control is refused.** -/
theorem toAscii?_concat (h : IsControl c) (cs : List Char) : toAscii? (cs ++ [c]) = none := by
  have hlow : c.toNat < 0xC0 := Nat.lt_of_le_of_lt h (by decide)
  have hmapM : (cs ++ [c]).mapM replace? = (cs.mapM replace?).map (· ++ [[c]]) := by
    rw [List.mapM_append]
    cases cs.mapM replace? <;> simp [h.replace?_eq]
  unfold toAscii?
  rw [hmapM]
  cases cs.mapM replace? with
  | none => rfl
  | some replaced =>
      have hflat : (replaced ++ [[c]]).flatten = replaced.flatten ++ [c] := by simp
      obtain ⟨front, last, -, hlabels⟩ :=
        labels_concat (h.ne (by decide) : c ≠ '.') (Text.compose replaced.flatten)
      simp only [Option.map_some, Option.bind_eq_bind, Option.bind_some, hflat,
        Text.Compose.compose_concat hlow, hlabels]
      cases hread : (front ++ [last ++ [c]]).mapM readLabel? with
      | none => rfl
      | some labels =>
          rw [Option.bind_some, all_isValidLabel_concat h hread]
          rfl

end Domain
end Url
end Messenger
