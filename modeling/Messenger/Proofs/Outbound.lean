import Messenger.Outbound
import Messenger.Proofs.Text.Base64
import Messenger.Proofs.Text.Percent

set_option autoImplicit false

/-! # What the descriptor of a file says

A file is sent under a descriptor in which its name stands between marks and its content last. The
name is written so that no mark occurs in it, whatever characters it has; so the descriptor of a
file of a known kind says its name and its content, and nothing can be mistaken for the other
(`Attachment.descriptor_says`). -/

namespace Messenger

open Text

/-- Two texts that agree, each cut at its first mark, agree before and after it. -/
theorem eq_of_append_cons {α : Type} {mark : α} {xs ys ds es : List α} (hxs : mark ∉ xs)
    (hys : mark ∉ ys) (h : xs ++ mark :: ds = ys ++ mark :: es) : xs = ys ∧ ds = es := by
  induction xs generalizing ys with
  | nil =>
      cases ys with
      | nil => exact ⟨rfl, (List.cons.inj h).2⟩
      | cons y ys => exact absurd ((List.cons.inj h).1 ▸ List.mem_cons_self) hys
  | cons x xs ih =>
      cases ys with
      | nil => exact absurd ((List.cons.inj h).1 ▸ List.mem_cons_self) hxs
      | cons y ys =>
          obtain ⟨rfl, hrest⟩ := List.cons.inj h
          rw [List.mem_cons, not_or] at hxs hys
          obtain ⟨rfl, htail⟩ := ih hxs.2 hys.2 hrest
          exact ⟨rfl, htail⟩

namespace Attachment

/-! ## File names -/

/-- Bytes as a form writes them: what is not admitted is escaped, except that a blank becomes a plus
sign. -/
def formEncode (bytes : List UInt8) : List Char :=
  bytes.flatMap fun b => if b = 0x20 then ['+'] else Percent.encodeByte Percent.admittedInName b

/-- A form with every plus sign written as an escaped blank. -/
def withoutPlus (cs : List Char) : List Char :=
  cs.flatMap fun c => if c = '+' then ['%', '2', '0'] else [c]

/-- The characters that separate, or that some readers take for something else. -/
def marks : List Char := [';', ',', '+', ' ']

theorem spells_encodedName (name : String) :
    Percent.Spells Percent.admittedInName (encodedName name) (toUtf8 name) :=
  Percent.spells_encode (toUtf8 name)

/-- No mark occurs in what spells bytes in a file name. -/
theorem not_mem_marks {cs : List Char} {bytes : List UInt8}
    (h : Percent.Spells Percent.admittedInName cs bytes) {c : Char} (hc : c ∈ cs) : c ∉ marks := by
  have hnone : ∀ mark ∈ marks, Percent.admittedInName mark = false ∧ mark ≠ '%'
      ∧ hexDigit? mark = none := by
    intro mark hmark
    simp only [marks, List.mem_cons, List.not_mem_nil, or_false] at hmark
    rcases hmark with rfl | rfl | rfl | rfl <;> exact ⟨rfl, by decide, rfl⟩
  intro hmark
  obtain ⟨hadmitted, hpercent, hdigit⟩ := hnone c hmark
  rcases h.mem hc with htrue | rfl | ⟨n, hn⟩
  · rw [hadmitted] at htrue
    cases htrue
  · exact hpercent rfl
  · rw [hdigit] at hn
    cases hn

theorem withoutPlus_of_not_mem {cs : List Char} (h : '+' ∉ cs) : withoutPlus cs = cs := by
  induction cs with
  | nil => rfl
  | cons c cs ih =>
      rw [List.mem_cons, not_or] at h
      have hrest : withoutPlus cs = cs := ih h.2
      rw [withoutPlus, List.flatMap_cons, if_neg (Ne.symm h.1), List.singleton_append]
      exact congrArg _ hrest

/-- **A name is written as in a form, but for the blanks.** A plus sign of the name itself is
escaped before the blanks are, so the two are not confused. -/
theorem encodedName_eq (name : String) :
    encodedName name = withoutPlus (formEncode (toUtf8 name)) := by
  unfold encodedName Percent.encode formEncode
  induction toUtf8 name with
  | nil => rfl
  | cons b bytes ih =>
      rw [List.flatMap_cons, List.flatMap_cons, ih, withoutPlus, withoutPlus, List.flatMap_append]
      congr 1
      by_cases hblank : b = 0x20
      · subst hblank
        rfl
      · have hspells : Percent.Spells Percent.admittedInName
            (Percent.encodeByte Percent.admittedInName b) [b] := by
          rw [← List.append_nil (Percent.encodeByte _ b)]
          exact Percent.spells_encodeByte b .nil
        rw [if_neg hblank]
        exact (withoutPlus_of_not_mem fun hplus =>
          not_mem_marks hspells hplus (by decide)).symm

/-- A name is decoded from what is written of it. -/
theorem decode_encodedName (name : String) :
    Percent.decode (toUtf8 (String.ofList (encodedName name))) = toUtf8 name := by
  rw [toUtf8, String.toList_ofList]
  exact (spells_encodedName name).decode rfl

theorem encodedName_injective {name other : String} (h : encodedName name = encodedName other) :
    name = other := by
  have hbytes : toUtf8 name = toUtf8 other := by
    rw [← decode_encodedName, h, decode_encodedName]
  exact Option.some.inj ((ofUtf8?_toUtf8 name).symm.trans (hbytes ▸ ofUtf8?_toUtf8 other))

/-! ## Descriptors -/

/-- Two descriptors of one kind agree exactly if the names and the contents in them do, as they are
written. -/
theorem descriptor_eq_iff (a b : Attachment) (hmime : a.mimeType = b.mimeType) :
    a.descriptor = b.descriptor ↔ a.filename = b.filename ∧ a.base64Content = b.base64Content := by
  constructor
  · intro h
    have hchars := congrArg String.toList h
    have hmark : ";charset=utf8;base64,".toList = ';' :: "charset=utf8;base64,".toList := rfl
    simp only [descriptor, hmime, String.toList_append, String.toList_ofList, List.append_assoc,
      List.append_cancel_left_eq, hmark, List.cons_append] at hchars
    have hnot (name : String) : ';' ∉ encodedName name := fun hmem =>
      not_mem_marks (spells_encodedName name) hmem (by decide)
    obtain ⟨hname, htail⟩ := eq_of_append_cons (hnot _) (hnot _) hchars
    exact ⟨encodedName_injective hname, String.toList_injective (List.append_cancel_left htail)⟩
  · rintro ⟨hname, hcontent⟩
    rw [descriptor, hmime, hname, hcontent, descriptor]

/-- **A descriptor says the name and the content.** Files of one kind have the same descriptor only
if they have the same name and the same content. What is written of a name is the form that a form
gives it, with the blanks escaped: it consists of admitted characters and escapes that spell the
bytes of the name, holds no mark, and is decoded as the name. The content is decoded, too. -/
theorem descriptor_says (mimeType name : String) (content : List UInt8) :
    let a := ofBytes mimeType name content
    (∀ other more, a.descriptor = (ofBytes mimeType other more).descriptor
        ↔ name = other ∧ content = more)
      ∧ encodedName name = withoutPlus (formEncode (toUtf8 name))
      ∧ Percent.Spells Percent.admittedInName (encodedName name) (toUtf8 name)
      ∧ (∀ c ∈ encodedName name, c ∉ marks)
      ∧ Percent.decode (toUtf8 (String.ofList (encodedName name))) = toUtf8 name
      ∧ Base64.decode? a.base64Content.toList = some content := by
  intro a
  have hcontent (mimeType name : String) (content : List UInt8) :
      Base64.decode? (ofBytes mimeType name content).base64Content.toList = some content := by
    rw [ofBytes, String.toList_ofList, Base64.decode?_encode]
  refine ⟨fun other more => ?_, encodedName_eq name, spells_encodedName name,
    fun c hc => not_mem_marks (spells_encodedName name) hc, decode_encodedName name,
    hcontent mimeType name content⟩
  refine (descriptor_eq_iff a (ofBytes mimeType other more) rfl).trans ?_
  refine and_congr_right fun _ => ⟨fun h => ?_, fun h => h ▸ rfl⟩
  exact Option.some.inj ((hcontent mimeType name content).symm.trans
    (h ▸ hcontent mimeType other more))

/-- Marks, plus signs, percent signs and characters of several bytes in a name are all escaped. -/
example : encodedName "a +%2B;é" = "a%20%2B%252B%3B%C3%A9".toList := by decide +kernel

end Attachment
end Messenger
