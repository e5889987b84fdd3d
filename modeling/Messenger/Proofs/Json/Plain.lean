import Messenger.Json.Read

set_option autoImplicit false

/-! # Reading plain characters

A printable ASCII character other than a quote and a backslash stands for itself inside a string. -/

namespace Messenger

open Text

/-- A printable ASCII character that needs no escape. -/
def PlainChar (c : Char) : Prop := 0x20 ≤ c.toNat ∧ c.toNat < 0x80 ∧ c ≠ '"' ∧ c ≠ '\\'

instance (c : Char) : Decidable (PlainChar c) := inferInstanceAs (Decidable (_ ∧ _ ∧ _ ∧ _))

/-- A text of plain characters. -/
def PlainText (s : String) : Prop := ∀ c ∈ s.toList, PlainChar c

instance (s : String) : Decidable (PlainText s) := List.decidableBAll PlainChar s.toList

/-- Plain characters stand for themselves inside a string. -/
theorem Json.Read.stringBody_chars (cs acc : List Char) (h : ∀ c ∈ cs, PlainChar c) (i : Input) :
    stringBody acc true (cs.map .char ++ .char '"' :: i)
      = .ok (String.ofList (acc.reverse ++ cs), i) := by
  induction cs generalizing acc with
  | nil => simp [stringBody]
  | cons c cs ih =>
      obtain ⟨hprintable, -, hquote, hbackslash⟩ := h c List.mem_cons_self
      have hrest := ih (c :: acc) fun d hd => h d (List.mem_cons_of_mem _ hd)
      rw [List.map_cons, List.cons_append, stringBody]
      · rw [if_neg (Nat.not_lt.2 hprintable), hrest, List.reverse_cons, List.append_assoc]
        rfl
      -- The other equations are for quotes and backslashes.
      all_goals simp [hquote, hbackslash]

/-- A plain text is read up to the quote behind it. -/
theorem Json.Read.stringBody_plain {s : String} (h : PlainText s) (i : Input) :
    stringBody [] true (Text.piecesOfText s ++ .char '"' :: i) = .ok (s, i) := by
  rw [Text.piecesOfText, stringBody_chars s.toList [] h i, List.reverse_nil, List.nil_append,
    String.ofList_toList]

end Messenger
