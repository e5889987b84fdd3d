import Mathlib.Data.List.Basic
import Messenger.Proofs.Text.Utf8
import Messenger.Proofs.Url.Domain
import Messenger.Url

set_option autoImplicit false

/-! # Longer paths

A path that is made longer by some segments leads to where the shorter one leads, and from there
along these segments, with two exceptions. The last segment of the shorter path changes its meaning
when it is empty, since nothing says then that it is a place to stop at; and controls behind it,
which would be no part of the address, become part of the segment (`segments_append_iff`). -/

namespace Messenger.Url

open Domain (IsControl)

/-! ## Pieces -/

theorem pieces_cons_of_not_slash {x : Char} (h : isSlash x = false) (xs : List Char) :
    ∃ p ps, pieces xs = p :: ps ∧ pieces (x :: xs) = (x :: p) :: ps := by
  induction xs generalizing x with
  | nil => exact ⟨[], [], rfl, by simp [pieces, h]⟩
  | cons y ys ih =>
      cases hy : isSlash y with
      | true => exact ⟨[], pieces ys, by simp [pieces, hy], by simp [pieces, h, hy]⟩
      | false =>
          obtain ⟨p, ps, -, hcons⟩ := ih hy
          exact ⟨y :: p, ps, hcons, by rw [pieces, hcons]; simp [h]⟩

theorem pieces_append_slash {c : Char} (h : isSlash c = true) (xs ys : List Char) :
    pieces (xs ++ c :: ys) = pieces xs ++ pieces ys := by
  induction xs with
  | nil => simp [pieces, h]
  | cons x xs ih =>
      cases hx : isSlash x with
      | true => simp [pieces, hx, ih]
      | false =>
          obtain ⟨p, ps, hxs, hcons⟩ := pieces_cons_of_not_slash hx xs
          obtain ⟨q, qs, hall, hcons'⟩ := pieces_cons_of_not_slash hx (xs ++ c :: ys)
          rw [ih, hxs] at hall
          obtain ⟨rfl, rfl⟩ := List.cons.inj hall
          rw [List.cons_append, hcons', hcons]
          rfl

/-- What stands behind a path without a slash belongs to its last piece. -/
theorem pieces_append {ys : List Char} (h : ∀ c ∈ ys, isSlash c = false) (xs : List Char) :
    ∃ front last, pieces xs = front ++ [last] ∧ pieces (xs ++ ys) = front ++ [last ++ ys] := by
  induction xs with
  | nil =>
      refine ⟨[], [], rfl, ?_⟩
      induction ys with
      | nil => rfl
      | cons y ys ih =>
          rw [List.forall_mem_cons] at h
          have hrest := ih h.2
          simp only [List.nil_append] at hrest ⊢
          rw [pieces, if_neg (by simp [h.1]), hrest]
  | cons x xs ih =>
      obtain ⟨front, last, hxs, hall⟩ := ih
      rw [List.cons_append, pieces, pieces, hxs, hall]
      split
      · exact ⟨[] :: front, last, rfl, rfl⟩
      · cases front with
        | nil => exact ⟨[], x :: last, rfl, rfl⟩
        | cons p front => exact ⟨(x :: p) :: front, last, rfl, rfl⟩

theorem isSlash_of_mem_pieces {xs p : List Char} (hp : p ∈ pieces xs) {c : Char} (hc : c ∈ p) :
    isSlash c = false := by
  induction xs generalizing p with
  | nil =>
      obtain rfl := List.mem_singleton.1 hp
      cases hc
  | cons x xs ih =>
      cases hx : isSlash x with
      | true =>
          rw [pieces, if_pos hx] at hp
          rcases List.mem_cons.1 hp with rfl | hp
          · cases hc
          · exact ih hp hc
      | false =>
          obtain ⟨q, ps, hxs, hcons⟩ := pieces_cons_of_not_slash hx xs
          rw [hcons] at hp
          rw [hxs] at ih
          rcases List.mem_cons.1 hp with rfl | hp
          · rcases List.mem_cons.1 hc with rfl | hc
            · exact hx
            · exact ih List.mem_cons_self hc
          · exact ih (List.mem_cons_of_mem _ hp) hc

/-- The last piece is empty if the path ends there, or with a slash. -/
theorem last_piece_eq_nil_iff {xs last : List Char} {front : List (List Char)}
    (h : pieces xs = front ++ [last]) :
    last = [] ↔ ∀ c ∈ xs.getLast?, isSlash c = true := by
  rcases List.eq_nil_or_concat' xs with rfl | ⟨ys, c, rfl⟩
  · have hone : [] ++ [[]] = front ++ [last] := h
    obtain ⟨-, rfl⟩ := List.append_singleton_inj.1 hone
    simp
  · rw [List.getLast?_concat]
    cases hc : isSlash c with
    | true =>
        rw [pieces_append_slash hc] at h
        have hone : pieces ys ++ [[]] = front ++ [last] := h
        obtain ⟨-, rfl⟩ := List.append_singleton_inj.1 hone
        simp [hc]
    | false =>
        obtain ⟨front', last', -, hall⟩ := pieces_append (List.forall_mem_singleton.2 hc) ys
        rw [hall] at h
        obtain ⟨-, rfl⟩ := List.append_singleton_inj.1 h
        simp [hc]

/-! ## Walks -/

/-- The place after a segment that is not the last one. -/
def visit (place : List (List Char)) (s : List Char) : List (List Char) :=
  if isAbove s then climb place else if isSelf s then place else s :: place

/-- A segment that stands for a directory leads into it; any other names something. -/
def IsDots (s : List Char) : Prop := isAbove s = true ∨ isSelf s = true

instance (s : List Char) : Decidable (IsDots s) := inferInstanceAs (Decidable (_ ∨ _))

theorem visit_of_not_dots {s : List Char} (h : ¬ IsDots s) (place : List (List Char)) :
    visit place s = s :: place := by
  rw [IsDots, not_or] at h
  rw [visit, if_neg h.1, if_neg h.2]

/-- The end of a walk. -/
theorem walk_singleton (place : List (List Char)) (s : List Char) :
    walk place [s] = (visit place s).reverse ++ if IsDots s then [[]] else [] := by
  rw [walk, visit]
  split
  · rename_i h
    have hdots : IsDots s := .inl h
    rw [if_pos hdots, List.reverse_cons]
  · rename_i h
    split
    · rename_i h'
      have hdots : IsDots s := .inr h'
      rw [if_pos hdots, List.reverse_cons]
    · rename_i h'
      have hname : ¬ IsDots s := not_or.2 ⟨h, h'⟩
      rw [if_neg hname, List.append_nil]

theorem walk_cons (place : List (List Char)) (s : List Char) {ss : List (List Char)} (h : ss ≠ []) :
    walk place (s :: ss) = walk (visit place s) ss := by
  cases ss with
  | nil => exact absurd rfl h
  | cons t ss =>
      rw [walk, visit]
      · split
        · rfl
        · split <;> rfl
      · exact h

theorem walk_append (place : List (List Char)) (xs : List (List Char)) {ys : List (List Char)}
    (h : ys ≠ []) : walk place (xs ++ ys) = walk (xs.foldl visit place) ys := by
  induction xs generalizing place with
  | nil => rfl
  | cons x xs ih => rw [List.cons_append, walk_cons place x (by simp [h]), ih, List.foldl_cons]

/-- Segments that name something are passed one after another. -/
theorem walk_names {ss : List (List Char)} (h : ∀ s ∈ ss, ¬ IsDots s) (hne : ss ≠ [])
    (place : List (List Char)) : walk place ss = place.reverse ++ ss := by
  induction ss generalizing place with
  | nil => exact absurd rfl hne
  | cons s ss ih =>
      rw [List.forall_mem_cons] at h
      cases ss with
      | nil =>
          rw [walk_singleton, visit_of_not_dots h.1, if_neg h.1, List.append_nil, List.reverse_cons]
      | cons t ss =>
          rw [walk_cons place s (List.cons_ne_nil t ss), ih h.2 (List.cons_ne_nil t ss),
            visit_of_not_dots h.1, List.reverse_cons, List.append_assoc, List.singleton_append]

/-- A walk comes only to places that it started from or passes. -/
theorem mem_of_mem_visit {place : List (List Char)} {s t : List Char} (h : t ∈ visit place s) :
    t = s ∨ t ∈ place := by
  have hclimb : ∀ place : List (List Char), t ∈ climb place → t ∈ place := by
    intro place ht
    cases place with
    | nil => exact ht
    | cons p ps =>
        rw [climb] at ht
        split at ht
        · exact ht
        · exact List.mem_cons_of_mem p ht
  unfold visit at h
  split at h
  · exact .inr (hclimb place h)
  · split at h
    · exact .inr h
    · exact List.mem_cons.1 h

theorem mem_of_mem_foldl_visit {xs place : List (List Char)} {t : List Char}
    (h : t ∈ xs.foldl visit place) : t ∈ xs ∨ t ∈ place := by
  induction xs generalizing place with
  | nil => exact .inr h
  | cons x xs ih =>
      rcases ih h with h | h
      · exact .inl (List.mem_cons_of_mem x h)
      · rcases mem_of_mem_visit h with rfl | h
        · exact .inl List.mem_cons_self
        · exact .inr h

/-! ## Encoded segments -/

/-- A segment as it stands in an address. -/
def encoded (s : List Char) : List Char := Text.Percent.encodeChars plainInPath s

theorem encoded_append (s t : List Char) : encoded (s ++ t) = encoded s ++ encoded t := by
  simp only [encoded, Text.Percent.encodeChars, Text.Percent.encode, List.flatMap_append]

@[simp] theorem encoded_nil : encoded [] = [] := rfl

theorem encoded_ne_nil {s : List Char} (h : s ≠ []) : encoded s ≠ [] := by
  obtain ⟨c, cs, rfl⟩ := List.exists_cons_of_ne_nil h
  have hne : Text.utf8Char c ≠ [] := String.utf8EncodeChar_ne_nil
  obtain ⟨b, bs, hb⟩ := List.exists_cons_of_ne_nil hne
  rw [encoded, Text.Percent.encodeChars, List.flatMap_cons, hb, Text.Percent.encode,
    List.cons_append, List.flatMap_cons, Text.Percent.encodeByte]
  split <;> simp [Text.Percent.escape]

/-- Encoding makes no slashes. -/
theorem slash_not_mem_encoded {s : List Char} (h : ∀ c ∈ s, isSlash c = false) :
    '/' ∉ encoded s := by
  have hdigit : ∀ n < 16, Text.hexDigitUpper n ≠ '/' := by decide
  intro hmem
  obtain ⟨b, hb, hmem⟩ := List.mem_flatMap.1 hmem
  rw [Text.Percent.encodeByte] at hmem
  split at hmem
  · -- The byte stands for itself, so it is a whole character.
    rename_i hplain
    simp only [Bool.and_eq_true, decide_eq_true_eq] at hplain
    obtain ⟨c, hc, hb⟩ := List.mem_flatMap.1 hb
    have hascii : b.toNat < 128 := hplain.1
    have hslash : c = '/' := by
      rw [Text.eq_of_mem_utf8Char hb hascii, List.mem_singleton.1 hmem]
    have hnot := h c hc
    rw [hslash] at hnot
    cases hnot
  · have hlow : b.toNat < 256 := b.toNat_lt
    simp only [Text.Percent.escape, List.mem_cons, List.not_mem_nil, or_false] at hmem
    rcases hmem with h' | h' | h'
    · cases h'
    · exact hdigit _ (by omega) h'.symm
    · exact hdigit _ (by omega) h'.symm

/-- The spellings of the two segments that stand for directories. -/
def dotForms : List String :=
  pointForms ++ pointForms.flatMap fun a => pointForms.map fun b => a ++ b

theorem exists_form_of_isDots {s : List Char} (h : IsDots s) :
    ∃ form ∈ dotForms, form.toList = s.map Char.toLower := by
  have hmem : String.ofList (s.map Char.toLower) ∈ dotForms := by
    rw [dotForms, List.mem_append]
    rcases h with h | h
    · exact .inr (List.contains_iff_mem.1 h)
    · exact .inl (List.contains_iff_mem.1 h)
  exact ⟨_, hmem, String.toList_ofList⟩

/-- A control is escaped, and what its escape ends with is no spelling of a point. -/
theorem not_isDots_control {c : Char} (h : IsControl c) (s : List Char) :
    ¬ IsDots (s ++ encoded [c]) := by
  intro hdots
  obtain ⟨form, hform, hsame⟩ := exists_form_of_isDots hdots
  have hnone : ∀ form ∈ dotForms, ¬ (encoded [c]).map Char.toLower <:+ form.toList :=
    h.of_forall (P := fun c => ∀ form ∈ dotForms, ¬ (encoded [c]).map Char.toLower <:+ form.toList)
      (by decide +kernel)
  rw [List.map_append] at hsame
  exact hnone form hform ⟨_, hsame.symm⟩

/-! ## Paths as text -/

/-- Segments as a path. -/
def joined (ss : List (List Char)) : List Char := ss.flatMap ('/' :: ·)

theorem joined_append (ss ts : List (List Char)) : joined (ss ++ ts) = joined ss ++ joined ts :=
  List.flatMap_append

theorem joined_singleton (s : List Char) : joined [s] = '/' :: s := List.flatMap_singleton _ s

/-- A segment that stays as it is wherever it stands in a path. -/
@[mk_iff]
structure IsName (s : List Char) : Prop where
  ne_nil : s ≠ []
  plain : ∀ c ∈ s, plainInPath c = true
  noSlash : ∀ c ∈ s, isSlash c = false
  noDots : ¬ IsDots s

instance (s : List Char) : Decidable (IsName s) :=
  decidable_of_iff
    (s ≠ [] ∧ s.all plainInPath = true ∧ s.all (!isSlash ·) = true ∧ ¬ IsDots s)
    (by simp [isName_iff])

theorem toNat_of_plainInPath {c : Char} (h : plainInPath c = true) :
    0x20 < c.toNat ∧ c.toNat < 0x7F := by
  simp only [plainInPath, plainInFragment, Bool.and_eq_true, decide_eq_true_eq] at h
  exact h.1.1

theorem IsName.encoded_eq {s : List Char} (h : IsName s) : encoded s = s := by
  have hall : ∀ n < 0x7F, plainInPath (Char.ofNat n) = true →
      encoded [Char.ofNat n] = [Char.ofNat n] := by decide +kernel
  have hplain := h.plain
  clear h
  induction s with
  | nil => rfl
  | cons c s ih =>
      rw [List.forall_mem_cons] at hplain
      have hc := hall c.toNat (toNat_of_plainInPath hplain.1).2
      rw [Char.ofNat_toNat] at hc
      rw [← List.singleton_append, encoded_append, hc hplain.1, ih hplain.2]

theorem pieces_append_joined {ss : List (List Char)} (h : ∀ s ∈ ss, IsName s) (xs : List Char) :
    pieces (xs ++ joined ss) = pieces xs ++ ss := by
  induction ss generalizing xs with
  | nil => rw [joined, List.flatMap_nil, List.append_nil, List.append_nil]
  | cons s ss ih =>
      rw [List.forall_mem_cons] at h
      obtain ⟨front, last, hnil, hs⟩ := pieces_append h.1.noSlash []
      have hone : [] ++ [[]] = front ++ [last] := hnil
      obtain ⟨rfl, rfl⟩ := List.append_singleton_inj.1 hone
      have hcons : joined (s :: ss) = '/' :: ([] ++ s ++ joined ss) := rfl
      rw [hcons, pieces_append_slash rfl, ih h.2, hs]
      rfl

theorem map_encoded {ss : List (List Char)} (h : ∀ s ∈ ss, IsName s) : ss.map encoded = ss := by
  rw [List.map_congr_left fun s hs => (h s hs).encoded_eq, List.map_id']

/-- A path of names alone. -/
theorem segments_joined {ss : List (List Char)} (h : ∀ s ∈ ss, IsName s) (hne : ss ≠ []) :
    segments (joined ss) = ss := by
  obtain ⟨s, ss, rfl⟩ := List.exists_cons_of_ne_nil hne
  have hpieces : pieces ((joined (s :: ss)).drop 1) = s :: ss := by
    have hall := pieces_append_joined h []
    have hcons : [] ++ joined (s :: ss) = [] ++ '/' :: (joined (s :: ss)).drop 1 := rfl
    rw [hcons, pieces_append_slash rfl] at hall
    exact (List.append_inj hall rfl).2
  show walk [] ((pieces ((joined (s :: ss)).drop 1)).map encoded) = _
  rw [hpieces, map_encoded h, walk_names (fun t ht => (h t ht).noDots) hne]
  rfl

/-- The text without slashes at its end. -/
def trimSlashes (cs : List Char) : List Char := Text.trimRight (· == '/') cs

theorem length_trimSlashes_le (cs : List Char) : (trimSlashes cs).length ≤ cs.length := by
  have h := (List.dropWhile_suffix (l := cs.reverse) (· == '/')).length_le
  rw [trimSlashes, Text.trimRight, List.length_reverse]
  rwa [List.length_reverse] at h

theorem trimSlashes_concat_slash (cs : List Char) :
    trimSlashes (cs ++ ['/']) = trimSlashes cs :=
  Text.trimRight_concat_of_pos cs rfl

/-- What is behind the text without slashes at its end are slashes. -/
theorem exists_trimSlashes_append (cs : List Char) :
    ∃ slashes, cs = trimSlashes cs ++ slashes ∧ ∀ c ∈ slashes, c = '/' := by
  refine ⟨(cs.reverse.takeWhile (· == '/')).reverse, ?_, ?_⟩
  · rw [trimSlashes, Text.trimRight, ← List.reverse_append, List.takeWhile_append_dropWhile,
      List.reverse_reverse]
  · intro c hc
    have hslash : (c == '/') = true :=
      List.all_eq_true.1 List.all_takeWhile c (List.mem_reverse.1 hc)
    exact eq_of_beq hslash

/-- A path of names is more than slashes. -/
theorem ne_trimSlashes_append {ss : List (List Char)} (h : ∀ s ∈ ss, IsName s) (hne : ss ≠ [])
    (cs : List Char) : cs ≠ trimSlashes cs ++ joined ss := by
  intro heq
  obtain ⟨slashes, hcs, hslashes⟩ := exists_trimSlashes_append cs
  have hsame : joined ss = slashes := List.append_cancel_left (heq.symm.trans hcs)
  obtain ⟨s, rest, rfl⟩ := List.exists_cons_of_ne_nil hne
  have hname := h s List.mem_cons_self
  obtain ⟨c, hc⟩ := List.exists_mem_of_ne_nil s hname.ne_nil
  have hmem : c ∈ joined (s :: rest) :=
    List.mem_append_left _ (List.mem_cons_of_mem _ hc)
  have hslash := hname.noSlash c hc
  rw [hslashes c (hsame ▸ hmem)] at hslash
  cases hslash

/-- A path is left as it is without slashes at its end if it does not end in an empty segment. -/
theorem trimSlashes_joined_iff {ss : List (List Char)} (h : ∀ s ∈ ss, '/' ∉ s) :
    trimSlashes (joined ss) = joined ss ↔ ss.getLast? ≠ some [] := by
  rcases List.eq_nil_or_concat' ss with rfl | ⟨ss, s, rfl⟩
  · exact ⟨fun _ => nofun, fun _ => rfl⟩
  · rw [joined_append, joined_singleton, List.getLast?_concat]
    rcases List.eq_nil_or_concat' s with rfl | ⟨s, c, rfl⟩
    · rw [trimSlashes_concat_slash]
      constructor
      · intro heq
        have hle := length_trimSlashes_le (joined ss)
        rw [heq, List.length_append, List.length_singleton] at hle
        omega
      · intro hne
        exact absurd rfl hne
    · have hc : (c == '/') = false := by
        have hmem : '/' ∉ s ++ [c] := h _ (by simp)
        rw [List.mem_append, List.mem_singleton, not_or] at hmem
        simpa using Ne.symm hmem.2
      have hkeep : trimSlashes (joined ss ++ '/' :: s ++ [c]) = joined ss ++ '/' :: s ++ [c] :=
        Text.trimRight_concat_of_neg _ hc
      rw [← List.cons_append, ← List.append_assoc, hkeep]
      simp

/-! ## Longer paths -/

section

variable {c : Char} {cs pad : List Char} {front : List (List Char)} {last : List Char}

/-- Where a path leads before its last segment, in reverse. -/
def placeBefore (front : List (List Char)) : List (List Char) :=
  (front.map encoded).foldl visit []

theorem segments_of_pieces (h : pieces cs = front ++ [last]) :
    segments (c :: cs) = (visit (placeBefore front) (encoded last)).reverse
      ++ if IsDots (encoded last) then [[]] else [] := by
  show walk [] ((pieces cs).map encoded) = _
  rw [h, List.map_append, walk_append [] _ (by simp), List.map_singleton, walk_singleton]
  rfl

/-- A longer path leads along the shorter one first. -/
theorem segments_append_of_pieces {ss : List (List Char)} (hss : ∀ s ∈ ss, IsName s)
    (hne : ss ≠ []) (h : pieces cs = front ++ [last]) :
    segments (c :: cs ++ joined ss)
      = (visit (placeBefore front) (encoded last)).reverse ++ ss := by
  show walk [] ((pieces (cs ++ joined ss)).map encoded) = _
  rw [pieces_append_joined hss, List.map_append, map_encoded hss, walk_append [] _ hne,
    walk_names (fun s hs => (hss s hs).noDots) hne, h, List.map_append, List.foldl_append]
  rfl

theorem slash_not_mem_of_mem_visit {s : List Char} (h : pieces cs = front ++ [last])
    (hs : s ∈ visit (placeBefore front) (encoded last)) : '/' ∉ s := by
  have hmem : ∃ p ∈ pieces cs, s = encoded p := by
    rw [h]
    rcases mem_of_mem_visit hs with rfl | hs
    · exact ⟨last, by simp, rfl⟩
    · rcases mem_of_mem_foldl_visit hs with hs | hs
      · obtain ⟨p, hp, rfl⟩ := List.mem_map.1 hs
        exact ⟨p, by simp [hp], rfl⟩
      · cases hs
  obtain ⟨p, hp, rfl⟩ := hmem
  exact slash_not_mem_encoded fun d hd => isSlash_of_mem_pieces hp hd

/-- The last piece is something if the path does not end with a slash. -/
theorem last_piece_ne_nil_iff (hc : isSlash c = true) (h : pieces cs = front ++ [last]) :
    last ≠ [] ↔ ∀ d ∈ (c :: cs).getLast?, isSlash d = false := by
  rw [Ne, last_piece_eq_nil_iff h]
  rcases List.eq_nil_or_concat' cs with rfl | ⟨ds, d, rfl⟩
  · simp [hc]
  · rw [← List.cons_append, List.getLast?_concat, List.getLast?_concat]
    simp

theorem pair_suffix_concat_iff {xs : List (List Char)} {s : List Char} :
    [[], []] <:+ xs ++ [s] ↔ xs.getLast? = some [] ∧ s = [] := by
  rw [List.getLast?_eq_some_iff]
  constructor
  · rintro ⟨ys, hys⟩
    have hsplit : (ys ++ [[]]) ++ [[]] = xs ++ [s] := by rw [← hys, List.append_assoc]; rfl
    obtain ⟨hxs, hs⟩ := List.append_singleton_inj.1 hsplit
    exact ⟨⟨ys, hxs.symm⟩, hs.symm⟩
  · rintro ⟨⟨ys, rfl⟩, rfl⟩
    exact ⟨ys, by rw [List.append_assoc]; rfl⟩

/-- Without controls behind it, a path is kept if it does not end in an empty segment. -/
theorem joined_visit_iff (hc : isSlash c = true) (h : pieces cs = front ++ [last]) :
    joined (visit (placeBefore front) (encoded last)).reverse
        = trimSlashes (joined (segments (c :: cs)))
      ↔ (∀ d ∈ (c :: cs).getLast?, isSlash d = false) ∧ ¬ [[], []] <:+ segments (c :: cs) := by
  have hnoSlash : ∀ s ∈ (visit (placeBefore front) (encoded last)).reverse, '/' ∉ s :=
    fun s hs => slash_not_mem_of_mem_visit h (List.mem_reverse.1 hs)
  rw [← last_piece_ne_nil_iff hc h, segments_of_pieces h]
  by_cases hdots : IsDots (encoded last)
  · -- The walk ends inside the directory that the longer path goes on from.
    have hlast : last ≠ [] := by
      rintro rfl
      exact absurd hdots (by decide)
    rw [if_pos hdots, joined_append, joined_singleton, trimSlashes_concat_slash, eq_comm,
      trimSlashes_joined_iff hnoSlash, pair_suffix_concat_iff]
    simp [hlast]
  · rw [if_neg hdots, List.append_nil, eq_comm, trimSlashes_joined_iff hnoSlash,
      visit_of_not_dots hdots, List.reverse_cons, pair_suffix_concat_iff, List.getLast?_concat]
    by_cases hlast : last = []
    · simp [hlast]
    · simp [hlast, encoded_ne_nil hlast]

theorem length_joined_concat (ss : List (List Char)) (s : List Char) :
    (joined (ss ++ [s])).length = (joined ss).length + (s.length + 1) := by
  rw [joined_append, joined_singleton, List.length_append, List.length_cons]

/-- A segment that stands for a directory does not lengthen the way. -/
theorem length_joined_visit_le {s : List Char} (h : IsDots s) (place : List (List Char)) :
    (joined (visit place s).reverse).length ≤ (joined place.reverse).length := by
  unfold visit
  split
  · cases place with
    | nil => exact Nat.le_refl _
    | cons p ps =>
        rw [climb, List.reverse_cons, length_joined_concat]
        split
        · exact Nat.le_of_eq (by rw [List.reverse_cons, length_joined_concat])
        · exact Nat.le_add_right _ _
  · rename_i habove
    simp only [if_pos (h.resolve_left habove), Nat.le_refl]

/-- With controls behind it, the last segment is another one, and longer. -/
theorem joined_visit_ne (h : pieces cs = front ++ [last]) (hpad : ∀ c ∈ pad, IsControl c)
    (hne : pad ≠ []) :
    joined (visit (placeBefore front) (encoded (last ++ pad))).reverse
      ≠ trimSlashes (joined (segments (c :: cs))) := by
  have hname : ¬ IsDots (encoded (last ++ pad)) := by
    obtain ⟨before, d, rfl⟩ := (List.eq_nil_or_concat' pad).resolve_left hne
    rw [← List.append_assoc, encoded_append]
    exact not_isDots_control (hpad d (by simp)) _
  have hlonger : 0 < (encoded pad).length := List.length_pos_iff.2 (encoded_ne_nil hne)
  intro heq
  have hle := length_trimSlashes_le (joined (segments (c :: cs)))
  rw [← heq, visit_of_not_dots hname, List.reverse_cons, length_joined_concat, encoded_append,
    List.length_append, segments_of_pieces h] at hle
  by_cases hdots : IsDots (encoded last)
  · have hback := length_joined_visit_le hdots (placeBefore front)
    rw [if_pos hdots, length_joined_concat, List.length_nil] at hle
    omega
  · rw [if_neg hdots, List.append_nil, visit_of_not_dots hdots, List.reverse_cons,
      length_joined_concat] at hle
    omega

end

/-- **A longer path** has the shorter one, slashes at its end aside, in front of the further
segments if and only if no controls stand between them and the shorter path ends in a segment that
is not empty, both as text and as segments. -/
theorem segments_append_iff (c : Char) (cs : List Char) {pad : List Char} {ss : List (List Char)}
    (hc : isSlash c = true) (hpad : ∀ c ∈ pad, IsControl c) (hss : ∀ s ∈ ss, IsName s)
    (hne : ss ≠ []) :
    joined (segments (c :: cs ++ pad ++ joined ss))
        = trimSlashes (joined (segments (c :: cs))) ++ joined ss
      ↔ pad = [] ∧ (∀ d ∈ (c :: cs).getLast?, isSlash d = false)
        ∧ ¬ [[], []] <:+ segments (c :: cs) := by
  have hslash : ∀ c ∈ pad, isSlash c = false := fun c hmem =>
    (hpad c hmem).of_forall (P := fun c => isSlash c = false) (by decide)
  obtain ⟨front, last, hcs, hall⟩ := pieces_append hslash cs
  have hlong := segments_append_of_pieces (c := c) hss hne hall
  rw [List.cons_append, hlong, joined_append, List.append_cancel_right_eq]
  by_cases hempty : pad = []
  · subst hempty
    rw [List.append_nil, joined_visit_iff hc hcs]
    simp
  · simp only [hempty, false_and, iff_false]
    exact joined_visit_ne hcs hpad hempty

end Messenger.Url
