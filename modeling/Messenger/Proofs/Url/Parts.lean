import Mathlib.Data.List.TakeWhile
import Messenger.Proofs.Url.Authority
import Messenger.Proofs.Url.Path

set_option autoImplicit false

/-! # Longer addresses

An address is made longer by a path that is written behind its text. The controls that stood at its
end, and were no part of it, now stand before that path. What the path adds to depends on what the
address ends with: its fragment, its query, its path, or its authority (`parse_append`). -/

namespace Messenger.Url

open Domain (IsControl)
open Json.Decoder (map_eq_ok_iff)

/-! ## Splitting longer texts -/

section

variable {p : Char → Bool} {cs : List Char} (h : cs.dropWhile p ≠ []) (xs : List Char)

include h

/-- Where a text is split once it is also split when it is longer. -/
theorem dropWhile_append_of_ne_nil : (cs ++ xs).dropWhile p = cs.dropWhile p ++ xs := by
  rw [List.dropWhile_append, if_neg (by simpa using h)]

theorem takeWhile_append_of_ne_nil : (cs ++ xs).takeWhile p = cs.takeWhile p := by
  have hlength := congrArg List.length (@List.takeWhile_append_dropWhile _ p cs)
  have hpos := List.length_pos_iff.2 h
  rw [List.length_append] at hlength
  rw [List.takeWhile_append, if_neg (by omega)]

end

/-! ## Cleaning -/

/-- The controls behind an address that have meaning when something follows. -/
def trailing (cs : List Char) : List Char :=
  ((Text.trimLeft isPadding cs).reverse.takeWhile isPadding).reverse.filter fun c => !isIgnored c

theorem isPadding_iff {c : Char} : isPadding c = true ↔ IsControl c := decide_eq_true_iff

theorem isControl_of_mem_trailing {cs : List Char} {c : Char} (h : c ∈ trailing cs) :
    IsControl c := by
  have hmem := List.mem_reverse.1 (List.mem_filter.1 h).1
  exact isPadding_iff.1 (List.mem_takeWhile_imp hmem)

theorem isPadding_of_isIgnored {c : Char} (h : isIgnored c = true) : isPadding c = true := by
  simp only [isIgnored, Bool.or_eq_true, beq_iff_eq] at h
  rcases h with (rfl | rfl) | rfl <;> rfl

section

variable {cs : List Char} (hclean : clean cs ≠ [])

/-- The address and what stands behind it. -/
theorem clean_trailing (cs : List Char) :
    (Text.trimLeft isPadding cs).filter (fun c => !isIgnored c) = clean cs ++ trailing cs := by
  have hsplit : Text.trimRight isPadding (Text.trimLeft isPadding cs)
      ++ ((Text.trimLeft isPadding cs).reverse.takeWhile isPadding).reverse
        = Text.trimLeft isPadding cs := by
    rw [Text.trimRight, ← List.reverse_append, List.takeWhile_append_dropWhile,
      List.reverse_reverse]
  rw [clean, trailing, ← List.filter_append, hsplit]

include hclean

theorem trimLeft_ne_nil : Text.trimLeft isPadding cs ≠ [] := by
  intro h
  rw [clean, h] at hclean
  exact hclean rfl

/-- A path behind an address brings its trailing controls back. -/
theorem clean_append {xs : List Char} (hxs : ∀ c ∈ xs, isPadding c = false) (hne : xs ≠ []) :
    clean (cs ++ xs) = clean cs ++ (trailing cs ++ xs) := by
  have hleft : Text.trimLeft isPadding (cs ++ xs) = Text.trimLeft isPadding cs ++ xs :=
    dropWhile_append_of_ne_nil (trimLeft_ne_nil hclean) xs
  have hright (ys : List Char) : Text.trimRight isPadding (ys ++ xs) = ys ++ xs := by
    obtain ⟨front, c, rfl⟩ := (List.eq_nil_or_concat' xs).resolve_left hne
    rw [← List.append_assoc, Text.trimRight_concat_of_neg _ (hxs c (by simp))]
  have hmeant : xs.filter (fun c => !isIgnored c) = xs := by
    refine List.filter_eq_self.2 fun c hc => ?_
    cases hignored : isIgnored c with
    | false => rfl
    | true =>
        have hpadding := hxs c hc
        rw [isPadding_of_isIgnored hignored] at hpadding
        cases hpadding
  rw [clean, hleft, hright, List.filter_append, clean_trailing, hmeant, List.append_assoc]

/-- What has meaning in a text is the address and the controls behind it. -/
theorem getLast?_clean_trailing :
    (cs.filter fun c => !isIgnored c).getLast? = (clean cs ++ trailing cs).getLast? := by
  have hsplit : cs = cs.takeWhile isPadding ++ Text.trimLeft isPadding cs :=
    (List.takeWhile_append_dropWhile).symm
  have hfront : (cs.filter fun c => !isIgnored c)
      = (cs.takeWhile isPadding).filter (fun c => !isIgnored c) ++ (clean cs ++ trailing cs) := by
    rw [← clean_trailing, ← List.filter_append, ← hsplit]
  rw [hfront, List.getLast?_append_of_ne_nil _ (by simp [hclean])]

end

/-- An address does not end in a control. -/
theorem isPadding_getLast?_clean {cs : List Char} :
    ∀ c ∈ (clean cs).getLast?, isPadding c = false := by
  intro c hc
  rw [clean] at hc
  rcases List.eq_nil_or_concat' (Text.trimRight isPadding (Text.trimLeft isPadding cs))
    with hnil | ⟨front, d, hconcat⟩
  · rw [hnil] at hc
    cases hc
  · have hd : isPadding d = false := by
      have hlast := congrArg List.getLast? hconcat
      rw [List.getLast?_concat, Text.trimRight, List.getLast?_reverse] at hlast
      have hnot := List.head?_dropWhile_not isPadding (Text.trimLeft isPadding cs).reverse
      rw [hlast] at hnot
      exact hnot
    have hkept : [d].filter (fun c => !isIgnored c) = [d] := by
      cases hignored : isIgnored d with
      | false => simp [hignored]
      | true =>
          rw [isPadding_of_isIgnored hignored] at hd
          cases hd
    rw [hconcat, List.filter_append, hkept, List.getLast?_concat] at hc
    exact Option.some.inj hc ▸ hd

/-! ## Splitting -/

theorem splitScheme?_append {cs rest : List Char} {scheme : String}
    (h : splitScheme? cs = some (scheme, rest)) (xs : List Char) :
    splitScheme? (cs ++ xs) = some (scheme, rest ++ xs) := by
  unfold splitScheme? at h
  split at h
  · rename_i c after hhead hdrop
    split at h
    · rename_i halpha
      cases h
      have hhead' : (cs ++ xs).head? = some c := by
        rw [List.head?_append, hhead]
        rfl
      have hne : cs.dropWhile isSchemeChar ≠ [] := by
        rw [hdrop]
        exact List.cons_ne_nil _ _
      unfold splitScheme?
      rw [hhead', dropWhile_append_of_ne_nil hne, hdrop, takeWhile_append_of_ne_nil hne]
      exact if_pos halpha
    · cases h
  · cases h

theorem cutAt_of_not_mem {c : Char} {cs : List Char} (h : c ∉ cs) : cutAt c cs = (cs, none) := by
  have hall : cs.dropWhile (· != c) = [] := by
    rw [List.dropWhile_eq_nil_iff]
    rintro d hd
    have hne : d ≠ c := by
      rintro rfl
      exact h hd
    simpa using hne
  rw [cutAt, hall]

/-- Where a text is cut once it is also cut when it is longer. -/
theorem cutAt_append_of_mem {c : Char} {cs : List Char} (h : c ∈ cs) (xs : List Char) :
    cutAt c (cs ++ xs) = ((cutAt c cs).1, (cutAt c cs).2.map (· ++ xs))
      ∧ (cutAt c cs).2 ≠ none := by
  have hne : cs.dropWhile (· != c) ≠ [] := by
    intro hnil
    have hc := List.dropWhile_eq_nil_iff.1 hnil c h
    simp at hc
  have hcut : ∃ d after, cs.dropWhile (· != c) = d :: after := List.exists_cons_of_ne_nil hne
  obtain ⟨d, after, hcut⟩ := hcut
  have hlong : (cs ++ xs).dropWhile (· != c) = d :: (after ++ xs) := by
    rw [dropWhile_append_of_ne_nil hne, hcut]
    rfl
  rw [cutAt, hlong, takeWhile_append_of_ne_nil hne, cutAt, hcut]
  exact ⟨rfl, nofun⟩

/-- How the parts of an address differ from those of a longer one. -/
inductive Parts.Extends (xs : List Char) (p q : Parts) : Prop where
  /-- What is added belongs to the query or to the fragment. -/
  | marked (hmarked : p.query ≠ none ∨ p.fragment ≠ none) (hauthority : q.authority = p.authority)
      (hpath : q.path = p.path)
  | path (hquery : p.query = none) (hfragment : p.fragment = none) (hne : p.path ≠ [])
      (hauthority : q.authority = p.authority) (hpath : q.path = p.path ++ xs)
  | authority (hquery : p.query = none) (hfragment : p.fragment = none) (hnil : p.path = [])
      (hauthority : q.authority = p.authority ++ xs.takeWhile (!isSlash ·))
      (hpath : q.path = xs.dropWhile (!isSlash ·))

theorem dropWhile_isSlash_ne_nil {rest : List Char} (h : (splitParts rest).authority ≠ []) :
    rest.dropWhile isSlash ≠ [] := by
  intro hnil
  rw [splitParts, hnil] at h
  exact h rfl

/-- What is written behind an address extends one of its parts. -/
theorem splitParts_append {rest xs : List Char} (hne : (splitParts rest).authority ≠ [])
    (hhash : '#' ∉ xs) (hmark : '?' ∉ xs) :
    (splitParts rest).Extends xs (splitParts (rest ++ xs)) := by
  have hslashes := dropWhile_append_of_ne_nil (dropWhile_isSlash_ne_nil hne) xs
  set start := rest.dropWhile isSlash with hstart
  by_cases hfragment : '#' ∈ start
  · obtain ⟨hcut, hsome⟩ := cutAt_append_of_mem hfragment xs
    refine .marked (.inr ?_) ?_ ?_
    · simpa only [splitParts, ← hstart] using hsome
    · simp only [splitParts, hslashes, ← hstart, hcut]
    · simp only [splitParts, hslashes, ← hstart, hcut]
  · have hfragment' : '#' ∉ start ++ xs := by simp [hfragment, hhash]
    have hcut := cutAt_of_not_mem hfragment
    have hcut' := cutAt_of_not_mem hfragment'
    by_cases hquery : '?' ∈ start
    · obtain ⟨hcutq, hsome⟩ := cutAt_append_of_mem hquery xs
      refine .marked (.inl ?_) ?_ ?_
      · simpa only [splitParts, ← hstart, hcut] using hsome
      · simp only [splitParts, hslashes, ← hstart, hcut, hcut', hcutq]
      · simp only [splitParts, hslashes, ← hstart, hcut, hcut', hcutq]
    · have hquery' : '?' ∉ start ++ xs := by simp [hquery, hmark]
      have hp : splitParts rest
          = ⟨start.takeWhile (!isSlash ·), start.dropWhile (!isSlash ·), none, none⟩ := by
        simp only [splitParts, ← hstart, hcut, cutAt_of_not_mem hquery]
      have hq : splitParts (rest ++ xs) = ⟨(start ++ xs).takeWhile (!isSlash ·),
          (start ++ xs).dropWhile (!isSlash ·), none, none⟩ := by
        simp only [splitParts, hslashes, hcut', cutAt_of_not_mem hquery']
      rw [hp, hq]
      by_cases hpath : start.dropWhile (!isSlash ·) = []
      · have hall := List.dropWhile_eq_nil_iff.1 hpath
        refine .authority rfl rfl hpath ?_ ?_
        · show (start ++ xs).takeWhile (!isSlash ·) = start.takeWhile (!isSlash ·) ++ _
          rw [List.takeWhile_append_of_pos hall, List.takeWhile_eq_self_iff.2 hall]
        · exact List.dropWhile_append_of_pos hall
      · exact .path rfl rfl hpath (takeWhile_append_of_ne_nil hpath xs)
          (dropWhile_append_of_ne_nil hpath xs)

/-- Without query and fragment, an address ends with its authority and its path. -/
theorem splitParts_suffix {rest : List Char} (hquery : (splitParts rest).query = none)
    (hfragment : (splitParts rest).fragment = none) :
    (splitParts rest).authority ++ (splitParts rest).path <:+ rest := by
  have hhash : '#' ∉ rest.dropWhile isSlash := fun hmem =>
    (cutAt_append_of_mem hmem []).2
      (by simpa only [splitParts, Option.map_eq_none_iff] using hfragment)
  have hcut := cutAt_of_not_mem hhash
  have hmark : '?' ∉ rest.dropWhile isSlash := fun hmem =>
    (cutAt_append_of_mem hmem []).2 (by simpa only [splitParts, hcut] using hquery)
  simp only [splitParts, hcut, cutAt_of_not_mem hmark, List.takeWhile_append_dropWhile]
  exact List.dropWhile_suffix isSlash

theorem splitScheme?_suffix {cs rest : List Char} {scheme : String}
    (h : splitScheme? cs = some (scheme, rest)) : rest <:+ cs := by
  unfold splitScheme? at h
  split at h
  · rename_i c after hhead hdrop
    split at h
    · cases h
      have hsuffix := List.dropWhile_suffix isSchemeChar (l := cs)
      rw [hdrop] at hsuffix
      exact (List.suffix_cons ':' rest).trans hsuffix
    · cases h
  · cases h

/-! ## Addresses -/

/-- Two addresses that differ at most in what comes after the authority. -/
structure SameAuthority (u v : Url) : Prop where
  scheme : v.scheme = u.scheme
  username : v.username = u.username
  password : v.password = u.password
  host : v.host = u.host
  port : v.port = u.port

/-- A text whose address keeps its path when a path is written behind the text: the address has
neither query nor fragment, its path does not end in two empty segments, and the text, tabs and line
ends aside, ends neither in a control nor in a slash. -/
structure KeepsPath (text : String) (u : Url) : Prop where
  query : u.query = none
  fragment : u.fragment = none
  segments : ¬ [[], []] <:+ u.path
  last : ∀ c ∈ (text.toList.filter fun c => !isIgnored c).getLast?,
    isPadding c = false ∧ isSlash c = false

/-- A web address is read part by part. -/
theorem parse_eq_web_iff {text : String} {u : Url} :
    parse text = .ok (.web u) ↔ ∃ scheme rest defaultPort a,
      splitScheme? (clean text.toList) = some (scheme, rest)
        ∧ schemes.lookup scheme = some defaultPort
        ∧ readAuthority defaultPort (splitParts rest).authority = .ok a
        ∧ u =
          { scheme, username := a.username, password := a.password, host := a.host, port := a.port
            path := Url.segments (splitParts rest).path
            query := (splitParts rest).query.map (Text.Percent.encodeChars plainInQuery)
            fragment :=
              (splitParts rest).fragment.map (Text.Percent.encodeChars plainInFragment) } := by
  unfold parse
  cases hscheme : splitScheme? (clean text.toList) with
  | none => simp
  | some split =>
      obtain ⟨scheme, rest⟩ := split
      simp only [Option.some.injEq, Prod.mk.injEq]
      cases hport : schemes.lookup scheme with
      | none =>
          constructor
          · intro h
            obtain ⟨_, -, hother⟩ := map_eq_ok_iff.1 h
            cases hother
          · rintro ⟨_, _, defaultPort, _, ⟨rfl, rfl⟩, hsome, -⟩
            rw [hport] at hsome
            cases hsome
      | some defaultPort =>
          simp only [ofParts_eq, map_eq_ok_iff]
          constructor
          · rintro ⟨_, ⟨a, ha, rfl⟩, hweb⟩
            cases hweb
            exact ⟨scheme, rest, defaultPort, a, ⟨rfl, rfl⟩, hport, ha, rfl⟩
          · rintro ⟨_, _, _, a, ⟨rfl, rfl⟩, hsome, ha, rfl⟩
            obtain rfl := Option.some.inj (hport.symm.trans hsome)
            exact ⟨_, ⟨a, ha, rfl⟩, rfl⟩

theorem authority_ne_nil {defaultPort : Nat} {cs : List Char} {a : Authority}
    (h : readAuthority defaultPort cs = .ok a) : cs ≠ [] := by
  rintro rfl
  cases h

theorem isSlash_of_mem_authority {rest : List Char} {c : Char}
    (h : c ∈ (splitParts rest).authority) : isSlash c = false := by
  have hnot := @List.mem_takeWhile_imp Char (!isSlash ·) _ c h
  simpa using hnot

theorem isSlash_of_path_eq_cons {rest cs : List Char} {c : Char}
    (h : (splitParts rest).path = c :: cs) : isSlash c = true := by
  have hnot := List.head?_dropWhile_not (!isSlash ·)
    (cutAt '?' (cutAt '#' (rest.dropWhile isSlash)).1).1
  have hpath : (cutAt '?' (cutAt '#' (rest.dropWhile isSlash)).1).1.dropWhile (!isSlash ·)
      = c :: cs := h
  rw [hpath] at hnot
  simpa using hnot

/-- The characters of a path of names separate no parts and are no controls. -/
theorem of_mem_joined {ss : List (List Char)} (hss : ∀ s ∈ ss, IsName s) {c : Char}
    (h : c ∈ joined ss) : isPadding c = false ∧ c ≠ '#' ∧ c ≠ '?' := by
  obtain ⟨s, hs, hc⟩ := List.mem_flatMap.1 h
  have hplain : plainInPath c = true := by
    rcases List.mem_cons.1 hc with rfl | hc
    · rfl
    · exact (hss s hs).plain c hc
  refine ⟨decide_eq_false (Nat.not_le.2 (toNat_of_plainInPath hplain).1), ?_, ?_⟩
  · rintro rfl
    cases hplain
  · rintro rfl
    cases hplain

/-- What is written behind an address separates no parts, the controls before it included. -/
theorem not_mem_append_joined {pad : List Char} {ss : List (List Char)}
    (hpad : ∀ c ∈ pad, IsControl c) (hss : ∀ s ∈ ss, IsName s) :
    '#' ∉ pad ++ joined ss ∧ '?' ∉ pad ++ joined ss := by
  refine ⟨fun hmem => ?_, fun hmem => ?_⟩
  · rcases List.mem_append.1 hmem with h | h
    · exact (hpad _ h).ne (by decide) rfl
    · exact (of_mem_joined hss h).2.1 rfl
  · rcases List.mem_append.1 hmem with h | h
    · exact (hpad _ h).ne (by decide) rfl
    · exact (of_mem_joined hss h).2.2 rfl

section

variable {text : String} {scheme : String} {rest : List Char}
  (hscheme : splitScheme? (clean text.toList) = some (scheme, rest))

include hscheme

theorem clean_ne_nil : clean text.toList ≠ [] := by
  intro hnil
  rw [hnil] at hscheme
  cases hscheme

/-- The parts of a longer text. -/
theorem splitScheme?_clean_append {ss : List (List Char)} (hss : ∀ s ∈ ss, IsName s)
    (hne : ss ≠ []) :
    splitScheme? (clean (text ++ String.ofList (joined ss)).toList)
      = some (scheme, rest ++ (trailing text.toList ++ joined ss)) := by
  have hjoined : joined ss ≠ [] := by
    obtain ⟨s, ss, rfl⟩ := List.exists_cons_of_ne_nil hne
    exact List.cons_ne_nil _ _
  rw [String.toList_append, String.toList_ofList, clean_append (clean_ne_nil hscheme)
    (fun c hc => (of_mem_joined hss hc).1) hjoined]
  exact splitScheme?_append hscheme _

/-- What a text ends with, if it is the end of its address that stands there. -/
theorem last_iff {tail : List Char} (htail : tail ≠ []) (hsuffix : tail <:+ rest) :
    (∀ c ∈ (text.toList.filter fun c => !isIgnored c).getLast?,
        isPadding c = false ∧ isSlash c = false)
      ↔ trailing text.toList = [] ∧ ∀ c ∈ tail.getLast?, isSlash c = false := by
  have hclean := clean_ne_nil hscheme
  rw [getLast?_clean_trailing hclean]
  by_cases htrailing : trailing text.toList = []
  · obtain ⟨front, hfront⟩ := hsuffix.trans (splitScheme?_suffix hscheme)
    have hlast : (clean text.toList).getLast? = tail.getLast? := by
      rw [← hfront, List.getLast?_append_of_ne_nil _ htail]
    have hpadding := @isPadding_getLast?_clean text.toList
    rw [hlast] at hpadding
    simp only [htrailing, List.append_nil, hlast, true_and]
    exact forall₂_congr fun c hc => and_iff_right (hpadding c hc)
  · rw [List.getLast?_append_of_ne_nil _ htrailing]
    obtain ⟨front, c, hconcat⟩ := (List.eq_nil_or_concat' _).resolve_left htrailing
    have hpadding : isPadding c = true :=
      isPadding_iff.2 (isControl_of_mem_trailing (by rw [hconcat]; simp))
    simp [hconcat, hpadding]

/-- An address without query and fragment keeps its path if nothing stands behind its end. -/
theorem keepsPath_iff {u : Url} (hquery : u.query = none) (hfragment : u.fragment = none)
    {tail : List Char} (htail : tail ≠ []) (hsuffix : tail <:+ rest) :
    KeepsPath text u
      ↔ trailing text.toList = [] ∧ (∀ c ∈ tail.getLast?, isSlash c = false)
        ∧ ¬ [[], []] <:+ u.path := by
  have hlast := last_iff hscheme htail hsuffix
  constructor
  · rintro ⟨-, -, hsegments, hend⟩
    obtain ⟨htrailing, hslash⟩ := hlast.1 hend
    exact ⟨htrailing, hslash, hsegments⟩
  · rintro ⟨htrailing, hslash, hsegments⟩
    exact ⟨hquery, hfragment, hsegments, hlast.2 ⟨htrailing, hslash⟩⟩

end

/-- A path that begins behind an authority: controls before it belong to the authority. -/
theorem takeWhile_append_joined {pad : List Char} {ss : List (List Char)}
    (hpad : ∀ c ∈ pad, IsControl c) (hne : ss ≠ []) :
    (pad ++ joined ss).takeWhile (!isSlash ·) = pad
      ∧ (pad ++ joined ss).dropWhile (!isSlash ·) = joined ss := by
  have hslash : ∀ c ∈ pad, (!isSlash c) = true := fun c hc =>
    (hpad c hc).of_forall (P := fun c => (!isSlash c) = true) (by decide)
  obtain ⟨s, ss, rfl⟩ := List.exists_cons_of_ne_nil hne
  have hstart : (joined (s :: ss)).takeWhile (!isSlash ·) = []
      ∧ (joined (s :: ss)).dropWhile (!isSlash ·) = joined (s :: ss) := ⟨rfl, rfl⟩
  rw [List.takeWhile_append_of_pos hslash, List.dropWhile_append_of_pos hslash, hstart.1,
    hstart.2, List.append_nil]
  exact ⟨rfl, rfl⟩

/-- **What becomes of an address** when a path of names is written behind its text: the authority
stays, and the path goes in front of these names if and only if the text keeps its path. -/
theorem parse_append {text : String} {ss : List (List Char)} (hss : ∀ s ∈ ss, IsName s)
    (hne : ss ≠ []) {u v : Url} (hu : parse text = .ok (.web u))
    (hv : parse (text ++ String.ofList (joined ss)) = .ok (.web v)) :
    SameAuthority u v
      ∧ (v.pathChars = trimSlashes u.pathChars ++ joined ss ↔ KeepsPath text u) := by
  obtain ⟨scheme, rest, defaultPort, a, hscheme, hport, ha, rfl⟩ := parse_eq_web_iff.1 hu
  obtain ⟨scheme', rest', defaultPort', a', hscheme', hport', ha', rfl⟩ := parse_eq_web_iff.1 hv
  have hlong := splitScheme?_clean_append hscheme hss hne
  obtain ⟨rfl, rfl⟩ := Prod.mk.inj (Option.some.inj (hlong.symm.trans hscheme'))
  obtain rfl := Option.some.inj (hport.symm.trans hport')
  set pad := trailing text.toList with hpad
  have hcontrol : ∀ c ∈ pad, IsControl c := fun c hc => isControl_of_mem_trailing hc
  obtain ⟨hhash, hmark⟩ := not_mem_append_joined hcontrol hss
  have hauthority := authority_ne_nil ha
  cases splitParts_append hauthority hhash hmark with
  | marked hmarked hsame hpath =>
      rw [hsame] at ha'
      obtain rfl := Except.ok.inj (ha.symm.trans ha')
      refine ⟨⟨rfl, rfl, rfl, rfl, rfl⟩, ?_⟩
      constructor
      · intro heq
        simp only [pathChars, hpath] at heq
        exact absurd heq (ne_trimSlashes_append hss hne _)
      · intro hkeeps
        have hquery := Option.map_eq_none_iff.1 hkeeps.query
        have hfragment := Option.map_eq_none_iff.1 hkeeps.fragment
        exact absurd hmarked (not_or.2 ⟨not_not.2 hquery, not_not.2 hfragment⟩)
  | path hquery hfragment hnil hsame hpath =>
      rw [hsame] at ha'
      obtain rfl := Except.ok.inj (ha.symm.trans ha')
      refine ⟨⟨rfl, rfl, rfl, rfl, rfl⟩, ?_⟩
      obtain ⟨c, cs, hcs⟩ := List.exists_cons_of_ne_nil hnil
      have hend : (splitParts rest).path <:+ rest :=
        (List.suffix_append _ _).trans (splitParts_suffix hquery hfragment)
      have hkeeps := segments_append_iff c cs (isSlash_of_path_eq_cons hcs) hcontrol hss hne
      rw [List.append_assoc, ← hcs, ← hpath] at hkeeps
      refine hkeeps.trans (Iff.symm ?_)
      exact keepsPath_iff hscheme (by simp [hquery]) (by simp [hfragment]) hnil hend
  | authority hquery hfragment hnil hsame hpath =>
      obtain ⟨htake, hdrop⟩ := takeWhile_append_joined hcontrol hne
      rw [htake] at hsame
      rw [hdrop] at hpath
      -- With controls before the path the authority is refused.
      have htrailing : pad = [] := by
        by_contra hsome
        obtain ⟨fault, hfault⟩ := readAuthority_append ha hcontrol hsome
        rw [hsame, hfault] at ha'
        cases ha'
      rw [hsame, htrailing, List.append_nil] at ha'
      obtain rfl := Except.ok.inj (ha.symm.trans ha')
      refine ⟨⟨rfl, rfl, rfl, rfl, rfl⟩, ?_⟩
      have hend : (splitParts rest).authority <:+ rest := by
        have h := splitParts_suffix hquery hfragment
        rwa [hnil, List.append_nil] at h
      have hroot : segments [] = [[]] := rfl
      simp only [pathChars, hpath, hnil, segments_joined hss hne, hroot]
      refine iff_of_true rfl ((keepsPath_iff hscheme ?_ ?_ hauthority hend).2
        ⟨htrailing, fun c hc => ?_, ?_⟩)
      · simp [hquery]
      · simp [hfragment]
      · exact isSlash_of_mem_authority (List.mem_of_getLast? hc)
      · exact fun h => absurd h.length_le (by simp)

end Messenger.Url
