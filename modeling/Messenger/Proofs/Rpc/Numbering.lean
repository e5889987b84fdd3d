import Messenger.Proofs.Rpc.Acceptance

set_option autoImplicit false

/-! # Numbered identifiers

All requests of a run take their identifiers from one sequence. A generated identifier ends in its
number, and a method may contain dashes and digits of its own, so the number has to be read off
behind the last dash (`generatedId_injective`). As long as the numbers of a sequence last, no two
generated identifiers of a run agree, hence no reply to one of those requests is taken for a reply
to another one. -/

namespace Messenger.Rpc

open Json

/-! ## Reading the number off an identifier -/

/-- Two texts that agree, each cut at its last dash, agree before and after it. -/
theorem eq_of_append_dash {xs ys ds es : List Char} (hds : '-' ∉ ds) (hes : '-' ∉ es)
    (h : xs ++ '-' :: ds = ys ++ '-' :: es) : xs = ys ∧ ds = es := by
  rcases List.append_eq_append_iff.1 h with ⟨between, rfl, htail⟩ | ⟨between, rfl, htail⟩
  · cases between with
    | nil => simpa using htail
    | cons c between =>
        -- The dash behind `ys` would be one of the characters `ds`.
        rw [List.cons_append, List.cons.injEq] at htail
        rw [htail.2] at hds
        simp at hds
  · cases between with
    | nil => simpa using htail.symm
    | cons c between =>
        rw [List.cons_append, List.cons.injEq] at htail
        rw [htail.2] at hes
        simp at hes

theorem dash_not_mem_toDigits (n : Nat) : '-' ∉ Nat.toDigits 10 n := by
  intro h
  have hdigit := Nat.isDigit_of_mem_toDigits (by decide) (by decide) h
  exact absurd hdigit (by decide)

/-- An identifier is generated for one method and one number only. -/
theorem generatedId_injective {method method' : String} {n n' : UInt64}
    (h : generatedId method n = generatedId method' n') : method = method' ∧ n = n' := by
  have hchars := congrArg String.toList h
  simp only [generatedId, String.toList_append, String.toList_ofList, List.append_assoc] at hchars
  have hdash : "-".toList = ['-'] := rfl
  rw [hdash, List.singleton_append, List.singleton_append] at hchars
  obtain ⟨hmethod, hdigits⟩ :=
    eq_of_append_dash (dash_not_mem_toDigits _) (dash_not_mem_toDigits _) hchars
  have hnumber : n.toNat = n'.toNat := by
    have hread := congrArg (fun digits => Nat.ofDigitChars 10 digits 0) hdigits
    simpa using hread
  exact ⟨String.toList_injective hmethod, UInt64.toNat_inj.1 hnumber⟩

/-! ## Runs of requests -/

/-- What a request brings for its identifier: the method, and an identifier chosen by the caller. -/
structure Naming where
  method : String
  chosen : Option String
deriving DecidableEq, Repr

/-- Whether the identifier has to be generated, since none is chosen or a blank one. -/
def Naming.isGenerated (r : Naming) : Bool := r.chosen.all Text.isBlankText

/-- The requests of a run with the identifiers that they take, in turn, and the sequence after
them. -/
def Sequence.identifyAll (s : Sequence) : List Naming → List (Naming × String) × Sequence
  | [] => ([], s)
  | r :: rs =>
    let (id, s) := s.identify r.chosen r.method
    let (named, s) := identifyAll s rs
    ((r, id) :: named, s)

/-- The requests among some named ones whose identifier was generated. -/
def generatedOnes (named : List (Naming × String)) : List (Naming × String) :=
  named.filter fun p => p.1.isGenerated

namespace Sequence

variable (s : Sequence)

/-- A generated identifier takes a number. -/
theorem identify_of_generated {r : Naming} (h : r.isGenerated = true) :
    s.identify r.chosen r.method = (generatedId r.method s.next, ⟨s.next + 1⟩) := by
  obtain ⟨method, chosen⟩ := r
  cases chosen with
  | none => rfl
  | some given =>
      have hblank : Text.isBlankText given = true := by simpa [Naming.isGenerated] using h
      simp [identify, hblank, identify.generate]

/-- A chosen identifier takes none. -/
theorem identify_of_chosen {r : Naming} (h : r.isGenerated = false) :
    ∃ given, r.chosen = some given ∧ s.identify r.chosen r.method = (Text.trim given, s) := by
  obtain ⟨method, chosen⟩ := r
  cases chosen with
  | none => simp [Naming.isGenerated] at h
  | some given =>
      have hblank : Text.isBlankText given = false := by simpa [Naming.isGenerated] using h
      exact ⟨given, rfl, by simp [identify, hblank]⟩

theorem identifyAll_cons_of_generated {r : Naming} (h : r.isGenerated = true) (rs : List Naming) :
    s.identifyAll (r :: rs)
      = ((r, generatedId r.method s.next) :: (identifyAll ⟨s.next + 1⟩ rs).1,
          (identifyAll ⟨s.next + 1⟩ rs).2) := by
  simp only [identifyAll, s.identify_of_generated h]

theorem identifyAll_cons_of_chosen {r : Naming} (h : r.isGenerated = false) (rs : List Naming) :
    ∃ given, r.chosen = some given ∧ s.identifyAll (r :: rs)
      = ((r, Text.trim given) :: (s.identifyAll rs).1, (s.identifyAll rs).2) := by
  obtain ⟨given, hgiven, hid⟩ := s.identify_of_chosen h
  exact ⟨given, hgiven, by simp only [identifyAll, hid]⟩

/-- Without the requests whose identifiers were chosen, the others take the same identifiers, and
the sequence ends at the same number. -/
theorem identifyAll_filter (rs : List Naming) :
    s.identifyAll (rs.filter Naming.isGenerated)
      = (generatedOnes (s.identifyAll rs).1, (s.identifyAll rs).2) := by
  induction rs generalizing s with
  | nil => rfl
  | cons r rs ih =>
      cases h : r.isGenerated with
      | true =>
          rw [List.filter_cons_of_pos h, identifyAll_cons_of_generated _ h,
            identifyAll_cons_of_generated _ h, ih]
          simp [generatedOnes, h]
      | false =>
          obtain ⟨given, -, hcons⟩ := s.identifyAll_cons_of_chosen h rs
          rw [List.filter_cons_of_neg (by simp [h]), hcons, ih]
          simp [generatedOnes, h]

/-- A chosen identifier is taken as it is, without surrounding blanks. -/
theorem chosen_of_mem_identifyAll {rs : List Naming} {p : Naming × String}
    (hp : p ∈ (s.identifyAll rs).1) (hchosen : p.1.isGenerated = false) :
    ∃ given, p.1.chosen = some given ∧ p.2 = Text.trim given := by
  induction rs generalizing s with
  | nil => simp [identifyAll] at hp
  | cons r rs ih =>
      cases h : r.isGenerated with
      | true =>
          rw [identifyAll_cons_of_generated _ h] at hp
          rcases List.mem_cons.1 hp with rfl | hp
          · rw [h] at hchosen
            cases hchosen
          · exact ih _ hp
      | false =>
          obtain ⟨given, hgiven, hcons⟩ := s.identifyAll_cons_of_chosen h rs
          rw [hcons] at hp
          rcases List.mem_cons.1 hp with rfl | hp
          · exact ⟨given, hgiven, rfl⟩
          · exact ih _ hp

/-- The generated identifiers of a run carry the next numbers of the sequence. -/
theorem exists_number_of_mem {rs : List Naming} {p : Naming × String}
    (hp : p ∈ generatedOnes (s.identifyAll rs).1) :
    ∃ k < (rs.filter Naming.isGenerated).length,
      p.2 = generatedId p.1.method (s.next + UInt64.ofNat k) := by
  induction rs generalizing s with
  | nil => simp [identifyAll, generatedOnes] at hp
  | cons r rs ih =>
      cases h : r.isGenerated with
      | true =>
          rw [identifyAll_cons_of_generated _ h, generatedOnes,
            List.filter_cons_of_pos (by simpa using h)] at hp
          rw [List.filter_cons_of_pos h, List.length_cons]
          rcases List.mem_cons.1 hp with rfl | hp
          · exact ⟨0, Nat.succ_pos _, by simp⟩
          · obtain ⟨k, hk, hid⟩ := ih _ hp
            refine ⟨k + 1, Nat.succ_lt_succ hk, ?_⟩
            rw [hid, UInt64.ofNat_add, UInt64.add_comm (UInt64.ofNat k), ← UInt64.add_assoc]
            rfl
      | false =>
          obtain ⟨given, -, hcons⟩ := s.identifyAll_cons_of_chosen h rs
          rw [hcons, generatedOnes, List.filter_cons_of_neg (by simp [h])] at hp
          rw [List.filter_cons_of_neg (by simp [h])]
          exact ih _ hp

/-- Generated identifiers of a run differ while the numbers last. -/
theorem pairwise_identifyAll {rs : List Naming}
    (hfew : (rs.filter Naming.isGenerated).length ≤ 2 ^ 64) :
    (generatedOnes (s.identifyAll rs).1).Pairwise fun p q => p.2 ≠ q.2 := by
  induction rs generalizing s with
  | nil => exact List.Pairwise.nil
  | cons r rs ih =>
      cases h : r.isGenerated with
      | true =>
          rw [List.filter_cons_of_pos h, List.length_cons] at hfew
          rw [identifyAll_cons_of_generated _ h, generatedOnes,
            List.filter_cons_of_pos (by simpa using h)]
          refine List.Pairwise.cons (fun q hq hsame => ?_) (ih _ (by omega))
          -- A later number is ahead by less than all the numbers there are.
          obtain ⟨k, hk, hid⟩ := exists_number_of_mem _ hq
          rw [hid] at hsame
          have hnumber := congrArg UInt64.toNat (generatedId_injective hsame).2
          simp only [UInt64.toNat_add, UInt64.toNat_ofNat', UInt64.toNat_one] at hnumber
          have hbound := s.next.toNat_lt
          omega
      | false =>
          obtain ⟨given, -, hcons⟩ := s.identifyAll_cons_of_chosen h rs
          rw [List.filter_cons_of_neg (by simp [h])] at hfew
          rw [hcons, generatedOnes, List.filter_cons_of_neg (by simp [h])]
          exact ih _ hfew

end Sequence

/-! ## Replies to other requests -/

/-- A response that is accepted for the request with an identifier: it gives a result, or the
failure that the daemon reports. -/
def Response.IsAcceptedFor (id : String) (r : Response) : Prop :=
  ∀ e, r.resultFor id = .error e → e.isTransport = false

theorem Response.IsAcceptedFor.answers {id : String} {r : Response} (h : r.IsAcceptedFor id) :
    ∃ ms, Answers id r ms := by
  by_contra hnone
  obtain ⟨e, he, htransport⟩ := resultFor_of_not_answers (not_exists.1 hnone)
  rw [h e he] at htransport
  cases htransport

/-- What answers one request is refused for every other one, since it repeats the wrong
identifier. -/
theorem Answers.resultFor_other {id id' : String} {r : Response} {ms : Members}
    (h : Answers id r ms) (hne : id' ≠ id) :
    r.resultFor id' = .error (.wrongId id' (some id)) := by
  obtain ⟨reply, hreply⟩ := h.decoded
  have hid : reply.idText ≠ some id' := by
    rw [h.idText_eq hreply]
    exact fun hsame => hne (Option.some.inj hsame).symm
  rw [Response.resultFor_eq, if_pos h.success, h.parsed]
  simp only [hreply, Reply.check, h.jsonrpc_eq hreply]
  rw [if_neg (not_not.2 rfl), if_pos hid, h.idText_eq hreply]

/-- **No reply is taken for a reply to another request.** While the numbers of a sequence last, its
generated identifiers differ; chosen identifiers are taken as they are and take no number; so what
is accepted for one request with a generated identifier is refused for every other one. -/
theorem generated_apart (s : Sequence) (rs : List Naming)
    (hfew : (rs.filter Naming.isGenerated).length ≤ 2 ^ 64) :
    let named := (s.identifyAll rs).1
    (generatedOnes named).Pairwise (fun p q => p.2 ≠ q.2)
      ∧ (∀ p ∈ named, p.1.isGenerated = false →
        ∃ given, p.1.chosen = some given ∧ p.2 = Text.trim given)
      ∧ s.identifyAll (rs.filter Naming.isGenerated)
        = (generatedOnes named, (s.identifyAll rs).2)
      ∧ ∀ (r : Response) (i j : Nat) (p q : Naming × String), i ≠ j →
        (generatedOnes named)[i]? = some p → (generatedOnes named)[j]? = some q →
          r.IsAcceptedFor p.2 → r.resultFor q.2 = .error (.wrongId q.2 (some p.2)) := by
  intro named
  have hapart := s.pairwise_identifyAll hfew
  refine ⟨hapart, fun p hp => s.chosen_of_mem_identifyAll hp, s.identifyAll_filter rs, ?_⟩
  intro r i j p q hij hp hq haccepted
  obtain ⟨ms, hanswers⟩ := haccepted.answers
  refine hanswers.resultFor_other ?_
  obtain ⟨hi, rfl⟩ := List.getElem?_eq_some_iff.1 hp
  obtain ⟨hj, rfl⟩ := List.getElem?_eq_some_iff.1 hq
  rcases Nat.lt_or_gt_of_ne hij with hlt | hlt
  · exact (List.pairwise_iff_getElem.1 hapart i j hi hj hlt).symm
  · exact List.pairwise_iff_getElem.1 hapart j i hj hi hlt

/-- Methods that look like identifiers themselves, and a sequence about to start again. -/
def confusable : List Naming :=
  [⟨"a-1", none⟩, ⟨"b", some " x-0 "⟩, ⟨"a", some "  "⟩, ⟨"a-1", some ""⟩]

theorem generated_apart_confusable :
    (confusable.filter Naming.isGenerated).length ≤ 2 ^ 64
      ∧ (generatedOnes (Sequence.identifyAll ⟨18446744073709551615⟩ confusable).1).map Prod.snd
        = ["a-1-18446744073709551615", "a-0", "a-1-1"]
      ∧ (generatedOnes (Sequence.identifyAll ⟨18446744073709551615⟩ confusable).1).Pairwise
        fun p q => p.2 ≠ q.2 :=
  ⟨by decide +kernel, by decide +kernel, (generated_apart ⟨18446744073709551615⟩ confusable
    (by decide +kernel)).1⟩

end Messenger.Rpc
