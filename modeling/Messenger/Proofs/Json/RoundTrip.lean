import Messenger.Proofs.Json.Faithful
import Messenger.Proofs.Json.Orderless

set_option autoImplicit false

/-! # Writing and decoding again

What is written as a value is decoded from it, from the value with its members sorted, and from the
compact text of either (`RoundTrips`). This takes four things, each by itself: that the value as it
is written decodes, that it is legible, that no key occurs twice in it, and that the decoder is
*steady*, that is, reads what it takes and ignores the order of members (`RoundTrips.of_value`). -/

namespace Messenger.Json

/-! ## What is written -/

namespace Value

variable {depth : Nat}

@[simp] theorem legible_str (s : String) : (str s).Legible depth := by
  cases depth <;> trivial

@[simp] theorem legible_bool (b : Bool) : (bool b).Legible depth := by
  cases depth <;> trivial

@[simp] theorem legible_ofOption_str (o : Option String) : (ofOption str o).Legible depth := by
  cases o <;> cases depth <;> trivial

@[simp] theorem legible_ofInt64 (n : Int64) : (ofInt64 n).Legible depth := by
  have hlow : -0x8000000000000000 ≤ n.toInt := n.le_toInt
  have hhigh : n.toInt < 0x8000000000000000 := n.toInt_lt
  have hrange : InRange n.toInt := by
    refine ⟨hlow, ?_⟩
    simp only [Scaled.wordMax]
    omega
  cases depth <;> exact hrange

@[simp] theorem legible_ofUInt64 (n : UInt64) : (ofUInt64 n).Legible depth := by
  have hhigh : n.toNat < 0x10000000000000000 := n.toNat_lt
  have hrange : InRange n.toNat := by
    refine ⟨by omega, ?_⟩
    simp only [Scaled.wordMax]
    omega
  cases depth <;> exact hrange

@[simp] theorem distinct_str (s : String) : (str s).Distinct := trivial

@[simp] theorem distinct_bool (b : Bool) : (bool b).Distinct := trivial

@[simp] theorem distinct_ofOption_str (o : Option String) : (ofOption str o).Distinct := by
  cases o <;> trivial

@[simp] theorem distinct_ofInt64 (n : Int64) : (ofInt64 n).Distinct := trivial

@[simp] theorem distinct_ofUInt64 (n : UInt64) : (ofUInt64 n).Distinct := trivial

theorem legibleMembers_sorted {ms : Members} (h : LegibleMembers depth ms) :
    LegibleMembers depth (Members.sorted ms) := by
  rw [legibleMembers_iff] at h
  refine Members.sorted_induction (P := LegibleMembers depth) ms trivial fun acc m hm hacc => ?_
  rw [legibleMembers_iff] at hacc ⊢
  intro n hn
  rcases Members.mem_of_mem_insert hn with rfl | hn
  · exact h m hm
  · exact hacc n hn

mutual

/-- Sorting members keeps a value legible. -/
theorem legible_sorted : ∀ (v : Value) (depth : Nat), v.Legible depth → v.sorted.Legible depth
  | .arr items, depth + 1, h => by
      rw [sorted]
      exact legibleItems_sortedItems items depth h
  | .obj ms, depth + 1, h => by
      rw [sorted]
      exact legibleMembers_sorted (legibleMembers_sortedMembers ms depth h)
  | .null, _, h => h
  | .bool _, _, h => h
  | .int _, _, h => h
  | .str _, _, h => h

theorem legibleItems_sortedItems : ∀ (vs : List Value) (depth : Nat),
    LegibleItems depth vs → LegibleItems depth (sortedItems vs)
  | [], _, _ => trivial
  | v :: vs, depth, h => ⟨legible_sorted v depth h.1, legibleItems_sortedItems vs depth h.2⟩

theorem legibleMembers_sortedMembers : ∀ (ms : Members) (depth : Nat),
    LegibleMembers depth ms → LegibleMembers depth (sortedMembers ms)
  | [], _, _ => trivial
  | (_, v) :: ms, depth, h =>
    ⟨legible_sorted v depth h.1, legibleMembers_sortedMembers ms depth h.2⟩

end

end Value

namespace Decoder

variable {α β δ : Type}

@[simp] theorem string_ofValue_str (s : String) : string.ofValue (.str s) = .ok s := rfl

@[simp] theorem bool_ofValue_bool (b : Bool) : bool.ofValue (.bool b) = .ok b := rfl

@[simp] theorem int64_ofValue_ofInt64 (n : Int64) : int64.ofValue (.ofInt64 n) = .ok n := by
  rw [int64_eq_ok_iff, Value.int64?_ofInt64]

@[simp] theorem uint64_ofValue_ofUInt64 (n : UInt64) : uint64.ofValue (.ofUInt64 n) = .ok n := by
  rw [uint64, scalar_eq_ok_iff, Value.uint64?_ofUInt64]

@[simp] theorem option_ofValue_ofOption (o : Option String) :
    (option string).ofValue (.ofOption .str o) = .ok o := by
  cases o <;> rfl

theorem list_ofValue_map {d : Decoder α} {write : α → Value}
    (h : ∀ a, d.ofValue (write a) = .ok a) (as : List α) :
    (list d).ofValue (.arr (as.map write)) = .ok as := by
  change (as.map write).mapM d.ofValue = .ok as
  induction as with
  | nil => rfl
  | cons a as ih =>
      rw [List.map_cons, List.mapM_cons]
      exact bind_eq_ok_iff.2 ⟨a, h a, bind_eq_ok_iff.2 ⟨as, ih, rfl⟩⟩

/-- A member goes into the field of its key. -/
theorem Shape.ofMembers_field {s : Shape δ α} {names : List String} {d : Decoder β}
    {isSet : δ → Bool} {put : β → δ → δ} {x y : δ} {k : String} {v : Value} {b : β} {ms : Members}
    (hfind : Field.find? s.fields k = some (field names d isSet put)) (hset : isSet x = false)
    (hv : d.ofValue v = .ok b) (h : s.ofMembers (put b x) ms = .ok y) :
    s.ofMembers x ((k, v) :: ms) = .ok y :=
  s.ofMembers_cons_eq_ok_iff.2
    (.inr ⟨_, put b, hfind, hset, field_put_eq_ok_iff.2 ⟨b, hv, rfl⟩, h⟩)

/-! ## Decoders that go by what a value says -/

/-- A decoder that takes the same from a value, whatever the order of members, and from its text. -/
structure Steady (d : Decoder α) : Prop where
  faithful : d.Faithful
  ignoresOrder : d.IgnoresOrder

@[simp] theorem steady_string : string.Steady := ⟨faithful_string, ignoresOrder_string⟩

@[simp] theorem steady_bool : bool.Steady := ⟨faithful_bool, ignoresOrder_bool⟩

@[simp] theorem steady_int64 : int64.Steady := ⟨faithful_int64, ignoresOrder_int64⟩

@[simp] theorem steady_uint64 : uint64.Steady := ⟨faithful_uint64, ignoresOrder_uint64⟩

@[simp] theorem steady_name (names : List (String × α)) : (name names).Steady :=
  ⟨faithful_name names, ignoresOrder_name names⟩

@[simp] theorem Steady.option {d : Decoder α} (hd : d.Steady) : d.option.Steady :=
  ⟨hd.faithful.option, hd.ignoresOrder.option⟩

@[simp] theorem Steady.list {d : Decoder α} (hd : d.Steady) : (list d).Steady :=
  ⟨hd.faithful.list, hd.ignoresOrder.list⟩

@[simp] theorem Steady.field {d : Decoder β} (hd : d.Steady) {names : List String}
    {isSet : δ → Bool} {put : β → δ → δ} : (field names d isSet put).put.Steady :=
  ⟨hd.faithful.map put, hd.ignoresOrder.map put⟩

/-- A structure of fields that leave each other alone. -/
theorem Shape.Orderless.steady {s : Shape δ α} (hs : s.Orderless)
    (hfields : ∀ f ∈ s.fields, f.put.Steady) : s.decoder.Steady :=
  ⟨Shape.faithful fun f hf => (hfields f hf).faithful,
    hs.ignoresOrder fun f hf => (hfields f hf).ignoresOrder⟩

/-! ## Round trips -/

/-- What is written is decoded, in whatever way it is passed on. -/
structure RoundTrips (write : α → Value) (d : Decoder α) : Prop where
  /-- Through a value. -/
  value : ∀ a, d.ofValue (write a) = .ok a
  /-- Through a value with its members sorted. -/
  sorted : ∀ a, d.ofValue (write a).sorted = .ok a
  /-- Through compact text. -/
  text : ∀ a, Decoder.ofText d (write a).compact = .ok a
  /-- Through the compact text of a value with its members sorted. -/
  sortedText : ∀ a, Decoder.ofText d (write a).sorted.compact = .ok a
  /-- Through compact text that is read as a value. -/
  parsed : ∀ a, Value.parse (write a).compact >>= d.ofValue = .ok a
  /-- A value decodes as what is written of it does. -/
  valueAgain : ∀ v, (d.ofValue v >>= fun a => d.ofValue (write a).sorted) = d.ofValue v
  /-- A text decodes as what is written of it does. -/
  textAgain : ∀ s, (Decoder.ofText d s >>= fun a => Decoder.ofText d (write a).compact)
    = Decoder.ofText d s

/-- **Round trips from one of them**: a value as it is written decodes, its text is legible, and no
key occurs twice in it. -/
theorem RoundTrips.of_value {write : α → Value} {d : Decoder α} (hd : d.Steady)
    (hvalue : ∀ a, d.ofValue (write a) = .ok a)
    (hlegible : ∀ a, (write a).Legible maxDepth) (hdistinct : ∀ a, (write a).Distinct) :
    RoundTrips write d := by
  have hsorted (a : α) : d.ofValue (write a).sorted = .ok a :=
    hd.ignoresOrder (hdistinct a) (hvalue a)
  have htext (a : α) : Decoder.ofText d (write a).compact = .ok a :=
    hd.faithful.ofText (hlegible a) (hvalue a)
  have hagain {x : Except Fault α} {f : α → Except Fault α} (hf : ∀ a, f a = .ok a) :
      x >>= f = x := by
    cases x with
    | error fault => rfl
    | ok a => exact hf a
  exact {
    value := hvalue
    sorted := hsorted
    text := htext
    sortedText := fun a => hd.faithful.ofText (Value.legible_sorted _ _ (hlegible a)) (hsorted a)
    parsed := fun a => by
      rw [Value.parse_compact (hlegible a)]
      exact hsorted a
    valueAgain := fun v => hagain hsorted
    textAgain := fun s => hagain htext }

end Decoder
end Messenger.Json
