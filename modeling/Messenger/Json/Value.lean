import Messenger.Number.Binary64

set_option autoImplicit false

/-! # JSON values

The value of a JSON document. Whole numbers are kept apart from floating-point ones, so `1` and
`1.0` differ; a document holds whole numbers between `-2 ^ 63` and `2 ^ 64 - 1` only. An object is
the list of its members. Values read from text list them by ascending key and once per key (the
last of several wins), which is what `Value.Ordered` says; a value built to be written may list
them in the order in which they are to appear. -/

namespace Messenger.Json

/-- A JSON value. -/
inductive Value where
  | null
  | bool (b : Bool)
  | int (n : Int)
  | float (x : Binary64)
  | str (s : String)
  | arr (items : List Value)
  | obj (members : List (String × Value))
deriving Repr, Inhabited

/-- The members of an object. -/
abbrev Members := List (String × Value)

namespace Members

/-- The value of a key. -/
def get? (key : String) : Members → Option Value
  | [] => none
  | (k, v) :: ms => if k = key then some v else get? key ms

/-- Whether a key is present. -/
def hasKey (key : String) (ms : Members) : Bool := (get? key ms).isSome

/-- Give a key a value in an ascending list of members, in place of the value it had. -/
def insert (key : String) (value : Value) : Members → Members
  | [] => [(key, value)]
  | (k, v) :: ms =>
    if key < k then (key, value) :: (k, v) :: ms
    else if k = key then (key, value) :: ms
    else (k, v) :: insert key value ms

/-- The members in ascending order of their keys, the last of several with one key. -/
def sorted (ms : Members) : Members := ms.foldl (fun acc m => insert m.1 m.2 acc) []

/-- Ascending keys, none twice. -/
def Ascending (ms : Members) : Prop := ms.Pairwise fun a b => a.1 < b.1

@[simp] theorem get?_nil (key : String) : get? key [] = none := rfl

theorem get?_cons (key : String) (m : String × Value) (ms : Members) :
    get? key (m :: ms) = if m.1 = key then some m.2 else get? key ms := rfl

/-- An inserted key has the inserted value, and the others keep theirs. -/
theorem get?_insert (key other : String) (value : Value) (ms : Members) :
    get? other (insert key value ms) = if key = other then some value else get? other ms := by
  induction ms with
  | nil => simp [insert, get?]
  | cons m ms ih =>
    obtain ⟨k, v⟩ := m
    unfold insert
    split
    · simp [get?]
    · split
      · rename_i h
        subst h
        simp only [get?]
        split <;> rfl
      · rename_i h
        simp only [get?, ih]
        by_cases hk : k = other
        · subst hk
          simp [Ne.symm h]
        · simp [hk]

end Members

namespace Value

/-- The string a value is. -/
def str? : Value → Option String
  | .str s => some s
  | _ => none

/-- The truth value a value is. -/
def bool? : Value → Option Bool
  | .bool b => some b
  | _ => none

/-- The members of an object. -/
def obj? : Value → Option Members
  | .obj ms => some ms
  | _ => none

/-- The items of an array. -/
def arr? : Value → Option (List Value)
  | .arr items => some items
  | _ => none

/-- Whether a whole number is a signed 64-bit word. -/
def isSigned (n : Int) : Bool := -0x8000000000000000 ≤ n && n < 0x8000000000000000

/-- Whether a whole number is an unsigned 64-bit word. -/
def isUnsigned (n : Int) : Bool := 0 ≤ n && n < 0x10000000000000000

/-- The signed 64-bit word a value is; a floating-point number is none. -/
def int64? : Value → Option Int64
  | .int n => if isSigned n then some (Int64.ofInt n) else none
  | _ => none

/-- The unsigned 64-bit word a value is. -/
def uint64? : Value → Option UInt64
  | .int n => if isUnsigned n then some (UInt64.ofNat n.toNat) else none
  | _ => none

/-- Whether a value is `null`. -/
def isNull : Value → Bool
  | .null => true
  | _ => false

/-- The value of a key of an object; nothing for any other value. -/
def get? (key : String) (v : Value) : Option Value := v.obj?.bind (Members.get? key)

/-- A signed word as a value. -/
def ofInt64 (n : Int64) : Value := .int n.toInt

/-- An unsigned word as a value. -/
def ofUInt64 (n : UInt64) : Value := .int n.toNat

/-- An optional value, `null` when missing. -/
def ofOption {α : Type} (f : α → Value) : Option α → Value
  | none => .null
  | some a => f a

/-- A list of strings. -/
def strings (ss : List String) : Value := .arr (ss.map .str)

mutual

/-- The same value with the members of every object in ascending order, the last of several with
one key. -/
def sorted : Value → Value
  | .arr items => .arr (sortedItems items)
  | .obj ms => .obj (Members.sorted (sortedMembers ms))
  | v => v

/-- `sorted` on every item. -/
def sortedItems : List Value → List Value
  | [] => []
  | v :: vs => sorted v :: sortedItems vs

/-- `sorted` on every member's value. -/
def sortedMembers : Members → Members
  | [] => []
  | (k, v) :: ms => (k, sorted v) :: sortedMembers ms

end

mutual

/-- The objects of a value list their members by ascending key. -/
def Ordered : Value → Prop
  | .arr items => OrderedItems items
  | .obj ms => Members.Ascending ms ∧ OrderedMembers ms
  | _ => True

/-- `Ordered` for every item. -/
def OrderedItems : List Value → Prop
  | [] => True
  | v :: vs => Ordered v ∧ OrderedItems vs

/-- `Ordered` for every member's value. -/
def OrderedMembers : Members → Prop
  | [] => True
  | (_, v) :: ms => Ordered v ∧ OrderedMembers ms

end

@[simp] theorem int64?_ofInt64 (n : Int64) : (ofInt64 n).int64? = some n := by
  have h1 : -0x8000000000000000 ≤ n.toInt := n.le_toInt
  have h2 : n.toInt < 0x8000000000000000 := n.toInt_lt
  simp only [ofInt64, int64?, isSigned, h1, h2, decide_true, Bool.and_self, if_true,
    Int64.ofInt_toInt]

@[simp] theorem uint64?_ofUInt64 (n : UInt64) : (ofUInt64 n).uint64? = some n := by
  have h0 : (0 : Int) ≤ n.toNat := Int.natCast_nonneg _
  have h : (n.toNat : Int) < 0x10000000000000000 := Int.ofNat_lt.2 n.toNat_lt
  simp only [ofUInt64, uint64?, isUnsigned, h0, h, decide_true, Bool.and_self, if_true,
    Int.toNat_natCast, UInt64.ofNat_toNat]

theorem str?_eq_some_iff {v : Value} {s : String} : v.str? = some s ↔ v = .str s := by
  cases v <;> simp [str?]

theorem bool?_eq_some_iff {v : Value} {b : Bool} : v.bool? = some b ↔ v = .bool b := by
  cases v <;> simp [bool?]

theorem obj?_eq_some_iff {v : Value} {ms : Members} : v.obj? = some ms ↔ v = .obj ms := by
  cases v <;> simp [obj?]

theorem isSigned_iff {n : Int} :
    isSigned n = true ↔ -0x8000000000000000 ≤ n ∧ n < 0x8000000000000000 := by
  simp [isSigned]

theorem int64?_eq_some_iff {v : Value} {n : Int64} : v.int64? = some n ↔ v = .ofInt64 n := by
  constructor
  · intro h
    cases v with
    | int k =>
        by_cases hk : isSigned k = true
        · simp only [int64?, if_pos hk, Option.some.injEq] at h
          obtain ⟨hlow, hhigh⟩ := isSigned_iff.1 hk
          rw [ofInt64, ← h, Int64.toInt_ofInt_of_le hlow hhigh]
        · simp [int64?, hk] at h
    | _ => simp [int64?] at h
  · rintro rfl
    exact int64?_ofInt64 n

end Value
end Messenger.Json
