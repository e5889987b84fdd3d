import Messenger.Gateway.Directories

set_option autoImplicit false

/-! # The course of a cache

A *course* is what becomes of a cache while operations are applied to it one after the other: it
keeps the answers, with the times at which they were given, and what was loaded. The law of the
cache is said in terms of these alone. A step *serves* an account when it asks for it with success,
and an account is `Served` at a time if that was not too long ago and it was not forgotten since. -/

namespace Messenger.Cache

variable {α ε σ : Type}

/-! ## Courses -/

/-- What is done with a cache. -/
inductive Operation where
  | get (account : String)
  /-- Ask for the title of a group of an account. -/
  | title (account groupId : String)
  | invalidate (account : String)
  | invalidateAll
  /-- Let time pass. -/
  | advance (elapsed : Nat)
deriving DecidableEq, Repr

/-- What an operation answers. -/
inductive Answer (ε α : Type) where
  | value (result : Except ε α)
  | title (title : Event.Title)
  | nothing

/-- An operation with its answer, and when it was applied. -/
structure Step (ε α : Type) where
  time : Nat
  operation : Operation
  answer : Answer ε α

/-- Whether an operation asks for the value of an account. -/
def Operation.asks (account : String) : Operation → Bool
  | .get a => a = account
  | .title a _ => a = account
  | _ => false

/-- Whether an operation forgets the value of an account. -/
def Operation.forgets (account : String) : Operation → Bool
  | .invalidate a => a = account
  | .invalidateAll => true
  | _ => false

/-- Whether an operation has to do with an account. Time is everyone's. -/
def Operation.concerns (account : String) : Operation → Bool
  | .advance _ => true
  | op => op.asks account || op.forgets account

/-- What is found of a title in what a cache answers, given how a value tells titles. -/
def titleFrom (titleIn : α → String → Option String) (groupId : String) :
    Except ε α → Event.Title
  | .ok value => match titleIn value groupId with
    | some title => .known title
    | none => .unknown
  | .error _ => .failed

/-- The answer to an operation that asks, made from what the cache answers. -/
def Operation.answer (titleIn : α → String → Option String) (result : Except ε α) :
    Operation → Answer ε α
  | .title _ groupId => .title (titleFrom titleIn groupId result)
  | _ => .value result

/-- Whether an answer comes from a value. -/
def Answer.isSuccess : Answer ε α → Bool
  | .value (.ok _) => true
  | .title (.known _) => true
  | .title .unknown => true
  | _ => false

/-- Whether a step serves an account: it is asked for, with success. -/
def Step.serves (account : String) (s : Step ε α) : Bool :=
  s.operation.asks account && s.answer.isSuccess

/-- A loader that keeps a record of what it is asked for and what it answers, oldest first. -/
def recorded (load : Loader ε σ α) : Loader ε (σ × List (String × Except ε α)) α :=
  fun account s =>
    let (result, log, state) := load account s.1
    (result, log, state, s.2 ++ [(account, result)])

/-- A cache, the time, the state of its loader with the record of loads, and the steps so far. -/
structure Course (ε σ α : Type) where
  cache : Cache α
  now : Nat
  state : σ × List (String × Except ε α)
  history : List (Step ε α) := []

namespace Course

/-- An empty cache. -/
def start (ttl now : Nat) (s : σ) : Course ε σ α where
  cache := { ttl }
  now := now
  state := (s, [])

/-- The loads so far, oldest first. -/
def loads (c : Course ε σ α) : List (String × Except ε α) := c.state.2

/-- Note an operation that was applied just now. -/
def note (op : Operation) (answer : Answer ε α) (c : Course ε σ α) : Course ε σ α :=
  { c with history := c.history ++ [⟨c.now, op, answer⟩] }

/-- Ask the cache for an account. -/
def ask (load : Loader ε σ α) (account : String) (c : Course ε σ α) :
    Except ε α × Course ε σ α :=
  let (result, _, cache, state) := c.cache.get (recorded load) c.now account c.state
  (result, { c with cache, state })

variable (load : Loader ε σ α) (titleIn : α → String → Option String)

/-- What a load answers, and the state of the loader after it. -/
def loaded (account : String) (c : Course ε σ α) : Except ε α × σ :=
  let (result, _, s) := load account c.state.1
  (result, s)

/-- Apply an operation. -/
def apply (c : Course ε σ α) (op : Operation) : Course ε σ α :=
  match op with
  | .get account =>
    let (result, c) := c.ask load account
    c.note op (op.answer titleIn result)
  | .title account _ =>
    let (result, c) := c.ask load account
    c.note op (op.answer titleIn result)
  | .invalidate account => { c.note op .nothing with cache := c.cache.invalidate account }
  | .invalidateAll => { c.note op .nothing with cache := c.cache.invalidateAll }
  | .advance elapsed => { c.note op .nothing with now := c.now + elapsed }

/-- Apply operations in turn. -/
def run (ops : List Operation) (c : Course ε σ α) : Course ε σ α :=
  ops.foldl (apply load titleIn) c

/-- An operation that asks for an account notes what the cache answers. -/
theorem apply_of_asks {op : Operation} {account : String} (hasks : op.asks account = true)
    (c : Course ε σ α) :
    c.apply load titleIn op
      = (c.ask load account).2.note op (op.answer titleIn (c.ask load account).1) := by
  cases op with
  | get a =>
      obtain rfl := of_decide_eq_true hasks
      rfl
  | title a groupId =>
      obtain rfl := of_decide_eq_true hasks
      rfl
  | _ => cases hasks

end Course

/-- How a directory of groups tells titles. -/
def titleInGroups (groups : GroupDirectory) (groupId : String) : Option String :=
  (groups.get? groupId).bind Group.name

/-- The title of a group, sought in what a cache of groups answers. -/
def findTitle (load : Loader GatewayError σ GroupDirectory) (now : Nat) (account groupId : String)
    (around : Cache GroupDirectory × σ) :
    Event.Title × List LogRecord × Cache GroupDirectory × σ :=
  let asked := around.1.get load now account around.2
  (titleFrom titleInGroups groupId asked.1, asked.2)

theorem titles_eq (load : Loader GatewayError σ GroupDirectory) (now : Nat) :
    Cache.titles load now = some (findTitle load now) := by
  unfold titles
  congr 1
  funext account groupId ⟨cache, s⟩
  unfold findTitle
  dsimp only
  rcases cache.get load now account s with ⟨_ | _, log, cache, s⟩ <;> rfl

/-! ## What the history says -/

/-- The steps since an account was forgotten last, newest first. -/
def sinceForgotten (account : String) (history : List (Step ε α)) : List (Step ε α) :=
  history.reverse.takeWhile fun s => !s.operation.forgets account

/-- An account was served not too long before a time, and not forgotten since. -/
def Served (ttl : Nat) (account : String) (time : Nat) (history : List (Step ε α)) : Prop :=
  ∃ s ∈ sinceForgotten account history, s.serves account = true ∧ time - s.time ≤ ttl

/-- The value that was loaded last for an account. -/
def lastLoaded (account : String) (loads : List (String × Except ε α)) : Option α :=
  ((loads.filter fun l => l.1 = account).filterMap fun l => l.2.toOption).getLast?

theorem not_served_nil (ttl : Nat) (account : String) (time : Nat) :
    ¬ Served ttl account time ([] : List (Step ε α)) := by
  rintro ⟨s, hs, -⟩
  cases hs

/-- What one more step does to an account. -/
theorem served_concat (ttl : Nat) (account : String) (time : Nat) (history : List (Step ε α))
    (s : Step ε α) :
    Served ttl account time (history ++ [s])
      ↔ s.operation.forgets account = false
        ∧ ((s.serves account = true ∧ time - s.time ≤ ttl) ∨ Served ttl account time history) := by
  unfold Served sinceForgotten
  rw [List.reverse_append, List.reverse_singleton, List.singleton_append, List.takeWhile_cons]
  cases s.operation.forgets account <;> simp

/-- Who was served recently at a time was so earlier. -/
theorem Served.earlier {ttl : Nat} {account : String} {now time : Nat}
    {history : List (Step ε α)} (h : Served ttl account time history) (hle : now ≤ time) :
    Served ttl account now history := by
  obtain ⟨s, hs, hserves, htime⟩ := h
  exact ⟨s, hs, hserves, by omega⟩

/-- A step that has nothing to do with an account changes nothing for it. -/
theorem served_concat_of_other {ttl : Nat} {account : String} {time : Nat}
    {history : List (Step ε α)} {s : Step ε α} (hserves : s.serves account = false)
    (hforgets : s.operation.forgets account = false) :
    Served ttl account time (history ++ [s]) ↔ Served ttl account time history := by
  simp [served_concat, hserves, hforgets]

theorem lastLoaded_concat (account : String) (loads : List (String × Except ε α))
    (l : String × Except ε α) :
    lastLoaded account (loads ++ [l])
      = match l.2 with
        | .ok value => if l.1 = account then some value else lastLoaded account loads
        | .error _ => lastLoaded account loads := by
  obtain ⟨a, result⟩ := l
  by_cases ha : a = account <;> cases result <;> simp [lastLoaded, ha, Except.toOption]

/-! ## Operations that ask -/

theorem Operation.asks_eq {op : Operation} {a : String} (ha : op.asks a = true) (b : String) :
    op.asks b = decide (b = a) := by
  cases op <;> simp_all [asks, eq_comm]

theorem Operation.forgets_of_asks {op : Operation} {a : String} (ha : op.asks a = true)
    (b : String) : op.forgets b = false := by
  cases op <;> simp_all [asks, forgets]

/-- An answer is a success if the cache answers with a value. -/
theorem Operation.isSuccess_answer (titleIn : α → String → Option String) (result : Except ε α)
    (op : Operation) : (op.answer titleIn result).isSuccess = result.isOk := by
  cases op with
  | title a groupId =>
      cases result with
      | error e => rfl
      | ok value =>
          cases htitle : titleIn value groupId <;>
            simp [answer, titleFrom, htitle, Answer.isSuccess, Except.isOk, Except.toBool]
  | _ => cases result <;> rfl

/-- An operation that asks for an account serves it if the cache answers with a value. -/
theorem served_of_asks (titleIn : α → String → Option String) {op : Operation} {account : String}
    (hasks : op.asks account = true) (ttl now : Nat) (result : Except ε α) (time : Nat)
    (history : List (Step ε α)) :
    Served ttl account time (history ++ [⟨now, op, op.answer titleIn result⟩])
      ↔ (result.isOk = true ∧ time - now ≤ ttl) ∨ Served ttl account time history := by
  rw [served_concat, Step.serves, hasks, Operation.isSuccess_answer, Bool.true_and]
  exact and_iff_right (Operation.forgets_of_asks hasks account)

end Messenger.Cache
