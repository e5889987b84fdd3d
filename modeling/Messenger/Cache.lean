import Messenger.Log

set_option autoImplicit false

/-! # A cache with an idle time

The cache holds one value per account. A value that has not been asked for during the idle time is
not used any more, and it is dropped when any account is loaded. Every answer from the cache starts
the idle time of its value anew. A failure to load stores nothing. Times are in milliseconds and
never go back. -/

namespace Messenger

/-- A value and when it was asked for last. -/
structure CacheEntry (α : Type) where
  value : α
  lastAccess : Nat
deriving Repr

/-- The values of accounts, each account once. -/
structure Cache (α : Type) where
  /-- The idle time, in milliseconds. -/
  ttl : Nat
  entries : List (String × CacheEntry α) := []
deriving Repr

namespace Cache

variable {α ε σ : Type}

/-- Whether the value of an entry may still be used. -/
def isFresh (ttl now : Nat) (e : CacheEntry α) : Bool := now - e.lastAccess ≤ ttl

/-- The number of accounts that have a value. -/
def size (c : Cache α) : Nat := c.entries.length

/-- Whether no account has a value. -/
def isEmpty (c : Cache α) : Bool := c.entries.isEmpty

/-- The entries of the other accounts. -/
def others (account : String) (entries : List (String × CacheEntry α)) :
    List (String × CacheEntry α) :=
  entries.filter fun e => e.1 != account

/-- Forget the value of an account. -/
def invalidate (account : String) (c : Cache α) : Cache α :=
  { c with entries := others account c.entries }

/-- Forget all values. -/
def invalidateAll (c : Cache α) : Cache α := { c with entries := [] }

/-- The cache after its value of an account was asked for. -/
def touch (now : Nat) (account : String) (c : Cache α) : Cache α :=
  { c with entries := c.entries.map fun e =>
      if e.1 = account then (e.1, { e.2 with lastAccess := now }) else e }

/-- The cache without the values that are not used any more. -/
def sweep (now : Nat) (c : Cache α) : Cache α :=
  { c with entries := c.entries.filter fun e => isFresh c.ttl now e.2 }

/-- The cache with a value that was loaded. -/
def store (now : Nat) (account : String) (value : α) (c : Cache α) : Cache α :=
  { c with entries := others account (c.sweep now).entries ++ [(account, ⟨value, now⟩)] }

/-- The value of an account that may still be used. -/
def fresh? (now : Nat) (account : String) (c : Cache α) : Option α :=
  match c.entries.lookup account with
  | some e => if isFresh c.ttl now e then some e.value else none
  | none => none

/-- How values are loaded, in a state that loading may change. -/
abbrev Loader (ε σ α : Type) := String → σ → Except ε α × List LogRecord × σ

/-- The value of an account: the one in the cache if it may still be used, else a new one. -/
def get (load : Loader ε σ α) (now : Nat) (account : String) (c : Cache α) (s : σ) :
    Except ε α × List LogRecord × Cache α × σ :=
  match c.fresh? now account with
  | some value => (.ok value, [], c.touch now account, s)
  | none =>
    match load account s with
    | (.ok value, log, s) => (.ok value, log, c.store now account value, s)
    | (.error e, log, s) => (.error e, log, c.invalidate account, s)

end Cache
end Messenger
