set_option autoImplicit false

/-! # Log records

What the library reports about its work. Operations return their records together with their
results, in the order in which they arise. -/

namespace Messenger

/-- How grave a record is. -/
inductive Level where
  | error
  | warn
  | info
  | debug
deriving DecidableEq, Repr

/-- A record: its level, its message and its named values. -/
structure LogRecord where
  level : Level
  message : String
  fields : List (String × String)
deriving DecidableEq, Repr

namespace LogRecord

/-- A record of a failure. -/
def error (message : String) (fields : List (String × String) := []) : LogRecord :=
  ⟨.error, message, fields⟩

/-- A record of a mishap. -/
def warn (message : String) (fields : List (String × String) := []) : LogRecord :=
  ⟨.warn, message, fields⟩

/-- A record of ordinary progress. -/
def info (message : String) (fields : List (String × String) := []) : LogRecord :=
  ⟨.info, message, fields⟩

/-- A record of detail. -/
def debug (message : String) (fields : List (String × String) := []) : LogRecord :=
  ⟨.debug, message, fields⟩

end LogRecord
end Messenger
