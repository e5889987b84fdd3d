set_option autoImplicit false

/-! # Connections of the event stream

What becomes of one attempt to open the event stream: nobody answers, or an answer comes with a
status and, after it, bytes in chunks until the connection ends. -/

namespace Messenger.Stream

/-- How a connection ends, as far as it is observed. -/
inductive Ending where
  /-- The daemon ends the stream. -/
  | closed
  /-- Reading fails. -/
  | broken
  /-- It has not ended yet. -/
  | pending
deriving DecidableEq, Repr

/-- One attempt to open the event stream. -/
inductive Connection where
  /-- No connection, or one that ends without an answer. -/
  | refused
  /-- No answer yet. -/
  | silent
  | answered (status : Nat) (chunks : List (List UInt8)) (ending : Ending)
deriving DecidableEq, Repr

end Messenger.Stream
