import Messenger.Json.Value
import Messenger.Text.Blank

set_option autoImplicit false

/-! # Requests to the daemon

A request names a method and carries an identifier that its reply must repeat. A caller may choose
the identifier; otherwise it is the name of the method and the next number of a sequence that is
shared by all methods, so no two generated identifiers of a run agree. -/

namespace Messenger.Rpc

open Json

/-- The number of the next generated identifier. After `2 ^ 64` numbers it starts again. -/
structure Sequence where
  next : UInt64 := 1
deriving DecidableEq, Repr

/-- The generated identifier with a number. -/
def generatedId (method : String) (n : UInt64) : String :=
  method ++ "-" ++ String.ofList (Nat.toDigits 10 n.toNat)

/-- The identifier of a request: the chosen one without surrounding blanks, or a generated one if
that is missing or blank. Only a generated one takes a number. -/
def Sequence.identify (s : Sequence) (chosen : Option String) (method : String) :
    String × Sequence :=
  match chosen with
  | some id => if Text.isBlankText id then generate else (Text.trim id, s)
  | none => generate
where
  generate := (generatedId method s.next, ⟨s.next + 1⟩)

/-- The version of the protocol. -/
def protocolVersion : String := "2.0"

/-- A request. -/
structure Request where
  id : String
  method : String
  params : Value
deriving Repr

/-- A request as JSON; missing parameters are an empty object. -/
def Request.toJson (r : Request) : Value :=
  .obj [("id", .str r.id), ("jsonrpc", .str protocolVersion), ("method", .str r.method),
    ("params", if r.params.isNull then .obj [] else r.params)]

end Messenger.Rpc
