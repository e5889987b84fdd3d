import Messenger.Json.Decode
import Messenger.Json.Render
import Messenger.Rpc.Error
import Messenger.Rpc.Request
import Messenger.Status
import Messenger.Text.Cut

set_option autoImplicit false

/-! # Replies of the daemon

A reply is accepted for a request when its status is a success, its body is a JSON object of the
protocol's version, and it repeats the identifier of the request. An accepted reply that carries an
error reports a failure; otherwise it carries a result, `null` if that is missing. -/

namespace Messenger.Rpc

open Json

/-- A failure as the daemon reports it. -/
structure ServerError where
  code : Int64
  message : String
  data : Option Value
deriving Repr

/-- The body of a reply. -/
structure Reply where
  jsonrpc : Option String
  id : Option Value
  result : Option Value
  error : Option ServerError
deriving Repr

namespace ServerError

/-- The fields of a reported failure while it is read. -/
structure Draft where
  code : Option Int64 := none
  message : Option String := none
  data : Option (Option Value) := none

open Decoder (field required) in
/-- How a reported failure is written. -/
def shape : Decoder.Shape Draft ServerError where
  empty := {}
  fields :=
    [field ["code"] .int64 (·.code.isSome) fun a d => { d with code := some a },
      field ["message"] .string (·.message.isSome) fun a d => { d with message := some a },
      field ["data"] (.option .any) (·.data.isSome) fun a d => { d with data := some a }]
  finish d := do
    return { code := ← required d.code, message := ← required d.message, data := d.data.join }
  positional := true

/-- The reported failure that a value is. -/
def ofJson (v : Value) : Except Fault ServerError := shape.ofValue v

/-- A reported failure as JSON. -/
def toJson (e : ServerError) : Value :=
  .obj ([("code", .ofInt64 e.code), ("message", .str e.message)]
    ++ match e.data with
      | none => []
      | some v => [("data", v)])

end ServerError

namespace Reply

/-- The fields of a reply while it is read. -/
structure Draft where
  jsonrpc : Option (Option String) := none
  id : Option (Option Value) := none
  result : Option (Option Value) := none
  error : Option (Option ServerError) := none

open Decoder (field) in
/-- How a reply is written. -/
def shape : Decoder.Shape Draft Reply where
  empty := {}
  fields :=
    [field ["jsonrpc"] (.option .string) (·.jsonrpc.isSome) fun a d => { d with jsonrpc := some a },
      field ["id"] (.option .any) (·.id.isSome) fun a d => { d with id := some a },
      field ["result"] (.option .any) (·.result.isSome) fun a d => { d with result := some a },
      field ["error"] (.option ServerError.shape.decoder) (·.error.isSome) fun a d =>
        { d with error := some a }]
  finish d := .ok {
    jsonrpc := d.jsonrpc.join
    id := d.id.join
    result := d.result.join
    error := d.error.join }
  positional := true

/-- The reply that a value is. -/
def ofJson (v : Value) : Except Fault Reply := shape.ofValue v

/-- A reply as JSON. -/
def toJson (r : Reply) : Value :=
  .obj [("jsonrpc", .ofOption .str r.jsonrpc), ("id", .ofOption (fun v => v) r.id),
    ("result", .ofOption (fun v => v) r.result), ("error", .ofOption ServerError.toJson r.error)]

/-- The identifier that a reply repeats, as text: a string as it is, any other value as compact
JSON. -/
def idText (r : Reply) : Option String :=
  r.id.map fun
    | .str s => s
    | v => v.compact

/-- Check that a reply answers the request with an identifier, and obtain its result. -/
def check (id : String) (r : Reply) : Except Error Value :=
  match r.jsonrpc with
  | none => .error (.violation .missingVersion)
  | some v =>
    if v ≠ protocolVersion then .error (.violation (.wrongVersion v))
    else if r.idText ≠ some id then .error (.wrongId id r.idText)
    else match r.error with
      | some e => .error (.server e.code e.message)
      | none => .ok (r.result.getD .null)

end Reply

/-- What comes back over HTTP. -/
structure Response where
  status : Nat
  body : List UInt8
deriving DecidableEq, Repr

namespace Response

/-- The greatest number of bytes that is kept of a refused reply. -/
def keptBody : Nat := 512

/-- The result that a response gives to the request with an identifier. -/
def resultFor (id : String) (r : Response) : Except Error Value := do
  if !isSuccessStatus r.status then
    .error (.refused r.status (Text.cut keptBody (Text.ofUtf8Lossy r.body)))
  let v ← (Value.parseBytes r.body).mapError .undecodable
  if v.obj?.isNone then .error (.violation .notAnObject)
  let reply ← (Reply.ofJson v).mapError .undecodable
  reply.check id

end Response
end Messenger.Rpc
