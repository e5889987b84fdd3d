import Messenger.Json.Read
import Messenger.Text.Ascii

set_option autoImplicit false

/-! # Failures of a call

A call fails either because the daemon says so, in a reply that answers the request, or because no
such reply was obtained. Only the former carries a code and a message of the daemon. -/

namespace Messenger.Rpc

open Json

/-- How a reply breaks the protocol. -/
inductive Violation where
  | notAnObject
  | missingVersion
  | wrongVersion (version : String)
deriving DecidableEq, Repr

/-- Why a call failed. -/
inductive Error where
  /-- No reply was received. -/
  | unreachable
  /-- The reply has a status other than success. -/
  | refused (status : Nat) (body : String)
  /-- The reply is not JSON, or not of the expected shape. -/
  | undecodable (fault : Fault)
  | violation (v : Violation)
  /-- The reply answers another request, or none. -/
  | wrongId (expected : String) (actual : Option String)
  /-- The daemon reports that it failed. -/
  | server (code : Int64) (message : String)
deriving DecidableEq, Repr

/-- The wording of a violation. -/
def Violation.message : Violation → String
  | .notAnObject => "response is not a JSON object"
  | .missingVersion => "response has no jsonrpc tag"
  | .wrongVersion v => "unexpected jsonrpc version '" ++ v ++ "'"

/-- A character inside the quotes in which an identifier is shown. -/
def quotedChar (c : Char) : List Char :=
  if c = '"' then ['\\', '"']
  else if c = '\\' then ['\\', '\\']
  else if c = '\n' then ['\\', 'n']
  else if c = '\r' then ['\\', 'r']
  else if c = '\t' then ['\\', 't']
  else if c = '\x00' then ['\\', '0']
  else if c.toNat < 0x20 || c.toNat == 0x7F then
    ['\\', 'u', '\x7b'] ++ Nat.toDigits 16 c.toNat ++ ['\x7d']
  else [c]

/-- How an identifier is shown that may be missing. -/
def shownId : Option String → String
  | none => "None"
  | some id => "Some(\"" ++ String.ofList (id.toList.flatMap quotedChar) ++ "\")"

namespace Error

/-- Whether the daemon itself reported the failure. -/
def isServer : Error → Bool
  | .server .. => true
  | _ => false

/-- Whether no trustworthy reply was obtained. -/
def isTransport (e : Error) : Bool := !e.isServer

/-- The code of a failure that the daemon reported. -/
def serverCode? : Error → Option Int64
  | .server code _ => some code
  | _ => none

/-- The wording of a failure. What a network or a reader would add stays open. -/
def message : Error → String
  | .unreachable => "HTTP error: "
  | .refused status body => "daemon returned HTTP " ++ toString status ++ ": " ++ body
  | .undecodable _ => "JSON error: "
  | .violation v => "protocol violation: " ++ v.message
  | .wrongId expected actual =>
    "response id mismatch: expected " ++ expected ++ ", got " ++ shownId actual
  | .server code m => "server error " ++ toString code.toInt ++ ": " ++ m

end Error
end Messenger.Rpc
