import Messenger.Url

set_option autoImplicit false

/-! # The addresses of a daemon

A daemon is known by one base address. Calls and the event stream have addresses of their own, which
are made by appending a path to the text of the base address. -/

namespace Messenger

/-- The addresses of a daemon. -/
structure Endpoint where
  base : Url
  /-- Where calls go. -/
  rpc : Url
  /-- Where the event stream comes from. -/
  events : Url
deriving DecidableEq, Repr

/-- Why a text is no base address. -/
inductive EndpointError where
  | invalid (given : String) (fault : Url.Fault)
  | unsupportedScheme (scheme : String)
deriving DecidableEq, Repr

/-- The wording of a failure. -/
def EndpointError.message : EndpointError → String
  | .invalid given fault => "invalid daemon URL '" ++ given ++ "': " ++ fault.message
  | .unsupportedScheme scheme => "unsupported daemon URL scheme '" ++ scheme ++ "'"

namespace Endpoint

/-- The schemes of daemons. -/
def schemes : List String := ["http", "https"]

/-- The path of calls. -/
def rpcPath : String := "/api/v1/rpc"

/-- The path of the event stream. -/
def eventsPath : String := "/api/v1/events"

/-- A base address without what does not matter at its ends. -/
def normalize (given : String) : String := Text.trimEnd '/' (Text.trim given)

/-- The address that a text is; a failure shows the text that was given. -/
def address (given text : String) : Except EndpointError Url :=
  match Url.parse text with
  | .error fault => .error (.invalid given fault)
  | .ok (.other scheme) => .error (.unsupportedScheme scheme)
  | .ok (.web url) =>
    if schemes.contains url.scheme then .ok url else .error (.unsupportedScheme url.scheme)

/-- The addresses of the daemon at a base address. -/
def parse (given : String) : Except EndpointError Endpoint := do
  let text := normalize given
  return {
    base := ← address given text
    rpc := ← address given (text ++ rpcPath)
    events := ← address given (text ++ eventsPath) }

/-- The base address as it is shown. -/
def display (e : Endpoint) : String := Text.trimEnd '/' e.base.text

end Endpoint
end Messenger
