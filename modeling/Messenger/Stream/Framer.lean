import Messenger.Stream.Line

set_option autoImplicit false

/-! # Framing events

Only the payload of an event named `receive` is wanted. A framer is armed by such a name and
disarmed by the payload it lets through, by an empty line and by any other name; other lines leave
it as it is. So each name releases at most one payload. -/

namespace Messenger.Stream

/-- Whether the next payload is wanted. -/
structure Framer where
  armed : Bool := false
deriving DecidableEq, Repr

namespace Framer

/-- The name of the events that are wanted. -/
def wanted : List Char := ['r', 'e', 'c', 'e', 'i', 'v', 'e']

/-- Take a line by its meaning: the payload it releases, and the framer after it. -/
def take (f : Framer) : Line → Option String × Framer
  | .event name => (none, ⟨Text.eqIgnoreCase name.toList wanted⟩)
  | .data payload => if f.armed then (some payload, ⟨false⟩) else (none, f)
  | .blank => (none, ⟨false⟩)
  | .keepAlive => (none, f)
  | .other => (none, f)

/-- Take a line of text. -/
def feed (f : Framer) (line : String) : Option String × Framer := f.take (Line.ofString line)

/-- The payloads that a list of lines releases, and the framer after them. -/
def feedAll (f : Framer) : List String → List String × Framer
  | [] => ([], f)
  | line :: lines =>
    let (payload, f) := f.feed line
    let (payloads, f) := feedAll f lines
    (payload.toList ++ payloads, f)

end Framer
end Messenger.Stream
