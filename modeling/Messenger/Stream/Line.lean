import Messenger.Text.Ascii
import Messenger.Text.Blank

set_option autoImplicit false

/-! # Lines of the event stream

The daemon pushes events as lines of text. A line that starts with `event:` names the kind of the
event that follows, one that starts with `data:` carries its payload, an empty line ends a block,
and a lone colon keeps the connection alive. Field names are compared without regard to case;
everything else is passed over. -/

namespace Messenger.Stream

/-- A line by its meaning. -/
inductive Line where
  /-- A lone colon. -/
  | keepAlive
  /-- The name of an event, trimmed. -/
  | event (name : String)
  /-- A payload, without the space that may follow the colon. -/
  | data (payload : String)
  /-- The end of a block. -/
  | blank
  /-- Any other line. -/
  | other
deriving DecidableEq, Repr

/-- What follows a field name in a line, if the line starts with it up to the case of ASCII
letters. -/
def afterField (field : List Char) (line : List Char) : Option (List Char) :=
  if Text.eqIgnoreCase (line.take field.length) field then some (line.drop field.length) else none

/-- The start of a line that names an event. -/
def eventField : List Char := ['e', 'v', 'e', 'n', 't', ':']

/-- The start of a line that carries a payload. -/
def dataField : List Char := ['d', 'a', 't', 'a', ':']

/-- The characters without one space at their front. -/
def dropSpace : List Char → List Char
  | ' ' :: cs => cs
  | cs => cs

/-- The meaning of a line, given without its end. -/
def Line.ofString (line : String) : Line :=
  let cs := line.toList
  if cs.isEmpty then .blank
  else if cs = [':'] then .keepAlive
  else match afterField eventField cs with
    | some name => .event (Text.trim (String.ofList name))
    | none => match afterField dataField cs with
      | some payload => .data (String.ofList (dropSpace payload))
      | none => .other

end Messenger.Stream
