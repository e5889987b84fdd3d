import Messenger.Json.Decode
import Messenger.Text.Base64
import Messenger.Text.Percent

set_option autoImplicit false

/-! # Extras of outbound messages

A message that is sent may quote an earlier one and may carry a file. The file travels inside the
request, as a data address whose parts are separated by semicolons; its name is encoded so that it
can hold none of them. -/

namespace Messenger

open Json

/-- A reference to an earlier message. -/
structure Quote where
  timestamp : Int64
  author : String
  message : String
  /-- A mention inside the quoted text. -/
  mention : Option String
deriving DecidableEq, Repr

/-- A file to send. -/
structure Attachment where
  mimeType : String
  filename : String
  base64Content : String
deriving DecidableEq, Repr

namespace Quote

/-- The fields of a quote while it is read. -/
structure Draft where
  timestamp : Option Int64 := none
  author : Option String := none
  message : Option String := none
  mention : Option (Option String) := none

open Decoder (field required) in
/-- How a quote is written. -/
def shape : Decoder.Shape Draft Quote where
  empty := {}
  fields :=
    [field ["timestamp"] .int64 (·.timestamp.isSome) fun a d => { d with timestamp := some a },
      field ["author"] .string (·.author.isSome) fun a d => { d with author := some a },
      field ["message"] .string (·.message.isSome) fun a d => { d with message := some a },
      field ["mention"] (.option .string) (·.mention.isSome) fun a d =>
        { d with mention := some a }]
  finish d := do
    return {
      timestamp := ← required d.timestamp
      author := ← required d.author
      message := ← required d.message
      mention := d.mention.join }
  positional := true

/-- The quote that a value is. -/
def ofJson (v : Value) : Except Fault Quote := shape.ofValue v

/-- The quote that a text is. -/
def ofText (s : String) : Except Fault Quote := Decoder.ofText shape.decoder s

/-- A quote as JSON. -/
def toJson (q : Quote) : Value :=
  .obj ([("timestamp", .ofInt64 q.timestamp), ("author", .str q.author),
    ("message", .str q.message)]
  ++ match q.mention with
    | none => []
    | some m => [("mention", .str m)])

end Quote

namespace Attachment

/-- The attachment of a file with some content. -/
def ofBytes (mimeType filename : String) (content : List UInt8) : Attachment :=
  { mimeType, filename, base64Content := String.ofList (Text.Base64.encode content) }

/-- The file name as it stands in the descriptor. -/
def encodedName (filename : String) : List Char :=
  Text.Percent.encode Text.Percent.admittedInName (Text.toUtf8 filename)

/-- The descriptor under which a file is sent. -/
def descriptor (a : Attachment) : String :=
  "data:" ++ a.mimeType ++ ";filename=" ++ String.ofList (encodedName a.filename)
    ++ ";charset=utf8;base64," ++ a.base64Content

/-- An attachment as JSON. -/
def toJson (a : Attachment) : Value :=
  .obj [("mimeType", .str a.mimeType), ("filename", .str a.filename),
    ("base64Content", .str a.base64Content)]

end Attachment
end Messenger
