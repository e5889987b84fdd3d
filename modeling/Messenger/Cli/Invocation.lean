import Messenger.Cli.Arguments
import Messenger.Gateway.Delivery
import Messenger.Text.Ascii

set_option autoImplicit false

/-! # Invocations

What the program is told to do: one command with its options, and options that change settings and
may stand before the command or after it. -/

namespace Messenger.Cli

/-- Persons and groups to whom something is sent. -/
structure Audience where
  recipients : List String
  groups : List String
deriving DecidableEq, Repr

/-- A text to send, as it is given. -/
structure TextOptions where
  account : String
  message : String
  audience : Audience
  /-- The timestamp and the author of a message to quote. -/
  quoted : Option (Int64 × String)
  quoteMessage : String
  /-- The path of a file to attach. -/
  attachment : Option String
  mimeType : String
deriving DecidableEq, Repr

/-- A command. -/
inductive Command where
  | version
  /-- Print messages as they arrive, perhaps of one account only. -/
  | listen (account : Option String)
  | send (options : TextOptions)
  | react (account : String) (content : Outgoing) (audience : Audience)
  | delete (account : String) (content : Outgoing) (audience : Audience)
  | groups (account : String)
  | identities (account : String)
  /-- Call a method with parameters in JSON. -/
  | call (method params : String)
deriving DecidableEq, Repr

/-- What the program is told. -/
structure Invocation where
  url : Option String
  logLevel : Option String
  settings : Option String
  command : Command
deriving DecidableEq, Repr

/-- The options that change settings. -/
def settingOptions : List Opt := [⟨"url", true, false⟩, ⟨"log-level", true, false⟩,
  ⟨"settings", true, false⟩]

/-- The options that say to whom something is sent. -/
def audienceOptions : List Opt := [⟨"to", true, true⟩, ⟨"group", true, true⟩]

/-- Single values. -/
def valued (names : List String) : List Opt := names.map fun n => ⟨n, true, false⟩

/-- The commands and their options. -/
def commands : List (String × List Opt) :=
  [("version", []), ("listen", valued ["account"]),
    ("send", valued ["account", "message", "quote-timestamp", "quote-author", "quote-message",
      "attach", "mime"] ++ audienceOptions),
    ("react", valued ["account", "emoji", "target-author", "target-timestamp"]
      ++ [⟨"remove", false, false⟩] ++ audienceOptions),
    ("delete", valued ["account", "target-timestamp"] ++ audienceOptions),
    ("groups", valued ["account"]), ("identities", valued ["account"]), ("rpc", [])]

namespace Given

/-- The value of a required option. -/
def required (g : Given) (name : String) : Except Refusal String :=
  match g.get? name with
  | some v => .ok v
  | none => .error .misused

/-- The signed word that a text writes. -/
def timestampOf (text : String) : Except Refusal Int64 :=
  match Text.signed? text.toList with
  | some n => if Json.Value.isSigned n then .ok (Int64.ofInt n) else .error .misused
  | none => .error .misused

/-- The value of an option for a path, which may not be empty. -/
def path (g : Given) (name : String) : Except Refusal (Option String) :=
  match g.get? name with
  | some "" => .error .misused
  | v => .ok v

/-- To whom something is sent. -/
def audience (g : Given) : Audience := ⟨g.all "to", g.all "group"⟩

/-- The message to quote: its timestamp and its author are given both or not at all. -/
def quoted (g : Given) : Except Refusal (Option (Int64 × String)) :=
  match g.get? "quote-timestamp", g.get? "quote-author" with
  | some t, some author => do return some (← timestampOf t, author)
  | none, none => .ok none
  | _, _ => .error .misused

/-- The text to send. -/
def textOptions (g : Given) : Except Refusal TextOptions := do
  return {
    account := ← g.required "account"
    message := ← g.required "message"
    audience := g.audience
    quoted := ← g.quoted
    quoteMessage := (g.get? "quote-message").getD ""
    attachment := ← g.path "attach"
    mimeType := (g.get? "mime").getD "application/octet-stream" }

/-- The command with a name. -/
def command (name : String) (g : Given) : Except Refusal Command :=
  match name, g.operands with
  | "version", [] => .ok .version
  | "listen", [] => .ok (.listen (g.get? "account"))
  | "send", [] => do return .send (← g.textOptions)
  | "react", [] => do
    let content := .reaction (← g.required "emoji") (← g.required "target-author")
      (← timestampOf (← g.required "target-timestamp")) (g.has "remove")
    return .react (← g.required "account") content g.audience
  | "delete", [] => do
    let content := .deletion (← timestampOf (← g.required "target-timestamp"))
    return .delete (← g.required "account") content g.audience
  | "groups", [] => do return .groups (← g.required "account")
  | "identities", [] => do return .identities (← g.required "account")
  | "rpc", [method] => .ok (.call method "\x7b\x7d")
  | "rpc", [method, params] => .ok (.call method params)
  | _, _ => .error .misused

end Given

/-- Why nothing is carried out for the command `help`: it helps with the program or one command. -/
def helpOn : List String → Refusal
  | [] => .help
  | [name] => if name = "help" || (commands.lookup name).isSome then .help else .misused
  | _ => .misused

/-- The invocation that arguments are. An option that changes settings may be given before the
command and after it; then the later one counts. -/
def Invocation.ofArguments (arguments : List String) : Except Refusal Invocation := do
  let (before, name, rest) ← readToCommand settingOptions {} none arguments
  if name = "help" then .error (helpOn rest)
  match commands.lookup name with
  | none => .error .misused
  | some opts => do
    let after ← readAll (settingOptions ++ opts) {} none rest
    let _ ← before.path "settings"
    return {
      url := (after.get? "url").or (before.get? "url")
      logLevel := (after.get? "log-level").or (before.get? "log-level")
      settings := (← after.path "settings").or (before.get? "settings")
      command := ← after.command name }

end Messenger.Cli
