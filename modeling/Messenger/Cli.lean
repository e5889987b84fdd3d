import Messenger.Cli.Invocation
import Messenger.Gateway
import Messenger.Message.Codec
import Messenger.Settings.Layers

set_option autoImplicit false

/-! # The program

The program reads its settings, makes a gateway, carries out one command and ends. What it prints is
text or JSON; when something fails it says so in one line and ends with a code. -/

namespace Messenger.Cli

open Json

/-- What the program finds around it. -/
structure Surroundings where
  environment : Environment
  file : String → File
  /-- How often listening connects before it is interrupted. -/
  attempts : Nat

/-- What the program leaves behind. -/
structure Outcome where
  code : Nat
  /-- The printed lines. -/
  output : List String
  /-- Why it failed, in one text. -/
  failure : Option String := none
deriving DecidableEq, Repr

/-- The end of a program that is not understood, or that only helps. -/
def Refusal.outcome : Refusal → Outcome
  | .misused => { code := 2, output := [] }
  | .help => { code := 0, output := [] }

/-- Where the settings file is. -/
def Invocation.settingsPath (i : Invocation) (env : Environment) : String :=
  i.settings.getD (Settings.path (env "HOME"))

/-- The paths of the files that an invocation may read. -/
def Invocation.paths (i : Invocation) (env : Environment) : List String :=
  i.settingsPath env :: match i.command with
    | .send o => o.attachment.toList
    | _ => []

/-- The settings for an invocation: those of the file and the environment, and over them the options
that were given. -/
def Invocation.loadSettings (i : Invocation) (s : Surroundings) : Except String Settings := do
  let path := i.settingsPath s.environment
  let loaded ← (Settings.load (s.file path) s.environment).2.mapError
    fun _ => "Failed to load settings from " ++ path
  return { loaded with
    daemonUrl := i.url.getD loaded.daemonUrl
    logging := { loaded.logging with level := i.logLevel.getD loaded.logging.level } }

/-- The attachment of a text. -/
def TextOptions.attached (o : TextOptions) (s : Surroundings) :
    Except String (Option Attachment) :=
  match o.attachment with
  | none => .ok none
  | some path => match (s.file path).content? with
    | some content => .ok (some (.ofBytes o.mimeType (File.nameOf path) content))
    | none => .error ("Failed to read attachment: " ++ path)

/-- The delivery of a text. -/
def TextOptions.delivery (o : TextOptions) (s : Surroundings) : Except String Delivery := do
  let quote := o.quoted.map fun (timestamp, author) =>
    { timestamp, author, message := o.quoteMessage, mention := none : Quote }
  return {
    account := o.account
    content := .text o.message quote (← o.attached s)
    recipients := o.audience.recipients
    groups := o.audience.groups }

/-- The listener that prints is registered under this handle. -/
def printer : ListenerId := ⟨"printer"⟩

/-- A listener that accepts every message. -/
def acceptAll : Listener Message where
  label := printer.text
  react _ _ := ([], .accepted)

/-- The line for a message that was handed to the printer, unless only another account's messages
are wanted. -/
def printedLine (account : Option String) : Notice Message → Option String
  | .handed _ _ m => if account.all (· == m.account) then some m.toJson.compact else none
  | _ => none

variable {δ : Type}

/-- What carrying out a command yields: the printed lines or a failure, and the gateway after it. -/
abbrev Carried (δ : Type) := Except String (List String) × Gateway δ

/-- A value as printed lines. -/
def printed (v : Value) : List String := [v.sorted.indented]

/-- What an action on an enabled gateway yields: a value to print or a failure. -/
abbrev Answered (δ : Type) := Except String Value × Gateway δ

/-- The answer that a gateway gave. -/
def answered {α : Type} (toJson : α → Value) :
    Gateway.Result δ (Except GatewayError α) → Answered δ
  | (result, _, g) => ((result.map toJson).mapError GatewayError.message, g)

/-- Enable calls, then act and print the answer. -/
def withCalls (d : Daemon δ) (g : Gateway δ) (act : Gateway δ → Answered δ) : Carried δ :=
  match g.enableCalls d with
  | (.error e, _, g) => (.error e.message, g)
  | (.ok _, _, g) =>
    let (answer, g) := act g
    (answer.map printed, g)

/-- Send something, unless making it fails. -/
def deliver (d : Daemon δ) (delivery : Except String Delivery) (g : Gateway δ) : Answered δ :=
  match delivery with
  | .error e => (.error e, g)
  | .ok delivery => answered .arr (g.send d delivery)

/-- Print messages until the interruption. -/
def listen (d : Daemon δ) (attempts : Nat) (account : Option String) (g : Gateway δ) :
    Carried δ :=
  match g.enable d with
  | (.error e, _, g) => (.error e.message, g)
  | (.ok _, _, g) =>
    let (_, notices, g) := g.register printer acceptAll
    let (more, g) := g.listen d attempts
    let (_, _, g) := g.unregister printer
    (.ok ((notices ++ more).filterMap (printedLine account)), g)

/-- Carry out a command. -/
def carryOut (d : Daemon δ) (s : Surroundings) (g : Gateway δ) : Command → Carried δ
  | .version => match g.version d with
    | (some version, _, g) => (.ok [version], g)
    | (none, _, g) => (.error ("Could not obtain version from " ++ g.address), g)
  | .listen account => listen d s.attempts account g
  | .send o => withCalls d g (deliver d (o.delivery s))
  | .react account content audience =>
    withCalls d g (deliver d (.ok ⟨account, content, audience.recipients, audience.groups⟩))
  | .delete account content audience =>
    withCalls d g (deliver d (.ok ⟨account, content, audience.recipients, audience.groups⟩))
  | .groups account =>
    withCalls d g fun g => answered (Directory.toJson Group.toJson) (g.groupsOf d account)
  | .identities account =>
    withCalls d g fun g => answered (Directory.toJson Identity.toJson) (g.identitiesOf d account)
  | .call method params => match Value.parse params with
    | .error _ => (.error "Params are not valid JSON", g)
    | .ok params => withCalls d g fun g => answered id (g.call d method params none)

/-- Run the program: what it leaves behind, and the daemon after it. -/
def run (d : Daemon δ) (s : Surroundings) (arguments : List String) (daemon : δ) : Outcome × δ :=
  match Invocation.ofArguments arguments with
  | .error refusal => (refusal.outcome, daemon)
  | .ok invocation => match invocation.loadSettings s with
    | .error e => ({ code := 1, output := [], failure := some e }, daemon)
    | .ok settings => match Gateway.create settings {} daemon with
      | .error _ =>
        ({ code := 1, output := [], failure := some "Failed to create gateway" }, daemon)
      | .ok g => match carryOut d s g invocation.command with
        | (.error e, g) => ({ code := 1, output := [], failure := some e }, g.link.daemon)
        | (.ok lines, g) => ({ code := 0, output := lines }, g.link.daemon)

end Messenger.Cli
