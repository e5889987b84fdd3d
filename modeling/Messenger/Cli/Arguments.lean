set_option autoImplicit false

/-! # Reading arguments

A list of arguments is read against the options that are known: each has a long name, and takes a
value or not. A value follows its option as the next argument, which then may not look like an
option, or after an equals sign, where it may be anything. Only an option that may be repeated is
given twice. After two hyphens every argument stands for itself. -/

namespace Messenger.Cli

/-- An option. -/
structure Opt where
  name : String
  takesValue : Bool := true
  repeats : Bool := false
deriving Repr

/-- Why there is nothing to carry out. -/
inductive Refusal where
  /-- The arguments are not understood. -/
  | misused
  /-- Help is asked for. -/
  | help
deriving DecidableEq, Repr

/-- An argument by its form. -/
inductive Word where
  /-- Two hyphens. -/
  | separator
  /-- Two hyphens and a name, and the value after an equals sign, if there is one. -/
  | long (name : String) (value : Option String)
  /-- One hyphen and something else. -/
  | short (name : String)
  | plain (text : String)
deriving DecidableEq, Repr

/-- The form of an argument. A single hyphen is plain. -/
def Word.ofString (s : String) : Word :=
  match s.toList with
  | ['-', '-'] => .separator
  | '-' :: '-' :: cs =>
    match cs.dropWhile (· != '=') with
    | [] => .long (String.ofList cs) none
    | _ :: value =>
      .long (String.ofList (cs.takeWhile (· != '='))) (some (String.ofList value))
  | '-' :: c :: cs => .short (String.ofList (c :: cs))
  | _ => .plain s

/-- What was given: values of options, in order, and arguments that stand for themselves. An option
without a value has the empty text. -/
structure Given where
  options : List (String × String) := []
  operands : List String := []
deriving Repr

namespace Given

/-- The values of an option. -/
def all (g : Given) (name : String) : List String :=
  g.options.filterMap fun o => if o.1 = name then some o.2 else none

/-- The first value of an option. -/
def get? (g : Given) (name : String) : Option String := (g.all name).head?

/-- Whether an option was given. -/
def has (g : Given) (name : String) : Bool := !(g.all name).isEmpty

/-- Add a value of an option, unless the option was given before and may not be repeated. -/
def add (g : Given) (o : Opt) (value : String) : Except Refusal Given :=
  if g.has o.name && !o.repeats then .error .misused
  else .ok { g with options := g.options ++ [(o.name, value)] }

/-- Add an argument that stands for itself. -/
def addOperand (g : Given) (text : String) : Given := { g with operands := g.operands ++ [text] }

end Given

/-- The options that ask for help. -/
def asksForHelp : Word → Bool
  | .long name value => name = "help" && value.isNone
  | .short name => name.startsWith "h"
  | _ => false

/-- Take an option with what follows it: the value, or nothing if it is still to come. -/
def takeOption (opts : List Opt) (g : Given) (name : String) (value : Option String) :
    Except Refusal (Given × Option Opt) :=
  match opts.find? (·.name = name) with
  | none => .error .misused
  | some o => match o.takesValue, value with
    | true, some v => do return (← g.add o v, none)
    | true, none => .ok (g, some o)
    | false, none => do return (← g.add o "", none)
    | false, some _ => .error .misused

/-- Read options up to the name of a command, and return what follows the name. `pending` is an
option that waits for its value. -/
def readToCommand (opts : List Opt) (g : Given) (pending : Option Opt) :
    List String → Except Refusal (Given × String × List String)
  | [] => .error .misused
  | a :: as => match Word.ofString a, pending with
    | .plain v, some o => do readToCommand opts (← g.add o v) none as
    | .plain name, none => .ok (g, name, as)
    | .long name value, none => do
      if asksForHelp (.long name value) then .error .help
      let (g, pending) ← takeOption opts g name value
      readToCommand opts g pending as
    | w, none => .error (if asksForHelp w then .help else .misused)
    | _, some _ => .error .misused

/-- Read the arguments of a command. -/
def readAll (opts : List Opt) (g : Given) (pending : Option Opt) :
    List String → Except Refusal Given
  | [] => if pending.isSome then .error .misused else .ok g
  | a :: as => match Word.ofString a, pending with
    | .plain v, some o => do readAll opts (← g.add o v) none as
    | .plain text, none => readAll opts (g.addOperand text) none as
    | .separator, none => .ok { g with operands := g.operands ++ as }
    | .long name value, none => do
      if asksForHelp (.long name value) then .error .help
      let (g, pending) ← takeOption opts g name value
      readAll opts g pending as
    | w, none => .error (if asksForHelp w then .help else .misused)
    | _, some _ => .error .misused

end Messenger.Cli
