import Messenger.Cli

set_option autoImplicit false

/-! # The command line

The program of `Messenger.Cli` as a process: the arguments, the environment and the files it reads
are gathered first, then it runs, then its lines are printed. No network is at hand here, so every
daemon is out of reach. -/

namespace Messenger.Cli

/-- The variables of the environment that the program reads. -/
def variableNames : List String := "HOME" :: Settings.overrides.map (·.name)

/-- The environment, as far as the program reads it. -/
def environment : IO Environment := do
  let values ← variableNames.mapM fun name => return (name, ← IO.getEnv name)
  return fun name => (values.lookup name).join

/-- What is found under a path. -/
def readFile (path : String) : IO File := do
  try
    return .bytes (← IO.FS.readBinFile path).toList
  catch
    | .noFileOrDirectory .. => return .absent
    | _ => return .unreadable

/-- The files that an invocation may read. -/
def filesFor (arguments : List String) (env : Environment) : IO (String → File) := do
  let paths := match Invocation.ofArguments arguments with
    | .ok invocation => invocation.paths env
    | .error _ => []
  let files ← paths.mapM fun path => return (path, ← readFile path)
  return fun path => (files.lookup path).getD .absent

end Messenger.Cli

open Messenger Cli in
/-- Run the program. -/
def main (arguments : List String) : IO UInt32 := do
  let env ← environment
  let surroundings : Surroundings := ⟨env, ← filesFor arguments env, 1⟩
  let (outcome, _) := run Daemon.unreachable surroundings arguments ()
  outcome.output.forM fun line => IO.println line
  if let some failure := outcome.failure then IO.eprintln ("Error: " ++ failure)
  return UInt32.ofNat outcome.code
