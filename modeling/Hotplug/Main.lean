import Hotplug.Identity
import Hotplug.Options.CommandLine
import Hotplug.Startup

/-!
# The command

Reads the command line, the environment and the file with the policy, and prints what server they
ask for.

## Main definitions

* `main` — the command.
-/

namespace Hotplug.Command

/-- The variables of the environment that stand in for flags. -/
def environment : IO (List (String × Option String)) :=
  Options.Flag.all.mapM fun flag => do
    return (flag.variableName, ← IO.getEnv flag.variableName)

/-- The text of a file, if there is one. -/
def textOf (path : String) : IO (Option String) := do
  try return some (← IO.FS.readFile path) catch _ => return none

/-- The policy that the options name; without a file everything is allowed. -/
def policyOf (o : Options) : IO (Except Config.Error Policy) := do
  match o.driverConfig with
  | none => return .ok Policy.permissive
  | some path => return Config.policyOrDefault path (← textOf path)

/-- Prints why the command line is not accepted, or what it asks for instead. -/
def refuse (r : Options.Refusal) : IO UInt32 := do
  match r with
  | .helpAsked =>
    Options.help.forM IO.println
    return 0
  | .versionAsked =>
    IO.println Identity.driverVersion
    return 0
  | _ =>
    IO.eprintln ("error: " ++ r.message)
    return 2

/-- Prints the server that the options ask for. -/
def report (o : Options) : IO UInt32 := do
  match Startup.of o (← policyOf o) with
  | .ok s =>
    s.lines.forM IO.println
    return 0
  | .error e =>
    IO.eprintln ("Error: " ++ e.message)
    return 1

end Hotplug.Command

open Hotplug in
/-- The command. -/
def main (args : List String) : IO UInt32 := do
  let env ← Command.environment
  match Options.parse args fun name => (env.lookup name).join with
  | .ok o => Command.report o
  | .error r => Command.refuse r
