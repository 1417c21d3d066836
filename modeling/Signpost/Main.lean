import Signpost.CommandLine
import Signpost.Service

/-!
# The program

Reads the arguments, the settings file and the environment, and prints what a command gives.  There
are no sockets to listen on here, so serving ends where the service begins to listen.
-/

namespace Signpost.Main

open Signpost

/-- What is found under the path of a file. -/
def readFileState (path : String) : IO FileState := do
  try
    return .content (← IO.FS.readBinFile path).toList
  catch
    | .noFileOrDirectory .. => return .unreadable .missing
    | .inappropriateType none .. => return .unreadable .isDirectory
    | .inappropriateType .. => return .unreadable .notDirectory
    | .permissionDenied .. => return .unreadable .notAllowed
    | .invalidArgument .. => return .unreadable .nameTooLong
    | e => throw e

/-- The variable of the environment that may hold a log filter. -/
def filterVariableName : String := "RUST_LOG"

/-- A host without sockets. -/
def localHost (path : String) : IO Host := do
  return {
    settingsFile := ← readFileState path
    filterVariable := ← IO.getEnv filterVariableName
    bindFault? := fun _ => some .noSockets
    assignedPort := 0
    isReachable := false }

/-- Prints what a command gives. -/
def print (p : Printed) : IO UInt32 := do
  IO.print p.output
  IO.eprint p.remarks
  return UInt32.ofNat p.exitCode

/-- Runs the service, and prints its log. -/
def serve (path : String) : IO UInt32 := do
  let outcome := Service.run path (← localHost path) [] .terminate
  for event in outcome.events do
    IO.println (event.level.label ++ " " ++ event.text)
  match outcome.complaint with
  | some message => print (CommandLine.complain message)
  | none => return UInt32.ofNat outcome.exitCode

/-- Does what the arguments ask for. -/
def perform (i : Invocation) : IO UInt32 := do
  match i.command with
  | .serve => serve i.settingsPath
  | .check => print (CommandLine.check i.settingsPath (← readFileState i.settingsPath))
  | .resolve header => print (CommandLine.resolve header (← readFileState i.settingsPath))

end Signpost.Main

/-- The entry point. -/
def main (args : List String) : IO UInt32 := do
  match Signpost.CommandLine.read args with
  | .error interruption => Signpost.Main.print (Signpost.CommandLine.interrupted interruption)
  | .ok invocation => Signpost.Main.perform invocation
