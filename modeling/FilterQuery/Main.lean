import FilterQuery.CommandLine
import FilterQuery.Pattern.Compile
import FilterQuery.Value.Json

/-!
# The program

Reads the manifest file that a command names, runs the command and prints what it answers. Markup is
printed without being drawn, and the cells of a table are separated by tabs.
-/

namespace FilterQuery.Program

open CommandLine

/-- What is found under a file name. -/
def readState (path : String) : IO FileState := do
  try
    return .text (← IO.FS.readFile path)
  catch
    | .noFileOrDirectory .. => return .absent
    | _ => return .directory

/-- A supply of random ids. -/
def randomIds : IO (Nat → String) := do
  let bytes ← IO.getRandomBytes 12
  let seed := bytes.toList.flatMap fun b => hexDigits 2 b.toNat
  return fun n => String.ofList (seed ++ '-' :: hexDigits 8 n)

/-- Prints one item of an answer. -/
def printOutput : Output → IO Unit
  | .markup text | .line text => IO.println text
  | .errorLine text => IO.eprintln text
  | .json v => IO.println v.json
  | .table title columns rows => do
      IO.println title
      for row in columns :: rows do
        IO.println ("\t".intercalate row)

/-- The only file a command may read. -/
def filesOf (invocation : Invocation) : IO (String → FileState) := do
  match invocation with
  | .command c =>
      let path := manifestPath c.config
      let state ← readState path
      return fun name => if name = path then state else .absent
  | _ => return fun _ => .absent

end FilterQuery.Program

open FilterQuery in
def main (arguments : List String) : IO UInt32 := do
  let files ← Program.filesOf (CommandLine.readInvocation arguments)
  match CommandLine.run .standard arguments files (← Program.randomIds) with
  | .ok outcome =>
      for item in outcome.output do
        Program.printOutput item
      return outcome.exitCode.toUInt32
  | .error fault =>
      IO.eprintln fault.message
      return 1
