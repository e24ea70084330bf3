/-
# DeclCheck.Main — the program: read the files that the arguments name, and print the result.
-/
import DeclCheck.CommandLine

namespace DeclCheck

/-- The text of a file, if it can be read. -/
def readFile? (path : String) : IO (Option String) := do
  try
    return some (← IO.FS.readFile path)
  catch _ => return none

/-- Everything that an invocation may look at. -/
def Invocation.gather : Invocation → IO (List (String × Option String))
  | .run command => command.paths.mapM fun path => do return (path, ← readFile? path)
  | _ => return []

end DeclCheck

open DeclCheck in
/-- Run the program: read what the invocation names, carry it out, and print both streams. -/
def main (arguments : List String) : IO UInt32 := do
  let invocation := Invocation.ofArguments arguments
  let contents ← invocation.gather
  let result := invocation.execute fun path => (contents.lookup path).join
  IO.print result.output
  IO.eprint result.complaint
  return result.exitCode.toUInt32
