import TreeAdapter.CommandLine.Report

/-!
# The command line

Reads the files that a command names and prints its report. Arguments that are no command end
with exit code 2.
-/

namespace TreeAdapter.CommandLine
set_option autoImplicit false

/-- The text of a file, or nothing when it cannot be read. -/
def readText (file : String) : IO (Option String) := do
  try
    return some (← IO.FS.readFile file)
  catch _ =>
    return none

def usage : String :=
  "Usage: tree-adapter [-v]... <COMMAND>\n\n" ++
    "  inspect --tree <FILE> --interfaces <FILE> --interface <NAME> --path <PATH> " ++
    "[--config <FILE>]\n" ++
    "  validate --interfaces <FILE> [--config <FILE>]\n"

def execute (command : Command) : IO UInt32 := do
  let texts ← command.files.mapM fun file => return (file, ← readText file)
  let report := run (fun file => (texts.lookup file).join) command
  IO.print report.output
  match report.failure with
  | some e => IO.eprintln ("Error: " ++ e.message)
  | none => pure ()
  return report.exitCode.toUInt32

end TreeAdapter.CommandLine

def main (args : List String) : IO UInt32 :=
  match TreeAdapter.CommandLine.parse args with
  | some command => TreeAdapter.CommandLine.execute command
  | none => do
    IO.eprint TreeAdapter.CommandLine.usage
    return 2
