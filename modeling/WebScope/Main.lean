import WebScope.Command.Outcome

/-!
# The command line program

Reads the file that a command names, runs the command, and prints what it gives.
-/

namespace WebScope

/-- The text of a file, if the file can be read and is a text. -/
def readContent (name : Text) : IO (Option (Option Text)) := do
  try
    let octets ← IO.FS.readBinFile (String.ofList name)
    return some (Utf8.decode? octets.toList)
  catch _ => return none

/-- Prints an outcome, and gives the exit status. -/
def report (o : Outcome) : IO UInt32 := do
  for w in o.warnings do
    IO.eprintln ("WARN " ++ String.ofList w.target ++ ": " ++ String.ofList w.message)
  IO.print (String.ofList o.output)
  match o.failure with
  | some message => IO.eprintln ("Error: " ++ String.ofList (Json.quote message))
  | none => pure ()
  return o.exit.toUInt32

end WebScope

open WebScope in
/-- Runs the command of the command line. -/
def main (args : List String) : IO UInt32 := do
  match Invocation.ofArguments? (args.map String.toList) with
  | none =>
    IO.eprintln "Usage: urlscope [--log-level LEVEL] <test|explain|scope|headers> ..."
    return Outcome.usageError.toUInt32
  | some i =>
    let content ← match i.command.file? with
      | some name => readContent name
      | none => pure none
    report (i.run content)
