import SolidDrawing.CommandLine

/-!
# The program

Runs one job from a file or from the standard input. The report goes to the standard output, errors to the standard
error.
-/

namespace SolidDrawing

/-- An action of the operating system, with its failure as a text. -/
def attempt {α : Type} (action : IO α) : ExceptT String IO α :=
  ExceptT.mk do
    try return .ok (← action)
    catch e => return .error (toString e)

/-- The files of the operating system. -/
def systemFiles (directory : String) : FileSystem IO :=
  { directory
    read := fun p => attempt (IO.FS.readFile p.text)
    makeDirectories := fun p => attempt (IO.FS.createDirAll p.text)
    write := fun p bytes => attempt (IO.FS.writeBinFile p.text (ByteArray.mk bytes.toArray)) }

/-- Reads the standard input to its end. -/
def readInput : IO String := do (← IO.getStdin).readToEnd

/-- What is said about arguments that ask for nothing. -/
def usageError : String := "error: the arguments are not understood\n\nFor more information, try '--help'."

end SolidDrawing

open SolidDrawing in
/-- Carries out the arguments, prints the report and the error, and gives the exit code. -/
def main (args : List String) : IO UInt32 := do
  let directory := (← IO.currentDir).toString
  let environment ← IO.getEnv "RUST_LOG"
  let outcome ← CommandLine.execute (systemFiles directory) (attempt readInput) .numbered environment args
  IO.print outcome.output
  match outcome.logged with
  | some e => IO.eprintln ("ERROR " ++ CommandLine.logName ++ ": " ++ CommandLine.logText e)
  | none => if outcome.exitCode == 2 then IO.eprintln usageError
  return outcome.exitCode.toUInt32
