import ComicScript.CommandLine.Run

/-!
# The program

Reads the script of a request, and says and writes what the command line answers.
-/

namespace ComicScript.CommandLine
set_option autoImplicit false

/-- The contents of a file, none if there is no such file. -/
def readFile? (path : String) : IO (Option ByteArray) := do
  try
    return some (← IO.FS.readBinFile path)
  catch e =>
    match e with
    | .noFileOrDirectory _ _ _ => return none
    | e => throw e

/-- Says and writes an answer. -/
def Outcome.perform (o : Outcome) : IO UInt32 := do
  IO.eprint o.stderr
  IO.print o.stdout
  for directory in o.directories do
    IO.FS.createDirAll directory.text
  for (path, text) in o.files do
    IO.FS.writeFile path.text text
  return UInt32.ofNat o.exit

/-- Runs the program. -/
def run (args : List String) : IO UInt32 := do
  let command := read args
  let contents ←
    match command.script? with
    | some script => readFile? script.text
    | none => pure none
  match command.answer? contents with
  | some outcome => outcome.perform
  | none => throw (IO.userError "the script is not UTF-8")

end ComicScript.CommandLine

def main (args : List String) : IO UInt32 :=
  ComicScript.CommandLine.run args
