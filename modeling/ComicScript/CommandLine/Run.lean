import ComicScript.CommandLine.Arguments
import ComicScript.Lint.Check
import ComicScript.Output.Suite
import ComicScript.Script.Load

/-!
# The command line

What a run answers, given the contents of its script: an exit status, what it says, and the files it writes. A run that
is refused writes no files; a run that crashes says and writes what it had said and written before.
-/

namespace ComicScript.CommandLine
set_option autoImplicit false

/-- The answer of a run. -/
structure Outcome where
  exit : Nat
  stdout : String
  stderr : String
  files : Files
  crash : Option Crash

/-- The directories that a run creates: those of its files. -/
def Outcome.directories (o : Outcome) : List Path :=
  o.files.map (·.1.parent)

/-- How the command line is used. -/
def usage : String :=
  "usage: comicscript [-h] [--out-dir DIR] [--format FORMAT] [--layouts] [--width PX] [--height PX]\n" ++
    "                   [--no-numbers] [--show-grid] [--strict] [--print-markdown] script\n"

/-- Lines on standard error. -/
def report (lines : List String) : String :=
  String.join (lines.map (· ++ "\n"))

/-- A run that fails with these lines. -/
def failure (lines : List String) : Outcome :=
  ⟨2, "", report lines, [], none⟩

/-- A run that crashes after these lines and files. -/
def crashed (lines : List String) (files : Files) (c : Crash) : Outcome :=
  ⟨1, "", report lines, files, some c⟩

/-- A line that tells of an error. -/
def errorLine (s : String) : String :=
  "error: " ++ s

/-- A line that tells of a warning. -/
def warningLine (s : String) : String :=
  "warning: " ++ s

/-- How a request draws its diagrams. -/
def Request.config (r : Request) : Config :=
  { width := .whole r.width, height := .whole r.height, showNumbers := !r.noNumbers, showGrid := r.showGrid }

/-- Where a request writes. -/
def Request.out (r : Request) : Path :=
  r.outDir.getD r.script.defaultOutput

/-- Writes a chapter as documents of some kinds. -/
def Request.writeDocuments (r : Request) (c : Chapter) : List Output → Writing Unit
  | [] => return
  | output :: rest => do
    let text ← output.render r.config c
    writeFile (r.out.child output.filename) (withFinalLineFeed text)
    r.writeDocuments c rest

/-- Writes the files of a chapter. -/
def Request.write (r : Request) (c : Chapter) : Writing Unit := do
  r.writeDocuments c r.outputs
  if r.layouts then
    let _ ← Suite.write r.config r.out Suite.usualName true c

/-- The answer for a chapter, after some lines on standard error. -/
def Request.finish (r : Request) (notes : List String) (c : Chapter) : Outcome :=
  if r.printMarkdown then ⟨0, (Markdown.document (.filled c)).text ++ "\n", report notes, [], none⟩
  else
    match (r.write c).run.run [] with
    | (.ok _, files) => ⟨0, "", report notes, files, none⟩
    | (.error c, files) => crashed notes files c

/-- Whether a diagram of this size has room inside its margins. -/
def Request.hasRoom (r : Request) : Bool :=
  2 * (margin : Int) < r.width && 2 * (margin : Int) < r.height

/-- The answer for a loaded script and the issues that lint finds in it. -/
def Request.judge (r : Request) (notes : List String) (entries : List (Value × Value)) (found : List Lint.Issue) :
    Outcome :=
  let errors := Lint.messages .error found
  let warnings := Lint.messages .warning found
  let notes := notes ++ warnings.map warningLine
  if !errors.isEmpty || (r.strict && !warnings.isEmpty) then failure (notes ++ errors.map errorLine)
  else if !r.hasRoom then
    failure (notes ++ [errorLine ("--width and --height must exceed " ++ toString (2 * margin) ++ "px")])
  else
    match Chapter.ofEntries entries with
    | .error (.refused e) => failure (notes ++ [errorLine e.message])
    | .error (.crashed c) => crashed notes [] c
    | .ok c => r.finish notes c

/-- The answer for a loaded script. -/
def Request.check (r : Request) (notes : List String) (entries : List (Value × Value)) : Outcome :=
  match Lint.issues {} (.map entries) with
  | .error c => crashed notes [] c
  | .ok found => r.judge notes entries found

/-- The answer for the text of a script. -/
def Request.answerText (r : Request) (raw : String) : Outcome :=
  let loaded := Script.loadEntries r.script.text true raw
  match loaded.outcome with
  | .error (.refused e) => failure (loaded.notes ++ [errorLine e.message])
  | .error (.crashed c) => crashed loaded.notes [] c
  | .ok entries => r.check loaded.notes entries

/-- The answer for the contents of a script file, none if there is no such file; contents that are no text have no
answer. -/
def Request.answer? (r : Request) (contents : Option ByteArray) : Option Outcome :=
  match contents with
  | none => some (failure [errorLine ("script not found: " ++ r.script.text)])
  | some bytes => (String.fromUTF8? bytes).map fun text => r.answerText (Text.unifyLineEnds text)

/-- The answer to a command that needs no script. -/
def helpOutcome : Outcome := ⟨0, usage, "", [], none⟩

/-- The answer to arguments that are refused. -/
def refusedOutcome : Outcome := ⟨2, "", usage, [], none⟩

/-- The script that a command reads, if it reads one. -/
def Command.script? : Command → Option Path
  | .run request => some request.script
  | _ => none

/-- The answer to a command, given the contents of the script that it reads. -/
def Command.answer? (command : Command) (contents : Option ByteArray) : Option Outcome :=
  match command with
  | .help => some helpOutcome
  | .refused => some refusedOutcome
  | .run request => request.answer? contents

end ComicScript.CommandLine
