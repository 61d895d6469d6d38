import ComicScript.Decimal.Integer
import ComicScript.Output.Kind
import ComicScript.Output.Path

/-!
# Command-line arguments

One script and options in any order. A long option may be shortened as long as it stays unique, and its value may follow
an equals sign or be the next argument; two dashes end the options. Anything left over is refused. Help is given as soon
as it is asked for, unless something before is wrong or an option anywhere is ambiguous.
-/

namespace ComicScript.CommandLine
set_option autoImplicit false

/-- An option. -/
inductive Switch
  | help
  | outDir
  | format
  | layouts
  | width
  | height
  | noNumbers
  | showGrid
  | strict
  | printMarkdown
  deriving DecidableEq, Repr

/-- The options by name. -/
def switches : List (String × Switch) :=
  [("-h", .help), ("--help", .help), ("--out-dir", .outDir), ("--format", .format), ("--layouts", .layouts),
    ("--width", .width), ("--height", .height), ("--no-numbers", .noNumbers), ("--show-grid", .showGrid),
    ("--strict", .strict), ("--print-markdown", .printMarkdown)]

/-- Whether an option has a value. -/
def Switch.hasValue : Switch → Bool
  | .outDir => true
  | .format => true
  | .width => true
  | .height => true
  | _ => false

/-- What a user asks for. -/
structure Request where
  script : Path
  outDir : Option Path
  outputs : List Output
  layouts : Bool
  width : Int
  height : Int
  noNumbers : Bool
  showGrid : Bool
  strict : Bool
  printMarkdown : Bool
  deriving DecidableEq, Repr

/-- How arguments end: with a request, with help, or refused. -/
inductive Command
  | run (request : Request)
  | help
  | refused
  deriving DecidableEq, Repr

/-- One argument: a text, the two dashes that end the options, or an option with the value that is written with it. An
option that is not known is left over. -/
inductive Argument
  | plain (s : String)
  | separator
  | option (switch : Switch) (value : Option String)
  | cluster (letters : List Char)
  | unknown
  deriving DecidableEq, Repr

/-- The parts around the first equals sign, if there is one. -/
def splitValue (s : List Char) : String × Option String :=
  let name := s.takeWhile (· != '=')
  (String.ofList name, if '=' ∈ s then some (String.ofList (s.drop (name.length + 1))) else none)

/-- A decimal digit of any script. -/
def isDigit (c : Char) : Bool :=
  (Text.digit? c).isSome

/-- Whether an argument is a negative number: digits, or digits around a point, after a dash. -/
def isNegativeNumber : List Char → Bool
  | '-' :: rest =>
    let rest := Text.Chars.dropFinalLineFeed rest
    match rest.dropWhile isDigit with
    | [] => !rest.isEmpty
    | '.' :: places => !places.isEmpty && places.all isDigit
    | _ => false
  | _ => false

/-- The option that a name stands for. -/
def switch? (name : String) : Option Switch :=
  (switches.find? (·.1 == name)).map (·.2)

/-- What an argument with one dash stands for: the letters after a short option are read one by one. -/
def shortArgument (s : List Char) : Argument :=
  match s with
  | '-' :: 'h' :: letters => .cluster letters
  | _ =>
    if isNegativeNumber s || ' ' ∈ s then .plain (String.ofList s) else .unknown

/-- What an argument stands for that begins with a dash and is not the full name of an option. An equals sign after a short
option is passed over: what follows are letters too. -/
def dashArgument? (s : List Char) : Option Argument :=
  let (name, value) := splitValue s
  match switch? name, value with
  | some switch, some value =>
    some (if Text.startsWith "--" name then .option switch (some value) else .cluster value.toList)
  | _, _ =>
    match s with
    | '-' :: '-' :: _ =>
      match switches.filter fun (full, _) => Text.startsWith name full with
      | [] => some (if ' ' ∈ s then .plain (String.ofList s) else .unknown)
      | [(_, switch)] => some (.option switch value)
      | _ => none
    | _ => some (shortArgument s)

/-- What an argument before the two dashes stands for; none if it is ambiguous. -/
def argument? (s : String) : Option Argument :=
  match s.toList with
  | '-' :: rest =>
    match switch? s with
    | some switch => some (.option switch none)
    | none => if rest.isEmpty then some (.plain s) else dashArgument? ('-' :: rest)
  | _ => some (.plain s)

/-- What all arguments stand for; none if one is ambiguous. -/
def arguments? : List String → Option (List Argument)
  | [] => some []
  | s :: rest =>
    if s = "--" then some (.separator :: rest.map .plain)
    else do
      let a ← argument? s
      let others ← arguments? rest
      some (a :: others)

/-- Whether all letters after the short option for help are that option again. -/
def clusterIsHelp (letters : List Char) : Bool :=
  !letters.isEmpty && letters.all (· == 'h')

/-- What has been read so far; `extra` says that something is left over. -/
structure Progress where
  script : Option Path
  extra : Bool
  request : Request

/-- Sets an option without a value. -/
def setFlag (r : Request) : Switch → Request
  | .layouts => { r with layouts := true }
  | .noNumbers => { r with noNumbers := true }
  | .showGrid => { r with showGrid := true }
  | .strict => { r with strict := true }
  | .printMarkdown => { r with printMarkdown := true }
  | _ => r

/-- Sets an option with its value, if the option admits the value. -/
def setValue? (r : Request) (value : String) : Switch → Option Request
  | .outDir => some { r with outDir := some (Path.ofString value) }
  | .format => (Output.select? value).map fun outputs => { r with outputs }
  | .width => (Decimal.readInt? 10 value.toList).map fun width => { r with width }
  | .height => (Decimal.readInt? 10 value.toList).map fun height => { r with height }
  | _ => none

/-- The arguments after the script: separators next to it belong to it. -/
def dropSeparators : List Argument → List Argument
  | .separator :: rest => dropSeparators rest
  | rest => rest

theorem length_dropSeparators (as : List Argument) : (dropSeparators as).length ≤ as.length := by
  fun_induction dropSeparators as with
  | case1 rest ih => simp only [List.length_cons]; omega
  | case2 => exact Nat.le_refl _

/-- Reads the arguments in order. -/
def readFrom (p : Progress) : List Argument → Command
  | [] =>
    match p.script with
    | some script => if p.extra then .refused else .run { p.request with script }
    | none => .refused
  | .cluster letters :: _ => if clusterIsHelp letters then .help else .refused
  | .unknown :: rest => readFrom { p with extra := true } rest
  | .option .help none :: _ => .help
  | .option switch (some value) :: rest =>
    if switch.hasValue then
      match setValue? p.request value switch with
      | some request => readFrom { p with request } rest
      | none => .refused
    else .refused
  | .option switch none :: .plain value :: rest =>
    if switch.hasValue then
      match setValue? p.request value switch with
      | some request => readFrom { p with request } rest
      | none => .refused
    else readFrom { p with request := setFlag p.request switch } (.plain value :: rest)
  | .option switch none :: rest =>
    if switch.hasValue then .refused else readFrom { p with request := setFlag p.request switch } rest
  | .plain s :: rest =>
    if p.script.isSome then readFrom { p with extra := true } rest
    else readFrom { p with script := some (Path.ofString s) } (dropSeparators rest)
  | .separator :: .plain s :: rest =>
    if p.script.isSome then readFrom { p with extra := true } rest
    else readFrom { p with script := some (Path.ofString s) } (dropSeparators rest)
  | .separator :: rest => readFrom { p with extra := true } rest
termination_by as => as.length
decreasing_by
  all_goals simp only [List.length_cons]
  all_goals first
    | omega
    | exact Nat.lt_succ_of_le (length_dropSeparators _)
    | exact Nat.lt_succ_of_le (Nat.le_succ_of_le (length_dropSeparators _))

/-- A request without options. -/
def bareRequest : Request :=
  ⟨⟨"", []⟩, none, Output.all, false, 400, 600, false, false, false, false⟩

/-- Reads the arguments of the command line. -/
def read (args : List String) : Command :=
  match arguments? args with
  | none => .refused
  | some as => readFrom ⟨none, false, bareRequest⟩ as

end ComicScript.CommandLine
