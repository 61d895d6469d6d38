import ComicScript.Text.Lines
import ComicScript.Yaml.Timestamp

/-!
# Types of scalars

The tags of the standard types, and which type a plain scalar has by its form: `resolve` reads the text as null, a
boolean, a number, a time, one of two special keys or a reserved indicator, and else as text.
-/

namespace ComicScript.Yaml
set_option autoImplicit false

/-- The type of a node. -/
inductive Tag
  | null
  | bool
  | int
  | float
  | binary
  | timestamp
  | omap
  | pairs
  | set
  | str
  | seq
  | map
  | merge
  | value
  | other (uri : String)
  deriving DecidableEq, Repr

namespace Tag

/-- What the tags of the standard types begin with. -/
def standardLead : String := "tag:yaml.org,2002:"

/-- The standard types by the end of their tag. -/
def standard : List (String × Tag) :=
  [("null", null), ("bool", bool), ("int", int), ("float", float), ("binary", binary), ("timestamp", timestamp),
    ("omap", omap), ("pairs", pairs), ("set", set), ("str", str), ("seq", seq), ("map", map), ("merge", merge),
    ("value", value)]

/-- The type that a tag stands for. -/
def ofUri (uri : String) : Tag :=
  ((standard.find? fun (name, _) => standardLead ++ name == uri).map (·.2)).getD (.other uri)

/-! ### The forms of plain scalars -/

/-- The words for true and false. -/
def boolWords : List (String × Bool) :=
  [("yes", true), ("no", false), ("true", true), ("false", false), ("on", true), ("off", false)]

/-- The three ways to write a word: in small letters, with a capital first, in capitals. -/
def casings (word : String) : List (List Char) :=
  let s := word.toList
  [s, (s.take 1).map Char.toUpper ++ s.drop 1, s.map Char.toUpper]

/-- Drops a sign. -/
def unsigned : List Char → List Char
  | '+' :: s => s
  | '-' :: s => s
  | s => s

/-- A digit or an underscore. -/
def isDigitOrGap (c : Char) : Bool :=
  c.isDigit || c == '_'

/-- Whether a text is not empty and has only characters of one kind. -/
def isRun (kind : Char → Bool) (s : List Char) : Bool :=
  !s.isEmpty && s.all kind

/-- Drops groups of a colon and a number below sixty; says whether there was one. -/
def dropSixties : Nat → List Char → Bool × List Char
  | 0, s => (false, s)
  | fuel + 1, s =>
    match s with
    | ':' :: a :: b :: rest =>
      if a.isDigit && b.isDigit then
        if a ≤ '5' then (true, (dropSixties fuel rest).2) else (false, s)
      else if a.isDigit then (true, (dropSixties fuel (b :: rest)).2)
      else (false, s)
    | [':', a] => if a.isDigit then (true, []) else (false, s)
    | _ => (false, s)

/-- A numeral of base sixty without a sign, up to its last group. -/
def dropSexagesimal (s : List Char) : Bool × List Char :=
  dropSixties s.length (s.dropWhile isDigitOrGap)

/-- Integers: binary, octal after a zero, decimal, hexadecimal, or groups of base sixty. -/
def isInt (s : List Char) : Bool :=
  match unsigned s with
  | ['0'] => true
  | '0' :: 'b' :: rest => isRun (· ∈ ['0', '1', '_']) rest
  | '0' :: 'x' :: rest => isRun (fun c => isDigitOrGap c || ('a' ≤ c && c ≤ 'f') || ('A' ≤ c && c ≤ 'F')) rest
  | '0' :: rest => isRun (fun c => ('0' ≤ c && c ≤ '7') || c == '_') rest
  | c :: rest => c.isDigit && (rest.all isDigitOrGap || dropSexagesimal (c :: rest) == (true, []))
  | [] => false

/-- The end of a decimal: nothing, or an exponent with a sign. -/
def isExponent : List Char → Bool
  | [] => true
  | e :: sign :: ds => (e == 'e' || e == 'E') && (sign == '+' || sign == '-') && isRun Char.isDigit ds
  | _ => false

/-- Decimals with a point, also after groups of base sixty, infinity and not-a-number. -/
def isFloat (s : List Char) : Bool :=
  let body := unsigned s
  s ∈ [".nan", ".NaN", ".NAN"].map String.toList || body ∈ [".inf", ".Inf", ".INF"].map String.toList ||
    match s, body with
    | '.' :: c :: rest, _ => c.isDigit && isExponent (rest.dropWhile isDigitOrGap)
    | _, c :: rest =>
      c.isDigit &&
        (match rest.dropWhile isDigitOrGap with
          | '.' :: more => isExponent (more.dropWhile isDigitOrGap)
          | _ =>
            match dropSexagesimal body with
            | (true, '.' :: more) => more.all isDigitOrGap
            | _ => false)
    | _, [] => false

/-- Days with two digits for month and day, and times. -/
def isTimestamp (s : List Char) : Bool :=
  (Timestamp.read? s).any fun t => t.padded || t.time.isSome

/-- The indicators of tags, anchors and aliases; a text that is one of them is reserved. -/
def indicators : List (List Char) :=
  [['!'], ['&'], ['*']]

/-- The type of a plain scalar by its form; a line feed at the end does not count. -/
def resolve (text : List Char) : Tag :=
  if text.isEmpty then null
  else
    let s := Text.Chars.dropFinalLineFeed text
    if boolWords.any fun (word, _) => s ∈ casings word then bool
    else if isFloat s then float
    else if isInt s then int
    else if s == "<<".toList then merge
    else if s == ['~'] || s ∈ casings "null" then null
    else if isTimestamp s then timestamp
    else if s == ['='] then value
    else if s ∈ indicators then other (standardLead ++ "yaml")
    else str

end Tag

end ComicScript.Yaml
