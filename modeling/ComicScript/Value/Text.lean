import ComicScript.Decimal.Integer
import ComicScript.Value.Basic
import ComicScript.Text.Quoted

/-!
# The text of a value

A scalar is shown as it reads; inside a collection text is put between quotes. A value that holds an integer too long for a
numeral has no text.
-/

namespace ComicScript
set_option autoImplicit false

namespace Value

/-- The text of a boolean. -/
def boolText (b : Bool) : String :=
  if b then "True" else "False"

mutual

/-- The text of a value inside a collection. -/
def quoted : Value → Except Crash String
  | null => .ok "None"
  | bool b => .ok (boolText b)
  | int n => Decimal.intText n
  | float x => .ok (Decimal.doubleText x)
  | str s => .ok (Text.quoted s)
  | list items => do return "[" ++ ", ".intercalate (← quotedItems items) ++ "]"
  | tuple [item] => do return "(" ++ (← quoted item) ++ ",)"
  | tuple items => do return "(" ++ ", ".intercalate (← quotedItems items) ++ ")"
  | map entries => do return "\x7b" ++ ", ".intercalate (← quotedEntries entries) ++ "\x7d"
  | date d => .ok d.quoted
  | moment m => .ok m.quoted
  | bytes b => .ok (Text.quotedBytes b)
  | set [] => .ok "set()"
  | set items => do return "\x7b" ++ ", ".intercalate (← quotedItems items) ++ "\x7d"

/-- The texts of the items of a collection. -/
def quotedItems : List Value → Except Crash (List String)
  | [] => .ok []
  | item :: items => do
    let first ← quoted item
    return first :: (← quotedItems items)

/-- The texts of the entries of a map. -/
def quotedEntries : List (Value × Value) → Except Crash (List String)
  | [] => .ok []
  | (key, value) :: entries => do
    let shownKey ← quoted key
    let shownValue ← quoted value
    return (shownKey ++ ": " ++ shownValue) :: (← quotedEntries entries)

end

/-- The text of a value on its own. -/
def text : Value → Except Crash String
  | str s => .ok s
  | date d => .ok d.text
  | moment m => .ok m.text
  | v => v.quoted

/-- The texts of the values that are not null. -/
def texts : List Value → Except Crash (List String)
  | [] => .ok []
  | null :: rest => texts rest
  | v :: rest => do
    let first ← v.text
    return first :: (← texts rest)

/-- The text of a value that says something. -/
def label? (v : Value) : Except Crash (Option String) :=
  if v.isVoid then .ok none else do return some (← v.text)

end Value

end ComicScript
