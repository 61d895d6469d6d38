import ComicScript.Decimal.Hundredths
import ComicScript.Text.Escape
import ComicScript.Value.Text

/-!
# Elements of a drawing

A drawing is a row of elements, each with attributes in a fixed order. Numbers are written as numerals, doubles rounded to
hundredths, and every other value as escaped text. An integer too long for a numeral cannot be drawn.
-/

namespace ComicScript.Svg
set_option autoImplicit false

/-- The text of a value in a drawing. -/
def plain : Value → Except Crash String
  | .float x => .ok (Decimal.roundedText x)
  | v => v.text

/-- The text of an attribute's value: a number as it is, anything else escaped. -/
def attributeValue : Value → Except Crash String
  | .int n => plain (.int n)
  | .float x => plain (.float x)
  | v => do return Text.escapeSvg (← v.text)

/-- An attribute with its value; null leaves the attribute out. -/
abbrev Attribute := String × Value

/-- The name of an attribute as it is written: underscores at the end are dropped, others are dashes. -/
def attributeName (name : String) : String :=
  let kept := (name.toList.reverse.dropWhile (· == '_')).reverse
  String.ofList (kept.map fun c => if c = '_' then '-' else c)

/-- The attributes that have a value, as they are written. -/
def attributeList : List Attribute → Except Crash (List String)
  | [] => .ok []
  | (_, .null) :: rest => attributeList rest
  | (name, v) :: rest => do
    let first := attributeName name ++ "=\"" ++ (← attributeValue v) ++ "\""
    return first :: (← attributeList rest)

/-- Attributes with spaces between them. -/
def attributes (as : List Attribute) : Except Crash String := do
  return " ".intercalate (← attributeList as)

/-- An element of a drawing. -/
inductive Element
  | rect (attributes : List Attribute)
  | line (x1 y1 x2 y2 : Value)
  | text (content : Value) (attributes : List Attribute)
  | openGroup (attributes : List Attribute)
  | closeGroup

/-- An element as it is written. -/
def Element.render : Element → Except Crash String
  | rect as => do return "<rect " ++ (← attributes as) ++ "/>"
  | line x1 y1 x2 y2 => do
    return "<line " ++ (← attributes [("x1", x1), ("y1", y1), ("x2", x2), ("y2", y2)]) ++ "/>"
  | text content as => do
    let shown ← attributes as
    return "<text " ++ shown ++ ">" ++ Text.escapeSvg (← content.text) ++ "</text>"
  | openGroup as => do return "<g " ++ (← attributes as) ++ ">"
  | closeGroup => .ok "</g>"

/-- Elements as they are written, one after another. -/
def renderAll : List Element → Except Crash String
  | [] => .ok ""
  | e :: rest => do
    let first ← e.render
    return first ++ (← renderAll rest)

/-- How a drawing of a size begins. -/
def opening (width height : Value) : Except Crash String := do
  let w ← plain width
  let h ← plain height
  return "<svg width=\"" ++ w ++ "\" height=\"" ++ h ++ "\" viewBox=\"0 0 " ++ w ++ " " ++ h ++
    "\" xmlns=\"http://www.w3.org/2000/svg\">"

/-- A drawing of a size as a document of its own. The elements are computed once the size is written. -/
def document (width height : Value) (elements : Except Crash (List Element)) : Except Crash String := do
  let head ← opening width height
  let body ← renderAll (← elements)
  return head ++ body ++ "</svg>"

end ComicScript.Svg
