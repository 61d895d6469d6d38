/-!
# Tokens of a YAML text

Indicators, names and scalars, with the block structure that indentation expresses made explicit.
-/

namespace ComicScript.Yaml
set_option autoImplicit false

/-- A line that tells how to read the document. -/
inductive Directive
  | version (major : Nat)
  | tagHandle (handle lead : String)
  | other
  deriving DecidableEq, Repr

/-- A tag as it is written: complete, or a handle with the rest. -/
inductive TagName
  | complete (uri : String)
  | short (handle rest : String)
  deriving DecidableEq, Repr

/-- A token; `plain` marks a scalar without quotes. -/
inductive Token
  | directive (d : Directive)
  | documentStart
  | documentEnd
  | blockSequence
  | blockMapping
  | blockEnd
  | openBracket
  | closeBracket
  | openBrace
  | closeBrace
  | dash
  | comma
  | key
  | value
  | alias (name : String)
  | anchor (name : String)
  | tag (t : TagName)
  | scalar (text : String) (plain : Bool)
  deriving DecidableEq, Repr

end ComicScript.Yaml
