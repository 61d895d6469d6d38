import ComicScript.Yaml.Assembly
import ComicScript.Yaml.Token.Stream

/-!
# Loading a YAML text

A text is read into tokens, the tokens into its single document, and the document into a value.
-/

namespace ComicScript.Yaml
set_option autoImplicit false

/-- The value of a YAML text; a text without a document is null. -/
def load (text : String) : Except Fault Value := do
  match ← Document.ofTokens? (← tokensOf text.toList) with
  | none => return .null
  | some document => document.value

end ComicScript.Yaml
