/-!
# Faults of a YAML text

What can keep a text from being loaded.
-/

namespace ComicScript.Yaml
set_option autoImplicit false

/-- A reason why a text does not load. -/
inductive Fault
  /-- a character that the format does not admit -/
  | unprintable
  /-- a character that starts no token -/
  | strayCharacter
  /-- a line that has to be a key but has no colon -/
  | unfinishedKey
  /-- a dash, question mark or colon where no entry can start -/
  | misplacedIndicator
  /-- a directive that cannot be read or is not supported -/
  | badDirective
  /-- an anchor, alias or tag that cannot be read -/
  | badName
  /-- a quoted or block text that is not finished or has a wrong header or escape -/
  | badText
  /-- tokens in an order that forms no tree -/
  | badStructure
  /-- more than one document -/
  | severalDocuments
  /-- an alias to nothing, or an anchor that is already taken -/
  | badAnchor
  /-- a tag that stands for no type, or for a type of another shape -/
  | badTag
  /-- a text that its type does not admit -/
  | badScalar
  /-- a collection as a key -/
  | badKey
  /-- a merge of something that is no mapping -/
  | badMerge
  deriving DecidableEq, Repr

end ComicScript.Yaml
