import ComicScript.Yaml.Node

/-!
# Documents of a YAML text

A text holds at most one document. Directives before it say what its tag handles stand for, and line marks may stand
before and after it.
-/

namespace ComicScript.Yaml
set_option autoImplicit false

namespace Build

/-- What tag handles stand for unless a directive says otherwise. -/
def usualHandles : List (String × String) :=
  [("!", "!"), ("!!", Tag.standardLead)]

/-- The handles that directives define; the version must be 1 and is given once. -/
def readDirectives : List Directive → Option Nat → List (String × String) → Except Fault (List (String × String))
  | [], _, handles => .ok handles
  | .version major :: rest, version, handles =>
    if version.isSome ∨ major ≠ 1 then .error .badDirective else readDirectives rest (some major) handles
  | .tagHandle handle lead :: rest, version, handles =>
    if handles.any (·.1 == handle) then .error .badDirective
    else readDirectives rest version ((handle, lead) :: handles)
  | .other :: rest, version, handles => readDirectives rest version handles

/-- The directives at the start, and the tokens after them. -/
def splitDirectives : List Token → List Directive × List Token
  | .directive d :: rest =>
    let (ds, rest) := splitDirectives rest
    (d :: ds, rest)
  | ts => ([], ts)

/-- Whether a document has no content before this token. -/
def endsDocument : Option Token → Bool
  | none => true
  | some (.directive _) => true
  | some .documentStart => true
  | some .documentEnd => true
  | _ => false

/-- The place of the node that a document starts with here. -/
def document (fuel : Nat) : Build Nat := do
  let (directives, rest) := splitDirectives (← get).tokens
  if directives.isEmpty && rest.head? != some .documentStart then node fuel .block
  else
    let handles ← readDirectives directives none []
    modify fun b => { b with tokens := rest, handles := handles ++ usualHandles }
    expect .documentStart
    if endsDocument (← peek?) then add .absent else node fuel .block

end Build

/-- The nodes of a document, and the place of the one that holds the others. -/
structure Document where
  table : Table
  root : Nat

/-- The only document among some tokens, if there is one. -/
def Document.ofTokens? (tokens : List Token) : Except Fault (Option Document) := do
  if tokens.isEmpty then return none
  let (root, b) ← (Build.document (4 * tokens.length + 8)).run ⟨tokens, Build.usualHandles, [], #[]⟩
  if (b.tokens.dropWhile (· == .documentEnd)).isEmpty then return some ⟨b.table, root⟩
  else throw .severalDocuments

end ComicScript.Yaml
