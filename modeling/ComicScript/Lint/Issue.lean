import ComicScript.Crash

/-!
# Issues of a script

What lint can find, how it is named, and what a caller can ask of it.
-/

namespace ComicScript.Lint
set_option autoImplicit false

/-- How bad an issue is: an error makes a script unusable, a warning says that something is dropped or looks wrong. -/
inductive Severity
  | error
  | warning
  deriving DecidableEq, Repr

/-- How a severity is named. -/
def Severity.name : Severity → String
  | error => "error"
  | warning => "warning"

/-- What an issue is about. -/
inductive Code
  | rootNotMapping
  | unknownKey
  | titleNotText
  | synopsisNotText
  | creditsBadType
  | pagesNotList
  | pageNotMapping
  | panelsNotList
  | panelNotMapping
  | dialogueNotList
  | dialogueEntryDiscarded
  | dialogueEmptyCharacter
  | layoutBadType
  | layoutInvalid
  | layoutTokenCollision
  | layoutPanelCountMismatch
  deriving DecidableEq, Repr

namespace Code

/-- How a code is named. -/
def name : Code → String
  | rootNotMapping => "E_ROOT_NOT_MAPPING"
  | unknownKey => "W_UNKNOWN_KEY"
  | titleNotText => "W_TITLE_NOT_STRING"
  | synopsisNotText => "W_SYNOPSIS_NOT_STRING"
  | creditsBadType => "W_CREDITS_BAD_TYPE"
  | pagesNotList => "E_PAGES_NOT_LIST"
  | pageNotMapping => "E_PAGE_NOT_MAPPING"
  | panelsNotList => "E_PANELS_NOT_LIST"
  | panelNotMapping => "E_PANEL_NOT_MAPPING"
  | dialogueNotList => "E_DIALOGUE_NOT_LIST"
  | dialogueEntryDiscarded => "W_DIALOGUE_ENTRY_DISCARDED"
  | dialogueEmptyCharacter => "W_DIALOGUE_EMPTY_CHARACTER"
  | layoutBadType => "E_LAYOUT_BAD_TYPE"
  | layoutInvalid => "E_LAYOUT_INVALID"
  | layoutTokenCollision => "W_LAYOUT_TOKEN_COLLISION"
  | layoutPanelCountMismatch => "W_LAYOUT_PANEL_COUNT_MISMATCH"

/-- How bad an issue with a code is, unless a caller asks for more. -/
def severity : Code → Severity
  | unknownKey => .warning
  | titleNotText => .warning
  | synopsisNotText => .warning
  | creditsBadType => .warning
  | dialogueEntryDiscarded => .warning
  | dialogueEmptyCharacter => .warning
  | layoutTokenCollision => .warning
  | layoutPanelCountMismatch => .warning
  | _ => .error

end Code

/-- One thing that lint found, and where in the script. -/
structure Issue where
  severity : Severity
  code : Code
  message : String
  path : String
  hint : Option String
  deriving DecidableEq, Repr

/-- What a caller asks of lint: names of codes to leave out, names of codes to count as errors, and whether to compare the
panels of layouts with those of the script. -/
structure Config where
  ignore : List String := []
  escalate : List String := []
  checkPanelCount : Bool := true
  deriving DecidableEq, Repr

/-- What a check finds, unless it needs a text that cannot be written. -/
abbrev Findings := Except Crash (List Issue)

/-- One check after another: nothing is found if either of them crashes. -/
instance : Append Findings where
  append first second := do
    let found ← first
    return found ++ (← second)

/-- Nothing is found. -/
def noIssues : Findings := .ok []

/-- Reports an issue, unless its code is left out. -/
def report (cfg : Config) (code : Code) (path message : String) (hint : Option String) : Findings :=
  if code.name ∈ cfg.ignore then noIssues
  else
    let severity := if code.severity = .warning ∧ code.name ∈ cfg.escalate then .error else code.severity
    .ok [⟨severity, code, message, path, hint⟩]

end ComicScript.Lint
