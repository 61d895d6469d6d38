import ComicScript.Layout.Parse
import ComicScript.Lint.Issue
import ComicScript.Script.Decode

/-!
# Lint

Finds what keeps a loaded script from being a chapter, and what would be dropped or looks like a mistake. The whole script
is checked in its own order; a part of a wrong shape is reported and passed over. Lint crashes at a key or a layout whose
text cannot be written.
-/

namespace ComicScript.Lint
set_option autoImplicit false

/-- The keys of a script. -/
def chapterKeys : List String := ["title", "synopsis", "credits", "pages"]

/-- The keys of a page. -/
def pageKeys : List String := ["name", "layout", "panels"]

/-- The keys of a panel. -/
def panelKeys : List String := ["name", "desc", "fx", "caption", "endCaption", "dialogue"]

/-- Whether a key is one of the given texts. -/
def isKnown (allowed : List String) : Value → Bool
  | .str s => s ∈ allowed
  | _ => false

/-- A key of a mapping, if it is not known. -/
def keyIssues (cfg : Config) (allowed : List String) (path : String) (key : Value) : Findings :=
  if isKnown allowed key then noIssues
  else do
    let shown ← key.quoted
    let name ← key.text
    report cfg .unknownKey (path ++ "/" ++ name) ("unknown key " ++ shown ++ " is ignored")
      (some ("expected one of: " ++ ", ".intercalate allowed))

/-- The keys of a mapping that are not known. -/
def unknownKeys (cfg : Config) (allowed : List String) (path : String) : List (Value × Value) → Findings
  | [] => noIssues
  | (key, _) :: rest => keyIssues cfg allowed path key ++ unknownKeys cfg allowed path rest

/-- A title or synopsis that is not text. -/
def wordingIssues (cfg : Config) (code : Code) (name : String) (entries : List (Value × Value)) : Findings :=
  match Value.field name entries with
  | .null => noIssues
  | .str _ => noIssues
  | _ => report cfg code ("/" ++ name) (name ++ " is not a string and will be ignored") (some "Quote the value")

/-- Credits that are no names. -/
def creditIssues (cfg : Config) (entries : List (Value × Value)) : Findings :=
  let wrong := report cfg .creditsBadType "/credits" "credits must be a string or a list and will be ignored" none
  match Value.field "credits" entries with
  | .map _ => wrong
  | .bool _ => wrong
  | _ => noIssues

/-- Something that is no line of dialogue, or one without a speaker. -/
def entryIssues (cfg : Config) (path : String) : Value → Findings
  | .map [(key, _)] => do
    let name ← key.text
    if (Dialogue.splitKey name.toList).1.isEmpty && !Text.startsWith "/" name then
      report cfg .dialogueEmptyCharacter path
        ("dialogue key " ++ Text.quoted name ++ " has no character; rendered as 'Character'") none
    else noIssues
  | _ =>
    report cfg .dialogueEntryDiscarded path "dialogue entry is not a single-key mapping and will be dropped"
      (some "Write entries as \"- Character/type: text\"")

/-- The entries of dialogue from the `i`th on. -/
def entriesFrom (cfg : Config) (path : String) (i : Nat) : List Value → Findings
  | [] => noIssues
  | v :: rest => entryIssues cfg (itemPath path i) v ++ entriesFrom cfg path (i + 1) rest

/-- The dialogue of a panel. -/
def dialogueIssues (cfg : Config) (path : String) : Value → Findings
  | .null => noIssues
  | .list items => entriesFrom cfg path 0 items
  | _ => report cfg .dialogueNotList path "dialogue must be a list" none

/-- How messages name a page. -/
def pageName (page : Nat) : String :=
  "page " ++ toString (page + 1)

/-- A panel of a page. -/
def panelIssues (cfg : Config) (page panel : Nat) (path : String) : Value → Findings
  | .map entries =>
    unknownKeys cfg panelKeys path entries ++
      dialogueIssues cfg (path ++ "/dialogue") (Value.field "dialogue" entries)
  | _ =>
    report cfg .panelNotMapping path (pageName page ++ " panel " ++ toString (panel + 1) ++ " is not a mapping") none

/-- The panels of a page from the `i`th on. -/
def panelsFrom (cfg : Config) (page : Nat) (path : String) (i : Nat) : List Value → Findings
  | [] => noIssues
  | v :: rest => panelIssues cfg page i (itemPath path i) v ++ panelsFrom cfg page path (i + 1) rest

/-- The label of the first footprint with a number. -/
def firstLabel (number : Int) (footprints : List Footprint) : Option String :=
  (footprints.find? (·.number == number)).map (·.label)

/-- Two tokens of a layout that stand for the same number, given the footprints before this one. -/
def collisionIssues (cfg : Config) (page : Nat) (path : String) (before : List Footprint) : List Footprint → Findings
  | [] => noIssues
  | f :: rest =>
    (match firstLabel f.number before with
      | none => noIssues
      | some other =>
        if other = f.label then noIssues
        else
          report cfg .layoutTokenCollision path
            (pageName page ++ " layout tokens " ++ Text.quoted other ++ " and " ++ Text.quoted f.label ++
              " share sort key " ++ toString f.number ++ " (same color, arbitrary order)") none) ++
      collisionIssues cfg page path (before ++ [f]) rest

/-- The source of a layout as lint reads it: rows of digits load as numbers. -/
def layoutSource? : Value → Except Crash (Option Value)
  | .str s => .ok (some (.str s))
  | .int n => do return some (.str (← (Value.int n).text))
  | .float x => do return some (.str (← (Value.float x).text))
  | .list items => do return some (.list ((← Value.texts items).map .str))
  | _ => .ok none

/-- A layout that was read, beside the number of panels of its page if the page lists them. -/
def parsedIssues (cfg : Config) (page : Nat) (path : String) (panelCount : Option Nat) (l : Layout) : Findings :=
  collisionIssues cfg page path [] l.footprints ++
    match panelCount with
    | none => noIssues
    | some count =>
      if cfg.checkPanelCount ∧ l.footprints.length ≠ count then
        report cfg .layoutPanelCountMismatch path
          (pageName page ++ " layout has " ++ toString l.footprints.length ++ " panel(s) but the script has " ++
            toString count) none
      else noIssues

/-- The layout of a page. -/
def layoutIssues (cfg : Config) (page : Nat) (path : String) (panelCount : Option Nat) (layout : Value) : Findings :=
  if layout.isNull then noIssues
  else do
    match ← layoutSource? layout with
    | none => report cfg .layoutBadType path (pageName page ++ " layout must be a string or a list of rows") none
    | some source =>
      match Layout.parse source with
      | .error (.refused e) =>
        report cfg .layoutInvalid path (pageName page ++ " layout cannot be parsed: " ++ e.message) none
      | .error (.crashed c) => .error c
      | .ok l => parsedIssues cfg page path panelCount l

/-- Whether a value is a mapping. -/
def isMapping : Value → Bool
  | .map _ => true
  | _ => false

/-- The panels of a page, and how many of them are mappings if they are a list. -/
def pagePanels (cfg : Config) (page : Nat) (path : String) : Value → Findings × Option Nat
  | .null => (noIssues, none)
  | .list items => (panelsFrom cfg page path 0 items, some (items.countP isMapping))
  | _ => (report cfg .panelsNotList path (pageName page ++ " panels must be a list") none, none)

/-- A page. -/
def pageIssues (cfg : Config) (page : Nat) (path : String) : Value → Findings
  | .map entries =>
    let (panels, count) := pagePanels cfg page (path ++ "/panels") (Value.field "panels" entries)
    unknownKeys cfg pageKeys path entries ++ panels ++
      layoutIssues cfg page (path ++ "/layout") count (Value.field "layout" entries)
  | _ => report cfg .pageNotMapping path (pageName page ++ " is not a mapping") none

/-- The pages from the `i`th on. -/
def pagesFrom (cfg : Config) (i : Nat) : List Value → Findings
  | [] => noIssues
  | v :: rest => pageIssues cfg i (itemPath "/pages" i) v ++ pagesFrom cfg (i + 1) rest

/-- All issues of a loaded script. -/
def issues (cfg : Config) : Value → Findings
  | .map entries =>
    unknownKeys cfg chapterKeys "" entries ++ wordingIssues cfg .titleNotText "title" entries ++
      wordingIssues cfg .synopsisNotText "synopsis" entries ++ creditIssues cfg entries ++
      match Value.field "pages" entries with
      | .null => noIssues
      | .list pages => pagesFrom cfg 0 pages
      | _ => report cfg .pagesNotList "/pages" "pages must be a list" none
  | v => report cfg .rootNotMapping "/" ("script root must be a mapping, got " ++ v.typeName) none

/-- The messages of the issues of one severity, as the command line shows them. -/
def messages (severity : Severity) (found : List Issue) : List String :=
  (found.filter (·.severity == severity)).map (·.message)

end ComicScript.Lint
