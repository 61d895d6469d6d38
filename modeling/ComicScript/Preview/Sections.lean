import ComicScript.Diagram.Draw
import ComicScript.Markdown.Render
import ComicScript.Preview.Convert
import ComicScript.Value.Key

/-!
# Pages beside their diagrams

The markdown of a chapter is cut at its page headings; each cut is shown beside the diagram of its page, and what comes
before the first is a header. The lines of the headings may be given; lines that are no headings in order are not
trusted, and then the headings are looked for.
-/

namespace ComicScript.Preview
set_option autoImplicit false

/-- The numbers, from `i` on, of the lines that are page headings. -/
def headingsFrom (i : Nat) : List String → List Nat
  | [] => []
  | line :: rest =>
    if Text.startsWith pageLead line then i :: headingsFrom (i + 1) rest else headingsFrom (i + 1) rest

/-- The lines of the page headings of a markdown text. -/
def pageBoundaries (markdown : String) : List Nat :=
  headingsFrom 0 (Text.lines markdown)

/-- The given lines, each after the one before, if all of them are page headings. -/
def trusted? (lines : List String) (before : Int) : List Value → Option (List Nat)
  | [] => some []
  | v :: rest =>
    match v.integer? with
    | none => none
    | some n =>
      if n ≤ before then none
      else if (lines[n.toNat]?).any (Text.startsWith pageLead) then
        (trusted? lines n rest).map (n.toNat :: ·)
      else none

/-- The lines to cut at. -/
def cuts (lines : List String) (starts : Option (List Value)) : List Nat :=
  (starts.bind (trusted? lines (-1))).getD (headingsFrom 0 lines)

/-- The diagram beside a page; a layout that is refused is shown as a wrong one. -/
def pageDiagram (cfg : Config) (slot : Option (Slot Page)) : Except Crash String :=
  match slot with
  | some (.filled p) =>
    if p.layout.isNull then Diagram.placeholder cfg Diagram.noLayout
    else
      match Diagram.ofSource cfg p.layout with
      | .ok svg => .ok svg
      | .error (.refused _) => Diagram.placeholder cfg Diagram.badLayout
      | .error (.crashed c) => .error c
  | _ => Diagram.placeholder cfg Diagram.noLayout

/-- The section of a page. -/
def pageSection (number : Nat) (body svg : String) : String :=
  "<section class=\"page\" data-page=\"" ++ toString number ++ "\">\n<div class=\"page-script\">\n" ++ body ++
    "</div>\n<div class=\"page-layout\">" ++ svg ++ "</div>\n</section>\n"

/-- The header of a chapter, unless it is blank. -/
def headerSection (markdown : String) : String :=
  if Text.allBlank markdown then ""
  else "<div class=\"chapter-header\">\n" ++ convert markdown ++ "</div>\n"

/-- The markdown of the lines from one number up to another. -/
def linesBetween (lines : List String) (first last : Nat) : String :=
  Text.unlines ((lines.take last).drop first)

/-- Looks for the page of the `n`th section in something that is no list of pages. Whatever is found there is no page, and
past the end nothing is looked for. -/
def lookFor (n : Nat) : Value → Except Crash Unit
  | .str _ => .ok ()
  | .bytes _ => .ok ()
  | .list _ => .ok ()
  | .tuple _ => .ok ()
  | .set items => if n < items.length then .error (.notList (Value.set items).typeName) else .ok ()
  | .map entries =>
    if n < entries.length ∧ entries.all (fun (key, _) => !key.sameKey (.int n)) then .error (.noKey n) else .ok ()
  | v => .error (.notList v.typeName)

/-- The page of the `n`th section, if there is one. -/
def pageAt (n : Nat) : Slot (List (Slot Page)) → Except Crash (Option (Slot Page))
  | .filled pages => .ok pages[n]?
  | .malformed found => do
    lookFor n found
    return none

/-- The sections of the pages from the `n`th on, cut at the given lines. -/
def sectionsFrom (cfg : Config) (lines : List String) (pages : Slot (List (Slot Page))) (n : Nat) :
    List Nat → Except Crash (List String)
  | [] => .ok []
  | start :: rest => do
    let body := convert (linesBetween lines start (rest.headD lines.length))
    let svg ← pageDiagram cfg (← pageAt n pages)
    return pageSection (n + 1) body svg :: (← sectionsFrom cfg lines pages (n + 1) rest)

/-- The pages of a chapter; something else in its place has none. -/
def pagesOf : Slot Chapter → Slot (List (Slot Page))
  | .filled c => c.pages
  | .malformed _ => .filled []

/-- The HTML of a chapter's markdown. Without a chapter it is not cut. -/
def assemble (cfg : Config) (markdown : String) (chapter : Option (Slot Chapter)) (starts : Option (List Value)) :
    Except Crash String :=
  match chapter with
  | none => .ok (convert markdown)
  | some slot => do
    let lines := Text.lines markdown
    let cuts := cuts lines starts
    let header := headerSection (linesBetween lines 0 (cuts.headD lines.length))
    return header ++ String.join (← sectionsFrom cfg lines (pagesOf slot) 0 cuts)

/-- The lines of page headings as values. -/
def startValues (starts : List Nat) : List Value :=
  starts.map fun n => Value.int (n : Nat)

/-- The HTML of a chapter's markdown; if no lines are given and the markdown is that of the chapter, its own lines are
used. -/
def assembleKnown (cfg : Config) (markdown : String) (chapter : Option (Slot Chapter)) (starts : Option (List Value)) :
    Except Crash String :=
  let known :=
    match chapter, starts with
    | some slot, none =>
      let doc := Markdown.document slot
      if doc.text = markdown then some (startValues doc.pageStarts) else none
    | _, _ => starts
  assemble cfg markdown chapter known

end ComicScript.Preview
