import ComicScript.Script.Basic
import ComicScript.Script.Error
import ComicScript.Text.Lines
import ComicScript.Text.Blank
import ComicScript.Value.Key
import ComicScript.Value.Text

/-!
# Chapters from values

A loaded script as a chapter. Fields of a wrong type are dropped; only a part of the wrong shape is an error, and the
first one in the order of the script is reported. A field whose text cannot be written is a crash.
-/

namespace ComicScript
set_option autoImplicit false

/-- The text of a scalar field; null, booleans, lists, mappings and the empty text give none. -/
def Value.fieldText? : Value → Except Crash (Option String)
  | .null => .ok none
  | .bool _ => .ok none
  | .list _ => .ok none
  | .map _ => .ok none
  | v => do
    let text ← v.text
    return if text.isEmpty then none else some text

/-- A title or synopsis: only text counts. -/
def Value.wording? : Value → Option String
  | .str s => if s.isEmpty then none else some s
  | _ => none

/-- The items of a list; null stands for none. -/
def Value.listAt (path : String) : Value → Except ScriptError (List Value)
  | .null => .ok []
  | .list items => .ok items
  | v => .error (.notList v.typeName path)

/-- The entries of a mapping. -/
def Value.entriesAt (path : String) : Value → Except ScriptError (List (Value × Value))
  | .map entries => .ok entries
  | v => .error (.notMapping v.typeName path)

/-- The path of the `i`th item of a list. -/
def itemPath (path : String) (i : Nat) : String :=
  path ++ "/" ++ toString i

/-- Credits that are separated by commas. -/
def creditLine (s : String) : List String :=
  (Text.splitOn ',' s).map Text.trim

/-- The credits of a chapter: a list, or one line with commas between the names. -/
def creditsOf : Value → Except Crash (Option (List String))
  | .str s => .ok (if s.isEmpty then none else some (creditLine s))
  | .int n => do return some (creditLine (← (Value.int n).text))
  | .float x => do return some (creditLine (← (Value.float x).text))
  | .list [] => .ok none
  | .list items => do return some ((← Value.texts items).map Text.trim)
  | _ => .ok none

/-- The text of a key or of a line of dialogue; null is the empty text. -/
def Value.textOrEmpty : Value → Except Crash String
  | .null => .ok ""
  | v => v.text

namespace Dialogue

/-- The parts of a key around its first slash; without a slash the second part is empty. -/
def splitKey (key : List Char) : List Char × List Char :=
  (key.takeWhile (· != '/'), (key.dropWhile (· != '/')).drop 1)

/-- A text, or a default if it is empty. -/
def orDefault (default s : String) : String :=
  if s.isEmpty then default else s

/-- The line that a key and a text stand for: a key that begins with a slash is narration, any other one names the
character and after a slash the type. -/
def ofEntry (key text : String) : Dialogue :=
  match key.toList with
  | '/' :: type => ⟨"", text, orDefault narrationType (String.ofList type), true⟩
  | chars =>
    let (character, type) := splitKey chars
    ⟨orDefault defaultCharacter (String.ofList character), text, orDefault speechType (String.ofList type), false⟩

/-- The line of dialogue that an item stands for; only a mapping of one key is one. -/
def ofValue? : Value → Except Crash (Option Dialogue)
  | .map [(key, text)] => do
    let key ← key.textOrEmpty
    return some (ofEntry key (← text.textOrEmpty))
  | _ => .ok none

/-- The lines of dialogue that some items stand for. -/
def ofItems : List Value → Except Crash (List Dialogue)
  | [] => .ok []
  | item :: rest => do
    let line ← ofValue? item
    return line.toList ++ (← ofItems rest)

end Dialogue

namespace Panel

/-- The panel that a value stands for. -/
def ofValue (path : String) (v : Value) : Except (Stop ScriptError) Panel := do
  let entries ← v.entriesAt path
  let items ← (Value.field "dialogue" entries).listAt (path ++ "/dialogue")
  let lines ← Dialogue.ofItems items
  let name ← (Value.field "name" entries).fieldText?
  let desc ← (Value.field "desc" entries).fieldText?
  let fx ← (Value.field "fx" entries).fieldText?
  let caption ← (Value.field "caption" entries).fieldText?
  let endCaption ← (Value.field "endCaption" entries).fieldText?
  return { name, desc, fx, caption, endCaption, dialogue := .filled (lines.map .filled) }

/-- The panels from the `i`th on. -/
def listFrom (path : String) : Nat → List Value → Except (Stop ScriptError) (List Panel)
  | _, [] => .ok []
  | i, v :: rest => do
    let panel ← ofValue (itemPath path i) v
    return panel :: (← listFrom path (i + 1) rest)

end Panel

namespace Page

/-- The layout that a value stands for: rows that are not null, as text, or the text of a scalar. -/
def layoutOf : Value → Except Crash Value
  | .list items => do
    let rows ← Value.texts items
    return if rows.isEmpty then .null else .list (rows.map .str)
  | v => do
    let text ← v.fieldText?
    return (text.map .str).getD .null

/-- The page that a value stands for. -/
def ofValue (path : String) (v : Value) : Except (Stop ScriptError) Page := do
  let entries ← v.entriesAt path
  let items ← (Value.field "panels" entries).listAt (path ++ "/panels")
  let name ← (Value.field "name" entries).fieldText?
  let layout ← layoutOf (Value.field "layout" entries)
  let panels ← Panel.listFrom (path ++ "/panels") 0 items
  return { name, layout, panels := .filled (panels.map .filled) }

/-- The pages from the `i`th on. -/
def listFrom : Nat → List Value → Except (Stop ScriptError) (List Page)
  | _, [] => .ok []
  | i, v :: rest => do
    let page ← ofValue (itemPath "/pages" i) v
    return page :: (← listFrom (i + 1) rest)

end Page

namespace Chapter

/-- The chapter that the entries of a script stand for. -/
def ofEntries (entries : List (Value × Value)) : Except (Stop ScriptError) Chapter := do
  let items ← (Value.field "pages" entries).listAt "/pages"
  let credits ← creditsOf (Value.field "credits" entries)
  let pages ← Page.listFrom 0 items
  return {
    title := ((Value.field "title" entries).wording?.map .str).getD .null
    synopsis := (Value.field "synopsis" entries).wording?
    credits := credits.map (·.map some)
    pages := .filled (pages.map .filled) }

/-- The chapter that a value stands for. -/
def ofValue (v : Value) : Except (Stop ScriptError) Chapter := do
  ofEntries (← v.entriesAt "/")

end Chapter

end ComicScript
