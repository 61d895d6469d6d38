import ComicScript.Script.Decode
import ComicScript.Script.Recovery
import ComicScript.Yaml.Load

/-!
# Loading a script

A script that does not load is recovered once and loaded again, with a warning for each line that recovery changed.
-/

namespace ComicScript.Script
set_option autoImplicit false

/-- The most changes that are shown in full. -/
def maxShownChanges : Nat := 10

/-- The warnings for the lines that recovery changed. -/
def changeNotes (source : String) (changes : List Change) : List String :=
  let place (change : Change) : String := "warning: " ++ source ++ ":" ++ toString change.line ++ ": "
  ["warning: parsed " ++ source ++ " after sanitizing " ++ toString changes.length ++
      " line(s); consider quoting values containing ':' followed by whitespace"] ++
    ((changes.take maxShownChanges).flatMap fun change => [place change ++ change.old, place change ++ change.new]) ++
    (if maxShownChanges < changes.length then
      ["warning: (and " ++ toString (changes.length - maxShownChanges) ++ " more)"]
    else [])

/-- Loads a script text; `warn` asks for the warnings of recovery. -/
def load (source : String) (warn : Bool) (raw : String) : Attempt Value :=
  match Yaml.load raw with
  | .ok value => ⟨[], .ok value⟩
  | .error _ =>
    let recovered := recover raw
    if recovered.changes.isEmpty then ⟨[], .error (.refused (.unreadable source))⟩
    else
      match Yaml.load recovered.text with
      | .ok value => ⟨if warn then changeNotes source recovered.changes else [], .ok value⟩
      | .error _ => ⟨[], .error (.refused (.unreadable source))⟩

/-- The entries of a script, which is a mapping. -/
def entriesOf (source : String) : Value → Except (Stop ScriptError) (List (Value × Value))
  | .map entries => .ok entries
  | v => .error (.refused (.rootNotMapping source v.typeName))

/-- Loads a script text that is a mapping. -/
def loadEntries (source : String) (warn : Bool) (raw : String) : Attempt (List (Value × Value)) :=
  (load source warn raw).andThen (entriesOf source)

/-- Reads the chapter of a script text. -/
def parse (source raw : String) : Attempt Chapter :=
  (loadEntries source true raw).andThen Chapter.ofEntries

/-- How messages name a script that has no name. -/
def unnamed : String := "<script>"

end ComicScript.Script
