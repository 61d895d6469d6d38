import ComicScript.Crash
import ComicScript.Value.Basic

/-!
# Errors of a script

Why a text is no comic script, where that is known, and how it is told.
-/

namespace ComicScript
set_option autoImplicit false

/-- Why a text is no comic script. -/
inductive ScriptError
  /-- the text does not load -/
  | unreadable (source : String)
  /-- the text is no mapping as a whole -/
  | rootNotMapping (source typeName : String)
  /-- something else where a list is expected -/
  | notList (typeName path : String)
  /-- something else where a mapping is expected -/
  | notMapping (typeName path : String)
  deriving DecidableEq, Repr

namespace ScriptError

/-- Where in the script the error is, if it is in one place. -/
def path? : ScriptError → Option String
  | unreadable _ => none
  | rootNotMapping _ _ => none
  | notList _ path => some path
  | notMapping _ path => some path

/-- What is wrong, without the place. -/
def reason : ScriptError → String
  | unreadable source => "Failed to parse YAML " ++ source ++ ": <yaml>"
  | rootNotMapping source typeName => "Top-level YAML must be a mapping in " ++ source ++ ", got " ++ typeName
  | notList typeName _ => "expected a list, got " ++ typeName
  | notMapping typeName _ => "expected a mapping, got " ++ typeName

/-- What is wrong, and where. -/
def message (e : ScriptError) : String :=
  match e.path? with
  | none => e.reason
  | some path => e.reason ++ " (at " ++ path ++ ")"

end ScriptError

/-- The outcome of reading a script, with the lines of diagnostics that were written on the way. -/
structure Attempt (α : Type) where
  notes : List String
  outcome : Except (Stop ScriptError) α

namespace Attempt

/-- Goes on with what was read; a stop stays. -/
def andThen {α β : Type} (a : Attempt α) (f : α → Except (Stop ScriptError) β) : Attempt β :=
  ⟨a.notes, a.outcome.bind f⟩

end Attempt

end ComicScript
