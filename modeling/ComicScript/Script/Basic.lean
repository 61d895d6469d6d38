import ComicScript.Value.Basic

/-!
# Chapters

A chapter has pages, a page has panels and a layout grid, a panel has dialogue. Chapters are built from scripts or by
hand; one built by hand may have something else where a part is expected, and then the part is malformed.
-/

namespace ComicScript
set_option autoImplicit false

/-- A part of a chapter, or something else in its place. -/
inductive Slot (α : Type)
  | filled (part : α)
  | malformed (found : Value)

namespace Slot

/-- The part, if it is one. -/
def part? {α : Type} : Slot α → Option α
  | filled part => some part
  | malformed _ => none

end Slot

/-- A line of dialogue. A narration has no character; `type` is speech, narration, a sound effect or any other word. -/
structure Dialogue where
  character : String
  text : String
  type : String
  isNarration : Bool
  deriving DecidableEq, Repr

/-- A panel: what is seen, what is heard and what is said. -/
structure Panel where
  name : Option String
  desc : Option String
  fx : Option String
  caption : Option String
  endCaption : Option String
  dialogue : Slot (List (Slot Dialogue))

/-- A page of panels. Its layout is the source of a grid, null if there is none; the tokens of the grid do not depend on
the order of the panels. -/
structure Page where
  name : Option String
  layout : Value
  panels : Slot (List (Slot Panel))

/-- A chapter. A title that is not text makes no heading; a credit that is `none` is left out. -/
structure Chapter where
  title : Value
  synopsis : Option String
  credits : Option (List (Option String))
  pages : Slot (List (Slot Page))

/-- The name of a speaker who is not named. -/
def defaultCharacter : String := "Character"

/-- The type of plain speech. -/
def speechType : String := "speech"

/-- The type of narration. -/
def narrationType : String := "narration"

/-- The type of a sound effect. -/
def soundEffectType : String := "sound_effect"

namespace Chapter

/-- The title as a heading: only a text that is not empty. -/
def heading? (c : Chapter) : Option String :=
  match c.title with
  | .str s => if s.isEmpty then none else some s
  | _ => none

/-- The pages; none if something else stands in their place. -/
def pageList (c : Chapter) : List (Slot Page) :=
  c.pages.part?.getD []

end Chapter

end ComicScript
