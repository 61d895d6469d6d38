import ComicScript.Markdown.Render

/-!
# Fields of free text

Whether a field is printed is asked of the text as it stands and of its collapsed form. A text that is empty collapses to
nothing, so the second question decides, and what is printed depends on the collapsed form alone.
-/

namespace ComicScript.Markdown
set_option autoImplicit false

@[simp] theorem collapsed_none : collapsed none = "" := rfl

/-- A text without characters collapses to nothing. -/
@[simp] theorem collapsed_some (s : String) : collapsed (some s) = Text.collapse s := by
  by_cases empty : s = ""
  · subst empty
    decide
  · have filled : s.isEmpty = false := by simpa using empty
    simp only [collapsed, filled, Bool.false_eq_true, if_false]

/-- What is made of the collapsed form of a field that does not collapse to nothing. -/
def entryOf (field : Option String) (write : String → String) : List String :=
  if (collapsed field).isEmpty then [] else [write (collapsed field)]

/-- The two questions about a field are one. -/
theorem unlessBlank_collapse (write : String → String) (field : Option String) :
    unlessBlank field (fun s => write (Text.collapse s)) = entryOf field write := by
  cases field with
  | none => rfl
  | some s =>
    have asked : (!s.isEmpty && !(Text.collapse s).isEmpty) = !(Text.collapse s).isEmpty := by
      by_cases empty : s = ""
      · subst empty
        decide
      · have filled : s.isEmpty = false := by simpa using empty
        rw [filled, Bool.not_false, Bool.true_and]
    simp only [unlessBlank, entryOf, collapsed_some, asked]
    cases (Text.collapse s).isEmpty <;> rfl

/-- The lines of a panel's quote, each made of a collapsed text. -/
theorem quoteLines_eq (p : Panel) (lines : List Dialogue) :
    quoteLines p lines = entryOf p.caption (fun s => italic ("CAPTION: " ++ s)) ++ lines.map dialogue ++
      entryOf p.endCaption (fun s => italic ("END CAPTION: " ++ s)) := by
  rw [quoteLines, ← unlessBlank_collapse, ← unlessBlank_collapse]

/-- The sections of a panel, each made of collapsed texts. -/
theorem panelSections_eq (number : Int) (p : Panel) (lines : List Dialogue) :
    panelSections number p lines = ("### " ++ numberedTitle "Panel" number p.name) :: entryOf p.desc italic ++
      entryOf p.fx (fun s => "**FX:** " ++ s) ++ quote (quoteLines p lines) := by
  rw [panelSections, ← unlessBlank_collapse, ← unlessBlank_collapse]
  rfl

end ComicScript.Markdown
