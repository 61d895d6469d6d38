import ComicScript.Proofs.Markdown.Fields
import ComicScript.Proofs.Text.Words
import Mathlib.Data.List.Forall2

/-!
# Blanks in free text

The names of pages and panels, what is seen and heard in a panel and what is said are free text: all that is printed of
one is its collapsed form, and a field that collapses to nothing is printed as one that is absent. So chapters that differ
only in the blanks of their free text are the same document, line by line.
-/

namespace ComicScript
set_option autoImplicit false

/-! ## Chapters part by part -/

namespace Slot

variable {α : Type}

/-- Both hold related parts, or the same thing stands in place of a part. -/
inductive Rel (R : α → α → Prop) : Slot α → Slot α → Prop
  | filled {a b : α} (h : R a b) : Rel R (.filled a) (.filled b)
  | malformed (found : Value) : Rel R (.malformed found) (.malformed found)

/-- Both hold lists of parts that are related one by one. -/
abbrev RelAll (R : α → α → Prop) : Slot (List (Slot α)) → Slot (List (Slot α)) → Prop :=
  Rel (List.Forall₂ (Rel R))

/-- Changes the part, if it is one. -/
def map (f : α → α) : Slot α → Slot α
  | filled part => filled (f part)
  | malformed found => malformed found

/-- Changes each part of a list. -/
def mapAll (f : α → α) : Slot (List (Slot α)) → Slot (List (Slot α)) :=
  map (List.map (map f))

variable {R : α → α → Prop} {f : α → α}

theorem RelAll.cases {x y : Slot (List (Slot α))} (h : RelAll R x y) :
    (∃ xs ys, x = .filled xs ∧ y = .filled ys ∧ List.Forall₂ (Rel R) xs ys) ∨
      ∃ found, x = .malformed found ∧ y = .malformed found := by
  cases h with
  | filled lists => exact .inl ⟨_, _, rfl, rfl, lists⟩
  | malformed found => exact .inr ⟨found, rfl, rfl⟩

theorem rel_map (h : ∀ a, R a (f a)) (slot : Slot α) : Rel R slot (slot.map f) := by
  cases slot with
  | filled part => exact .filled (h part)
  | malformed found => exact .malformed found

theorem relAll_mapAll (h : ∀ a, R a (f a)) (slot : Slot (List (Slot α))) : RelAll R slot (slot.mapAll f) := by
  refine rel_map (fun parts => ?_) slot
  exact List.forall₂_map_right_iff.2 (List.forall₂_same.2 fun part _ => rel_map h part)

end Slot

/-! ## Chapters with the same words -/

/-- Two lines of dialogue that differ only in the blanks of what is said. -/
structure Dialogue.Alike (d e : Dialogue) : Prop where
  character : d.character = e.character
  type : d.type = e.type
  isNarration : d.isNarration = e.isNarration
  text : Text.collapse d.text = Text.collapse e.text

/-- Two panels that differ only in the blanks of their free text; a blank field may also be absent. -/
structure Panel.Alike (p q : Panel) : Prop where
  name : Markdown.collapsed p.name = Markdown.collapsed q.name
  desc : Markdown.collapsed p.desc = Markdown.collapsed q.desc
  fx : Markdown.collapsed p.fx = Markdown.collapsed q.fx
  caption : Markdown.collapsed p.caption = Markdown.collapsed q.caption
  endCaption : Markdown.collapsed p.endCaption = Markdown.collapsed q.endCaption
  dialogue : Slot.RelAll Dialogue.Alike p.dialogue q.dialogue

/-- Two pages that differ only in the blanks of their free text. -/
structure Page.Alike (p q : Page) : Prop where
  name : Markdown.collapsed p.name = Markdown.collapsed q.name
  layout : p.layout = q.layout
  panels : Slot.RelAll Panel.Alike p.panels q.panels

/-- Two chapters that differ only in the blanks of their free text. -/
structure Chapter.Alike (c d : Chapter) : Prop where
  title : c.title = d.title
  synopsis : c.synopsis = d.synopsis
  credits : c.credits = d.credits
  pages : Slot.RelAll Page.Alike c.pages d.pages

/-! ## Changing free text -/

section Map

variable (field : Option String → Option String) (text : String → String)

/-- Changes what is said. -/
def Dialogue.mapText (d : Dialogue) : Dialogue :=
  { d with text := text d.text }

/-- Changes the free text of a panel. -/
def Panel.mapText (p : Panel) : Panel where
  name := field p.name
  desc := field p.desc
  fx := field p.fx
  caption := field p.caption
  endCaption := field p.endCaption
  dialogue := p.dialogue.mapAll (Dialogue.mapText text)

/-- Changes the free text of a page. -/
def Page.mapText (p : Page) : Page :=
  { p with name := field p.name, panels := p.panels.mapAll (Panel.mapText field text) }

/-- Changes the free text of a chapter. -/
def Chapter.mapText (c : Chapter) : Chapter :=
  { c with pages := c.pages.mapAll (Page.mapText field text) }

variable {field text} (fields : ∀ f, Markdown.collapsed (field f) = Markdown.collapsed f)
  (texts : ∀ s, Text.collapse (text s) = Text.collapse s)

include texts in
theorem Dialogue.alike_mapText (d : Dialogue) : d.Alike (d.mapText text) :=
  ⟨rfl, rfl, rfl, (texts d.text).symm⟩

include fields texts

theorem Panel.alike_mapText (p : Panel) : p.Alike (p.mapText field text) :=
  ⟨(fields p.name).symm, (fields p.desc).symm, (fields p.fx).symm, (fields p.caption).symm, (fields p.endCaption).symm,
    Slot.relAll_mapAll (Dialogue.alike_mapText texts) p.dialogue⟩

theorem Page.alike_mapText (p : Page) : p.Alike (p.mapText field text) :=
  ⟨(fields p.name).symm, rfl, Slot.relAll_mapAll (Panel.alike_mapText fields texts) p.panels⟩

/-- A change that keeps the collapsed form of every field makes a chapter that differs in blanks only. -/
theorem Chapter.alike_mapText (c : Chapter) : c.Alike (c.mapText field text) :=
  ⟨rfl, rfl, rfl, Slot.relAll_mapAll (Page.alike_mapText fields texts) c.pages⟩

end Map

namespace Markdown

/-! ## What is printed -/

theorem numberedTitle_congr {a b : Option String} (h : collapsed a = collapsed b) (kind : String) (number : Int) :
    numberedTitle kind number a = numberedTitle kind number b := by
  simp only [numberedTitle, h]

theorem entryOf_congr {a b : Option String} (h : collapsed a = collapsed b) (write : String → String) :
    entryOf a write = entryOf b write := by
  simp only [entryOf, h]

theorem dialogue_congr {d e : Dialogue} (h : d.Alike e) : dialogue d = dialogue e := by
  simp only [dialogue, h.character, h.type, h.isNarration, h.text]

/-- Alike lists of dialogue are well formed together, and their lines are printed alike. -/
theorem map_dialogue_mapM {xs ys : List (Slot Dialogue)} (h : List.Forall₂ (Slot.Rel Dialogue.Alike) xs ys) :
    (xs.mapM Slot.part?).map (·.map dialogue) = (ys.mapM Slot.part?).map (·.map dialogue) := by
  have step (d : Dialogue) (rest : List (Slot Dialogue)) :
      ((Slot.filled d :: rest).mapM Slot.part?).map (·.map dialogue) =
        ((rest.mapM Slot.part?).map (·.map dialogue)).map (dialogue d :: ·) := by
    rw [List.mapM_cons]
    cases rest.mapM Slot.part? <;> rfl
  induction h with
  | nil => rfl
  | cons first _ ih =>
    cases first with
    | malformed found => rfl
    | filled alike => rw [step, step, ih, dialogue_congr alike]

theorem panelSections_congr {p q : Panel} (h : p.Alike q) (number : Int) {lines lines' : List Dialogue}
    (said : lines.map dialogue = lines'.map dialogue) : panelSections number p lines = panelSections number q lines' := by
  have quoted : quoteLines p lines = quoteLines q lines' := by
    rw [quoteLines_eq, quoteLines_eq, entryOf_congr h.caption, entryOf_congr h.endCaption, said]
  rw [panelSections_eq, panelSections_eq, numberedTitle_congr h.name, entryOf_congr h.desc, entryOf_congr h.fx, quoted]

theorem map_dialogue_dialogue? {p q : Panel} (h : p.Alike q) :
    (dialogue? p).map (·.map dialogue) = (dialogue? q).map (·.map dialogue) := by
  rcases h.dialogue.cases with ⟨xs, ys, left, right, lists⟩ | ⟨found, left, right⟩
  · rw [dialogue?, dialogue?, left, right]
    exact map_dialogue_mapM lists
  · rw [dialogue?, dialogue?, left, right]

theorem panel_congr {x y : Slot Panel} (h : Slot.Rel Panel.Alike x y) (number : Int) : panel number x = panel number y := by
  cases h with
  | malformed found => rfl
  | @filled p q alike =>
    have said := map_dialogue_dialogue? alike
    unfold panel
    cases left : dialogue? p with
    | none =>
      rw [left, Option.map_none, eq_comm, Option.map_eq_none_iff] at said
      simp only [left, said]
    | some lines =>
      rw [left, Option.map_some, eq_comm, Option.map_eq_some_iff] at said
      obtain ⟨lines', right, same⟩ := said
      simp only [left, right]
      rw [panelSections_congr alike number same.symm]

theorem panelsFrom_congr {xs ys : List (Slot Panel)} (h : List.Forall₂ (Slot.Rel Panel.Alike) xs ys) (number : Nat) :
    panelsFrom number xs = panelsFrom number ys := by
  induction h generalizing number with
  | nil => rfl
  | cons first _ ih => rw [panelsFrom, panelsFrom, panel_congr first, ih]

theorem page_congr {x y : Slot Page} (h : Slot.Rel Page.Alike x y) (number : Int) : page number x = page number y := by
  cases h with
  | malformed found => rfl
  | filled alike =>
    rcases alike.panels.cases with ⟨xs, ys, left, right, panels⟩ | ⟨found, left, right⟩
    · simp only [page, left, right, numberedTitle_congr alike.name, panelsFrom_congr panels]
    · simp only [page, left, right]

theorem pagesFrom_congr {xs ys : List (Slot Page)} (h : List.Forall₂ (Slot.Rel Page.Alike) xs ys) (number : Nat) :
    pagesFrom number xs = pagesFrom number ys := by
  induction h generalizing number with
  | nil => rfl
  | cons first _ ih => rw [pagesFrom, pagesFrom, page_congr first, ih]

theorem document_congr {x y : Slot Chapter} (h : Slot.Rel Chapter.Alike x y) : document x = document y := by
  cases h with
  | malformed found => rfl
  | @filled c d alike =>
    have header : headerSections c = headerSections d := by
      rw [headerSections, headerSections, Chapter.heading?, Chapter.heading?, alike.title, alike.synopsis, alike.credits]
    rcases alike.pages.cases with ⟨xs, ys, left, right, pages⟩ | ⟨found, left, right⟩
    · simp only [document, left, right, header, pagesFrom_congr pages]
    · simp only [document, left, right]

/-- A field, but for one that collapses to nothing. -/
def visible? (field : Option String) : Option String :=
  field.filter fun s => !(Text.collapse s).isEmpty

theorem collapsed_visible? (field : Option String) : collapsed (visible? field) = collapsed field := by
  cases field with
  | none => rfl
  | some s =>
    by_cases empty : Text.collapse s = ""
    · have dropped : visible? (some s) = none := by simp [visible?, Option.filter, empty]
      rw [dropped, collapsed_none, collapsed_some, empty]
    · have kept : visible? (some s) = some s := by simp [visible?, Option.filter, empty]
      rw [kept]

theorem collapsed_map_collapse (field : Option String) : collapsed (field.map Text.collapse) = collapsed field := by
  cases field with
  | none => rfl
  | some s => rw [Option.map_some, collapsed_some, collapsed_some, Text.collapse_collapse]

/-- **Blanks in free text.** A chapter is the same document, with the same text and the same lines for its page headings,
whichever texts with the same collapsed form stand in the names of its pages and panels, in what is seen and heard in its
panels and in what is said: it may be the collapsed form itself, and a field that collapses to nothing may be absent. -/
theorem document_ignores_blanks (slot : Slot Chapter) :
    (∀ other, Slot.Rel Chapter.Alike slot other → document other = document slot) ∧
      document (slot.map (Chapter.mapText (·.map Text.collapse) Text.collapse)) = document slot ∧
      document (slot.map (Chapter.mapText visible? id)) = document slot := by
  refine ⟨fun other alike => (document_congr alike).symm, ?_, ?_⟩
  · refine (document_congr (Slot.rel_map (fun c => ?_) slot)).symm
    exact c.alike_mapText collapsed_map_collapse Text.collapse_collapse
  · refine (document_congr (Slot.rel_map (fun c => ?_) slot)).symm
    exact c.alike_mapText collapsed_visible? fun _ => rfl

/-- Other blanks in the name of a page and in a line of dialogue, and an absent description for a blank one. -/
theorem document_ignores_blanks_panel :
    let chapter (name desc : Option String) (said : String) : Slot Chapter :=
      .filled ⟨.null, none, none, .filled [.filled ⟨name, .null, .filled [.filled
        ⟨none, desc, none, none, none, .filled [.filled ⟨"Ann", said, speechType, false⟩]⟩]⟩]⟩
    let slot := chapter (some "The\tend ") (some "\u2003\n") "so\r\n it is"
    let other := chapter (some "The end") none "so it is"
    Slot.Rel Chapter.Alike slot other ∧ document other = document slot := by
  intro chapter slot other
  have line : Dialogue.Alike ⟨"Ann", "so\r\n it is", speechType, false⟩ ⟨"Ann", "so it is", speechType, false⟩ :=
    ⟨rfl, rfl, rfl, by decide⟩
  have panel : Panel.Alike ⟨none, some "\u2003\n", none, none, none, .filled [.filled _]⟩
      ⟨none, none, none, none, none, .filled [.filled _]⟩ :=
    ⟨rfl, by decide, rfl, rfl, rfl, .filled (.cons (.filled line) .nil)⟩
  have page : Page.Alike ⟨some "The\tend ", .null, .filled [.filled _]⟩ ⟨some "The end", .null, .filled [.filled _]⟩ :=
    ⟨by decide, rfl, .filled (.cons (.filled panel) .nil)⟩
  have alike : Slot.Rel Chapter.Alike slot other :=
    .filled ⟨rfl, rfl, rfl, .filled (.cons (.filled page) .nil)⟩
  exact ⟨alike, (document_ignores_blanks slot).1 other alike⟩

end Markdown

end ComicScript
