import ComicScript.Proofs.Diagram.Layouts
import ComicScript.Proofs.Markdown.Fields
import ComicScript.Proofs.Output.Files
import ComicScript.Proofs.Text.PhysicalLines
import Mathlib.Data.List.Basic

/-!
# The table of an index

A line of the table is cut at its bars, but for those with a backslash right before them. Whatever the name of a page is,
its line is one line of five cells, and without the backslashes before bars the second cell is the name as it is shown.
-/

namespace ComicScript
set_option autoImplicit false

namespace Text.Chars

/-- A text on one line, without blanks at its ends: its only blanks are spaces. -/
structure Neat (s : List Char) : Prop where
  spaces : ∀ c ∈ s, c = ' ' ∨ isBlank c = false
  first : ∀ c ∈ s.head?, isBlank c = false
  last : ∀ c ∈ s.getLast?, isBlank c = false

theorem neat_of_visible {s : List Char} (h : ∀ c ∈ s, isBlank c = false) : Neat s :=
  ⟨fun c member => .inr (h c member), fun c first => h c (List.mem_of_mem_head? first),
    fun c last => h c (List.mem_of_mem_getLast? last)⟩

theorem neat_collapse (s : List Char) : Neat (collapse s) := by
  refine ⟨fun c => eq_space_or_of_mem_collapse, fun c first => ?_, fun c last => ?_⟩
  · refine (eq_space_or_of_mem_collapse (List.mem_of_mem_head? first)).resolve_left ?_
    rintro rfl
    exact head?_collapse_ne s first
  · refine (eq_space_or_of_mem_collapse (List.mem_of_mem_getLast? last)).resolve_left ?_
    rintro rfl
    exact getLast?_collapse_ne s last

/-- Neat texts that are joined, with spaces between them or not, are neat. -/
theorem Neat.append {a b : List Char} (ha : Neat a) (hb : Neat b) (left : a ≠ []) (right : b ≠ []) (between : List Char)
    (spaces : ∀ c ∈ between, c = ' ' ∨ isBlank c = false) : Neat (a ++ between ++ b) := by
  refine ⟨fun c member => ?_, fun c first => ha.first c ?_, fun c last => hb.last c ?_⟩
  · rw [List.mem_append, List.mem_append] at member
    exact member.elim (fun before => before.elim (ha.spaces c) (spaces c)) (hb.spaces c)
  · rwa [List.append_assoc, List.head?_append_of_ne_nil _ left] at first
  · rwa [List.getLast?_append_of_ne_nil _ right] at last

theorem Neat.trim_eq {s : List Char} (h : Neat s) : trim s = s := by
  have front : s.dropWhile isBlank = s := by
    cases s with
    | nil => rfl
    | cons c rest => rw [List.dropWhile_cons_of_neg (by simp [h.first c rfl])]
  have back := trimRight_append h.last []
  rw [List.append_nil] at back
  rw [trim, front, back]
  exact List.append_nil s

theorem isLineEnd_eq_false {c : Char} (h : c = ' ' ∨ isBlank c = false) : isLineEnd c = false := by
  rcases h with rfl | visible
  · decide
  · rw [Bool.eq_false_iff, ne_eq, isBlank_iff] at visible
    simp only [isLineEnd, decide_eq_false_iff_not, List.mem_cons, List.not_mem_nil, or_false] at visible ⊢
    omega

end Text.Chars

namespace Suite
open Text.Chars (Neat replaceChar replaceChar_of_not_mem)

/-! ## Cells -/

/-- The pieces of a text between the bars that have no backslash right before them; `escaped` says that one stands before
the text. -/
def piecesFrom (escaped : Bool) : List Char → List (List Char)
  | [] => [[]]
  | c :: rest =>
    if c = '|' ∧ escaped = false then [] :: piecesFrom false rest
    else (piecesFrom (c == '\\') rest).modifyHead (c :: ·)

/-- A line of a table has some cells: each stands with a space on either side between two bars, and no other bar cuts it. -/
def HasCells (line : String) (cells : List String) : Prop :=
  piecesFrom false line.toList = [] :: cells.map (fun cell => ' ' :: cell.toList ++ [' ']) ++ [[]]

example : HasCells "| 1 | a\\|b\\ |" ["1", "a\\|b\\"] := rfl

/-- Every bar of a text has a backslash right before it; `escaped` says that one stands before the text. -/
inductive Solid : Bool → List Char → Prop
  | nil (escaped : Bool) : Solid escaped []
  | cons {escaped : Bool} {c : Char} {rest : List Char} (bar : c = '|' → escaped = true) (more : Solid (c == '\\') rest) :
      Solid escaped (c :: rest)

theorem solid_of_not_mem {s : List Char} (h : '|' ∉ s) (escaped : Bool) : Solid escaped s := by
  induction s generalizing escaped with
  | nil => exact .nil escaped
  | cons c rest ih =>
    rw [List.mem_cons, not_or] at h
    exact .cons (fun bar => absurd bar.symm h.1) (ih h.2 _)

/-- A character of a cell: a bar stands behind a backslash. -/
def cellChar (c : Char) : List Char :=
  if c = '|' then ['\\', '|'] else [c]

/-- A text whose bars are escaped is solid, whether or not it has backslashes of its own. -/
theorem solid_flatMap_cellChar (s : List Char) (escaped : Bool) : Solid escaped (s.flatMap cellChar) := by
  induction s generalizing escaped with
  | nil => exact .nil escaped
  | cons c rest ih =>
    rw [List.flatMap_cons, cellChar]
    split
    · exact .cons (fun bar => absurd bar (by decide)) (.cons (fun _ => by decide) (ih _))
    · rename_i other
      exact .cons (fun bar => absurd bar other) (ih _)

/-- A solid text is cut off at the bar that follows a space behind it. -/
theorem piecesFrom_solid {cell : List Char} {escaped : Bool} (h : Solid escaped cell) (rest : List Char) :
    piecesFrom escaped (cell ++ ' ' :: '|' :: rest) = (cell ++ [' ']) :: piecesFrom false rest := by
  induction h with
  | nil escaped => simp [piecesFrom]
  | @cons escaped c cell bar more ih =>
    have joined : ¬ (c = '|' ∧ escaped = false) := fun ⟨cuts, free⟩ => Bool.false_ne_true (free.symm.trans (bar cuts))
    rw [List.cons_append, piecesFrom, if_neg joined, ih]
    rfl

/-- The characters of a line of a table. -/
theorem toList_line (cell : String) (others : List String) :
    ("| " ++ " | ".intercalate (cell :: others) ++ " |").toList =
      '|' :: (cell :: others).flatMap fun cell => ' ' :: cell.toList ++ [' ', '|'] := by
  induction others generalizing cell with
  | nil => simp
  | cons next others ih =>
    have rest := ih next
    simp only [String.toList_append, List.flatMap_cons] at rest ⊢
    rw [String.intercalate_cons_cons]
    simp only [String.toList_append]
    simp_all

/-- A line of solid cells has those cells. -/
theorem hasCells_line {cell : String} {others : List String}
    (solid : ∀ c ∈ cell :: others, ∀ escaped, Solid escaped c.toList) :
    HasCells ("| " ++ " | ".intercalate (cell :: others) ++ " |") (cell :: others) := by
  have cut (cells : List String) (solid : ∀ c ∈ cells, ∀ escaped, Solid escaped c.toList) :
      piecesFrom false (cells.flatMap fun cell => ' ' :: cell.toList ++ [' ', '|']) =
        cells.map (fun cell => ' ' :: cell.toList ++ [' ']) ++ [[]] := by
    induction cells with
    | nil => rfl
    | cons c rest ih =>
      have padded : Solid false (' ' :: c.toList) :=
        .cons (fun bar => absurd bar (by decide)) (solid c List.mem_cons_self _)
      have here := piecesFrom_solid padded (rest.flatMap fun cell => ' ' :: cell.toList ++ [' ', '|'])
      rw [ih fun d member => solid d (List.mem_cons_of_mem c member)] at here
      simpa using here
  rw [HasCells, toList_line, piecesFrom, if_pos ⟨rfl, rfl⟩, cut _ solid]
  rfl

/-! ## Escaped text -/

/-- Drops the backslashes that stand right before bars. -/
def unescapeBars : List Char → List Char
  | '\\' :: '|' :: rest => '|' :: unescapeBars rest
  | c :: rest => c :: unescapeBars rest
  | [] => []

theorem unescapeBars_cons {c : Char} {rest : List Char} (single : c = '\\' → rest.head? ≠ some '|') :
    unescapeBars (c :: rest) = c :: unescapeBars rest := by
  refine unescapeBars.eq_2 c rest fun more slash bar => ?_
  exact single slash (by rw [bar]; rfl)

/-- An escaped text does not begin with a bar. -/
theorem head?_flatMap_cellChar (s : List Char) : (s.flatMap cellChar).head? ≠ some '|' := by
  cases s with
  | nil => simp
  | cons c rest =>
    rw [List.flatMap_cons, cellChar]
    split
    · simp
    · rename_i other
      simpa using other

/-- Escaping can be undone, whatever backslashes the text has. -/
theorem unescapeBars_flatMap_cellChar (s : List Char) : unescapeBars (s.flatMap cellChar) = s := by
  induction s with
  | nil => rfl
  | cons c rest ih =>
    rw [List.flatMap_cons, cellChar]
    split
    · rename_i bar
      rw [bar, List.cons_append, List.cons_append, List.nil_append, unescapeBars, ih]
    · -- a backslash of the text stays: a bar behind it has one of its own
      rw [List.singleton_append, unescapeBars_cons fun _ => head?_flatMap_cellChar rest, ih]

/-- The last of the replacements treats each character by itself. -/
theorem replaceChar_bar (s : List Char) : replaceChar '|' "\\|" s = s.flatMap cellChar := rfl

/-- A neat text becomes a cell by escaping its bars. -/
theorem toList_tableCell {s : String} (h : Neat s.toList) : (tableCell s).toList = s.toList.flatMap cellChar := by
  -- a neat text has no line ends to be replaced and no blanks to be trimmed
  have none {c : Char} (ends : Text.Chars.isLineEnd c = true) : c ∉ s.toList := by
    intro member
    rw [Text.Chars.isLineEnd_eq_false (h.spaces c member)] at ends
    cases ends
  rw [tableCell, String.toList_ofList, replaceChar_of_not_mem (none (c := '\r') (by decide)),
    replaceChar_of_not_mem (none (c := '\n') (by decide)), h.trim_eq, replaceChar_bar]

theorem solid_tableCell (s : String) (escaped : Bool) : Solid escaped (tableCell s).toList := by
  rw [tableCell, String.toList_ofList, replaceChar_bar]
  exact solid_flatMap_cellChar _ escaped

theorem visible_of_mem_toString {n : Nat} {c : Char} (h : c ∈ (toString n).toList) : Text.isBlank c = false :=
  Decimal.isBlank_of_isNumeral (Decimal.isNumeral_of_mem_toString_nat h)

theorem bar_not_mem_toString (n : Nat) : '|' ∉ (toString n).toList := fun member =>
  absurd (Decimal.isNumeral_of_mem_toString_nat member) (by decide)

/-- A number is a cell as it is. -/
theorem tableCell_toString (n : Nat) : tableCell (toString n) = toString n := by
  have neat : Neat (toString n).toList := Text.Chars.neat_of_visible fun _ => visible_of_mem_toString
  have unchanged : ∀ c ∈ (toString n).toList, cellChar c = [c] := by
    intro c member
    refine if_neg ?_
    rintro rfl
    exact bar_not_mem_toString n member
  rw [← String.toList_inj, toList_tableCell neat, List.flatMap_congr unchanged, List.flatMap_singleton']

/-! ## The line of a page -/

theorem neat_displayName (number : Nat) (p : Page) : Neat (displayName number p).toList := by
  have digits : Neat (toString number).toList := Text.Chars.neat_of_visible fun _ => visible_of_mem_toString
  have digit : (toString number).toList ≠ [] := by
    rw [Nat.toString_eq_ofList_toDigits, String.toList_ofList]
    exact Nat.toDigits_ne_nil
  have title : Neat ("Page " ++ toString number).toList := by
    have page : Neat "Page".toList := Text.Chars.neat_of_visible (List.forall_iff_forall_mem.1 (by decide))
    have numbered := page.append digits (by decide) digit [' '] (by simp)
    rwa [String.toList_append]
  unfold displayName
  split
  · exact title
  · rename_i named
    have name : Neat (Markdown.collapsed p.name).toList := by
      cases p.name with
      | none => exact Text.Chars.neat_of_visible nofun
      | some s =>
        rw [Markdown.collapsed_some, Text.collapse, String.toList_ofList]
        exact Text.Chars.neat_collapse _
    have some : (Markdown.collapsed p.name).toList ≠ [] := by simpa using named
    have whole := title.append name (by simp) some ": ".toList (List.forall_iff_forall_mem.1 (by decide))
    rwa [String.toList_append, String.toList_append]

/-- A character of the name of a diagram is no blank and no bar. -/
theorem of_mem_filename {number : Nat} {c : Char} (h : c ∈ (filename number).toList) :
    Text.isBlank c = false ∧ c ≠ '|' := by
  have letters : ∀ d ∈ "page_".toList ++ ".svg".toList, Text.isBlank d = false ∧ d ≠ '|' :=
    List.forall_iff_forall_mem.1 (by decide)
  rw [toList_filename] at h
  simp only [List.mem_append] at h
  rcases h with (lead | zeros | digits) | ending
  · exact letters c (List.mem_append_left _ lead)
  · rw [List.eq_of_mem_replicate zeros]
    decide
  · have digit := Decimal.isNumeral_of_mem_toDigits digits
    refine ⟨Decimal.isBlank_of_isNumeral digit, ?_⟩
    rintro rfl
    exact absurd digit (by decide)
  · exact letters c (List.mem_append_right _ ending)

/-- A link to the diagram with a number. -/
def link (number : Nat) : String :=
  "[" ++ filename number ++ "](" ++ filename number ++ ")"

theorem of_mem_link {number : Nat} {c : Char} (h : c ∈ (link number).toList) : Text.isBlank c = false ∧ c ≠ '|' := by
  have brackets : ∀ d ∈ ['[', ']', '(', ')'], Text.isBlank d = false ∧ d ≠ '|' := List.forall_iff_forall_mem.1 (by decide)
  have parts : c ∈ ['[', ']', '(', ')'] ∨ c ∈ (filename number).toList := by
    have opening : "[".toList ⊆ ['[', ']', '(', ')'] := by decide
    have middle : "](".toList ⊆ ['[', ']', '(', ')'] := by decide
    have ending : ")".toList ⊆ ['[', ']', '(', ')'] := by decide
    simp only [link, String.toList_append, List.mem_append] at h
    rcases h with (((opens | name) | closes) | name) | ends
    · exact .inl (opening opens)
    · exact .inr name
    · exact .inl (middle closes)
    · exact .inr name
    · exact .inl (ending ends)
  exact parts.elim (brackets c) of_mem_filename

/-- What a cell can be: its bars are escaped and its only blanks are spaces. -/
structure IsCell (cell : String) : Prop where
  solid : ∀ escaped, Solid escaped cell.toList
  spaces : ∀ c ∈ cell.toList, c = ' ' ∨ Text.isBlank c = false

theorem IsCell.of_visible {cell : String} (h : ∀ c ∈ cell.toList, Text.isBlank c = false ∧ c ≠ '|') : IsCell cell :=
  ⟨solid_of_not_mem fun member => (h _ member).2 rfl, fun c member => .inr (h c member).1⟩

theorem isCell_toString (n : Nat) : IsCell (toString n) :=
  ⟨solid_of_not_mem (bar_not_mem_toString n), fun _ member => .inr (visible_of_mem_toString member)⟩

theorem isCell_tableCell {s : String} (h : Neat s.toList) : IsCell (tableCell s) := by
  refine ⟨solid_tableCell s, fun c member => ?_⟩
  rw [toList_tableCell h] at member
  obtain ⟨d, inside, written⟩ := List.mem_flatMap.1 member
  unfold cellChar at written
  split at written
  · have marks : ∀ e ∈ ['\\', '|'], Text.isBlank e = false := List.forall_iff_forall_mem.1 (by decide)
    exact .inr (marks c written)
  · rw [List.mem_singleton.1 written]
    exact h.spaces d inside

/-- A line of cells is one line and has those cells. -/
theorem line_of_cells {cell : String} {others : List String} (h : ∀ c ∈ cell :: others, IsCell c) :
    Text.physicalLines ("| " ++ " | ".intercalate (cell :: others) ++ " |") =
      ["| " ++ " | ".intercalate (cell :: others) ++ " |"] ∧
    HasCells ("| " ++ " | ".intercalate (cell :: others) ++ " |") (cell :: others) := by
  refine ⟨?_, hasCells_line fun c member => (h c member).solid⟩
  rw [Text.physicalLines, toList_line, Text.Chars.physicalLines_eq_singleton (List.cons_ne_nil _ _), ← toList_line,
    List.map_singleton, String.ofList_toList]
  intro c member
  refine Text.Chars.isLineEnd_eq_false ?_
  rcases List.mem_cons.1 member with rfl | inside
  · exact .inr (by decide)
  · obtain ⟨d, listed, padded⟩ := List.mem_flatMap.1 inside
    rcases List.mem_cons.1 padded with rfl | behind
    · exact .inl rfl
    · rcases List.mem_append.1 behind with own | ending
      · exact (h d listed).spaces c own
      · have final : ∀ e ∈ [' ', '|'], e = ' ' ∨ Text.isBlank e = false := List.forall_iff_forall_mem.1 (by decide)
        exact final c ending

/-- A line lists a page: it is one line with five cells, the number, the name, the number of panels that the page lists, the
number of panels of its layout, or nothing if it has none, and a link to the diagram. -/
structure Lists (line : String) (number : Nat) (p : Page) (panels : Nat) : Prop where
  one_line : Text.physicalLines line = [line]
  cells : ∃ layout, HasCells line [toString number, tableCell (displayName number p), toString panels, layout, link number] ∧
    ((p.layout.isNull = true ∧ layout = "") ∨ ∃ l, Layout.parse p.layout = .ok l ∧ layout = toString l.footprints.length)
  name : unescapeBars (tableCell (displayName number p)).toList = (displayName number p).toList

theorem lists_row {p : Page} (loaded : p.Loaded) (number : Nat) :
    Lists (row number p (textOf (layoutCount p))) number p (panelCount p) := by
  have neat := neat_displayName number p
  obtain ⟨layout, cell, written, counted⟩ : ∃ layout, IsCell layout ∧ tableCell (textOf (layoutCount p)) = layout ∧
      ((p.layout.isNull = true ∧ layout = "") ∨
        ∃ l, Layout.parse p.layout = .ok l ∧ layout = toString l.footprints.length) := by
    rcases layoutCount_of_loaded loaded with ⟨null, none⟩ | ⟨l, parsed, count⟩
    · exact ⟨"", .of_visible (by simp), by rw [none]; rfl, .inl ⟨null, rfl⟩⟩
    · exact ⟨_, isCell_toString _, by rw [count, textOf_ok, tableCell_toString], .inr ⟨l, parsed, rfl⟩⟩
  have cells : ∀ c ∈ [toString number, tableCell (displayName number p), toString (panelCount p), layout, link number],
      IsCell c := by
    simp only [List.forall_mem_cons]
    exact ⟨isCell_toString _, isCell_tableCell neat, isCell_toString _, cell, .of_visible fun _ => of_mem_link, by simp⟩
  obtain ⟨one, five⟩ := line_of_cells cells
  have same : "| " ++ " | ".intercalate [toString number, tableCell (displayName number p), toString (panelCount p), layout,
      link number] ++ " |" = row number p (textOf (layoutCount p)) := by
    rw [row, written]
    rfl
  rw [same] at one five
  exact ⟨one, ⟨layout, five, counted⟩, by rw [toList_tableCell neat, unescapeBars_flatMap_cellChar]⟩

end Suite

end ComicScript
