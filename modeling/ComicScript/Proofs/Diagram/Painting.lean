import ComicScript.Proofs.Diagram.Layouts
import ComicScript.Proofs.Layout.Printed
import ComicScript.Proofs.Markup.Elements
import ComicScript.Proofs.Text.Words
import Mathlib.Data.List.Forall2
import Mathlib.Data.List.Nodup

/-!
# What a diagram paints

A diagram of a layout is one picture, whatever is shown of it: its ground, the lines of its grid, its panels in the order of
the layout and its frame. Each cell that is not blank is under one rectangle, in the colour of the token that the grid shows
there. Labels and lines are left out of the picture or put into it without a change to anything else.
-/

namespace ComicScript
set_option autoImplicit false

namespace Layout

/-! ## Cells and tokens -/

namespace PanelsOf

variable {grid : List (List Char)} {panels : List Footprint} (h : PanelsOf grid panels)
include h

/-- No cell is in two panels. -/
theorem disjoint_cells : panels.Pairwise fun f g => f.cells.Disjoint g.cells := by
  refine (List.pairwise_map.1 h.distinct).imp_of_mem fun {f g} left right different c here there => ?_
  obtain ⟨token, name, shown⟩ := (h.cells f left c).1 here
  obtain ⟨other, name', shown'⟩ := (h.cells g right c).1 there
  rw [shown.unique shown'] at name
  exact different (name.trans name'.symm)

theorem nodup_cells : (panels.flatMap (·.cells)).Nodup := by
  refine List.nodup_flatMap.2 ⟨fun f member => ?_, h.disjoint_cells⟩
  refine (h.rowMajor f member).imp fun {c d} before same => ?_
  subst same
  simp only [Cell.Before] at before
  omega

/-- The cells of the panels are all that are not blank. -/
theorem mem_cells_iff (c : Cell) : c ∈ panels.flatMap (·.cells) ↔ ∃ token, token ≠ blank ∧ Shows grid token c := by
  rw [List.mem_flatMap]
  constructor
  · rintro ⟨f, member, cell⟩
    obtain ⟨token, -, shown⟩ := (h.cells f member c).1 cell
    refine ⟨token, ?_, shown⟩
    rintro rfl
    exact h.uncovered c shown f member cell
  · rintro ⟨token, visible, shown⟩
    obtain ⟨f, here, -⟩ := h.covered token c shown visible
    exact ⟨f, here⟩

end PanelsOf

/-- The tokens of a layout that is read are no blank characters. -/
theorem isBlank_of_shows {source : Value} {l : Layout} (h : parse source = .ok l) {token : Char} {c : Cell}
    (shown : Shows l.grid token c) (visible : token ≠ blank) : Text.isBlank token = false := by
  obtain ⟨lines, rfl⟩ := exists_ofLines_of_parse h
  obtain ⟨x, y, -, found⟩ := shown
  obtain ⟨row, listed, cell⟩ := Option.bind_eq_some_iff.1 found
  have kept := (isRow_of_mem_grid (List.mem_of_getElem? listed)).cells token (List.mem_of_getElem? cell)
  have printed : printedCell token = token := if_neg visible
  have clean := isBlank_printedCell kept
  rwa [printed] at clean

end Layout

namespace Diagram

open Svg (Element documentText elementText)

/-! ## Pictures -/

/-- The rectangles over the cells of a panel, and its label. -/
structure PaintedPanel where
  cells : List Element
  label : Element

/-- All that a diagram can show. -/
structure Picture where
  ground : Element
  grid : List Element
  panels : List PaintedPanel
  frame : Element

def PaintedPanel.elements (labels : Bool) (p : PaintedPanel) : List Element :=
  p.cells ++ if labels then [p.label] else []

/-- The elements of a picture, with its labels and the lines of its grid if they are shown. -/
def Picture.elements (labels grid : Bool) (p : Picture) : List Element :=
  p.ground :: (if grid then p.grid else []) ++ p.panels.flatMap (·.elements labels) ++ [p.frame]

/-- Whether an element is a text. -/
def isText : Element → Bool
  | .text .. => true
  | _ => false

/-- The rectangle over a cell of a size in the colour of a number. -/
def tile (width height : Float) (number : Int) (c : Cell) : Element :=
  .rect [("x", .float (place (Decimal.ofInt c.x) width)), ("y", .float (place (Decimal.ofInt c.y) height)),
    ("width", .float width), ("height", .float height), ("fill", .str (Colour.ofNumber number).text)]

/-- A panel is painted as a token in cells of a size: there is one rectangle for each cell in which the grid shows the token,
in the colour of the token's number, and the label is read as the token between the two tags of a text. -/
structure PaintsPanel (l : Layout) (width height : Float) (token : Char) (f : Footprint) (p : PaintedPanel) : Prop where
  name : f.label = String.singleton token
  visible : token ≠ Layout.blank
  members : ∀ c, c ∈ f.cells ↔ Layout.Shows l.grid token c
  cells : ∃ number, Layout.sortKey [token] = .ok number ∧ p.cells = f.cells.map (tile width height number)
  label : isText p.label = true
  text : ∃ s opening, p.label.render = .ok s ∧ Markup.read? s = some [.tag opening, .char token, .tag "/text".toList]

/-- The lines of a grid in one group: one beside each column and each row, and one at either end. -/
def IsGrid (l : Layout) (elements : List Element) : Prop :=
  ∃ attributes lines, elements = .openGroup attributes :: lines ++ [.closeGroup] ∧
    (lines.length : Int) = (l.width + 1) + (l.height + 1) ∧ ∀ e ∈ lines, ∃ x1 y1 x2 y2, e = .line x1 y1 x2 y2

/-- A picture shows a layout: the room inside the margins is divided evenly, the panels are painted in their order, and all
cells that are not blank are under their rectangles, each once. -/
structure Picture.Paints (cfg : Config) (l : Layout) (p : Picture) : Prop where
  ground : p.ground = .rect [("width", cfg.width.value), ("height", cfg.height.value), ("fill", .str "white")]
  grid : IsGrid l p.grid
  panels : ∃ width height, (cfg.width.less (2 * margin)).part l.width.toNat = .ok width ∧
    (cfg.height.less (2 * margin)).part l.height.toNat = .ok height ∧
    List.Forall₂ (fun f q => ∃ token, PaintsPanel l width height token f q) l.footprints p.panels
  order : l.footprints.Pairwise fun f g =>
    f.number < g.number ∨ f.number = g.number ∧ ∃ c ∈ f.cells, ∀ d ∈ g.cells, c.Before d
  once : (l.footprints.flatMap (·.cells)).Nodup
  all : ∀ c, c ∈ l.footprints.flatMap (·.cells) ↔ ∃ token, token ≠ Layout.blank ∧ Layout.Shows l.grid token c
  frame : p.frame = .rect [("x", .int margin), ("y", .int margin), ("width", (cfg.width.less (2 * margin)).value),
    ("height", (cfg.height.less (2 * margin)).value), ("fill", .str "none"), ("stroke", .str "#333"),
    ("stroke_width", .int 3)]

/-! ## Elements -/

/-- What is painted of a panel. -/
def paintedPanel (cellWidth cellHeight : Float) (f : Footprint) : PaintedPanel :=
  ⟨cellElements cellWidth cellHeight f, labelElement cellWidth cellHeight f f.label⟩

/-- What is painted of a layout. -/
def picture (cfg : Config) (l : Layout) (cellWidth cellHeight : Float) : Picture :=
  ⟨groundElement cfg, gridElements cfg l.width.toNat l.height.toNat cellWidth cellHeight,
    l.footprints.map (paintedPanel cellWidth cellHeight), frameElement cfg⟩

theorem layoutElements_eq (cfg : Config) (l : Layout) (cellWidth cellHeight : Float) (labels grid : Bool) :
    layoutElements { cfg with showNumbers := labels, showGrid := grid } l cellWidth cellHeight =
      (picture cfg l cellWidth cellHeight).elements labels grid := by
  simp only [layoutElements, Picture.elements, picture, List.flatMap_map]
  rfl

/-- The label of a panel is read as its token. -/
theorem read?_labelElement {f : Footprint} {token : Char} (name : f.label = String.singleton token)
    (visible : Text.isBlank token = false) (cellWidth cellHeight : Float) :
    ∃ s opening, (labelElement cellWidth cellHeight f f.label).render = .ok s ∧
      Markup.read? s = some [.tag opening, .char token, .tag "/text".toList] := by
  have inside : labelElement cellWidth cellHeight f f.label ∈ tokenElements true cellWidth cellHeight f :=
    List.mem_append_right _ List.mem_cons_self
  have values := writable_tokenElements true cellWidth cellHeight f
  have written := Svg.render_eq_ok fun v member => values v (List.mem_flatMap.2 ⟨_, inside, member⟩)
  have content : Text.collapse (Svg.contentText (.str f.label)) = String.singleton token := by
    rw [Svg.contentText_str, name]
    exact Text.collapse_singleton visible
  have tokens : Markup.tokensOf (labelElement cellWidth cellHeight f f.label) =
      .tag (Svg.insideOf (labelElement cellWidth cellHeight f f.label)).toList ::
        (Text.collapse (Svg.contentText (.str f.label))).toList.map .char ++ [.tag "/text".toList] := rfl
  refine ⟨_, (Svg.insideOf (labelElement cellWidth cellHeight f f.label)).toList, written, ?_⟩
  rw [Markup.read?_elementText (Markup.plain_of_known (Markup.known_of_mem_tokenElements inside)), tokens, content,
    String.toList_singleton]
  rfl

/-- A panel of a layout that is read is painted. -/
theorem paintsPanel {source : Value} {l : Layout} (h : Layout.parse source = .ok l) {f : Footprint}
    (member : f ∈ l.footprints) (cellWidth cellHeight : Float) :
    ∃ token, PaintsPanel l cellWidth cellHeight token f (paintedPanel cellWidth cellHeight f) := by
  have panels := Layout.panelsOf_of_parse h
  obtain ⟨token, c, name, visible, shown⟩ := (panels.labels f.label).1 (List.mem_map_of_mem member)
  have number := panels.numbers f member
  rw [name, String.toList_singleton] at number
  have members (d : Cell) : d ∈ f.cells ↔ Layout.Shows l.grid token d := by
    rw [panels.cells f member d, name]
    constructor
    · rintro ⟨other, same, there⟩
      rwa [String.singleton_inj.1 same]
    · exact fun there => ⟨token, rfl, there⟩
  exact ⟨token, name, visible, members, ⟨f.number, number, rfl⟩, rfl,
    read?_labelElement name (Layout.isBlank_of_shows h shown visible) _ _⟩

theorem isGrid_gridElements {l : Layout} (across : 0 < l.width) (down : 0 < l.height) (cfg : Config)
    (cellWidth cellHeight : Float) : IsGrid l (gridElements cfg l.width.toNat l.height.toNat cellWidth cellHeight) := by
  refine ⟨_, _, rfl, ?_, ?_⟩
  · rw [List.append_eq, List.length_append, List.length_map, List.length_map, List.length_range, List.length_range]
    omega
  · intro e member
    rcases List.mem_append.1 member with column | row
    · obtain ⟨i, -, rfl⟩ := List.mem_map.1 column
      exact ⟨_, _, _, _, rfl⟩
    · obtain ⟨i, -, rfl⟩ := List.mem_map.1 row
      exact ⟨_, _, _, _, rfl⟩

theorem picture_paints (cfg : Config) {source : Value} {l : Layout} (h : Layout.parse source = .ok l)
    (panels : l.isEmpty = false) {cellWidth cellHeight : Float}
    (wide : (cfg.width.less (2 * margin)).part l.width.toNat = .ok cellWidth)
    (high : (cfg.height.less (2 * margin)).part l.height.toNat = .ok cellHeight) :
    (picture cfg l cellWidth cellHeight).Paints cfg l := by
  have parts := Layout.panelsOf_of_parse h
  obtain ⟨across, down⟩ := (Layout.sound_of_parse h).size panels
  refine ⟨rfl, isGrid_gridElements across down cfg _ _, ⟨cellWidth, cellHeight, wide, high, ?_⟩, parts.ordered,
    parts.nodup_cells, parts.mem_cells_iff, rfl⟩
  exact List.forall₂_map_right_iff.2 (List.forall₂_same.2 fun f member => paintsPanel h member _ _)

/-- Without its label a panel has no text. -/
theorem PaintsPanel.elements_false {l : Layout} {width height : Float} {token : Char} {f : Footprint}
    {p : PaintedPanel} (h : PaintsPanel l width height token f p) : p.elements false = (p.elements true).filter (!isText ·) := by
  obtain ⟨number, -, tiles⟩ := h.cells
  have cells : p.cells.filter (!isText ·) = p.cells := by
    rw [tiles]
    refine List.filter_eq_self.2 fun e member => ?_
    obtain ⟨c, -, rfl⟩ := List.mem_map.1 member
    rfl
  simp [PaintedPanel.elements, cells, h.label]

theorem flatMap_elements_false {l : Layout} {width height : Float} {footprints : List Footprint} {panels : List PaintedPanel}
    (h : List.Forall₂ (fun f q => ∃ token, PaintsPanel l width height token f q) footprints panels) :
    panels.flatMap (·.elements false) = (panels.flatMap (·.elements true)).filter (!isText ·) := by
  induction h with
  | nil => rfl
  | cons first _ ih =>
    obtain ⟨token, painted⟩ := first
    rw [List.flatMap_cons, List.flatMap_cons, List.filter_append, ← painted.elements_false, ih]

/-- A grid has no text. -/
theorem IsGrid.filter {l : Layout} {elements : List Element} (h : IsGrid l elements) :
    elements.filter (!isText ·) = elements := by
  obtain ⟨attributes, lines, rfl, -, each⟩ := h
  refine List.filter_eq_self.2 fun e member => ?_
  simp only [List.mem_append, List.mem_cons, List.not_mem_nil, or_false] at member
  rcases member with (rfl | line) | rfl
  · rfl
  · obtain ⟨x1, y1, x2, y2, rfl⟩ := each e line
    rfl
  · rfl

/-- Without labels just the texts of a picture are left out. -/
theorem Picture.Paints.elements_false {cfg : Config} {l : Layout} {p : Picture} (h : p.Paints cfg l) (grid : Bool) :
    p.elements false grid = (p.elements true grid).filter (!isText ·) := by
  have lines : (if grid then p.grid else []).filter (!isText ·) = if grid then p.grid else [] := by
    cases grid with
    | true => exact h.grid.filter
    | false => rfl
  have ground : isText p.ground = false := by rw [h.ground]; rfl
  have frame : isText p.frame = false := by rw [h.frame]; rfl
  obtain ⟨width, height, -, -, each⟩ := h.panels
  rw [Picture.elements, Picture.elements, flatMap_elements_false each, List.filter_append, List.filter_append,
    List.filter_cons_of_pos (by simp [ground]), lines, List.filter_cons_of_pos (by simp [frame]), List.filter_nil]

/-! ## The text of a diagram -/

/-- **A diagram paints its layout.** A layout that is read and has panels is drawn in sizes that fit wherever there is room
inside the margins. One picture that paints the layout is behind all of its diagrams: each is the document of what is shown
of the picture, and is read as its elements one by one. Without labels just the texts are left out, and without a grid just
its group. -/
theorem ofSource_paints {cfg : Config} (fits : cfg.Fits) {source : Value} {l : Layout} (h : Layout.parse source = .ok l)
    (panels : l.isEmpty = false) (across : cfg.width.atMost (2 * margin) = false)
    (down : cfg.height.atMost (2 * margin) = false) :
    ∃ p : Picture, p.Paints cfg l ∧
      (∀ labels grid, ofSource { cfg with showNumbers := labels, showGrid := grid } source =
        .ok (documentText cfg.width.value cfg.height.value (p.elements labels grid))) ∧
      (∃ opening, ∀ labels grid, Markup.read? (documentText cfg.width.value cfg.height.value (p.elements labels grid)) =
        some (.tag opening :: (p.elements labels grid).flatMap Markup.tokensOf ++ [.tag "/svg".toList])) ∧
      (∀ grid, p.elements false grid = (p.elements true grid).filter (!isText ·)) ∧
      ∀ labels, ∃ above, p.elements labels true = p.ground :: p.grid ++ above ∧
        p.elements labels false = p.ground :: above := by
  have room : hasRoom cfg = true := by rw [hasRoom, across, down]; rfl
  obtain ⟨cellWidth, cellHeight, wide, high, -⟩ := panelsDrawing_eq fits room h panels
  have paints := picture_paints cfg h panels wide high
  refine ⟨picture cfg l cellWidth cellHeight, paints, ?drawn, ?read, paints.elements_false, ?lines⟩
  case drawn =>
    intro labels grid
    let shown : Config := { cfg with showNumbers := labels, showGrid := grid }
    obtain ⟨width, height, wide', high', drawn⟩ := @panelsDrawing_eq shown ⟨fits.width, fits.height⟩ room _ _ h panels
    obtain rfl := Except.ok.inj (wide.symm.trans wide')
    obtain rfl := Except.ok.inj (high.symm.trans high')
    have made : draw shown l = (panelsDrawing shown l).mapError .crashed := draw_of_hasRoom h panels room
    rw [ofSource_of_parse h, made, drawn, layoutElements_eq]
    rfl
  case read =>
    refine ⟨_, fun labels grid => Markup.read?_documentText cfg.width cfg.height fun e member => ?_⟩
    rw [← layoutElements_eq] at member
    exact Markup.plain_of_known (Markup.known_of_mem_layoutElements member)
  case lines =>
    intro labels
    exact ⟨_, List.append_assoc .., rfl⟩

/-- Two panels with one number, the first of them in two pieces, and one with a token that is escaped. -/
theorem ofSource_paints_pieces :
    let l : Layout := ⟨["3 :".toList, "< 3".toList], [⟨"3", 3, [⟨0, 0⟩, ⟨2, 1⟩], ⟨0, 0, 3, 2⟩⟩,
      ⟨":", 3, [⟨2, 0⟩], ⟨2, 0, 1, 1⟩⟩, ⟨"<", 5, [⟨0, 1⟩], ⟨0, 1, 1, 1⟩⟩], 3, 2⟩
    Config.Fits {} ∧ Layout.parse (.list [.str "3 :", .str "<.3"]) = .ok l ∧ ∃ p : Picture, p.Paints {} l ∧
      p.panels.length = 3 ∧
      ofSource {} (.list [.str "3 :", .str "<.3"]) = .ok (documentText (.int 400) (.int 600) (p.elements true false)) := by
  intro l
  have ordered : l.footprints.mergeSort (fun a b => decide (a.number ≤ b.number)) = l.footprints :=
    List.mergeSort_of_pairwise (by decide)
  have parsed : Layout.parse (.list [.str "3 :", .str "<.3"]) = .ok l :=
    congrArg (fun panels => Except.ok (Layout.mk ["3 :".toList, "< 3".toList] panels 3 2)) ordered
  have across : (Length.whole 400).atMost (2 * margin) = false := by decide
  have down : (Length.whole 600).atMost (2 * margin) = false := by decide
  obtain ⟨p, paints, drawn, -⟩ := @ofSource_paints {} Config.fits_default _ _ parsed rfl across down
  obtain ⟨width, height, -, -, each⟩ := paints.panels
  exact ⟨Config.fits_default, parsed, p, paints, each.length_eq.symm, drawn true false⟩

end Diagram

end ComicScript
