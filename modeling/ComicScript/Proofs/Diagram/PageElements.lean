import ComicScript.Preview.Sections
import ComicScript.Proofs.Diagram.Written
import ComicScript.Proofs.Layout.Sound

/-!
# The diagram beside a page

Whatever a page is and whatever stands for its layout, there is a whole drawing beside it: the diagram of its layout, or a
placeholder with a message. Only a size or a line of a layout that cannot be written comes in between.
-/

namespace ComicScript.Diagram
set_option autoImplicit false
open Svg (Element)

/-! ## Elements -/

/-- The cells of a panel, and its token as a label if labels are shown. -/
def tokenElements (showNumbers : Bool) (cellWidth cellHeight : Float) (f : Footprint) : List Element :=
  cellElements cellWidth cellHeight f ++ if showNumbers then [labelElement cellWidth cellHeight f f.label] else []

/-- The elements of a diagram whose panels all have tokens. -/
def layoutElements (cfg : Config) (l : Layout) (cellWidth cellHeight : Float) : List Element :=
  let grid := if cfg.showGrid then gridElements cfg l.width.toNat l.height.toNat cellWidth cellHeight else []
  groundElement cfg :: grid ++ l.footprints.flatMap (tokenElements cfg.showNumbers cellWidth cellHeight) ++
    [frameElement cfg]

theorem panelElements_eq {f : Footprint} (h : f.label.isEmpty = false) (showNumbers : Bool) (cellWidth cellHeight : Float) :
    panelElements showNumbers cellWidth cellHeight f = .ok (tokenElements showNumbers cellWidth cellHeight f) := by
  have token : label f = .ok f.label := by
    rw [label, h]
    rfl
  unfold panelElements tokenElements
  cases showNumbers with
  | true =>
    rw [if_pos rfl, if_pos rfl, token]
    rfl
  | false =>
    rw [if_neg Bool.false_ne_true, if_neg Bool.false_ne_true, List.append_nil]

theorem panelsElements_eq {footprints : List Footprint} (h : ∀ f ∈ footprints, f.label.isEmpty = false)
    (showNumbers : Bool) (cellWidth cellHeight : Float) :
    panelsElements showNumbers cellWidth cellHeight footprints =
      .ok (footprints.flatMap (tokenElements showNumbers cellWidth cellHeight)) := by
  induction footprints with
  | nil => rfl
  | cons f rest ih =>
    rw [List.forall_mem_cons] at h
    rw [panelsElements, panelElements_eq h.1, ih h.2, List.flatMap_cons]
    rfl

/-- Where all panels have tokens no label has to be made of a number. -/
theorem elements_eq {l : Layout} (h : ∀ f ∈ l.footprints, f.label.isEmpty = false) (cfg : Config)
    (cellWidth cellHeight : Float) : elements cfg l cellWidth cellHeight = .ok (layoutElements cfg l cellWidth cellHeight) := by
  rw [elements, panelsElements_eq h]
  rfl

/-- The drawing of a layout with panels. -/
def panelsDrawing (cfg : Config) (l : Layout) : Except Crash String := do
  let cellWidth ← (cfg.width.less (2 * margin)).part l.width.toNat
  let cellHeight ← (cfg.height.less (2 * margin)).part l.height.toNat
  Svg.document cfg.width.value cfg.height.value (.ok (layoutElements cfg l cellWidth cellHeight))

/-! ## What is drawn -/

/-- What a diagram shows. -/
inductive Content
  | message (text : String)
  | panels (l : Layout)

/-- The diagram that shows something. -/
def Content.draw (cfg : Config) : Content → Except Crash String
  | message text => placeholder cfg text
  | panels l => panelsDrawing cfg l

/-- What the diagram of a layout that was read shows: without room for its panels it is refused, and the sizes are written
to say so. -/
def layoutContent (cfg : Config) (l : Layout) : Except Crash Content :=
  if l.isEmpty then .ok (.message noLayout)
  else if hasRoom cfg then .ok (.panels l)
  else do
    let _ ← cfg.width.text
    let _ ← cfg.height.text
    return .message badLayout

/-- What stands beside a page. -/
def contentOf (cfg : Config) (slot : Option (Slot Page)) : Except Crash Content :=
  match slot with
  | some (.filled p) =>
    if p.layout.isNull then .ok (.message noLayout)
    else
      match Layout.parse p.layout with
      | .ok l => layoutContent cfg l
      | .error (.refused _) => .ok (.message badLayout)
      | .error (.crashed c) => .error c
  | _ => .ok (.message noLayout)

theorem label_of_parse {source : Value} {l : Layout} (h : Layout.parse source = .ok l) :
    ∀ f ∈ l.footprints, f.label.isEmpty = false :=
  fun f member => (Layout.sound_of_parse h f member).label

/-- A layout with panels that was read has a grid with cells. -/
theorem size_of_parse {source : Value} {l : Layout} (h : Layout.parse source = .ok l) (panels : l.isEmpty = false) :
    ¬ (l.width ≤ 0 ∨ l.height ≤ 0) := by
  obtain ⟨columns, rows⟩ := (Layout.sound_of_parse h).size panels
  omega

/-- A layout with panels is drawn where there is room. -/
theorem draw_of_hasRoom {cfg : Config} {source : Value} {l : Layout} (h : Layout.parse source = .ok l)
    (panels : l.isEmpty = false) (room : hasRoom cfg = true) :
    draw cfg l = (panelsDrawing cfg l).mapError .crashed := by
  unfold draw panelsDrawing
  rw [panels, room, if_neg Bool.false_ne_true, Bool.not_true, if_neg Bool.false_ne_true, if_neg (size_of_parse h panels)]
  cases (cfg.width.less (2 * margin)).part l.width.toNat with
  | error c => rfl
  | ok cellWidth =>
    cases (cfg.height.less (2 * margin)).part l.height.toNat with
    | error c => rfl
    | ok cellHeight =>
      have same := elements_eq (label_of_parse h) cfg cellWidth cellHeight
      change (Svg.document cfg.width.value cfg.height.value (elements cfg l cellWidth cellHeight)).mapError Stop.crashed = _
      rw [same]
      rfl

theorem draw_of_isEmpty {cfg : Config} {l : Layout} (h : l.isEmpty = true) :
    draw cfg l = (placeholder cfg noLayout).mapError .crashed := by
  rw [draw, if_pos h]
  rfl

/-- Without room for its panels a layout is refused, if the sizes can be written. -/
theorem draw_of_not_hasRoom {cfg : Config} {l : Layout} (panels : l.isEmpty = false) (room : hasRoom cfg = false) :
    draw cfg l =
      match cfg.width.text, cfg.height.text with
      | .ok width, .ok height => .error (.refused (.noRoom width height))
      | .error c, _ => .error (.crashed c)
      | .ok _, .error c => .error (.crashed c) := by
  unfold draw
  rw [panels, room, if_neg Bool.false_ne_true, Bool.not_false, if_pos rfl]
  cases cfg.width.text with
  | error c => rfl
  | ok width => cases cfg.height.text <;> rfl

/-- What is never refused is shown. -/
theorem shown_of_mapError (drawing other : Except Crash String) :
    (match (drawing.mapError Stop.crashed : Except (Stop LayoutError) String) with
      | .ok svg => .ok svg
      | .error (.refused _) => other
      | .error (.crashed c) => .error c) = drawing := by
  cases drawing <;> rfl

/-- The diagram beside a page is a whole drawing of what stands there. -/
theorem pageDiagram_eq (cfg : Config) (slot : Option (Slot Page)) :
    Preview.pageDiagram cfg slot = contentOf cfg slot >>= Content.draw cfg := by
  cases slot with
  | none => rfl
  | some slot =>
    cases slot with
    | malformed found => rfl
    | filled p =>
      cases null : p.layout.isNull with
      | true => simp only [Preview.pageDiagram, contentOf, null, if_true]; rfl
      | false =>
        simp only [Preview.pageDiagram, contentOf, null, Bool.false_eq_true, if_false, ofSource]
        cases read : Layout.parse p.layout with
        | error e => cases e <;> rfl
        | ok l =>
          change (match draw cfg l with
            | .ok svg => .ok svg
            | .error (.refused _) => placeholder cfg badLayout
            | .error (.crashed c) => .error c) = layoutContent cfg l >>= Content.draw cfg
          unfold layoutContent
          cases empty : l.isEmpty with
          | true =>
            rw [draw_of_isEmpty empty, if_pos rfl]
            exact shown_of_mapError _ _
          | false =>
            cases room : hasRoom cfg with
            | true =>
              rw [draw_of_hasRoom read empty room, if_neg Bool.false_ne_true, if_pos rfl]
              exact shown_of_mapError _ _
            | false =>
              rw [draw_of_not_hasRoom empty room, if_neg Bool.false_ne_true, if_neg Bool.false_ne_true]
              cases cfg.width.text with
              | error c => rfl
              | ok width => cases cfg.height.text <;> rfl

end ComicScript.Diagram
