import ComicScript.Proofs.Diagram.PageElements
import ComicScript.Proofs.Markup.Drawing

/-!
# Diagrams as markup

Every element of a diagram is one of the tags of a document. The text that a diagram shows is that of its labels.
-/

namespace ComicScript.Markup
set_option autoImplicit false
open Diagram

/-! ## The forms of the elements -/

@[simp] theorem isNull_str (s : String) : (Value.str s).isNull = false := rfl

@[simp] theorem isNull_int (n : Int) : (Value.int n).isNull = false := rfl

@[simp] theorem isNull_float (x : Float) : (Value.float x).isNull = false := rfl

@[simp] theorem isNull_value (l : Length) : l.value.isNull = false := by
  cases l <;> rfl

@[simp] theorem isNull_fontSize (f : Footprint) (cellWidth cellHeight : Float) :
    (fontSize f cellWidth cellHeight).isNull = false := by
  simp only [fontSize]
  split <;> split <;> rfl

/-- The forms of the elements of a diagram: the names of their attributes, between a name and an end. -/
def forms : List (String × List String × String) :=
  [("rect ", ["width", "height", "fill"], "/"),
    ("rect ", ["width", "height", "fill", "stroke", "stroke_width"], "/"),
    ("rect ", ["x", "y", "width", "height", "fill"], "/"),
    ("rect ", ["x", "y", "width", "height", "fill", "stroke", "stroke_width"], "/"),
    ("g ", ["stroke", "stroke_width"], ""),
    ("text ", ["x", "y", "text_anchor", "font_family", "font_size", "fill"], ""),
    ("text ", ["x", "y", "text_anchor", "dominant_baseline", "font_family", "font_size", "font_weight", "fill"], "")]

theorem isForm_of_mem_forms {lead final : String} {names : List String} (h : (lead, names, final) ∈ forms) :
    IsForm lead names final := by
  have lead_plain : ∀ form ∈ forms, Plain form.1.toList := by decide
  have final_plain : ∀ form ∈ forms, Plain form.2.2.toList := by decide
  have names_plain : ∀ form ∈ forms, ∀ name ∈ form.2.1, Plain (Svg.attributeName name).toList := by
    decide
  have known : ∀ form ∈ forms, form.1 ++ " ".intercalate (form.2.1.map attributeOutline) ++ form.2.2 ∈ outlines := by
    simp [forms, attributeOutline, Svg.attributeName, outlines]
  exact ⟨known _ h, lead_plain _ h, final_plain _ h, names_plain _ h⟩

theorem known_of_mem_placeholderElements {cfg : Config} {message : String} {x y : Float} {e : Svg.Element}
    (h : e ∈ placeholderElements cfg message x y) : Known e := by
  simp only [placeholderElements, List.mem_cons, List.not_mem_nil, or_false] at h
  rcases h with rfl | rfl
  · exact ⟨isForm_of_mem_forms (by simp [forms]), by simp⟩
  · exact ⟨isForm_of_mem_forms (by simp [forms]), by simp⟩

theorem known_of_mem_tokenElements {showNumbers : Bool} {cellWidth cellHeight : Float} {f : Footprint} {e : Svg.Element}
    (h : e ∈ tokenElements showNumbers cellWidth cellHeight f) : Known e := by
  rw [tokenElements, List.mem_append] at h
  rcases h with cell | label
  · obtain ⟨c, -, rfl⟩ := List.mem_map.1 cell
    exact ⟨isForm_of_mem_forms (by simp [forms]), by simp⟩
  · split at label
    · obtain rfl := List.mem_singleton.1 label
      exact ⟨isForm_of_mem_forms (by simp [forms]), by simp⟩
    · cases label

theorem known_of_mem_gridElements {cfg : Config} {columns rows : Nat} {cellWidth cellHeight : Float} {e : Svg.Element}
    (h : e ∈ gridElements cfg columns rows cellWidth cellHeight) : Known e := by
  simp only [gridElements, List.mem_append, List.mem_cons, List.mem_map, List.not_mem_nil, or_false] at h
  rcases h with ((rfl | ⟨i, -, rfl⟩) | ⟨i, -, rfl⟩) | rfl
  · exact ⟨isForm_of_mem_forms (by simp [forms]), by simp⟩
  · simp [Known]
  · simp [Known]
  · trivial

theorem known_of_mem_layoutElements {cfg : Config} {l : Layout} {cellWidth cellHeight : Float} {e : Svg.Element}
    (h : e ∈ layoutElements cfg l cellWidth cellHeight) : Known e := by
  simp only [layoutElements, List.mem_append, List.mem_cons, List.mem_flatMap, List.not_mem_nil, or_false] at h
  rcases h with ((rfl | grid) | ⟨f, -, panel⟩) | rfl
  · exact ⟨isForm_of_mem_forms (by simp [forms]), by simp⟩
  · split at grid
    · exact known_of_mem_gridElements grid
    · cases grid
  · exact known_of_mem_tokenElements panel
  · exact ⟨isForm_of_mem_forms (by simp [forms]), by simp⟩

/-! ## Labels -/

/-- The text of the labels of what a diagram shows. -/
def contentLabels (cfg : Config) : Content → List Char
  | .message text => text.toList
  | .panels l => if cfg.showNumbers then l.footprints.flatMap (·.label.toList) else []

/-- The text of the labels of the diagram beside a page. -/
def labels (cfg : Config) (slot : Option (Slot Page)) : List Char :=
  match contentOf cfg slot with
  | .ok content => contentLabels cfg content
  | .error _ => []

theorem flatMap_shown_tokenElements (showNumbers : Bool) (cellWidth cellHeight : Float) (f : Footprint) :
    (tokenElements showNumbers cellWidth cellHeight f).flatMap shown = if showNumbers then f.label.toList else [] := by
  have cells : (cellElements cellWidth cellHeight f).flatMap shown = [] := by
    refine List.flatMap_eq_nil_iff.2 fun e member => ?_
    obtain ⟨c, -, rfl⟩ := List.mem_map.1 member
    rfl
  rw [tokenElements, List.flatMap_append, cells]
  cases showNumbers with
  | true => exact List.append_nil _
  | false => rfl

theorem flatMap_shown_layoutElements (cfg : Config) (l : Layout) (cellWidth cellHeight : Float) :
    (layoutElements cfg l cellWidth cellHeight).flatMap shown = contentLabels cfg (.panels l) := by
  have grid : (if cfg.showGrid then gridElements cfg l.width.toNat l.height.toNat cellWidth cellHeight else []).flatMap
      shown = [] := by
    refine List.flatMap_eq_nil_iff.2 fun e member => ?_
    split at member
    · simp only [gridElements, List.mem_append, List.mem_cons, List.mem_map, List.not_mem_nil, or_false] at member
      rcases member with ((rfl | ⟨i, -, rfl⟩) | ⟨i, -, rfl⟩) | rfl
      all_goals rfl
    · cases member
  have panels : (l.footprints.flatMap (tokenElements cfg.showNumbers cellWidth cellHeight)).flatMap shown =
      contentLabels cfg (.panels l) := by
    rw [List.flatMap_assoc, contentLabels]
    simp only [flatMap_shown_tokenElements]
    cases cfg.showNumbers with
    | true => rfl
    | false => simp
  have ground : shown (groundElement cfg) = [] := rfl
  have frame : shown (frameElement cfg) = [] := rfl
  rw [layoutElements, List.flatMap_append, List.flatMap_append, List.flatMap_cons, grid, panels, ground,
    List.flatMap_singleton, frame, List.nil_append, List.nil_append, List.append_nil]

/-- A diagram is a whole drawing of known elements, which show its labels. -/
theorem exists_elements_of_draw {cfg : Config} {content : Content} {svg : String} (h : content.draw cfg = .ok svg) :
    ∃ es, (∀ e ∈ es, Known e) ∧ es.flatMap shown = contentLabels cfg content ∧
      svg = Svg.documentText cfg.width.value cfg.height.value es := by
  cases content with
  | message text =>
    obtain ⟨es, made, rfl⟩ := Svg.exists_of_document h
    obtain ⟨x, -, rest⟩ := exists_of_bind_eq_ok made
    obtain ⟨y, -, same⟩ := exists_of_bind_eq_ok rest
    obtain rfl := Except.ok.inj same
    exact ⟨_, fun e member => known_of_mem_placeholderElements member, List.append_nil _, rfl⟩
  | panels l =>
    obtain ⟨cellWidth, -, rest⟩ := exists_of_bind_eq_ok h
    obtain ⟨cellHeight, -, drawn⟩ := exists_of_bind_eq_ok rest
    obtain ⟨es, same, rfl⟩ := Svg.exists_of_document drawn
    obtain rfl := Except.ok.inj same
    exact ⟨_, fun e member => known_of_mem_layoutElements member,
      flatMap_shown_layoutElements cfg l cellWidth cellHeight, rfl⟩

/-- The diagram beside a page is a whole drawing of known elements, which show its labels. -/
theorem exists_elements_of_pageDiagram {cfg : Config} {slot : Option (Slot Page)} {svg : String}
    (h : Preview.pageDiagram cfg slot = .ok svg) : ∃ es, (∀ e ∈ es, Known e) ∧ es.flatMap shown = labels cfg slot ∧
      svg = Svg.documentText cfg.width.value cfg.height.value es := by
  rw [pageDiagram_eq] at h
  obtain ⟨content, found, drawn⟩ := exists_of_bind_eq_ok h
  rw [labels, found]
  exact exists_elements_of_draw drawn

/-- The diagram beside a page shows its labels. -/
theorem shows_pageDiagram {cfg : Config} {slot : Option (Slot Page)} {svg : String}
    (h : Preview.pageDiagram cfg slot = .ok svg) : Shows svg (labels cfg slot) := by
  obtain ⟨es, known, labelled, rfl⟩ := exists_elements_of_pageDiagram h
  rw [← labelled]
  exact shows_document cfg.width cfg.height known

end ComicScript.Markup
