import ComicScript.Proofs.Diagram.PageElements
import ComicScript.Proofs.Layout.Stray

/-!
# Sizes that fit

A size that fits a double can be divided and written. With such sizes nothing but a line of a layout that cannot be written
keeps the diagram of a page from being drawn.
-/

namespace ComicScript
set_option autoImplicit false

/-- A length that is a double, rounded. -/
def Length.Fits : Length → Prop
  | whole n => Decimal.IsSize n
  | real _ => True

namespace Length.Fits

theorem of_natAbs_lt {n : Int} (h : n.natAbs < 10 ^ 300) : (Length.whole n).Fits := by
  have cubes (k : Nat) : 10 ^ (3 * k) ≤ 2 ^ (10 * k) := by
    rw [Nat.pow_mul, Nat.pow_mul]
    exact Nat.pow_le_pow_left (by decide) k
  have split (k : Nat) : 2 ^ (30 + k) ≤ Decimal.middle k := by
    rw [Nat.pow_add]
    exact Nat.mul_le_mul_right _ (by decide)
  have powers := cubes 100
  rw [show 10 * 100 = 30 + 970 by decide] at powers
  rw [show 300 = 3 * 100 by decide] at h
  exact Nat.lt_of_lt_of_le h (powers.trans (split 970))

variable {l : Length} (h : l.Fits)
include h

/-- A part of a length that fits is a double. -/
theorem part {parts : Nat} (pos : 0 < parts) : ∃ x, l.part parts = .ok x := by
  cases l with
  | whole n => exact ⟨_, Decimal.IsSize.quotient h pos⟩
  | real x => exact ⟨_, rfl⟩

theorem writable : l.value.Writable := by
  cases l with
  | whole n =>
    intro m member
    obtain rfl := List.mem_singleton.1 member
    exact Decimal.IsSize.short h
  | real x => exact nofun

theorem exists_text : ∃ s, l.text = .ok s :=
  h.writable.exists_text

/-- What is left of a length fits, if the length is no less than what is taken. -/
theorem less {n k : Nat} (room : l.atMost k = false) (within : n ≤ k) : (l.less n).Fits := by
  cases l with
  | whole m =>
    have large : (k : Int) < m := by simpa [Length.atMost] using room
    have smaller : (m - n).natAbs ≤ m.natAbs := by omega
    exact Nat.lt_of_le_of_lt smaller h
  | real x => trivial

end Length.Fits

/-- Diagrams have sizes that fit. -/
structure Config.Fits (cfg : Config) : Prop where
  width : cfg.width.Fits
  height : cfg.height.Fits

theorem Config.fits_default : Config.Fits {} := by
  have below {n : Nat} (h : n < 10 ^ 3) : n < 10 ^ 300 :=
    Nat.lt_of_lt_of_le h (pow_le_pow_right₀ (by decide) (by decide))
  exact ⟨.of_natAbs_lt (below (by decide)), .of_natAbs_lt (below (by decide))⟩

namespace Value

@[simp] theorem writable_str (s : String) : (Value.str s).Writable := nofun

@[simp] theorem writable_float (x : Float) : (Value.float x).Writable := nofun

@[simp] theorem writable_int {n : Int} : (Value.int n).Writable ↔ Decimal.Short n := by
  simp [Writable, integers]

end Value

namespace Diagram
open Svg (Element valuesOf)

/-- A small number can be written. -/
theorem short_of_lt {n : Int} (h : n.natAbs < 1000) : Decimal.Short n :=
  Nat.lt_of_lt_of_le h (Nat.pow_le_pow_right (by decide : 0 < 10) (by decide : 3 ≤ Decimal.maxDigits))

/-- All values of some elements have a text. -/
def Writable (es : List Element) : Prop :=
  ∀ v ∈ es.flatMap valuesOf, v.Writable

theorem writable_append {a b : List Element} : Writable (a ++ b) ↔ Writable a ∧ Writable b := by
  rw [Writable, List.flatMap_append, List.forall_mem_append, Writable, Writable]

theorem writable_cons {e : Element} {es : List Element} :
    Writable (e :: es) ↔ (∀ v ∈ valuesOf e, v.Writable) ∧ Writable es := by
  rw [Writable, List.flatMap_cons, List.forall_mem_append, Writable]

theorem writable_of_forall {es : List Element} (h : ∀ e ∈ es, ∀ v ∈ valuesOf e, v.Writable) : Writable es := by
  intro v member
  obtain ⟨e, listed, inside⟩ := List.mem_flatMap.1 member
  exact h e listed v inside

theorem writable_fontSize (f : Footprint) (cellWidth cellHeight : Float) : (fontSize f cellWidth cellHeight).Writable := by
  simp only [fontSize]
  split <;> split
  all_goals first | exact Value.writable_float _ | exact Value.writable_int.2 (short_of_lt (by decide))

theorem writable_tokenElements (showNumbers : Bool) (cellWidth cellHeight : Float) (f : Footprint) :
    Writable (tokenElements showNumbers cellWidth cellHeight f) := by
  rw [tokenElements, writable_append]
  constructor
  · refine writable_of_forall fun e member => ?_
    obtain ⟨c, -, rfl⟩ := List.mem_map.1 member
    simp [cellElement, valuesOf]
  · split
    · refine writable_of_forall fun e member => ?_
      obtain rfl := List.mem_singleton.1 member
      simp [labelElement, valuesOf, writable_fontSize]
    · exact writable_of_forall (by simp)

section Fits

variable {cfg : Config} (fits : cfg.Fits)
include fits

/-- A drawing of a size that fits is written if the values of its elements are. -/
theorem document_eq {es : List Element} (h : Writable es) :
    Svg.document cfg.width.value cfg.height.value (.ok es) =
      .ok (Svg.documentText cfg.width.value cfg.height.value es) := by
  have numbers : ∀ n ∈ (cfg.width.value.integers ++ cfg.height.value.integers) ++
      Value.integersOf (es.flatMap valuesOf), Decimal.Short n := by
    rw [List.forall_mem_append, List.forall_mem_append]
    exact ⟨⟨fits.width.writable, fits.height.writable⟩, Value.forall_integersOf_iff.2 h⟩
  obtain ⟨s, written⟩ := (Svg.needsShort_document cfg.width.value cfg.height.value es).ok numbers
  obtain ⟨es', same, text⟩ := Svg.exists_of_document written
  rw [written, text, Except.ok.inj same]

theorem exists_placeholder (message : String) : ∃ svg, placeholder cfg message = .ok svg := by
  obtain ⟨x, across⟩ := fits.width.part (by decide : 0 < 2)
  obtain ⟨y, down⟩ := fits.height.part (by decide : 0 < 2)
  have values : Writable (placeholderElements cfg message x y) := by
    simp [placeholderElements, Writable, valuesOf, fits.width.writable, fits.height.writable]
    exact ⟨short_of_lt (by decide), short_of_lt (by decide)⟩
  have made : placeholder cfg message =
      Svg.document cfg.width.value cfg.height.value (.ok (placeholderElements cfg message x y)) := by
    rw [placeholder, across, down]
    rfl
  exact ⟨_, made.trans (document_eq fits values)⟩

section Room

variable (room : hasRoom cfg = true)
include room

/-- What is left of the sizes inside the margins, or inside one of them, fits. -/
theorem fits_less {n : Nat} (within : n ≤ 2 * margin) : (cfg.width.less n).Fits ∧ (cfg.height.less n).Fits := by
  have wide : cfg.width.atMost (2 * margin) = false ∧ cfg.height.atMost (2 * margin) = false := by
    simpa [hasRoom] using room
  exact ⟨fits.width.less wide.1 within, fits.height.less wide.2 within⟩

theorem writable_gridElements (columns rows : Nat) (cellWidth cellHeight : Float) :
    Writable (gridElements cfg columns rows cellWidth cellHeight) := by
  obtain ⟨wide, high⟩ := fits_less fits room (by decide : margin ≤ 2 * margin)
  have near : Decimal.Short margin := short_of_lt (by decide)
  refine writable_of_forall fun e member => ?_
  simp only [gridElements, List.mem_append, List.mem_cons, List.mem_map, List.not_mem_nil, or_false] at member
  rcases member with ((rfl | ⟨i, -, rfl⟩) | ⟨i, -, rfl⟩) | rfl
  · simp [valuesOf]
  · simp [valuesOf, near, high.writable]
  · simp [valuesOf, near, wide.writable]
  · simp [valuesOf]

theorem writable_layoutElements (l : Layout) (cellWidth cellHeight : Float) :
    Writable (layoutElements cfg l cellWidth cellHeight) := by
  obtain ⟨wide, high⟩ := fits_less fits room (Nat.le_refl _)
  have near : Decimal.Short margin := short_of_lt (by decide)
  have line : Decimal.Short 3 := short_of_lt (by decide)
  have grid : Writable (if cfg.showGrid then gridElements cfg l.width.toNat l.height.toNat cellWidth cellHeight else []) := by
    split
    · exact writable_gridElements fits room _ _ _ _
    · exact nofun
  have panels : Writable (l.footprints.flatMap (tokenElements cfg.showNumbers cellWidth cellHeight)) := by
    refine writable_of_forall fun e member => ?_
    obtain ⟨f, -, inside⟩ := List.mem_flatMap.1 member
    exact fun v value => writable_tokenElements _ _ _ f v (List.mem_flatMap.2 ⟨e, inside, value⟩)
  have ground : ∀ v ∈ valuesOf (groundElement cfg), v.Writable := by
    simp [groundElement, valuesOf, fits.width.writable, fits.height.writable]
  have frame : ∀ v ∈ valuesOf (frameElement cfg), v.Writable := by
    simp [frameElement, valuesOf, near, line, wide.writable, high.writable]
  rw [layoutElements, writable_append, writable_append, writable_cons, writable_cons]
  exact ⟨⟨⟨ground, grid⟩, panels⟩, frame, nofun⟩

/-- A layout with panels that was read is drawn in sizes that fit. -/
theorem panelsDrawing_eq {source : Value} {l : Layout} (h : Layout.parse source = .ok l) (panels : l.isEmpty = false) :
    ∃ cellWidth cellHeight, (cfg.width.less (2 * margin)).part l.width.toNat = .ok cellWidth ∧
      (cfg.height.less (2 * margin)).part l.height.toNat = .ok cellHeight ∧ panelsDrawing cfg l =
        .ok (Svg.documentText cfg.width.value cfg.height.value (layoutElements cfg l cellWidth cellHeight)) := by
  obtain ⟨wide, high⟩ := fits_less fits room (Nat.le_refl _)
  obtain ⟨columns, rows⟩ := (Layout.sound_of_parse h).size panels
  obtain ⟨cellWidth, across⟩ := wide.part (show 0 < l.width.toNat by omega)
  obtain ⟨cellHeight, down⟩ := high.part (show 0 < l.height.toNat by omega)
  refine ⟨cellWidth, cellHeight, across, down, ?_⟩
  have made : panelsDrawing cfg l =
      Svg.document cfg.width.value cfg.height.value (.ok (layoutElements cfg l cellWidth cellHeight)) := by
    rw [panelsDrawing, across, down]
    rfl
  exact made.trans (document_eq fits (writable_layoutElements fits room l cellWidth cellHeight))

end Room

/-- In sizes that fit, what can be shown of a page is drawn. -/
theorem exists_draw {slot : Option (Slot Page)} {content : Content} (h : contentOf cfg slot = .ok content) :
    ∃ svg, content.draw cfg = .ok svg := by
  have layout {p : Page} {l : Layout} (read : Layout.parse p.layout = .ok l) (shown : layoutContent cfg l = .ok content) :
      ∃ svg, content.draw cfg = .ok svg := by
    unfold layoutContent at shown
    split at shown
    · cases shown
      exact exists_placeholder fits noLayout
    · rename_i panels
      rw [Bool.not_eq_true] at panels
      split at shown
      · rename_i room
        cases shown
        obtain ⟨cellWidth, cellHeight, -, -, drawn⟩ := panelsDrawing_eq fits room read panels
        exact ⟨_, drawn⟩
      · obtain ⟨width, -, rest⟩ := exists_of_bind_eq_ok shown
        obtain ⟨height, -, same⟩ := exists_of_bind_eq_ok rest
        rw [← Except.ok.inj same]
        exact exists_placeholder fits badLayout
  unfold contentOf at h
  split at h
  · split at h
    · cases h
      exact exists_placeholder fits noLayout
    · split at h
      · rename_i l read
        exact layout read h
      · cases h
        exact exists_placeholder fits badLayout
      · cases h
  · cases h
    exact exists_placeholder fits noLayout

theorem layoutContent_ne_error (l : Layout) (c : Crash) : layoutContent cfg l ≠ .error c := by
  obtain ⟨width, across⟩ := fits.width.exists_text
  obtain ⟨height, down⟩ := fits.height.exists_text
  unfold layoutContent
  split
  · exact nofun
  · split
    · exact nofun
    · rw [across, down]
      exact nofun

/-- In sizes that fit there is a diagram beside every page, unless reading its layout crashes. -/
theorem pageDiagram_error_iff {slot : Option (Slot Page)} {c : Crash} : Preview.pageDiagram cfg slot = .error c ↔
    ∃ p, slot = some (.filled p) ∧ Layout.parse p.layout = .error (.crashed c) := by
  rw [pageDiagram_eq]
  constructor
  · intro failed
    rcases error_of_bind_eq_error failed with early | ⟨content, shown, late⟩
    · unfold contentOf at early
      split at early
      · rename_i p
        split at early
        · cases early
        · split at early
          · exact absurd early (layoutContent_ne_error fits _ c)
          · cases early
          · rename_i d read
            cases early
            exact ⟨p, rfl, read⟩
      · cases early
    · obtain ⟨svg, drawn⟩ := exists_draw fits shown
      rw [drawn] at late
      cases late
  · rintro ⟨p, rfl, crashed⟩
    have present : p.layout.isNull = false := by
      cases null : p.layout.isNull with
      | false => rfl
      | true =>
        rw [Svg.eq_null_of_isNull null] at crashed
        cases crashed
    have shown : contentOf cfg (some (.filled p)) = .error c := by
      simp only [contentOf, present, crashed, Bool.false_eq_true, if_false]
    rw [shown]
    rfl

/-- In sizes that fit a page has a diagram beside it exactly if its first line that is no text can be written. -/
theorem exists_pageDiagram_iff {slot : Option (Slot Page)} : (∃ svg, Preview.pageDiagram cfg slot = .ok svg) ↔
    ∀ p line, slot = some (.filled p) → Layout.FirstStray p.layout line → line.Writable := by
  constructor
  · rintro ⟨svg, made⟩ p line here stray
    by_contra long
    have failed := (pageDiagram_error_iff fits).2 ⟨p, here, Layout.parse_crashed_iff.2 ⟨rfl, line, stray, long⟩⟩
    rw [failed] at made
    cases made
  · intro written
    cases made : Preview.pageDiagram cfg slot with
    | ok svg => exact ⟨svg, rfl⟩
    | error c =>
      obtain ⟨p, here, crashed⟩ := (pageDiagram_error_iff fits).1 made
      obtain ⟨-, line, stray, long⟩ := Layout.parse_crashed_iff.1 crashed
      exact absurd (written p line here stray) long

/-- A page whose layout can be written has a diagram beside it. -/
theorem exists_pageDiagram {slot : Option (Slot Page)} (h : ∀ p, slot = some (.filled p) → p.layout.Writable) :
    ∃ svg, Preview.pageDiagram cfg slot = .ok svg :=
  (exists_pageDiagram_iff fits).2 fun p _ here stray => stray.writable (h p here)

end Fits

end Diagram

end ComicScript
