import ComicScript.Diagram.Svg
import ComicScript.Proofs.Value.Text

/-!
# Written elements

An element of a drawing is written exactly if every integer among its values is short enough for a numeral. Then it is a
fixed text around the texts of its values.
-/

namespace ComicScript.Svg
set_option autoImplicit false
open Value (integersOf integersOf_append needsShort_text)

/-! ## Attributes -/

/-- The text of a value of an attribute, where it has one. -/
def valueText (v : Value) : String :=
  textOf (attributeValue v)

/-- The text of what a label says, where it has one. -/
def contentText (v : Value) : String :=
  textOf v.text

theorem valueText_of_ok {v : Value} {s : String} (h : attributeValue v = .ok s) : valueText v = s := by
  rw [valueText, h, textOf_ok]

theorem contentText_of_ok {v : Value} {s : String} (h : v.text = .ok s) : contentText v = s := by
  rw [contentText, h, textOf_ok]

@[simp] theorem contentText_str (s : String) : contentText (.str s) = s := rfl

/-- A value is written in an attribute exactly if it has a text. -/
theorem needsShort_attributeValue (v : Value) : NeedsShort (attributeValue v) v.integers := by
  cases v with
  | int n => exact Value.needsShort_intText n
  | float x => exact .pure _
  | _ => exact (needsShort_text _).bind_pure _

/-- The attributes that are not null. -/
def present (as : List Attribute) : List Attribute :=
  as.filter (!·.2.isNull)

/-- An attribute with its value as it is written. -/
def written (a : Attribute) : String :=
  attributeName a.1 ++ "=\"" ++ valueText a.2 ++ "\""

/-- The attributes that are not null as they are written. -/
def attributesText (as : List Attribute) : String :=
  " ".intercalate ((present as).map written)

theorem attributeList_cons {v : Value} (given : v.isNull = false) (name : String) (rest : List Attribute) :
    attributeList ((name, v) :: rest) = attributeValue v >>= fun shown => attributeList rest >>= fun others =>
      .ok ((attributeName name ++ "=\"" ++ shown ++ "\"") :: others) := by
  cases v with
  | null => cases given
  | _ => rfl

theorem attributeList_null (name : String) (rest : List Attribute) :
    attributeList ((name, .null) :: rest) = attributeList rest := rfl

theorem eq_null_of_isNull {v : Value} (h : v.isNull = true) : v = .null := by
  cases v <;> first | rfl | cases h

/-- Attributes are written exactly if all their values have a text. -/
theorem needsShort_attributeList (as : List Attribute) :
    NeedsShort (attributeList as) (integersOf (as.map (·.2))) := by
  induction as with
  | nil => exact .pure _
  | cons a rest ih =>
    obtain ⟨name, v⟩ := a
    cases null : v.isNull with
    | true =>
      rw [eq_null_of_isNull null, attributeList_null]
      exact ih
    | false =>
      rw [attributeList_cons null]
      exact (needsShort_attributeValue v).bind fun _ _ => ih.bind_pure _

theorem eq_of_attributeList {as : List Attribute} {parts : List String} (h : attributeList as = .ok parts) :
    parts = (present as).map written := by
  induction as generalizing parts with
  | nil => exact (Except.ok.inj h).symm
  | cons a rest ih =>
    obtain ⟨name, v⟩ := a
    cases null : v.isNull with
    | true =>
      rw [eq_null_of_isNull null, attributeList_null] at h
      rw [ih h, present, present, List.filter_cons_of_neg (by simp [null])]
    | false =>
      rw [attributeList_cons null] at h
      obtain ⟨shown, value, more⟩ := exists_of_bind_eq_ok h
      obtain ⟨others, following, same⟩ := exists_of_bind_eq_ok more
      rw [← Except.ok.inj same, ih following, present, present, List.filter_cons_of_pos (by simp [null]), List.map_cons,
        written, valueText_of_ok value]

theorem needsShort_attributes (as : List Attribute) : NeedsShort (attributes as) (integersOf (as.map (·.2))) :=
  (needsShort_attributeList as).bind_pure _

theorem eq_of_attributes {as : List Attribute} {s : String} (h : attributes as = .ok s) : s = attributesText as := by
  obtain ⟨parts, listed, same⟩ := exists_of_bind_eq_ok h
  rw [← Except.ok.inj same, eq_of_attributeList listed, attributesText]

/-! ## Elements -/

/-- The values of an element. -/
def valuesOf : Element → List Value
  | .rect as => as.map (·.2)
  | .line x1 y1 x2 y2 => [x1, y1, x2, y2]
  | .text content as => as.map (·.2) ++ [content]
  | .openGroup as => as.map (·.2)
  | .closeGroup => []

/-- What stands between the angle brackets of an element, for a label between those of its first tag. -/
def insideOf : Element → String
  | .rect as => "rect " ++ attributesText as ++ "/"
  | .line x1 y1 x2 y2 => "line " ++ attributesText [("x1", x1), ("y1", y1), ("x2", x2), ("y2", y2)] ++ "/"
  | .text _ as => "text " ++ attributesText as
  | .openGroup as => "g " ++ attributesText as
  | .closeGroup => "/g"

/-- What stands behind the tag of an element, which is the end of a label. -/
def behindOf : Element → String
  | .text content _ => Text.escapeSvg (contentText content) ++ "</text>"
  | .rect _ | .line .. | .openGroup _ | .closeGroup => ""

/-- The text of an element, where all of its values have one. -/
def elementText (e : Element) : String :=
  "<" ++ insideOf e ++ ">" ++ behindOf e

/-- An element is written exactly if all of its values have a text. -/
theorem needsShort_render (e : Element) : NeedsShort e.render (integersOf (valuesOf e)) := by
  cases e with
  | rect as => exact (needsShort_attributes as).bind_pure _
  | line x1 y1 x2 y2 => exact (needsShort_attributes [("x1", x1), ("y1", y1), ("x2", x2), ("y2", y2)]).bind_pure _
  | text content as =>
    have said : integersOf [content] = content.integers := List.append_nil _
    rw [valuesOf, integersOf_append, said]
    exact (needsShort_attributes as).bind fun _ _ => (needsShort_text content).bind_pure _
  | openGroup as => exact (needsShort_attributes as).bind_pure _
  | closeGroup => exact .pure _

theorem eq_of_render {e : Element} {s : String} (h : e.render = .ok s) : s = elementText e := by
  cases e with
  | rect as =>
    obtain ⟨shown, listed, same⟩ := exists_of_bind_eq_ok h
    rw [← Except.ok.inj same, eq_of_attributes listed, elementText, insideOf, behindOf]
    simp [← String.toList_inj]
  | line x1 y1 x2 y2 =>
    obtain ⟨shown, listed, same⟩ := exists_of_bind_eq_ok h
    rw [← Except.ok.inj same, eq_of_attributes listed, elementText, insideOf, behindOf]
    generalize attributesText [("x1", x1), ("y1", y1), ("x2", x2), ("y2", y2)] = as
    simp [← String.toList_inj]
  | text content as =>
    obtain ⟨shown, listed, more⟩ := exists_of_bind_eq_ok h
    obtain ⟨label, said, same⟩ := exists_of_bind_eq_ok more
    rw [← Except.ok.inj same, eq_of_attributes listed, ← contentText_of_ok said, elementText, insideOf, behindOf]
    simp [← String.toList_inj]
  | openGroup as =>
    obtain ⟨shown, listed, same⟩ := exists_of_bind_eq_ok h
    rw [← Except.ok.inj same, eq_of_attributes listed, elementText, insideOf, behindOf]
    simp [← String.toList_inj]
  | closeGroup => exact (Except.ok.inj h).symm

/-- An element whose values have a text is written. -/
theorem render_eq_ok {e : Element} (h : ∀ v ∈ valuesOf e, v.Writable) : e.render = .ok (elementText e) := by
  obtain ⟨s, written⟩ := (needsShort_render e).ok (Value.forall_integersOf_iff.2 h)
  rw [written, eq_of_render written]

theorem needsShort_renderAll (es : List Element) : NeedsShort (renderAll es) (integersOf (es.flatMap valuesOf)) := by
  induction es with
  | nil => exact .pure _
  | cons e rest ih =>
    rw [List.flatMap_cons, integersOf_append]
    exact (needsShort_render e).bind fun _ _ => ih.bind_pure _

theorem eq_of_renderAll {es : List Element} {s : String} (h : renderAll es = .ok s) :
    s = String.join (es.map elementText) := by
  induction es generalizing s with
  | nil => exact (Except.ok.inj h).symm
  | cons e rest ih =>
    obtain ⟨first, here, more⟩ := exists_of_bind_eq_ok h
    obtain ⟨others, following, same⟩ := exists_of_bind_eq_ok more
    rw [← Except.ok.inj same, eq_of_render here, ih following, List.map_cons, String.join_cons]

/-! ## Drawings -/

/-- The text of a number in a drawing, where it has one. -/
def plainText (v : Value) : String :=
  textOf (plain v)

/-- What stands between the angle brackets of the tag that a drawing of a size begins with. -/
def openingOf (width height : String) : String :=
  "svg width=\"" ++ width ++ "\" height=\"" ++ height ++ "\" viewBox=\"0 0 " ++ width ++ " " ++ height ++
    "\" xmlns=\"http://www.w3.org/2000/svg\""

/-- The text of a drawing, where its size and all the values of its elements have one. -/
def documentText (width height : Value) (es : List Element) : String :=
  "<" ++ openingOf (plainText width) (plainText height) ++ ">" ++ String.join (es.map elementText) ++ "</svg>"

theorem plainText_of_ok {v : Value} {s : String} (h : plain v = .ok s) : plainText v = s := by
  rw [plainText, h, textOf_ok]

theorem needsShort_plain (v : Value) : NeedsShort (plain v) v.integers := by
  by_cases double : ∃ x, v = .float x
  · obtain ⟨x, rfl⟩ := double
    exact .pure _
  · have same : plain v = v.text := by
      unfold plain
      split
      · exact absurd ⟨_, rfl⟩ double
      · rfl
    rw [same]
    exact needsShort_text v

theorem needsShort_opening (width height : Value) :
    NeedsShort (opening width height) (width.integers ++ height.integers) :=
  (needsShort_plain width).bind fun _ _ => (needsShort_plain height).bind_pure _

theorem eq_of_opening {width height : Value} {s : String} (h : opening width height = .ok s) :
    s = "<" ++ openingOf (plainText width) (plainText height) ++ ">" := by
  obtain ⟨across, wide, more⟩ := exists_of_bind_eq_ok h
  obtain ⟨down, high, same⟩ := exists_of_bind_eq_ok more
  rw [plainText_of_ok wide, plainText_of_ok high, ← Except.ok.inj same]
  have flat (w h : String) : "<svg width=\"" ++ w ++ "\" height=\"" ++ h ++ "\" viewBox=\"0 0 " ++ w ++ " " ++ h ++
      "\" xmlns=\"http://www.w3.org/2000/svg\">" = "<" ++ openingOf w h ++ ">" := by
    unfold openingOf
    simp [← String.toList_inj]
  exact flat across down

theorem exists_of_document {width height : Value} {elements : Except Crash (List Element)} {s : String}
    (h : document width height elements = .ok s) :
    ∃ es, elements = .ok es ∧ s = documentText width height es := by
  obtain ⟨head, opened, more⟩ := exists_of_bind_eq_ok h
  obtain ⟨es, computed, rendered⟩ := exists_of_bind_eq_ok more
  obtain ⟨body, drawn, same⟩ := exists_of_bind_eq_ok rendered
  refine ⟨es, computed, ?_⟩
  rw [← Except.ok.inj same, eq_of_opening opened, eq_of_renderAll drawn, documentText]

/-- A drawing of elements that are known is written exactly if its size and all their values have a text. -/
theorem needsShort_document (width height : Value) (es : List Element) :
    NeedsShort (document width height (.ok es)) ((width.integers ++ height.integers) ++ integersOf (es.flatMap valuesOf)) :=
  (needsShort_opening width height).bind fun _ _ => (needsShort_renderAll es).bind_pure _

end ComicScript.Svg
