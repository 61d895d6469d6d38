import ComicScript.Diagram.Length
import ComicScript.Proofs.Diagram.Written
import ComicScript.Proofs.Markup.Escaped

/-!
# Drawings as markup

The elements of a diagram are tags with fixed attributes. What a layout or a caller brings into a diagram is a number in
the value of an attribute, or the text of a label.
-/

namespace ComicScript.Markup
set_option autoImplicit false
open Svg (Element Attribute attributeName attributeValue attributesText contentText elementText insideOf openingOf plainText
  present valueText written)

/-! ## Attributes -/

theorem svgChar_value (c : Char) : IsValue (Text.Chars.svgChar c) := by
  unfold Text.Chars.svgChar Text.Chars.htmlChar
  split
  · decide
  · split
    · decide
    · split
      · decide
      · split
        · decide
        · split
          · decide
          · rename_i quote _ _ lt gt
            intro d member
            obtain rfl := List.mem_singleton.1 member
            exact ⟨lt, gt, quote⟩

/-- Escaped text can stand in the value of an attribute. -/
theorem escapeSvg_value (s : String) : IsValue (Text.escapeSvg s).toList := by
  intro c member
  rw [Text.escapeSvg, String.toList_ofList, Text.Chars.escapeSvg_eq_flatMap] at member
  obtain ⟨d, -, written⟩ := List.mem_flatMap.1 member
  exact svgChar_value d c written

theorem isNumeral_of_mem_intText {n : Int} {s : String} (h : Decimal.intText n = .ok s) :
    ∀ c ∈ s.toList, Decimal.isNumeral c = true := by
  obtain ⟨-, rfl⟩ := Decimal.short_of_intText h
  exact fun c member => Decimal.isNumeral_of_mem_toString_int member

/-- A value is written so that it can stand between the quotes of an attribute. -/
theorem value_of_attributeValue {v : Value} {s : String} (h : attributeValue v = .ok s) : IsValue s.toList := by
  by_cases whole : ∃ n, v = .int n
  · obtain ⟨n, rfl⟩ := whole
    exact (plain_of_isNumeral (isNumeral_of_mem_intText h)).isValue
  · by_cases double : ∃ x, v = .float x
    · obtain ⟨x, rfl⟩ := double
      cases h
      exact (plain_of_isNumeral fun c member => Decimal.isNumeral_of_mem_roundedText member).isValue
    · unfold attributeValue at h
      split at h
      · exact absurd ⟨_, rfl⟩ whole
      · exact absurd ⟨_, rfl⟩ double
      · obtain ⟨text, -, same⟩ := exists_of_bind_eq_ok h
        rw [← Except.ok.inj same]
        exact escapeSvg_value text

theorem valueText_value (v : Value) : IsValue (valueText v).toList := by
  cases given : attributeValue v with
  | ok s =>
    rw [Svg.valueText_of_ok given]
    exact value_of_attributeValue given
  | error c =>
    rw [valueText, given]
    exact fun c member => absurd member List.not_mem_nil

/-- An attribute without its value. -/
def attributeOutline (name : String) : String :=
  attributeName name ++ "=\"\""

theorem attributesText_of_present {as : List Attribute} (h : ∀ a ∈ as, a.2.isNull = false) :
    attributesText as = " ".intercalate (as.map written) := by
  have all : present as = as := List.filter_eq_self.2 fun a member => by simp [h a member]
  rw [attributesText, all]

theorem outline_written {a : Attribute} (name : Plain (attributeName a.1).toList) :
    HasOutline (written a) (attributeOutline a.1) := by
  have equals := HasOutline.plain "=" (by decide)
  have parts := ((HasOutline.plain _ name).append equals).append (.value _ (valueText_value a.2))
  have text : written a = attributeName a.1 ++ "=" ++ ("\"" ++ valueText a.2 ++ "\"") := by
    simp [written, ← String.toList_inj]
  have outline : attributeOutline a.1 = attributeName a.1 ++ "=" ++ "\"\"" := by
    simp [attributeOutline, ← String.toList_inj]
  rwa [text, outline]

/-- Attributes that all have values. -/
theorem outline_attributesText {as : List Attribute} (present : ∀ a ∈ as, a.2.isNull = false)
    (names : ∀ name ∈ as.map (·.1), Plain (attributeName name).toList) :
    HasOutline (attributesText as) (" ".intercalate ((as.map (·.1)).map attributeOutline)) := by
  have each : ∀ part ∈ as.map fun a => (written a, attributeOutline a.1), HasOutline part.1 part.2 := by
    intro part member
    obtain ⟨a, inside, rfl⟩ := List.mem_map.1 member
    exact outline_written (names a.1 (List.mem_map_of_mem inside))
  have whole := HasOutline.intercalate each
  rw [attributesText_of_present present]
  simpa [Function.comp_def] using whole

/-- The attributes with some names, between a name and an end, make a tag of a document. -/
structure IsForm (lead : String) (names : List String) (final : String) : Prop where
  known : lead ++ " ".intercalate (names.map attributeOutline) ++ final ∈ outlines
  lead_plain : Plain lead.toList
  final_plain : Plain final.toList
  names_plain : ∀ name ∈ names, Plain (attributeName name).toList

/-- A tag of a known form, if all of its attributes have values. -/
theorem shows_form {lead final : String} {as : List Attribute} (form : IsForm lead (as.map (·.1)) final)
    (present : ∀ a ∈ as, a.2.isNull = false) : Shows ("<" ++ (lead ++ attributesText as ++ final) ++ ">") [] :=
  (((HasOutline.plain lead form.lead_plain).append (outline_attributesText present form.names_plain)).append
    (HasOutline.plain final form.final_plain)).shows form.known

/-! ## Elements -/

/-- What an element shows: the text of a label. -/
def shown : Element → List Char
  | .text content _ => (contentText content).toList
  | _ => []

/-- An element that is a tag of a document, or two around a text. -/
def Known : Element → Prop
  | .rect as => IsForm "rect " (as.map (·.1)) "/" ∧ ∀ a ∈ as, a.2.isNull = false
  | .line x1 y1 x2 y2 => ∀ v ∈ [x1, y1, x2, y2], v.isNull = false
  | .text _ as => IsForm "text " (as.map (·.1)) "" ∧ ∀ a ∈ as, a.2.isNull = false
  | .openGroup as => IsForm "g " (as.map (·.1)) "" ∧ ∀ a ∈ as, a.2.isNull = false
  | .closeGroup => True

theorem isForm_line : IsForm "line " ["x1", "y1", "x2", "y2"] "/" := by
  refine ⟨?_, by decide, by decide, by decide⟩
  simp [attributeOutline, attributeName, outlines]

theorem shows_element {e : Element} (h : Known e) : Shows (elementText e) (shown e) := by
  cases e with
  | rect as =>
    have tag := shows_form h.1 h.2
    rwa [elementText, Svg.behindOf, String.append_empty]
  | line x1 y1 x2 y2 =>
    have given : ∀ a ∈ [("x1", x1), ("y1", y1), ("x2", x2), ("y2", y2)], a.2.isNull = false := by
      simpa [Known] using h
    have tag := shows_form isForm_line given
    rwa [elementText, Svg.behindOf, String.append_empty]
  | text content as =>
    have opening := shows_form h.1 h.2
    rw [String.append_empty] at opening
    have closing : Shows ("<" ++ "/text" ++ ">") [] := .bare (by simp [outlines]) (by decide)
    have same : "<" ++ "/text" ++ ">" = "</text>" := by simp
    have whole := (opening.append (Shows.escapeSvg (contentText content))).append closing
    rw [same, List.nil_append, List.append_nil, String.append_assoc] at whole
    exact whole
  | openGroup as =>
    have tag := shows_form h.1 h.2
    rw [String.append_empty] at tag
    rwa [elementText, Svg.behindOf, String.append_empty]
  | closeGroup =>
    have closing : Shows ("<" ++ "/g" ++ ">") [] := .bare (by simp [outlines]) (by decide)
    rwa [elementText, Svg.behindOf, String.append_empty]

theorem isNumeral_of_mem_plainText (l : Length) : ∀ c ∈ (plainText l.value).toList, Decimal.isNumeral c = true := by
  intro c member
  cases given : Svg.plain l.value with
  | ok s =>
    rw [Svg.plainText_of_ok given] at member
    cases l with
    | whole n => exact isNumeral_of_mem_intText given c member
    | real x =>
      cases given
      exact Decimal.isNumeral_of_mem_roundedText member
  | error c =>
    rw [plainText, given] at member
    exact absurd member List.not_mem_nil

theorem number_value (l : Length) : IsValue (plainText l.value).toList :=
  (plain_of_isNumeral (isNumeral_of_mem_plainText l)).isValue

/-- The tag that a drawing begins with: its size is written twice, as numbers. -/
theorem shows_opening (width height : Length) :
    Shows ("<" ++ openingOf (plainText width.value) (plainText height.value) ++ ">") [] := by
  have across := number_value width
  have down := number_value height
  generalize plainText width.value = w, plainText height.value = h at across down
  have box : IsValue ("0 0 " ++ w ++ " " ++ h).toList := by
    have origin : IsValue "0 0 ".toList := by decide
    have space : IsValue " ".toList := by decide
    simp only [String.toList_append]
    exact ((origin.append across).append space).append down
  have address : IsValue "http://www.w3.org/2000/svg".toList := by decide
  have tag := (((HasOutline.plain "svg width=" (by decide)).append (.value w across)).append
    ((HasOutline.plain " height=" (by decide)).append (.value h down))).append
    (((HasOutline.plain " viewBox=" (by decide)).append (.value _ box)).append
      ((HasOutline.plain " xmlns=" (by decide)).append (.value _ address)))
  have shown_tag := tag.shows (by simp [outlines])
  have same : openingOf w h = "svg width=" ++ ("\"" ++ w ++ "\"") ++ (" height=" ++ ("\"" ++ h ++ "\"")) ++
      (" viewBox=" ++ ("\"" ++ ("0 0 " ++ w ++ " " ++ h) ++ "\"") ++
        (" xmlns=" ++ ("\"" ++ "http://www.w3.org/2000/svg" ++ "\""))) := by
    unfold openingOf
    simp [← String.toList_inj]
  rwa [same]

/-- A drawing shows the labels of its elements. -/
theorem shows_document (width height : Length) {elements : List Element} (h : ∀ e ∈ elements, Known e) :
    Shows (Svg.documentText width.value height.value elements) (elements.flatMap shown) := by
  have each : ∀ part ∈ elements.map fun e => (elementText e, shown e), Shows part.1 part.2 := by
    intro part member
    obtain ⟨e, inside, rfl⟩ := List.mem_map.1 member
    exact shows_element (h e inside)
  have inner := Shows.join each
  simp only [List.map_map, List.flatMap_map, Function.comp_def] at inner
  have closing : Shows ("<" ++ "/svg" ++ ">") [] := .bare (by simp [outlines]) (by decide)
  have whole := ((shows_opening width height).append inner).append closing
  have same : "<" ++ "/svg" ++ ">" = "</svg>" := by simp
  rw [same, List.nil_append, List.append_nil] at whole
  exact whole

end ComicScript.Markup
