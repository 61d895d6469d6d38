import ComicScript.Proofs.Markup.Drawing

/-!
# Reading drawings

An element of a drawing is read as one tag, and a label as its collapsed text between two; a drawing is read as its opening
tag, its elements one by one and its closing tag. What is written in the values of attributes does not matter for that.
-/

namespace ComicScript.Markup
set_option autoImplicit false
open Svg (Element Attribute attributeName attributesText contentText elementText insideOf openingOf plainText valueText)

/-- What an element is read as. -/
def tokensOf : Element → List Token
  | .rect as => [.tag (insideOf (.rect as)).toList]
  | .line x1 y1 x2 y2 => [.tag (insideOf (.line x1 y1 x2 y2)).toList]
  | .text content as =>
    .tag (insideOf (.text content as)).toList :: (Text.collapse (contentText content)).toList.map .char ++
      [.tag "/text".toList]
  | .openGroup as => [.tag (insideOf (.openGroup as)).toList]
  | .closeGroup => [.tag (insideOf .closeGroup).toList]

/-- The names of the attributes of an element. -/
def namesOf : Element → List String
  | .rect as => as.map (·.1)
  | .text _ as => as.map (·.1)
  | .openGroup as => as.map (·.1)
  | _ => []

/-! ## Attributes -/

/-- A text has no angle brackets. -/
def Unbracketed (s : String) : Prop :=
  ∀ c ∈ s.toList, c ≠ '<' ∧ c ≠ '>'

instance (s : String) : Decidable (Unbracketed s) :=
  List.decidableBAll (fun c => c ≠ '<' ∧ c ≠ '>') s.toList

theorem Unbracketed.append {a b : String} (ha : Unbracketed a) (hb : Unbracketed b) : Unbracketed (a ++ b) := by
  intro c member
  rw [String.toList_append, List.mem_append] at member
  exact member.elim (ha c) (hb c)

theorem unbracketed_of_isValue {s : String} (h : IsValue s.toList) : Unbracketed s :=
  fun c member => ⟨(h c member).1, (h c member).2.1⟩

theorem unbracketed_of_plain {s : String} (h : Plain s.toList) : Unbracketed s :=
  unbracketed_of_isValue h.isValue

theorem unbracketed_intercalate {separator : String} {parts : List String} (between : Unbracketed separator)
    (h : ∀ part ∈ parts, Unbracketed part) : Unbracketed (separator.intercalate parts) := by
  induction parts with
  | nil => exact fun c member => absurd member List.not_mem_nil
  | cons part rest ih =>
    have first := h part List.mem_cons_self
    have others := ih fun other member => h other (List.mem_cons_of_mem _ member)
    cases rest with
    | nil => simpa using first
    | cons next rest =>
      rw [String.intercalate_cons_cons]
      exact (first.append between).append others

/-- Attributes with plain names have no angle brackets, whatever their values are. -/
theorem unbracketed_attributesText {as : List Attribute}
    (h : ∀ name ∈ as.map (·.1), Plain (attributeName name).toList) : Unbracketed (attributesText as) := by
  refine unbracketed_intercalate (by decide) fun part member => ?_
  obtain ⟨a, given, rfl⟩ := List.mem_map.1 member
  have name := unbracketed_of_plain (h a.1 (List.mem_map_of_mem (List.mem_filter.1 given).1))
  have opened : Unbracketed "=\"" := by decide
  have closed : Unbracketed "\"" := by decide
  exact ((name.append opened).append (unbracketed_of_isValue (valueText_value a.2))).append closed

/-! ## Elements -/

theorem unbracketed_insideOf {e : Element} (h : ∀ name ∈ namesOf e, Plain (attributeName name).toList) :
    Unbracketed (insideOf e) := by
  have slash : Unbracketed "/" := by decide
  cases e with
  | rect as =>
    have lead : Unbracketed "rect " := by decide
    exact (lead.append (unbracketed_attributesText h)).append slash
  | line x1 y1 x2 y2 =>
    have lead : Unbracketed "line " := by decide
    have names : ∀ name ∈ ["x1", "y1", "x2", "y2"], Plain (attributeName name).toList := by decide
    have placed : Unbracketed (attributesText [("x1", x1), ("y1", y1), ("x2", x2), ("y2", y2)]) :=
      unbracketed_attributesText (by simpa using names)
    exact (lead.append placed).append slash
  | text content as =>
    have lead : Unbracketed "text " := by decide
    exact lead.append (unbracketed_attributesText h)
  | openGroup as =>
    have lead : Unbracketed "g " := by decide
    exact lead.append (unbracketed_attributesText h)
  | closeGroup =>
    have bare : Unbracketed "/g" := by decide
    exact bare

/-- The names of the attributes of an element that is a tag of a document are plain. -/
theorem plain_of_known {e : Element} (h : Known e) :
    ∀ name ∈ namesOf e, Plain (attributeName name).toList := by
  cases e with
  | rect as => exact h.1.names_plain
  | line x1 y1 x2 y2 => exact fun name member => absurd member List.not_mem_nil
  | text content as => exact h.1.names_plain
  | openGroup as => exact h.1.names_plain
  | closeGroup => exact fun name member => absurd member List.not_mem_nil

/-- An element is read as one tag, and a label as its collapsed text between two. -/
theorem read?_elementText {e : Element} (h : ∀ name ∈ namesOf e, Plain (attributeName name).toList) :
    read? (elementText e) = some (tokensOf e) := by
  have tag := read?_tag (unbracketed_insideOf h)
  cases e with
  | text content as =>
    have closing : read? "</text>" = some [.tag "/text".toList] := by decide
    have text : elementText (.text content as) = "<" ++ insideOf (.text content as) ++ ">" ++
        (Text.escapeSvg (contentText content) ++ "</text>") := by
      unfold elementText Svg.behindOf
      rfl
    rw [text, read?_append tag (read?_append (read?_escapeSvg (contentText content)) closing), tokensOf,
      List.singleton_append, List.cons_append]
  | _ =>
    unfold elementText Svg.behindOf
    rw [String.append_empty]
    exact tag

/-! ## Drawings -/

theorem unbracketed_openingOf {width height : String} (across : Unbracketed width) (down : Unbracketed height) :
    Unbracketed (openingOf width height) := by
  have lead : Unbracketed "svg width=\"" := by decide
  have next : Unbracketed "\" height=\"" := by decide
  have box : Unbracketed "\" viewBox=\"0 0 " := by decide
  have space : Unbracketed " " := by decide
  have final : Unbracketed "\" xmlns=\"http://www.w3.org/2000/svg\"" := by decide
  have sized := ((lead.append across).append next).append down
  exact ((((sized.append box).append across).append space).append down).append final

/-- A drawing is read as its opening tag, its elements one by one and its closing tag. -/
theorem read?_documentText (width height : Length) {elements : List Element}
    (h : ∀ e ∈ elements, ∀ name ∈ namesOf e, Plain (attributeName name).toList) :
    read? (Svg.documentText width.value height.value elements) =
      some (.tag (openingOf (plainText width.value) (plainText height.value)).toList :: elements.flatMap tokensOf ++
        [.tag "/svg".toList]) := by
  have each : ∀ part ∈ elements.map fun e => (elementText e, tokensOf e), read? part.1 = some part.2 := by
    intro part member
    obtain ⟨e, inside, rfl⟩ := List.mem_map.1 member
    exact read?_elementText (h e inside)
  have inner := read?_join each
  simp only [List.map_map, List.flatMap_map, Function.comp_def] at inner
  have opening := read?_tag (unbracketed_openingOf (unbracketed_of_isValue (number_value width))
    (unbracketed_of_isValue (number_value height)))
  have closing : read? "</svg>" = some [.tag "/svg".toList] := by decide
  rw [Svg.documentText, read?_append (read?_append opening inner) closing]
  rfl

end ComicScript.Markup
