import ComicScript.Proofs.Markup.Reader

/-!
# The tags of a document

The tags that a document may have are listed with their attributes. `Shows s text` says that the markup `s` has no others,
and that the characters with a meaning in markup that it shows are those of `text`: nothing of the text has become markup.
-/

namespace ComicScript.Markup
set_option autoImplicit false

/-- A tag without the values of its attributes; `quoted` says that a value has begun. -/
def outlineFrom (quoted : Bool) : List Char → List Char
  | [] => []
  | c :: rest =>
    if c = '"' then c :: outlineFrom (!quoted) rest
    else if quoted then outlineFrom quoted rest
    else c :: outlineFrom quoted rest

/-- The tags of a document, each with all of its attributes but without their values. -/
def outlines : List String :=
  ["!DOCTYPE html", "html lang=\"\"", "/html", "head", "/head", "meta charset=\"\"", "meta name=\"\" content=\"\"",
    "title", "/title", "style", "/style", "body", "/body", "div class=\"\"", "/div",
    "section class=\"\" data-page=\"\"", "/section", "h1", "/h1", "h2", "/h2", "h3", "/h3", "p", "/p", "blockquote",
    "/blockquote", "strong", "/strong", "em", "/em",
    "svg width=\"\" height=\"\" viewBox=\"\" xmlns=\"\"", "/svg", "g stroke=\"\" stroke-width=\"\"", "/g",
    "rect width=\"\" height=\"\" fill=\"\"/", "rect width=\"\" height=\"\" fill=\"\" stroke=\"\" stroke-width=\"\"/",
    "rect x=\"\" y=\"\" width=\"\" height=\"\" fill=\"\"/",
    "rect x=\"\" y=\"\" width=\"\" height=\"\" fill=\"\" stroke=\"\" stroke-width=\"\"/",
    "line x1=\"\" y1=\"\" x2=\"\" y2=\"\"/", "text x=\"\" y=\"\" text-anchor=\"\" font-family=\"\" font-size=\"\" fill=\"\"",
    "text x=\"\" y=\"\" text-anchor=\"\" dominant-baseline=\"\" font-family=\"\" font-size=\"\" font-weight=\"\" fill=\"\"",
    "/text"]

/-- Whether a tag is one of those of a document. -/
def isOutline (inside : List Char) : Bool :=
  outlines.contains (String.ofList (outlineFrom false inside))

/-- Whether a part of markup is text or a tag of a document. -/
def Token.isKnown : Token → Bool
  | .tag inside => isOutline inside
  | .char _ => true

/-! ## What markup shows -/

/-- Markup with no tags but those of a document, whose text has the marks of the given text. -/
def Shows (s : String) (text : List Char) : Prop :=
  ∃ tokens, read? s = some tokens ∧ tokens.all Token.isKnown = true ∧ marks (textOf tokens) = marks text

namespace Shows

variable {a b : String} {x y : List Char}

theorem append (ha : Shows a x) (hb : Shows b y) : Shows (a ++ b) (x ++ y) := by
  obtain ⟨left, readLeft, knownLeft, textLeft⟩ := ha
  obtain ⟨right, readRight, knownRight, textRight⟩ := hb
  refine ⟨left ++ right, read?_append readLeft readRight, ?_, ?_⟩
  · rw [List.all_append, knownLeft, knownRight]
    rfl
  · rw [textOf_append, marks_append, marks_append, textLeft, textRight]

theorem empty : Shows "" [] :=
  ⟨[], rfl, rfl, rfl⟩

/-- Only the marks of the text count. -/
theorem of_marks (h : Shows a x) (same : marks x = marks y) : Shows a y := by
  obtain ⟨tokens, read, known, text⟩ := h
  exact ⟨tokens, read, known, text.trans same⟩

/-- Text without marks shows none. -/
theorem plain (h : Plain a.toList) : Shows a [] := by
  refine ⟨a.toList.map .char, readFrom_plain h, ?_, ?_⟩
  · simp [Token.isKnown]
  · have same : textOf (a.toList.map .char) = a.toList := by
      rw [textOf, List.filterMap_map]
      exact List.filterMap_some
    rw [same, marks_eq_nil h]
    rfl

/-- Markup put together from parts. -/
theorem join {parts : List (String × List Char)} (h : ∀ part ∈ parts, Shows part.1 part.2) :
    Shows (String.join (parts.map (·.1))) (parts.flatMap (·.2)) := by
  induction parts with
  | nil => exact empty
  | cons part rest ih =>
    have first := h part List.mem_cons_self
    have others := ih fun other member => h other (List.mem_cons_of_mem _ member)
    simpa using first.append others

end Shows

/-! ## Outlines -/

/-- A part of a tag, without angle brackets and with all of its values closed, and its outline. -/
structure HasOutline (s outline : String) : Prop where
  inside : ∀ c ∈ s.toList, c ≠ '<' ∧ c ≠ '>'
  outline_eq : ∀ rest, outlineFrom false (s.toList ++ rest) = outline.toList ++ outlineFrom false rest

namespace HasOutline

variable {a b x y : String}

theorem append (ha : HasOutline a x) (hb : HasOutline b y) : HasOutline (a ++ b) (x ++ y) := by
  refine ⟨?_, ?_⟩
  · intro c member
    rw [String.toList_append, List.mem_append] at member
    exact member.elim (ha.inside c) (hb.inside c)
  · intro rest
    rw [String.toList_append, String.toList_append, List.append_assoc, ha.outline_eq, hb.outline_eq, List.append_assoc]

/-- A part without values is its own outline. -/
theorem plain (a : String) (h : Plain a.toList) : HasOutline a a := by
  refine ⟨?_, ?_⟩
  · intro c member
    have other := h.isValue c member
    exact ⟨other.1, other.2.1⟩
  · generalize a.toList = s at h
    induction s with
    | nil => intro rest; rfl
    | cons c s ih =>
      intro rest
      have quote : c ≠ '"' := fun same => h c List.mem_cons_self (by rw [same]; decide)
      rw [List.cons_append, outlineFrom, if_neg quote, ih fun d member => h d (List.mem_cons_of_mem _ member)]
      rfl

theorem outlineFrom_value {v : List Char} (h : '"' ∉ v) (rest : List Char) :
    outlineFrom true (v ++ '"' :: rest) = '"' :: outlineFrom false rest := by
  induction v with
  | nil => rfl
  | cons c v ih =>
    rw [List.mem_cons, not_or] at h
    rw [List.cons_append, outlineFrom, if_neg (Ne.symm h.1), if_pos rfl, ih h.2]

/-- A value leaves nothing but its quotes, whatever stands in it. -/
theorem value (v : String) (h : IsValue v.toList) : HasOutline ("\"" ++ v ++ "\"") "\"\"" := by
  have unquoted : '"' ∉ v.toList := fun member => (h _ member).2.2 rfl
  refine ⟨?_, ?_⟩
  · intro c member
    have cases : c = '"' ∨ c ∈ v.toList ∨ c = '"' := by simpa using member
    rcases cases with rfl | inner | rfl
    · decide
    · exact ⟨(h c inner).1, (h c inner).2.1⟩
    · decide
  · intro rest
    have text : ("\"" ++ v ++ "\"").toList ++ rest = '"' :: (v.toList ++ '"' :: rest) := by simp
    rw [text, outlineFrom, if_pos rfl, Bool.not_false, outlineFrom_value unquoted]
    rfl

/-- Parts with spaces between them. -/
theorem intercalate {parts : List (String × String)} (h : ∀ part ∈ parts, HasOutline part.1 part.2) :
    HasOutline (" ".intercalate (parts.map (·.1))) (" ".intercalate (parts.map (·.2))) := by
  have space := plain " " (by decide)
  induction parts with
  | nil => exact plain "" (by decide)
  | cons part rest ih =>
    have first := h part List.mem_cons_self
    cases rest with
    | nil => simpa using first
    | cons next rest =>
      have others := ih fun other member => h other (List.mem_cons_of_mem _ member)
      simp only [List.map_cons, String.intercalate_cons_cons]
      exact (first.append space).append others

/-- A tag of a document shows nothing itself. -/
theorem shows (h : HasOutline a x) (known : x ∈ outlines) : Shows ("<" ++ a ++ ">") [] := by
  refine ⟨[.tag a.toList], read?_tag h.inside, ?_, rfl⟩
  have whole := h.outline_eq []
  rw [List.append_nil, outlineFrom, List.append_nil] at whole
  rw [List.all_cons, List.all_nil, Bool.and_true, Token.isKnown, isOutline, whole, String.ofList_toList]
  exact List.contains_iff_mem.2 known

end HasOutline

namespace Shows

/-- A tag without attributes. -/
theorem bare {tag : String} (known : tag ∈ outlines) (h : Plain tag.toList) :
    Shows ("<" ++ tag ++ ">") [] :=
  (HasOutline.plain tag h).shows known

end Shows

end ComicScript.Markup
