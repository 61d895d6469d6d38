import ComicScript.Preview.Convert
import ComicScript.Proofs.Decimal.Numeral
import ComicScript.Proofs.Markup.Outline
import ComicScript.Proofs.Text.Collapse
import ComicScript.Proofs.Text.Escape

/-!
# Escaped text as markup

Escaped text is read as the text it was made of, whichever of the two ways of escaping made it, and a written number is
read as it stands.
-/

namespace ComicScript.Markup
set_option autoImplicit false
open Text (isBlank)

/-- Blank characters have no meaning in markup. -/
theorem not_mem_specials_of_isBlank {c : Char} (h : isBlank c = true) : c ∉ specials := by
  have visible : specials.all (fun d => !isBlank d) = true := by decide
  intro special
  have shown := List.all_eq_true.1 visible c special
  rw [h] at shown
  cases shown

theorem marks_of_allBlank {s : String} (h : Text.allBlank s = true) : marks s.toList = [] :=
  marks_eq_nil fun c member => not_mem_specials_of_isBlank (List.all_eq_true.1 h c member)

theorem marks_eq_of_filter {s t : List Char}
    (h : ∀ p : Char → Bool, (∀ c, isBlank c = true → p c = false) → s.filter p = t.filter p) : marks s = marks t :=
  h _ fun _ blank => decide_eq_false (not_mem_specials_of_isBlank blank)

@[simp] theorem marks_trim (s : List Char) : marks (Text.Chars.trim s) = marks s :=
  marks_eq_of_filter fun _ keeps => Text.Chars.filter_trim keeps s

@[simp] theorem marks_collapse (s : List Char) : marks (Text.Chars.collapse s) = marks s :=
  marks_eq_of_filter fun _ keeps => Text.Chars.filter_collapse keeps s

/-- The characters of written numbers have no meaning in markup. -/
theorem plain_of_isNumeral {s : List Char} (h : ∀ c ∈ s, Decimal.isNumeral c = true) : Plain s := by
  have other : specials.all (fun d => !Decimal.isNumeral d) = true := by decide
  intro c member special
  have mark := List.all_eq_true.1 other c special
  rw [h c member] at mark
  cases mark

/-- A character of HTML text is read as itself. -/
theorem read?_htmlChar (c : Char) : read? (String.ofList (Text.Chars.htmlChar c)) = some [.char c] := by
  unfold Text.Chars.htmlChar
  split
  · rename_i amp
    subst amp
    rfl
  · split
    · rename_i lt
      subst lt
      rfl
    · split
      · rename_i gt
        subst gt
        rfl
      · rename_i amp lt gt
        simp [read?, readFrom, amp, lt, gt]

/-- A character of SVG text is read as itself. -/
theorem read?_svgChar (c : Char) : read? (String.ofList (Text.Chars.svgChar c)) = some [.char c] := by
  unfold Text.Chars.svgChar
  split
  · rename_i quote
    subst quote
    rfl
  · split
    · rename_i apostrophe
      subst apostrophe
      rfl
    · exact read?_htmlChar c

/-- Escaped SVG text is read as the collapsed text. -/
theorem read?_escapeSvg (s : String) : read? (Text.escapeSvg s) = some ((Text.collapse s).toList.map .char) := by
  rw [Text.escapeSvg, Text.Chars.escapeSvg_eq_flatMap, Text.collapse, String.toList_ofList]
  generalize Text.Chars.collapse s.toList = cs
  induction cs with
  | nil => rfl
  | cons c rest ih =>
    rw [List.flatMap_cons, String.ofList_append, read?_append (read?_svgChar c) ih]
    rfl

/-- The elements that are written without attributes. -/
def bareElements : List String := ["title", "style", "h1", "h2", "h3", "p", "blockquote"]

namespace Shows

/-- Characters that are written one by one. -/
theorem flatMap {α : Type} {write text : α → List Char} (h : ∀ a, Shows (String.ofList (write a)) (text a))
    (items : List α) : Shows (String.ofList (items.flatMap write)) (items.flatMap text) := by
  induction items with
  | nil => exact empty
  | cons a rest ih =>
    rw [List.flatMap_cons, List.flatMap_cons, String.ofList_append]
    exact (h a).append ih

theorem htmlChar (c : Char) : Shows (String.ofList (Text.Chars.htmlChar c)) [c] :=
  ⟨[.char c], read?_htmlChar c, rfl, rfl⟩

theorem svgChar (c : Char) : Shows (String.ofList (Text.Chars.svgChar c)) [c] :=
  ⟨[.char c], read?_svgChar c, rfl, rfl⟩

theorem escapeHtml (s : String) : Shows (Text.escapeHtml s) s.toList := by
  have written := flatMap htmlChar s.toList
  rwa [List.flatMap_singleton', ← Text.Chars.escapeHtml_eq_flatMap] at written

theorem escapeSvg (s : String) : Shows (Text.escapeSvg s) s.toList := by
  have written := flatMap svgChar (Text.Chars.collapse s.toList)
  rw [List.flatMap_singleton', ← Text.Chars.escapeSvg_eq_flatMap] at written
  exact written.of_marks (marks_collapse _)

/-- Markup between the two tags of an element. -/
theorem element {tag body : String} {text : List Char} (h : Shows body text) (known : tag ∈ bareElements) :
    Shows (Preview.element tag body) text := by
  have names : ∀ tag ∈ bareElements, Plain tag.toList := by decide
  have closings : ∀ tag ∈ bareElements, Plain ("/" ++ tag).toList := by decide
  have outlined : ∀ tag ∈ bareElements, tag ∈ outlines ∧ "/" ++ tag ∈ outlines := by simp [bareElements, outlines]
  have opening : Shows ("<" ++ tag ++ ">") [] := bare (outlined tag known).1 (names tag known)
  have closing : Shows ("<" ++ ("/" ++ tag) ++ ">") [] := bare (outlined tag known).2 (closings tag known)
  have same : Preview.element tag body = "<" ++ tag ++ ">" ++ body ++ ("<" ++ ("/" ++ tag) ++ ">") := by
    simp [Preview.element, ← String.toList_inj]
  rw [same]
  simpa using (opening.append h).append closing

end Shows

end ComicScript.Markup
