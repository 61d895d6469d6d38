import ComicScript.Text.Escape
import Mathlib.Data.List.Basic
import Mathlib.Tactic.SplitIfs

/-!
# Replacements one after another

A chain of replacements goes over a text several times, and each time finds what the earlier ones wrote. In the order in
which text is escaped it never changes that: the chain writes each character's own text in place of the character, whatever
stands around it.
-/

namespace ComicScript.Text
set_option autoImplicit false

namespace Chars

/-- A replacement treats each character by itself. -/
theorem replaceChar_flatMap (c : Char) (text : String) (write : Char → List Char) (s : List Char) :
    replaceChar c text (s.flatMap write) = s.flatMap fun d => replaceChar c text (write d) :=
  List.flatMap_assoc

theorem replaceChar_of_not_mem {c : Char} {text : String} {s : List Char} (h : c ∉ s) : replaceChar c text s = s := by
  have same : ∀ d ∈ s, (if d = c then text.toList else [d]) = [d] := by
    rintro d member
    exact if_neg (ne_of_mem_of_not_mem member h)
  rw [replaceChar, List.flatMap_congr same, List.flatMap_singleton']

/-- A character of HTML text. -/
def htmlChar (c : Char) : List Char :=
  if c = '&' then "&amp;".toList
  else if c = '<' then "&lt;".toList
  else if c = '>' then "&gt;".toList
  else [c]

/-- A character of SVG text or of an attribute value. -/
def svgChar (c : Char) : List Char :=
  if c = '"' then "&quot;".toList
  else if c = '\'' then "&apos;".toList
  else htmlChar c

/-- No ampersand that an entity begins with is escaped again: the others are replaced before there are any. -/
theorem escapeHtml_singleton (c : Char) : escapeHtml [c] = htmlChar c := by
  unfold htmlChar
  split
  · rename_i amp
    subst amp
    decide
  · split
    · rename_i lt
      subst lt
      decide
    · split
      · rename_i gt
        subst gt
        decide
      · rename_i amp lt gt
        have alone : ∀ d, c ≠ d → d ∉ [c] := fun d other member => other (List.mem_singleton.1 member).symm
        rw [escapeHtml, replaceChar_of_not_mem (alone '&' amp), replaceChar_of_not_mem (alone '<' lt),
          replaceChar_of_not_mem (alone '>' gt)]

theorem escapeHtml_eq_flatMap (s : List Char) : escapeHtml s = s.flatMap htmlChar := by
  calc escapeHtml s = escapeHtml (s.flatMap fun c => [c]) := by rw [List.flatMap_singleton']
    _ = s.flatMap fun c => escapeHtml [c] := by
      unfold escapeHtml
      rw [replaceChar_flatMap, replaceChar_flatMap, replaceChar_flatMap]
    _ = s.flatMap htmlChar := List.flatMap_congr fun c _ => escapeHtml_singleton c

/-- No entity has a quote or an apostrophe in it, so the last two replacements find only those of the text. -/
theorem quotes_htmlChar (c : Char) :
    replaceChar '\'' "&apos;" (replaceChar '"' "&quot;" (htmlChar c)) = svgChar c := by
  unfold svgChar
  split
  · rename_i quote
    subst quote
    decide
  · split
    · rename_i apostrophe
      subst apostrophe
      decide
    · rename_i quote apostrophe
      have absent : ∀ d, (d ∉ "&amp;".toList ∧ d ∉ "&lt;".toList ∧ d ∉ "&gt;".toList) → c ≠ d → d ∉ htmlChar c := by
        intro d entity other
        unfold htmlChar
        split_ifs
        · exact entity.1
        · exact entity.2.1
        · exact entity.2.2
        · exact fun member => other (List.mem_singleton.1 member).symm
      rw [replaceChar_of_not_mem (absent '"' (by decide) quote), replaceChar_of_not_mem (absent '\'' (by decide) apostrophe)]

theorem escapeSvg_eq_flatMap (s : List Char) : escapeSvg s = (collapse s).flatMap svgChar := by
  calc escapeSvg s = replaceChar '\'' "&apos;" (replaceChar '"' "&quot;" (escapeHtml (collapse s))) := rfl
    _ = (collapse s).flatMap fun c => replaceChar '\'' "&apos;" (replaceChar '"' "&quot;" (htmlChar c)) := by
      rw [escapeHtml_eq_flatMap, replaceChar_flatMap, replaceChar_flatMap]
    _ = (collapse s).flatMap svgChar := List.flatMap_congr fun c _ => quotes_htmlChar c

end Chars

end ComicScript.Text
