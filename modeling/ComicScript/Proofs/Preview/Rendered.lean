import ComicScript.Proofs.Preview.PageSections
import ComicScript.Proofs.Script.Written

/-!
# Loaded chapters are rendered

A chapter that was read from a script has a title and layouts that can be written. So in sizes that fit there is a document
of it.
-/

namespace ComicScript
set_option autoImplicit false

/-- The layout of a loaded page is text, and can be written. -/
theorem Page.Loaded.writable {p : Page} (h : p.Loaded) : p.layout.Writable := by
  obtain ⟨v, read⟩ := h
  rcases Page.layoutOf_cases read with null | ⟨s, text⟩ | ⟨rows, list⟩
  · rw [null]
    exact nofun
  · rw [text]
    exact nofun
  · rw [list]
    refine Value.forall_integersOf_iff.2 fun row member => ?_
    obtain ⟨s, -, rfl⟩ := List.mem_map.1 member
    exact nofun

namespace Chapter

variable {v : Value} {c : Chapter} (h : ofValue v = .ok c)
include h

/-- A loaded chapter has a list of pages with layouts that can be written. -/
theorem writable_of_ofValue : ∃ pages : List (Slot Page), c = { c with pages := .filled pages } ∧
    ∀ p, .filled p ∈ pages → p.layout.Writable := by
  obtain ⟨entries, credits, pages, -, -, listed, rfl⟩ := parts_of_ofValue h
  refine ⟨_, rfl, fun p member => ?_⟩
  obtain ⟨q, inside, same⟩ := List.mem_map.1 member
  cases same
  exact (Page.loaded_of_listFrom listed _ inside).writable

/-- The title of a loaded chapter is a text or null. -/
theorem exists_label_of_ofValue : ∃ label, c.title.label? = .ok label := by
  obtain ⟨entries, credits, pages, -, -, -, rfl⟩ := parts_of_ofValue h
  cases (v.get "title").wording? with
  | none => exact ⟨none, rfl⟩
  | some s =>
    show ∃ label, (Value.str s).label? = .ok label
    unfold Value.label?
    split
    · exact ⟨none, rfl⟩
    · exact ⟨some s, rfl⟩

end Chapter

/-- In sizes that fit there is a document of every loaded chapter. -/
theorem Preview.exists_ofChapter {cfg : Config} (fits : cfg.Fits) {v : Value} {c : Chapter}
    (h : Chapter.ofValue v = .ok c) (printable : Bool) : ∃ html, ofChapter cfg printable c = .ok html := by
  obtain ⟨pages, same, writable⟩ := Chapter.writable_of_ofValue h
  obtain ⟨label, titled⟩ := Chapter.exists_label_of_ofValue h
  obtain ⟨body, made⟩ := exists_bodyOf fits c writable
  rw [← same] at made
  rw [ofChapter, made, titleOf, titled]
  exact ⟨_, rfl⟩

end ComicScript
