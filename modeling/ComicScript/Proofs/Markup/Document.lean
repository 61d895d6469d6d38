import ComicScript.Proofs.Markup.Diagram
import ComicScript.Proofs.Markup.Lines
import ComicScript.Proofs.Preview.PageSections

/-!
# Documents as markup

A whole document shows its title, the text of its chapter and the labels of its diagrams. None of them becomes markup,
whatever characters they have.
-/

namespace ComicScript.Markup
set_option autoImplicit false
open Markdown (joinSections headerSections)
open Preview (diagrams pageBeside pagesBeside)

namespace Shows

/-- A tag with one attribute. -/
theorem valued {name value : String} (plain : Plain name.toList) (inside : IsValue value.toList)
    (known : name ++ "\"\"" ∈ outlines) :
    Shows ("<" ++ (name ++ ("\"" ++ value ++ "\"")) ++ ">") [] :=
  ((HasOutline.plain name plain).append (.value value inside)).shows known

/-- Markup in a part with a class. -/
theorem div {body : String} {text : List Char} (h : Shows body text) (style : String) (inside : IsValue style.toList) :
    Shows ("<div class=\"" ++ style ++ "\">" ++ body ++ "</div>") text := by
  have opening : Shows ("<" ++ ("div class=" ++ ("\"" ++ style ++ "\"")) ++ ">") [] :=
    valued (by decide) inside (by simp [outlines])
  have closing : Shows ("<" ++ "/div" ++ ">") [] := bare (by simp [outlines]) (by decide)
  have same : "<div class=\"" ++ style ++ "\">" ++ body ++ "</div>" =
      "<" ++ ("div class=" ++ ("\"" ++ style ++ "\"")) ++ ">" ++ body ++ ("<" ++ "/div" ++ ">") := by
    simp [← String.toList_inj]
  rw [same]
  simpa using (opening.append h).append closing

/-- The tag that the section of a page begins with. -/
theorem sectionTag (number : Nat) :
    Shows ("<section class=\"page\" data-page=\"" ++ toString number ++ "\">") [] := by
  have numeral : IsValue (toString number).toList :=
    (plain_of_isNumeral fun _ member => Decimal.isNumeral_of_mem_toString_nat member).isValue
  generalize toString number = n at numeral ⊢
  have tag := ((HasOutline.plain "section class=" (by decide)).append (.value "page" (by decide))).append
    ((HasOutline.plain " data-page=" (by decide)).append (.value n numeral))
  have opening := tag.shows (by simp [outlines])
  have same : "<section class=\"page\" data-page=\"" ++ n ++ "\">" = "<" ++ ("section class=" ++
      ("\"" ++ "page" ++ "\"") ++ (" data-page=" ++ ("\"" ++ n ++ "\""))) ++ ">" := by
    simp [← String.toList_inj]
  rwa [same]

/-- The section of a page shows the page and what its diagram shows. -/
theorem pageSection (number : Nat) {body svg : String} {text drawn : List Char} (h : Shows body text)
    (hs : Shows svg drawn) : Shows (Preview.pageSection number body svg) (text ++ drawn) := by
  have opening := sectionTag number
  have closing : Shows ("<" ++ "/section" ++ ">") [] := bare (by simp [outlines]) (by decide)
  have script := (lineFeed.append h).div "page-script" (by decide)
  have layout := hs.div "page-layout" (by decide)
  have whole := ((((opening.append lineFeed).append script).append lineFeed).append layout).append
    ((lineFeed.append closing).append lineFeed)
  unfold Preview.pageSection
  generalize toString number = n at whole ⊢
  have same : "<section class=\"page\" data-page=\"" ++ n ++ "\">\n<div class=\"page-script\">\n" ++ body ++
      "</div>\n<div class=\"page-layout\">" ++ svg ++ "</div>\n</section>\n" =
      "<section class=\"page\" data-page=\"" ++ n ++ "\">" ++
      "\n" ++ ("<div class=\"" ++ "page-script" ++ "\">" ++ ("\n" ++ body) ++ "</div>") ++ "\n" ++
      ("<div class=\"" ++ "page-layout" ++ "\">" ++ svg ++ "</div>") ++ ("\n" ++ ("<" ++ "/section" ++ ">") ++ "\n") := by
    simp [← String.toList_inj]
  rw [same]
  simpa using whole

theorem stylesheet : Shows Preview.stylesheet [] := by
  have line_plain : ∀ line ∈ Preview.styleLines, Plain line.toList := by
    simp only [Preview.styleLines, List.forall_mem_cons, List.not_mem_nil, false_implies, implies_true, and_true]
    and_intros <;> exact plain_ofList (by decide)
  have each : ∀ part ∈ Preview.styleLines.map fun line => (line ++ "\n", ([] : List Char)), Shows part.1 part.2 := by
    intro part member
    obtain ⟨line, inside, rfl⟩ := List.mem_map.1 member
    exact (plain (line_plain line inside)).append lineFeed
  have whole := lineFeed.append (join each)
  have nothing : Preview.styleLines.flatMap (fun _ => ([] : List Char)) = [] :=
    List.flatMap_eq_nil_iff.2 fun _ _ => rfl
  rw [List.map_map, List.flatMap_map, nothing] at whole
  exact whole

/-- What stands in for a blank body shows the title. -/
theorem emptyBody (title : String) : Shows (Preview.emptyBody title) title.toList := by
  have message : Shows "No content available." [] := .plain (by decide)
  have whole := ((((escapeHtml title).element (by decide : "h1" ∈ bareElements)).append lineFeed).append
    (message.element (by decide : "p" ∈ bareElements))).append lineFeed
  simpa [Preview.emptyBody] using whole

/-- What a document begins with, up to its title. -/
theorem prologue : Shows ("<!DOCTYPE html>\n<html lang=\"en\">\n<head>\n<meta charset=\"UTF-8\">\n" ++
    "<meta name=\"viewport\" content=\"width=device-width, initial-scale=1.0\">\n") [] := by
  have doctype : Shows ("<" ++ "!DOCTYPE html" ++ ">") [] := bare (by simp [outlines]) (by decide)
  have html : Shows ("<" ++ ("html lang=" ++ ("\"" ++ "en" ++ "\"")) ++ ">") [] :=
    valued (by decide) (by decide) (by simp [outlines])
  have head : Shows ("<" ++ "head" ++ ">") [] := bare (by simp [outlines]) (by decide)
  have charset : Shows ("<" ++ ("meta charset=" ++ ("\"" ++ "UTF-8" ++ "\"")) ++ ">") [] :=
    valued (by decide) (by decide) (by simp [outlines])
  have names := (HasOutline.plain "meta name=" (by decide)).append (.value "viewport" (by decide))
  have content := (HasOutline.plain " content=" (by decide)).append
    (.value "width=device-width, initial-scale=1.0" (by decide))
  have viewport := (names.append content).shows (by simp [outlines])
  have whole := ((((doctype.append lineFeed).append (html.append lineFeed)).append (head.append lineFeed)).append
    (charset.append lineFeed)).append (viewport.append lineFeed)
  simpa using whole

/-- What a document has between its stylesheet and its body. -/
theorem interlude : Shows ("\n</head>\n<body>\n" ++ "<div class=\"content\">\n") [] := by
  have headEnd : Shows ("<" ++ "/head" ++ ">") [] := bare (by simp [outlines]) (by decide)
  have bodyStart : Shows ("<" ++ "body" ++ ">") [] := bare (by simp [outlines]) (by decide)
  have content : Shows ("<" ++ ("div class=" ++ ("\"" ++ "content" ++ "\"")) ++ ">") [] :=
    valued (by decide) (by decide) (by simp [outlines])
  simpa using ((lineFeed.append headEnd).append (lineFeed.append bodyStart)).append
    ((lineFeed.append content).append lineFeed)

/-- What a document ends with. -/
theorem epilogue : Shows "</div>\n</body>\n</html>\n" [] := by
  have contentEnd : Shows ("<" ++ "/div" ++ ">") [] := bare (by simp [outlines]) (by decide)
  have bodyEnd : Shows ("<" ++ "/body" ++ ">") [] := bare (by simp [outlines]) (by decide)
  have htmlEnd : Shows ("<" ++ "/html" ++ ">") [] := bare (by simp [outlines]) (by decide)
  simpa using ((contentEnd.append lineFeed).append (bodyEnd.append lineFeed)).append (htmlEnd.append lineFeed)

/-- A document shows its title and then its body, or its title again if the body is blank. -/
theorem document (title : String) (printable : Bool) {body : String} {text : List Char} (h : Shows body text) :
    Shows (Preview.document title printable body)
      (title.toList ++ if Text.allBlank body then title.toList else text) := by
  have heading : Shows (Text.escapeHtml (if printable then title ++ " - Print" else title)) title.toList := by
    apply (escapeHtml _).of_marks
    split
    · rw [String.toList_append, marks_append, (by decide : marks " - Print".toList = []), List.append_nil]
    · rfl
  have shown : Shows (if Text.allBlank body then Preview.emptyBody title else body)
      (if Text.allBlank body then title.toList else text) := by
    split
    · exact emptyBody title
    · exact h
  have titled := (heading.element (by decide : "title" ∈ bareElements)).append lineFeed
  have styled := stylesheet.element (by decide : "style" ∈ bareElements)
  have whole := ((((prologue.append titled).append styled).append interlude).append shown).append epilogue
  rw [List.nil_append, List.append_nil, List.append_nil, List.append_nil, List.append_nil] at whole
  have flat (p t n s i c b e : String) :
      p ++ (t ++ n) ++ s ++ (i ++ c) ++ b ++ e = p ++ t ++ n ++ s ++ i ++ c ++ b ++ e := by
    simp only [String.append_assoc]
  rw [flat] at whole
  exact whole

end Shows

/-- What the body of a chapter's document shows: its header, and each page with the labels of its diagram. -/
def chapterText (cfg : Config) (c : Chapter) (pages : List (Slot Page)) : List Char :=
  sourceText (joinSections (headerSections c)) ++
    (pages.mapIdx fun n slot => sourceText (Markdown.page (n + 1 : Nat) slot) ++ labels cfg (some slot)).flatten

/-- A line feed after converted markdown adds nothing. -/
theorem shows_convert_ended (markdown : String) (last : Bool) :
    Shows (Preview.convert markdown ++ if last then "" else "\n") (sourceText markdown) := by
  have converted := shows_convert markdown
  split
  · simpa using converted
  · simpa using converted.append Shows.lineFeed

/-- Sections beside diagrams, each with what it shows; the first page is the `n`th. -/
theorem shows_pagesBeside {cfg : Config} {pages : List (Slot Page)} {svgs : List String}
    (h : diagrams cfg pages = .ok svgs) (n : Nat) : Shows (String.join (pagesBeside n pages svgs))
      (pages.mapIdx fun i slot => sourceText (Markdown.page (n + i + 1 : Nat) slot) ++ labels cfg (some slot)).flatten := by
  induction pages generalizing n svgs with
  | nil =>
    cases h
    exact Shows.empty
  | cons slot rest ih =>
    rw [Preview.diagrams_cons] at h
    obtain ⟨svg, drawn, h⟩ := exists_of_bind_eq_ok h
    obtain ⟨others, later, made⟩ := exists_of_bind_eq_ok h
    cases made
    have first := Shows.pageSection (n + 1) (shows_convert_ended (Markdown.page (n + 1 : Nat) slot) rest.isEmpty)
      (shows_pageDiagram drawn)
    have whole := first.append (ih later (n + 1))
    simp only [Nat.add_right_comm n 1, Nat.add_assoc] at whole
    rw [Preview.pagesBeside_cons, String.join_cons, List.mapIdx_cons, List.flatten_cons]
    exact whole

/-- The header shows its sections, in a part of its own if there are any. -/
theorem shows_header (header : List String) (last : Bool) :
    Shows (if header.isEmpty then ""
      else "<div class=\"chapter-header\">\n" ++
        (Preview.convert (joinSections header) ++ if last then "" else "\n") ++ "</div>\n")
      (sourceText (joinSections header)) := by
  cases header with
  | nil => exact Shows.empty
  | cons s rest =>
    have ended := shows_convert_ended (joinSections (s :: rest)) last
    generalize Preview.convert (joinSections (s :: rest)) ++ (if last then "" else "\n") = body at ended ⊢
    have whole := ((Shows.lineFeed.append ended).div "chapter-header" (by decide)).append Shows.lineFeed
    have same : "<div class=\"" ++ "chapter-header" ++ "\">" ++ ("\n" ++ body) ++ "</div>" ++ "\n" =
        "<div class=\"chapter-header\">\n" ++ body ++ "</div>\n" := by
      simp [← String.toList_inj]
    rw [same] at whole
    simpa using whole

/-- The body of a chapter's document shows the text of the chapter. -/
theorem shows_bodyOf {cfg : Config} {c : Chapter} {pages : List (Slot Page)} {body : String}
    (h : Preview.bodyOf cfg (.filled { c with pages := .filled pages }) = .ok body) :
    Shows body (chapterText cfg c pages) := by
  rw [Preview.bodyOf_eq] at h
  obtain ⟨svgs, drawn, made⟩ := exists_of_bind_eq_ok h
  rw [← Except.ok.inj made]
  have sections := shows_pagesBeside drawn 0
  simp only [Nat.zero_add] at sections
  exact (shows_header (headerSections c) pages.isEmpty).append sections

/-- **Text stays text.** Of the document of any chapter, under any title, and of the conversion of any markdown, every
angle bracket belongs to a tag of a document with the attributes that it has there, and the characters with a meaning in
markup that come from the title, the text of the chapter, the labels of its diagrams or the markdown are all read back as
text. In sizes that fit there is such a document, unless a layout cannot be written. -/
theorem shows_document_and_convert (cfg : Config) (c : Chapter) (pages : List (Slot Page)) (title : String)
    (printable : Bool) :
    let made := Preview.bodyOf cfg (.filled { c with pages := .filled pages })
    (∀ body, made = .ok body → Shows (Preview.document title printable body)
      (title.toList ++ if Text.allBlank body then title.toList else chapterText cfg c pages)) ∧
    (cfg.Fits → (∀ p, .filled p ∈ pages → p.layout.Writable) → ∃ body, made = .ok body) ∧
    ∀ markdown, Shows (Preview.convert markdown) (sourceText markdown) :=
  ⟨fun _ made => Shows.document title printable (shows_bodyOf made), fun fits => Preview.exists_bodyOf fits c,
    shows_convert⟩

end ComicScript.Markup
