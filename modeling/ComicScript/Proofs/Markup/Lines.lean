import ComicScript.Proofs.Markup.Escaped
import ComicScript.Proofs.Preview.Emphasis
import ComicScript.Proofs.Preview.Scan

/-!
# Converted lines as markup

Emphasis drops asterisks and nothing else, and text is escaped before any tag is put around it, so a converted line shows
the line. Quotes are held back over many lines; what they will show is kept beside what has been written.
-/

namespace ComicScript.Markup
set_option autoImplicit false
open Preview (Mark Piece Scan markStrong markEm quoteLead headings)
open Text (startsWith drop)

/-! ## Emphasis -/

theorem marks_filter_star (s : List Char) : marks (s.filter (· ≠ '*')) = marks s := by
  rw [marks, marks, List.filter_filter]
  refine List.filter_congr fun c _ => ?_
  have special : c ∈ specials → c ≠ '*' := by
    rintro member rfl
    exact absurd member (by decide)
  simpa using special

/-- The pieces of a line show the line but for its asterisks. -/
theorem marks_pieces (s : List Char) : marks ((Preview.pieces s).flatMap Piece.shown) = marks s := by
  rw [← marks_filter_star, Preview.filter_flatMap_source, Preview.flatMap_source_pieces, marks_filter_star]

namespace Shows

theorem mark (m : Mark) : Shows m.text [] := by
  have tag (name : String) (known : name ∈ outlines) (plain : Plain name.toList) :
      Shows ("<" ++ name ++ ">") [] := .bare known plain
  cases m with
  | openStrong => simpa [Mark.text] using tag "strong" (by simp [outlines]) (by decide)
  | closeStrong => simpa [Mark.text] using tag "/strong" (by simp [outlines]) (by decide)
  | openEm => simpa [Mark.text] using tag "em" (by simp [outlines]) (by decide)
  | closeEm => simpa [Mark.text] using tag "/em" (by simp [outlines]) (by decide)

theorem piece (p : Piece) : Shows (String.ofList p.render) p.shown := by
  cases p with
  | char c => exact htmlChar c
  | mark m => simpa [Piece.render, Piece.shown] using mark m

/-- A converted line shows the line. -/
theorem inline (s : String) : Shows (Preview.inline s) s.toList := by
  have written := flatMap piece (Preview.pieces s.toList)
  rw [Preview.inline_eq]
  exact written.of_marks (marks_pieces _)

theorem lineFeed : Shows "\n" [] := .plain (by decide)

theorem paragraph (s : String) : Shows (Preview.paragraph s) s.toList := by
  simpa [Preview.paragraph] using ((inline s).element (by simp [bareElements])).append lineFeed

/-- Lines that are left out because they are blank show nothing. -/
theorem marks_visible (lines : List String) :
    marks ((lines.filter (!Text.allBlank ·)).flatMap String.toList) = marks (lines.flatMap String.toList) := by
  induction lines with
  | nil => rfl
  | cons line rest ih =>
    rw [List.flatMap_cons, marks_append, ← ih]
    cases blank : Text.allBlank line with
    | true => rw [List.filter_cons_of_neg (by simp [blank]), marks_of_allBlank blank, List.nil_append]
    | false => rw [List.filter_cons_of_pos (by simp [blank]), List.flatMap_cons, marks_append]

/-- A quote shows its lines. -/
theorem blockquote (lines : List String) : Shows (Preview.blockquote lines) (lines.flatMap String.toList) := by
  let visible := lines.filter (!Text.allBlank ·)
  have each : ∀ part ∈ visible.map fun line => (Preview.paragraph (Text.trim line), line.toList),
      Shows part.1 part.2 := by
    intro part member
    obtain ⟨line, -, rfl⟩ := List.mem_map.1 member
    apply (paragraph (Text.trim line)).of_marks
    rw [Text.trim, String.toList_ofList, marks_trim]
  have inner := join each
  simp only [List.map_map, List.flatMap_map, Function.comp_def] at inner
  have whole := (inner.element (by decide : "blockquote" ∈ bareElements)).append lineFeed
  apply whole.of_marks
  rw [List.append_nil]
  exact marks_visible lines

/-- A line that is not quoted shows what stands in it. -/
theorem plainLine (line : String) : Shows (Preview.plainLine line) line.toList := by
  have leads : ∀ heading ∈ headings, heading.2 ∈ bareElements ∧ marks heading.1.toList = [] := by decide
  unfold Preview.plainLine
  split
  · rename_i blank
    exact lineFeed.of_marks (marks_of_allBlank blank).symm
  · split
    · rename_i lead tag found
      obtain ⟨known, unmarked⟩ := leads _ (List.mem_of_find?_eq_some found)
      have begins : startsWith lead line = true := by simpa using List.find?_some found
      apply (((escapeHtml (drop lead.length line)).element known).append lineFeed).of_marks
      rw [List.append_nil, ← Text.append_drop_of_startsWith begins, String.toList_append, marks_append, unmarked,
        Text.append_drop_of_startsWith begins, List.nil_append]
    · exact paragraph line

end Shows

/-! ## The scan of lines -/

/-- What a line shows: all of it but the mark of a quoted line. -/
def lineText (line : String) : List Char :=
  if startsWith quoteLead line then (drop quoteLead.length line).toList else line.toList

/-- What markdown shows. -/
def sourceText (markdown : String) : List Char :=
  (Text.lines markdown).flatMap lineText

/-- What a scan has written shows a text once what it holds back is added. -/
def Holds (s : Scan) (text : List Char) : Prop :=
  ∃ written, Shows s.html written ∧ marks (written ++ s.held.flatMap String.toList) = marks text

theorem holds_start : Holds Scan.start [] :=
  ⟨[], Shows.empty, rfl⟩

theorem shows_flush {s : Scan} {text : List Char} (tidy : s.Tidy) (h : Holds s text) : Shows s.flush.html text := by
  obtain ⟨written, shown, same⟩ := h
  unfold Scan.flush
  cases mode : s.mode with
  | normal =>
    rw [tidy mode] at same
    exact shown.of_marks (by simpa using same)
  | inQuote => exact (shown.append (Shows.blockquote s.held)).of_marks same

/-- One line adds what it shows. -/
theorem holds_feed {s : Scan} {text : List Char} (tidy : s.Tidy) (h : Holds s text) (line : String) :
    Holds (s.feed line) (text ++ lineText line) := by
  unfold Scan.feed lineText
  split
  · obtain ⟨written, shown, same⟩ := h
    refine ⟨written, shown, ?_⟩
    simp only [List.flatMap_append, List.flatMap_singleton, ← List.append_assoc]
    rw [marks_append, same, ← marks_append]
  · refine ⟨text ++ line.toList, (shows_flush tidy h).append (Shows.plainLine line), ?_⟩
    simp [tidy.flush]

theorem holds_foldl {s : Scan} {text : List Char} (tidy : s.Tidy) (h : Holds s text) (lines : List String) :
    Holds (lines.foldl Scan.feed s) (text ++ lines.flatMap lineText) := by
  induction lines generalizing s text with
  | nil => simpa using h
  | cons line rest ih =>
    rw [List.foldl_cons, List.flatMap_cons, ← List.append_assoc]
    exact ih (tidy.feed line) (holds_feed tidy h line)

/-- Converted markdown shows the text of its lines. -/
theorem shows_convert (markdown : String) : Shows (Preview.convert markdown) (sourceText markdown) :=
  shows_flush (Scan.tidy_start.foldl _) (holds_foldl Scan.tidy_start holds_start (Text.lines markdown))

end ComicScript.Markup
