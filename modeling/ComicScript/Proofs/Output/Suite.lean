import ComicScript.Proofs.Output.Table

/-!
# What a suite leaves behind

A loaded chapter has all that its suite is made of, in sizes that fit. After a run every page has its diagram in a file of
its own, and the index has one line for each page. What comes before those lines and behind them is known, so a reader finds
them by their places.
-/

namespace ComicScript
set_option autoImplicit false

namespace Suite

/-- In sizes that fit, all that the suite of a loaded chapter is made of is there. -/
theorem complete_of_ofValue {cfg : Config} (fits : cfg.Fits) {v : Value} {c : Chapter} (h : Chapter.ofValue v = .ok c) :
    Complete cfg c := by
  have filled : ∀ slot ∈ c.pageList, ∃ p, slot = .filled p ∧ p.Loaded := by
    intro slot member
    obtain ⟨n, page⟩ := List.getElem?_of_mem member
    obtain ⟨p, -, rfl, loaded, -⟩ := Chapter.filled_of_ofValue h page
    exact ⟨p, rfl, loaded⟩
  refine ⟨fun slot member => ?diagram, fun slot member => ?count, ?title⟩
  case diagram =>
    obtain ⟨p, rfl, loaded⟩ := filled slot member
    refine Diagram.exists_pageDiagram fits fun q same => ?_
    cases same
    exact loaded.writable
  case count =>
    obtain ⟨p, rfl, loaded⟩ := filled slot member
    rcases layoutCount_of_loaded loaded with ⟨-, none⟩ | ⟨l, -, count⟩
    · exact ⟨_, none⟩
    · exact ⟨_, count⟩
  case title =>
    obtain ⟨label, labelled⟩ := Chapter.exists_label_of_ofValue h
    rw [indexTitle, labelled]
    cases label <;> exact ⟨_, rfl⟩

/-- What follows the rows of an index. -/
def closing (rows : List String) : List String :=
  if rows.isEmpty then ["", "The script has no pages."] else []

theorem getLast?_row (number : Nat) (p : Page) (count : String) : (row number p count).toList.getLast? = some '|' := by
  simp only [row, String.toList_append]
  exact List.getLast?_append_of_ne_nil _ (by decide)

/-- The last line of an index ends with a bar or a full stop. -/
theorem exists_last_line (c : Chapter) :
    ∃ last d, (indexHead ++ rows c ++ closing (rows c)).getLast? = some last ∧ last.toList.getLast? = some d ∧
      Text.isBlank d = false := by
  cases pages : c.pageList with
  | nil =>
    have none : rows c = [] := by rw [rows, pages]; rfl
    rw [none]
    exact ⟨"The script has no pages.", '.', rfl, by decide, by decide⟩
  | cons slot rest =>
    have some_rows : rows c ≠ [] := by
      rw [rows, pages, List.mapIdx_cons]
      exact List.cons_ne_nil _ _
    have listed := List.getLast_mem some_rows
    have last : (indexHead ++ rows c ++ closing (rows c)).getLast? = some ((rows c).getLast some_rows) := by
      rw [closing, if_neg (by simpa using some_rows), List.append_nil, List.getLast?_append_of_ne_nil _ some_rows,
        List.getLast?_eq_getLast_of_ne_nil some_rows]
    refine ⟨_, '|', last, ?_, by decide⟩
    generalize (rows c).getLast some_rows = line at listed
    obtain ⟨n, -, rfl⟩ := List.mem_mapIdx.1 listed
    exact getLast?_row _ _ _

/-- An index has no blanks at its end to be dropped. -/
theorem trimRight_index (c : Chapter) : Text.trimRight (index (rows c)) = index (rows c) := by
  obtain ⟨last, d, final, ends, visible⟩ := exists_last_line c
  have same : (index (rows c)).toList.getLast? = some d :=
    (Text.getLast?_unlines final fun empty => by simp [empty] at ends).trans ends
  have whole := Text.Chars.trimRight_append (s := (index (rows c)).toList) (by simpa [same] using visible) []
  rw [List.append_nil] at whole
  rw [Text.trimRight, whole, ← String.toList_inj, String.toList_ofList]
  exact List.append_nil _

/-- The lines of an index: its title, an empty line, the head of the table, its rows and what follows them. -/
theorem lines_index {title : String} {c : Chapter} (clean : ∀ line ∈ rows c, '\n' ∉ line.toList) :
    Text.lines (titled title (index (rows c))) =
      Text.lines ("# " ++ title) ++ [""] ++ indexHead ++ rows c ++ closing (rows c) ++ [""] := by
  have body : Text.lines (index (rows c)) = indexHead ++ rows c ++ closing (rows c) := by
    refine Text.lines_unlines (by simp [indexHead]) fun line member => ?_
    rw [List.mem_append, List.mem_append] at member
    rcases member with (head | listed) | final
    · have heads : ∀ line ∈ indexHead, '\n' ∉ line.toList := by decide
      exact heads line head
    · exact clean line listed
    · have finals : ∀ line ∈ ["", "The script has no pages."], '\n' ∉ line.toList := by decide
      split at final
      · exact finals line final
      · cases final
  have parts : titled title (index (rows c)) = ("# " ++ title) ++ "\n" ++ ("" ++ "\n" ++ (index (rows c) ++ "\n")) := by
    rw [titled, withFinalLineFeed, trimRight_index]
    simp [← String.toList_inj]
  rw [parts, Text.lines_append_lineFeed, Text.lines_append_lineFeed, Text.lines_lineFeed, Text.lines_empty, body]
  simp only [List.append_assoc]

/-- **A suite loses no page.** In sizes that fit, and for every chapter that is read from a script, a run comes to an end. The
paths that it gives are all different, one for each page in their order, and each of these files holds the diagram of its
page, whatever files there were before and whether or not an index is written. The index, if it is written, is its title, an
empty line, the head of the table, one line for each page in their order, and a line that says so if there are none. Whatever
the name of a page is, its line is one line of five cells: the number, the name as it is shown with its bars escaped, the
number of its panels, the number of panels of its layout, and a link to its diagram. -/
theorem write_keeps_pages {cfg : Config} (fits : cfg.Fits) (out : Path) (name : String) (withIndex : Bool) (files : Files)
    {v : Value} {c : Chapter} (loaded : Chapter.ofValue v = .ok c) :
    let dir := out.child name
    ∃ paths after, (write cfg out name withIndex c).run.run files = (.ok paths, after) ∧
      paths.Nodup ∧ paths = c.pageList.mapIdx (fun n _ => dir.below [filename (n + 1 : Nat)]) ∧
      (∀ n slot, c.pageList[n]? = some slot → ∃ svg, Preview.pageDiagram cfg (some slot) = .ok svg ∧
        Files.textOf? after (dir.below [filename (n + 1 : Nat)]) = some (withFinalLineFeed svg)) ∧
      (withIndex = true → ∃ title text rows, indexTitle c = .ok title ∧
        Files.textOf? after (dir.below ["index.md"]) = some text ∧
        Text.lines text = Text.lines ("# " ++ title) ++ [""] ++ indexHead ++ rows ++ closing rows ++ [""] ∧
        rows.length = c.pageList.length ∧
        ∀ n slot, c.pageList[n]? = some slot → ∃ row p panels, rows[n]? = some row ∧ slot = .filled p ∧
          p.panels = .filled panels ∧ Lists row (n + 1) p panels.length) := by
  intro dir
  have complete := complete_of_ofValue fits loaded
  have listed : ∀ n slot, c.pageList[n]? = some slot → ∃ row p panels, (rows c)[n]? = some row ∧
      slot = .filled p ∧ p.panels = .filled panels ∧ Lists row (n + 1) p panels.length := by
    intro n slot page
    obtain ⟨p, panels, rfl, read, filled⟩ := Chapter.filled_of_ofValue loaded page
    have lists := lists_row read (n + 1)
    rw [panelCount, filled] at lists
    refine ⟨_, p, panels, ?_, rfl, filled, lists⟩
    rw [rows, List.getElem?_mapIdx, page]
    rfl
  have found {p : Path} {text : String} (h : (p, text) ∈ entries cfg out name c withIndex) := fun files =>
    Files.textOf?_foldl_put (nodup_entries cfg out name c withIndex) h files
  refine ⟨_, _, puts_write complete out name withIndex files, nodup_written out name c, rfl, fun n slot page => ?_,
    fun indexed => ?_⟩
  · obtain ⟨svg, drawn⟩ := complete.diagram slot (List.mem_of_getElem? page)
    have held := found (mem_entries_of_getElem? page withIndex) files
    rw [diagramOf, drawn] at held
    exact ⟨svg, drawn, held⟩
  · subst indexed
    obtain ⟨title, labelled⟩ := complete.title
    have held := found (List.mem_append_right _ List.mem_cons_self) files
    rw [indexText, labelled] at held
    refine ⟨title, _, rows c, labelled, held, lines_index fun line member => ?_, List.length_mapIdx, listed⟩
    obtain ⟨n, here⟩ := List.mem_iff_getElem?.1 member
    obtain ⟨inside, -⟩ := List.getElem?_eq_some_iff.1 here
    rw [rows, List.length_mapIdx] at inside
    obtain ⟨row, p, panels, there, -, -, lists⟩ := listed n _ (List.getElem?_eq_getElem inside)
    obtain rfl : row = line := Option.some.inj (there.symm.trans here)
    exact Text.lineFeed_not_mem_of_one_line lists.one_line

/-- A run over a page whose name has a bar, a backslash and a line end, and a page without a name or a layout. -/
theorem write_keeps_pages_barred :
    let c : Chapter := ⟨.null, none, none,
      .filled [.filled ⟨some "a|b\\|\u2028c", .str "AB", .filled []⟩, .filled ⟨none, .null, .filled []⟩]⟩
    let dir := (Path.ofString "out").child "layouts"
    Config.Fits {} ∧
    Chapter.ofValue (.map [(.str "pages", .list [.map [(.str "name", .str "a|b\\|\u2028c"), (.str "layout", .str "AB")],
      .map []])]) = .ok c ∧
    ∃ paths after, (write {} (Path.ofString "out") "layouts" true c).run.run [] = (.ok paths, after) ∧ paths.Nodup ∧
      (∃ svg, Preview.pageDiagram {} (some (.filled ⟨none, .null, .filled []⟩)) = .ok svg ∧
        Files.textOf? after (dir.below ["page_02.svg"]) = some (withFinalLineFeed svg)) ∧
      ∃ text, Files.textOf? after (dir.below ["index.md"]) = some text ∧
        ∃ row ∈ Text.lines text, ∃ panels, Lists row 1 ⟨some "a|b\\|\u2028c", .str "AB", .filled []⟩ panels := by
  intro c dir
  have decoded : Chapter.ofValue (.map [(.str "pages", .list [.map [(.str "name", .str "a|b\\|\u2028c"),
      (.str "layout", .str "AB")], .map []])]) = .ok c := rfl
  obtain ⟨paths, after, ran, distinct, -, diagrams, index⟩ :=
    write_keeps_pages Config.fits_default (Path.ofString "out") "layouts" true [] decoded
  obtain ⟨title, text, rows, -, held, lines, -, listed⟩ := index rfl
  obtain ⟨row, p, panels, found, same, -, lists⟩ := listed 0 _ rfl
  obtain rfl := Slot.filled.inj same
  have member : row ∈ Text.lines text := by
    rw [lines]
    simp [List.mem_of_getElem? found]
  exact ⟨Config.fits_default, decoded, paths, after, ran, distinct, diagrams 1 _ rfl, text, held, row, member, _, lists⟩

end Suite

end ComicScript
