import ComicScript.Diagram.Colour
import ComicScript.Layout.Parse

/-!
# Layouts that were read

A layout that was read can be drawn: each of its panels has cells, all of them on the grid, a token with a number, and a
colour. So nothing is divided by zero and nothing is missing, whatever characters the rows hold.
-/

namespace ComicScript
set_option autoImplicit false

/-- A footprint that can be drawn on a grid. -/
structure Footprint.Sound (width height : Int) (f : Footprint) : Prop where
  cells : f.cells ≠ []
  inside : ∀ c ∈ f.cells, 0 ≤ c.x ∧ c.x < width ∧ 0 ≤ c.y ∧ c.y < height
  label : f.label.isEmpty = false
  number : Layout.sortKey f.label.toList = .ok f.number
  colour : Colour.read (Colour.ofNumber f.number).text = .ok (Colour.ofNumber f.number)

/-- A layout that can be drawn. -/
def Layout.Sound (l : Layout) : Prop :=
  ∀ f ∈ l.footprints, f.Sound l.width l.height

/-- A grid with panels has columns and rows. -/
theorem Layout.Sound.size {l : Layout} (h : l.Sound) (panels : l.isEmpty = false) : 0 < l.width ∧ 0 < l.height := by
  obtain ⟨f, member⟩ := List.exists_mem_of_ne_nil l.footprints (by simpa [isEmpty] using panels)
  obtain ⟨c, cell⟩ := List.exists_mem_of_ne_nil f.cells (h f member).cells
  have inside := (h f member).inside c cell
  omega

/-- Every number has one of the colours of the palette, and those can be read back. -/
theorem Colour.read_ofNumber (number : Int) : read (ofNumber number).text = .ok (ofNumber number) := by
  have readable : ∀ c ∈ palette, read? c.text.toList = some c := by decide
  have bound : ((number - 1) % palette.length).toNat < palette.length := by
    have positive : 0 < (palette.length : Int) := by decide
    have low := Int.emod_nonneg (number - 1) (Int.ne_of_gt positive)
    have high := Int.emod_lt_of_pos (number - 1) positive
    omega
  rw [ofNumber, List.getElem?_eq_getElem bound, Option.getD_some, read, readable _ (List.getElem_mem bound)]

namespace Layout

/-! ## The cells of a grid -/

theorem mem_tokensOfRow {y x : Nat} {row : List Char} {t : Char × Cell} (h : t ∈ tokensOfRow y x row) :
    t.2.y = y ∧ (x : Int) ≤ t.2.x ∧ t.2.x < x + row.length := by
  induction row generalizing x with
  | nil => cases h
  | cons c rest ih =>
    have later (member : t ∈ tokensOfRow y (x + 1) rest) :
        t.2.y = y ∧ (x : Int) ≤ t.2.x ∧ t.2.x < x + (c :: rest).length := by
      have inside := ih member
      simp only [List.length_cons]
      omega
    unfold tokensOfRow at h
    split at h
    · exact later h
    · rcases List.mem_cons.1 h with rfl | member
      · refine ⟨rfl, Int.le_refl _, ?_⟩
        simp only [List.length_cons]
        omega
      · exact later member

/-- The cells of tokens are cells of the grid. -/
theorem mem_tokensOfGrid (width : Nat) {y : Nat} {rows : List (List Char)} (widths : ∀ row ∈ rows, row.length = width)
    {t : Char × Cell} (h : t ∈ tokensOfGrid y rows) :
    0 ≤ t.2.x ∧ t.2.x < width ∧ (y : Int) ≤ t.2.y ∧ t.2.y < y + rows.length := by
  induction rows generalizing y with
  | nil => cases h
  | cons row rest ih =>
    simp only [List.length_cons]
    rcases List.mem_append.1 h with here | below
    · have inside := mem_tokensOfRow here
      have whole := widths row List.mem_cons_self
      omega
    · have inside := ih (fun other member => widths other (List.mem_cons_of_mem _ member)) below
      omega

theorem le_foldl_max {n m : Nat} {ns : List Nat} (h : n ≤ m ∨ n ∈ ns) : n ≤ ns.foldl max m := by
  induction ns generalizing m with
  | nil => exact h.resolve_right List.not_mem_nil
  | cons k rest ih =>
    rw [List.foldl_cons]
    apply ih
    rcases h with before | here
    · exact .inl (Nat.le_trans before (Nat.le_max_left ..))
    · rcases List.mem_cons.1 here with rfl | later
      · exact .inl (Nat.le_max_right ..)
      · exact .inr later

theorem length_le_widthOf {lines : List (List Char)} {line : List Char} (h : line ∈ lines) :
    line.length ≤ widthOf lines :=
  le_foldl_max (.inr (List.mem_map_of_mem h))

/-- All rows of a grid are as wide as the grid. -/
theorem length_rowOf {width : Nat} {line : List Char} (h : line.length ≤ width) : (rowOf width line).length = width := by
  simp only [rowOf, List.length_append, List.length_map, List.length_replicate]
  omega

/-- The footprint of a token of a grid can be drawn. -/
theorem sound_footprintOf {width height : Nat} {tokens : List (Char × Cell)}
    (inside : ∀ t ∈ tokens, 0 ≤ t.2.x ∧ t.2.x < width ∧ 0 ≤ t.2.y ∧ t.2.y < height) {token : Char}
    (h : token ∈ tokens.map (·.1)) : (footprintOf tokens token).Sound width height := by
  refine ⟨?_, ?_, ?_, ?_, Colour.read_ofNumber _⟩
  · obtain ⟨t, member, rfl⟩ := List.mem_map.1 h
    have cell : t.2 ∈ cellsOf tokens t.1 := List.mem_map_of_mem (List.mem_filter.2 ⟨member, by simp⟩)
    exact List.ne_nil_of_mem cell
  · intro c member
    obtain ⟨t, found, rfl⟩ := List.mem_map.1 member
    exact inside t (List.mem_filter.1 found).1
  · simp [footprintOf]
  · simp [footprintOf, sortKey]

theorem sound_ofLines (lines : List (List Char)) : (ofLines lines).Sound := by
  intro f member
  have footprint := List.mem_mergeSort.1 member
  obtain ⟨token, known, rfl⟩ := List.mem_map.1 footprint
  apply sound_footprintOf
  · intro t found
    have inside := mem_tokensOfGrid (widthOf (keptLines lines)) ?_ found
    · simpa [ofLines] using inside
    · intro row drawn
      obtain ⟨line, kept, rfl⟩ := List.mem_map.1 drawn
      exact length_rowOf (length_le_widthOf kept)
  · exact List.mem_eraseDups.1 known

/-- A layout that is read is the layout of some lines. -/
theorem exists_ofLines_of_parse {source : Value} {l : Layout} (h : parse source = .ok l) :
    ∃ lines, l = ofLines lines := by
  unfold parse at h
  cases read : linesOf source with
  | error e =>
    rw [read] at h
    cases h
  | ok lines =>
    rw [read] at h
    cases h
    exact ⟨lines, rfl⟩

/-- Every layout that can be read can be drawn. -/
theorem sound_of_parse {source : Value} {l : Layout} (h : parse source = .ok l) : l.Sound := by
  obtain ⟨lines, rfl⟩ := exists_ofLines_of_parse h
  exact sound_ofLines lines

end Layout

end ComicScript
