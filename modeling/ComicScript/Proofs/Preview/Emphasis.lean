import ComicScript.Proofs.Preview.Pieces
import ComicScript.Proofs.Text.Lines

/-!
# What emphasis does to a line

A converted line is taken apart again into its tags and its other characters. Every tag stands for the asterisks that were
written in its place, so putting them back gives the line; and of the asterisks of a line at most one is left.
-/

namespace ComicScript.Preview
set_option autoImplicit false
open Text.Chars (htmlChar)

/-! ## Taking HTML apart -/

/-- The tag of emphasised text that some HTML begins with, if it begins with one. -/
def tagAt? (html : List Char) : Option Mark :=
  [Mark.openStrong, .closeStrong, .openEm, .closeEm].find? (·.text.toList.isPrefixOf html)

/-- The tags of emphasised text in some HTML, and the other characters. -/
def takeApart : List Char → List Piece
  | [] => []
  | c :: rest =>
    match tagAt? (c :: rest) with
    | some m => .mark m :: takeApart (rest.drop (m.text.toList.length - 1))
    | none => .char c :: takeApart rest
termination_by html => html.length
decreasing_by
  all_goals simp only [List.length_cons, List.length_drop]
  all_goals omega

/-- What a piece of a line shows. -/
def Piece.shown : Piece → List Char
  | char c => [c]
  | mark _ => []

/-- The tag that a piece is. -/
def Piece.mark? : Piece → Option Mark
  | char _ => none
  | mark m => some m

/-- The tags among some pieces. -/
def marksOf (ps : List Piece) : List Mark :=
  ps.filterMap Piece.mark?

/-- The tags of emphasised text in some HTML, in order. -/
def tags (html : String) : List Mark :=
  marksOf (takeApart html.toList)

/-- Some HTML without the tags of emphasised text. -/
def withoutTags (html : String) : String :=
  String.ofList ((takeApart html.toList).flatMap Piece.shown)

@[simp] theorem marksOf_nil : marksOf [] = [] := rfl

@[simp] theorem marksOf_char (c : Char) (ps : List Piece) : marksOf (.char c :: ps) = marksOf ps := rfl

@[simp] theorem marksOf_mark (m : Mark) (ps : List Piece) : marksOf (.mark m :: ps) = m :: marksOf ps := rfl

@[simp] theorem marksOf_append (a b : List Piece) : marksOf (a ++ b) = marksOf a ++ marksOf b :=
  List.filterMap_append

@[simp] theorem marksOf_map_char (s : List Char) : marksOf (s.map .char) = [] := by
  induction s with
  | nil => rfl
  | cons c rest ih => exact ih

/-- A tag begins with an angle bracket. -/
theorem tagAt?_eq_none {c : Char} (h : c ≠ '<') (rest : List Char) : tagAt? (c :: rest) = none := by
  simp [tagAt?, Mark.text, List.isPrefixOf, Ne.symm h]

/-- Characters other than angle brackets are no part of a tag. -/
theorem takeApart_append {s : List Char} (h : '<' ∉ s) (html : List Char) :
    takeApart (s ++ html) = s.map .char ++ takeApart html := by
  induction s with
  | nil => rfl
  | cons c rest ih =>
    rw [List.mem_cons, not_or] at h
    rw [List.cons_append, takeApart, tagAt?_eq_none (Ne.symm h.1), ih h.2]
    rfl

/-- A written tag is read as that tag. -/
theorem takeApart_mark (m : Mark) (html : List Char) :
    takeApart (m.text.toList ++ html) = .mark m :: takeApart html := by
  cases m
  all_goals
    simp only [Mark.text]
    simp [takeApart, tagAt?, Mark.text, List.isPrefixOf]

/-- A piece as it is read in HTML. -/
def Piece.written : Piece → List Piece
  | char c => (htmlChar c).map .char
  | mark m => [.mark m]

theorem takeApart_render (p : Piece) (html : List Char) : takeApart (p.render ++ html) = p.written ++ takeApart html := by
  cases p with
  | char c => exact takeApart_append (lt_not_mem_htmlChar c) html
  | mark m => exact takeApart_mark m html

/-- Written pieces are read as they were, with their characters escaped. -/
theorem takeApart_flatMap_render (ps : List Piece) : takeApart (ps.flatMap Piece.render) = ps.flatMap Piece.written := by
  induction ps with
  | nil => rw [List.flatMap_nil, takeApart, List.flatMap_nil]
  | cons p rest ih => rw [List.flatMap_cons, takeApart_render, ih, List.flatMap_cons]

/-- The tags of a converted line are those of its pieces. -/
theorem tags_inline (text : String) : tags (inline text) = marksOf (pieces text.toList) := by
  rw [tags, inline_eq, String.toList_ofList, takeApart_flatMap_render]
  induction pieces text.toList with
  | nil => rfl
  | cons p rest ih =>
    rw [List.flatMap_cons, marksOf_append, ih]
    cases p <;> simp [Piece.written]

/-- Without its tags a converted line is the escaped text of its pieces. -/
theorem withoutTags_inline (text : String) :
    withoutTags (inline text) = Text.escapeHtml (String.ofList ((pieces text.toList).flatMap Piece.shown)) := by
  rw [withoutTags, inline_eq, String.toList_ofList, takeApart_flatMap_render, Text.escapeHtml, String.toList_ofList]
  congr 1
  induction pieces text.toList with
  | nil => rfl
  | cons p rest ih =>
    rw [List.flatMap_cons, List.flatMap_append, ih, List.flatMap_cons, Text.Chars.escapeHtml_eq_flatMap,
      Text.Chars.escapeHtml_eq_flatMap, List.flatMap_append]
    cases p <;> simp [Piece.written, Piece.shown, List.flatMap_map]

/-! ## The asterisks behind the tags -/

/-- The asterisks that a tag stands for. -/
def Mark.stars : Mark → List Char
  | openStrong => ['*', '*']
  | closeStrong => ['*', '*']
  | openEm => ['*']
  | closeEm => ['*']

/-- What a piece stands for in the line that was converted. -/
def Piece.source : Piece → List Char
  | char c => [c]
  | mark m => m.stars

theorem eq_of_untilPair? {s inside after : List Char} (h : untilPair? s = some (inside, after)) :
    s = inside ++ '*' :: '*' :: after := by
  induction s generalizing inside with
  | nil => cases h
  | cons c rest ih =>
    unfold untilPair? at h
    split at h
    · cases h
      simp_all
    · rename_i same
      obtain ⟨rfl, rfl⟩ := List.cons.inj same
      split at h
      · cases h
      · obtain ⟨⟨i, a⟩, found, same⟩ := Option.map_eq_some_iff.1 h
        cases same
        rw [ih found]
        rfl
    · cases h

theorem eq_of_untilStar? {s inside after : List Piece} (h : untilStar? s = some (inside, after)) :
    s = inside ++ .char '*' :: after := by
  induction s generalizing inside with
  | nil => cases h
  | cons p rest ih =>
    unfold untilStar? at h
    split at h
    · rename_i star
      cases h
      rw [star]
      rfl
    · split at h
      · cases h
      · obtain ⟨⟨i, a⟩, found, same⟩ := Option.map_eq_some_iff.1 h
        cases same
        rw [ih found]
        rfl

theorem flatMap_source_map_char (s : List Char) : (s.map Piece.char).flatMap Piece.source = s := by
  rw [List.flatMap_map]
  exact List.flatMap_singleton' s

/-- With asterisks for its tags, text with its strong parts marked is the text. -/
theorem flatMap_source_markStrong (s : List Char) : (markStrong s).flatMap Piece.source = s := by
  fun_induction markStrong s with
  | case1 => rfl
  | case2 c rest pair inside after found ih =>
    obtain ⟨rfl, second⟩ := pair
    obtain ⟨tail, rfl⟩ := List.head?_eq_some_iff.1 second
    have whole : tail = inside ++ '*' :: '*' :: after := eq_of_untilPair? found
    rw [List.cons_append, List.flatMap_cons, List.flatMap_append, flatMap_source_map_char, List.flatMap_cons, ih, whole]
    rfl
  | case3 c rest pair open_ ih => rw [List.flatMap_cons, ih]; rfl
  | case4 c rest other ih => rw [List.flatMap_cons, ih]; rfl

/-- Marking emphasised parts changes nothing of what the pieces stand for. -/
theorem flatMap_source_markEm (ps : List Piece) : (markEm ps).flatMap Piece.source = ps.flatMap Piece.source := by
  fun_induction markEm ps with
  | case1 => rfl
  | case2 rest inside after found ih =>
    rw [eq_of_untilStar? found, List.cons_append, List.flatMap_cons, List.flatMap_append, List.flatMap_cons, ih,
      List.flatMap_cons, List.flatMap_append, List.flatMap_cons]
    rfl
  | case3 rest open_ ih => rw [List.flatMap_cons, ih, List.flatMap_cons]
  | case4 p rest other ih => rw [List.flatMap_cons, ih, List.flatMap_cons]

/-- With asterisks for its tags, a converted line is the line. -/
theorem flatMap_source_pieces (s : List Char) : (pieces s).flatMap Piece.source = s := by
  rw [pieces, flatMap_source_markEm, flatMap_source_markStrong]

theorem sublist_flatMap_source (ps : List Piece) : (ps.flatMap Piece.shown).Sublist (ps.flatMap Piece.source) := by
  induction ps with
  | nil => exact .slnil
  | cons p rest ih =>
    rw [List.flatMap_cons, List.flatMap_cons]
    refine List.Sublist.append ?_ ih
    cases p with
    | char c => exact List.Sublist.refl _
    | mark m => exact List.nil_sublist _

theorem filter_flatMap_source (ps : List Piece) :
    (ps.flatMap Piece.shown).filter (· ≠ '*') = (ps.flatMap Piece.source).filter (· ≠ '*') := by
  induction ps with
  | nil => rfl
  | cons p rest ih =>
    rw [List.flatMap_cons, List.flatMap_cons, List.filter_append, List.filter_append, ih]
    congr 1
    cases p with
    | char c => rfl
    | mark m => cases m <;> rfl

/-- The asterisks of a line are those that are left and those that tags stand for. -/
theorem count_star_source (ps : List Piece) :
    (ps.flatMap Piece.source).count '*' =
      (ps.flatMap Piece.shown).count '*' +
        2 * ((marksOf ps).count .openStrong + (marksOf ps).count .closeStrong) +
        ((marksOf ps).count .openEm + (marksOf ps).count .closeEm) := by
  induction ps with
  | nil => rfl
  | cons p rest ih =>
    rw [List.flatMap_cons, List.flatMap_cons, List.count_append, List.count_append, ih]
    cases p with
    | char c =>
      simp only [Piece.source, Piece.shown, marksOf_char]
      omega
    | mark m =>
      cases m
      all_goals
        simp [Piece.source, Piece.shown, Mark.stars]
        omega

/-! ## Tags of one kind -/

/-- A tag of strong text, not of emphasised text. -/
def Mark.isStrong : Mark → Bool
  | openStrong => true
  | closeStrong => true
  | openEm => false
  | closeEm => false

/-- Some number of times an opening tag and then its closing tag. -/
def pairs (n : Nat) (opening closing : Mark) : List Mark :=
  (List.replicate n [opening, closing]).flatten

theorem pairs_succ (n : Nat) (opening closing : Mark) :
    pairs (n + 1) opening closing = opening :: closing :: pairs n opening closing := rfl

/-- Strong parts do not overlap. -/
theorem exists_marksOf_markStrong (s : List Char) :
    ∃ n, marksOf (markStrong s) = pairs n .openStrong .closeStrong := by
  fun_induction markStrong s with
  | case1 => exact ⟨0, rfl⟩
  | case2 c rest pair inside after found ih =>
    obtain ⟨n, same⟩ := ih
    refine ⟨n + 1, ?_⟩
    rw [List.cons_append, marksOf_mark, marksOf_append, marksOf_map_char, marksOf_mark, same]
    rfl
  | case3 c rest pair open_ ih => exact ih
  | case4 c rest other ih => exact ih

theorem count_pairs {opening closing : Mark} (other : opening ≠ closing) (n : Nat) :
    (pairs n opening closing).count opening = n ∧ (pairs n opening closing).count closing = n := by
  induction n with
  | zero => exact ⟨rfl, rfl⟩
  | succ n ih =>
    obtain ⟨first, second⟩ := ih
    rw [pairs_succ, List.count_cons_self, List.count_cons_of_ne other.symm, first, List.count_cons_of_ne other,
      List.count_cons_self, second]
    exact ⟨rfl, rfl⟩

theorem isStrong_of_mem_pairs {n : Nat} : ∀ m ∈ pairs n .openStrong .closeStrong, m.isStrong = true := by
  induction n with
  | zero => exact fun m member => absurd member List.not_mem_nil
  | succ n ih =>
    rw [pairs_succ, List.forall_mem_cons, List.forall_mem_cons]
    exact ⟨rfl, rfl, ih⟩

/-- Marking emphasised parts keeps the tags of strong ones. -/
theorem filter_strong_markEm (ps : List Piece) :
    (marksOf (markEm ps)).filter Mark.isStrong = (marksOf ps).filter Mark.isStrong := by
  fun_induction markEm ps with
  | case1 => rfl
  | case2 rest inside after found ih =>
    rw [eq_of_untilStar? found, List.cons_append, marksOf_mark, marksOf_append, marksOf_mark, marksOf_char,
      marksOf_append, marksOf_char, List.filter_cons_of_neg (by decide), List.filter_append, List.filter_append,
      List.filter_cons_of_neg (by decide), ih]
  | case3 rest open_ ih => exact ih
  | case4 p rest other ih =>
    cases p with
    | char c => exact ih
    | mark m => rw [marksOf_mark, marksOf_mark, List.filter_cons, List.filter_cons, ih]

/-- Emphasised parts do not overlap. -/
theorem exists_filter_em_markEm {ps : List Piece} (strong : ∀ m ∈ marksOf ps, m.isStrong = true) :
    ∃ n, (marksOf (markEm ps)).filter (!Mark.isStrong ·) = pairs n .openEm .closeEm := by
  fun_induction markEm ps with
  | case1 => exact ⟨0, rfl⟩
  | case2 rest inside after found ih =>
    rw [eq_of_untilStar? found, marksOf_char, marksOf_append, marksOf_char, List.forall_mem_append] at strong
    obtain ⟨n, same⟩ := ih strong.2
    have none : (marksOf inside).filter (!Mark.isStrong ·) = [] :=
      List.filter_eq_nil_iff.2 fun m member => by simp [strong.1 m member]
    refine ⟨n + 1, ?_⟩
    rw [List.cons_append, marksOf_mark, marksOf_append, marksOf_mark, List.filter_cons_of_pos (by decide),
      List.filter_append, none, List.filter_cons_of_pos (by decide), same]
    rfl
  | case3 rest open_ ih => exact ih strong
  | case4 p rest other ih =>
    cases p with
    | char c => exact ih strong
    | mark m =>
      rw [marksOf_mark, List.forall_mem_cons] at strong
      rw [marksOf_mark, List.filter_cons_of_neg (by simp [strong.1])]
      exact ih strong.2

/-- The tags of each kind in a converted line are pairs of an opening tag and its closing tag. -/
theorem exists_pairs_tags (text : String) :
    (∃ n, (tags (inline text)).filter Mark.isStrong = pairs n .openStrong .closeStrong) ∧
      ∃ n, (tags (inline text)).filter (!Mark.isStrong ·) = pairs n .openEm .closeEm := by
  obtain ⟨n, same⟩ := exists_marksOf_markStrong text.toList
  have strong : ∀ m ∈ marksOf (markStrong text.toList), m.isStrong = true := by
    rw [same]
    exact isStrong_of_mem_pairs
  rw [tags_inline]
  refine ⟨⟨n, ?_⟩, exists_filter_em_markEm strong⟩
  rw [pieces, filter_strong_markEm, List.filter_eq_self.2 strong, same]

/-- A kind of tags that are pairs has as many of each as there are pairs. -/
theorem count_of_filter_eq_pairs {ms : List Mark} {kind : Mark → Bool} {opening closing : Mark} {n : Nat}
    (other : opening ≠ closing) (opens : kind opening = true) (closes : kind closing = true)
    (h : ms.filter kind = pairs n opening closing) : ms.count opening = n ∧ ms.count closing = n := by
  have counted := count_pairs other n
  rwa [← h, List.count_filter opens, List.count_filter closes] at counted

/-- The strong tags of a converted line are its strong parts, one behind the other. -/
theorem filter_strong_tags (text : String) :
    (tags (inline text)).filter Mark.isStrong =
      pairs ((tags (inline text)).count .openStrong) .openStrong .closeStrong := by
  obtain ⟨⟨n, same⟩, -⟩ := exists_pairs_tags text
  rw [(count_of_filter_eq_pairs (by decide) rfl rfl same).1, same]

/-- The other tags of a converted line are its emphasised parts, one behind the other. -/
theorem filter_em_tags (text : String) :
    (tags (inline text)).filter (!Mark.isStrong ·) = pairs ((tags (inline text)).count .openEm) .openEm .closeEm := by
  obtain ⟨-, n, same⟩ := exists_pairs_tags text
  rw [(count_of_filter_eq_pairs (by decide) rfl rfl same).1, same]

/-- Every tag of a converted line has its closing tag. -/
theorem count_tags_inline (text : String) :
    (tags (inline text)).count .closeStrong = (tags (inline text)).count .openStrong ∧
      (tags (inline text)).count .closeEm = (tags (inline text)).count .openEm := by
  have strong := count_of_filter_eq_pairs (by decide) rfl rfl (filter_strong_tags text)
  have em := count_of_filter_eq_pairs (by decide) rfl rfl (filter_em_tags text)
  exact ⟨strong.2, em.2⟩

/-- Each strong part takes four asterisks of a line and each emphasised one two. -/
theorem count_star_inline (text : String) :
    text.toList.count '*' =
      ((pieces text.toList).flatMap Piece.shown).count '*' + 4 * (tags (inline text)).count .openStrong +
        2 * (tags (inline text)).count .openEm := by
  obtain ⟨strong, em⟩ := count_tags_inline text
  have counted := count_star_source (pieces text.toList)
  rw [flatMap_source_pieces, ← tags_inline, strong, em] at counted
  omega

/-! ## The asterisks that are left -/

/-- Before the next asterisk there is none, and no line feed. -/
theorem not_mem_of_untilStar? {ps inside after : List Piece} (h : untilStar? ps = some (inside, after)) :
    Piece.char '*' ∉ inside ∧ Piece.char '\n' ∉ inside := by
  induction ps generalizing inside with
  | nil => cases h
  | cons p rest ih =>
    unfold untilStar? at h
    split at h
    · cases h
      exact ⟨List.not_mem_nil, List.not_mem_nil⟩
    · rename_i star
      split at h
      · cases h
      · rename_i feed
        obtain ⟨⟨i, a⟩, found, same⟩ := Option.map_eq_some_iff.1 h
        cases same
        obtain ⟨stars, feeds⟩ := ih found
        rw [List.mem_cons, List.mem_cons, not_or, not_or]
        exact ⟨⟨Ne.symm star, stars⟩, Ne.symm feed, feeds⟩

/-- Without a next asterisk on its line there is a line feed before every asterisk. -/
theorem lineFeed_mem_of_untilStar? {before after : List Piece}
    (h : untilStar? (before ++ .char '*' :: after) = none) : Piece.char '\n' ∈ before := by
  induction before with
  | nil => simp [untilStar?] at h
  | cons p before ih =>
    rw [List.cons_append, untilStar?] at h
    split at h
    · cases h
    · split at h
      · rename_i feed
        rw [feed]
        exact List.mem_cons_self
      · exact List.mem_cons_of_mem _ (ih (Option.map_eq_none_iff.1 h))

theorem not_mem_flatMap_render {ps : List Piece} {c : Char} (known : c = '\n' ∨ c = '*') (h : Piece.char c ∉ ps) :
    c ∉ ps.flatMap Piece.render := by
  intro member
  obtain ⟨p, inside, written⟩ := List.mem_flatMap.1 member
  exact h (eq_of_mem_render known written ▸ inside)

/-- The lines of some pieces as they are written. -/
def writtenLines (ps : List Piece) : List (List Char) :=
  Text.Chars.splitOn '\n' (ps.flatMap Piece.render)

theorem writtenLines_lineFeed (ps : List Piece) : writtenLines (.char '\n' :: ps) = [] :: writtenLines ps := rfl

/-- Pieces other than a line feed are written on the first line. -/
theorem writtenLines_append {ps : List Piece} (h : Piece.char '\n' ∉ ps) (rest : List Piece) :
    writtenLines (ps ++ rest) = (writtenLines rest).modifyHead (ps.flatMap Piece.render ++ ·) := by
  rw [writtenLines, List.flatMap_append, Text.Chars.splitOn_append (not_mem_flatMap_render (.inl rfl) h), writtenLines]

theorem exists_writtenLines_eq (ps : List Piece) : ∃ first others, writtenLines ps = first :: others :=
  List.exists_cons_of_ne_nil (by rw [writtenLines, Text.Chars.splitOn_eq]; exact List.splitOn_ne_nil _ _)

/-- Without a next asterisk on a line, none is left on it. -/
theorem star_not_mem_of_untilStar? {ps : List Piece} (h : untilStar? ps = none) {line : List Char}
    (first : line ∈ (writtenLines (markEm ps)).head?) : '*' ∉ line := by
  induction ps generalizing line with
  | nil =>
    obtain rfl : [] = line := by simpa [markEm, writtenLines, Text.Chars.splitOn] using first
    exact List.not_mem_nil
  | cons p rest ih =>
    unfold untilStar? at h
    split at h
    · cases h
    · rename_i star
      have kept : markEm (p :: rest) = [p] ++ markEm rest := by rw [markEm, if_neg star]; rfl
      rw [kept] at first
      split at h
      · rename_i feed
        rw [feed, List.singleton_append, writtenLines_lineFeed] at first
        obtain rfl : [] = line := by simpa using first
        exact List.not_mem_nil
      · rename_i feed
        obtain ⟨head, others, lines⟩ := exists_writtenLines_eq (markEm rest)
        rw [writtenLines_append (by simpa using Ne.symm feed), lines] at first
        obtain rfl : [p].flatMap Piece.render ++ head = line := by simpa using first
        have later : '*' ∉ head := ih (Option.map_eq_none_iff.1 h) (by rw [lines]; rfl)
        rw [List.mem_append, not_or]
        exact ⟨not_mem_flatMap_render (.inr rfl) (by simpa using Ne.symm star), later⟩

/-- At most one asterisk is left on a line. -/
theorem count_star_le_one (ps : List Piece) : ∀ line ∈ writtenLines (markEm ps), line.count '*' ≤ 1 := by
  -- what is written without asterisks before the first line changes no count
  have before (qs : List Piece) {rest : List Piece} (stars : Piece.char '*' ∉ qs) (feeds : Piece.char '\n' ∉ qs)
      (bound : ∀ line ∈ writtenLines rest, line.count '*' ≤ 1) :
      ∀ line ∈ writtenLines (qs ++ rest), line.count '*' ≤ 1 := by
    obtain ⟨first, others, lines⟩ := exists_writtenLines_eq rest
    rw [lines, List.forall_mem_cons] at bound
    rw [writtenLines_append feeds, lines, List.modifyHead_cons, List.forall_mem_cons, List.count_append,
      List.count_eq_zero.2 (not_mem_flatMap_render (.inr rfl) stars), Nat.zero_add]
    exact bound
  fun_induction markEm ps with
  | case1 => simp [writtenLines, Text.Chars.splitOn]
  | case2 rest inside after found ih =>
    obtain ⟨stars, feeds⟩ := not_mem_of_untilStar? found
    have marked := before (.mark .openEm :: inside ++ [.mark .closeEm]) (by simpa using stars) (by simpa using feeds) ih
    simpa using marked
  | case3 rest open_ ih =>
    obtain ⟨first, others, lines⟩ := exists_writtenLines_eq (markEm rest)
    have none : '*' ∉ first := star_not_mem_of_untilStar? open_ (by rw [lines]; rfl)
    have single : Piece.char '\n' ∉ [Piece.char '*'] := by decide
    have written := writtenLines_append single (markEm rest)
    rw [List.singleton_append, lines] at written
    rw [written, List.modifyHead_cons, List.forall_mem_cons]
    rw [lines, List.forall_mem_cons] at ih
    refine ⟨?_, ih.2⟩
    rw [List.count_append, List.count_eq_zero.2 none]
    decide
  | case4 p rest other ih =>
    by_cases feed : p = .char '\n'
    · rw [feed, writtenLines_lineFeed, List.forall_mem_cons]
      exact ⟨Nat.zero_le 1, ih⟩
    · exact before [p] (by simpa using Ne.symm other) (by simpa using Ne.symm feed) ih

/-- **Emphasis takes asterisks and nothing else.** Without its tags a converted line is the escaped text of the line with
some asterisks deleted: four for each strong part and two for each emphasised one. Every tag has its closing tag, and at
most one asterisk is left on a line. -/
theorem inline_deletes_stars (text : String) :
    ∃ kept : String,
      withoutTags (inline text) = Text.escapeHtml kept ∧
      kept.toList.Sublist text.toList ∧
      kept.toList.filter (· ≠ '*') = text.toList.filter (· ≠ '*') ∧
      text.toList.count '*' =
        kept.toList.count '*' + 4 * (tags (inline text)).count .openStrong + 2 * (tags (inline text)).count .openEm ∧
      (tags (inline text)).count .closeStrong = (tags (inline text)).count .openStrong ∧
      (tags (inline text)).count .closeEm = (tags (inline text)).count .openEm ∧
      ∀ line ∈ Text.lines (inline text), line.toList.count '*' ≤ 1 := by
  obtain ⟨strong, em⟩ := count_tags_inline text
  have source := flatMap_source_pieces text.toList
  refine ⟨String.ofList ((pieces text.toList).flatMap Piece.shown), withoutTags_inline text, ?_, ?_, ?_, strong, em, ?_⟩
  · have within := sublist_flatMap_source (pieces text.toList)
    rw [source] at within
    rwa [String.toList_ofList]
  · rw [String.toList_ofList, filter_flatMap_source, source]
  · rw [String.toList_ofList, ← count_star_inline]
  · intro line member
    rw [Text.lines, Text.splitOn, inline_eq, String.toList_ofList] at member
    obtain ⟨written, listed, rfl⟩ := List.mem_map.1 member
    rw [String.toList_ofList]
    exact count_star_le_one _ written listed

end ComicScript.Preview
