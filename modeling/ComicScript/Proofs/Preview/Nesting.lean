import ComicScript.Proofs.Preview.Emphasis
import Mathlib.Data.List.TakeWhile

/-!
# Nested emphasis

Strong parts are marked first and emphasised ones then, without regard to the tags that are already there. So the tags of a
line are nested exactly if no two asterisks that are matched for emphasis have a strong part begin or end between them
alone. Six asterisks are needed for that.
-/

namespace ComicScript.Preview
set_option autoImplicit false

/-! ## Nested tags -/

/-- The opening tag that a tag closes, if it is a closing one. -/
def Mark.closes? : Mark → Option Mark
  | openStrong => none
  | closeStrong => some openStrong
  | openEm => none
  | closeEm => some openEm

/-- Reads tags behind some that are open, the last opened one first, and gives those that are open at the end; there are
none to give if a tag closes something else than the last one that is open. -/
def unclosed? (opened : List Mark) : List Mark → Option (List Mark)
  | [] => some opened
  | m :: rest =>
    match m.closes? with
    | none => unclosed? (m :: opened) rest
    | some o => if opened.head? = some o then unclosed? opened.tail rest else none

/-- Every closing tag closes the last tag that is open, and none is open at the end. -/
def Nested (ms : List Mark) : Prop :=
  unclosed? [] ms = some []

instance (ms : List Mark) : Decidable (Nested ms) :=
  inferInstanceAs (Decidable (unclosed? [] ms = some []))

example : Nested [.openEm, .openStrong, .closeStrong, .closeEm] ∧ ¬ Nested [.openStrong, .openEm, .closeStrong, .closeEm] := by
  decide

theorem unclosed?_append (opened a b : List Mark) :
    unclosed? opened (a ++ b) = (unclosed? opened a).bind (unclosed? · b) := by
  induction a generalizing opened with
  | nil => rfl
  | cons m rest ih =>
    rw [List.cons_append, unclosed?, unclosed?]
    cases m.closes? with
    | none => exact ih _
    | some o =>
      simp only
      split
      · exact ih _
      · rfl

/-- Tags that are read behind more open ones leave those open. -/
theorem unclosed?_below {opened ms left : List Mark} (h : unclosed? opened ms = some left) (below : List Mark) :
    unclosed? (opened ++ below) ms = some (left ++ below) := by
  induction ms generalizing opened with
  | nil =>
    obtain rfl : opened = left := Option.some.inj h
    rfl
  | cons m rest ih =>
    rw [unclosed?] at h ⊢
    cases closes : m.closes? with
    | none =>
      rw [closes] at h
      exact ih h
    | some o =>
      rw [closes] at h
      simp only at h ⊢
      split at h
      · rename_i last
        obtain ⟨others, rfl⟩ := List.head?_eq_some_iff.1 last
        rw [List.cons_append, List.head?_cons, if_pos rfl, List.tail_cons]
        exact ih h
      · cases h

theorem Nested.unclosed? {ms : List Mark} (h : Nested ms) (opened : List Mark) :
    Preview.unclosed? opened ms = some opened := by
  simpa using unclosed?_below h opened

theorem Nested.append {a b : List Mark} (ha : Nested a) (hb : Nested b) : Nested (a ++ b) := by
  rw [Nested, unclosed?_append, ha.unclosed?]
  exact hb

/-- Tags of strong text leave the emphasis around them open. -/
theorem unclosed?_strong {ms : List Mark} (strong : ∀ m ∈ ms, m.isStrong = true) (opened : List Mark)
    {below left : List Mark} (own : ∀ o ∈ opened, o = .openStrong) (h : unclosed? (opened ++ .openEm :: below) ms = some left) :
    ∃ own, unclosed? opened ms = some own ∧ (∀ o ∈ own, o = .openStrong) ∧ left = own ++ .openEm :: below := by
  induction ms generalizing opened with
  | nil =>
    obtain rfl : opened ++ .openEm :: below = left := Option.some.inj h
    exact ⟨opened, rfl, own, rfl⟩
  | cons m rest ih =>
    rw [List.forall_mem_cons] at strong
    cases m with
    | openStrong => exact ih strong.2 (.openStrong :: opened) (List.forall_mem_cons.2 ⟨rfl, own⟩) h
    | closeStrong =>
      cases opened with
      | nil => cases h
      | cons o others =>
        obtain ⟨rfl, others_own⟩ := List.forall_mem_cons.1 own
        exact ih strong.2 others others_own h
    | openEm => cases strong.1
    | closeEm => cases strong.1

/-- Emphasis around strong tags is closed exactly if those are nested. -/
theorem unclosed?_em {ms : List Mark} (strong : ∀ m ∈ ms, m.isStrong = true) (opened rest : List Mark) :
    unclosed? opened (.openEm :: ms ++ .closeEm :: rest) = if Nested ms then unclosed? opened rest else none := by
  have around : unclosed? opened (.openEm :: ms ++ .closeEm :: rest) =
      (unclosed? (.openEm :: opened) ms).bind (unclosed? · (.closeEm :: rest)) :=
    unclosed?_append (.openEm :: opened) ms _
  rw [around]
  split
  · rename_i nested
    rw [nested.unclosed?]
    rfl
  · rename_i crossed
    cases read : unclosed? (.openEm :: opened) ms with
    | none => rfl
    | some left =>
      obtain ⟨own, alone, opens, rfl⟩ := unclosed?_strong strong [] (by simp) read
      cases own with
      | nil => exact absurd alone crossed
      | cons o others =>
        -- the last tag that is open is a strong one, which the emphasis does not close
        obtain ⟨rfl, -⟩ := List.forall_mem_cons.1 opens
        rfl

/-! ## Matched asterisks -/

/-- The number of asterisks after the last line feed of some pieces. -/
def starsOnLine (ps : List Piece) : Nat :=
  (ps.reverse.takeWhile (· ≠ .char '\n')).count (.char '*')

/-- Two asterisks are matched for emphasis if they stand on one line with none between them and an even number before them.
The tags between any two that are matched are nested by themselves: no strong part has only its beginning or only its end
there. -/
def Uncrossed (ps : List Piece) : Prop :=
  ∀ before between after, ps = before ++ .char '*' :: (between ++ .char '*' :: after) →
    .char '*' ∉ between → .char '\n' ∉ between → starsOnLine before % 2 = 0 → Nested (marksOf between)

/-- Only what stands behind a line feed is on the line. -/
theorem starsOnLine_append_of_mem {b : List Piece} (h : Piece.char '\n' ∈ b) (a : List Piece) :
    starsOnLine (a ++ b) = starsOnLine b := by
  rw [starsOnLine, List.reverse_append, List.takeWhile_append, if_neg, starsOnLine]
  intro whole
  have all := (List.takeWhile_prefix _).eq_of_length whole
  have other := List.takeWhile_eq_self_iff.1 all (.char '\n') (List.mem_reverse.2 h)
  simp at other

/-- What stands behind no line feed goes on with the line. -/
theorem starsOnLine_append_of_not_mem {b : List Piece} (h : Piece.char '\n' ∉ b) (a : List Piece) :
    starsOnLine (a ++ b) = b.count (.char '*') + starsOnLine a := by
  have all : ∀ p ∈ b.reverse, decide (p ≠ .char '\n') = true := fun p member =>
    decide_eq_true fun same => h (same ▸ List.mem_reverse.1 member)
  rw [starsOnLine, List.reverse_append, List.takeWhile_append_of_pos all, List.count_append, List.count_reverse,
    starsOnLine]

theorem starsOnLine_cons {p : Piece} (h : p ≠ .char '*') (ps : List Piece) : starsOnLine (p :: ps) = starsOnLine ps := by
  by_cases feed : Piece.char '\n' ∈ ps
  · exact starsOnLine_append_of_mem feed [p]
  · have single : starsOnLine [p] = 0 := by
      rw [starsOnLine, List.count_eq_zero]
      intro member
      have same := List.mem_reverse.1 ((List.takeWhile_prefix _).subset member)
      exact h (List.mem_singleton.1 same).symm
    have line := starsOnLine_append_of_not_mem feed [p]
    have alone := starsOnLine_append_of_not_mem feed []
    rw [List.nil_append] at alone
    rw [single] at line
    exact line.trans alone.symm

/-- Two more asterisks on the line before change nothing. -/
theorem starsOnLine_pair {inside : List Piece} (stars : Piece.char '*' ∉ inside) (feeds : Piece.char '\n' ∉ inside)
    (ps : List Piece) :
    starsOnLine (.char '*' :: (inside ++ .char '*' :: ps)) % 2 = starsOnLine ps % 2 := by
  have pair : Piece.char '\n' ∉ .char '*' :: inside ++ [.char '*'] := by simpa using feeds
  have two : starsOnLine (.char '*' :: inside ++ [.char '*']) = 2 := by
    have counted := starsOnLine_append_of_not_mem pair []
    have none : inside.count (.char '*') = 0 := List.count_eq_zero.2 stars
    rw [List.nil_append] at counted
    rw [counted]
    simp [none, starsOnLine]
  have same : Piece.char '*' :: (inside ++ .char '*' :: ps) = (.char '*' :: inside ++ [.char '*']) ++ ps := by simp
  rw [same]
  by_cases feed : Piece.char '\n' ∈ ps
  · rw [starsOnLine_append_of_mem feed]
  · have alone := starsOnLine_append_of_not_mem feed []
    rw [List.nil_append] at alone
    rw [starsOnLine_append_of_not_mem feed, alone, two]
    simp [starsOnLine]

theorem uncrossed_nil : Uncrossed [] := by
  intro before between after same
  simp at same

/-- A piece other than an asterisk is matched with nothing. -/
theorem uncrossed_cons {p : Piece} (h : p ≠ .char '*') (ps : List Piece) : Uncrossed (p :: ps) ↔ Uncrossed ps := by
  constructor
  · intro all before between after same stars feeds even
    exact all (p :: before) between after (by rw [same, List.cons_append]) stars feeds
      (by rwa [starsOnLine_cons h])
  · intro all before between after same stars feeds even
    rcases List.cons_eq_append_iff.1 same with ⟨-, first⟩ | ⟨earlier, rfl, rest⟩
    · exact absurd (List.cons.inj first).1.symm h
    · rw [starsOnLine_cons h] at even
      exact all earlier between after rest stars feeds even

/-- An asterisk that has no next one on its line is matched with nothing. -/
theorem uncrossed_star {ps : List Piece} (h : untilStar? ps = none) : Uncrossed (.char '*' :: ps) ↔ Uncrossed ps := by
  -- the asterisks behind it stand on later lines
  have later {before after : List Piece} (same : ps = before ++ .char '*' :: after) :
      starsOnLine (.char '*' :: before) = starsOnLine before :=
    starsOnLine_append_of_mem (lineFeed_mem_of_untilStar? (same ▸ h)) [.char '*']
  constructor
  · intro all before between after same stars feeds even
    exact all (.char '*' :: before) between after (by rw [same, List.cons_append]) stars feeds (by rwa [later same])
  · intro all before between after same stars feeds even
    rcases List.cons_eq_append_iff.1 same with ⟨-, first⟩ | ⟨earlier, rfl, rest⟩
    · obtain rfl := (List.cons.inj first).2
      exact absurd (lineFeed_mem_of_untilStar? h) feeds
    · rw [later rest] at even
      exact all earlier between after rest stars feeds even

/-- The first asterisk of a list is at one place only. -/
theorem eq_or_of_append_star {a b c d : List Piece} (first : Piece.char '*' ∉ a)
    (h : a ++ .char '*' :: b = c ++ .char '*' :: d) : a = c ∨ ∃ e, c = a ++ .char '*' :: e ∧ b = e ++ .char '*' :: d := by
  rcases List.append_eq_append_iff.1 h with ⟨more, rfl, rest⟩ | ⟨more, rfl, rest⟩
  · rcases List.cons_eq_append_iff.1 rest with ⟨rfl, -⟩ | ⟨e, rfl, rest⟩
    · exact .inl (List.append_nil a).symm
    · exact .inr ⟨e, rfl, (List.cons.inj rest).2⟩
  · rcases List.cons_eq_append_iff.1 rest with ⟨rfl, -⟩ | ⟨e, rfl, -⟩
    · exact .inl (List.append_nil c)
    · exact absurd (List.mem_append_right c List.mem_cons_self) first

/-- The tags between two asterisks that are matched must be nested; behind them all begins anew. -/
theorem uncrossed_pair {inside : List Piece} (stars : Piece.char '*' ∉ inside) (feeds : Piece.char '\n' ∉ inside)
    (ps : List Piece) :
    Uncrossed (.char '*' :: (inside ++ .char '*' :: ps)) ↔ Nested (marksOf inside) ∧ Uncrossed ps := by
  constructor
  · intro all
    refine ⟨all [] inside ps rfl stars feeds rfl, ?_⟩
    intro before between after same stars' feeds' even
    refine all (.char '*' :: (inside ++ .char '*' :: before)) between after ?_ stars' feeds' ?_
    · rw [same]
      simp
    · rwa [starsOnLine_pair stars feeds]
  · rintro ⟨nested, all⟩ before between after same stars' feeds' even
    rcases List.cons_eq_append_iff.1 same with ⟨-, first⟩ | ⟨earlier, rfl, rest⟩
    · rcases eq_or_of_append_star stars (List.cons.inj first).2.symm with rfl | ⟨e, rfl, -⟩
      · exact nested
      · exact absurd (List.mem_append_right inside List.mem_cons_self) stars'
    · rcases eq_or_of_append_star stars rest with rfl | ⟨e, rfl, later⟩
      · -- one asterisk stands before the second one, so it is not the first of two that are matched
        have single : starsOnLine (.char '*' :: inside) = 1 := by
          have counted := starsOnLine_append_of_not_mem feeds [.char '*']
          rw [List.count_eq_zero.2 stars] at counted
          exact counted
        rw [single] at even
        cases even
      · rw [starsOnLine_pair stars feeds] at even
        exact all e between after later stars' feeds' even

/-! ## Nested emphasis -/

/-- Emphasis is nested around the tags of strong parts exactly if those were nested and no asterisks are matched across
them. -/
theorem unclosed?_markEm {ps : List Piece} (strong : ∀ m ∈ marksOf ps, m.isStrong = true) (opened : List Mark) :
    unclosed? opened (marksOf (markEm ps)) = some [] ↔ unclosed? opened (marksOf ps) = some [] ∧ Uncrossed ps := by
  fun_induction markEm ps generalizing opened with
  | case1 => exact (and_iff_left uncrossed_nil).symm
  | case2 rest inside after found ih =>
    obtain ⟨stars, feeds⟩ := not_mem_of_untilStar? found
    rw [eq_of_untilStar? found] at strong ⊢
    rw [marksOf_char, marksOf_append, marksOf_char, List.forall_mem_append] at strong
    rw [uncrossed_pair stars feeds, List.cons_append, marksOf_mark, marksOf_append, marksOf_mark,
      ← List.cons_append, unclosed?_em strong.1, marksOf_char, marksOf_append, marksOf_char]
    by_cases nested : Nested (marksOf inside)
    · rw [if_pos nested, ih strong.2, unclosed?_append, nested.unclosed?, Option.bind_some, and_iff_right nested]
    · rw [if_neg nested]
      exact iff_of_false (Option.some_ne_none _).symm fun both => nested both.2.1
  | case3 rest open_ ih =>
    rw [uncrossed_star open_]
    exact ih strong opened
  | case4 p rest other ih =>
    rw [uncrossed_cons other]
    cases p with
    | char c => exact ih strong opened
    | mark m =>
      rw [marksOf_mark, List.forall_mem_cons] at strong
      rw [marksOf_mark, marksOf_mark, unclosed?, unclosed?]
      cases m.closes? with
      | none => exact ih strong.2 _
      | some o =>
        simp only
        split
        · exact ih strong.2 _
        · exact iff_of_false (Option.some_ne_none _).symm fun both => Option.some_ne_none _ both.1.symm

theorem nested_pairs {opening closing : Mark} (opens : opening.closes? = none) (closes : closing.closes? = some opening)
    (n : Nat) : Nested (pairs n opening closing) := by
  induction n with
  | zero => rfl
  | succ n ih =>
    have pair : Nested [opening, closing] := by simp [Nested, unclosed?, opens, closes]
    exact pair.append ih

/-- The tags of a converted line are nested exactly if no asterisks are matched across those of strong parts. -/
theorem nested_tags_iff (text : String) : Nested (tags (inline text)) ↔ Uncrossed (markStrong text.toList) := by
  obtain ⟨n, same⟩ := exists_marksOf_markStrong text.toList
  have strong : ∀ m ∈ marksOf (markStrong text.toList), m.isStrong = true := by
    rw [same]
    exact isStrong_of_mem_pairs
  have alone : unclosed? [] (marksOf (markStrong text.toList)) = some [] := by
    rw [same]
    exact nested_pairs rfl rfl n
  rw [tags_inline, Nested, pieces, unclosed?_markEm strong]
  exact and_iff_right alone

/-- Six asterisks are needed for tags that are not nested: tags of one kind alone are, and with both kinds there is a strong
part with four and an emphasised one with two. -/
theorem nested_of_count_star_le {text : String} (h : text.toList.count '*' ≤ 5) : Nested (tags (inline text)) := by
  have strong := filter_strong_tags text
  have em := filter_em_tags text
  have counted := count_star_inline text
  have one_kind : (tags (inline text)).count .openStrong = 0 ∨ (tags (inline text)).count .openEm = 0 := by omega
  rcases one_kind with none | none
  · rw [none] at strong
    have all : (tags (inline text)).filter (!Mark.isStrong ·) = tags (inline text) := by
      refine List.filter_eq_self.2 fun m member => ?_
      simpa using List.filter_eq_nil_iff.1 strong m member
    rw [← all, em]
    exact nested_pairs rfl rfl _
  · rw [none] at em
    have all : (tags (inline text)).filter Mark.isStrong = tags (inline text) := by
      refine List.filter_eq_self.2 fun m member => ?_
      simpa using List.filter_eq_nil_iff.1 em m member
    rw [← all, strong]
    exact nested_pairs rfl rfl _

end ComicScript.Preview
