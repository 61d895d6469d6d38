import ComicScript.Proofs.Text.Words

/-!
# The canonical spacing of a text

A text is taken apart in one way only into its longest runs of characters that are not blank. Collapsing joins those runs
by single spaces. No text with the same runs is shorter than that, so no space stands at an end or beside another.
-/

namespace ComicScript.Text
set_option autoImplicit false

namespace Chars

/-- The longest runs of characters that are not blank, in their order: each begins after the blanks in front of it, and
ends at a blank or where the text does. -/
inductive RunsOf : List (List Char) → List Char → Prop
  | none {gap : List Char} (blank : ∀ c ∈ gap, isBlank c = true) : RunsOf [] gap
  | next (gap : List Char) {run rest : List Char} {others : List (List Char)} (blank : ∀ c ∈ gap, isBlank c = true)
      (some : run ≠ []) (visible : ∀ c ∈ run, isBlank c = false) (ends : ∀ c ∈ rest.head?, isBlank c = true)
      (more : RunsOf others rest) : RunsOf (run :: others) (gap ++ run ++ rest)

/-! ## Runs are words -/

theorem words_cons_of_isBlank {c : Char} (blank : isBlank c = true) (s : List Char) : words (c :: s) = words s :=
  words_append_cons blank [] s

/-- Blanks in front of a text add no words. -/
theorem words_append_of_blank {gap : List Char} (blank : ∀ c ∈ gap, isBlank c = true) (s : List Char) :
    words (gap ++ s) = words s := by
  induction gap with
  | nil => rfl
  | cons c rest ih =>
    rw [List.cons_append, words_cons_of_isBlank (blank c List.mem_cons_self),
      ih fun d member => blank d (List.mem_cons_of_mem _ member)]

/-- A run in front of a blank, or at the end, is a word. -/
theorem words_run_append {run rest : List Char} (some : run ≠ []) (visible : ∀ c ∈ run, isBlank c = false)
    (ends : ∀ c ∈ rest.head?, isBlank c = true) : words (run ++ rest) = run :: words rest := by
  cases rest with
  | nil =>
    rw [List.append_nil, words_eq_singleton some visible]
    rfl
  | cons c more =>
    have blank := ends c rfl
    rw [words_append_cons blank, words_eq_singleton some visible, words_cons_of_isBlank blank, List.singleton_append]

theorem RunsOf.words_eq {runs : List (List Char)} {s : List Char} (h : RunsOf runs s) : words s = runs := by
  induction h with
  | none blank =>
    have bare := words_append_of_blank blank []
    rwa [List.append_nil] at bare
  | next _ blank some visible ends _ ih =>
    rw [List.append_assoc, words_append_of_blank blank, words_run_append some visible ends, ih]

/-- A character in front of a text joins its first gap, joins its first run, or is a run of its own. -/
theorem exists_runsOf (s : List Char) : ∃ runs, RunsOf runs s := by
  induction s with
  | nil => exact ⟨[], .none (by simp)⟩
  | cons c rest ih =>
    obtain ⟨runs, known⟩ := ih
    cases blank : isBlank c with
    | true =>
      cases known with
      | none gaps => exact ⟨[], .none (by simpa [blank] using gaps)⟩
      | @next gap run tail others gaps some visible ends more =>
        exact ⟨run :: others, .next (c :: gap) (by simpa [blank] using gaps) some visible ends more⟩
    | false =>
      have alone : ∀ d ∈ [c], isBlank d = false := by simpa using blank
      cases known with
      | none gaps =>
        exact ⟨[[c]], .next [] (by simp) (by simp) alone
          (fun d first => gaps d (List.mem_of_mem_head? first)) (.none gaps)⟩
      | @next gap run tail others gaps some visible ends more =>
        cases gap with
        | nil =>
          exact ⟨(c :: run) :: others, .next [] gaps (by simp) (by simpa [blank] using visible) ends more⟩
        | cons d gap =>
          have apart : ∀ e ∈ (d :: gap ++ run ++ tail).head?, isBlank e = true := by simpa using gaps d List.mem_cons_self
          exact ⟨[c] :: run :: others, .next [] (by simp) (by simp) alone apart
            (.next (d :: gap) gaps some visible ends more)⟩

/-- The runs of a text are its words, and no others. -/
theorem runsOf_iff {runs : List (List Char)} {s : List Char} : RunsOf runs s ↔ runs = words s := by
  obtain ⟨found, known⟩ := exists_runsOf s
  refine ⟨fun h => h.words_eq.symm, ?_⟩
  rintro rfl
  rwa [known.words_eq]

instance (runs : List (List Char)) (s : List Char) : Decidable (RunsOf runs s) :=
  decidable_of_iff' _ runsOf_iff

example : RunsOf ["ab".toList, "c".toList] "\tab \u2028c".toList := by decide

theorem words_eq_nil_iff {s : List Char} : words s = [] ↔ ∀ c ∈ s, isBlank c = true := by
  constructor
  · intro none
    cases runsOf_iff.2 none.symm with
    | none blank => exact blank
  · intro blank
    exact (RunsOf.none blank).words_eq

/-! ## Collapsed text is short -/

theorem length_squeezeFrom_le (afterBlank : Bool) (s : List Char) : (squeezeFrom afterBlank s).length ≤ s.length := by
  induction s generalizing afterBlank with
  | nil => exact Nat.le_refl _
  | cons c rest ih =>
    rw [squeezeFrom]
    split
    · split
      · exact Nat.le_succ_of_le (ih true)
      · exact Nat.succ_le_succ (ih true)
    · exact Nat.succ_le_succ (ih false)

theorem length_collapse_le (s : List Char) : (collapse s).length ≤ s.length := by
  have front := (List.dropWhile_sublist isBlank (l := squeeze s)).length_le
  have back := (sublist_trimRight ((squeeze s).dropWhile isBlank)).length_le
  exact Nat.le_trans (Nat.le_trans back front) (length_squeezeFrom_le false s)

/-- A collapsed text is the shortest of the texts with its words. -/
theorem length_collapse_le_of_words {s t : List Char} (same : words t = words s) : (collapse s).length ≤ t.length := by
  have equal : collapse t = collapse s := by rw [collapse_eq_intercalate_words, same, ← collapse_eq_intercalate_words]
  exact equal ▸ length_collapse_le t

/-- Without any one of its spaces a collapsed text has other words. -/
theorem words_ne_of_collapse_eq {s a b : List Char} (cut : collapse s = a ++ ' ' :: b) : words (a ++ b) ≠ words s := by
  -- the text without the space would have the same words and be shorter
  intro same
  have short := length_collapse_le_of_words same
  rw [cut, List.length_append, List.length_append, List.length_cons] at short
  omega

theorem words_of_collapse_eq {s a b : List Char} (cut : collapse s = a ++ ' ' :: b) : words s = words a ++ words b := by
  rw [← words_collapse, cut, words_append_cons (by decide)]

theorem head?_collapse_ne (s : List Char) : (collapse s).head? ≠ some ' ' := by
  intro first
  obtain ⟨b, cut⟩ := List.head?_eq_some_iff.1 first
  exact words_ne_of_collapse_eq (a := []) cut (words_of_collapse_eq (a := []) cut).symm

theorem getLast?_collapse_ne (s : List Char) : (collapse s).getLast? ≠ some ' ' := by
  intro last
  obtain ⟨a, cut⟩ := List.getLast?_eq_some_iff.1 last
  refine words_ne_of_collapse_eq cut ?_
  rw [words_of_collapse_eq cut, List.append_nil]
  exact (List.append_nil _).symm

theorem not_infix_collapse (s : List Char) : ¬ [' ', ' '] <:+: collapse s := by
  rintro ⟨a, b, cut⟩
  have double : collapse s = a ++ ' ' :: ' ' :: b := by simpa using cut.symm
  refine words_ne_of_collapse_eq double ?_
  rw [words_of_collapse_eq double, words_append_cons (by decide), words_cons_of_isBlank (by decide)]

theorem collapse_eq_nil_iff {s : List Char} : collapse s = [] ↔ ∀ c ∈ s, isBlank c = true := by
  rw [← words_eq_nil_iff]
  constructor
  · intro none
    rw [← words_collapse, none]
    rfl
  · intro none
    rw [collapse_eq_intercalate_words, none]
    rfl

theorem collapse_eq_self {s : List Char} (visible : ∀ c ∈ s, isBlank c = false) : collapse s = s := by
  cases s with
  | nil => rfl
  | cons c rest =>
    rw [collapse_eq_intercalate_words, words_eq_singleton (List.cons_ne_nil c rest) visible, List.intercalate_singleton]

end Chars

/-- A text without blanks is collapsed. -/
theorem collapse_eq_self {s : String} (visible : ∀ c ∈ s.toList, isBlank c = false) : collapse s = s := by
  rw [collapse, Chars.collapse_eq_self visible, String.ofList_toList]

/-- The blank characters, by their code points. -/
theorem isBlank_iff (c : Char) : isBlank c = true ↔
    (0x09 ≤ c.toNat ∧ c.toNat ≤ 0x0D) ∨ (0x1C ≤ c.toNat ∧ c.toNat ≤ 0x20) ∨ c.toNat ∈ [0x85, 0xA0, 0x1680] ∨
      (0x2000 ≤ c.toNat ∧ c.toNat ≤ 0x200A) ∨ c.toNat ∈ [0x2028, 0x2029, 0x202F, 0x205F, 0x3000] := by
  simp only [isBlank, blankRanges, List.any_cons, List.any_nil, Bool.or_false, Bool.or_eq_true, Bool.and_eq_true,
    decide_eq_true_eq, List.mem_cons, List.not_mem_nil, or_false]
  omega

/-- **Collapsing gives the canonical spacing.** A text has exactly one row of longest runs of characters that are not blank,
and collapsing joins them by single spaces. So a collapsed text has no blanks but spaces, none of them at an end or beside
another; it is empty exactly if the text is blank; and collapsing it again changes nothing. The blanks are those of
Unicode. -/
theorem collapse_canonical (s : String) :
    (∃ runs, (∀ others, Chars.RunsOf others s.toList ↔ others = runs) ∧
      (collapse s).toList = [' '].intercalate runs) ∧
    (∀ c ∈ (collapse s).toList, isBlank c = true → c = ' ') ∧
    (collapse s).toList.head? ≠ some ' ' ∧ (collapse s).toList.getLast? ≠ some ' ' ∧
    ¬ [' ', ' '] <:+: (collapse s).toList ∧
    (collapse s = "" ↔ ∀ c ∈ s.toList, isBlank c = true) ∧
    collapse (collapse s) = collapse s ∧
    ∀ c, isBlank c = true ↔
      (0x09 ≤ c.toNat ∧ c.toNat ≤ 0x0D) ∨ (0x1C ≤ c.toNat ∧ c.toNat ≤ 0x20) ∨ c.toNat ∈ [0x85, 0xA0, 0x1680] ∨
        (0x2000 ≤ c.toNat ∧ c.toNat ≤ 0x200A) ∨ c.toNat ∈ [0x2028, 0x2029, 0x202F, 0x205F, 0x3000] := by
  have chars : (collapse s).toList = Chars.collapse s.toList := String.toList_ofList
  have empty : collapse s = "" ↔ Chars.collapse s.toList = [] := by rw [← chars, String.toList_eq_nil_iff]
  rw [chars, empty]
  refine ⟨⟨Chars.words s.toList, fun _ => Chars.runsOf_iff, Chars.collapse_eq_intercalate_words _⟩, ?_,
    Chars.head?_collapse_ne _, Chars.getLast?_collapse_ne _, Chars.not_infix_collapse _, Chars.collapse_eq_nil_iff,
    collapse_collapse s, isBlank_iff⟩
  intro c member blank
  rcases Chars.eq_space_or_of_mem_collapse member with space | visible
  · exact space
  · rw [visible] at blank
    cases blank

end ComicScript.Text
