import ComicScript.Proofs.Script.Recovery
import ComicScript.Yaml.Token.Scalar

/-!
# Keys and comments of recovered lines

What the reader of the format makes of a line that recovery changed. The colon before the quote ends the key only if a space or
a tab follows it, which recovery does not ask for: it takes any blank, and after a free-text key it takes none at all. What
stands between the quotes holds no comment unless the value begins with a number sign; there recovery makes text of a comment.
-/

namespace ComicScript.Script
set_option autoImplicit false

open Text (isBlank)
open Text.Chars (allBlank isLineEnd)

/-! ## Keys -/

/-- The key of a line: what stands before the first colon at which a plain text ends. -/
def keyOf? : List Char → Option (List Char)
  | [] => none
  | c :: rest => if c = ':' ∧ Yaml.endsPlain false (c :: rest) = true then some [] else (keyOf? rest).map (c :: ·)

theorem endsPlain_colon (rest : List Char) :
    Yaml.endsPlain false (':' :: rest) = Yaml.isGapOrEnd (rest.headD Yaml.endChar) := by
  have colon : Yaml.isGapOrEnd ':' = false := by decide
  simp [Yaml.endsPlain, colon]

/-- A line has what stands before its first colon as its key exactly if a plain text ends at that colon. -/
theorem keyOf?_eq_some_iff {lead : List Char} (clean : ':' ∉ lead) (rest : List Char) :
    keyOf? (lead ++ ':' :: rest) = some lead ↔ Yaml.isGapOrEnd (rest.headD Yaml.endChar) = true := by
  induction lead with
  | nil =>
    rw [List.nil_append, keyOf?, endsPlain_colon]
    split
    · rename_i ends
      exact iff_of_true rfl ends.2
    · rename_i goesOn
      exact iff_of_false (by simp) fun ends => goesOn ⟨rfl, ends⟩
  | cons c lead ih =>
    rw [List.mem_cons, not_or] at clean
    rw [List.cons_append, keyOf?, if_neg fun both => clean.1 both.1.symm, Option.map_eq_some_iff, ← ih clean.2]
    constructor
    · rintro ⟨key, found, same⟩
      rw [found, (List.cons.inj same).2]
    · exact fun found => ⟨lead, found, rfl⟩

/-- Of the blanks in a line only the space and the tab are a gap to the reader. -/
theorem isGapOrEnd_iff {c : Char} (blank : isBlank c = true) (inside : isLineEnd c = false) :
    Yaml.isGapOrEnd c = true ↔ c = ' ' ∨ c = '\t' := by
  have noEnd : c ≠ Yaml.endChar := by
    rintro rfl
    exact absurd blank (by decide)
  have noBreak : Yaml.isBreak c = false := by
    simp only [isLineEnd, Yaml.isBreak, decide_eq_false_iff_not, List.mem_cons, List.not_mem_nil, or_false, not_or] at inside ⊢
    omega
  simp [Yaml.isGapOrEnd, Yaml.isSpaceOrEnd, Yaml.isBreakOrEnd, noEnd, noBreak, or_comm]

/-! ## Comments -/

/-- A text from its first number sign on that follows a blank; `afterBlank` says that one has just been passed. -/
def commentFrom : Bool → List Char → Option (List Char)
  | _, [] => none
  | afterBlank, c :: rest => if afterBlank && c == '#' then some (c :: rest) else commentFrom (isBlank c) rest

/-- The comment of a line: from the first number sign on that begins the line or follows a blank. -/
def commentOf? (line : List Char) : Option (List Char) :=
  commentFrom true line

theorem commentFrom_eq_none_iff (afterBlank : Bool) (s : List Char) :
    commentFrom afterBlank s = none ↔ ¬ (afterBlank = true ∧ s.head? = some '#') ∧ ¬ SignAfterBlank s := by
  induction s generalizing afterBlank with
  | nil => simp [commentFrom, SignAfterBlank]
  | cons c rest ih =>
    rw [commentFrom, signAfterBlank_cons]
    split
    · rename_i sign
      simp only [Bool.and_eq_true, beq_iff_eq] at sign
      simp [sign]
    · rename_i other
      have here : ¬ (afterBlank = true ∧ (c :: rest).head? = some '#') := by simpa using other
      rw [ih, not_or, and_iff_right here]

/-- Behind a text without a comment it matters only whether that text ends with a blank. -/
theorem commentFrom_append {afterBlank : Bool} {s : List Char} (none : commentFrom afterBlank s = none) (t : List Char) :
    commentFrom afterBlank (s ++ t) = commentFrom ((s.getLast?.map isBlank).getD afterBlank) t := by
  induction s generalizing afterBlank with
  | nil => rfl
  | cons c rest ih =>
    rw [commentFrom] at none
    split at none
    · cases none
    · rename_i other
      rw [List.cons_append, commentFrom, if_neg other, ih none]
      cases rest with
      | nil => rfl
      | cons d rest =>
        rw [List.getLast?_cons_cons, List.getLast?_eq_some_getLast (List.cons_ne_nil d rest)]
        rfl

theorem length_le_of_commentFrom {afterBlank : Bool} {s c : List Char} (h : commentFrom afterBlank s = some c) :
    c.length ≤ s.length := by
  induction s generalizing afterBlank with
  | nil => cases h
  | cons d rest ih =>
    rw [commentFrom] at h
    split at h
    · obtain rfl := Option.some.inj h
      exact Nat.le_refl _
    · exact Nat.le_succ_of_le (ih h)

theorem head?_escaped (s : List Char) : (escaped s).head? = some '#' ↔ s.head? = some '#' := by
  cases s with
  | nil => rfl
  | cons c rest =>
    by_cases sign : c = '\\' ∨ c = '"'
    · rw [escaped_cons_of_sign sign]
      rcases sign with rfl | rfl
      all_goals simp
    · rw [escaped_cons_of_plain (not_or.1 sign)]
      rfl

/-- Escapes bring no comment into a text. -/
theorem signAfterBlank_escaped (s : List Char) : SignAfterBlank (escaped s) ↔ SignAfterBlank s := by
  induction s with
  | nil => rfl
  | cons c rest ih =>
    by_cases sign : c = '\\' ∨ c = '"'
    · have visible : isBlank c = false := by
        rcases sign with rfl | rfl
        all_goals decide
      have backslash : isBlank '\\' = false := by decide
      rw [escaped_cons_of_sign sign, signAfterBlank_cons, signAfterBlank_cons, signAfterBlank_cons, ih]
      simp [visible, backslash]
    · rw [escaped_cons_of_plain (not_or.1 sign), signAfterBlank_cons, signAfterBlank_cons, ih, head?_escaped]

namespace Quoting

variable (q : Quoting)

/-- Whether the colon before the quote has a space or a tab right behind it. -/
def Spaced : Prop :=
  q.gap.head? = some ' ' ∨ q.gap.head? = some '\t'

/-- In a changed line the key is what recovery takes for it exactly if its colon has a space or a tab behind it. -/
theorem keyOf?_after (oneLine : ∀ c ∈ q.before, isLineEnd c = false) : keyOf? q.after = some q.lead ↔ q.Spaced := by
  have quote : Yaml.isGapOrEnd '"' = false := by decide
  rw [after, keyOf?_eq_some_iff q.form.not_mem.1, Spaced]
  cases gap : q.gap with
  | nil => simp [quote]
  | cons c rest =>
    have blank : isBlank c = true := List.all_eq_true.1 q.inside c (by rw [gap]; exact List.mem_cons_self)
    have inside : isLineEnd c = false := oneLine c (by simp [before, gap])
    simpa using isGapOrEnd_iff blank inside

/-- A colon with a space or a tab behind it ends the key of the line before recovery as well. -/
theorem keyOf?_before (spaced : q.Spaced) : keyOf? q.before = some q.lead := by
  rw [before, keyOf?_eq_some_iff q.form.not_mem.1]
  have gaps : Yaml.isGapOrEnd ' ' = true ∧ Yaml.isGapOrEnd '\t' = true := by decide
  rcases spaced with space | tab
  · obtain ⟨rest, gap⟩ := List.head?_eq_some_iff.1 space
    rw [gap]
    exact gaps.1
  · obtain ⟨rest, gap⟩ := List.head?_eq_some_iff.1 tab
    rw [gap]
    exact gaps.2

/-- Between the quotes a comment is found only where the value begins with a number sign. -/
theorem commentOf?_escaped : commentOf? (escaped q.text) = none ↔ q.text.head? ≠ some '#' := by
  rw [commentOf?, commentFrom_eq_none_iff, signAfterBlank_escaped, head?_escaped, and_iff_left q.cut.first]
  simp

/-- No comment begins before the value, and a number sign right there begins one if there is a gap after the colon. -/
theorem commentOf?_lead (rest : List Char) :
    commentOf? (q.lead ++ ':' :: (q.gap ++ rest)) = commentFrom (!q.gap.isEmpty) rest := by
  have clean : '#' ∉ q.lead ++ ':' :: q.gap := by
    have sign : isBlank '#' = false := by decide
    simp [q.form.not_mem.2, not_mem_of_allBlank sign q.inside]
  have none : commentFrom true (q.lead ++ ':' :: q.gap) = none := by
    rw [commentFrom_eq_none_iff]
    refine ⟨fun first => clean (List.mem_of_head? first.2), ?_⟩
    rintro ⟨x, blank, y, cut, -⟩
    exact clean (by simp [cut])
  have parts : q.lead ++ ':' :: (q.gap ++ rest) = (q.lead ++ ':' :: q.gap) ++ rest := by simp
  rw [commentOf?, parts, commentFrom_append none]
  congr 1
  cases gap : q.gap with
  | nil =>
    have colon : isBlank ':' = false := by decide
    simp [colon]
  | cons c more =>
    have blanks : allBlank (c :: more) = true := gap ▸ q.inside
    have last : isBlank ((c :: more).getLast (List.cons_ne_nil c more)) = true :=
      List.all_eq_true.1 blanks _ (List.getLast_mem _)
    simp [List.getLast?_eq_some_getLast, last]

/-- Before recovery a line has its comment, and the value with it if the value is one. -/
theorem commentOf?_before : commentOf? q.before =
    if q.gap ≠ [] ∧ q.text.head? = some '#' then some (q.text ++ q.comment) else commentFrom false q.comment := by
  obtain ⟨c, rest, text, -, -⟩ := q.exists_text_eq
  rw [before, commentOf?_lead]
  split
  · rename_i sign
    obtain rfl : c = '#' := by simpa [text] using sign.2
    rw [text, List.cons_append, commentFrom, if_pos (by simpa using sign.1)]
  · rename_i other
    have none : commentFrom (!q.gap.isEmpty) q.text = none := by
      rw [commentFrom_eq_none_iff]
      exact ⟨fun both => other ⟨by simpa using both.1, both.2⟩, q.cut.first⟩
    rw [commentFrom_append none]
    rcases q.cut.starts with empty | ⟨-, visible⟩
    · rw [empty, commentFrom, commentFrom]
    · have last : q.text.getLast? = some (q.text.getLast (by simp [text])) := List.getLast?_eq_some_getLast _
      rw [last, Option.map_some, Option.getD_some, visible _ last]

/-- After recovery a line has its comment only. -/
theorem commentOf?_after : commentOf? q.after = commentFrom false q.comment := by
  have quote : isBlank '"' = false := by decide
  have none : commentFrom false (escaped q.text) = none := by
    rw [commentFrom_eq_none_iff, signAfterBlank_escaped]
    exact ⟨fun both => Bool.false_ne_true both.1, q.cut.first⟩
  rw [after, commentOf?_lead, commentFrom, if_neg (by simp), quote, commentFrom_append none, commentFrom, if_neg (by simp),
    quote]

end Quoting

/-- **Keys and comments of recovered lines.** In a changed line the key is what stands before its first colon exactly if a
space or a tab follows that colon, and then it was the key before; a gap may be missing only after a free-text key. The text
between the quotes holds a comment exactly if the value begins with a number sign, and the comment of the line is another one
after recovery exactly if the value begins with a number sign after a gap. -/
theorem recovered_key_and_comment (raw : String) (change : Change) (h : change ∈ (recover raw).changes) :
    ∃ q : Quoting, change.old.toList = q.before ∧ change.new.toList = q.after ∧
      (keyOf? q.after = some q.lead ↔ q.Spaced) ∧
      (q.Spaced → keyOf? q.before = some q.lead) ∧
      (q.gap = [] → FreeTextLead q.lead) ∧
      (commentOf? (escaped q.text) = none ↔ q.text.head? ≠ some '#') ∧
      (commentOf? q.after = commentOf? q.before ↔ q.gap = [] ∨ q.text.head? ≠ some '#') := by
  obtain ⟨n, q, found, rfl⟩ := mem_changes_iff.1 h
  have inside : ∀ c ∈ q.before, isLineEnd c = false := fun c =>
    Text.Chars.isLineEnd_of_mem_physicalLines (List.mem_of_getElem? found)
  refine ⟨q, String.toList_ofList, String.toList_ofList, q.keyOf?_after inside, q.keyOf?_before, ?_, q.commentOf?_escaped, ?_⟩
  · intro none
    exact q.form.resolve_right fun dialogue => dialogue.2 none
  · rw [q.commentOf?_after, q.commentOf?_before]
    split
    · rename_i sign
      refine iff_of_false (fun same => ?_) (by simpa using sign)
      have short := length_le_of_commentFrom same
      obtain ⟨c, rest, text, -, -⟩ := q.exists_text_eq
      rw [text, List.length_append, List.length_cons] at short
      omega
    · rename_i other
      exact iff_of_true rfl (by simpa [or_iff_not_imp_left] using other)

/-- A line of dialogue with a comment. -/
theorem recovered_key_and_comment_dialogue :
    let change : Change := ⟨1, "- Al: c: d # e", "- Al: \"c: d\" # e"⟩
    change ∈ (recover "- Al: c: d # e").changes ∧
    ∃ q : Quoting, change.old.toList = q.before ∧ change.new.toList = q.after ∧
      (keyOf? q.after = some q.lead ↔ q.Spaced) ∧
      (q.Spaced → keyOf? q.before = some q.lead) ∧
      (q.gap = [] → FreeTextLead q.lead) ∧
      (commentOf? (escaped q.text) = none ↔ q.text.head? ≠ some '#') ∧
      (commentOf? q.after = commentOf? q.before ↔ q.gap = [] ∨ q.text.head? ≠ some '#') := by
  intro change
  have listed : change ∈ (recover "- Al: c: d # e").changes := by decide
  exact ⟨listed, recovered_key_and_comment _ change listed⟩

/-- Recovery makes text of a comment, and puts a quote into a key that ends later than it takes it to. -/
theorem comment_between_quotes :
    let changes := (recover "title: # who: me\nfx:b: c").changes
    ⟨1, "title: # who: me", "title: \"# who: me\""⟩ ∈ changes ∧
    commentOf? "title: # who: me".toList = some "# who: me".toList ∧
    commentOf? "title: \"# who: me\"".toList = none ∧
    ⟨2, "fx:b: c", "fx:\"b: c\""⟩ ∈ changes ∧
    keyOf? "fx:b: c".toList = some "fx:b".toList ∧
    keyOf? "fx:\"b: c\"".toList = some "fx:\"b".toList := by
  decide

end ComicScript.Script
