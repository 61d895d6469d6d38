import ComicScript.Proofs.Script.Recovery
import ComicScript.Script.Load

/-!
# Recovery inside a block scalar

Recovery looks at one line at a time and does not know of block scalars. A line of a block scalar is changed as if its text
stood there by itself, behind the same indentation, so the block keeps its lines and its head but not always its text.
-/

namespace ComicScript.Script
set_option autoImplicit false

open Text (isBlank)
open Text.Chars (allBlank)

/-! ## Indentation -/

theorem dropWhile_isBlank_append {margin s : List Char} (inside : allBlank margin = true)
    (visible : ∀ c ∈ s.head?, isBlank c = false) :
    (margin ++ s).dropWhile isBlank = s ∧ (margin ++ s).takeWhile isBlank = margin := by
  have cut := spanBlanks_append inside visible
  rw [spanBlanks_eq] at cut
  exact (Prod.mk.inj cut).symm

/-- A line begins alike behind any indentation. -/
theorem IsLead.indent {lead gap : List Char} (h : IsLead lead gap) {margin : List Char} (inside : allBlank margin = true) :
    IsLead (margin ++ lead) gap := by
  have more {m : List Char} (inMargin : allBlank m = true) : allBlank (margin ++ m) = true := by
    rw [allBlank, List.all_append]
    exact Bool.and_eq_true_iff.2 ⟨inside, inMargin⟩
  rcases h with ⟨m, mark, key, rfl, inMargin, rest⟩ | ⟨⟨m, blanks, first, speaker, rfl, inMargin, rest⟩, spaced⟩
  · exact .inl ⟨margin ++ m, mark, key, (List.append_assoc _ _ _).symm, more inMargin, rest⟩
  · exact .inr ⟨⟨margin ++ m, blanks, first, speaker, (List.append_assoc _ _ _).symm, more inMargin, rest⟩, spaced⟩

/-- Without its indentation a line begins alike, with a visible character. -/
theorem IsLead.unindent {lead gap : List Char} (h : IsLead lead gap) : ∃ margin rest, lead = margin ++ rest ∧
    allBlank margin = true ∧ IsLead rest gap ∧ ∀ t, ∀ c ∈ (rest ++ t).head?, isBlank c = false := by
  rcases h with ⟨m, mark, key, rfl, inMargin, mark_, listed⟩ | ⟨⟨m, blanks, first, speaker, rfl, inMargin, rest⟩, spaced⟩
  · refine ⟨m, _, rfl, inMargin, .inl ⟨[], mark, key, rfl, rfl, mark_, listed⟩, fun t => ?_⟩
    rcases mark_ with rfl | ⟨blanks, rfl, -⟩
    · obtain ⟨-, -, first, more, chars, shown, -⟩ := key_chars listed
      simp [chars, shown]
    · simp
      decide
  · refine ⟨m, _, rfl, inMargin, .inr ⟨⟨[], blanks, first, speaker, rfl, rfl, rest⟩, spaced⟩, fun t => ?_⟩
    simp
    decide

/-- The text of a line of its own goes between quotes exactly if it does behind the indentation. -/
theorem exists_quoting_indented_iff (line new : List Char) :
    (∃ q : Quoting, line = q.before ∧ new = q.after) ↔
      ∃ q : Quoting, line.dropWhile isBlank = q.before ∧ new = line.takeWhile isBlank ++ q.after := by
  constructor
  · rintro ⟨q, rfl, rfl⟩
    obtain ⟨margin, rest, lead, inside, form, visible⟩ := q.form.unindent
    let q' : Quoting := { q with lead := rest, form := form }
    have before : q.before = margin ++ q'.before := by rw [Quoting.before, lead, List.append_assoc]; rfl
    have after : q.after = margin ++ q'.after := by rw [Quoting.after, lead, List.append_assoc]; rfl
    obtain ⟨dropped, taken⟩ := dropWhile_isBlank_append inside (visible (':' :: (q.gap ++ (q.text ++ q.comment))))
    refine ⟨q', before ▸ dropped, ?_⟩
    rw [after, before]
    exact congrArg (· ++ q'.after) taken.symm
  · rintro ⟨q, dropped, rfl⟩
    let margin := line.takeWhile isBlank
    have inside : allBlank margin = true := List.all_takeWhile
    let q' : Quoting := { q with lead := margin ++ q.lead, form := q.form.indent inside }
    refine ⟨q', ?_, ?_⟩
    · calc line
        _ = margin ++ line.dropWhile isBlank := List.takeWhile_append_dropWhile.symm
        _ = margin ++ q.before := by rw [dropped]
        _ = q'.before := by rw [Quoting.before, Quoting.before, List.append_assoc]
    · rw [Quoting.after, Quoting.after, List.append_assoc]

theorem takeWhile_append_cons {p : Char → Bool} {c : Char} (stop : p c = false) (s t : List Char) :
    (s ++ c :: t).takeWhile p = s.takeWhile p := by
  induction s with
  | nil => simp [stop]
  | cons d rest ih =>
    rw [List.cons_append, List.takeWhile_cons, List.takeWhile_cons, ih]

/-! ## Block scalars -/

/-- A line of a block scalar below a key at a column: a blank one, or one with its first visible character right of the key. -/
def InBlock (column : Nat) (line : List Char) : Prop :=
  allBlank line = true ∨ column < (line.takeWhile (· == ' ')).length

instance (column : Nat) (line : List Char) : Decidable (InBlock column line) :=
  inferInstanceAs (Decidable (_ ∨ _))

/-- A block scalar among lines: the line of its key, perhaps behind a dash, with the sign of its style and what else it says,
and the lines of the block directly below. -/
structure BlockScalar where
  margin : Nat
  mark : List Char
  key : List Char
  gap : Nat
  style : Char
  header : List Char
  lines : List (List Char)
  mark_form : mark = [] ∨ ∃ n, mark = '-' :: List.replicate (n + 1) ' '
  style_form : style = '|' ∨ style = '>'
  inside : ∀ line ∈ lines, InBlock (margin + mark.length) line

namespace BlockScalar

/-- The column of the key. -/
def column (b : BlockScalar) : Nat :=
  b.margin + b.mark.length

/-- The line of the key. -/
def head (b : BlockScalar) : List Char :=
  List.replicate b.margin ' ' ++ (b.mark ++ b.key) ++ ':' :: (List.replicate (b.gap + 1) ' ' ++ b.style :: b.header)

theorem allBlank_replicate (n : Nat) : allBlank (List.replicate n ' ') = true := by
  have space : isBlank ' ' = true := by decide
  simp [allBlank, space]

/-- The line of the key is left alone: its value begins with the sign of the style. -/
theorem recoverLine_head (b : BlockScalar) (oneLine : '\n' ∉ b.head) (clean : ':' ∉ b.key) : recoverLine b.head = b.head := by
  refine (recoverLine_cases oneLine).resolve_right ?_
  rintro ⟨q, same, -⟩
  have style : isBlank b.style = false ∧ b.style ∈ markedStarts := by
    rcases b.style_form with bar | angle
    · rw [bar]
      decide
    · rw [angle]
      decide
  have lead : ':' ∉ List.replicate b.margin ' ' ++ (b.mark ++ b.key) := by
    rcases b.mark_form with none | ⟨n, dash⟩
    · simp [none, clean]
    · simp [dash, clean]
  obtain ⟨c, rest, text, visible, plain⟩ := q.exists_text_eq
  obtain ⟨-, -, value⟩ := parts_unique lead q.form.not_mem.1 (allBlank_replicate _) q.inside
    (by simpa using style.1) (by simpa [text] using visible) same
  rw [text] at value
  exact plain ((List.cons.inj value).1 ▸ style.2)

/-- A line of the block stays one. -/
theorem inBlock_recoverLine {column : Nat} {line : List Char} (oneLine : '\n' ∉ line) (h : InBlock column line) :
    InBlock column (recoverLine line) := by
  rcases recoverLine_cases oneLine with same | ⟨q, rfl, new⟩
  · rwa [same]
  · have colon : isBlank ':' = false := by decide
    have visible : allBlank q.before ≠ true := fun blank => not_mem_of_allBlank colon blank (by simp [Quoting.before])
    have deeper := h.resolve_left visible
    rw [Quoting.before, takeWhile_append_cons (by decide)] at deeper
    rw [new, InBlock, Quoting.after, takeWhile_append_cons (by decide)]
    exact .inr deeper

end BlockScalar

/-- **Recovery inside a block scalar.** Wherever a block scalar stands in a text, recovery leaves the line of its key alone,
unless there is a colon in the key, and a line of the block stays in the block. A line of the block is changed exactly if its
text by itself is one that goes between quotes, which is then done behind its indentation; so recovery spares a block exactly
if none of its lines has such a text. -/
theorem recover_block (raw : String) (b : BlockScalar) (before after : List (List Char))
    (place : Text.Chars.physicalLines raw.toList = before ++ (b.head :: b.lines) ++ after) :
    (':' ∉ b.key → recoverLine b.head = b.head) ∧
    (∀ line ∈ b.lines, InBlock b.column (recoverLine line)) ∧
    (∀ n line new, b.lines[n]? = some line →
      (⟨before.length + 2 + n, String.ofList line, String.ofList new⟩ ∈ (recover raw).changes ↔
        ∃ q : Quoting, line.dropWhile isBlank = q.before ∧ new = line.takeWhile isBlank ++ q.after)) ∧
    ((∀ change ∈ (recover raw).changes,
        ¬ (before.length + 2 ≤ change.line ∧ change.line < before.length + 2 + b.lines.length)) ↔
      ∀ line ∈ b.lines, ∀ q : Quoting, line.dropWhile isBlank ≠ q.before) := by
  have oneLine {line : List Char} (member : line ∈ b.head :: b.lines) : '\n' ∉ line :=
    oneLine_of_mem_physicalLines (place ▸ List.mem_append_left _ (List.mem_append_right _ member))
  have numbered (n : Nat) (bound : n < b.lines.length) :
      (Text.Chars.physicalLines raw.toList)[before.length + 1 + n]? = b.lines[n]? := by
    rw [place, List.append_assoc, List.getElem?_append_right (by omega), List.getElem?_append_left (by simp; omega),
      show before.length + 1 + n - before.length = n + 1 by omega, List.getElem?_cons_succ]
  have listed : ∀ n line new, b.lines[n]? = some line →
      (⟨before.length + 2 + n, String.ofList line, String.ofList new⟩ ∈ (recover raw).changes ↔
        ∃ q : Quoting, line.dropWhile isBlank = q.before ∧ new = line.takeWhile isBlank ++ q.after) := by
    intro n line new found
    have bound : n < b.lines.length := (List.getElem?_eq_some_iff.1 found).1
    rw [mem_changes_iff, ← exists_quoting_indented_iff]
    constructor
    · rintro ⟨m, q, -, same⟩
      rw [Change.mk.injEq] at same
      exact ⟨q, String.ofList_injective same.2.1, String.ofList_injective same.2.2⟩
    · rintro ⟨q, rfl, rfl⟩
      exact ⟨before.length + 1 + n, q, (numbered n bound).trans found, by rw [Change.mk.injEq]; exact ⟨by omega, rfl, rfl⟩⟩
  refine ⟨b.recoverLine_head (oneLine List.mem_cons_self), fun line member => ?_, listed, ?_⟩
  · exact BlockScalar.inBlock_recoverLine (oneLine (List.mem_cons_of_mem _ member)) (b.inside line member)
  · constructor
    · intro spared line member q text
      obtain ⟨n, bound, found⟩ := List.mem_iff_getElem.1 member
      have changed := (listed n line _ (List.getElem?_eq_some_iff.2 ⟨bound, found⟩)).2 ⟨q, text, rfl⟩
      refine spared _ changed ?_
      simp only
      omega
    · rintro plain change member ⟨low, high⟩
      obtain ⟨m, q, found, rfl⟩ := mem_changes_iff.1 member
      simp only at low high
      obtain ⟨n, rfl⟩ : ∃ n, m = before.length + 1 + n := ⟨m - (before.length + 1), by omega⟩
      rw [numbered n (by omega)] at found
      obtain ⟨q', text, -⟩ := (exists_quoting_indented_iff _ _).1 ⟨q, rfl, rfl⟩
      exact plain _ (List.mem_of_getElem? found) q' text

/-- A synopsis with a blank line, a line that reads like one of dialogue and another one. -/
theorem recover_block_synopsis :
    let raw := "fx: a\nsynopsis: |\n\n  - Al: c: d\n  rain: and wind\n"
    let lines := ["", "  - Al: c: d", "  rain: and wind"].map String.toList
    let b : BlockScalar := ⟨0, [], "synopsis".toList, 0, '|', [], lines, .inl rfl, .inl rfl, by decide⟩
    Text.Chars.physicalLines raw.toList = ["fx: a".toList] ++ (b.head :: b.lines) ++ [] ∧
    recoverLine b.head = b.head ∧ (∀ line ∈ b.lines, InBlock b.column (recoverLine line)) ∧
    (∃ q : Quoting, "- Al: c: d".toList = q.before ∧ "  - Al: \"c: d\"".toList = "  ".toList ++ q.after) ∧
    ¬ ∀ line ∈ b.lines, ∀ q : Quoting, line.dropWhile isBlank ≠ q.before := by
  intro raw lines b
  have place : Text.Chars.physicalLines raw.toList = ["fx: a".toList] ++ (b.head :: b.lines) ++ [] := by decide +kernel
  have changed : (⟨4, "  - Al: c: d", "  - Al: \"c: d\""⟩ : Change) ∈ (recover raw).changes := by decide +kernel
  obtain ⟨head, inside, listed, spared⟩ := recover_block raw b ["fx: a".toList] [] place
  refine ⟨place, head (by decide), inside, ?_, fun plain => spared.2 plain _ changed (by decide)⟩
  exact (listed 1 "  - Al: c: d".toList "  - Al: \"c: d\"".toList rfl).1 changed

/-- A line of a block scalar goes between quotes because of a colon elsewhere: the description is another one than that of the
same script without that colon. -/
theorem block_text_between_quotes :
    let script (title : String) := "title: " ++ title ++ "\npages:\n- panels:\n  - desc: |\n      name: c: d\n"
    let lines := ["      name: c: d".toList]
    let b : BlockScalar := ⟨2, "- ".toList, "desc".toList, 0, '|', [], lines, .inr ⟨0, rfl⟩, .inl rfl, by decide⟩
    let before := ["title: a: b", "pages:", "- panels:"].map String.toList
    Text.Chars.physicalLines (script "a: b").toList = before ++ (b.head :: b.lines) ++ [] ∧
    ⟨5, "      name: c: d", "      name: \"c: d\""⟩ ∈ (recover (script "a: b")).changes ∧
    (load "draft" false (script "a: b")).outcome.toOption.map Value.text =
      some (.ok "\x7b'title': 'a: b', 'pages': [\x7b'panels': [\x7b'desc': 'name: \"c: d\"\\n'\x7d]\x7d]\x7d") ∧
    (load "draft" false (script "a")).outcome.toOption.map Value.text =
      some (.ok "\x7b'title': 'a', 'pages': [\x7b'panels': [\x7b'desc': 'name: c: d\\n'\x7d]\x7d]\x7d") := by
  refine ⟨by decide +kernel, by decide +kernel, by decide +kernel, by decide +kernel⟩

end ComicScript.Script
