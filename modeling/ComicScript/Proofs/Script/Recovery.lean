import ComicScript.Proofs.Script.LineStart
import ComicScript.Proofs.Text.PhysicalLines

/-!
# Recovered lines

The lines that recovery changes are those of a free-text key or of dialogue whose text has an open colon, in the parts of a
`Quoting`. Only the text goes between quotes. A line that was changed is left alone by the next recovery, so recovering twice
is recovering once.
-/

namespace ComicScript.Script
set_option autoImplicit false

open Text (isBlank)
open Text.Chars (allBlank isLineEnd)

/-! ## Lines whose text goes between quotes -/

/-- A line of a free-text key or of dialogue whose text, a plain one, has an open colon: what stands before the colon of its
key, the gap after that colon, the text, and its comment from the blanks before it. A number sign right after the gap belongs
to the text. -/
structure Quoting where
  lead : List Char
  gap : List Char
  text : List Char
  comment : List Char
  form : IsLead lead gap
  inside : allBlank gap = true
  starts : ∀ c ∈ text.head?, isBlank c = false ∧ c ∉ markedStarts
  colon : OpenColon text
  cut : CutAtComment text comment

namespace Quoting

variable (q : Quoting)

/-- The line before recovery. -/
def before : List Char :=
  q.lead ++ ':' :: (q.gap ++ (q.text ++ q.comment))

/-- The line after recovery: its text stands between quotes. -/
def after : List Char :=
  q.lead ++ ':' :: (q.gap ++ '"' :: (escaped q.text ++ '"' :: q.comment))

theorem exists_text_eq : ∃ c rest, q.text = c :: rest ∧ isBlank c = false ∧ c ∉ markedStarts := by
  obtain ⟨x, y, cut, -⟩ := q.colon
  cases text : q.text with
  | nil => simp [text] at cut
  | cons c rest =>
    have starts := q.starts
    rw [text] at starts
    exact ⟨c, rest, rfl, starts c rfl⟩

theorem recoverLine_before (oneLine : '\n' ∉ q.before) : recoverLine q.before = q.after := by
  obtain ⟨c, rest, text, visible, plain⟩ := q.exists_text_eq
  have value : '\n' ∉ q.text ++ q.comment := fun member =>
    oneLine (List.mem_append_right _ (List.mem_cons_of_mem _ (List.mem_append_right _ member)))
  have open_ : hasOpenColon q.text = true := (hasOpenColon_iff _).2 q.colon
  have head : (q.text ++ q.comment).head? = some c := by rw [text]; rfl
  rw [recoverLine, before, splitLine?_lead q.form q.inside (by simp [text]) (by simp [head, visible])]
  simp only [head, Option.any_some, decide_eq_true_eq, if_neg plain]
  rw [quoteValue_of_cut value q.cut, if_pos open_, doubleQuoted_eq, after]
  simp

/-- A line that was changed is left alone: its value begins with a quote. -/
theorem recoverLine_after : recoverLine q.after = q.after := by
  rw [recoverLine, after, splitLine?_lead q.form q.inside (List.cons_ne_nil _ _) (by simp; decide)]
  rfl

theorem after_ne_before : q.after ≠ q.before := by
  intro same
  obtain ⟨c, rest, text, -, plain⟩ := q.exists_text_eq
  have first := (List.append_cancel_left (List.cons.inj (List.append_cancel_left same)).2)
  rw [text, List.cons_append] at first
  exact plain ((List.cons.inj first).1 ▸ by decide)

end Quoting

/-- Recovery leaves a line as it is, or puts its text between quotes. -/
theorem recoverLine_cases {line : List Char} (oneLine : '\n' ∉ line) :
    recoverLine line = line ∨ ∃ q : Quoting, line = q.before ∧ recoverLine line = q.after := by
  cases split_ : splitLine? line with
  | none => exact .inl (by rw [recoverLine, split_])
  | some parts =>
    obtain ⟨front, value⟩ := parts
    obtain ⟨lead, gap, form, rfl, rfl, inside, -, visible⟩ := exists_of_splitLine?_eq_some split_
    by_cases marked : value.head?.any (· ∈ markedStarts) = true
    · exact .inl (by rw [recoverLine, split_]; exact if_pos marked)
    · have inValue : '\n' ∉ value := fun member =>
        oneLine (List.mem_append_right _ (List.mem_cons_of_mem _ (List.mem_append_right _ member)))
      obtain ⟨text, comment, rfl, cut⟩ := exists_cutAtComment inValue
      by_cases colon : hasOpenColon text = true
      · have starts : ∀ c ∈ text.head?, isBlank c = false ∧ c ∉ markedStarts := by
          intro c first
          have head : (text ++ comment).head? = some c := by rw [List.head?_append, Option.mem_def.1 first, Option.some_or]
          refine ⟨visible c head, fun listed => marked ?_⟩
          rw [head]
          simpa using listed
        let q : Quoting := ⟨lead, gap, text, comment, form, inside, starts, (hasOpenColon_iff text).1 colon, cut⟩
        exact .inr ⟨q, rfl, q.recoverLine_before oneLine⟩
      · refine .inl ?_
        rw [recoverLine, split_]
        simp only [if_neg marked]
        rw [quoteValue_of_cut inValue cut, if_neg colon]
        simp

/-- A line after recovery is left alone. -/
theorem recoverLine_recoverLine {line : List Char} (oneLine : '\n' ∉ line) :
    recoverLine (recoverLine line) = recoverLine line := by
  rcases recoverLine_cases oneLine with same | ⟨q, -, same⟩
  · rw [same, same]
  · rw [same, q.recoverLine_after]

/-- Recovery puts no line end into a line. -/
theorem isLineEnd_of_mem_recoverLine {line : List Char} (clean : ∀ c ∈ line, isLineEnd c = false) {c : Char}
    (h : c ∈ recoverLine line) : isLineEnd c = false := by
  have oneLine : '\n' ∉ line := fun feed => absurd (clean _ feed) (by decide)
  rcases recoverLine_cases oneLine with same | ⟨q, rfl, same⟩
  · exact clean c (same ▸ h)
  · have signs : isLineEnd '"' = false ∧ isLineEnd '\\' = false ∧ isLineEnd ':' = false := by decide
    have inText : ∀ c ∈ escaped q.text, isLineEnd c = false := fun c member => by
      rcases mem_of_mem_escaped member with rfl | inside
      · exact signs.2.1
      · exact clean c (by simp [Quoting.before, inside])
    simp only [Quoting.before, List.mem_append, List.mem_cons] at clean
    simp only [same, Quoting.after, List.mem_append, List.mem_cons] at h
    rcases h with lead | rfl | gap | rfl | text | rfl | comment
    · exact clean c (.inl lead)
    · exact signs.2.2
    · exact clean c (.inr (.inr (.inl gap)))
    · exact signs.1
    · exact inText c text
    · exact signs.1
    · exact clean c (.inr (.inr (.inr (.inr comment))))

/-! ## Texts -/

theorem oneLine_of_mem_physicalLines {s line : List Char} (h : line ∈ Text.Chars.physicalLines s) : '\n' ∉ line :=
  fun feed => absurd (Text.Chars.isLineEnd_of_mem_physicalLines h feed) (by decide)

theorem mem_changesFrom_iff {n : Nat} {lines : List (List Char)} {change : Change} :
    change ∈ changesFrom n lines ↔ ∃ i line, lines[i]? = some line ∧ recoverLine line ≠ line ∧
      change = ⟨n + i, String.ofList line, String.ofList (recoverLine line)⟩ := by
  induction lines generalizing n with
  | nil => simp [changesFrom]
  | cons first rest ih =>
    have later : change ∈ changesFrom (n + 1) rest ↔ ∃ i line, (first :: rest)[i + 1]? = some line ∧
        recoverLine line ≠ line ∧ change = ⟨n + (i + 1), String.ofList line, String.ofList (recoverLine line)⟩ := by
      simp only [List.getElem?_cons_succ, ih, Nat.add_assoc, Nat.add_comm 1]
    rw [changesFrom]
    split
    · rename_i same
      rw [later]
      constructor
      · rintro ⟨i, found⟩
        exact ⟨i + 1, found⟩
      · rintro ⟨i | i, line, found, changed, rfl⟩
        · obtain rfl : first = line := by simpa using found
          exact absurd same changed
        · exact ⟨i, line, found, changed, rfl⟩
    · rename_i changed
      rw [List.mem_cons, later]
      constructor
      · rintro (rfl | ⟨i, found⟩)
        · exact ⟨0, first, rfl, changed, rfl⟩
        · exact ⟨i + 1, found⟩
      · rintro ⟨i | i, line, found, changed', rfl⟩
        · obtain rfl : first = line := by simpa using found
          exact .inl rfl
        · exact .inr ⟨i, line, found, changed', rfl⟩

theorem pairwise_changesFrom (n : Nat) (lines : List (List Char)) :
    (changesFrom n lines).Pairwise fun a b => a.line < b.line := by
  induction lines generalizing n with
  | nil => exact .nil
  | cons first rest ih =>
    rw [changesFrom]
    split
    · exact ih _
    · refine List.pairwise_cons.2 ⟨fun change member => ?_, ih _⟩
      obtain ⟨i, line, -, -, rfl⟩ := mem_changesFrom_iff.1 member
      simp only
      omega

theorem changesFrom_eq_nil {n : Nat} {lines : List (List Char)} (same : ∀ line ∈ lines, recoverLine line = line) :
    changesFrom n lines = [] := by
  rw [List.eq_nil_iff_forall_not_mem]
  intro change member
  obtain ⟨i, line, found, changed, -⟩ := mem_changesFrom_iff.1 member
  exact changed (same line (List.mem_of_getElem? found))

/-- The changes are the lines whose text goes between quotes, each at its number. -/
theorem mem_changes_iff {raw : String} {change : Change} : change ∈ (recover raw).changes ↔
    ∃ n, ∃ q : Quoting, (Text.Chars.physicalLines raw.toList)[n]? = some q.before ∧
      change = ⟨n + 1, String.ofList q.before, String.ofList q.after⟩ := by
  rw [recover, mem_changesFrom_iff]
  constructor
  · rintro ⟨n, line, found, changed, rfl⟩
    have oneLine := oneLine_of_mem_physicalLines (List.mem_of_getElem? found)
    obtain ⟨q, rfl, new⟩ := (recoverLine_cases oneLine).resolve_left changed
    exact ⟨n, q, found, by rw [new, Nat.add_comm]⟩
  · rintro ⟨n, q, found, rfl⟩
    have new := q.recoverLine_before (oneLine_of_mem_physicalLines (List.mem_of_getElem? found))
    exact ⟨n, q.before, found, new ▸ q.after_ne_before, by rw [new, Nat.add_comm]⟩

theorem toList_text_recover (raw : String) : (recover raw).text.toList =
    ['\n'].intercalate ((Text.Chars.physicalLines raw.toList).map recoverLine) ++ Text.Chars.finalLineFeed raw.toList := by
  rw [recover, String.toList_append, Text.unlines, String.toList_intercalate, List.map_map, Text.Chars.finalLineFeed]
  congr 1
  · simp [Function.comp_def]
  · split <;> rfl

theorem isLineEnd_of_mem_recovered {raw : String} {line : List Char}
    (h : line ∈ (Text.Chars.physicalLines raw.toList).map recoverLine) : ∀ c ∈ line, isLineEnd c = false := by
  obtain ⟨old, listed, rfl⟩ := List.mem_map.1 h
  exact fun c => isLineEnd_of_mem_recoverLine fun d => Text.Chars.isLineEnd_of_mem_physicalLines listed

/-- Between the line feeds of a text after recovery stand recovered lines, or nothing. -/
theorem mem_of_mem_splitOn_recover {raw : String} {piece : List Char}
    (h : piece ∈ Text.Chars.splitOn '\n' (recover raw).text.toList) :
    piece = [] ∨ piece ∈ (Text.Chars.physicalLines raw.toList).map recoverLine := by
  have joined {lines : List (List Char)} (clean : ∀ line ∈ lines, '\n' ∉ line) {piece : List Char}
      (h : piece ∈ (['\n'].intercalate lines).splitOn '\n') : piece = [] ∨ piece ∈ lines := by
    by_cases none : lines = []
    · subst none
      exact .inl (by simpa using h)
    · rw [List.splitOn_intercalate '\n' clean none] at h
      exact .inr h
  have clean : ∀ line ∈ (Text.Chars.physicalLines raw.toList).map recoverLine, '\n' ∉ line := fun line listed feed =>
    absurd (isLineEnd_of_mem_recovered listed _ feed) (by decide)
  rw [Text.Chars.splitOn_eq, toList_text_recover, Text.Chars.finalLineFeed] at h
  split at h
  · rw [List.splitOn_append_cons_self] at h
    rcases List.mem_append.1 h with earlier | last
    · exact joined clean earlier
    · exact .inl (by simpa using last)
  · rw [List.append_nil] at h
    exact joined clean h

/-- A text after recovery has no line ends but line feeds. -/
theorem eq_lineFeed_of_mem_recover {raw : String} {c : Char} (h : c ∈ (recover raw).text.toList) (ends : isLineEnd c = true) :
    c = '\n' := by
  refine (Text.Chars.eq_or_mem_of_mem h).resolve_right ?_
  rintro ⟨piece, listed, member⟩
  rcases mem_of_mem_splitOn_recover listed with rfl | line
  · cases member
  · rw [isLineEnd_of_mem_recovered line c member] at ends
    cases ends

/-- **Recovering twice.** Recovery changes nothing in a text after recovery. -/
theorem recover_recover (raw : String) : recover (recover raw).text = ⟨(recover raw).text, []⟩ := by
  have only : ∀ c ∈ (recover raw).text.toList, isLineEnd c = true → c = '\n' := fun c => eq_lineFeed_of_mem_recover
  have same : ∀ line ∈ Text.Chars.physicalLines (recover raw).text.toList, recoverLine line = line := by
    intro line member
    have piece := (Text.Chars.physicalLines_prefix_splitOn only).subset member
    rcases mem_of_mem_splitOn_recover piece with rfl | recovered
    · rfl
    · obtain ⟨old, listed, rfl⟩ := List.mem_map.1 recovered
      exact recoverLine_recoverLine (oneLine_of_mem_physicalLines listed)
  have text : (recover (recover raw).text).text = (recover raw).text := by
    rw [← String.toList_inj, toList_text_recover, List.map_congr_left same, List.map_id']
    exact Text.Chars.intercalate_physicalLines only
  have changes : (recover (recover raw).text).changes = [] := changesFrom_eq_nil same
  calc recover (recover raw).text
    _ = ⟨(recover (recover raw).text).text, (recover (recover raw).text).changes⟩ := rfl
    _ = _ := by rw [text, changes]

/-- **What recovery does to a text.** A text after recovery has one line for each line of the text, in order, joined by line
feeds, and ends with a line feed if the text does. The changes are the lines that are not as before, by increasing numbers. A
changed line keeps what stands before its value and the comment behind it; only the text between them is put between quotes.
Recovering once more changes nothing. -/
theorem recover_exact (raw : String) :
    ∃ out : List String, out.length = (Text.physicalLines raw).length ∧
      (recover raw).text = Text.unlines out ++ (if raw.toList.getLast? = some '\n' then "\n" else "") ∧
      ((recover raw).changes.Pairwise fun a b => a.line < b.line) ∧
      (∀ change, change ∈ (recover raw).changes ↔ ∃ n, change.line = n + 1 ∧ (Text.physicalLines raw)[n]? = some change.old ∧
        out[n]? = some change.new ∧ change.old ≠ change.new) ∧
      (∀ change ∈ (recover raw).changes, ∃ q : Quoting, change.old.toList = q.before ∧ change.new.toList = q.after) ∧
      recover (recover raw).text = ⟨(recover raw).text, []⟩ := by
  refine ⟨(Text.Chars.physicalLines raw.toList).map fun line => String.ofList (recoverLine line), by simp [Text.physicalLines],
    rfl, pairwise_changesFrom _ _, fun change => ?_, fun change member => ?_, recover_recover raw⟩
  · rw [recover, mem_changesFrom_iff]
    constructor
    · rintro ⟨n, line, found, changed, rfl⟩
      refine ⟨n, Nat.add_comm 1 n, by simp [Text.physicalLines, found], by simp [found], fun same => changed ?_⟩
      exact (String.ofList_injective same).symm
    · rintro ⟨n, number, before, after, changed⟩
      obtain ⟨number_, old, new⟩ := change
      simp only [Text.physicalLines, List.getElem?_map, Option.map_eq_some_iff] at before after
      obtain ⟨line, found, rfl⟩ := before
      obtain ⟨line', found', rfl⟩ := after
      obtain rfl : line = line' := Option.some.inj (found.symm.trans found')
      exact ⟨n, line, found, fun same => changed (by rw [same]), by simpa [Nat.add_comm] using number⟩
  · obtain ⟨n, q, -, rfl⟩ := mem_changes_iff.1 member
    exact ⟨q, String.toList_ofList, String.toList_ofList⟩

/-- Lines that end with a carriage return and a line separator, of which the second has a comment. -/
theorem recover_exact_separators :
    let raw := "title: a: b\r- Al: c: d # e\u2028f"
    let change : Change := ⟨2, "- Al: c: d # e", "- Al: \"c: d\" # e"⟩
    change ∈ (recover raw).changes ∧ (∃ q : Quoting, change.old.toList = q.before ∧ change.new.toList = q.after) ∧
      recover (recover raw).text = ⟨(recover raw).text, []⟩ := by
  intro raw change
  have listed : change ∈ (recover raw).changes := by decide
  obtain ⟨-, -, -, -, -, parts, again⟩ := recover_exact raw
  exact ⟨listed, parts change listed, again⟩

end ComicScript.Script
