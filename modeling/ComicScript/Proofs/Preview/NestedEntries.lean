import ComicScript.Proofs.Markdown.Entries
import ComicScript.Proofs.Preview.Nesting

/-!
# Nested emphasis in printed entries

The renderer writes asterisks of its own around what an author wrote. A strong part at the beginning of a line, such as the
name of a speaker, leaves the rest of the line to itself; asterisks around a whole text leave fewer to its author.
-/

namespace ComicScript.Preview
set_option autoImplicit false

/-! ## A strong part before the rest of a line -/

/-- Text between pairs of asterisks is marked apart from what follows. -/
theorem markStrong_strong {s : List Char} (stars : '*' ∉ s) (feeds : '\n' ∉ s) (rest : List Char) :
    markStrong ('*' :: '*' :: (s ++ '*' :: '*' :: rest)) =
      .mark .openStrong :: s.map .char ++ .mark .closeStrong :: markStrong rest := by
  have found : untilPair? (s ++ '*' :: '*' :: rest) = some (s, rest) := by
    rw [untilPair?_append stars feeds, untilPair?, Option.map_some]
    simp
  rw [markStrong, if_pos ⟨rfl, rfl⟩]
  split
  · rename_i inside after same
    rw [List.tail_cons, found] at same
    cases same
    rfl
  · rename_i none
    rw [List.tail_cons, found] at none
    cases none

/-- Without asterisks nothing is emphasised. -/
theorem markEm_append {ps : List Piece} (stars : Piece.char '*' ∉ ps) (rest : List Piece) :
    markEm (ps ++ rest) = ps ++ markEm rest := by
  induction ps with
  | nil => rfl
  | cons p ps ih =>
    rw [List.mem_cons, not_or] at stars
    rw [List.cons_append, markEm, if_neg (Ne.symm stars.1), ih stars.2, List.cons_append]

section Strong

variable {name : String} (stars : '*' ∉ name.toList) (feeds : '\n' ∉ name.toList)
include stars feeds

/-- A strong part at the beginning adds its two tags to those of the rest. -/
theorem tags_inline_strong (rest : String) :
    tags (inline ("**" ++ name ++ "**" ++ rest)) = .openStrong :: .closeStrong :: tags (inline rest) := by
  have characters : ("**" ++ name ++ "**" ++ rest).toList = '*' :: '*' :: (name.toList ++ '*' :: '*' :: rest.toList) := by
    simp
  have marked : markStrong ('*' :: '*' :: (name.toList ++ '*' :: '*' :: rest.toList)) =
      (.mark .openStrong :: name.toList.map .char ++ [.mark .closeStrong]) ++ markStrong rest.toList := by
    rw [markStrong_strong stars feeds]
    simp
  have none : Piece.char '*' ∉ .mark .openStrong :: name.toList.map .char ++ [.mark .closeStrong] := by
    simpa using stars
  rw [tags_inline, tags_inline, pieces, pieces, characters, marked, markEm_append none]
  simp

theorem nested_strong {rest : String} (few : rest.toList.count '*' ≤ 5) :
    Nested (tags (inline ("**" ++ name ++ "**" ++ rest))) := by
  have pair : Nested [.openStrong, .closeStrong] := by decide
  rw [tags_inline_strong stars feeds]
  exact pair.append (nested_of_count_star_le few)

end Strong

/-- Trimming a line that begins with a strong part trims the rest of it at its end. -/
theorem trim_strong (name rest : String) :
    Text.trim ("**" ++ name ++ "**" ++ rest) = "**" ++ name ++ "**" ++ Text.trimRight rest := by
  have star : Text.isBlank '*' = false := by decide
  have visible : ∀ c ∈ ("**" ++ name ++ "**").toList.getLast?, Text.isBlank c = false := by
    intro c last
    rw [String.toList_append, List.getLast?_append] at last
    obtain rfl : '*' = c := Option.some.inj last
    exact star
  have first : ("**" ++ name ++ "**" ++ rest).toList.dropWhile Text.isBlank = ("**" ++ name ++ "**").toList ++ rest.toList := by
    simp [star]
  rw [Text.trim, Text.Chars.trim, first, Text.Chars.trimRight_append visible, String.ofList_append, String.ofList_toList,
    Text.trimRight]

/-! ## Printed entries -/

/-- On each line of a text, as it stands in a paragraph and as it stands in a quote, the tags are nested. -/
def NestedLines (entry : String) : Prop :=
  ∀ line ∈ Text.lines entry, Nested (tags (inline line)) ∧ Nested (tags (inline (Text.trim line)))

theorem nested_line_of_count_star_le {line : String} (h : line.toList.count '*' ≤ 5) :
    Nested (tags (inline line)) ∧ Nested (tags (inline (Text.trim line))) := by
  refine ⟨nested_of_count_star_le h, nested_of_count_star_le ?_⟩
  rwa [Text.trim, String.toList_ofList, Text.Chars.count_trim (by decide)]

theorem nestedLines_of_count_star_le {entry : String} (h : entry.toList.count '*' ≤ 5) : NestedLines entry :=
  fun _ member => nested_line_of_count_star_le (Nat.le_trans (Text.count_le_of_mem_lines member '*') h)

/-- After a strong part five asterisks are too few for tags that are not nested. -/
theorem nestedLines_strong {name rest : String} (stars : '*' ∉ name.toList) (feeds : '\n' ∉ name.toList)
    (few : rest.toList.count '*' ≤ 5) : NestedLines ("**" ++ name ++ "**" ++ rest) := by
  have clean : '\n' ∉ ("**" ++ name ++ "**").toList :=
    Markdown.lineFeed_not_mem_append (Markdown.lineFeed_not_mem_append (by decide) feeds) (by decide)
  obtain ⟨first, others, cut⟩ := List.exists_cons_of_ne_nil (Text.lines_ne_nil rest)
  have each : ∀ line ∈ first :: others, line.toList.count '*' ≤ 5 := by
    rw [← cut]
    exact fun line member => Nat.le_trans (Text.count_le_of_mem_lines member '*') few
  intro line member
  rw [Text.lines_append clean, cut, List.modifyHead_cons] at member
  rcases List.mem_cons.1 member with rfl | later
  · have trimmed : (Text.trimRight first).toList.count '*' ≤ 5 := by
      rw [Text.trimRight, String.toList_ofList]
      exact Nat.le_trans ((Text.Chars.sublist_trimRight _).count_le '*') (each first List.mem_cons_self)
    rw [trim_strong]
    exact ⟨nested_strong stars feeds (each first List.mem_cons_self), nested_strong stars feeds trimmed⟩
  · exact nested_line_of_count_star_le (each line (List.mem_cons_of_mem _ later))

/-- A line of dialogue that someone says, neither narrated nor heard. -/
def IsSpoken (d : Dialogue) : Prop :=
  d.isNarration = false ∧ Markdown.typeOf d ≠ narrationType ∧ Markdown.typeOf d ≠ soundEffectType

/-- Behind a speaker whose name is one line without asterisks, five asterisks are too few. -/
theorem nestedLines_spoken {d : Dialogue} (spoken : IsSpoken d) (stars : '*' ∉ d.character.toList)
    (feeds : '\n' ∉ d.character.toList) (few : d.type.toList.count '*' + d.text.toList.count '*' ≤ 5) :
    NestedLines (Markdown.dialogue d) := by
  have named : '*' ∉ (Text.upper (Markdown.nameOf d) ++ ":").toList := by
    rw [String.toList_append, List.mem_append, not_or]
    exact ⟨Text.not_mem_upper (by decide) (Markdown.not_mem_nameOf (by decide) stars), by decide⟩
  have one_line : '\n' ∉ (Text.upper (Markdown.nameOf d) ++ ":").toList :=
    Markdown.lineFeed_not_mem_append (Text.lineFeed_not_mem_upper (Markdown.not_mem_nameOf (by decide) feeds)) (by decide)
  have after {rest : String} (few : rest.toList.count '*' ≤ 5) :
      NestedLines (Markdown.speaker (Markdown.nameOf d) ++ rest) := by
    have lead : ":** " = ":" ++ "**" ++ " " := by decide
    have spaced : (" " ++ rest).toList.count '*' ≤ 5 := by simpa using few
    have strong := nestedLines_strong named one_line spaced
    simpa only [Markdown.speaker, lead, String.append_assoc] using strong
  have text := Markdown.count_star_collapse d.text
  obtain ⟨narrated, type, effect⟩ := spoken
  rw [Markdown.dialogue_eq, if_neg (by simp [narrated, type]), if_neg (by simpa using effect)]
  split
  · exact after (by omega)
  · have typed := Markdown.count_star_typeOf_le d
    rw [String.append_assoc, String.append_assoc, String.append_assoc]
    refine after ?_
    simp only [String.toList_append, List.count_append, text]
    have own : "(".toList.count '*' = 0 ∧ ") ".toList.count '*' = 0 := by decide
    omega

/-- **Nested emphasis.** The tags of each kind in a converted line are pairs of an opening and a closing tag, and all of them
together are nested exactly if no asterisks are matched across the tags of strong parts; five asterisks are too few for
that. So effects are nested as long as their author writes at most five asterisks; descriptions, captions and narration with
at most three; what is said behind a name on one line without asterisks with at most five; and any other line of dialogue with
at most one. -/
theorem emphasis_nested_iff_uncrossed :
    (∀ text : String,
      let found := tags (inline text)
      found.filter Mark.isStrong = pairs (found.count .openStrong) .openStrong .closeStrong ∧
      found.filter (!Mark.isStrong ·) = pairs (found.count .openEm) .openEm .closeEm ∧
      (Nested found ↔ Uncrossed (markStrong text.toList)) ∧
      (text.toList.count '*' ≤ 5 → Nested found)) ∧
    (∀ s : String, s.toList.count '*' ≤ 5 → NestedLines ("**FX:** " ++ Text.collapse s)) ∧
    (∀ s : String, s.toList.count '*' ≤ 3 →
      NestedLines (Markdown.description s) ∧
        ∀ lead ∈ ["CAPTION: ", "END CAPTION: "], NestedLines (Markdown.italic (lead ++ Text.collapse s))) ∧
    ∀ d : Dialogue,
      (d.character.toList.count '*' + d.type.toList.count '*' + d.text.toList.count '*' ≤ 1 →
        NestedLines (Markdown.dialogue d)) ∧
      (d.isNarration = true ∨ Markdown.typeOf d = narrationType → d.text.toList.count '*' ≤ 3 →
        NestedLines (Markdown.dialogue d)) ∧
      (IsSpoken d → '*' ∉ d.character.toList → '\n' ∉ d.character.toList →
        d.type.toList.count '*' + d.text.toList.count '*' ≤ 5 → NestedLines (Markdown.dialogue d)) := by
  have description {s : String} (few : s.toList.count '*' ≤ 3) : NestedLines (Markdown.description s) := by
    apply nestedLines_of_count_star_le
    rw [Markdown.description, Markdown.count_star_italic, Markdown.count_star_collapse]
    omega
  refine ⟨?_, ?_, ?_, fun d => ⟨?_, ?_, nestedLines_spoken⟩⟩
  · intro text found
    exact ⟨filter_strong_tags text, filter_em_tags text, nested_tags_iff text, nested_of_count_star_le⟩
  · intro s few
    have lead : "**FX:** " = "**" ++ "FX:" ++ "**" ++ " " := by decide
    rw [lead, String.append_assoc]
    refine nestedLines_strong (by decide) (by decide) ?_
    rw [String.toList_append, List.count_append, Markdown.count_star_collapse, Nat.add_comm]
    exact few
  · intro s few
    refine ⟨description few, fun lead known => ?_⟩
    have leads : ∀ lead ∈ ["CAPTION: ", "END CAPTION: "], lead.toList.count '*' = 0 := by decide
    apply nestedLines_of_count_star_le
    rw [Markdown.count_star_italic, String.toList_append, List.count_append, leads lead known, Markdown.count_star_collapse]
    omega
  · intro few
    apply nestedLines_of_count_star_le
    have own := Markdown.count_star_dialogue_le d
    omega
  · intro narrated few
    have narration : Markdown.dialogue d = Markdown.description d.text := by
      rw [Markdown.dialogue_eq, if_pos (by simpa using narrated), Markdown.description]
    rw [narration]
    exact description few

/-- Five asterisks in a line, five in an effect, three in a description, one in the name of a speaker, three in narration and
five behind a name. -/
theorem emphasis_nested_iff_uncrossed_named :
    ("**a*b**".toList.count '*' ≤ 5 ∧ Nested (tags (inline "**a*b**"))) ∧
    ("*a* **b*".toList.count '*' ≤ 5 ∧ NestedLines ("**FX:** " ++ Text.collapse "*a* **b*")) ∧
    ("a **b*".toList.count '*' ≤ 3 ∧ NestedLines (Markdown.description "a **b*")) ∧
    NestedLines (Markdown.dialogue ⟨"A*\nB", "c", "whisper", false⟩) ∧
    NestedLines (Markdown.dialogue ⟨"", "a **b*", "", true⟩) ∧
    IsSpoken ⟨"Al", "a **b* *c", "*thought", false⟩ ∧
    NestedLines (Markdown.dialogue ⟨"Al", "a **b* *c", "*thought", false⟩) := by
  obtain ⟨lines, effects, descriptions, dialogues⟩ := emphasis_nested_iff_uncrossed
  have spoken : IsSpoken ⟨"Al", "a **b* *c", "*thought", false⟩ := ⟨rfl, by decide, by decide⟩
  refine ⟨⟨by decide, (lines "**a*b**").2.2.2 (by decide)⟩, ⟨by decide, effects "*a* **b*" (by decide)⟩,
    ⟨by decide, (descriptions "a **b*" (by decide)).1⟩, ?_, ?_, spoken, ?_⟩
  · exact (dialogues ⟨"A*\nB", "c", "whisper", false⟩).1 (by decide)
  · exact (dialogues ⟨"", "a **b*", "", true⟩).2.1 (.inl rfl) (by decide)
  · exact (dialogues ⟨"Al", "a **b* *c", "*thought", false⟩).2.2 spoken (by decide) (by decide) (by decide)

/-- A single asterisk inside a strong part is matched with one behind it; so is that of a sound effect in asterisks whose
text has two of its own. -/
theorem not_nested_across_strong :
    ¬ Nested (tags (inline "**a*b**c*")) ∧
      ¬ Nested (tags (inline (Markdown.dialogue ⟨"Ann", "Crash *boom*", soundEffectType, false⟩))) := by
  decide +kernel

end ComicScript.Preview
