import ComicScript.Proofs.Text.Escape
import ComicScript.Script.Recovery
import Mathlib.Data.List.TakeDrop

/-!
# Text between quotes

What recovery puts between quotes can be read back: the value without its comment is escaped character by character, so no
double quote and no backslash of its own can end the quoted text early or go past its end. A value is put between quotes
exactly if it has a colon before a blank or at its end, comment aside.
-/

namespace ComicScript.Script
set_option autoImplicit false

open Text (isBlank)
open Text.Chars (allBlank replaceChar replaceChar_flatMap replaceChar_of_not_mem)

/-! ## Escapes -/

/-- A text that ends at the closing quote and not before or after it when it stands between double quotes: a double quote or a
backslash is found only behind a backslash of its own. -/
inductive Enclosed : List Char → Prop
  | nil : Enclosed []
  | char {c : Char} {rest : List Char} (plain : c ≠ '\\' ∧ c ≠ '"') (h : Enclosed rest) : Enclosed (c :: rest)
  | escape {c : Char} {rest : List Char} (sign : c = '\\' ∨ c = '"') (h : Enclosed rest) : Enclosed ('\\' :: c :: rest)

/-- A text with each escape undone: a backslash stands for the character after it. -/
def unescape : List Char → List Char
  | '\\' :: c :: rest => c :: unescape rest
  | c :: rest => c :: unescape rest
  | [] => []

/-- A character between quotes. -/
def quotedChar (c : Char) : List Char :=
  if c = '\\' ∨ c = '"' then ['\\', c] else [c]

/-- A text between quotes, without the quotes. -/
def escaped (s : List Char) : List Char :=
  s.flatMap quotedChar

/-- The backslashes that stand before quotes are not doubled: the text's own are doubled before there are any. -/
theorem replaceChar_quote_backslash (c : Char) :
    replaceChar '"' "\\\"" (replaceChar '\\' "\\\\" [c]) = quotedChar c := by
  by_cases backslash : c = '\\'
  · subst backslash
    decide
  · by_cases quote : c = '"'
    · subst quote
      decide
    · have alone : ∀ d, c ≠ d → d ∉ [c] := fun d other member => other (List.mem_singleton.1 member).symm
      rw [replaceChar_of_not_mem (alone '\\' backslash), replaceChar_of_not_mem (alone '"' quote), quotedChar,
        if_neg (not_or.2 ⟨backslash, quote⟩)]

theorem doubleQuoted_eq (s : List Char) : doubleQuoted s = '"' :: (escaped s ++ ['"']) := by
  have chain : replaceChar '"' "\\\"" (replaceChar '\\' "\\\\" s) = escaped s := by
    calc _ = replaceChar '"' "\\\"" (replaceChar '\\' "\\\\" (s.flatMap fun c => [c])) := by
            rw [List.flatMap_singleton']
      _ = s.flatMap fun c => replaceChar '"' "\\\"" (replaceChar '\\' "\\\\" [c]) := by
            rw [replaceChar_flatMap, replaceChar_flatMap]
      _ = escaped s := List.flatMap_congr fun c _ => replaceChar_quote_backslash c
  rw [doubleQuoted, chain, List.cons_append]

theorem escaped_cons_of_plain {c : Char} (plain : c ≠ '\\' ∧ c ≠ '"') (rest : List Char) :
    escaped (c :: rest) = c :: escaped rest := by
  rw [escaped, List.flatMap_cons, quotedChar, if_neg (not_or.2 plain)]
  rfl

theorem escaped_cons_of_sign {c : Char} (sign : c = '\\' ∨ c = '"') (rest : List Char) :
    escaped (c :: rest) = '\\' :: c :: escaped rest := by
  rw [escaped, List.flatMap_cons, quotedChar, if_pos sign]
  rfl

theorem enclosed_escaped (s : List Char) : Enclosed (escaped s) := by
  induction s with
  | nil => exact .nil
  | cons c rest ih =>
    by_cases sign : c = '\\' ∨ c = '"'
    · rw [escaped_cons_of_sign sign]
      exact .escape sign ih
    · rw [escaped_cons_of_plain (not_or.1 sign)]
      exact .char (not_or.1 sign) ih

theorem unescape_escaped (s : List Char) : unescape (escaped s) = s := by
  induction s with
  | nil => rfl
  | cons c rest ih =>
    by_cases sign : c = '\\' ∨ c = '"'
    · rw [escaped_cons_of_sign sign, unescape, ih]
    · have other : c ≠ '\\' := (not_or.1 sign).1
      rw [escaped_cons_of_plain (not_or.1 sign), unescape, ih]
      exact fun _ _ same _ => other same

theorem length_le_length_escaped (s : List Char) : s.length ≤ (escaped s).length := by
  induction s with
  | nil => exact Nat.le_refl _
  | cons c rest ih =>
    by_cases sign : c = '\\' ∨ c = '"'
    · rw [escaped_cons_of_sign sign, List.length_cons, List.length_cons, List.length_cons]
      omega
    · rw [escaped_cons_of_plain (not_or.1 sign), List.length_cons, List.length_cons]
      omega

theorem mem_of_mem_escaped {c : Char} {s : List Char} (h : c ∈ escaped s) : c = '\\' ∨ c ∈ s := by
  obtain ⟨d, member, piece⟩ := List.mem_flatMap.1 h
  unfold quotedChar at piece
  split at piece
  · rcases List.mem_cons.1 piece with rfl | behind
    · exact .inl rfl
    · obtain rfl := List.mem_singleton.1 behind
      exact .inr member
  · obtain rfl := List.mem_singleton.1 piece
    exact .inr member

/-! ## Open colons -/

/-- A colon that a blank or nothing follows. -/
def OpenColon (s : List Char) : Prop :=
  ∃ before after, s = before ++ ':' :: after ∧ ∀ c ∈ after.head?, isBlank c = true

theorem hasOpenColon_iff (s : List Char) : hasOpenColon s = true ↔ OpenColon s := by
  induction s with
  | nil => simp [hasOpenColon, OpenColon]
  | cons c rest ih =>
    rw [hasOpenColon, Bool.or_eq_true, Bool.and_eq_true, beq_iff_eq, ih]
    constructor
    · rintro (⟨rfl, open_⟩ | ⟨before, after, rfl, open_⟩)
      · refine ⟨[], rest, rfl, fun d first => ?_⟩
        rw [Option.mem_def.1 first] at open_
        exact open_
      · exact ⟨c :: before, after, rfl, open_⟩
    · rintro ⟨before, after, cut, open_⟩
      cases before with
      | nil =>
        obtain ⟨rfl, rfl⟩ := List.cons.inj cut
        refine .inl ⟨rfl, ?_⟩
        cases rest with
        | nil => rfl
        | cons d rest => exact open_ d rfl
      | cons d before =>
        obtain ⟨rfl, rfl⟩ := List.cons.inj cut
        exact .inr ⟨before, after, rfl, open_⟩

/-! ## Comments -/

/-- A number sign that follows a blank. -/
def SignAfterBlank (s : List Char) : Prop :=
  ∃ before blank after, s = before ++ blank :: '#' :: after ∧ isBlank blank = true

/-- A text that begins with blanks and a number sign. -/
def StartsComment (s : List Char) : Prop :=
  ∃ blanks words, s = blanks ++ '#' :: words ∧ blanks ≠ [] ∧ allBlank blanks = true

/-- A value in two parts: its text, and its comment from all the blanks before the first number sign that follows a blank. The
comment is empty if there is no such sign. -/
structure CutAtComment (text comment : List Char) : Prop where
  first : ¬ SignAfterBlank text
  starts : comment = [] ∨ StartsComment comment ∧ ∀ c ∈ text.getLast?, isBlank c = false

theorem signAfterBlank_cons (c : Char) (rest : List Char) :
    SignAfterBlank (c :: rest) ↔ (isBlank c = true ∧ rest.head? = some '#') ∨ SignAfterBlank rest := by
  constructor
  · rintro ⟨before, blank, after, cut, blank_⟩
    cases before with
    | nil =>
      obtain ⟨rfl, rfl⟩ := List.cons.inj cut
      exact .inl ⟨blank_, rfl⟩
    | cons d before =>
      obtain ⟨rfl, rfl⟩ := List.cons.inj cut
      exact .inr ⟨before, blank, after, rfl, blank_⟩
  · rintro (⟨blank, sign⟩ | ⟨before, blank, after, rfl, blank_⟩)
    · obtain ⟨after, rfl⟩ := List.head?_eq_some_iff.1 sign
      exact ⟨[], c, after, rfl, blank⟩
    · exact ⟨c :: before, blank, after, rfl, blank_⟩

theorem spanBlanks_eq (s : List Char) : spanBlanks s = (s.takeWhile isBlank, s.dropWhile isBlank) :=
  List.span_eq_takeWhile_dropWhile isBlank s

/-- The blanks before a visible character are what is taken. -/
theorem spanBlanks_append {blanks rest : List Char} (inside : allBlank blanks = true)
    (visible : ∀ c ∈ rest.head?, isBlank c = false) : spanBlanks (blanks ++ rest) = (blanks, rest) := by
  have all : ∀ c ∈ blanks, isBlank c = true := List.all_eq_true.1 inside
  rw [spanBlanks_eq, List.takeWhile_append_of_pos all, List.dropWhile_append_of_pos all]
  cases rest with
  | nil => simp
  | cons c rest => simp [visible c rfl]

/-- What is taken is blank, and no blank follows it. -/
theorem spanBlanks_spec (s : List Char) : s = (spanBlanks s).1 ++ (spanBlanks s).2 ∧ allBlank (spanBlanks s).1 = true ∧
    ∀ c ∈ (spanBlanks s).2.head?, isBlank c = false := by
  rw [spanBlanks_eq]
  refine ⟨List.takeWhile_append_dropWhile.symm, List.all_takeWhile, fun c first => ?_⟩
  have stop := List.head?_dropWhile_not isBlank s
  rw [Option.mem_def.1 first] at stop
  simpa using stop

/-- On one line a comment is the whole of what begins as one. -/
theorem comment?_eq_some_iff {s c : List Char} (oneLine : '\n' ∉ s) : comment? s = some c ↔ c = s ∧ StartsComment s := by
  have found {blanks words : List Char} (whole : s = blanks ++ '#' :: words) (cut : spanBlanks s = (blanks, '#' :: words)) :
      comment? s = if blanks.isEmpty then none else some s := by
    have feed : '\n' ∉ '#' :: words := fun member => oneLine (whole ▸ List.mem_append_right _ member)
    have last : ('#' :: words).getLast? ≠ some '\n' := fun final => feed (List.mem_of_getLast? final)
    simp only [comment?, cut, Text.Chars.dropFinalLineFeed, if_neg last, feed, decide_false, Bool.or_false]
    rw [← whole]
  obtain ⟨whole, inside, -⟩ := spanBlanks_spec s
  constructor
  · intro h
    cases cut : spanBlanks s with
    | mk blanks rest =>
      rw [cut] at whole inside
      cases rest with
      | nil => simp [comment?, cut] at h
      | cons d words =>
        by_cases sign : d = '#'
        · subst sign
          rw [found whole cut] at h
          split at h
          · cases h
          · rename_i some_blank
            exact ⟨(Option.some.inj h).symm, blanks, words, whole, by simpa using some_blank, inside⟩
        · simp [comment?, cut, sign] at h
  · rintro ⟨rfl, blanks, words, whole, some_blank, inside⟩
    rw [found whole (whole ▸ spanBlanks_append inside (by simp; decide)), if_neg (by simpa using some_blank)]

theorem StartsComment.cons {c : Char} (blank : isBlank c = true) {s : List Char} (h : StartsComment s) :
    StartsComment (c :: s) := by
  obtain ⟨blanks, words, rfl, -, inside⟩ := h
  exact ⟨c :: blanks, words, rfl, List.cons_ne_nil _ _, by simpa [allBlank, blank] using inside⟩

/-- Where a comment begins, the value is cut. -/
theorem cutAtComment_of_splitComment?_eq_some {s text comment : List Char} (oneLine : '\n' ∉ s)
    (h : splitComment? s = some (text, comment)) :
    s = text ++ comment ∧ ¬ SignAfterBlank text ∧ StartsComment comment ∧ ∀ c ∈ text.getLast?, isBlank c = false := by
  induction s generalizing text with
  | nil => cases h
  | cons c rest ih =>
    rw [List.mem_cons, not_or] at oneLine
    rw [splitComment?] at h
    split at h
    · rename_i found
      obtain ⟨rfl, rfl⟩ := Prod.mk.inj (Option.some.inj h)
      obtain ⟨rfl, starts⟩ := (comment?_eq_some_iff (by simpa using oneLine)).1 found
      exact ⟨rfl, by simp [SignAfterBlank], starts, by simp⟩
    · rename_i none
      have here : ¬ StartsComment (c :: rest) := fun starts =>
        Option.some_ne_none _ (((comment?_eq_some_iff (by simpa using oneLine)).2 ⟨rfl, starts⟩).symm.trans none)
      rw [if_neg (Ne.symm oneLine.1)] at h
      obtain ⟨⟨inner, behind⟩, split_, same⟩ := Option.map_eq_some_iff.1 h
      obtain ⟨rfl, rfl⟩ := Prod.mk.inj same
      obtain ⟨rfl, first, starts, visible⟩ := ih oneLine.2 split_
      refine ⟨rfl, ?_, starts, ?_⟩
      · rw [signAfterBlank_cons]
        rintro (⟨blank, sign⟩ | later)
        · obtain ⟨words, rfl⟩ := List.head?_eq_some_iff.1 sign
          exact here ⟨[c], words ++ behind, rfl, List.cons_ne_nil _ _, by simpa [allBlank] using blank⟩
        · exact first later
      · cases inner with
        | nil =>
          intro d last
          obtain rfl : c = d := by simpa using last
          exact Bool.eq_false_iff.2 fun blank => here (starts.cons blank)
        | cons d inner => simpa [List.getLast?_cons_cons] using visible

/-- Where no comment begins, no number sign follows a blank. -/
theorem not_signAfterBlank_of_splitComment?_eq_none {s : List Char} (oneLine : '\n' ∉ s) (h : splitComment? s = none) :
    ¬ SignAfterBlank s := by
  induction s with
  | nil => simp [SignAfterBlank]
  | cons c rest ih =>
    have whole : '\n' ∉ c :: rest := oneLine
    rw [List.mem_cons, not_or] at oneLine
    rw [splitComment?] at h
    split at h
    · cases h
    · rename_i none
      rw [if_neg (Ne.symm oneLine.1), Option.map_eq_none_iff] at h
      rw [signAfterBlank_cons]
      rintro (⟨blank, sign⟩ | later)
      · obtain ⟨words, rfl⟩ := List.head?_eq_some_iff.1 sign
        have starts : StartsComment (c :: '#' :: words) :=
          ⟨[c], words, rfl, List.cons_ne_nil _ _, by simpa [allBlank] using blank⟩
        rw [(comment?_eq_some_iff whole).2 ⟨rfl, starts⟩] at none
        cases none
      · exact ih oneLine.2 h later

/-- A value is cut where its comment begins. -/
theorem cutAtComment_splitComment? {s : List Char} (oneLine : '\n' ∉ s) :
    s = ((splitComment? s).getD (s, [])).1 ++ ((splitComment? s).getD (s, [])).2 ∧
      CutAtComment ((splitComment? s).getD (s, [])).1 ((splitComment? s).getD (s, [])).2 := by
  cases cut : splitComment? s with
  | none => exact ⟨(List.append_nil s).symm, not_signAfterBlank_of_splitComment?_eq_none oneLine cut, .inl rfl⟩
  | some parts =>
    obtain ⟨whole, first, starts, visible⟩ := cutAtComment_of_splitComment?_eq_some oneLine cut
    exact ⟨whole, first, .inr ⟨starts, visible⟩⟩

theorem exists_cutAtComment {s : List Char} (oneLine : '\n' ∉ s) :
    ∃ text comment, s = text ++ comment ∧ CutAtComment text comment :=
  ⟨_, _, cutAtComment_splitComment? oneLine⟩

/-- The text of a value does not go on into the comment. -/
theorem CutAtComment.eq_nil_of_longer {text between rest : List Char} (cut : CutAtComment text (between ++ rest))
    (longer : CutAtComment (text ++ between) rest) : between = [] := by
  by_contra filled
  rcases cut.starts with none | ⟨⟨blanks, words, comment, some_blank, inside⟩, -⟩
  · exact filled (List.append_eq_nil_iff.1 none).1
  -- a text that ends in blanks has no comment behind it
  have ends {r : List Char} (same : blanks = between ++ r) (behind : rest = r ++ '#' :: words) : False := by
    rcases longer.starts with none | ⟨-, visible⟩
    · simp [behind] at none
    · have last : (text ++ between).getLast? = some (between.getLast filled) := by
        rw [List.getLast?_append, List.getLast?_eq_some_getLast filled, Option.some_or]
      have blank : isBlank (between.getLast filled) = true :=
        List.all_eq_true.1 inside _ (same ▸ List.mem_append_left _ (List.getLast_mem filled))
      rw [visible _ last] at blank
      cases blank
  rcases List.append_eq_append_iff.1 comment with ⟨r, same, behind⟩ | ⟨r, same, behind⟩
  · exact ends same behind
  · cases r with
    | nil =>
      have whole : blanks = between ++ [] := by rw [same, List.append_nil, List.append_nil]
      exact ends whole (by rw [behind]; rfl)
    | cons sign more =>
      obtain ⟨rfl, -⟩ := List.cons.inj behind
      obtain ⟨before, blank, rfl⟩ : ∃ before blank, blanks = before ++ [blank] :=
        ⟨_, _, (List.dropLast_concat_getLast some_blank).symm⟩
      refine longer.first ⟨text ++ before, blank, more, by simp [same], ?_⟩
      exact List.all_eq_true.1 inside _ (List.mem_append_right _ List.mem_cons_self)

/-- A value can be cut in one way only. -/
theorem CutAtComment.unique {text comment text' comment' : List Char} (cut : CutAtComment text comment)
    (cut' : CutAtComment text' comment') (same : text ++ comment = text' ++ comment') : text = text' ∧ comment = comment' := by
  rcases List.append_eq_append_iff.1 same with ⟨between, rfl, rfl⟩ | ⟨between, rfl, rfl⟩
  · obtain rfl := cut.eq_nil_of_longer cut'
    simp
  · obtain rfl := cut'.eq_nil_of_longer cut
    simp

/-! ## Values -/

theorem quoteValue_of_cut {lead text comment : List Char} (oneLine : '\n' ∉ text ++ comment)
    (cut : CutAtComment text comment) : quoteValue lead (text ++ comment) =
      if hasOpenColon text then lead ++ doubleQuoted text ++ comment else lead ++ (text ++ comment) := by
  obtain ⟨whole, found⟩ := cutAtComment_splitComment? oneLine
  obtain ⟨first, second⟩ := cut.unique found whole
  rw [quoteValue]
  split
  rename_i body rest parts
  rw [parts] at first second
  rw [first, second]

/-- **Text between quotes.** Behind any start of a line, a value on one line is left as it is or put between quotes but for its
comment, which begins with the blanks before the first number sign that follows a blank. It is put between quotes exactly if
its text has a colon before a blank or at its end. What stands between the quotes has no double quote that ends it early and no
backslash that takes the closing quote, and undoing its escapes gives the text back. -/
theorem quoteValue_enclosed (lead value : List Char) (oneLine : '\n' ∉ value) :
    ∃ text comment, value = text ++ comment ∧ CutAtComment text comment ∧
      (quoteValue lead value ≠ lead ++ value ↔ OpenColon text) ∧
      (quoteValue lead value = lead ++ value ∨ ∃ inner,
        quoteValue lead value = lead ++ '"' :: (inner ++ '"' :: comment) ∧ Enclosed inner ∧ unescape inner = text) := by
  obtain ⟨text, comment, rfl, cut⟩ := exists_cutAtComment oneLine
  refine ⟨text, comment, rfl, cut, ?_⟩
  rw [quoteValue_of_cut oneLine cut, ← hasOpenColon_iff]
  split
  · rename_i colon
    refine ⟨iff_of_true (fun same => ?_) colon, .inr ⟨escaped text, ?_, enclosed_escaped text, unescape_escaped text⟩⟩
    · have longer := congrArg List.length same
      have inner := length_le_length_escaped text
      simp only [doubleQuoted_eq, List.length_append, List.length_cons, List.length_nil] at longer
      omega
    · simp [doubleQuoted_eq]
  · rename_i colon
    exact ⟨iff_of_false (fun other => other rfl) colon, .inl rfl⟩

/-- A line of dialogue with a backslash, double quotes, an open colon and a comment. -/
theorem quoteValue_enclosed_dialogue :
    let lead := "- Al: ".toList
    let value := "see \\ or \"x\": a  # b: c".toList
    '\n' ∉ value ∧ ∃ text comment, value = text ++ comment ∧ CutAtComment text comment ∧
      (quoteValue lead value ≠ lead ++ value ↔ OpenColon text) ∧
      (quoteValue lead value = lead ++ value ∨ ∃ inner,
        quoteValue lead value = lead ++ '"' :: (inner ++ '"' :: comment) ∧ Enclosed inner ∧ unescape inner = text) := by
  intro lead value
  have oneLine : '\n' ∉ value := by decide
  exact ⟨oneLine, quoteValue_enclosed lead value oneLine⟩

end ComicScript.Script
