import ComicScript.Proofs.Script.Quoting

/-!
# The start of a line

What stands before the colon of a line that recovery may change: a free-text key, or a dash and the name of a speaker. It has
no colon of its own, so the first colon of the line and the blanks after it say where the value begins, and recovery cuts
exactly the lines with such a start.
-/

namespace ComicScript.Script
set_option autoImplicit false

open Text (isBlank)
open Text.Chars (allBlank)

/-! ## Keys and speakers -/

/-- The start of a line of a free-text key: perhaps blanks, perhaps a dash and blanks, and the key. -/
def FreeTextLead (lead : List Char) : Prop :=
  ∃ margin mark key, lead = margin ++ (mark ++ key.toList) ∧ allBlank margin = true ∧
    (mark = [] ∨ ∃ blanks, mark = '-' :: blanks ∧ allBlank blanks = true) ∧ key ∈ freeTextKeys

/-- The start of a line of dialogue: perhaps blanks, a dash and blanks, and the name of the speaker. -/
def DialogueLead (lead : List Char) : Prop :=
  ∃ margin blanks first speaker, lead = margin ++ '-' :: (blanks ++ first :: speaker) ∧ allBlank margin = true ∧
    allBlank blanks = true ∧ blanks ≠ [] ∧ endsSpeaker first = false ∧ ∀ c ∈ speaker, c ≠ ':' ∧ c ≠ '#'

/-- What stands before the colon of a line that recovery may change, and the gap after the colon: only after a free-text key
may there be none. -/
def IsLead (lead gap : List Char) : Prop :=
  FreeTextLead lead ∨ DialogueLead lead ∧ gap ≠ []

theorem not_mem_of_allBlank {c : Char} (visible : isBlank c = false) {s : List Char} (h : allBlank s = true) : c ∉ s := by
  intro member
  rw [List.all_eq_true.1 h c member] at visible
  cases visible

theorem key_chars {key : String} (listed : key ∈ freeTextKeys) : ':' ∉ key.toList ∧ '#' ∉ key.toList ∧
    ∃ first more, key.toList = first :: more ∧ isBlank first = false ∧ first ≠ '-' := by
  simp only [freeTextKeys, List.mem_cons, List.not_mem_nil, or_false] at listed
  rcases listed with rfl | rfl | rfl | rfl | rfl | rfl | rfl
  all_goals exact ⟨by decide, by decide, _, _, rfl, by decide, by decide⟩

/-- The start of a line has no colon and no number sign. -/
theorem IsLead.not_mem {lead gap : List Char} (h : IsLead lead gap) : ':' ∉ lead ∧ '#' ∉ lead := by
  have colon : isBlank ':' = false := by decide
  have sign : isBlank '#' = false := by decide
  rcases h with freeText | ⟨dialogue, -⟩
  · obtain ⟨margin, mark, key, rfl, inMargin, mark_, listed⟩ := freeText
    obtain ⟨noColon, noSign, -⟩ := key_chars listed
    have inMark : ':' ∉ mark ∧ '#' ∉ mark := by
      rcases mark_ with rfl | ⟨blanks, rfl, inside⟩
      · simp
      · simp [not_mem_of_allBlank colon inside, not_mem_of_allBlank sign inside]
    simp [not_mem_of_allBlank colon inMargin, not_mem_of_allBlank sign inMargin, inMark, noColon, noSign]
  · obtain ⟨margin, blanks, first, speaker, rfl, inMargin, inside, -, starts, name⟩ := dialogue
    have begins : first ≠ ':' ∧ first ≠ '#' := by
      constructor
      all_goals
        rintro rfl
        exact absurd starts (by decide)
    have inName : ':' ∉ speaker ∧ '#' ∉ speaker :=
      ⟨fun member => (name _ member).1 rfl, fun member => (name _ member).2 rfl⟩
    simp [not_mem_of_allBlank colon inMargin, not_mem_of_allBlank sign inMargin, not_mem_of_allBlank colon inside,
      not_mem_of_allBlank sign inside, begins.1.symm, begins.2.symm, inName]

/-- The first colon cuts a line in one way. -/
theorem eq_of_append_colon {a b s t : List Char} (ha : ':' ∉ a) (hb : ':' ∉ b) (same : a ++ ':' :: s = b ++ ':' :: t) :
    a = b ∧ s = t := by
  rcases List.append_eq_append_iff.1 same with ⟨r, rfl, rest⟩ | ⟨r, rfl, rest⟩
  all_goals
    cases r with
    | nil => simpa [eq_comm] using rest
    | cons c r =>
      obtain ⟨rfl, -⟩ := List.cons.inj rest
      simp at ha hb

/-- The first colon and the blanks after it cut a line in one way. -/
theorem parts_unique {lead gap value lead' gap' value' : List Char} (clean : ':' ∉ lead) (clean' : ':' ∉ lead')
    (inside : allBlank gap = true) (inside' : allBlank gap' = true) (visible : ∀ c ∈ value.head?, isBlank c = false)
    (visible' : ∀ c ∈ value'.head?, isBlank c = false)
    (same : lead ++ ':' :: (gap ++ value) = lead' ++ ':' :: (gap' ++ value')) :
    lead = lead' ∧ gap = gap' ∧ value = value' := by
  obtain ⟨first, second⟩ := eq_of_append_colon clean clean' same
  have cut := spanBlanks_append inside visible
  rw [second, spanBlanks_append inside' visible'] at cut
  obtain ⟨gaps, values⟩ := Prod.mk.inj cut
  exact ⟨first, gaps.symm, values.symm⟩

/-! ## Cutting a line before its value -/

theorem afterLead?_eq_some_iff {lead s rest : List Char} : afterLead? lead s = some rest ↔ s = lead ++ rest := by
  rw [afterLead?]
  constructor
  · intro h
    split at h
    · rename_i begins
      obtain ⟨more, rfl⟩ := List.isPrefixOf_iff_prefix.1 begins
      obtain rfl : more = rest := by simpa using h
      rfl
    · cases h
  · rintro rfl
    rw [if_pos (List.isPrefixOf_iff_prefix.2 (List.prefix_append lead rest)), List.drop_left]

/-- At most one free-text key stands before a colon. -/
theorem findSome?_key {α : Type} {key : String} (listed : key ∈ freeTextKeys) (after : List Char)
    (found : String → List Char → Option α) :
    (freeTextKeys.findSome? fun k => (afterLead? (k.toList ++ [':']) (key.toList ++ ':' :: after)).bind (found k)) =
      found key after := by
  have here : afterLead? (key.toList ++ [':']) (key.toList ++ ':' :: after) = some after :=
    afterLead?_eq_some_iff.2 (by simp)
  have other {k : String} (listed' : k ∈ freeTextKeys) (ne : k ≠ key) :
      afterLead? (k.toList ++ [':']) (key.toList ++ ':' :: after) = none := by
    rw [Option.eq_none_iff_forall_ne_some]
    intro rest same
    have cut := afterLead?_eq_some_iff.1 same
    rw [List.append_assoc] at cut
    exact ne (String.toList_inj.1 (eq_of_append_colon (key_chars listed').1 (key_chars listed).1 cut.symm).1)
  obtain ⟨earlier, later, parts, first⟩ := List.eq_append_cons_of_mem listed
  have listed' {k : String} (member : k ∈ earlier ++ later) : k ∈ freeTextKeys := by
    rw [parts]
    rcases List.mem_append.1 member with before | behind
    · exact List.mem_append_left _ before
    · exact List.mem_append_right _ (List.mem_cons_of_mem _ behind)
  have once : key ∉ later := by
    have distinct : freeTextKeys.Nodup := by decide
    rw [parts] at distinct
    exact (List.nodup_cons.1 (List.nodup_append.1 distinct).2.1).1
  have none_of {ks : List String} (listed' : ∀ k ∈ ks, k ∈ freeTextKeys) (absent : key ∉ ks) :
      (ks.findSome? fun k => (afterLead? (k.toList ++ [':']) (key.toList ++ ':' :: after)).bind (found k)) = none := by
    rw [List.findSome?_eq_none_iff]
    intro k member
    rw [other (listed' k member) (fun same => absent (same ▸ member)), Option.bind_none]
  rw [parts, List.findSome?_append, none_of (fun k member => listed' (List.mem_append_left _ member)) first, Option.none_or,
    List.findSome?_cons, here, Option.bind_some, none_of (fun k member => listed' (List.mem_append_right _ member)) once]
  cases found key after <;> rfl

/-- The dash with its blanks before a key, and the rest. -/
def takeDash (s : List Char) : List Char × List Char :=
  match s with
  | '-' :: more => ('-' :: (spanBlanks more).1, (spanBlanks more).2)
  | more => ([], more)

theorem takeDash_of_ne {c : Char} (other : c ≠ '-') (rest : List Char) : takeDash (c :: rest) = ([], c :: rest) := by
  rw [takeDash]
  exact fun _ same => other (List.cons.inj same).1

theorem takeDash_spec (s : List Char) : s = (takeDash s).1 ++ (takeDash s).2 ∧
    ((takeDash s).1 = [] ∨ ∃ blanks, (takeDash s).1 = '-' :: blanks ∧ allBlank blanks = true) := by
  unfold takeDash
  split
  · rename_i more
    obtain ⟨whole, inside, -⟩ := spanBlanks_spec more
    exact ⟨congrArg ('-' :: ·) whole, .inr ⟨_, rfl, inside⟩⟩
  · exact ⟨rfl, .inl rfl⟩

theorem splitFreeText?_eq (line : List Char) : splitFreeText? line =
    freeTextKeys.findSome? fun key =>
      (afterLead? (key.toList ++ [':']) (takeDash (spanBlanks line).2).2).bind fun after =>
        if (spanBlanks after).2.isEmpty then none
        else some ((spanBlanks line).1 ++ (takeDash (spanBlanks line).2).1 ++ key.toList ++ ':' :: (spanBlanks after).1,
          (spanBlanks after).2) := rfl

/-- A line that begins as one of a free-text key is cut before its value. -/
theorem splitFreeText?_lead {lead gap value : List Char} (form : FreeTextLead lead) (inside : allBlank gap = true)
    (filled : value ≠ []) (visible : ∀ c ∈ value.head?, isBlank c = false) :
    splitFreeText? (lead ++ ':' :: (gap ++ value)) = some (lead ++ ':' :: gap, value) := by
  obtain ⟨margin, mark, key, rfl, inMargin, mark_, listed⟩ := form
  obtain ⟨-, -, first, more, chars, shown, letter⟩ := key_chars listed
  have visibleKey : ∀ c ∈ (key.toList ++ ':' :: (gap ++ value)).head?, isBlank c = false := by simp [chars, shown]
  have dash : takeDash (mark ++ (key.toList ++ ':' :: (gap ++ value))) = (mark, key.toList ++ ':' :: (gap ++ value)) := by
    rcases mark_ with rfl | ⟨blanks, rfl, inMark⟩
    · rw [List.nil_append, chars]
      exact takeDash_of_ne letter _
    · rw [List.cons_append, takeDash, spanBlanks_append inMark visibleKey]
  have visibleMark : ∀ c ∈ (mark ++ (key.toList ++ ':' :: (gap ++ value))).head?, isBlank c = false := by
    rcases mark_ with rfl | ⟨blanks, rfl, -⟩
    · exact visibleKey
    · simp
      decide
  rw [splitFreeText?_eq, List.append_assoc, List.append_assoc, spanBlanks_append inMargin visibleMark, dash,
    findSome?_key listed, spanBlanks_append inside visible, if_neg (by simpa using filled)]
  simp

/-- What is cut before its value begins as a line of a free-text key. -/
theorem exists_of_splitFreeText?_eq_some {line front value : List Char} (h : splitFreeText? line = some (front, value)) :
    ∃ lead gap, FreeTextLead lead ∧ front = lead ++ ':' :: gap ∧ line = lead ++ ':' :: (gap ++ value) ∧
      allBlank gap = true ∧ value ≠ [] ∧ ∀ c ∈ value.head?, isBlank c = false := by
  rw [splitFreeText?_eq] at h
  obtain ⟨key, listed, found⟩ := List.exists_of_findSome?_eq_some h
  obtain ⟨after, behind, cut⟩ := Option.bind_eq_some_iff.1 found
  obtain ⟨whole, inMargin, -⟩ := spanBlanks_spec line
  obtain ⟨rest, mark⟩ := takeDash_spec (spanBlanks line).2
  obtain ⟨parts, inside, visible⟩ := spanBlanks_spec after
  rw [afterLead?_eq_some_iff] at behind
  split at cut
  · cases cut
  · rename_i filled
    obtain ⟨rfl, rfl⟩ := Prod.mk.inj (Option.some.inj cut)
    refine ⟨_, _, ⟨_, _, key, rfl, inMargin, mark, listed⟩, by simp, ?_, inside, by simpa using filled, visible⟩
    calc line
      _ = (spanBlanks line).1 ++ ((takeDash (spanBlanks line).2).1 ++ (key.toList ++ [':'] ++ after)) := by
        rw [← behind, ← rest, ← whole]
      _ = _ := by
        rw [← parts]
        simp

/-- A line that begins as one of dialogue is cut before its text. -/
theorem splitDialogue?_lead {lead gap value : List Char} (form : DialogueLead lead) (inside : allBlank gap = true)
    (spaced : gap ≠ []) (filled : value ≠ []) (visible : ∀ c ∈ value.head?, isBlank c = false) :
    splitDialogue? (lead ++ ':' :: (gap ++ value)) = some (lead ++ ':' :: gap, value) := by
  obtain ⟨margin, blanks, first, speaker, rfl, inMargin, inBlanks, someBlank, starts, name⟩ := form
  have shown : isBlank first = false := (Bool.or_eq_false_iff.1 starts).1
  have inName : ∀ c ∈ speaker, (c != ':' && c != '#') = true := fun c member => by simpa using name c member
  have dash : spanBlanks (margin ++ '-' :: (blanks ++ (first :: (speaker ++ ':' :: (gap ++ value))))) =
      (margin, '-' :: (blanks ++ (first :: (speaker ++ ':' :: (gap ++ value))))) :=
    spanBlanks_append inMargin (by simp; decide)
  have begins : spanBlanks (blanks ++ (first :: (speaker ++ ':' :: (gap ++ value)))) =
      (blanks, first :: (speaker ++ ':' :: (gap ++ value))) :=
    spanBlanks_append inBlanks (by simpa using shown)
  have named : (speaker ++ ':' :: (gap ++ value)).span (fun c => c != ':' && c != '#') = (speaker, ':' :: (gap ++ value)) := by
    rw [List.span_eq_takeWhile_dropWhile, List.takeWhile_append_of_pos inName, List.dropWhile_append_of_pos inName]
    simp
  have whole : margin ++ '-' :: (blanks ++ first :: speaker) ++ ':' :: (gap ++ value) =
      margin ++ '-' :: (blanks ++ (first :: (speaker ++ ':' :: (gap ++ value)))) := by simp
  rw [whole, splitDialogue?, dash]
  simp only [begins, named, spanBlanks_append inside visible, starts, List.isEmpty_eq_false_iff.2 someBlank,
    List.isEmpty_eq_false_iff.2 spaced, List.isEmpty_eq_false_iff.2 filled]
  simp

/-- What is cut before its text begins as a line of dialogue. -/
theorem exists_of_splitDialogue?_eq_some {line front value : List Char} (h : splitDialogue? line = some (front, value)) :
    ∃ lead gap, DialogueLead lead ∧ gap ≠ [] ∧ front = lead ++ ':' :: gap ∧ line = lead ++ ':' :: (gap ++ value) ∧
      allBlank gap = true ∧ value ≠ [] ∧ ∀ c ∈ value.head?, isBlank c = false := by
  obtain ⟨whole, inMargin, -⟩ := spanBlanks_spec line
  unfold splitDialogue? at h
  split at h
  rename_i margin rest cut
  rw [cut] at whole inMargin
  split at h
  · rename_i more
    obtain ⟨behind, inBlanks, -⟩ := spanBlanks_spec more
    split at h
    rename_i blanks rest cut
    rw [cut] at behind inBlanks
    split at h
    · rename_i first rest
      have named : rest.takeWhile (fun c => c != ':' && c != '#') ++ rest.dropWhile (fun c => c != ':' && c != '#') = rest :=
        List.takeWhile_append_dropWhile
      have name : ∀ c ∈ rest.takeWhile fun c => c != ':' && c != '#', c ≠ ':' ∧ c ≠ '#' := fun c member => by
        simpa using List.all_eq_true.1 List.all_takeWhile c member
      rw [List.span_eq_takeWhile_dropWhile] at h
      split at h
      rename_i speaker tail cut
      obtain ⟨front_, tail_⟩ := Prod.mk.inj cut
      rw [front_] at named name
      rw [tail_] at named
      split at h
      · rename_i after
        obtain ⟨parts, inside, visible⟩ := spanBlanks_spec after
        split at h
        rename_i gap value cut
        rw [cut] at parts inside visible
        split at h
        · cases h
        · rename_i proper
          obtain ⟨rfl, rfl⟩ := Prod.mk.inj (Option.some.inj h)
          simp only [Bool.or_eq_true, not_or, List.isEmpty_iff, Bool.not_eq_true] at proper
          obtain ⟨⟨⟨someBlank, starts⟩, spaced⟩, filled⟩ := proper
          refine ⟨_, gap, ⟨margin, blanks, first, _, rfl, inMargin, inBlanks, someBlank, starts, name⟩, spaced, by simp, ?_,
            inside, filled, visible⟩
          rw [whole, behind, ← named, parts]
          simp
      · cases h
    · cases h
  · cases h

/-- Recovery may change the lines with the right start, and cuts them before their value. -/
theorem splitLine?_lead {lead gap value : List Char} (form : IsLead lead gap) (inside : allBlank gap = true)
    (filled : value ≠ []) (visible : ∀ c ∈ value.head?, isBlank c = false) :
    splitLine? (lead ++ ':' :: (gap ++ value)) = some (lead ++ ':' :: gap, value) := by
  rw [splitLine?]
  rcases form with freeText | ⟨dialogue, spaced⟩
  · rw [splitFreeText?_lead freeText inside filled visible, Option.some_or]
  · cases found : splitFreeText? (lead ++ ':' :: (gap ++ value)) with
    | none => rw [Option.none_or, splitDialogue?_lead dialogue inside spaced filled visible]
    | some parts =>
      -- a line may begin both ways; both cut it at its first colon
      obtain ⟨front, value'⟩ := parts
      obtain ⟨lead', gap', freeText, rfl, same, inside', -, visible'⟩ := exists_of_splitFreeText?_eq_some found
      have one : IsLead lead gap := .inr ⟨dialogue, spaced⟩
      have other : IsLead lead' gap' := .inl freeText
      obtain ⟨rfl, rfl, rfl⟩ := parts_unique one.not_mem.1 other.not_mem.1 inside inside' visible visible' same
      rfl

theorem exists_of_splitLine?_eq_some {line front value : List Char} (h : splitLine? line = some (front, value)) :
    ∃ lead gap, IsLead lead gap ∧ front = lead ++ ':' :: gap ∧ line = lead ++ ':' :: (gap ++ value) ∧
      allBlank gap = true ∧ value ≠ [] ∧ ∀ c ∈ value.head?, isBlank c = false := by
  rcases Option.or_eq_some_iff.1 h with freeText | ⟨-, dialogue⟩
  · obtain ⟨lead, gap, form, rest⟩ := exists_of_splitFreeText?_eq_some freeText
    exact ⟨lead, gap, .inl form, rest⟩
  · obtain ⟨lead, gap, form, spaced, rest⟩ := exists_of_splitDialogue?_eq_some dialogue
    exact ⟨lead, gap, .inr ⟨form, spaced⟩, rest⟩

end ComicScript.Script
