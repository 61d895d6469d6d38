import ComicScript.Proofs.Lint.Kept
import ComicScript.Proofs.Script.DialogueKeys

/-!
# Entries of dialogue

Decoding and lint read an entry of dialogue each on its own. An entry is reported as discarded exactly if decoding has no
line for it. An entry whose key names nobody is spoken by the default character; lint reports it if the key is the empty
text, but takes a null key for the text of null. Lint does not look at what is said: where that cannot be written, decoding
crashes at an entry that lint reports.
-/

namespace ComicScript
set_option autoImplicit false

namespace Value

theorem textOrEmpty_of_ne_null {v : Value} (h : v ≠ .null) : v.textOrEmpty = v.text := by
  cases v with
  | null => exact absurd rfl h
  | _ => rfl

/-- Only the empty text is shown as the empty text. -/
theorem text_eq_empty_iff (v : Value) : v.text = .ok "" ↔ v = .str "" := by
  constructor
  · intro shown
    cases v with
    | str s => rw [Except.ok.inj shown]
    | _ => exact absurd (isEmpty_text shown nofun) (by decide)
  · rintro rfl
    rfl

/-- Only null and the empty text are read as the empty text. -/
theorem textOrEmpty_eq_empty_iff (v : Value) : v.textOrEmpty = .ok "" ↔ v = .null ∨ v = .str "" := by
  by_cases null : v = .null
  · simp [null, textOrEmpty]
  · rw [textOrEmpty_of_ne_null null, text_eq_empty_iff, or_iff_right null]

end Value

namespace Dialogue

/-- An entry whose key has nothing before its first slash, read as speech by the default character. -/
def Unnamed (v : Value) : Prop :=
  ∃ key text k d, v = .map [(key, text)] ∧ key.textOrEmpty = .ok k ∧ ofValue? v = .ok (some d) ∧
    d.isNarration = false ∧ d.character = defaultCharacter ∧ (splitKey k.toList).1 = []

/-- A key with nothing before its first slash begins with the slash or is empty. -/
theorem splitKey_eq_nil_iff (key : List Char) : (splitKey key).1 = [] ↔ key = [] ∨ ∃ type, key = '/' :: type := by
  cases key with
  | nil => simp [splitKey]
  | cons c rest =>
    by_cases slash : c = '/'
    · simp [splitKey, slash]
    · simp [splitKey, slash]

/-- A key with nothing before its first slash is narration, unless it is empty. -/
theorem isNarration_ofEntry {key : String} (text : String) (nobody : (splitKey key.toList).1 = []) :
    (ofEntry key text).isNarration = false ↔ key = "" := by
  rcases (splitKey_eq_nil_iff _).1 nobody with empty | ⟨type, slash⟩
  · obtain rfl := String.toList_eq_nil_iff.1 empty
    exact iff_of_true rfl rfl
  · rw [ofEntry, slash]
    refine iff_of_false Bool.noConfusion ?_
    rintro rfl
    cases slash

theorem ofValue?_eq_none_iff (v : Value) : ofValue? v = .ok none ↔ ∀ key text, v ≠ .map [(key, text)] := by
  constructor
  · rintro none key text rfl
    obtain ⟨k, -, none⟩ := exists_of_bind_eq_ok none
    obtain ⟨t, -, made⟩ := exists_of_bind_eq_ok none
    cases made
  · intro other
    unfold ofValue?
    split
    · exact absurd rfl (other _ _)
    · rfl

/-- The entries that name nobody are those with an empty key or a null one, if what is said can be written. -/
theorem unnamed_iff (v : Value) : Unnamed v ↔
    ∃ key text, v = .map [(key, text)] ∧ (key = .null ∨ key = .str "") ∧ text.Writable := by
  constructor
  · rintro ⟨key, text, k, d, rfl, named, read, spoken, -, nobody⟩
    obtain ⟨k', same, read⟩ := exists_of_bind_eq_ok read
    obtain ⟨t, said, made⟩ := exists_of_bind_eq_ok read
    obtain rfl : k = k' := Except.ok.inj (named.symm.trans same)
    cases made
    have empty := (isNarration_ofEntry t nobody).1 spoken
    rw [empty] at named
    exact ⟨key, text, rfl, key.textOrEmpty_eq_empty_iff.1 named, text.needsShort_textOrEmpty.ok_iff.1 ⟨t, said⟩⟩
  · rintro ⟨key, text, rfl, void, writable⟩
    have empty := key.textOrEmpty_eq_empty_iff.2 void
    obtain ⟨t, said⟩ := text.needsShort_textOrEmpty.ok writable
    exact ⟨key, text, "", _, rfl, empty, ofValue?_of_texts empty said, rfl, rfl, rfl⟩

end Dialogue

namespace Lint

variable {cfg : Config} {path : String}

theorem located_entryIssues (v : Value) : Located path (entryIssues cfg path v) := by
  unfold entryIssues
  split
  · refine .bind fun name _ => ?_
    split
    · exact .report rfl
    · exact .noIssues
  · exact .report rfl

/-- Entries are reported at their places. -/
theorem placed_entriesFrom (i : Nat) (items : List Value) :
    Each (fun issue => ∃ n, i ≤ n ∧ n < i + items.length ∧ issue.path = itemPath path n) (entriesFrom cfg path i items) := by
  induction items generalizing i with
  | nil => exact .noIssues
  | cons v rest ih =>
    rw [List.length_cons]
    refine Each.append ?_ ?_
    · exact Each.mono (located_entryIssues v) fun issue here => ⟨i, Nat.le_refl i, by omega, here⟩
    · refine Each.mono (ih (i + 1)) fun issue => ?_
      rintro ⟨n, low, high, place⟩
      exact ⟨n, by omega, by omega, place⟩

/-- Nothing is reported where there is no entry. -/
theorem elsewhere_entriesFrom {n i : Nat} {items : List Value} (outside : n < i ∨ i + items.length ≤ n) (code : Code) :
    Elsewhere code (itemPath path n) (entriesFrom cfg path i items) := by
  refine Each.mono (placed_entriesFrom i items) fun issue => ?_
  rintro ⟨m, low, high, place⟩ - here
  have same := itemPath_inj (place.symm.trans here)
  omega

/-- What is reported at the place of an entry is what is found in that entry. -/
theorem reports_entriesFrom (code : Code) (i : Nat) (before after : List Value) (v : Value) :
    Reports code (itemPath path (i + before.length)) (entriesFrom cfg path i (before ++ v :: after))
      (entryIssues cfg (itemPath path (i + before.length)) v) := by
  induction before generalizing i with
  | nil => exact Reports.refl.append_right (elsewhere_entriesFrom (.inl (Nat.lt_succ_self i)) code)
  | cons w rest ih =>
    have later := ih (i + 1)
    rw [Nat.add_right_comm, Nat.add_assoc] at later
    refine later.append_left (Each.mono (located_entryIssues w) fun issue here _ there => ?_)
    have same := itemPath_inj (here.symm.trans there)
    omega

/-- A key gives no character exactly if it is the empty text: one that begins with a slash is narration. -/
theorem empty_key_iff (name : String) :
    ((Dialogue.splitKey name.toList).1.isEmpty && !Text.startsWith "/" name) = true ↔ name = "" := by
  rw [Bool.and_eq_true, List.isEmpty_iff, Dialogue.splitKey_eq_nil_iff]
  constructor
  · rintro ⟨empty | ⟨type, slash⟩, narration⟩
    · exact String.toList_eq_nil_iff.1 empty
    · rw [Text.startsWith, slash] at narration
      exact absurd narration (by simp)
  · rintro rfl
    exact ⟨.inl rfl, rfl⟩

/-- An entry is found to be discarded exactly if there is no line for it. -/
theorem discarded_iff {v : Value} {found : List Issue} (made : entryIssues cfg path v = .ok found) :
    issuesAt .dialogueEntryDiscarded path found ≠ [] ↔
      Code.name .dialogueEntryDiscarded ∉ cfg.ignore ∧ Dialogue.ofValue? v = .ok none := by
  rw [Dialogue.ofValue?_eq_none_iff]
  by_cases pair : ∃ key text, v = .map [(key, text)]
  · obtain ⟨key, text, rfl⟩ := pair
    have coded : Coded cfg [.dialogueEmptyCharacter] (entryIssues cfg path (.map [(key, text)])) := by
      refine Each.bind fun name _ => ?_
      split
      · exact Coded.report List.mem_cons_self
      · exact .noIssues
    rw [(coded.elsewhere (by decide)).issuesAt_eq_nil made]
    simp
  · simp only [not_exists] at pair
    unfold entryIssues at made
    split at made
    · exact absurd rfl (pair _ _)
    · rw [Each.issuesAt_eq_self (.report ⟨rfl, rfl⟩) made, ne_nil_iff_of_report made, and_iff_left pair]

/-- An entry is found to have no character exactly if its key is the empty text. -/
theorem emptyCharacter_iff {v : Value} {found : List Issue} (made : entryIssues cfg path v = .ok found) :
    issuesAt .dialogueEmptyCharacter path found ≠ [] ↔
      Code.name .dialogueEmptyCharacter ∉ cfg.ignore ∧ ∃ text, v = .map [(.str "", text)] := by
  unfold entryIssues at made
  split at made
  · rename_i key text
    obtain ⟨name, shown, result⟩ := exists_of_bind_eq_ok made
    split at result
    · rename_i empty
      obtain rfl := (empty_key_iff name).1 empty
      obtain rfl := key.text_eq_empty_iff.1 shown
      rw [Each.issuesAt_eq_self (.report ⟨rfl, rfl⟩) result, ne_nil_iff_of_report result]
      simp
    · rename_i named
      cases result
      have other : key ≠ .str "" := by
        rintro rfl
        exact named ((empty_key_iff name).2 (Except.ok.inj shown).symm)
      simp [issuesAt, other]
  · rename_i pair
    rw [issuesAt_report_of_ne (by decide) made]
    simp only [ne_eq, not_true_eq_false, false_iff, not_and, not_exists]
    exact fun _ text => pair _ text

/-- **Entries of dialogue.** Whatever stands around an entry, and unless a caller leaves the code out, the entry is reported
as discarded exactly if there is no line for it. It is reported to have no character exactly if it is read as speech by the
default character because its key names nobody, but for a null key, which is not reported, and for an empty key with
something that cannot be said, which is reported while decoding crashes. Lint itself comes to an end exactly if the keys can
be written. -/
theorem entry_reported_iff (cfg : Config) (path : String) (before after : List Value) (v : Value) :
    let place := itemPath path before.length
    let lint := dialogueIssues cfg path (.list (before ++ v :: after))
    (∀ found, lint = .ok found →
      (issuesAt .dialogueEntryDiscarded place found ≠ [] ↔
        Code.name .dialogueEntryDiscarded ∉ cfg.ignore ∧ Dialogue.ofValue? v = .ok none) ∧
      (issuesAt .dialogueEmptyCharacter place found ≠ [] ↔
        Code.name .dialogueEmptyCharacter ∉ cfg.ignore ∧ ((Dialogue.Unnamed v ∧ ∀ text, v ≠ .map [(.null, text)]) ∨
          ∃ text, v = .map [(.str "", text)] ∧ Dialogue.ofValue? v = .error .tooManyDigits))) ∧
    ((∃ found, lint = .ok found) ↔ ∀ n ∈ (before ++ v :: after).flatMap entryWritten, Decimal.Short n) := by
  intro place lint
  refine ⟨fun found made => ?_, (needsShort_dialogueIssues path _).ok_iff⟩
  have placed (code : Code) : Reports code place lint (entryIssues cfg place v) := by
    have own := @reports_entriesFrom cfg path code 0 before after v
    rwa [Nat.zero_add] at own
  obtain ⟨part, here, discarded⟩ := placed .dialogueEntryDiscarded found made
  obtain ⟨own, here', nobody⟩ := placed .dialogueEmptyCharacter found made
  rw [discarded, nobody, discarded_iff here, emptyCharacter_iff here']
  refine ⟨Iff.rfl, and_congr_right fun _ => ?_⟩
  rw [Dialogue.unnamed_iff]
  constructor
  · rintro ⟨text, rfl⟩
    by_cases writable : text.Writable
    · exact .inl ⟨⟨_, text, rfl, .inr rfl, writable⟩, nofun⟩
    · refine .inr ⟨text, rfl, ?_⟩
      exact (Dialogue.needsShort_ofValue? _).crash (by simpa [Value.Writable, Dialogue.written, Value.integers] using writable)
  · rintro (⟨⟨key, text, rfl, null | empty, -⟩, no_null⟩ | ⟨text, rfl, -⟩)
    · rw [null] at no_null
      exact absurd rfl (no_null text)
    · exact ⟨text, by rw [empty]⟩
    · exact ⟨text, rfl⟩

/-- A null key names nobody, and lint has nothing to say about it. -/
theorem not_reported_null_key : Dialogue.Unnamed (.map [(.null, .str "who?")]) ∧
    dialogueIssues {} "/pages/0/panels/0/dialogue" (.list [.map [(.null, .str "who?")]]) = .ok [] :=
  ⟨(Dialogue.unnamed_iff _).2 ⟨_, _, rfl, .inl rfl, nofun⟩, rfl⟩

end Lint

end ComicScript
