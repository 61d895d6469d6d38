import ComicScript.Script.Decode
import Mathlib.Logic.Relation

/-!
# Keys of dialogue

The key of an entry names a character and a type, and both may be left out. A line of dialogue tells its key up to what was
left out: it can be written out in full again, and two keys give the same line exactly if leaving out defaults leads from
one to the other.
-/

namespace ComicScript.Dialogue
set_option autoImplicit false

/-! ## What a line tells of its key -/

/-- A line that a key can give: a narration without a character, or a line of a character without a slash in the name. -/
structure Proper (d : Dialogue) : Prop where
  type : d.type ≠ ""
  narration : d.isNarration = true → d.character = ""
  speech : d.isNarration = false → d.character ≠ "" ∧ '/' ∉ d.character.toList

/-- A key spells a line: what the line has and the key has not is a default. -/
structure Spells (key : String) (d : Dialogue) : Prop where
  narration_iff : d.isNarration = true ↔ ∃ rest, key = "/" ++ rest
  narration : d.isNarration = true → key = "/" ++ d.type ∨ key = "/" ∧ d.type = narrationType
  speech : d.isNarration = false → ∃ c s, key = c ++ s ∧ (c = d.character ∨ c = "" ∧ d.character = defaultCharacter) ∧
    (s = "/" ++ d.type ∨ (s = "" ∨ s = "/") ∧ d.type = speechType)

/-- The key of a line with nothing left out. -/
def fullKey (d : Dialogue) : String :=
  if d.isNarration then "/" ++ d.type else d.character ++ "/" ++ d.type

/-- One key is another one with a default left out: the type of narration after a slash, the character of a key that has
nothing else, or the type of speech with or without its slash. -/
inductive Elides : String → String → Prop
  | narration : Elides "/" ("/" ++ narrationType)
  | character : Elides "" defaultCharacter
  | speech (character slash : String) (named : character ≠ "") (plain : '/' ∉ character.toList)
      (bare : slash = "" ∨ slash = "/") : Elides (character ++ slash) (character ++ "/" ++ speechType)

/-- Two keys differ only in defaults that are left out. -/
def SameButDefaults : String → String → Prop :=
  Relation.EqvGen Elides

/-! ## Reading a key -/

theorem orDefault_of_ne {default s : String} (h : s ≠ "") : orDefault default s = s := by
  simp [orDefault, h]

theorem orDefault_ne {default : String} (h : default ≠ "") (s : String) : orDefault default s ≠ "" := by
  unfold orDefault
  split
  · exact h
  · rename_i some
    simpa using some

theorem ofEntry_slash (type text : String) :
    ofEntry ("/" ++ type) text = ⟨"", text, orDefault narrationType type, true⟩ := by
  have chars : ("/" ++ type).toList = '/' :: type.toList := by simp
  rw [ofEntry, chars]
  simp

theorem splitKey_append {character : List Char} (plain : '/' ∉ character) (rest : List Char) :
    splitKey (character ++ rest) = (character ++ (splitKey rest).1, (splitKey rest).2) := by
  have clean : ∀ c ∈ character, (c != '/') = true := by
    intro c member
    rw [bne_iff_ne]
    rintro rfl
    exact plain member
  rw [splitKey, splitKey, List.takeWhile_append_of_pos clean, List.dropWhile_append_of_pos clean]

/-- A key that begins with a name is speech. -/
theorem ofEntry_named {character : String} (named : character ≠ "") (plain : '/' ∉ character.toList)
    (rest text : String) : ofEntry (character ++ rest) text =
      ⟨character ++ String.ofList (splitKey rest.toList).1, text,
        orDefault speechType (String.ofList (splitKey rest.toList).2), false⟩ := by
  have chars : (character ++ rest).toList = character.toList ++ rest.toList := String.toList_append
  unfold ofEntry
  split
  · rename_i type begins
    rw [chars] at begins
    cases first : character.toList with
    | nil => exact absurd (String.toList_eq_nil_iff.1 first) named
    | cons c others =>
      rw [first, List.cons_append, List.cons.injEq] at begins
      rw [first, begins.1] at plain
      exact absurd List.mem_cons_self plain
  · rw [chars, splitKey_append plain]
    have whole : String.ofList (character.toList ++ (splitKey rest.toList).1) =
        character ++ String.ofList (splitKey rest.toList).1 := by simp
    have some : character ++ String.ofList (splitKey rest.toList).1 ≠ "" := by simp [named]
    simp only [whole, orDefault_of_ne some]

theorem ofEntry_name {character : String} (named : character ≠ "") (plain : '/' ∉ character.toList) (text : String) :
    ofEntry character text = ⟨character, text, speechType, false⟩ := by
  simpa [splitKey, orDefault] using ofEntry_named named plain "" text

theorem ofEntry_typed {character : String} (named : character ≠ "") (plain : '/' ∉ character.toList)
    (type text : String) : ofEntry (character ++ "/" ++ type) text =
      ⟨character, text, orDefault speechType type, false⟩ := by
  rw [String.append_assoc]
  simpa [splitKey] using ofEntry_named named plain ("/" ++ type) text

/-- The forms of keys. -/
inductive KeyForm : String → Prop
  | narration (type : String) : KeyForm ("/" ++ type)
  | nobody : KeyForm ""
  | name (character : String) (named : character ≠ "") (plain : '/' ∉ character.toList) : KeyForm character
  | typed (character type : String) (named : character ≠ "") (plain : '/' ∉ character.toList) :
      KeyForm (character ++ "/" ++ type)

theorem keyForm (key : String) : KeyForm key := by
  by_cases slash : '/' ∈ key.toList
  · obtain ⟨before, type, parts, plain⟩ := List.eq_append_cons_of_mem slash
    have whole : key = String.ofList before ++ "/" ++ String.ofList type := by
      simp [← String.toList_inj, parts]
    cases before with
    | nil =>
      rw [whole]
      exact .narration (String.ofList type)
    | cons c rest =>
      rw [whole]
      exact .typed _ _ (by simp) (by rwa [String.toList_ofList])
  · by_cases named : key = ""
    · rw [named]
      exact .nobody
    · exact .name key named slash

/-! ## Keys and lines -/

theorem not_slash_append {character : String} (named : character ≠ "") (plain : '/' ∉ character.toList)
    (rest : String) : ¬ ∃ others, character ++ rest = "/" ++ others := by
  rintro ⟨others, same⟩
  have first := congrArg (fun s => s.toList.head?) same
  cases chars : character.toList with
  | nil => exact named (String.toList_eq_nil_iff.1 chars)
  | cons c more =>
    rw [chars] at plain
    have slash : c = '/' := by simpa [chars] using first
    exact plain (by rw [slash]; exact List.mem_cons_self)

/-- Every key spells the line that it gives. -/
theorem spells_ofEntry (key text : String) : (ofEntry key text).Proper ∧ Spells key (ofEntry key text) := by
  have speech : speechType ≠ "" := by decide
  cases keyForm key with
  | narration type =>
    rw [ofEntry_slash]
    refine ⟨⟨orDefault_ne (by decide) type, fun _ => rfl, Bool.noConfusion⟩, ⟨?_, fun _ => ?_, Bool.noConfusion⟩⟩
    · exact iff_of_true rfl ⟨type, rfl⟩
    · by_cases bare : type = ""
      · exact .inr ⟨by rw [bare]; rfl, by rw [bare]; rfl⟩
      · exact .inl (by rw [orDefault_of_ne bare])
  | nobody =>
    have line : ofEntry "" text = ⟨defaultCharacter, text, speechType, false⟩ := rfl
    rw [line]
    have someone : defaultCharacter ≠ "" ∧ '/' ∉ defaultCharacter.toList := by decide
    refine ⟨⟨speech, Bool.noConfusion, fun _ => someone⟩, ⟨?_, Bool.noConfusion, fun _ => ?_⟩⟩
    · refine iff_of_false Bool.noConfusion ?_
      rintro ⟨rest, same⟩
      simp [← String.toList_inj] at same
    · exact ⟨"", "", rfl, .inr ⟨rfl, rfl⟩, .inr ⟨.inl rfl, rfl⟩⟩
  | name _ named plain =>
    rw [ofEntry_name named plain]
    refine ⟨⟨speech, Bool.noConfusion, fun _ => ⟨named, plain⟩⟩, ⟨?_, Bool.noConfusion, fun _ => ?_⟩⟩
    · refine iff_of_false Bool.noConfusion ?_
      simpa using not_slash_append named plain ""
    · exact ⟨key, "", String.append_empty.symm, .inl rfl, .inr ⟨.inl rfl, rfl⟩⟩
  | typed character type named plain =>
    rw [ofEntry_typed named plain]
    refine ⟨⟨orDefault_ne (by decide) type, Bool.noConfusion, fun _ => ⟨named, plain⟩⟩,
      ⟨?_, Bool.noConfusion, fun _ => ?_⟩⟩
    · refine iff_of_false Bool.noConfusion ?_
      rw [String.append_assoc]
      exact not_slash_append named plain _
    · refine ⟨character, "/" ++ type, String.append_assoc .., .inl rfl, ?_⟩
      by_cases bare : type = ""
      · exact .inr ⟨.inr (by rw [bare]; rfl), by rw [bare]; rfl⟩
      · exact .inl (by rw [orDefault_of_ne bare])

/-- A key gives no other line than the one that it spells. -/
theorem ofEntry_of_spells {key : String} {d : Dialogue} (proper : d.Proper) (h : Spells key d) :
    ofEntry key d.text = d := by
  obtain ⟨character, text, type, isNarration⟩ := d
  cases isNarration with
  | true =>
    obtain rfl : character = "" := proper.narration rfl
    rcases h.narration rfl with rfl | ⟨rfl, same⟩
    · rw [ofEntry_slash, orDefault_of_ne proper.type]
    · simp only at same
      rw [same]
      rfl
  | false =>
    obtain ⟨named, plain⟩ := proper.speech rfl
    have speech : ¬ ∃ rest, key = "/" ++ rest := fun slash => Bool.noConfusion (h.narration_iff.2 slash)
    obtain ⟨c, s, rfl, rfl | ⟨rfl, someone⟩, rfl | ⟨rfl | rfl, spoken⟩⟩ := h.speech rfl
    · rw [← String.append_assoc, ofEntry_typed named plain, orDefault_of_ne proper.type]
    · simp only at spoken
      rw [String.append_empty, ofEntry_name named plain, spoken]
    · simp only at spoken
      have bare := ofEntry_typed named plain "" text
      rw [String.append_empty] at bare
      rw [bare, spoken]
      rfl
    · exact absurd ⟨type, String.empty_append⟩ speech
    · simp only at someone spoken
      rw [someone, spoken]
      rfl
    · exact absurd ⟨"", rfl⟩ speech

theorem spells_fullKey {d : Dialogue} (proper : d.Proper) : Spells d.fullKey d := by
  cases narrated : d.isNarration with
  | true =>
    have key : d.fullKey = "/" ++ d.type := by rw [fullKey, narrated, if_pos rfl]
    refine ⟨?_, fun _ => .inl key, fun spoken => ?_⟩
    · exact iff_of_true narrated ⟨d.type, key⟩
    · rw [narrated] at spoken
      cases spoken
  | false =>
    obtain ⟨named, plain⟩ := proper.speech narrated
    have key : d.fullKey = d.character ++ ("/" ++ d.type) := by
      rw [fullKey, narrated, if_neg Bool.false_ne_true, String.append_assoc]
    refine ⟨?_, fun told => ?_, fun _ => ⟨d.character, "/" ++ d.type, key, .inl rfl, .inl rfl⟩⟩
    · rw [key, narrated]
      exact iff_of_false Bool.false_ne_true (not_slash_append named plain _)
    · rw [narrated] at told
      cases told

/-! ## Keys of one line -/

/-- Leaving out a default does not change the line. -/
theorem ofEntry_of_elides {short long : String} (h : Elides short long) (text : String) :
    ofEntry short text = ofEntry long text := by
  cases h with
  | narration => rfl
  | character => rfl
  | speech character slash named plain bare =>
    have long := ofEntry_typed named plain speechType text
    rw [orDefault_of_ne (by decide)] at long
    rw [long]
    rcases bare with rfl | rfl
    · rw [String.append_empty, ofEntry_name named plain]
    · simpa [orDefault] using ofEntry_typed named plain "" text

/-- Every key is the full key of its line with defaults left out. -/
theorem sameButDefaults_fullKey (key text : String) : SameButDefaults key (ofEntry key text).fullKey := by
  cases keyForm key with
  | narration type =>
    rw [ofEntry_slash]
    by_cases bare : type = ""
    · rw [bare]
      exact .rel _ _ .narration
    · rw [orDefault_of_ne bare]
      exact .refl _
  | nobody =>
    have named : Elides (defaultCharacter ++ "") (defaultCharacter ++ "/" ++ speechType) :=
      .speech _ _ (by decide) (by decide) (.inl rfl)
    exact .trans _ _ _ (.rel _ _ .character) (.rel _ _ named)
  | name _ named plain =>
    rw [ofEntry_name named plain]
    have typed := Elides.speech key "" named plain (.inl rfl)
    rw [String.append_empty] at typed
    exact .rel _ _ typed
  | typed character type named plain =>
    rw [ofEntry_typed named plain]
    by_cases bare : type = ""
    · rw [bare, String.append_empty]
      exact .rel _ _ (.speech character "/" named plain (.inr rfl))
    · rw [orDefault_of_ne bare]
      exact .refl _

/-- Two keys give the same line exactly if they differ only in defaults that are left out. -/
theorem ofEntry_eq_iff (key other text : String) : ofEntry key text = ofEntry other text ↔ SameButDefaults key other := by
  constructor
  · intro same
    have full := sameButDefaults_fullKey key text
    rw [same] at full
    exact .trans _ _ _ full (.symm _ _ (sameButDefaults_fullKey other text))
  · intro related
    induction related with
    | rel _ _ step => exact ofEntry_of_elides step text
    | refl => rfl
    | symm _ _ _ ih => exact ih.symm
    | trans _ _ _ _ _ first second => exact first.trans second

/-- The line of an entry whose key and text can be written. -/
theorem ofValue?_of_texts {key text : Value} {k t : String} (named : key.textOrEmpty = .ok k)
    (said : text.textOrEmpty = .ok t) : ofValue? (.map [(key, text)]) = .ok (some (ofEntry k t)) := by
  simp only [ofValue?, named, said]
  rfl

theorem text_ofEntry (key text : String) : (ofEntry key text).text = text := by
  unfold ofEntry
  split <;> rfl

/-- **Keys of dialogue.** A mapping of one key whose key and text can be written gives a line with that text, and the key
spells the line: nothing of it is lost but for defaults that it leaves out. A line is given by some key exactly if it is a
narration without a character or a line of a character without a slash in the name, with a type in either case; its full key
then gives it back. Two keys give the same line exactly if they differ only in defaults that are left out. -/
theorem ofValue_eq_some_iff_spells :
    (∀ {key text : Value} {k t : String}, key.textOrEmpty = .ok k → text.textOrEmpty = .ok t →
      ∃ d, ofValue? (.map [(key, text)]) = .ok (some d) ∧ d.text = t ∧ d.Proper ∧ Spells k d) ∧
    (∀ d : Dialogue, d.Proper → ofValue? (.map [(.str d.fullKey, .str d.text)]) = .ok (some d)) ∧
    (∀ (d : Dialogue) {key : Value} {k : String}, key.textOrEmpty = .ok k →
      (ofValue? (.map [(key, .str d.text)]) = .ok (some d) ↔ d.Proper ∧ Spells k d)) ∧
    ∀ {key other text : Value} {k l t : String}, key.textOrEmpty = .ok k → other.textOrEmpty = .ok l →
      text.textOrEmpty = .ok t →
      (ofValue? (.map [(key, text)]) = ofValue? (.map [(other, text)]) ↔ SameButDefaults k l) := by
  refine ⟨fun {key text k t} named said => ?_, fun d proper => ?_, fun d {key k} named => ?_,
    fun {key other text k l t} named called said => ?_⟩
  · obtain ⟨proper, spells⟩ := spells_ofEntry k t
    exact ⟨ofEntry k t, ofValue?_of_texts named said, text_ofEntry k t, proper, spells⟩
  · exact congrArg (Except.ok ∘ some) (ofEntry_of_spells proper (spells_fullKey proper))
  · rw [ofValue?_of_texts named rfl, Except.ok.injEq, Option.some.injEq]
    constructor
    · intro given
      rw [← given]
      exact spells_ofEntry k _
    · rintro ⟨proper, spells⟩
      exact ofEntry_of_spells proper spells
  · rw [ofValue?_of_texts named said, ofValue?_of_texts called said, ← ofEntry_eq_iff k l t, Except.ok.injEq,
      Option.some.injEq]

/-- A line with a plain type: its full key gives it back, and so does a key that ends at the slash. -/
theorem ofValue_eq_some_iff_spells_bare :
    let d : Dialogue := ⟨"Ann", "hi", speechType, false⟩
    d.Proper ∧ ofValue? (.map [(.str d.fullKey, .str d.text)]) = .ok (some d) ∧
      ofValue? (.map [(.str "Ann/", .str d.text)]) = .ok (some d) ∧ SameButDefaults "Ann/" d.fullKey := by
  intro d
  have proper : d.Proper := ⟨by decide, Bool.noConfusion, fun _ => by decide⟩
  obtain ⟨-, full, -, alike⟩ := ofValue_eq_some_iff_spells
  have bare : ofValue? (.map [(.str "Ann/", .str d.text)]) = .ok (some d) := rfl
  have same : SameButDefaults "Ann/" d.fullKey :=
    (@alike (.str "Ann/") (.str d.fullKey) (.str d.text) _ _ _ rfl rfl rfl).1 (bare.trans (full d proper).symm)
  exact ⟨proper, full d proper, bare, same⟩

/-- A narration without a type is spelled by a slash alone, but that key gives it the type that it leaves out. -/
theorem not_restored_of_untyped_narration :
    let d : Dialogue := ⟨"", "boom", "", true⟩
    Spells "/" d ∧ d.fullKey = "/" ∧ ofValue? (.map [(.str d.fullKey, .str d.text)]) ≠ .ok (some d) ∧
      ofValue? (.map [(.str d.fullKey, .str d.text)]) = .ok (some ⟨"", "boom", narrationType, true⟩) := by
  intro d
  have line : ofEntry d.fullKey d.text = ⟨"", "boom", narrationType, true⟩ := by decide
  have read : ofValue? (.map [(.str d.fullKey, .str d.text)]) = .ok (some ⟨"", "boom", narrationType, true⟩) :=
    congrArg (Except.ok ∘ some) line
  have other : (⟨"", "boom", narrationType, true⟩ : Dialogue) ≠ d := by decide
  refine ⟨⟨?_, fun _ => .inl rfl, Bool.noConfusion⟩, rfl, fun same => other ?_, read⟩
  · exact iff_of_true rfl ⟨"", rfl⟩
  · exact Option.some.inj (Except.ok.inj (read.symm.trans same))

end ComicScript.Dialogue
