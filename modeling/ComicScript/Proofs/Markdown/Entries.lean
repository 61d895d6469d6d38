import ComicScript.Proofs.Decimal.Numeral
import ComicScript.Proofs.Markdown.Fields
import ComicScript.Proofs.Text.Collapse
import ComicScript.Proofs.Text.Upper

/-!
# Titles and entries on one line

A title, a collapsed field and a line of dialogue each stay on one line, and no line of dialogue is blank. Collapsing takes
the line feeds out of every text but the name of a speaker and the type of what is said.
-/

namespace ComicScript.Markdown
set_option autoImplicit false

/-- Two texts without line feeds have none together. -/
theorem lineFeed_not_mem_append {a b : String} (ha : '\n' ∉ a.toList) (hb : '\n' ∉ b.toList) :
    '\n' ∉ (a ++ b).toList := by
  rw [String.toList_append, List.mem_append, not_or]
  exact ⟨ha, hb⟩

theorem lineFeed_not_mem_collapsed (field : Option String) : '\n' ∉ (collapsed field).toList := by
  cases field with
  | none => decide
  | some s =>
    rw [collapsed_some]
    exact Text.lineFeed_not_mem_collapse s

theorem lineFeed_not_mem_italic {s : String} (h : '\n' ∉ s.toList) : '\n' ∉ (italic s).toList :=
  lineFeed_not_mem_append (lineFeed_not_mem_append (by decide) h) (by decide)

theorem lineFeed_not_mem_bold {s : String} (h : '\n' ∉ s.toList) : '\n' ∉ (bold s).toList :=
  lineFeed_not_mem_append (lineFeed_not_mem_append (by decide) h) (by decide)

theorem lineFeed_not_mem_speaker {s : String} (h : '\n' ∉ s.toList) : '\n' ∉ (speaker s).toList :=
  lineFeed_not_mem_append (lineFeed_not_mem_append (by decide) (Text.lineFeed_not_mem_upper h)) (by decide)

/-- A title stays on one line, whatever the name. -/
theorem lineFeed_not_mem_numberedTitle {kind : String} (h : '\n' ∉ kind.toList) (number : Int) (name : Option String) :
    '\n' ∉ (numberedTitle kind number name).toList := by
  have numeral : '\n' ∉ (toString number).toList := fun member =>
    absurd (Decimal.isNumeral_of_mem_toString_int member) (by decide)
  have title : '\n' ∉ ("(" ++ kind ++ " " ++ toString number ++ ")").toList := by
    apply lineFeed_not_mem_append _ (by decide)
    apply lineFeed_not_mem_append _ numeral
    apply lineFeed_not_mem_append _ (by decide)
    exact lineFeed_not_mem_append (by decide) h
  simp only [numberedTitle]
  split
  · exact title
  · exact lineFeed_not_mem_append (lineFeed_not_mem_append title (by decide)) (lineFeed_not_mem_collapsed name)

/-- The name of the speaker of a line of dialogue. -/
def nameOf (d : Dialogue) : String :=
  if d.character.isEmpty then defaultCharacter else d.character

/-- The type of a line of dialogue. -/
def typeOf (d : Dialogue) : String :=
  if d.type.isEmpty then speechType else d.type

theorem dialogue_eq (d : Dialogue) :
    dialogue d =
      if d.isNarration || typeOf d == narrationType then italic (Text.collapse d.text)
      else if typeOf d == soundEffectType then bold (Text.collapse d.text)
      else if typeOf d == speechType then speaker (nameOf d) ++ Text.collapse d.text
      else speaker (nameOf d) ++ "(" ++ typeOf d ++ ") " ++ Text.collapse d.text := rfl

/-- A line of dialogue is italic or bold text, or something said by a speaker. -/
theorem dialogue_cases (d : Dialogue) :
    dialogue d = italic (Text.collapse d.text) ∨ dialogue d = bold (Text.collapse d.text) ∨
      dialogue d = speaker (nameOf d) ++ Text.collapse d.text ∨
      dialogue d = speaker (nameOf d) ++ "(" ++ typeOf d ++ ") " ++ Text.collapse d.text := by
  rw [dialogue_eq]
  split
  · exact .inl rfl
  · split
    · exact .inr (.inl rfl)
    · split
      · exact .inr (.inr (.inl rfl))
      · exact .inr (.inr (.inr rfl))

/-- A name has the characters of the given one, or of the default one. -/
theorem not_mem_nameOf {c : Char} (other : c ∉ defaultCharacter.toList) {d : Dialogue} (h : c ∉ d.character.toList) :
    c ∉ (nameOf d).toList := by
  unfold nameOf
  split
  · exact other
  · exact h

theorem not_mem_typeOf {c : Char} (other : c ∉ speechType.toList) {d : Dialogue} (h : c ∉ d.type.toList) :
    c ∉ (typeOf d).toList := by
  unfold typeOf
  split
  · exact other
  · exact h

/-- No line of dialogue is blank: each begins with an asterisk. -/
theorem allBlank_dialogue (d : Dialogue) : Text.allBlank (dialogue d) = false := by
  rcases dialogue_cases d with same | same | same | same
  all_goals
    rw [same]
    simp only [italic, bold, speaker, String.append_assoc]
    exact Text.allBlank_append_left (by decide) _

/-- A line of dialogue stays on one line if its speaker and type do. -/
theorem lineFeed_not_mem_dialogue {d : Dialogue} (character : '\n' ∉ d.character.toList) (type : '\n' ∉ d.type.toList) :
    '\n' ∉ (dialogue d).toList := by
  have text : '\n' ∉ (Text.collapse d.text).toList := Text.lineFeed_not_mem_collapse _
  have named : '\n' ∉ (speaker (nameOf d)).toList := lineFeed_not_mem_speaker (not_mem_nameOf (by decide) character)
  have typed : '\n' ∉ (typeOf d).toList := not_mem_typeOf (by decide) type
  rcases dialogue_cases d with same | same | same | same
  all_goals rw [same]
  · exact lineFeed_not_mem_italic text
  · exact lineFeed_not_mem_bold text
  · exact lineFeed_not_mem_append named text
  · have opened := lineFeed_not_mem_append named (by decide : '\n' ∉ "(".toList)
    have closed := lineFeed_not_mem_append (lineFeed_not_mem_append opened typed) (by decide : '\n' ∉ ") ".toList)
    exact lineFeed_not_mem_append closed text

theorem mem_entryOf {field : Option String} {write : String → String} {s : String} (h : s ∈ entryOf field write) :
    s = write (collapsed field) := by
  unfold entryOf at h
  split at h
  · cases h
  · exact List.mem_singleton.1 h

/-- An entry of a quote is a caption or a line of dialogue. -/
theorem quoteLines_cases {p : Panel} {lines : List Dialogue} {entry : String} (h : entry ∈ quoteLines p lines) :
    (∃ lead ∈ ["CAPTION: ", "END CAPTION: "], ∃ field, entry = italic (lead ++ collapsed field)) ∨
      ∃ d ∈ lines, entry = dialogue d := by
  rw [quoteLines_eq, List.mem_append, List.mem_append] at h
  rcases h with (caption | said) | caption
  · have same := mem_entryOf caption
    exact .inl ⟨"CAPTION: ", by simp, p.caption, same⟩
  · obtain ⟨d, member, rfl⟩ := List.mem_map.1 said
    exact .inr ⟨d, member, rfl⟩
  · have same := mem_entryOf caption
    exact .inl ⟨"END CAPTION: ", by simp, p.endCaption, same⟩

/-- No entry of a quote is blank. -/
theorem allBlank_of_mem_quoteLines {p : Panel} {lines : List Dialogue} {entry : String} (h : entry ∈ quoteLines p lines) :
    Text.allBlank entry = false := by
  rcases quoteLines_cases h with ⟨lead, -, field, rfl⟩ | ⟨d, -, rfl⟩
  · rw [italic, String.append_assoc]
    exact Text.allBlank_append_left (by decide) _
  · exact allBlank_dialogue d

/-- The entries of a quote stay on their lines if the speakers and types do. -/
theorem lineFeed_not_mem_quoteLines {p : Panel} {lines : List Dialogue}
    (names : ∀ d ∈ lines, '\n' ∉ d.character.toList ∧ '\n' ∉ d.type.toList) {entry : String}
    (h : entry ∈ quoteLines p lines) : '\n' ∉ entry.toList := by
  have leads : ∀ lead ∈ ["CAPTION: ", "END CAPTION: "], '\n' ∉ lead.toList := by decide
  rcases quoteLines_cases h with ⟨lead, known, field, rfl⟩ | ⟨d, member, rfl⟩
  · exact lineFeed_not_mem_italic (lineFeed_not_mem_append (leads lead known) (lineFeed_not_mem_collapsed field))
  · exact lineFeed_not_mem_dialogue (names d member).1 (names d member).2

/-- Each line of a quote begins with its mark. -/
theorem unlines_quote (entry : String) (rest : List String) :
    "> " ++ "\n> ".intercalate (entry :: rest) = Text.unlines ((entry :: rest).map ("> " ++ ·)) := by
  induction rest generalizing entry with
  | nil => rfl
  | cons next rest ih =>
    have mark : "\n> " = "\n" ++ "> " := by decide
    rw [String.intercalate_cons_cons, List.map_cons, Text.unlines, List.map_cons, String.intercalate_cons_cons,
      ← List.map_cons, ← Text.unlines, ← ih next, mark]
    simp only [String.append_assoc]

/-! ## Asterisks in entries -/

theorem count_star_collapse (s : String) : (Text.collapse s).toList.count '*' = s.toList.count '*' := by
  rw [Text.collapse, String.toList_ofList, Text.Chars.count_collapse (by decide)]

theorem count_star_italic (s : String) : (italic s).toList.count '*' = s.toList.count '*' + 2 := by
  simp [italic, List.count_append]

theorem count_star_bold (s : String) : (bold s).toList.count '*' = s.toList.count '*' + 4 := by
  simp [bold, List.count_append]

theorem count_star_speaker (s : String) : (speaker s).toList.count '*' = s.toList.count '*' + 4 := by
  simp [speaker, List.count_append, Text.count_upper (by decide : Text.IsSign '*')]

theorem count_star_nameOf_le (d : Dialogue) : (nameOf d).toList.count '*' ≤ d.character.toList.count '*' := by
  unfold nameOf
  split
  · exact Nat.zero_le _
  · exact Nat.le_refl _

theorem count_star_typeOf_le (d : Dialogue) : (typeOf d).toList.count '*' ≤ d.type.toList.count '*' := by
  unfold typeOf
  split
  · exact Nat.zero_le _
  · exact Nat.le_refl _

/-- A line of dialogue has at most four asterisks of its own. -/
theorem count_star_dialogue_le (d : Dialogue) :
    (dialogue d).toList.count '*' ≤
      d.character.toList.count '*' + d.type.toList.count '*' + d.text.toList.count '*' + 4 := by
  have text := count_star_collapse d.text
  have character := count_star_nameOf_le d
  have type := count_star_typeOf_le d
  rcases dialogue_cases d with same | same | same | same
  all_goals rw [same]
  · rw [count_star_italic]
    omega
  · rw [count_star_bold]
    omega
  · rw [String.toList_append, List.count_append, count_star_speaker]
    omega
  · simp only [String.toList_append, List.count_append, count_star_speaker]
    have own : "(".toList.count '*' = 0 ∧ ") ".toList.count '*' = 0 := by decide
    omega

end ComicScript.Markdown
