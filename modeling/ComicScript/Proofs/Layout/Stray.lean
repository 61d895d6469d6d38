import ComicScript.Proofs.Script.Pages
import ComicScript.Proofs.Value.Text

/-!
# Lines that are no text

A list of lines is read up to the first line that is no text. The layout is refused with that line in the message, and a
line that cannot be written is the only one that makes reading crash.
-/

namespace ComicScript
set_option autoImplicit false

namespace Layout

/-- The first of the lines of a source that is no text. -/
def FirstStray (source line : Value) : Prop :=
  (∀ s, line ≠ .str s) ∧ ∃ (rows : List String) (rest : List Value),
    source = .list (rows.map .str ++ line :: rest) ∨ source = .tuple (rows.map .str ++ line :: rest)

/-- Items are all texts, or one of them is the first that is none. -/
theorem texts_or_stray (items : List Value) : (∃ rows : List String, items = rows.map .str) ∨
    ∃ (rows : List String) (v : Value) (rest : List Value), items = rows.map .str ++ v :: rest ∧ ∀ s, v ≠ .str s := by
  induction items with
  | nil => exact .inl ⟨[], rfl⟩
  | cons v rest ih =>
    by_cases text : ∃ s, v = .str s
    · obtain ⟨s, rfl⟩ := text
      rcases ih with ⟨rows, rfl⟩ | ⟨rows, stray, after, rfl, other⟩
      · exact .inl ⟨s :: rows, rfl⟩
      · exact .inr ⟨s :: rows, stray, after, rfl, other⟩
    · exact .inr ⟨[], v, rest, rfl, fun s same => text ⟨s, same⟩⟩

/-- The first line that is no text stops the reading. -/
theorem lineTexts_stray {v : Value} (stray : ∀ s, v ≠ .str s) (n : Nat) (rows : List String) (rest : List Value) :
    lineTexts n (rows.map .str ++ v :: rest) =
      match v.quoted with
      | .ok shown => .error (.refused (.notLine (n + rows.length) shown))
      | .error c => .error (.crashed c) := by
  induction rows generalizing n with
  | nil =>
    have first : lineTexts n (v :: rest) =
        ((liftM v.quoted : Except (Stop LayoutError) String) >>= fun shown => throw (.refused (.notLine n shown))) := by
      cases v with
      | str s => exact absurd rfl (stray s)
      | _ => rfl
    rw [List.map_nil, List.nil_append, first, List.length_nil, Nat.add_zero]
    cases v.quoted <;> rfl
  | cons row rows ih =>
    have number : n + (row :: rows).length = n + 1 + rows.length := by
      rw [List.length_cons]
      omega
    rw [List.map_cons, List.cons_append, lineTexts, ih, number]
    cases v.quoted <;> rfl

/-- A source with a line that is no text is not read. -/
theorem parse_of_firstStray {source line : Value} (h : FirstStray source line) :
    (∀ shown, line.quoted = .ok shown → ∃ n, parse source = .error (.refused (.notLine n shown))) ∧
      ∀ c, line.quoted = .error c → parse source = .error (.crashed c) := by
  obtain ⟨stray, rows, rest, either⟩ := h
  have read : parse source = (lineTexts 1 (rows.map .str ++ line :: rest)).map ofLines := by
    rcases either with rfl | rfl <;> rfl
  rw [read, lineTexts_stray stray]
  constructor
  · intro shown text
    rw [text]
    exact ⟨_, rfl⟩
  · intro c failed
    rw [failed]
    rfl

/-- A source that is not read is no grid at all, or has a line that is no text. -/
theorem of_parse_eq_error {source : Value} {e : Stop LayoutError} (h : parse source = .error e) :
    e = .refused (.notGrid source.typeName) ∨ ∃ line, FirstStray source line := by
  have listed (items : List Value) (read : parse source = (lineTexts 1 items).map ofLines) :
      ∃ (rows : List String) (v : Value) (rest : List Value),
        items = rows.map .str ++ v :: rest ∧ ∀ s, v ≠ .str s := by
    refine (texts_or_stray items).resolve_left ?_
    rintro ⟨rows, rfl⟩
    rw [h, lineTexts_map_str] at read
    cases read
  cases source with
  | str s => cases h
  | list items =>
    obtain ⟨rows, v, rest, rfl, stray⟩ := listed items rfl
    exact .inr ⟨v, stray, rows, rest, .inl rfl⟩
  | tuple items =>
    obtain ⟨rows, v, rest, rfl, stray⟩ := listed items rfl
    exact .inr ⟨v, stray, rows, rest, .inr rfl⟩
  | _ =>
    cases h
    exact .inl rfl

/-- Reading a layout crashes exactly at a first line that is no text and cannot be written. -/
theorem parse_crashed_iff {source : Value} {c : Crash} : parse source = .error (.crashed c) ↔
    c = .tooManyDigits ∧ ∃ line, FirstStray source line ∧ ¬ line.Writable := by
  constructor
  · intro failed
    obtain ⟨line, stray⟩ := (of_parse_eq_error failed).resolve_left nofun
    obtain ⟨refused, crashed⟩ := parse_of_firstStray stray
    cases text : line.quoted with
    | ok shown =>
      obtain ⟨n, other⟩ := refused shown text
      rw [failed] at other
      cases other
    | error d =>
      have same := failed.symm.trans (crashed d text)
      obtain rfl : c = d := by injections
      obtain ⟨kind, long⟩ := (Value.needsShort_quoted line).error_iff.1 text
      exact ⟨kind, line, stray, by simpa [Value.Writable] using long⟩
  · rintro ⟨rfl, line, stray, long⟩
    exact (parse_of_firstStray stray).2 _ ((Value.needsShort_quoted line).crash (by simpa [Value.Writable] using long))

/-- A line of a source that can be written can be written. -/
theorem FirstStray.writable {source line : Value} (h : FirstStray source line) (written : source.Writable) :
    line.Writable := by
  obtain ⟨-, rows, rest, either⟩ := h
  intro n inside
  have member : n ∈ Value.integersOf (rows.map .str ++ line :: rest) :=
    Value.mem_integersOf.2 ⟨line, List.mem_append_right _ List.mem_cons_self, inside⟩
  refine written n ?_
  rcases either with rfl | rfl <;> exact member

end Layout

end ComicScript
