import ComicScript.Text.Escape

/-!
# Reading markup

A reader that takes markup apart into tags and the characters between them, with entities undone. It knows nothing of
how the markup was made: an angle bracket that belongs to no tag, and an ampersand that begins no entity, are refused.
Markup that is put together from parts is read part by part.
-/

namespace ComicScript.Markup
set_option autoImplicit false

/-- A part of markup: a tag, by what stands between its angle brackets, or a character of text. -/
inductive Token
  | tag (inside : List Char)
  | char (c : Char)
  deriving DecidableEq, Repr

/-- The characters that have entities, by the names of those. -/
def entities : List (String × Char) :=
  [("amp", '&'), ("lt", '<'), ("gt", '>'), ("quot", '"'), ("apos", '\'')]

/-- The character that an entity stands for. -/
def entity? (name : List Char) : Option Char :=
  (entities.find? fun entity => entity.1.toList == name).map (·.2)

/-- What a reader is inside of, with what it has read of that. -/
inductive Mode
  | text
  | tag (inside : List Char)
  | entity (name : List Char)

/-- Reads on from the middle of markup. -/
def readFrom : Mode → List Char → Option (List Token)
  | .text, [] => some []
  | .text, c :: rest =>
    if c = '<' then readFrom (.tag []) rest
    else if c = '>' then none
    else if c = '&' then readFrom (.entity []) rest
    else (readFrom .text rest).map (.char c :: ·)
  | .tag inside, c :: rest =>
    if c = '<' then none
    else if c = '>' then (readFrom .text rest).map (.tag inside :: ·)
    else readFrom (.tag (inside ++ [c])) rest
  | .entity name, c :: rest =>
    if c = ';' then (entity? name).bind fun e => (readFrom .text rest).map (.char e :: ·)
    else readFrom (.entity (name ++ [c])) rest
  | _, [] => none

/-- Reads markup. -/
def read? (s : String) : Option (List Token) :=
  readFrom .text s.toList

example : read? "a<b c=\"d\">&lt;" = some [.char 'a', .tag "b c=\"d\"".toList, .char '<'] := by decide

example : read? "a>b" = none ∧ read? "a<b" = none ∧ read? "&nbsp;" = none := by decide

/-- The text between the tags. -/
def textOf (tokens : List Token) : List Char :=
  tokens.filterMap fun
    | .char c => some c
    | .tag _ => none

@[simp] theorem textOf_append (a b : List Token) : textOf (a ++ b) = textOf a ++ textOf b :=
  List.filterMap_append

/-- The characters that begin or end something in markup. -/
def specials : List Char := ['<', '>', '&', '"']

/-- No character of a text has a meaning in markup. -/
def Plain (s : List Char) : Prop := ∀ c ∈ s, c ∉ specials

instance (s : List Char) : Decidable (Plain s) := List.decidableBAll (· ∉ specials) s

/-- A text can stand in the value of an attribute. -/
def IsValue (s : List Char) : Prop := ∀ c ∈ s, c ≠ '<' ∧ c ≠ '>' ∧ c ≠ '"'

instance (s : List Char) : Decidable (IsValue s) := List.decidableBAll (fun c => c ≠ '<' ∧ c ≠ '>' ∧ c ≠ '"') s

theorem Plain.isValue {s : List Char} (h : Plain s) : IsValue s := by
  intro c member
  have plain := h c member
  simp only [specials, List.mem_cons, List.not_mem_nil, or_false, not_or] at plain
  exact ⟨plain.1, plain.2.1, plain.2.2.2⟩

/-- Whether a literal has a meaning in markup is decided on its characters. -/
theorem plain_ofList {s : List Char} (h : Plain s) : Plain (String.ofList s).toList := by
  rwa [String.toList_ofList]

theorem IsValue.append {s t : List Char} (hs : IsValue s) (ht : IsValue t) : IsValue (s ++ t) :=
  fun c member => (List.mem_append.1 member).elim (hs c) (ht c)

/-- The characters of a text that have a meaning in markup, in their order. -/
def marks (text : List Char) : List Char :=
  text.filter (· ∈ specials)

@[simp] theorem marks_nil : marks [] = [] := rfl

@[simp] theorem marks_append (a b : List Char) : marks (a ++ b) = marks a ++ marks b :=
  List.filter_append ..

theorem marks_eq_nil {s : List Char} (h : Plain s) : marks s = [] :=
  List.filter_eq_nil_iff.2 fun c member => by simpa using h c member

/-! ## Reading joined texts -/

/-- What is read up to the end of a tag or of text does not depend on what follows. -/
theorem readFrom_append {mode : Mode} {a : List Char} {tokens : List Token} (h : readFrom mode a = some tokens)
    (b : List Char) : readFrom mode (a ++ b) = (readFrom .text b).map (tokens ++ ·) := by
  induction a generalizing mode tokens with
  | nil =>
    cases mode with
    | text =>
      obtain rfl : [] = tokens := Option.some.inj h
      simp
    | tag inside => cases h
    | entity name => cases h
  | cons c rest ih =>
    cases mode with
    | text =>
      simp only [List.cons_append, readFrom] at h ⊢
      split at h
      · rename_i opens
        rw [if_pos opens]
        exact ih h
      · split at h
        · cases h
        · split at h
          · rename_i opens closes entity
            rw [if_neg opens, if_neg closes, if_pos entity]
            exact ih h
          · rename_i opens closes entity
            rw [if_neg opens, if_neg closes, if_neg entity]
            obtain ⟨others, found, rfl⟩ := Option.map_eq_some_iff.1 h
            rw [ih found, Option.map_map]
            rfl
    | tag inside =>
      simp only [List.cons_append, readFrom] at h ⊢
      split at h
      · cases h
      · split at h
        · rename_i opens closes
          rw [if_neg opens, if_pos closes]
          obtain ⟨others, found, rfl⟩ := Option.map_eq_some_iff.1 h
          rw [ih found, Option.map_map]
          rfl
        · rename_i opens closes
          rw [if_neg opens, if_neg closes]
          exact ih h
    | entity name =>
      simp only [List.cons_append, readFrom] at h ⊢
      split at h
      · rename_i ends
        rw [if_pos ends]
        obtain ⟨e, known, after⟩ := Option.bind_eq_some_iff.1 h
        obtain ⟨others, found, rfl⟩ := Option.map_eq_some_iff.1 after
        rw [known, Option.bind_some, ih found, Option.map_map]
        rfl
      · rename_i ends
        rw [if_neg ends]
        exact ih h

/-- A tag is read up to its closing bracket. -/
theorem readFrom_tag {inside : List Char} (h : ∀ c ∈ inside, c ≠ '<' ∧ c ≠ '>') (before : List Char) :
    readFrom (.tag before) (inside ++ ['>']) = some [.tag (before ++ inside)] := by
  induction inside generalizing before with
  | nil => simp [readFrom]
  | cons c rest ih =>
    obtain ⟨opens, closes⟩ := h c List.mem_cons_self
    rw [List.cons_append, readFrom, if_neg opens, if_neg closes,
      ih (fun d member => h d (List.mem_cons_of_mem _ member)), List.append_assoc, List.singleton_append]

/-- Characters without a meaning in markup are read as they stand. -/
theorem readFrom_plain {s : List Char} (h : Plain s) :
    readFrom .text s = some (s.map .char) := by
  induction s with
  | nil => rfl
  | cons c rest ih =>
    have plain := h c List.mem_cons_self
    simp only [specials, List.mem_cons, List.not_mem_nil, or_false, not_or] at plain
    rw [readFrom, if_neg plain.1, if_neg plain.2.1, if_neg plain.2.2.1,
      ih (fun d member => h d (List.mem_cons_of_mem _ member))]
    rfl

/-- Joined markup is read part by part. -/
theorem read?_append {a b : String} {x y : List Token} (ha : read? a = some x) (hb : read? b = some y) :
    read? (a ++ b) = some (x ++ y) := by
  rw [read?, String.toList_append, readFrom_append ha, show readFrom .text b.toList = _ from hb]
  rfl

/-- Markup that is put together from parts is read part by part. -/
theorem read?_join {parts : List (String × List Token)} (h : ∀ part ∈ parts, read? part.1 = some part.2) :
    read? (String.join (parts.map (·.1))) = some (parts.flatMap (·.2)) := by
  induction parts with
  | nil => rfl
  | cons part rest ih =>
    have first := h part List.mem_cons_self
    have others := ih fun other member => h other (List.mem_cons_of_mem _ member)
    simpa using read?_append first others

/-- A text without angle brackets between two of them is a tag. -/
theorem read?_tag {inside : String} (h : ∀ c ∈ inside.toList, c ≠ '<' ∧ c ≠ '>') :
    read? ("<" ++ inside ++ ">") = some [.tag inside.toList] := by
  rw [read?, String.toList_append, String.toList_append]
  exact readFrom_tag h []

end ComicScript.Markup
