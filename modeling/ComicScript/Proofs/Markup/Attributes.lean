import ComicScript.Proofs.Markup.Elements
import ComicScript.Proofs.Text.CanonicalSpacing
import Mathlib.Data.List.Forall2

/-!
# Reading attributes back

A tag is taken apart at its double quotes: what stands between two of them is a value, and before it stands a space, a name
and an equals sign. An element of a drawing, read so, has exactly the attributes that it was given and that are not null, in
their order, and every value is read as what it was to say, whatever characters it has. Only an integer of too many digits
keeps an element from being written.
-/

namespace ComicScript.Markup
set_option autoImplicit false
open Svg (Element Attribute attributeName attributeValue attributes attributesText contentText elementText insideOf present valueText
  written)

/-! ## Escaped text -/

/-- A text has no angle bracket, no quote, and no ampersand but one that begins an entity. -/
structure Escaped (s : List Char) : Prop where
  clean : ∀ c ∈ s, c ∉ ['<', '>', '"', '\'']
  entity : ∀ a b, s = a ++ '&' :: b → ∃ e ∈ entities, e.1.toList ++ [';'] <+: b

/-- An escaped text is read as the characters of another. -/
structure Writes (plain written : List Char) : Prop where
  escaped : Escaped written
  read : readFrom .text written = some (plain.map .char)

namespace Escaped

theorem nil : Escaped [] :=
  ⟨by simp, fun a b cut => by simp at cut⟩

/-- An ampersand of a joined text is one of either part. -/
theorem append {s t : List Char} (hs : Escaped s) (ht : Escaped t) : Escaped (s ++ t) := by
  refine ⟨fun c member => (List.mem_append.1 member).elim (hs.clean c) (ht.clean c), fun a b cut => ?_⟩
  rcases List.append_eq_append_iff.1 cut with ⟨between, rfl, inside⟩ | ⟨between, rfl, inside⟩
  · exact ht.entity between b inside
  · cases between with
    | nil => exact ht.entity [] b inside.symm
    | cons c rest =>
      obtain ⟨rfl, rfl⟩ : '&' = c ∧ b = rest ++ t := by simpa using inside
      obtain ⟨e, known, found⟩ := hs.entity a rest rfl
      exact ⟨e, known, found.trans (List.prefix_append rest t)⟩

/-- A character without a meaning in markup. -/
theorem singleton {c : Char} (h : c ∉ ['<', '>', '"', '\'', '&']) : Escaped [c] := by
  refine ⟨fun d member => ?_, fun a b cut => ?_⟩
  · obtain rfl := List.mem_singleton.1 member
    exact fun special => h (List.mem_append_left ['&'] special)
  · obtain ⟨-, rfl, -⟩ : a = [] ∧ '&' = c ∧ b = [] := by simpa [List.singleton_eq_append_iff] using cut
    exact absurd (by decide) h

/-- The entity of a character. -/
theorem ofEntity : ∀ e ∈ entities, Escaped ('&' :: (e.1.toList ++ [';'])) := by
  have letters : ∀ e ∈ entities, ('&' :: (e.1.toList ++ [';'])).Forall (· ∉ ['<', '>', '"', '\'']) := by decide
  have once : ∀ e ∈ entities, '&' ∉ e.1.toList ++ [';'] := by decide
  intro e known
  refine ⟨List.forall_iff_forall_mem.1 (letters e known), fun a b cut => ?_⟩
  cases a with
  | nil => exact ⟨e, known, by simpa using (List.cons.inj cut).2 ▸ List.prefix_refl _⟩
  | cons d rest =>
    refine absurd ?_ (once e known)
    rw [(List.cons.inj cut).2]
    exact List.mem_append_right _ List.mem_cons_self

end Escaped

/-- A character is written as its entity, or as it is where it has no meaning in markup. -/
theorem svgChar_eq (c : Char) :
    (∃ e ∈ entities, e.2 = c ∧ Text.Chars.svgChar c = '&' :: (e.1.toList ++ [';'])) ∨
      (c ∉ ['<', '>', '"', '\'', '&'] ∧ Text.Chars.svgChar c = [c]) := by
  unfold Text.Chars.svgChar Text.Chars.htmlChar
  split
  · exact .inl ⟨("quot", '"'), by decide, by simp_all, rfl⟩
  · split
    · exact .inl ⟨("apos", '\''), by decide, by simp_all, rfl⟩
    · split
      · exact .inl ⟨("amp", '&'), by decide, by simp_all, rfl⟩
      · split
        · exact .inl ⟨("lt", '<'), by decide, by simp_all, rfl⟩
        · split
          · exact .inl ⟨("gt", '>'), by decide, by simp_all, rfl⟩
          · exact .inr ⟨by simp_all, rfl⟩

theorem escaped_flatMap_svgChar (s : List Char) : Escaped (s.flatMap Text.Chars.svgChar) := by
  induction s with
  | nil => exact .nil
  | cons c rest ih =>
    rw [List.flatMap_cons]
    refine Escaped.append ?_ ih
    rcases svgChar_eq c with ⟨e, known, -, written⟩ | ⟨plain, written⟩
    · exact written ▸ .ofEntity e known
    · exact written ▸ .singleton plain

/-- The text of a drawing is written so that it is read as the collapsed text. -/
theorem writes_escapeSvg (s : String) : Writes (Text.collapse s).toList (Text.escapeSvg s).toList := by
  refine ⟨?_, read?_escapeSvg s⟩
  rw [Text.escapeSvg, String.toList_ofList, Text.Chars.escapeSvg_eq_flatMap]
  exact escaped_flatMap_svgChar _

/-! ## Names and values -/

/-- A name of letters, digits and underscores: it has no other character of ASCII. -/
def IsIdentifier (name : String) : Prop :=
  ∀ c ∈ name.toList, c.isAlphanum = true ∨ c = '_' ∨ 128 ≤ c.toNat

instance (name : String) : Decidable (IsIdentifier name) :=
  List.decidableBAll (fun c : Char => c.isAlphanum = true ∨ c = '_' ∨ 128 ≤ c.toNat) name.toList

/-- What a value of an attribute says: a number as a drawing shows numbers, anything else its text on one line. -/
def said : Value → Except Crash String
  | .int n => Decimal.intText n
  | .float x => .ok (Decimal.roundedText x)
  | v => do return Text.collapse (← v.text)

/-- A name and a value in a tag are those of an attribute: the name without the underscores at its end and with dashes for
the others, and a value that is read as what it says. -/
structure Tells (a : Attribute) (found : List Char × List Char) : Prop where
  name : ∃ kept count, a.1.toList = kept ++ List.replicate count '_' ∧ kept.getLast? ≠ some '_' ∧
    found.1 = kept.map fun c => if c = '_' then '-' else c
  value : ∃ s, said a.2 = .ok s ∧ Writes s.toList found.2

theorem exists_of_attributeName (name : String) :
    ∃ kept count, name.toList = kept ++ List.replicate count '_' ∧ kept.getLast? ≠ some '_' ∧
      (attributeName name).toList = kept.map fun c => if c = '_' then '-' else c := by
  have underscores : name.toList.reverse.takeWhile (· == '_') =
      List.replicate (name.toList.reverse.takeWhile (· == '_')).length '_' :=
    List.eq_replicate_of_mem fun c member => by simpa using List.all_eq_true.1 List.all_takeWhile c member
  refine ⟨(name.toList.reverse.dropWhile (· == '_')).reverse, (name.toList.reverse.takeWhile (· == '_')).length, ?_, ?_,
    String.toList_ofList⟩
  · rw [← List.reverse_replicate, ← underscores, ← List.reverse_append, List.takeWhile_append_dropWhile,
      List.reverse_reverse]
  · intro last
    have kept := List.head?_dropWhile_not (· == '_') name.toList.reverse
    rw [List.getLast?_reverse] at last
    rw [last] at kept
    cases kept

/-- A number has no blanks to be collapsed and no character with an entity. -/
theorem writes_of_isNumeral {s : String} (h : ∀ c ∈ s.toList, Decimal.isNumeral c = true) : Writes s.toList s.toList := by
  have collapsed : Text.collapse s = s := Text.collapse_eq_self fun c member => Decimal.isBlank_of_isNumeral (h c member)
  have other : entities.all (fun e => !Decimal.isNumeral e.2) = true := by decide
  have each : ∀ c ∈ s.toList, Text.Chars.svgChar c = [c] := by
    intro c member
    rcases svgChar_eq c with ⟨e, known, rfl, -⟩ | ⟨-, same⟩
    · have special := List.all_eq_true.1 other e known
      rw [h e.2 member] at special
      cases special
    · exact same
  have same : Text.escapeSvg s = s := by
    rw [← String.toList_inj, Text.escapeSvg, String.toList_ofList, Text.Chars.escapeSvg_eq_flatMap,
      ← String.toList_ofList (l := Text.Chars.collapse s.toList), ← Text.collapse, collapsed, List.flatMap_congr each,
      List.flatMap_singleton']
  have whole := writes_escapeSvg s
  rwa [collapsed, same] at whole

/-- A value that is written says something, and is read as that. -/
theorem exists_said {v : Value} {s : String} (h : attributeValue v = .ok s) :
    ∃ text, said v = .ok text ∧ Writes text.toList s.toList := by
  by_cases whole : ∃ n, v = .int n
  · obtain ⟨n, rfl⟩ := whole
    exact ⟨s, h, writes_of_isNumeral (isNumeral_of_mem_intText h)⟩
  · by_cases double : ∃ x, v = .float x
    · obtain ⟨x, rfl⟩ := double
      cases h
      exact ⟨_, rfl, writes_of_isNumeral fun c => Decimal.isNumeral_of_mem_roundedText⟩
    · unfold attributeValue at h
      split at h
      · exact absurd ⟨_, rfl⟩ whole
      · exact absurd ⟨_, rfl⟩ double
      · obtain ⟨text, given, same⟩ := exists_of_bind_eq_ok h
        rw [← Except.ok.inj same]
        refine ⟨Text.collapse text, ?_, writes_escapeSvg text⟩
        unfold said
        split
        · exact absurd ⟨_, rfl⟩ whole
        · exact absurd ⟨_, rfl⟩ double
        · rw [given]
          rfl

/-! ## Tags -/

/-- A tag, taken apart: its name, its attributes as they are written, and whether it closes itself. -/
structure Tag where
  name : List Char
  attributes : List (List Char × List Char)
  closed : Bool
  deriving DecidableEq

/-- The name that stands between a space and an equals sign. -/
def nameIn? : List Char → Option (List Char)
  | ' ' :: rest => if rest.getLast? = some '=' then some rest.dropLast else none
  | _ => none

/-- The attributes in the pieces between double quotes, and the piece behind the last of them. -/
def attributesIn? : List (List Char) → Option (List (List Char × List Char) × List Char)
  | [] => none
  | [final] => some ([], final)
  | lead :: value :: rest =>
    (nameIn? lead).bind fun name => (attributesIn? rest).map fun found => ((name, value) :: found.1, found.2)

/-- Whether a tag closes itself, by what stands behind its attributes. -/
def closes? (final : List Char) : Option Bool :=
  match final.dropWhile (· == ' ') with
  | [] => some false
  | ['/'] => some true
  | _ => none

/-- Takes apart what stands between two angle brackets. -/
def Tag.read? (inside : List Char) : Option Tag :=
  (attributesIn? ((inside.dropWhile (· != ' ')).splitOn '"')).bind fun found =>
    (closes? found.2).map fun closed => ⟨inside.takeWhile (· != ' '), found.1, closed⟩

example : Tag.read? "rect x=\"1\" fill=\"a &lt; b\"/".toList =
    some ⟨"rect".toList, [("x".toList, "1".toList), ("fill".toList, "a &lt; b".toList)], true⟩ := by decide

theorem nameIn?_lead (name : List Char) : nameIn? (' ' :: name ++ ['=']) = some name := by
  have last : (name ++ ['=']).getLast? = some '=' := by simp
  rw [List.cons_append, nameIn?, if_pos last, List.dropLast_concat]

/-- Text without the quote goes into the first piece. -/
theorem splitOn_quote {lead : List Char} (h : '"' ∉ lead) (rest : List Char) :
    (lead ++ '"' :: rest).splitOn '"' = lead :: rest.splitOn '"' := by
  have whole : lead.splitOn '"' = [lead] := List.splitOnP_eq_singleton fun c member => by
    rw [beq_eq_false_iff_ne]
    exact ne_of_mem_of_not_mem member h
  have cut := List.splitOnP_append_cons (p := (· == '"')) lead rest (show ('"' == '"') = true from BEq.rfl)
  rwa [← List.splitOn_eq_splitOnP, ← List.splitOn_eq_splitOnP, ← List.splitOn_eq_splitOnP, whole] at cut

/-- Attributes as they are written, each after a space. -/
def spaced (found : List (List Char × List Char)) : List Char :=
  found.flatMap fun a => ' ' :: a.1 ++ '=' :: '"' :: a.2 ++ ['"']

theorem attributesIn?_spaced {found : List (List Char × List Char)} (clean : ∀ a ∈ found, '"' ∉ a.1 ∧ '"' ∉ a.2)
    {final : List Char} (ending : '"' ∉ final) :
    attributesIn? ((spaced found ++ final).splitOn '"') = some (found, final) := by
  induction found with
  | nil =>
    have whole : final.splitOn '"' = [final] := List.splitOnP_eq_singleton fun c member => by
      rw [beq_eq_false_iff_ne]
      exact ne_of_mem_of_not_mem member ending
    rw [spaced, List.flatMap_nil, List.nil_append, whole, attributesIn?]
  | cons a rest ih =>
    obtain ⟨name, value⟩ := clean a List.mem_cons_self
    have lead : '"' ∉ ' ' :: a.1 ++ ['='] := by simpa using name
    have cut : spaced (a :: rest) ++ final =
        (' ' :: a.1 ++ ['=']) ++ '"' :: (a.2 ++ '"' :: (spaced rest ++ final)) := by simp [spaced]
    rw [cut, splitOn_quote lead, splitOn_quote value, attributesIn?, nameIn?_lead,
      ih fun b member => clean b (List.mem_cons_of_mem _ member)]
    rfl

/-! ## Elements -/

/-- The names and values of the attributes that are not null, as they are written. -/
def given (as : List Attribute) : List (List Char × List Char) :=
  (present as).map fun a => ((attributeName a.1).toList, (valueText a.2).toList)

/-- Every attribute that is not null is written so that it is read as what it is. -/
theorem tells_given {as : List Attribute} (h : ∀ a ∈ as, a.2.Writable) : List.Forall₂ Tells (present as) (given as) := by
  rw [given, List.forall₂_map_right_iff, List.forall₂_same]
  intro a member
  constructor <;> dsimp only
  · exact exists_of_attributeName a.1
  · obtain ⟨s, shown⟩ := (Svg.needsShort_attributeValue a.2).ok (h a (List.mem_filter.1 member).1)
    rw [Svg.valueText_of_ok shown]
    exact exists_said shown

/-- Behind a space, the attributes stand each after a space; without attributes there is nothing behind it. -/
theorem space_attributesText (as : List Attribute) :
    ' ' :: (attributesText as).toList = if present as = [] then [' '] else spaced (given as) := by
  have each (a : Attribute) : (written a).toList =
      (attributeName a.1).toList ++ '=' :: '"' :: (valueText a.2).toList ++ ['"'] := by
    simp [written]
  rw [attributesText, String.toList_intercalate, given]
  cases present as with
  | nil => rfl
  | cons a rest =>
    rw [List.map_cons, List.map_cons, show " ".toList = [' '] from rfl, Text.Chars.intercalate_space_cons]
    simp [spaced, each, List.flatMap_map, Function.comp_def]

theorem plain_attributeName {name : String} (h : IsIdentifier name) : Plain (attributeName name).toList := by
  obtain ⟨kept, count, whole, -, same⟩ := exists_of_attributeName name
  rw [same]
  intro c member special
  obtain ⟨d, inside, rfl⟩ := List.mem_map.1 member
  have letter := h d (whole ▸ List.mem_append_left _ inside)
  split at special
  · exact absurd special (by decide)
  · have marks : ∀ e ∈ specials, ¬ (e.isAlphanum = true ∨ e = '_' ∨ 128 ≤ e.toNat) :=
      List.forall_iff_forall_mem.1 (by decide)
    exact marks d special letter

section Read

variable {as : List Attribute} (names : ∀ a ∈ as, IsIdentifier a.1)
include names

theorem clean_given : ∀ a ∈ given as, '"' ∉ a.1 ∧ '"' ∉ a.2 := by
  intro found member
  obtain ⟨a, shown, rfl⟩ := List.mem_map.1 member
  have quote : '"' ∈ specials := by decide
  dsimp only
  exact ⟨fun inside => plain_attributeName (names a (List.mem_filter.1 shown).1) _ inside quote,
    fun inside => (valueText_value a.2 _ inside).2.2 rfl⟩

/-- The tag of an element, taken apart. -/
theorem Tag.read?_inside {name final : List Char} (lead : ' ' ∉ name) (ending : final = [] ∨ final = ['/']) :
    Tag.read? (name ++ ' ' :: (attributesText as).toList ++ final) = some ⟨name, given as, !final.isEmpty⟩ := by
  have front : ∀ c ∈ name, (c != ' ') = true := fun c member => by simpa using ne_of_mem_of_not_mem member lead
  have unquoted : '"' ∉ final := by rcases ending with rfl | rfl <;> decide
  have taken : (name ++ ' ' :: (attributesText as).toList ++ final).takeWhile (· != ' ') = name := by
    rw [List.append_assoc, List.takeWhile_append_of_pos front]
    simp
  have dropped : (name ++ ' ' :: (attributesText as).toList ++ final).dropWhile (· != ' ') =
      ' ' :: (attributesText as).toList ++ final := by
    rw [List.append_assoc, List.dropWhile_append_of_pos front]
    simp
  rw [Tag.read?, taken, dropped, space_attributesText]
  split
  · -- without attributes the space behind the name is all that is left
    rename_i none
    have bare : given as = [] := by rw [given, none, List.map_nil]
    have behind : '"' ∉ ' ' :: final := by simpa using unquoted
    rw [show [' '] ++ final = spaced [] ++ ' ' :: final from rfl, attributesIn?_spaced (by simp) behind, bare]
    rcases ending with rfl | rfl <;> rfl
  · rw [attributesIn?_spaced (clean_given names) unquoted]
    rcases ending with rfl | rfl <;> rfl

end Read

/-- A tag has a name, and the attributes that are not null, in their order; it closes itself or not. -/
def TagOf (name : String) (closed : Bool) (as : List Attribute) (inside : List Char) : Prop :=
  ∃ found, Tag.read? inside = some ⟨name.toList, found, closed⟩ ∧ List.Forall₂ Tells (present as) found

theorem tagOf_inside {as : List Attribute} (names : ∀ a ∈ as, IsIdentifier a.1) (values : ∀ a ∈ as, a.2.Writable)
    (name final : String) (lead : ' ' ∉ name.toList) (ending : final.toList = [] ∨ final.toList = ['/']) :
    TagOf name (!final.toList.isEmpty) as (name ++ " " ++ attributesText as ++ final).toList := by
  have same : (name ++ " " ++ attributesText as ++ final).toList =
      name.toList ++ ' ' :: (attributesText as).toList ++ final.toList := by simp
  exact ⟨given as, same ▸ Tag.read?_inside names lead ending, tells_given values⟩

/-- **The elements of a drawing are read back.** A box and the beginning of a group are one tag, and a label is a tag, its
text and the closing tag, whatever the values of its attributes and its text are. Between double quotes the tag has exactly
the attributes that are not null, in their order: a name without the underscores at its end and with dashes for the others,
and a value that is read as what it says. The values and the text have no angle bracket, no quote and no ampersand but one
that begins an entity. Nothing is written just if a value or the text has an integer of more digits than a numeral may
have. -/
theorem elements_read_back {as : List Attribute} (names : ∀ a ∈ as, IsIdentifier a.1) (content : Value) :
    ((∀ a ∈ as, a.2.Writable) →
      (∃ s inside, (Element.rect as).render = .ok s ∧ read? s = some [.tag inside] ∧ TagOf "rect" true as inside) ∧
      (∃ s inside, (Element.openGroup as).render = .ok s ∧ read? s = some [.tag inside] ∧ TagOf "g" false as inside) ∧
      (content.Writable → ∃ text s inside written, content.text = .ok text ∧ (Element.text content as).render = .ok s ∧
        s = String.ofList ('<' :: inside ++ '>' :: written ++ "</text>".toList) ∧
        read? s = some (.tag inside :: (Text.collapse text).toList.map .char ++ [.tag "/text".toList]) ∧
        TagOf "text" false as inside ∧ Writes (Text.collapse text).toList written)) ∧
    ((∃ a ∈ as, ¬ a.2.Writable) → (Element.rect as).render = .error .tooManyDigits ∧
      (Element.openGroup as).render = .error .tooManyDigits ∧ (Element.text content as).render = .error .tooManyDigits) ∧
    (¬ content.Writable → (Element.text content as).render = .error .tooManyDigits) := by
  have plain : ∀ name ∈ as.map (·.1), Plain (attributeName name).toList := by
    intro name member
    obtain ⟨a, inside, rfl⟩ := List.mem_map.1 member
    exact plain_attributeName (names a inside)
  refine ⟨fun values => ⟨?_, ?_, fun said => ?_⟩, ?_, ?_⟩
  · have written := Svg.render_eq_ok (e := .rect as) (List.forall_mem_map.2 values)
    exact ⟨_, (insideOf (.rect as)).toList, written, read?_elementText plain,
      tagOf_inside names values "rect" "/" (by decide) (.inr rfl)⟩
  · have written := Svg.render_eq_ok (e := .openGroup as) (List.forall_mem_map.2 values)
    have tag := tagOf_inside names values "g" "" (by decide) (.inl rfl)
    rw [String.append_empty] at tag
    exact ⟨_, (insideOf (.openGroup as)).toList, written, read?_elementText plain, tag⟩
  · obtain ⟨text, shown⟩ := said.exists_text
    have content_text : contentText content = text := Svg.contentText_of_ok shown
    have written := Svg.render_eq_ok (e := .text content as)
      (List.forall_mem_append.2 ⟨List.forall_mem_map.2 values, by simpa using said⟩)
    have tag := tagOf_inside names values "text" "" (by decide) (.inl rfl)
    rw [String.append_empty] at tag
    refine ⟨text, _, (insideOf (.text content as)).toList, (Text.escapeSvg text).toList, shown, written, ?_, ?_, tag,
      writes_escapeSvg text⟩
    · rw [elementText, Svg.behindOf, content_text, ← String.toList_inj]
      simp
    · rw [read?_elementText (e := .text content as) plain, tokensOf, content_text]
  · rintro ⟨a, member, long⟩
    have value : a.2 ∈ as.map (·.2) := List.mem_map_of_mem member
    exact ⟨Value.crash_of_not_writable (Svg.needsShort_render (.rect as)) value long,
      Value.crash_of_not_writable (Svg.needsShort_render (.openGroup as)) value long,
      Value.crash_of_not_writable (Svg.needsShort_render (.text content as)) (List.mem_append_left _ value) long⟩
  · exact Value.crash_of_not_writable (Svg.needsShort_render (.text content as))
      (List.mem_append_right _ List.mem_cons_self)

/-- A label with quotes, brackets and line ends in its values, one value missing and underscores in its names. -/
theorem elements_read_back_label :
    let as : List Attribute :=
      [("text_anchor", .str "a \"b\""), ("x", .null), ("class_", .str " <c>\n&amp; 'd' "), ("y", .float 0.5)]
    (∀ a ∈ as, IsIdentifier a.1) ∧ (present as).map (·.1) = ["text_anchor", "class_", "y"] ∧
      ∃ s inside written, (Element.text (.str "\t<1 & 2>") as).render = .ok s ∧
        read? s = some (.tag inside :: "<1 & 2>".toList.map .char ++ [.tag "/text".toList]) ∧
        TagOf "text" false as inside ∧ Writes "<1 & 2>".toList written := by
  intro as
  have names : ∀ a ∈ as, IsIdentifier a.1 := by decide
  have values : ∀ a ∈ as, a.2.Writable := by simp [as, Value.Writable, Value.integers]
  have content : (Text.collapse "\t<1 & 2>").toList = "<1 & 2>".toList := by decide
  obtain ⟨rendered, -⟩ := elements_read_back names (.str "\t<1 & 2>")
  obtain ⟨-, -, label⟩ := rendered values
  obtain ⟨text, s, inside, written, same, shown, -, read, tag, escaped⟩ := label (by simp [Value.Writable, Value.integers])
  obtain rfl : "\t<1 & 2>" = text := Except.ok.inj same
  rw [content] at read escaped
  exact ⟨names, rfl, s, inside, written, shown, read, tag, escaped⟩

/-- A box at a place of too many digits is not written, and an underscore at the beginning of a name is a dash as well. -/
theorem rect_at_long_integer :
    (∀ a ∈ [("x", Value.int (10 ^ Decimal.maxDigits))], IsIdentifier a.1) ∧
      (Element.rect [("x", .int (10 ^ Decimal.maxDigits))]).render = .error .tooManyDigits ∧
      (Element.rect [("_x", .str "1")]).render = .ok "<rect -x=\"1\"/>" := by
  have names : ∀ a ∈ [("x", Value.int (10 ^ Decimal.maxDigits))], IsIdentifier a.1 := by
    intro a member
    obtain rfl := List.mem_singleton.1 member
    decide
  have failed (n : ℤ) (long : ¬ Decimal.Short n) : (Element.rect [("x", .int n)]).render = .error .tooManyDigits :=
    (Svg.needsShort_render _).crash ⟨n, List.mem_cons_self, long⟩
  exact ⟨names, failed _ Decimal.not_short_ten_pow, by decide⟩

end ComicScript.Markup
