import ComicScript.Proofs.Lint.Reports
import Mathlib.Data.List.Forall2

/-!
# What a script without issues keeps

In a script that lint has nothing to say about, the title, the synopsis and all entries of dialogue come into the chapter.
Some other values are dropped in silence: a boolean, a mapping or a list in the place of text, credits that are neither text
nor a number nor a list, and a layout of null rows. They are all that is lost, unless the script has a text that cannot be
written: lint has nothing to say about that either, and no chapter is read.
-/

namespace ComicScript
set_option autoImplicit false

/-! ## Texts that are not empty -/

theorem Decimal.positional_ne_nil (ds : List Char) (point : Int) : positional ds point ≠ [] := by
  unfold positional
  split
  · exact List.cons_ne_nil _ _
  · split <;> simp

theorem Decimal.isEmpty_write (style : Style) (s : Scientific) : (style.write s).isEmpty = false := by
  have around (a b c : String) (h : b ≠ "") : (a ++ b ++ c).isEmpty = false := by simp [h]
  unfold Style.write
  simp only
  split
  · simp [positional_ne_nil]
  · exact around _ _ _ (by split <;> decide)

theorem Decimal.isEmpty_doubleText (x : Float) : (doubleText x).isEmpty = false := by
  unfold doubleText
  split
  · decide
  · split <;> decide
  · simp only
    split
    · simp
    · have written := isEmpty_write Style.double (shortest ‹_›)
      simp_all

namespace Value

/-- What is put around the parts of a value is shown with them. -/
theorem isEmpty_around {α : Type} {parts : Except Crash α} {around : α → String} {shown : String}
    (h : (parts >>= fun a => .ok (around a)) = .ok shown) (visible : ∀ a, (around a).isEmpty = false) :
    shown.isEmpty = false := by
  obtain ⟨a, -, made⟩ := exists_of_bind_eq_ok h
  rw [← Except.ok.inj made, visible]

/-- A value in a collection is never shown as nothing. -/
theorem isEmpty_quoted {v : Value} {shown : String} (h : v.quoted = .ok shown) (other : ∀ s, v ≠ .str s) :
    shown.isEmpty = false := by
  cases v with
  | str s => exact absurd rfl (other s)
  | null =>
    obtain rfl := Except.ok.inj h
    decide
  | bool b =>
    obtain rfl := Except.ok.inj h
    cases b <;> decide
  | int n =>
    obtain ⟨-, rfl⟩ := Decimal.short_of_intText h
    cases n <;> simp [ToString.toString, Int.repr]
  | float x =>
    obtain rfl := Except.ok.inj h
    exact Decimal.isEmpty_doubleText x
  | list items => exact isEmpty_around h (by simp)
  | tuple items =>
    match items with
    | [] => exact isEmpty_around h (by simp)
    | [_] => exact isEmpty_around h (by simp)
    | _ :: _ :: _ => exact isEmpty_around h (by simp)
  | map entries => exact isEmpty_around h (by simp)
  | date d =>
    obtain rfl := Except.ok.inj h
    simp [Date.quoted]
  | moment m =>
    have around (a b c d : String) (named : a ≠ "") : (a ++ b ++ c ++ d).isEmpty = false := by simp [named]
    rw [← Except.ok.inj h]
    unfold Moment.quoted
    exact around _ _ _ _ (by decide)
  | bytes b =>
    obtain rfl := Except.ok.inj h
    simp [Text.quotedBytes, Text.Chars.quotedBytes]
  | set items =>
    cases items with
    | nil =>
      obtain rfl := Except.ok.inj h
      decide
    | cons item rest => exact isEmpty_around h (by simp)

/-- Only the empty text is shown as the empty text. -/
theorem isEmpty_text {v : Value} {shown : String} (h : v.text = .ok shown) (other : ∀ s, v ≠ .str s) :
    shown.isEmpty = false := by
  cases v with
  | str s => exact absurd rfl (other s)
  | date d =>
    obtain rfl := Except.ok.inj h
    simp [Date.text]
  | moment m =>
    obtain rfl := Except.ok.inj h
    simp [Moment.text]
  | _ => exact isEmpty_quoted h other

/-! ## What is there, and what is lost -/

/-- Whether there is a value: not null, not the empty text and not the empty list. -/
def isPresent : Value → Bool
  | null => false
  | str s => !s.isEmpty
  | list items => !items.isEmpty
  | _ => true

/-- Whether a value is dropped where text is expected. -/
def lostAsText : Value → Bool
  | bool _ => true
  | map _ => true
  | list items => !items.isEmpty
  | _ => false

/-- Whether a value is dropped in the place of credits, in silence. -/
def lostAsCredits : Value → Bool
  | tuple _ => true
  | date _ => true
  | moment _ => true
  | bytes _ => true
  | set _ => true
  | _ => false

/-- Whether a value is dropped in the place of a layout, in silence. -/
def lostAsLayout : Value → Bool
  | list items => !items.isEmpty && items.all isNull
  | _ => false

/-- A value is kept as text if it is there and is not dropped. -/
theorem isSome_fieldText? {v : Value} {field : Option String} (h : v.fieldText? = .ok field) :
    field.isSome = (v.isPresent && !v.lostAsText) := by
  unfold fieldText? at h
  split at h
  · cases h
    rfl
  · cases h
    rfl
  · rename_i items
    cases h
    cases items <;> rfl
  · cases h
    rfl
  · obtain ⟨shown, written, made⟩ := exists_of_bind_eq_ok h
    cases made
    cases v with
    | str s =>
      obtain rfl := Except.ok.inj written
      cases empty : s.isEmpty <;> simp [isPresent, lostAsText, empty]
    | _ =>
      have some_text := isEmpty_text written (by simp)
      simp_all [isPresent, lostAsText]

theorem isSome_wording? {v : Value} (h : v = .null ∨ ∃ s, v = .str s) : v.wording?.isSome = v.isPresent := by
  rcases h with rfl | ⟨s, rfl⟩
  · rfl
  · cases empty : s.isEmpty <;> simp [wording?, isPresent, empty]

/-- Credits that lint does not report are kept if they are there and are not dropped. -/
theorem isSome_creditsOf {v : Value} {credits : Option (List String)} (h : creditsOf v = .ok credits)
    (bool : ∀ b, v ≠ .bool b) (map : ∀ entries, v ≠ .map entries) :
    credits.isSome = (v.isPresent && !v.lostAsCredits) := by
  cases v with
  | bool b => exact absurd rfl (bool b)
  | map entries => exact absurd rfl (map entries)
  | str s =>
    cases h
    cases empty : s.isEmpty <;> simp [isPresent, lostAsCredits, empty]
  | int n =>
    obtain ⟨shown, -, made⟩ := exists_of_bind_eq_ok h
    cases made
    rfl
  | float x =>
    cases h
    rfl
  | list items =>
    cases items with
    | nil =>
      cases h
      rfl
    | cons item rest =>
      obtain ⟨names, -, made⟩ := exists_of_bind_eq_ok h
      cases made
      rfl
  | _ =>
    cases h
    rfl

/-- Rows are left out exactly if they are null. -/
theorem isEmpty_texts {items : List Value} {rows : List String} (h : texts items = .ok rows) :
    rows.isEmpty = items.all isNull := by
  induction items generalizing rows with
  | nil =>
    cases h
    rfl
  | cons v rest ih =>
    rw [List.all_cons]
    cases present : v.isNull with
    | true =>
      cases v with
      | null => exact ih h
      | _ => cases present
    | false =>
      rw [texts_cons present] at h
      obtain ⟨first, -, h⟩ := exists_of_bind_eq_ok h
      obtain ⟨others, -, h⟩ := exists_of_bind_eq_ok h
      cases h
      rfl

theorem isNull_layoutOf_scalar {v layout : Value} (h : Page.layoutOf v = .ok layout) (other : ∀ items, v ≠ .list items) :
    (!layout.isNull) = (v.isPresent && !v.lostAsText) := by
  unfold Page.layoutOf at h
  split at h
  · exact absurd rfl (other _)
  · obtain ⟨field, written, made⟩ := exists_of_bind_eq_ok h
    cases made
    rw [← isSome_fieldText? written]
    cases field <;> rfl

/-- A layout that lint can read is kept if it is there and is not dropped. -/
theorem isNull_layoutOf {v layout : Value} (h : Page.layoutOf v = .ok layout)
    (readable : v = .null ∨ ∃ source, Lint.layoutSource? v = .ok (some source)) :
    (!layout.isNull) = (v.isPresent && !v.lostAsLayout) := by
  cases v with
  | null =>
    cases h
    rfl
  | list items =>
    obtain ⟨rows, written, made⟩ := exists_of_bind_eq_ok h
    cases made
    have empty := isEmpty_texts written
    cases items with
    | nil =>
      cases written
      rfl
    | cons item rest =>
      simp only [isPresent, lostAsLayout, List.isEmpty_cons, Bool.not_false, Bool.true_and, ← empty]
      cases rows.isEmpty <;> rfl
  | str s => exact isNull_layoutOf_scalar h nofun
  | int n => exact isNull_layoutOf_scalar h nofun
  | float x => exact isNull_layoutOf_scalar h nofun
  | _ =>
    rcases readable with null | ⟨source, found⟩
    · cases null
    · cases found

/-- What is there is kept exactly if it is not lost. -/
theorem kept_iff {present lost kept : Bool} (h : kept = (present && !lost)) (there : lost = true → present = true) :
    (present = true → kept = true) ↔ lost = false := by
  subst h
  cases lost with
  | false => simp
  | true => simp [there rfl]

theorem isSome_fieldText?_iff {v : Value} {field : Option String} (h : v.fieldText? = .ok field) :
    (v.isPresent = true → field.isSome = true) ↔ v.lostAsText = false :=
  kept_iff (isSome_fieldText? h) fun lost => by cases v <;> simp_all [lostAsText, isPresent]

theorem isSome_creditsOf_iff {v : Value} {credits : Option (List String)} (h : creditsOf v = .ok credits)
    (bool : ∀ b, v ≠ .bool b) (map : ∀ entries, v ≠ .map entries) :
    (v.isPresent = true → credits.isSome = true) ↔ v.lostAsCredits = false :=
  kept_iff (isSome_creditsOf h bool map) fun lost => by cases v <;> simp_all [lostAsCredits, isPresent]

theorem isNull_layoutOf_iff {v layout : Value} (h : Page.layoutOf v = .ok layout)
    (readable : v = .null ∨ ∃ source, Lint.layoutSource? v = .ok (some source)) :
    (v.isPresent = true → layout.isNull = false) ↔ v.lostAsLayout = false := by
  rw [← Bool.not_eq_true']
  exact kept_iff (isNull_layoutOf h readable) fun lost => by cases v <;> simp_all [lostAsLayout, isPresent]

end Value

/-! ## Parts that keep what they are made of -/

/-- The texts of a panel, by their keys. -/
def Panel.texts : List (String × (Panel → Option String)) :=
  [("name", Panel.name), ("desc", Panel.desc), ("fx", Panel.fx), ("caption", Panel.caption),
    ("endCaption", Panel.endCaption)]

/-- A panel has every text that is there, and a line for each entry of dialogue. -/
structure Panel.Keeps (v : Value) (p : Panel) : Prop where
  texts : ∀ field ∈ Panel.texts, (v.get field.1).isPresent = true → (field.2 p).isSome = true
  dialogue : ∃ lines, p.dialogue = .filled lines ∧ lines.length = (v.get "dialogue").items.length

/-- A page has its name and its layout if they are there, and a panel for each that is listed, which keeps what it is made
of. -/
structure Page.Keeps (v : Value) (p : Page) : Prop where
  name : (v.get "name").isPresent = true → p.name.isSome = true
  layout : (v.get "layout").isPresent = true → p.layout.isNull = false
  panels : ∃ panels, p.panels = .filled (panels.map .filled) ∧ List.Forall₂ Panel.Keeps (v.get "panels").items panels

/-- A chapter has its title, its synopsis and its credits if they are there, and a page for each that is listed, which keeps
what it is made of. -/
structure Chapter.Keeps (v : Value) (c : Chapter) : Prop where
  title : (v.get "title").isPresent = true → c.title.isNull = false
  synopsis : (v.get "synopsis").isPresent = true → c.synopsis.isSome = true
  credits : (v.get "credits").isPresent = true → c.credits.isSome = true
  pages : ∃ pages, c.pages = .filled (pages.map .filled) ∧ List.Forall₂ Page.Keeps (v.get "pages").items pages

/-- No text of a panel is lost. -/
def Panel.Safe (v : Value) : Prop :=
  ∀ field ∈ Panel.texts, (v.get field.1).lostAsText = false

/-- Nothing of a page is lost. -/
structure Page.Safe (v : Value) : Prop where
  name : (v.get "name").lostAsText = false
  layout : (v.get "layout").lostAsLayout = false
  panels : ∀ w ∈ (v.get "panels").items, Panel.Safe w

/-- Nothing of a chapter is lost. -/
structure Chapter.Safe (v : Value) : Prop where
  credits : (v.get "credits").lostAsCredits = false
  pages : ∀ w ∈ (v.get "pages").items, Page.Safe w

/-- Parts keep what they are made of if each does, and so exactly if nothing of any of them is lost. -/
theorem forall₂_iff_forall {α : Type} {Keeps : Value → α → Prop} {Safe : Value → Prop} {items : List Value}
    {parts : List α} (h : List.Forall₂ (fun v part => Keeps v part ↔ Safe v) items parts) :
    List.Forall₂ Keeps items parts ↔ ∀ v ∈ items, Safe v := by
  induction h with
  | nil => simp
  | cons here _ ih => rw [List.forall₂_cons, here, ih, List.forall_mem_cons]

/-- Filled slots are those of the parts that keep what they are made of. -/
theorem exists_filled_iff {α : Type} {Keeps : Value → α → Prop} {Safe : Value → Prop} {items : List Value}
    {parts : List α} (h : List.Forall₂ (fun v part => Keeps v part ↔ Safe v) items parts) :
    (∃ found, Slot.filled (parts.map Slot.filled) = .filled (found.map Slot.filled) ∧ List.Forall₂ Keeps items found) ↔
      ∀ v ∈ items, Safe v := by
  rw [← forall₂_iff_forall h]
  constructor
  · rintro ⟨found, same, kept⟩
    have inj : Function.Injective (Slot.filled : α → Slot α) := fun _ _ => Slot.filled.inj
    rwa [List.map_injective_iff.2 inj (Slot.filled.inj same)]
  · exact fun kept => ⟨parts, rfl, kept⟩

/-- A panel is read from a mapping: its texts, and its lines if its dialogue is listed. -/
theorem Panel.parts_of_ofValue {path : String} {v : Value} {p : Panel} (h : ofValue path v = .ok p) :
    (∀ field ∈ texts, (v.get field.1).fieldText? = .ok (field.2 p)) ∧
    ∃ lines, Dialogue.ofItems (v.get "dialogue").items = .ok lines ∧ p.dialogue = .filled (lines.map .filled) := by
  obtain ⟨entries, mapping, parts⟩ := exists_of_bind_eq_ok h
  obtain ⟨items, listed, parts⟩ := exists_of_bind_eq_ok parts
  obtain ⟨lines, read, parts⟩ := exists_of_bind_eq_ok parts
  obtain ⟨name, named, parts⟩ := exists_of_bind_eq_ok parts
  obtain ⟨desc, seen, parts⟩ := exists_of_bind_eq_ok parts
  obtain ⟨fx, heard, parts⟩ := exists_of_bind_eq_ok parts
  obtain ⟨caption, above, parts⟩ := exists_of_bind_eq_ok parts
  obtain ⟨endCaption, below, made⟩ := exists_of_bind_eq_ok parts
  obtain rfl := Value.eq_map_of_entriesAt (eq_ok_of_mapError mapping)
  obtain rfl := Value.items_of_listAt (eq_ok_of_mapError listed)
  cases made
  refine ⟨?_, lines, eq_ok_of_mapError read, rfl⟩
  simp only [texts, List.forall_mem_cons]
  exact ⟨eq_ok_of_mapError named, eq_ok_of_mapError seen, eq_ok_of_mapError heard, eq_ok_of_mapError above,
    eq_ok_of_mapError below, fun _ member => absurd member List.not_mem_nil⟩

namespace Lint

/-! ## What lint lets pass -/

theorem report_ne_nil (code : Code) (path message : String) (hint : Option String) :
    report {} code path message hint ≠ .ok [] :=
  fun none => absurd (report_eq_nil_iff.1 none) List.not_mem_nil

/-- Errors and warnings are all the issues there are. -/
theorem eq_nil_of_messages {found : List Issue} (errors : messages .error found = [])
    (warnings : messages .warning found = []) : found = [] := by
  refine List.eq_nil_iff_forall_not_mem.2 fun i member => ?_
  have shown : i.message ∈ messages i.severity found := List.mem_map_of_mem (List.mem_filter.2 ⟨member, by simp⟩)
  cases severity : i.severity with
  | error =>
    rw [severity, errors] at shown
    cases shown
  | warning =>
    rw [severity, warnings] at shown
    cases shown

/-- Where a list is expected and nothing is reported, nothing is reported of its items. -/
theorem items_of_clean {ofItems : List Value → Findings} {code : Code} {path message : String} {v : Value}
    (absent : ofItems [] = .ok []) (clean : whereList ofItems (report {} code path message none) v = .ok []) :
    ofItems v.items = .ok [] := by
  cases v with
  | null => exact absent
  | list items => exact clean
  | _ => exact absurd clean (report_ne_nil _ _ _ _)

theorem wording_of_clean {code : Code} {name : String} {entries : List (Value × Value)}
    (clean : wordingIssues {} code name entries = .ok []) :
    Value.field name entries = .null ∨ ∃ s, Value.field name entries = .str s := by
  unfold wordingIssues at clean
  split at clean
  · rename_i null
    exact .inl null
  · rename_i s text
    exact .inr ⟨s, text⟩
  · exact absurd clean (report_ne_nil _ _ _ _)

/-- An entry of dialogue that is not reported is a line. -/
theorem line_of_clean {path : String} {v : Value} (clean : entryIssues {} path v = .ok []) {line : Option Dialogue}
    (read : Dialogue.ofValue? v = .ok line) : ∃ d, line = some d := by
  unfold entryIssues at clean
  split at clean
  · obtain ⟨key, -, read⟩ := exists_of_bind_eq_ok read
    obtain ⟨text, -, made⟩ := exists_of_bind_eq_ok read
    exact ⟨_, (Except.ok.inj made).symm⟩
  · exact absurd clean (report_ne_nil _ _ _ _)

/-- Entries of dialogue that are not reported are as many lines. -/
theorem length_lines_of_clean {path : String} {i : Nat} {items : List Value} (clean : entriesFrom {} path i items = .ok [])
    {lines : List Dialogue} (read : Dialogue.ofItems items = .ok lines) : lines.length = items.length := by
  induction items generalizing i lines with
  | nil =>
    cases read
    rfl
  | cons v rest ih =>
    obtain ⟨here, later⟩ := append_eq_nil_iff.1 clean
    obtain ⟨line, first, read⟩ := exists_of_bind_eq_ok read
    obtain ⟨others, after, made⟩ := exists_of_bind_eq_ok read
    obtain ⟨d, rfl⟩ := line_of_clean here first
    cases made
    rw [Option.toList_some, List.singleton_append, List.length_cons, List.length_cons, ih later after]

/-- A panel that lint lets pass keeps all but what is lost in silence. -/
theorem panel_of_clean {page i : Nat} {path place : String} {v : Value} (clean : panelIssues {} page i path v = .ok [])
    {p : Panel} (read : Panel.ofValue place v = .ok p) : Panel.Keeps v p ↔ Panel.Safe v := by
  obtain ⟨texts, lines, spoken, filled⟩ := Panel.parts_of_ofValue read
  cases v with
  | map entries =>
    obtain ⟨-, dialogue⟩ := append_eq_nil_iff.1 clean
    rw [dialogueIssues_eq] at dialogue
    have length := length_lines_of_clean (items_of_clean rfl dialogue) spoken
    constructor
    · intro kept field member
      exact (Value.isSome_fieldText?_iff (texts field member)).1 (kept.texts field member)
    · intro safe
      refine ⟨fun field member => ?_, lines.map .filled, filled, ?_⟩
      · exact (Value.isSome_fieldText?_iff (texts field member)).2 (safe field member)
      · rw [List.length_map, length]
        rfl
  | _ => exact absurd clean (report_ne_nil _ _ _ _)

theorem panels_of_clean {page i n : Nat} {path place : String} {items : List Value}
    (clean : panelsFrom {} page path i items = .ok []) {panels : List Panel}
    (read : Panel.listFrom place n items = .ok panels) :
    List.Forall₂ (fun v p => Panel.Keeps v p ↔ Panel.Safe v) items panels := by
  induction items generalizing i n panels with
  | nil =>
    cases read
    exact .nil
  | cons v rest ih =>
    obtain ⟨here, later⟩ := append_eq_nil_iff.1 clean
    obtain ⟨p, first, read⟩ := exists_of_bind_eq_ok read
    obtain ⟨others, after, made⟩ := exists_of_bind_eq_ok read
    cases made
    exact .cons (panel_of_clean here first) (ih later after)

theorem pagePanels_eq (page : Nat) (path : String) (v : Value) :
    (pagePanels {} page path v).1 = whereList (panelsFrom {} page path 0)
      (report {} .panelsNotList path (pageName page ++ " panels must be a list") none) v := by
  cases v <;> rfl

/-- A layout that lint lets pass is null or a source that can be read. -/
theorem layout_of_clean {page : Nat} {path : String} {count : Option Nat} {v : Value}
    (clean : layoutIssues {} page path count v = .ok []) : v = .null ∨ ∃ source, layoutSource? v = .ok (some source) := by
  unfold layoutIssues at clean
  split at clean
  · rename_i null
    cases v with
    | null => exact .inl rfl
    | _ => cases null
  · obtain ⟨source?, read, clean⟩ := exists_of_bind_eq_ok clean
    cases source? with
    | none => exact absurd clean (report_ne_nil _ _ _ _)
    | some source => exact .inr ⟨source, read⟩

/-- A page that lint lets pass keeps all but what is lost in silence. -/
theorem page_of_clean {page : Nat} {path place : String} {v : Value} (clean : pageIssues {} page path v = .ok [])
    {p : Page} (read : Page.ofValue place v = .ok p) : Page.Keeps v p ↔ Page.Safe v := by
  obtain ⟨named, drawn, items, panels, listed, decoded, filled⟩ := Page.parts_of_ofValue read
  cases v with
  | map entries =>
    obtain ⟨front, layout⟩ := append_eq_nil_iff.1 clean
    obtain ⟨-, panels_clean⟩ := append_eq_nil_iff.1 front
    have panels_clean := (pagePanels_eq page (path ++ "/panels") _).symm.trans panels_clean
    rw [← Value.items_of_listAt listed] at decoded
    have all := exists_filled_iff (panels_of_clean (items_of_clean rfl panels_clean) decoded)
    rw [← filled] at all
    have name := Value.isSome_fieldText?_iff named
    have layout_kept := Value.isNull_layoutOf_iff drawn (layout_of_clean layout)
    exact ⟨fun keeps => ⟨name.1 keeps.name, layout_kept.1 keeps.layout, all.1 keeps.panels⟩,
      fun safe => ⟨name.2 safe.name, layout_kept.2 safe.layout, all.2 safe.panels⟩⟩
  | _ => exact absurd clean (report_ne_nil _ _ _ _)

theorem pages_of_clean {i n : Nat} {items : List Value} (clean : pagesFrom {} i items = .ok []) {pages : List Page}
    (read : Page.listFrom n items = .ok pages) :
    List.Forall₂ (fun v p => Page.Keeps v p ↔ Page.Safe v) items pages := by
  induction items generalizing i n pages with
  | nil =>
    cases read
    exact .nil
  | cons v rest ih =>
    obtain ⟨here, later⟩ := append_eq_nil_iff.1 clean
    obtain ⟨p, first, read⟩ := exists_of_bind_eq_ok read
    obtain ⟨others, after, made⟩ := exists_of_bind_eq_ok read
    cases made
    exact .cons (page_of_clean here first) (ih later after)

/-- Credits that lint lets pass are neither a boolean nor a mapping. -/
theorem credits_of_clean {entries : List (Value × Value)} (clean : creditIssues {} entries = .ok []) :
    (∀ b, Value.field "credits" entries ≠ .bool b) ∧ ∀ m, Value.field "credits" entries ≠ .map m := by
  unfold creditIssues at clean
  split at clean
  · exact absurd clean (report_ne_nil _ _ _ _)
  · exact absurd clean (report_ne_nil _ _ _ _)
  · rename_i map bool
    exact ⟨bool, map⟩

/-- A chapter that lint lets pass keeps all but what is lost in silence. -/
theorem chapter_of_clean {v : Value} (clean : issues {} v = .ok []) {c : Chapter} (read : Chapter.ofValue v = .ok c) :
    Chapter.Keeps v c ↔ Chapter.Safe v := by
  obtain ⟨entries, credits, parts, rfl, credited, decoded, rfl⟩ := Chapter.parts_of_ofValue read
  obtain ⟨front, pages⟩ := append_eq_nil_iff.1 clean
  obtain ⟨front, credits_clean⟩ := append_eq_nil_iff.1 front
  obtain ⟨front, synopsis⟩ := append_eq_nil_iff.1 front
  obtain ⟨-, title⟩ := append_eq_nil_iff.1 front
  have listed : whereList (pagesFrom {} 0) (report {} .pagesNotList "/pages" "pages must be a list" none)
      (Value.field "pages" entries) = .ok [] := by
    revert pages
    cases Value.field "pages" entries <;> exact id
  have titled : (Value.field "title" entries).isPresent = true →
      (((Value.field "title" entries).wording?.map Value.str).getD .null).isNull = false := by
    rw [← Value.isSome_wording? (wording_of_clean title), Option.isSome_iff_exists]
    rintro ⟨s, found⟩
    rw [found]
    rfl
  have summed : (Value.field "synopsis" entries).isPresent = true →
      (Value.field "synopsis" entries).wording?.isSome = true := by
    rw [← Value.isSome_wording? (wording_of_clean synopsis)]
    exact id
  have named : ((Value.field "credits" entries).isPresent = true → (credits.map (·.map some)).isSome = true) ↔
      (Value.field "credits" entries).lostAsCredits = false := by
    obtain ⟨bool, map⟩ := credits_of_clean credits_clean
    rw [Option.isSome_map]
    exact Value.isSome_creditsOf_iff credited bool map
  have all := exists_filled_iff (pages_of_clean (items_of_clean rfl listed) decoded)
  exact ⟨fun keeps => ⟨named.1 keeps.credits, all.1 keeps.pages⟩,
    fun safe => ⟨titled, summed, named.2 safe.credits, all.2 safe.pages⟩⟩

/-- **What a clean script keeps.** A script that lint finds neither errors nor warnings in is a chapter, if all that decoding
writes can be written; else decoding crashes. The chapter keeps all that is there exactly if nothing in the script is of the
kinds that are lost in silence: a boolean, a mapping or a list that is not empty in the place of text, a tuple, a set, bytes
or a time in the place of credits, and a layout of null rows. -/
theorem keeps_iff_safe {v : Value} {found : List Issue} (made : issues {} v = .ok found)
    (errors : messages .error found = []) (warnings : messages .warning found = []) :
    ((∀ n ∈ Chapter.written v, Decimal.Short n) →
      ∃ c, Chapter.ofValue v = .ok c ∧ (Chapter.Keeps v c ↔ Chapter.Safe v)) ∧
    ((∃ n ∈ Chapter.written v, ¬ Decimal.Short n) → Chapter.ofValue v = .error (.crashed .tooManyDigits)) := by
  have accepted := not_refused_of_no_errors made errors
  obtain rfl := eq_nil_of_messages errors warnings
  have writes := Chapter.writes_ofValue v
  refine ⟨fun short => ?_, fun long => (writes.crashed_iff accepted).2 ⟨rfl, long⟩⟩
  cases read : Chapter.ofValue v with
  | ok c => exact ⟨c, rfl, chapter_of_clean made read⟩
  | error stop =>
    cases stop with
    | refused e => exact absurd read (accepted e)
    | crashed c =>
      obtain ⟨-, n, member, long⟩ := writes.long c read
      exact absurd (short n member) long

/-- A script with one panel that has a caption. -/
def captioned (caption : Value) : Value :=
  .map [(.str "pages", .list [.map [(.str "panels", .list [.map [(.str "caption", caption)]])]])]

/-- A number in the place of a caption is kept as its text. -/
theorem keeps_number_as_caption : issues {} (captioned (.int 7)) = .ok [] ∧
    (∀ n ∈ Chapter.written (captioned (.int 7)), Decimal.Short n) ∧
    ∃ c, Chapter.ofValue (captioned (.int 7)) = .ok c ∧ Chapter.Keeps (captioned (.int 7)) c := by
  have clean : issues {} (captioned (.int 7)) = .ok [] := rfl
  have short : ∀ n ∈ Chapter.written (captioned (.int 7)), Decimal.Short n := by
    intro n member
    obtain rfl := List.mem_singleton.1 member
    exact Nat.lt_of_lt_of_le (by decide) (Nat.le_self_pow (by decide) 10)
  obtain ⟨c, read, kept⟩ := (keeps_iff_safe clean rfl rfl).1 short
  refine ⟨clean, short, c, read, kept.2 ⟨rfl, fun page listed => ?_⟩⟩
  obtain rfl := List.mem_singleton.1 listed
  refine ⟨rfl, rfl, fun panel listed => ?_⟩
  obtain rfl := List.mem_singleton.1 listed
  unfold Panel.Safe
  decide

/-- A boolean in the place of a caption is lost, and lint has nothing to say about it. -/
theorem not_keeps_boolean_as_caption : issues {} (captioned (.bool false)) = .ok [] ∧
    ∃ c, Chapter.ofValue (captioned (.bool false)) = .ok c ∧ ¬ Chapter.Keeps (captioned (.bool false)) c := by
  refine ⟨rfl, _, rfl, fun kept => ?_⟩
  obtain ⟨pages, same, listed⟩ := kept.pages
  obtain ⟨page, _, whole, none, rfl⟩ := List.forall₂_cons_left_iff.1 listed
  cases none
  cases same
  obtain ⟨panels, same, listed⟩ := whole.panels
  obtain ⟨panel, _, whole, none, rfl⟩ := List.forall₂_cons_left_iff.1 listed
  cases none
  cases same
  have caption : ("caption", Panel.caption) ∈ Panel.texts := .tail _ (.tail _ (.tail _ (.head _)))
  exact absurd (whole.texts _ caption rfl) Bool.false_ne_true

end Lint

end ComicScript
