import ComicScript.Proofs.Crash
import ComicScript.Proofs.Layout.Sound
import ComicScript.Script.Decode

/-!
# The pages of loaded scripts

A chapter that is read from a script has a list of pages, none of them malformed, and the layout of each is null or a text
or rows of text, so it can be read.
-/

namespace ComicScript
set_option autoImplicit false

namespace Value

/-- The value of a text key of a mapping, null if there is none. -/
def get (name : String) : Value → Value
  | map entries => field name entries
  | _ => null

/-- The items of a list; anything else has none. -/
def items : Value → List Value
  | list items => items
  | _ => []

theorem eq_map_of_entriesAt {path : String} {v : Value} {entries : List (Value × Value)}
    (h : v.entriesAt path = .ok entries) : v = .map entries := by
  cases v with
  | map _ =>
    cases h
    rfl
  | _ => cases h

theorem items_of_listAt {path : String} {v : Value} {listed : List Value} (h : v.listAt path = .ok listed) :
    v.items = listed := by
  cases v with
  | null =>
    cases h
    rfl
  | list _ =>
    cases h
    rfl
  | _ => cases h

end Value

/-- Items of one list have different places. -/
theorem itemPath_inj {path : String} {m n : Nat} (h : itemPath path m = itemPath path n) : m = n := by
  have digits := congrArg String.toList ((String.append_right_inj _).1 h)
  simp only [Nat.toString_eq_ofList_toDigits, String.toList_ofList] at digits
  simpa using congrArg (fun ds => Nat.ofDigitChars 10 ds 0) digits

/-- Each panel of a list is read from a mapping of its own. -/
theorem Panel.mappings_of_listFrom {path : String} {i : Nat} {items : List Value} {panels : List Panel}
    (h : listFrom path i items = .ok panels) :
    panels.length = items.length ∧ ∀ v ∈ items, ∃ entries, v = .map entries := by
  induction items generalizing i panels with
  | nil =>
    cases h
    exact ⟨rfl, fun v member => nomatch member⟩
  | cons v rest ih =>
    obtain ⟨first, here, h⟩ := exists_of_bind_eq_ok h
    obtain ⟨others, later, h⟩ := exists_of_bind_eq_ok h
    obtain ⟨entries, mapping, -⟩ := exists_of_bind_eq_ok here
    obtain ⟨length, all⟩ := ih later
    cases h
    have first_map := Value.eq_map_of_entriesAt (eq_ok_of_mapError mapping)
    exact ⟨congrArg (· + 1) length, List.forall_mem_cons.2 ⟨⟨entries, first_map⟩, all⟩⟩

namespace Layout

theorem lineTexts_map_str (n : Nat) (rows : List String) : lineTexts n (rows.map .str) = .ok (rows.map String.toList) := by
  induction rows generalizing n with
  | nil => rfl
  | cons row rest ih =>
    rw [List.map_cons, lineTexts, ih]
    rfl

end Layout

namespace Page

/-- The layout of a page is null, a text or rows of text. -/
theorem layoutOf_cases {v layout : Value} (h : layoutOf v = .ok layout) :
    layout = .null ∨ (∃ s, layout = .str s) ∨ ∃ rows : List String, layout = .list (rows.map .str) := by
  unfold layoutOf at h
  split at h
  · obtain ⟨rows, -, made⟩ := exists_of_bind_eq_ok h
    obtain rfl := Except.ok.inj made
    split
    · exact .inl rfl
    · exact .inr (.inr ⟨rows, rfl⟩)
  · obtain ⟨field, -, made⟩ := exists_of_bind_eq_ok h
    obtain rfl := Except.ok.inj made
    cases field with
    | none => exact .inl rfl
    | some s => exact .inr (.inl ⟨s, rfl⟩)

/-- Every layout that is not null can be read. -/
theorem exists_parse_layoutOf {v layout : Value} (h : layoutOf v = .ok layout) (present : layout.isNull = false) :
    ∃ l, Layout.parse layout = .ok l := by
  rcases layoutOf_cases h with rfl | ⟨s, rfl⟩ | ⟨rows, rfl⟩
  · cases present
  · exact ⟨_, rfl⟩
  · rw [Layout.parse, Layout.linesOf, Layout.lineTexts_map_str]
    exact ⟨_, rfl⟩

/-- A page whose layout was read from a script. -/
def Loaded (p : Page) : Prop :=
  ∃ v, layoutOf v = .ok p.layout

/-- A page is read from a mapping: its name, its layout, and its panels if they are listed. -/
theorem parts_of_ofValue {path : String} {v : Value} {p : Page} (h : ofValue path v = .ok p) :
    (v.get "name").fieldText? = .ok p.name ∧ layoutOf (v.get "layout") = .ok p.layout ∧
    ∃ items panels, (v.get "panels").listAt (path ++ "/panels") = .ok items ∧
      Panel.listFrom (path ++ "/panels") 0 items = .ok panels ∧ p.panels = .filled (panels.map .filled) := by
  obtain ⟨entries, mapping, parts⟩ := exists_of_bind_eq_ok h
  obtain ⟨items, listed, parts⟩ := exists_of_bind_eq_ok parts
  obtain ⟨name, named, parts⟩ := exists_of_bind_eq_ok parts
  obtain ⟨layout, drawn, parts⟩ := exists_of_bind_eq_ok parts
  obtain ⟨panels, read, made⟩ := exists_of_bind_eq_ok parts
  obtain rfl := Value.eq_map_of_entriesAt (eq_ok_of_mapError mapping)
  cases made
  exact ⟨eq_ok_of_mapError named, eq_ok_of_mapError drawn, items, panels, eq_ok_of_mapError listed, read, rfl⟩

theorem loaded_of_ofValue {path : String} {v : Value} {p : Page} (h : ofValue path v = .ok p) : p.Loaded :=
  ⟨_, (parts_of_ofValue h).2.1⟩

theorem loaded_of_listFrom {i : Nat} {items : List Value} {pages : List Page} (h : listFrom i items = .ok pages) :
    ∀ p ∈ pages, p.Loaded := by
  induction items generalizing i pages with
  | nil =>
    cases h
    exact fun p member => nomatch member
  | cons v rest ih =>
    obtain ⟨first, here, h⟩ := exists_of_bind_eq_ok h
    obtain ⟨others, later, h⟩ := exists_of_bind_eq_ok h
    cases h
    intro p member
    rcases List.mem_cons.1 member with rfl | tail
    · exact loaded_of_ofValue here
    · exact ih later p tail

/-- Each page of a list is read from its own item. -/
theorem getElem?_of_listFrom {i k : Nat} {items : List Value} {pages : List Page} (h : listFrom i items = .ok pages)
    {p : Page} (page : pages[k]? = some p) :
    ∃ v, items[k]? = some v ∧ ofValue (itemPath "/pages" (i + k)) v = .ok p := by
  induction items generalizing i k pages with
  | nil =>
    cases h
    cases page
  | cons v rest ih =>
    obtain ⟨first, here, h⟩ := exists_of_bind_eq_ok h
    obtain ⟨others, later, h⟩ := exists_of_bind_eq_ok h
    cases h
    cases k with
    | zero =>
      obtain rfl := Option.some.inj page
      exact ⟨v, rfl, here⟩
    | succ k =>
      obtain ⟨w, listed, read⟩ := ih later page
      rw [Nat.add_right_comm, Nat.add_assoc] at read
      exact ⟨w, listed, read⟩

end Page

namespace Chapter

/-- Loaded pages: a list without malformed ones. -/
theorem pages_of_ofEntries {entries : List (Value × Value)} {c : Chapter} (h : ofEntries entries = .ok c) :
    ∃ pages : List Page, c.pages = .filled (pages.map .filled) ∧ ∀ p ∈ pages, p.Loaded := by
  obtain ⟨items, -, h⟩ := exists_of_bind_eq_ok h
  obtain ⟨credits, -, h⟩ := exists_of_bind_eq_ok h
  obtain ⟨pages, listed, h⟩ := exists_of_bind_eq_ok h
  cases h
  exact ⟨pages, rfl, Page.loaded_of_listFrom listed⟩

/-- A chapter is read from a mapping: its title, its synopsis, its credits, and its pages if they are listed. -/
theorem parts_of_ofValue {v : Value} {c : Chapter} (h : ofValue v = .ok c) : ∃ entries credits pages,
    v = .map entries ∧ creditsOf (v.get "credits") = .ok credits ∧ Page.listFrom 0 (v.get "pages").items = .ok pages ∧
    c = ⟨((v.get "title").wording?.map .str).getD .null, (v.get "synopsis").wording?, credits.map (·.map some),
      .filled (pages.map .filled)⟩ := by
  obtain ⟨entries, mapping, parts⟩ := exists_of_bind_eq_ok h
  obtain ⟨items, listed, parts⟩ := exists_of_bind_eq_ok parts
  obtain ⟨credits, credited, parts⟩ := exists_of_bind_eq_ok parts
  obtain ⟨pages, read, made⟩ := exists_of_bind_eq_ok parts
  obtain rfl := Value.eq_map_of_entriesAt (eq_ok_of_mapError mapping)
  rw [← Value.items_of_listAt (eq_ok_of_mapError listed)] at read
  exact ⟨entries, credits, pages, rfl, eq_ok_of_mapError credited, read, (Except.ok.inj made).symm⟩

/-- A page of a loaded script is read from the item of its number. -/
theorem page_of_ofValue {v : Value} {c : Chapter} (h : ofValue v = .ok c) {k : Nat} {p : Page}
    (page : c.pageList[k]? = some (.filled p)) :
    ∃ w, (v.get "pages").items[k]? = some w ∧ Page.ofValue (itemPath "/pages" k) w = .ok p := by
  obtain ⟨entries, credits, pages, -, -, read, rfl⟩ := parts_of_ofValue h
  obtain ⟨q, found, same⟩ := Option.map_eq_some_iff.1 ((List.getElem?_map ..).symm.trans page)
  obtain rfl := Slot.filled.inj same
  have own := Page.getElem?_of_listFrom read found
  rwa [Nat.zero_add] at own

/-- The pages of a loaded chapter are pages, and their panels are listed. -/
theorem filled_of_ofValue {v : Value} {c : Chapter} (h : ofValue v = .ok c) {n : Nat} {slot : Slot Page}
    (page : c.pageList[n]? = some slot) : ∃ p panels, slot = .filled p ∧ p.Loaded ∧ p.panels = .filled panels := by
  obtain ⟨entries, -, read⟩ := exists_of_bind_eq_ok h
  obtain ⟨pages, listed, loaded⟩ := pages_of_ofEntries read
  have member := List.mem_of_getElem? page
  rw [pageList, listed] at member
  obtain ⟨p, inside, rfl⟩ := List.mem_map.1 member
  obtain ⟨w, -, decoded⟩ := page_of_ofValue h page
  obtain ⟨-, -, -, panels, -, -, filled⟩ := Page.parts_of_ofValue decoded
  exact ⟨p, _, rfl, loaded p inside, filled⟩

end Chapter

end ComicScript
