import ComicScript.Output.Suite
import ComicScript.Proofs.Lint.Reports
import ComicScript.Proofs.Markup.Diagram
import ComicScript.Proofs.Preview.Rendered
import ComicScript.Session

/-!
# Layouts never abort a render

In sizes that fit, the diagram beside a page is a whole drawing whatever its layout is, unless the layout has a line that
cannot be written. Loaded layouts are text, so only a text that is no script keeps a script from being rendered. A loaded
layout can be read; its diagram is refused only for want of room.
-/

namespace ComicScript
set_option autoImplicit false

namespace Diagram

/-- Whether the layout of a page is refused, so that a placeholder says so in its place. -/
def Refused (cfg : Config) (p : Page) : Prop :=
  p.layout.isNull = false ∧ ∃ e, ofSource cfg p.layout = .error (.refused e)

theorem pageDiagram_of_refused {cfg : Config} {p : Page} (h : Refused cfg p) :
    Preview.pageDiagram cfg (some (.filled p)) = placeholder cfg badLayout := by
  obtain ⟨present, e, failed⟩ := h
  simp only [Preview.pageDiagram, present, failed, Bool.false_eq_true, if_false]

theorem ofSource_of_parse {cfg : Config} {source : Value} {l : Layout} (h : Layout.parse source = .ok l) :
    ofSource cfg source = draw cfg l := by
  rw [ofSource, h]
  rfl

/-- There is no room exactly if one of the sizes is at most the margins. -/
theorem hasRoom_eq_false_iff {cfg : Config} : hasRoom cfg = false ↔
    (cfg.width.atMost (2 * margin) = true ∨ cfg.height.atMost (2 * margin) = true) := by
  rw [hasRoom, Bool.not_eq_false', Bool.or_eq_true]

theorem footprints_ne_nil_iff {l : Layout} : l.footprints ≠ [] ↔ l.isEmpty = false := by
  rw [Layout.isEmpty, ← Bool.not_eq_true, List.isEmpty_iff]

/-- What is drawn without being refused is not refused. -/
theorem ne_refused_of_mapError {drawing : Except Crash String} {e : LayoutError} :
    (drawing.mapError Stop.crashed : Except (Stop LayoutError) String) ≠ .error (.refused e) := by
  intro h
  obtain ⟨c, -, reason⟩ := eq_error_of_mapError h
  cases reason

section Fits

variable {cfg : Config} (fits : cfg.Fits)
include fits

/-- A layout that was read is refused exactly if it has panels and there is no room for them. -/
theorem ofSource_refused_iff {source : Value} {l : Layout} (h : Layout.parse source = .ok l) :
    (∃ e, ofSource cfg source = .error (.refused e)) ↔
      l.footprints ≠ [] ∧ (cfg.width.atMost (2 * margin) = true ∨ cfg.height.atMost (2 * margin) = true) := by
  rw [ofSource_of_parse h, footprints_ne_nil_iff, ← hasRoom_eq_false_iff]
  cases empty : l.isEmpty with
  | true =>
    rw [draw_of_isEmpty empty]
    refine iff_of_false ?_ (fun both => Bool.noConfusion both.1)
    rintro ⟨e, refused⟩
    exact ne_refused_of_mapError refused
  | false =>
    cases room : hasRoom cfg with
    | true =>
      rw [draw_of_hasRoom h empty room]
      refine iff_of_false ?_ (fun both => Bool.noConfusion both.2)
      rintro ⟨e, refused⟩
      exact ne_refused_of_mapError refused
    | false =>
      obtain ⟨width, across⟩ := fits.width.exists_text
      obtain ⟨height, down⟩ := fits.height.exists_text
      rw [draw_of_not_hasRoom empty room, across, down]
      exact iff_of_true ⟨_, rfl⟩ ⟨rfl, rfl⟩

/-- The layout of a loaded page is refused exactly if it has panels and there is no room for them. -/
theorem refused_iff {p : Page} (h : p.Loaded) :
    Refused cfg p ↔ ∃ l, Layout.parse p.layout = .ok l ∧ l.footprints ≠ [] ∧
      (cfg.width.atMost (2 * margin) = true ∨ cfg.height.atMost (2 * margin) = true) := by
  obtain ⟨v, source⟩ := h
  rw [Refused]
  cases null : p.layout.isNull with
  | true =>
    have unreadable : Layout.parse .null = .error (.refused (.notGrid "NoneType")) := rfl
    rw [Svg.eq_null_of_isNull null, unreadable]
    simp
  | false =>
    obtain ⟨l, parsed⟩ := Page.exists_parse_layoutOf source null
    rw [ofSource_refused_iff fits parsed, parsed]
    simp

/-- A loaded page whose layout is not refused has the diagram of its layout beside it, or a placeholder that says that it has
none. -/
theorem pageDiagram_of_not_refused {p : Page} (loaded : p.Loaded) (h : ¬ Refused cfg p) :
    Preview.pageDiagram cfg (some (.filled p)) = placeholder cfg noLayout ∨
      ∃ l cellWidth cellHeight, Layout.parse p.layout = .ok l ∧
        (cfg.width.less (2 * margin)).part l.width.toNat = .ok cellWidth ∧
        (cfg.height.less (2 * margin)).part l.height.toNat = .ok cellHeight ∧
        Preview.pageDiagram cfg (some (.filled p)) =
          Svg.document cfg.width.value cfg.height.value (elements cfg l cellWidth cellHeight) := by
  obtain ⟨v, source⟩ := loaded
  cases null : p.layout.isNull with
  | true =>
    left
    simp only [Preview.pageDiagram, null, if_true]
  | false =>
    obtain ⟨l, parsed⟩ := Page.exists_parse_layoutOf source null
    have content : contentOf cfg (some (.filled p)) = layoutContent cfg l := by
      simp only [contentOf, null, parsed, Bool.false_eq_true, if_false]
    rw [pageDiagram_eq, content, layoutContent]
    cases empty : l.isEmpty with
    | true => exact .inl rfl
    | false =>
      cases room : hasRoom cfg with
      | true =>
        obtain ⟨cellWidth, cellHeight, across, down, -⟩ := panelsDrawing_eq fits room parsed empty
        refine .inr ⟨l, cellWidth, cellHeight, parsed, across, down, ?_⟩
        rw [elements_eq (label_of_parse parsed)]
        change panelsDrawing cfg l = _
        rw [panelsDrawing, across, down]
        rfl
      | false =>
        have refused : Refused cfg p := ⟨null, (ofSource_refused_iff fits parsed).2
          ⟨footprints_ne_nil_iff.2 empty, hasRoom_eq_false_iff.1 room⟩⟩
        exact absurd refused h

/-- The diagram beside a page is a whole drawing, if all the lines that are no text can be written. -/
theorem exists_elements {slot : Option (Slot Page)}
    (h : ∀ p line, slot = some (.filled p) → Layout.FirstStray p.layout line → line.Writable) :
    ∃ es, (∀ e ∈ es, Markup.Known e) ∧
      Preview.pageDiagram cfg slot = .ok (Svg.documentText cfg.width.value cfg.height.value es) := by
  obtain ⟨svg, made⟩ := (exists_pageDiagram_iff fits).2 h
  obtain ⟨es, known, -, rfl⟩ := Markup.exists_elements_of_pageDiagram made
  exact ⟨es, known, made⟩

/-- A first line that is no text and cannot be written is a crash. -/
theorem pageDiagram_of_stray {p : Page} {line : Value} (stray : Layout.FirstStray p.layout line) (long : ¬ line.Writable) :
    Preview.pageDiagram cfg (some (.filled p)) = .error .tooManyDigits :=
  (pageDiagram_error_iff fits).2 ⟨p, rfl, Layout.parse_crashed_iff.2 ⟨rfl, line, stray, long⟩⟩

end Fits

end Diagram

/-- The number of panels in the index of a suite is a number, or nothing for a page without a layout. -/
theorem Suite.layoutCount_of_loaded {p : Page} (h : p.Loaded) :
    (p.layout.isNull = true ∧ layoutCount p = .ok "") ∨
      ∃ l, Layout.parse p.layout = .ok l ∧ layoutCount p = .ok (toString l.footprints.length) := by
  obtain ⟨v, source⟩ := h
  rw [layoutCount]
  cases null : p.layout.isNull with
  | true => exact .inl ⟨rfl, rfl⟩
  | false =>
    obtain ⟨l, parsed⟩ := Page.exists_parse_layoutOf source null
    refine .inr ⟨l, parsed, ?_⟩
    simp [parsed]

/-- A chapter that was read from a text is that of some value. -/
theorem Script.exists_ofValue_of_parse {source raw : String} {c : Chapter} (h : (parse source raw).outcome = .ok c) :
    ∃ v, Chapter.ofValue v = .ok c := by
  obtain ⟨entries, -, read⟩ := exists_of_bind_eq_ok h
  exact ⟨.map entries, read⟩

/-- In sizes that fit every loaded chapter is rendered. -/
theorem Snapshot.exists_ofChapter {cfg : Config} (fits : cfg.Fits) {v : Value} {c : Chapter}
    (h : Chapter.ofValue v = .ok c) (raw : String) : ∃ s, ofChapter cfg raw c = .ok s := by
  obtain ⟨html, made⟩ := Preview.exists_ofChapter fits h false
  exact ⟨_, by rw [ofChapter, made]; rfl⟩

/-- In sizes that fit only a text that is no script cannot be rendered, and for the same reason. -/
theorem Snapshot.build_error_iff {cfg : Config} (fits : cfg.Fits) (source raw : String) (e : Stop ScriptError) :
    (build cfg source raw).outcome = .error e ↔ (Script.parse source raw).outcome = .error e := by
  change ((Script.parse source raw).outcome >>= fun c => liftM (ofChapter cfg raw c)) = .error e ↔ _
  cases read : (Script.parse source raw).outcome with
  | error stop =>
    change (Except.error stop : Except (Stop ScriptError) Snapshot) = .error e ↔ _
    rw [Except.error.injEq, Except.error.injEq]
  | ok c =>
    obtain ⟨v, decoded⟩ := Script.exists_ofValue_of_parse read
    obtain ⟨s, made⟩ := exists_ofChapter fits decoded raw
    change (liftM (ofChapter cfg raw c) : Except (Stop ScriptError) Snapshot) = .error e ↔ _
    rw [made]
    exact iff_of_false nofun nofun

/-- **Layouts never abort a render.** In sizes that fit a text is rendered unless it cannot be read as a script, and then for
the same reason. Beside every page, whatever it is, stands a whole drawing, unless the first line of its layout that is no
text cannot be written; and every layout that can be read can be drawn but for want of room. The pages of a loaded script
are well formed; a layout that one of them has can be read; its diagram is refused exactly if it has panels and there is no
room inside the margins; the index of a suite has its number of panels; and lint never finds an unreadable layout. -/
theorem layouts_never_abort {cfg : Config} (fits : cfg.Fits) :
    (∀ source raw e, (Snapshot.build cfg source raw).outcome = .error e ↔
      (Script.parse source raw).outcome = .error e) ∧
    (∀ slot, (∀ p line, slot = some (.filled p) → Layout.FirstStray p.layout line → line.Writable) →
      ∃ es, (∀ e ∈ es, Markup.Known e) ∧
        Preview.pageDiagram cfg slot = .ok (Svg.documentText cfg.width.value cfg.height.value es)) ∧
    (∀ p line, Layout.FirstStray p.layout line → ¬ line.Writable →
      Preview.pageDiagram cfg (some (.filled p)) = .error .tooManyDigits) ∧
    (∀ source l, Layout.parse source = .ok l → l.Sound) ∧
    (∀ v c, Chapter.ofValue v = .ok c → ∀ slot ∈ c.pageList, ∃ p, slot = .filled p ∧
      (p.layout.isNull = false → ∃ l, Layout.parse p.layout = .ok l) ∧
      (Diagram.Refused cfg p ↔ ∃ l, Layout.parse p.layout = .ok l ∧ l.footprints ≠ [] ∧
        (cfg.width.atMost (2 * margin) = true ∨ cfg.height.atMost (2 * margin) = true)) ∧
      (Diagram.Refused cfg p → Preview.pageDiagram cfg (some slot) = Diagram.placeholder cfg Diagram.badLayout) ∧
      (¬ Diagram.Refused cfg p → Preview.pageDiagram cfg (some slot) = Diagram.placeholder cfg Diagram.noLayout ∨
        ∃ l cellWidth cellHeight, Layout.parse p.layout = .ok l ∧
          (cfg.width.less (2 * margin)).part l.width.toNat = .ok cellWidth ∧
          (cfg.height.less (2 * margin)).part l.height.toNat = .ok cellHeight ∧ Preview.pageDiagram cfg (some slot) =
            Svg.document cfg.width.value cfg.height.value (Diagram.elements cfg l cellWidth cellHeight)) ∧
      ((p.layout.isNull = true ∧ Suite.layoutCount p = .ok "") ∨
        ∃ l, Layout.parse p.layout = .ok l ∧ Suite.layoutCount p = .ok (toString l.footprints.length))) ∧
    ∀ lint v found, Lint.issues lint v = .ok found → ∀ issue ∈ found, issue.code ≠ .layoutInvalid := by
  refine ⟨Snapshot.build_error_iff fits, fun slot => Diagram.exists_elements fits,
    fun p line => Diagram.pageDiagram_of_stray fits, fun _ _ => Layout.sound_of_parse, ?_, ?_⟩
  · intro v c decoded slot member
    obtain ⟨n, page⟩ := List.getElem?_of_mem member
    obtain ⟨p, -, rfl, loaded, -⟩ := Chapter.filled_of_ofValue decoded page
    refine ⟨p, rfl, ?_, Diagram.refused_iff fits loaded, Diagram.pageDiagram_of_refused,
      Diagram.pageDiagram_of_not_refused fits loaded, Suite.layoutCount_of_loaded loaded⟩
    obtain ⟨w, source⟩ := loaded
    exact Page.exists_parse_layoutOf source
  · intro lint v found made issue member
    exact (Lint.proper_issues made issue member).2

/-- A loaded page with a row of two panels: its layout is read and is not refused where there is room. -/
theorem layouts_never_abort_row :
    let p : Page := ⟨none, .str "AB", .filled []⟩
    let c : Chapter := ⟨.null, none, none, .filled [.filled p]⟩
    Config.Fits {} ∧ Chapter.ofValue (.map [(.str "pages", .list [.map [(.str "layout", .str "AB")]])]) = .ok c ∧
      (∃ l, Layout.parse p.layout = .ok l ∧ l.Sound) ∧ ¬ Diagram.Refused {} p := by
  intro p c
  have decoded : Chapter.ofValue (.map [(.str "pages", .list [.map [(.str "layout", .str "AB")]])]) = .ok c := rfl
  obtain ⟨-, -, -, sound, pages, -⟩ := layouts_never_abort Config.fits_default
  obtain ⟨q, same, read, refused, -⟩ := pages _ c decoded (.filled p) List.mem_cons_self
  obtain rfl : p = q := Slot.filled.inj same
  obtain ⟨l, parsed⟩ := read rfl
  refine ⟨Config.fits_default, decoded, ⟨l, parsed, sound _ l parsed⟩, fun failed => ?_⟩
  obtain ⟨-, -, -, crowded⟩ := refused.1 failed
  rcases crowded with across | down
  · exact absurd across (by decide)
  · exact absurd down (by decide)

/-- A page without a layout has nothing that can be read as one. -/
theorem parse_layout_of_bare_page :
    ∃ c p e, Chapter.ofValue (.map [(.str "pages", .list [.map []])]) = .ok c ∧ .filled p ∈ c.pageList ∧
      Layout.parse p.layout = .error e :=
  ⟨⟨.null, none, none, .filled [.filled ⟨none, .null, .filled []⟩]⟩, ⟨none, .null, .filled []⟩,
    .refused (.notGrid "NoneType"), rfl, List.mem_cons_self, rfl⟩

end ComicScript
