import ComicScript.Proofs.Lint.Reports

/-!
# The layouts of pages

Decoding and lint turn the value of a layout into text each on its own. Where lint reads a layout at all, both read the same
grid, so lint compares the panels of the diagram with those of the page. But decoding keeps the text of any scalar, and lint
reads only text, numbers and lists: a day or a time, bytes, a set and a tuple are drawn in the preview and refused by lint.
-/

namespace ComicScript
set_option autoImplicit false

/-- The number of panels in the diagram of a page: none without a layout, else those of the layout. -/
inductive Page.Draws (p : Page) : Nat → Prop
  | nothing : p.layout.isNull = true → Page.Draws p 0
  | panels (l : Layout) : p.layout.isNull = false → Layout.parse p.layout = .ok l → Page.Draws p l.footprints.length

/-- Whether a value is kept as a layout by its text, although lint reads no layout from it. -/
def Value.refusedAsLayout : Value → Bool
  | tuple _ => true
  | date _ => true
  | moment _ => true
  | bytes _ => true
  | set _ => true
  | _ => false

namespace Lint

/-! ## One value, read twice -/

/-- Of the values that are kept as a layout, lint reads none from those that it refuses. -/
theorem layoutSource?_eq_none_iff {v layout : Value} (made : Page.layoutOf v = .ok layout) (kept : layout.isNull = false) :
    layoutSource? v = .ok none ↔ v.refusedAsLayout = true := by
  have read (h : ∃ source, layoutSource? v = .ok (some source)) : layoutSource? v ≠ .ok none := by
    obtain ⟨source, found⟩ := h
    rw [found]
    exact nofun
  cases v with
  | null =>
    obtain rfl := Except.ok.inj made
    cases kept
  | bool b =>
    obtain rfl := Except.ok.inj made
    cases kept
  | map entries =>
    obtain rfl := Except.ok.inj made
    cases kept
  | str s => exact iff_of_false (read ⟨_, rfl⟩) Bool.false_ne_true
  | float x => exact iff_of_false (read ⟨_, rfl⟩) Bool.false_ne_true
  | int n =>
    refine iff_of_false (fun none => ?_) Bool.false_ne_true
    obtain ⟨text, -, none⟩ := exists_of_bind_eq_ok none
    cases none
  | list items =>
    refine iff_of_false (fun none => ?_) Bool.false_ne_true
    obtain ⟨rows, -, none⟩ := exists_of_bind_eq_ok none
    cases none
  | _ => exact iff_of_true rfl rfl

/-- Without rows there are no panels. -/
theorem footprints_ofLines_of_keptLines {lines : List (List Char)} (none : Layout.keptLines lines = []) :
    (Layout.ofLines lines).footprints = [] := by
  simp [Layout.ofLines, none, Layout.tokensOfGrid, Layout.footprintsOf]

/-- A layout of one text draws the panels that are read from the text; the empty text is no layout, and has none. -/
theorem draws_text {p : Page} {s : String} {l : Layout}
    (kept : p.layout = ((if s.isEmpty then none else some s).map Value.str).getD .null)
    (parsed : Layout.parse (.str s) = .ok l) : p.Draws l.footprints.length := by
  cases empty : s.isEmpty with
  | true =>
    obtain rfl := String.isEmpty_iff.1 empty
    cases parsed
    rw [footprints_ofLines_of_keptLines (by decide)]
    exact .nothing (by rw [kept]; rfl)
  | false =>
    rw [empty] at kept
    exact .panels l (by rw [kept]; rfl) (by rw [kept]; exact parsed)

/-- A text or a number is kept as a layout by its text. -/
theorem layout_of_text {v : Value} {s : String} {layout : Value} (scalar : v.fieldText? = (v.text >>= fun text =>
    .ok (if text.isEmpty then none else some text))) (other : ∀ items, v ≠ .list items) (shown : v.text = .ok s)
    (kept : Page.layoutOf v = .ok layout) : layout = ((if s.isEmpty then none else some s).map Value.str).getD .null := by
  unfold Page.layoutOf at kept
  split at kept
  · exact absurd rfl (other _)
  · rw [scalar, shown] at kept
    exact (Except.ok.inj kept).symm

/-- The diagram of a page has as many panels as lint reads from the value of the layout. -/
theorem draws_of_layoutSource {p : Page} {v source : Value} {l : Layout} (kept : Page.layoutOf v = .ok p.layout)
    (read : layoutSource? v = .ok (some source)) (parsed : Layout.parse source = .ok l) :
    p.Draws l.footprints.length := by
  cases v with
  | str s =>
    cases read
    exact draws_text (layout_of_text rfl (by nofun) rfl kept) parsed
  | int n =>
    obtain ⟨text, shown, made⟩ := exists_of_bind_eq_ok read
    cases made
    exact draws_text (layout_of_text rfl (by nofun) shown kept) parsed
  | float x =>
    cases read
    exact draws_text (layout_of_text rfl (by nofun) rfl kept) parsed
  | list items =>
    obtain ⟨rows, shown, made⟩ := exists_of_bind_eq_ok read
    cases made
    obtain ⟨rows', shown', layout⟩ := exists_of_bind_eq_ok kept
    obtain rfl : rows = rows' := Except.ok.inj (shown.symm.trans shown')
    replace layout := Except.ok.inj layout
    split at layout
    · rename_i none
      rw [List.isEmpty_iff.1 none] at parsed
      cases parsed
      rw [footprints_ofLines_of_keptLines rfl]
      exact .nothing (by rw [← layout]; rfl)
    · exact .panels l (by rw [← layout]; rfl) (by rw [← layout]; exact parsed)
  | _ => cases read

/-- The panels that lint counts on a page that was decoded are all that it lists. -/
theorem listedPanels_of_listFrom {path : String} {v : Value} {items : List Value} {panels : List Panel} {i : Nat}
    (present : v.isNull = false) (listed : v.listAt path = .ok items) (read : Panel.listFrom path i items = .ok panels) :
    listedPanels v = some panels.length := by
  obtain ⟨length, mappings⟩ := Panel.mappings_of_listFrom read
  have all : items.countP isMapping = items.length := by
    refine List.countP_eq_length.2 fun item member => ?_
    obtain ⟨entries, rfl⟩ := mappings item member
    rfl
  cases v with
  | null => cases present
  | list _ =>
    cases listed
    rw [listedPanels, all, length]
  | _ => cases listed

/-! ## What is reported -/

theorem layoutFound_of_isNull {cfg : Config} {w : Value} (null : (w.get "layout").isNull = true) (k : Nat) :
    layoutFound cfg k w = noIssues := by
  rw [layoutFound, layoutIssues, null]
  rfl

theorem layoutFound_of_unread {cfg : Config} {w : Value} (present : (w.get "layout").isNull = false)
    (unread : layoutSource? (w.get "layout") = .ok none) (k : Nat) : layoutFound cfg k w =
      report cfg .layoutBadType (layoutPath k) (pageName k ++ " layout must be a string or a list of rows") none := by
  rw [layoutFound, layoutIssues, present, unread]
  rfl

theorem layoutFound_of_parse {cfg : Config} {w source : Value} {l : Layout}
    (read : layoutSource? (w.get "layout") = .ok (some source)) (parsed : Layout.parse source = .ok l) (k : Nat) :
    layoutFound cfg k w = parsedIssues cfg k (layoutPath k) (listedPanels (w.get "panels")) l := by
  have present : (w.get "layout").isNull = false := by
    cases layout : w.get "layout" with
    | null =>
      rw [layout] at read
      cases read
    | _ => rfl
  simp only [layoutFound, layoutIssues, present, read, Bool.false_eq_true, if_false, bind, Except.bind, parsed]

/-- Lint refuses the layout of a page: it has an error about it. -/
def RefusesLayout (v : Value) (page : Nat) : Prop :=
  ∃ found, issues {} v = .ok found ∧
    (issuesAt .layoutBadType (layoutPath page) found ≠ [] ∨ issuesAt .layoutInvalid (layoutPath page) found ≠ [])

/-- A layout is refused if it is there and none is read from it. -/
theorem refusesLayout_iff {v w : Value} {k : Nat} (listed : (v.get "pages").items[k]? = some w) {found : List Issue}
    (made : issues {} v = .ok found) :
    RefusesLayout v k ↔ (w.get "layout").isNull = false ∧ layoutSource? (w.get "layout") = .ok none := by
  have readable : issuesAt .layoutInvalid (layoutPath k) found = [] :=
    ((coded_issues v).elsewhere (by decide)).issuesAt_eq_nil made
  have refuses : RefusesLayout v k ↔ issuesAt .layoutBadType (layoutPath k) found ≠ [] := by
    constructor
    · rintro ⟨other, same, errors⟩
      obtain rfl := Except.ok.inj (made.symm.trans same)
      exact errors.resolve_right fun invalid => invalid readable
    · exact fun bad => ⟨found, made, .inl bad⟩
  obtain ⟨own, here, same⟩ := @reports_issues {} .layoutBadType (by decide) v w k listed found made
  rw [refuses, same]
  cases null : (w.get "layout").isNull with
  | true =>
    rw [layoutFound_of_isNull null] at here
    cases here
    simp [issuesAt]
  | false =>
    cases read : layoutSource? (w.get "layout") with
    | error c =>
      rw [layoutFound, layoutIssues, null, read] at here
      cases here
    | ok source? =>
      cases source? with
      | none =>
        rw [layoutFound_of_unread null read] at here
        rw [Each.issuesAt_eq_self (.report ⟨rfl, rfl⟩) here, ne_nil_iff_of_report here]
        simp
      | some source =>
        obtain ⟨l, parsed⟩ := exists_parse_layoutSource read
        rw [layoutFound_of_parse read parsed] at here
        rw [((coded_parsedIssues _ _ _ _).elsewhere (by decide)).issuesAt_eq_nil here]
        simp

theorem ofValue_of_listed {v w : Value} {c : Chapter} (decoded : Chapter.ofValue v = .ok c) {k : Nat} {p : Page}
    (page : c.pageList[k]? = some (.filled p)) (listed : (v.get "pages").items[k]? = some w) :
    Page.ofValue (itemPath "/pages" k) w = .ok p := by
  obtain ⟨own, found, read⟩ := Chapter.page_of_ofValue decoded page
  rw [listed] at found
  rwa [Option.some.inj found]

/-- A script of one page with a layout and panels. -/
def laidOut (layout : Value) (panels : List Value) : Value :=
  .map [(.str "pages", .list [.map [(.str "layout", layout), (.str "panels", .list panels)]])]

/-- **Layouts that are kept and refused.** Of the pages of a loaded script that keep a layout, lint refuses exactly those
whose layout is written as a tuple, a day or a time, bytes or a set, if it comes to an end at all. -/
theorem refusesLayout_iff_of_kept {v w : Value} {c : Chapter} (decoded : Chapter.ofValue v = .ok c) {k : Nat} {p : Page}
    (page : c.pageList[k]? = some (.filled p)) (listed : (v.get "pages").items[k]? = some w)
    (kept : p.layout.isNull = false) : RefusesLayout v k ↔
      (w.get "layout").refusedAsLayout = true ∧ ∃ found, issues {} v = .ok found := by
  obtain ⟨-, layout, -⟩ := Page.parts_of_ofValue (ofValue_of_listed decoded page listed)
  have present : (w.get "layout").isNull = false := by
    cases written : w.get "layout" with
    | null =>
      rw [written] at layout
      rw [← Except.ok.inj layout] at kept
      cases kept
    | _ => rfl
  constructor
  · intro refused
    have refused' := refused
    obtain ⟨found, made, -⟩ := refused'
    exact ⟨(layoutSource?_eq_none_iff layout kept).1 ((refusesLayout_iff listed made).1 refused).2, found, made⟩
  · rintro ⟨other, found, made⟩
    exact (refusesLayout_iff listed made).2 ⟨present, (layoutSource?_eq_none_iff layout kept).2 other⟩

/-- A row of digits loads as a number: it is kept and accepted. -/
theorem accepts_number_as_layout : ∃ c p, Chapter.ofValue (laidOut (.int 112) []) = .ok c ∧
    c.pageList[0]? = some (.filled p) ∧ p.layout = .str "112" ∧ ¬ RefusesLayout (laidOut (.int 112) []) 0 := by
  refine ⟨_, _, rfl, rfl, rfl, ?_⟩
  rw [refusesLayout_iff_of_kept rfl rfl rfl rfl]
  rintro ⟨refused, -⟩
  cases refused

/-- A row of digits and dashes can load as a day: it is kept and refused, and with it the script. -/
theorem refuses_day_as_layout : ∃ c p found, Chapter.ofValue (laidOut (.date ⟨2024, 5, 6⟩) []) = .ok c ∧
    c.pageList[0]? = some (.filled p) ∧ p.layout = .str "2024-05-06" ∧ RefusesLayout (laidOut (.date ⟨2024, 5, 6⟩) []) 0 ∧
    issues {} (laidOut (.date ⟨2024, 5, 6⟩) []) = .ok found ∧
    messages .error found = ["page 1 layout must be a string or a list of rows"] :=
  ⟨_, _, _, rfl, rfl, rfl, (refusesLayout_iff rfl rfl).2 ⟨rfl, rfl⟩, rfl, rfl⟩

/-- **Counted panels.** Lint comes to an end exactly if what it writes can be written. Then, for a page of a loaded script
with panels and a layout that lint does not refuse, a mismatch is reported exactly if the panels of its diagram are not as
many as its panels; the report is one issue, which gives the two numbers. -/
theorem panelCountMismatch_eq {v w : Value} {c : Chapter} (decoded : Chapter.ofValue v = .ok c) {k : Nat} {p : Page}
    (page : c.pageList[k]? = some (.filled p)) (listed : (v.get "pages").items[k]? = some w)
    (layout : (w.get "layout").isNull = false) (panels : (w.get "panels").isNull = false) :
    ((∃ found, issues {} v = .ok found) ↔ ∀ n ∈ written v, Decimal.Short n) ∧
    ∀ found, issues {} v = .ok found → ¬ RefusesLayout v k →
      ∃ drawn parts, p.Draws drawn ∧ p.panels = .filled parts ∧
        issuesAt .layoutPanelCountMismatch (layoutPath k) found =
          if drawn = parts.length then []
          else [⟨.warning, .layoutPanelCountMismatch, pageName k ++ " layout has " ++ toString drawn ++
            " panel(s) but the script has " ++ toString parts.length, layoutPath k, none⟩] := by
  refine ⟨(needsShort_issues {} v).ok_iff, fun found made accepted => ?_⟩
  obtain ⟨-, kept, items, parts, items_listed, read, filled⟩ :=
    Page.parts_of_ofValue (ofValue_of_listed decoded page listed)
  obtain ⟨own, here, same⟩ := @reports_issues {} .layoutPanelCountMismatch (by decide) v w k listed found made
  cases source : layoutSource? (w.get "layout") with
  | error c =>
    rw [layoutFound, layoutIssues, layout, source] at here
    cases here
  | ok source? =>
    cases source? with
    | none => exact absurd ((refusesLayout_iff listed made).2 ⟨layout, source⟩) accepted
    | some text =>
      obtain ⟨l, parsed⟩ := exists_parse_layoutSource source
      refine ⟨_, _, draws_of_layoutSource kept source parsed, filled, ?_⟩
      rw [layoutFound_of_parse source parsed, listedPanels_of_listFrom panels items_listed read] at here
      obtain ⟨collisions, count, before, counted, rfl⟩ := append_eq_ok_iff.1 here
      have foreign : issuesAt .layoutPanelCountMismatch (layoutPath k) collisions = [] :=
        ((coded_collisionIssues _ _ _ _).elsewhere (by decide)).issuesAt_eq_nil before
      rw [same, issuesAt_append, foreign, List.nil_append, List.length_map]
      by_cases equal : l.footprints.length = parts.length
      · simp only [equal, ne_eq, not_true_eq_false, and_false, if_false] at counted
        cases counted
        rw [if_pos equal]
        rfl
      · simp only [equal, ne_eq, not_false_eq_true, and_true, if_true] at counted
        rw [Each.issuesAt_eq_self (.report ⟨rfl, rfl⟩) counted, if_neg equal]
        rw [report_eq (by decide)] at counted
        exact (Except.ok.inj counted).symm

/-- A layout of null rows draws no panels. -/
theorem panelCountMismatch_null_rows : ∃ c p found, Chapter.ofValue (laidOut (.list [.null]) [.map []]) = .ok c ∧
    c.pageList[0]? = some (.filled p) ∧ issues {} (laidOut (.list [.null]) [.map []]) = .ok found ∧
    ¬ RefusesLayout (laidOut (.list [.null]) [.map []]) 0 ∧
    issuesAt .layoutPanelCountMismatch (layoutPath 0) found =
      [⟨.warning, .layoutPanelCountMismatch, "page 1 layout has 0 panel(s) but the script has 1", "/pages/0/layout", none⟩] := by
  have listed : ((laidOut (.list [.null]) [.map []]).get "pages").items[0]? = some _ := rfl
  obtain ⟨ends, counts⟩ := panelCountMismatch_eq rfl rfl listed rfl rfl
  obtain ⟨found, made⟩ := ends.2 nofun
  have accepted : ¬ RefusesLayout (laidOut (.list [.null]) [.map []]) 0 := by
    rw [refusesLayout_iff rfl made]
    rintro ⟨-, none⟩
    cases none
  refine ⟨_, _, found, rfl, rfl, made, accepted, ?_⟩
  obtain ⟨drawn, parts, draws, filled, reported⟩ := counts found made accepted
  cases draws with
  | nothing _ =>
    cases filled
    rw [reported]
    decide
  | panels l present _ => cases present

/-- A page with a layout and no panels, in a script with a key that cannot be written: it is decoded, and a panel is drawn,
but lint comes to no end and reports nothing. -/
theorem issues_beside_long_key :
    let v : Value := .map [(.int (10 ^ Decimal.maxDigits), .null),
      (.str "pages", .list [.map [(.str "layout", .str "A"), (.str "panels", .list [])]])]
    (∃ c p, Chapter.ofValue v = .ok c ∧ c.pageList[0]? = some (.filled p) ∧ p.layout = .str "A" ∧ p.panels = .filled [] ∧
      ∃ l, Layout.parse p.layout = .ok l ∧ l.footprints.length = 1) ∧
      issues {} v = .error .tooManyDigits := by
  have decoded (n : Int) : Chapter.ofValue (.map [(.int n, .null),
      (.str "pages", .list [.map [(.str "layout", .str "A"), (.str "panels", .list [])]])]) =
      .ok ⟨.null, none, none, .filled [.filled ⟨none, .str "A", .filled []⟩]⟩ := rfl
  refine ⟨⟨_, _, decoded _, rfl, rfl, rfl, _, rfl, ?_⟩, ?_⟩
  · show (List.mergeSort _ _).length = 1
    rw [List.length_mergeSort]
    rfl
  · exact (needsShort_issues {} _).crash ⟨_, List.mem_cons_self, Decimal.not_short_ten_pow⟩

end Lint

end ComicScript
