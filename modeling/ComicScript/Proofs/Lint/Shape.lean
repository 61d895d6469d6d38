import ComicScript.Proofs.Lint.Written

/-!
# Shape issues and decoding

Decoding a script stops at the first part of a wrong shape; lint reports every such part and goes on. Both walk the script
in the same order: a script that can be written is refused exactly if lint finds an issue of shape, and the place of the
error is that of the first such issue. But decoding can crash at a text before it comes to the part of a wrong shape.
-/

namespace ComicScript.Lint
set_option autoImplicit false

/-- The codes of issues of shape: something else where a mapping or a list is expected. -/
def shapeCodes : List Code :=
  [.rootNotMapping, .pagesNotList, .pageNotMapping, .panelsNotList, .panelNotMapping, .dialogueNotList]

example : shapeCodes.map Code.name = ["E_ROOT_NOT_MAPPING", "E_PAGES_NOT_LIST", "E_PAGE_NOT_MAPPING", "E_PANELS_NOT_LIST",
    "E_PANEL_NOT_MAPPING", "E_DIALOGUE_NOT_LIST"] := rfl

/-- Whether an issue is one of shape. -/
def Issue.isShape (i : Issue) : Bool :=
  i.code ∈ shapeCodes

/-- A check finds no issue of shape. -/
def Plain : Findings → Prop :=
  Each fun i => i.isShape = false

theorem Plain.find?_eq_none {r : Findings} (h : Plain r) {found : List Issue} (made : r = .ok found) :
    found.find? Issue.isShape = none := by
  rw [List.find?_eq_none]
  intro i member shape
  rw [h found made i member] at shape
  cases shape

/-- What only has other codes has no issue of shape. -/
theorem Coded.plain {cfg : Config} {codes : List Code} {r : Findings} (h : Coded cfg codes r)
    (apart : ∀ code ∈ codes, code ∉ shapeCodes) : Plain r :=
  Each.mono h fun i coded => decide_eq_false (apart i.code coded.1)

/-- Decoding and lint agree on a part: if it is decoded, it has no issue of shape, and if it is refused, then at the place
of its first one. -/
def Agree {α : Type} (decoded : Except (Stop ScriptError) α) (r : Findings) : Prop :=
  ∀ found, r = .ok found →
    match decoded with
    | .ok _ => ∀ i ∈ found, i.isShape = false
    | .error (.refused e) => ∃ i, found.find? Issue.isShape = some i ∧ e.path? = some i.path
    | .error (.crashed _) => True

namespace Agree

variable {α β : Type} {decoded : Except (Stop ScriptError) α} {r later : Findings}

theorem ok {a : α} (plain : Plain r) : Agree (.ok a) r :=
  plain

/-- What is decoded later has its issues later. -/
theorem bind {f : α → Except (Stop ScriptError) β} (first : Agree decoded r) (next : ∀ a, Agree (f a) later) :
    Agree (decoded >>= f) (r ++ later) := by
  intro found made
  obtain ⟨front, back, here, there, rfl⟩ := append_eq_ok_iff.1 made
  have before := first front here
  cases decoded with
  | ok a =>
    have none_found : front.find? Issue.isShape = none := Plain.find?_eq_none first here
    have after := next a back there
    show match f a with | .ok _ => _ | .error (.refused e) => _ | .error (.crashed _) => _
    cases decoded' : f a with
    | ok b =>
      rw [decoded'] at after
      exact List.forall_mem_append.2 ⟨before, after⟩
    | error stop =>
      rw [decoded'] at after
      cases stop with
      | refused e =>
        obtain ⟨i, shape, place⟩ := after
        exact ⟨i, by rw [List.find?_append, none_found, Option.none_or, shape], place⟩
      | crashed c => trivial
  | error stop =>
    cases stop with
    | refused e =>
      obtain ⟨i, shape, place⟩ := before
      exact ⟨i, by rw [List.find?_append, shape, Option.some_or], place⟩
    | crashed c => trivial

/-- A part that cannot be refused adds no issue of shape. -/
theorem bind_pure {f : α → β} (first : Agree decoded r) : Agree (decoded >>= fun a => pure (f a)) r := by
  have next (a : α) : Agree (pure (f a) : Except (Stop ScriptError) β) noIssues := .ok .noIssues
  simpa using first.bind next

/-- A text that is written on the way is no part of its own. -/
theorem bind_text {x : Except Crash α} {f : α → Except (Stop ScriptError) β} (next : ∀ a, Agree (f a) r) :
    Agree ((liftM x : Except (Stop ScriptError) α) >>= f) r := by
  cases x with
  | ok a => exact next a
  | error c => exact fun _ _ => trivial

/-- Other issues after those of a part change nothing. -/
theorem append_plain (h : Agree decoded r) (plain : Plain later) : Agree decoded (r ++ later) := by
  have last (a : α) : Agree (pure a : Except (Stop ScriptError) α) later := .ok plain
  simpa using h.bind last

/-- Other issues before those of a part change nothing. -/
theorem plain_append (plain : Plain later) (h : Agree decoded r) : Agree decoded (later ++ r) := by
  have first : Agree (.ok () : Except (Stop ScriptError) Unit) later := .ok plain
  exact first.bind fun _ => h

/-- A reported part is refused where it is reported. -/
theorem report {code : Code} {path message : String} {hint : Option String} {e : ScriptError}
    (shape : code ∈ shapeCodes) (place : e.path? = some path) :
    Agree (.error (.refused e) : Except (Stop ScriptError) α) (report {} code path message hint) := by
  intro found made
  rw [report_eq List.not_mem_nil] at made
  cases made
  refine ⟨_, List.find?_cons_of_pos ?_, place⟩
  exact decide_eq_true shape

end Agree

/-- The issues of a value where a list is expected: those of its items, or that it is something else. -/
def whereList (ofItems : List Value → Findings) (wrong : Findings) : Value → Findings
  | .null => noIssues
  | .list items => ofItems items
  | _ => wrong

/-- The issues of a value where a mapping is expected: those of its entries, or that it is something else. -/
def whereMapping (ofEntries : List (Value × Value) → Findings) (wrong : Findings) : Value → Findings
  | .map entries => ofEntries entries
  | _ => wrong

section Expected

variable {α : Type} {code : Code} {path message : String}

/-- Where a list is expected, decoding takes the same values as lint. -/
theorem agree_listAt {f : List Value → Except (Stop ScriptError) α} {ofItems : List Value → Findings}
    (shape : code ∈ shapeCodes) (absent : Agree (f []) noIssues) (items : ∀ items, Agree (f items) (ofItems items))
    (v : Value) : Agree (liftM (v.listAt path) >>= f) (whereList ofItems (report {} code path message none) v) := by
  cases v with
  | null => exact absent
  | list l => exact items l
  | _ => exact .report shape rfl

/-- Where a mapping is expected, decoding takes the same values as lint. -/
theorem agree_entriesAt {f : List (Value × Value) → Except (Stop ScriptError) α}
    {ofEntries : List (Value × Value) → Findings} (shape : code ∈ shapeCodes)
    (entries : ∀ entries, Agree (f entries) (ofEntries entries)) (v : Value) :
    Agree (liftM (v.entriesAt path) >>= f) (whereMapping ofEntries (report {} code path message none) v) := by
  cases v with
  | map l => exact entries l
  | _ => exact .report shape rfl

end Expected

theorem dialogueIssues_eq (cfg : Config) (path : String) (v : Value) :
    dialogueIssues cfg path v =
      whereList (entriesFrom cfg path 0) (report cfg .dialogueNotList path "dialogue must be a list" none) v := by
  cases v <;> rfl

/-- A panel. -/
theorem agree_panel (page panel : Nat) (path : String) (v : Value) :
    Agree (Panel.ofValue path v) (panelIssues {} page panel path v) := by
  have same : panelIssues {} page panel path v = whereMapping (fun entries => unknownKeys {} panelKeys path entries ++
      dialogueIssues {} (path ++ "/dialogue") (Value.field "dialogue" entries))
      (report {} .panelNotMapping path
        (pageName page ++ " panel " ++ toString (panel + 1) ++ " is not a mapping") none) v := by
    cases v <;> rfl
  rw [same]
  apply agree_entriesAt (by decide)
  intro entries
  rw [dialogueIssues_eq]
  apply Agree.plain_append ((coded_unknownKeys _ _ _).plain (by decide))
  apply agree_listAt (by decide)
  · iterate 6 refine .bind_text fun _ => ?_
    exact .ok .noIssues
  · intro lines
    iterate 6 refine .bind_text fun _ => ?_
    exact .ok ((coded_entriesFrom _ _ _).plain (by decide))

/-- The panels of a page, in their order. -/
theorem agree_panels (page : Nat) (path : String) (i : Nat) (items : List Value) :
    Agree (Panel.listFrom path i items) (panelsFrom {} page path i items) := by
  induction items generalizing i with
  | nil => exact .ok .noIssues
  | cons v rest ih => exact (agree_panel _ _ _ v).bind fun panel => (ih (i + 1)).bind_pure

/-- A page: its layout is never refused. -/
theorem agree_page (page : Nat) (path : String) (v : Value) :
    Agree (Page.ofValue path v) (pageIssues {} page path v) := by
  have same : pageIssues {} page path v = whereMapping (fun entries =>
      unknownKeys {} pageKeys path entries ++
        (pagePanels {} page (path ++ "/panels") (Value.field "panels" entries)).1 ++
        layoutIssues {} page (path ++ "/layout")
          (pagePanels {} page (path ++ "/panels") (Value.field "panels" entries)).2 (Value.field "layout" entries))
      (report {} .pageNotMapping path (pageName page ++ " is not a mapping") none) v := by
    cases v <;> rfl
  rw [same]
  apply agree_entriesAt (by decide)
  intro entries
  have panels : (pagePanels {} page (path ++ "/panels") (Value.field "panels" entries)).1 =
      whereList (panelsFrom {} page (path ++ "/panels") 0)
        (report {} .panelsNotList (path ++ "/panels") (pageName page ++ " panels must be a list") none)
        (Value.field "panels" entries) := by
    cases Value.field "panels" entries <;> rfl
  rw [panels]
  apply Agree.append_plain ?_ ((coded_layoutIssues _ _ _ _).plain (by decide))
  apply Agree.plain_append ((coded_unknownKeys _ _ _).plain (by decide))
  apply agree_listAt (by decide)
  · iterate 2 refine .bind_text fun _ => ?_
    exact .ok .noIssues
  · intro items
    iterate 2 refine .bind_text fun _ => ?_
    exact (agree_panels _ _ _ items).bind_pure

/-- The pages of a script, in their order. -/
theorem agree_pages (i : Nat) (items : List Value) : Agree (Page.listFrom i items) (pagesFrom {} i items) := by
  induction items generalizing i with
  | nil => exact .ok .noIssues
  | cons v rest ih => exact (agree_page _ _ v).bind fun page => (ih (i + 1)).bind_pure

/-- A whole script. -/
theorem agree_chapter (v : Value) : Agree (Chapter.ofValue v) (issues {} v) := by
  have same : issues {} v = whereMapping (fun entries =>
      unknownKeys {} chapterKeys "" entries ++ wordingIssues {} .titleNotText "title" entries ++
        wordingIssues {} .synopsisNotText "synopsis" entries ++ creditIssues {} entries ++
        whereList (pagesFrom {} 0) (report {} .pagesNotList "/pages" "pages must be a list" none)
          (Value.field "pages" entries))
      (report {} .rootNotMapping "/" ("script root must be a mapping, got " ++ v.typeName) none) v := by
    cases v with
    | map entries =>
      simp only [issues, whereMapping]
      cases Value.field "pages" entries <;> rfl
    | _ => rfl
  rw [same]
  apply agree_entriesAt (by decide)
  intro entries
  apply Agree.plain_append
  · exact (coded_front _).plain (by decide)
  · unfold Chapter.ofEntries
    apply agree_listAt (by decide)
    · refine .bind_text fun _ => ?_
      exact .ok .noIssues
    · intro items
      refine .bind_text fun _ => ?_
      exact (agree_pages _ items).bind_pure

/-- **Lint and decoding.** Of a value that can be written both lint and decoding come to an end. Where lint does, and decoding
does not crash, a value is refused as a script exactly if lint finds an issue of shape in it; and the place of a refusal is
that of the first issue of shape. -/
theorem ofValue_error_iff_shape_issue (v : Value) :
    (v.Writable → (∃ found, issues {} v = .ok found) ∧ ∀ c, Chapter.ofValue v ≠ .error (.crashed c)) ∧
    ∀ found, issues {} v = .ok found →
      ((∀ c, Chapter.ofValue v ≠ .error (.crashed c)) →
        ((∃ e, Chapter.ofValue v = .error (.refused e)) ↔ ∃ i ∈ found, i.code ∈ shapeCodes)) ∧
      ∀ e, Chapter.ofValue v = .error (.refused e) →
        ∃ i, found.find? (fun i => decide (i.code ∈ shapeCodes)) = some i ∧ e.path? = some i.path := by
  refine ⟨fun writable => ⟨exists_issues writable {}, Chapter.ofValue_ne_crashed writable⟩, fun found made => ?_⟩
  have agree := agree_chapter v found made
  cases read : Chapter.ofValue v with
  | ok c =>
    rw [read] at agree
    refine ⟨fun _ => iff_of_false (by simp) ?_, by simp⟩
    rintro ⟨i, member, shape⟩
    exact of_decide_eq_false (agree i member) shape
  | error stop =>
    cases stop with
    | crashed c => exact ⟨fun ends => absurd rfl (ends c), by simp⟩
    | refused e =>
      rw [read] at agree
      obtain ⟨i, first, place⟩ := agree
      have shape := List.find?_some first
      refine ⟨fun _ => iff_of_true ⟨e, rfl⟩ ⟨i, List.mem_of_find?_eq_some first, of_decide_eq_true shape⟩, ?_⟩
      rintro _ ⟨⟩
      exact ⟨i, first, place⟩

/-- A name that cannot be written stops decoding before it comes to the second page. -/
theorem crashed_of_long_name {n : Int} (long : ¬ Decimal.Short n) (second : Value) :
    Chapter.ofValue (.map [(.str "pages", .list [.map [(.str "name", .int n)], second])]) =
      .error (.crashed .tooManyDigits) := by
  have name : (Value.int n).fieldText? = .error .tooManyDigits :=
    (Value.needsShort_fieldText? (.int n)).crash ⟨n, List.mem_cons_self, long⟩
  have first : Page.ofValue (itemPath "/pages" 0) (.map [(.str "name", .int n)]) = .error (.crashed .tooManyDigits) := by
    change ((liftM (Value.int n).fieldText? : Except (Stop ScriptError) _) >>= _) = _
    rw [name]
    rfl
  change (Page.listFrom 0 [.map [(.str "name", .int n)], second] >>= _) = _
  rw [Page.listFrom, first]
  rfl

/-- Of a script whose first page has a name that cannot be written and whose second page is a number, lint reports the
second page. -/
theorem not_refused_of_long_name :
    let v : Value := .map [(.str "pages", .list [.map [(.str "name", .int (10 ^ Decimal.maxDigits))], .int 7])]
    issues {} v = .ok [⟨.error, .pageNotMapping, "page 2 is not a mapping", "/pages/1", none⟩] ∧
      Chapter.ofValue v = .error (.crashed .tooManyDigits) := by
  have report (n : Int) : issues {} (.map [(.str "pages", .list [.map [(.str "name", .int n)], .int 7])]) =
      .ok [⟨.error, .pageNotMapping, "page 2 is not a mapping", "/pages/1", none⟩] := rfl
  exact ⟨report _, crashed_of_long_name Decimal.not_short_ten_pow _⟩

end ComicScript.Lint
