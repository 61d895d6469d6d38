import ComicScript.Lint.Check
import ComicScript.Proofs.Lint.Findings
import ComicScript.Proofs.Script.Pages

/-!
# The codes of issues

Each part of lint reports issues of a few codes, each as bad as its code says. What a part never finds is read off its
codes. No layout is ever found to be unreadable: what lint passes on to be read as a layout is text or rows of text.
-/

namespace ComicScript.Lint
set_option autoImplicit false

/-- A check finds issues of some codes, each as bad as its code says. -/
def Coded (cfg : Config) (codes : List Code) : Findings → Prop :=
  Each fun i => i.code ∈ codes ∧ i.severity = cfg.severityOf i.code

/-- What can be found in an entry of dialogue. -/
def entryCodes : List Code := [.dialogueEntryDiscarded, .dialogueEmptyCharacter]

/-- What can be found in a panel. -/
def panelCodes : List Code := [.panelNotMapping, .unknownKey, .dialogueNotList] ++ entryCodes

/-- What can be found in a layout. -/
def layoutCodes : List Code := [.layoutBadType, .layoutTokenCollision, .layoutPanelCountMismatch]

/-- What can be found in a page. -/
def pageCodes : List Code := [.pageNotMapping, .panelsNotList] ++ panelCodes ++ layoutCodes

/-- What can be found in a script. -/
def scriptCodes : List Code :=
  [.rootNotMapping, .titleNotText, .synopsisNotText, .creditsBadType, .pagesNotList] ++ pageCodes

variable {cfg : Config} {codes : List Code}

namespace Coded

theorem mono {more : List Code} {r : Findings} (h : Coded cfg codes r) (sub : codes ⊆ more) : Coded cfg more r :=
  Each.mono h fun _ found => ⟨sub found.1, found.2⟩

theorem report {code : Code} {path message : String} {hint : Option String} (h : code ∈ codes) :
    Coded cfg codes (Lint.report cfg code path message hint) :=
  Each.report ⟨h, rfl⟩

end Coded

/-! ## The parts of lint -/

theorem coded_keyIssues (allowed : List String) (path : String) (key : Value) :
    Coded cfg [.unknownKey] (keyIssues cfg allowed path key) := by
  unfold keyIssues
  split
  · exact .noIssues
  · exact .bind fun _ _ => .bind fun _ _ => Coded.report List.mem_cons_self

theorem coded_unknownKeys (allowed : List String) (path : String) (entries : List (Value × Value)) :
    Coded cfg [.unknownKey] (unknownKeys cfg allowed path entries) := by
  induction entries with
  | nil => exact .noIssues
  | cons entry rest ih => exact (coded_keyIssues _ _ _).append ih

theorem coded_wordingIssues (code : Code) (name : String) (entries : List (Value × Value)) :
    Coded cfg [code] (wordingIssues cfg code name entries) := by
  unfold wordingIssues
  split
  · exact .noIssues
  · exact .noIssues
  · exact Coded.report List.mem_cons_self

theorem coded_creditIssues (entries : List (Value × Value)) : Coded cfg [.creditsBadType] (creditIssues cfg entries) := by
  unfold creditIssues
  split
  · exact Coded.report List.mem_cons_self
  · exact Coded.report List.mem_cons_self
  · exact .noIssues

theorem coded_entryIssues (path : String) (v : Value) : Coded cfg entryCodes (entryIssues cfg path v) := by
  unfold entryIssues
  split
  · refine .bind fun name _ => ?_
    split
    · exact Coded.report (by decide)
    · exact .noIssues
  · exact Coded.report (by decide)

theorem coded_entriesFrom (path : String) (i : Nat) (items : List Value) :
    Coded cfg entryCodes (entriesFrom cfg path i items) := by
  induction items generalizing i with
  | nil => exact .noIssues
  | cons v rest ih => exact (coded_entryIssues _ _).append (ih _)

theorem coded_panelIssues (page panel : Nat) (path : String) (v : Value) :
    Coded cfg panelCodes (panelIssues cfg page panel path v) := by
  unfold panelIssues
  split
  · refine ((coded_unknownKeys _ _ _).mono (by decide)).append ?_
    unfold dialogueIssues
    split
    · exact .noIssues
    · exact (coded_entriesFrom _ _ _).mono (by decide)
    · exact Coded.report (by decide)
  · exact Coded.report (by decide)

theorem coded_panelsFrom (page : Nat) (path : String) (i : Nat) (items : List Value) :
    Coded cfg panelCodes (panelsFrom cfg page path i items) := by
  induction items generalizing i with
  | nil => exact .noIssues
  | cons v rest ih => exact (coded_panelIssues _ _ _ _).append (ih _)

theorem coded_pagePanels (page : Nat) (path : String) (v : Value) :
    Coded cfg (.panelsNotList :: panelCodes) (pagePanels cfg page path v).1 := by
  unfold pagePanels
  split
  · exact .noIssues
  · exact (coded_panelsFrom _ _ _ _).mono (by decide)
  · exact Coded.report (by decide)

theorem coded_collisionIssues (page : Nat) (path : String) (before footprints : List Footprint) :
    Coded cfg [.layoutTokenCollision] (collisionIssues cfg page path before footprints) := by
  induction footprints generalizing before with
  | nil => exact .noIssues
  | cons f rest ih =>
    refine Each.append ?_ (ih _)
    split
    · exact .noIssues
    · split
      · exact .noIssues
      · exact Coded.report List.mem_cons_self

/-- What lint passes on to be read as a layout can be read. -/
theorem exists_parse_layoutSource {layout source : Value} (h : layoutSource? layout = .ok (some source)) :
    ∃ l, Layout.parse source = .ok l := by
  have text (s : String) : ∃ l, Layout.parse (.str s) = .ok l := ⟨_, rfl⟩
  cases layout with
  | str s =>
    cases h
    exact text s
  | int n =>
    obtain ⟨s, -, made⟩ := exists_of_bind_eq_ok h
    cases made
    exact text s
  | float x =>
    obtain ⟨s, -, made⟩ := exists_of_bind_eq_ok h
    cases made
    exact text s
  | list items =>
    obtain ⟨rows, -, made⟩ := exists_of_bind_eq_ok h
    cases made
    exact ⟨_, congrArg (Except.map Layout.ofLines) (Layout.lineTexts_map_str 1 rows)⟩
  | _ => cases h

theorem coded_parsedIssues (page : Nat) (path : String) (panelCount : Option Nat) (l : Layout) :
    Coded cfg [.layoutTokenCollision, .layoutPanelCountMismatch] (parsedIssues cfg page path panelCount l) := by
  refine ((coded_collisionIssues _ _ _ _).mono (by decide)).append ?_
  split
  · exact .noIssues
  · split
    · exact Coded.report (by decide)
    · exact .noIssues

theorem coded_layoutIssues (page : Nat) (path : String) (panelCount : Option Nat) (layout : Value) :
    Coded cfg layoutCodes (layoutIssues cfg page path panelCount layout) := by
  unfold layoutIssues
  split
  · exact .noIssues
  · refine .bind fun source? read => ?_
    cases source? with
    | none => exact Coded.report (by decide)
    | some source =>
      obtain ⟨l, parsed⟩ := exists_parse_layoutSource read
      simp only [parsed]
      exact (coded_parsedIssues _ _ _ _).mono (by decide)

theorem coded_pageIssues (page : Nat) (path : String) (v : Value) :
    Coded cfg pageCodes (pageIssues cfg page path v) := by
  unfold pageIssues
  split
  · exact (((coded_unknownKeys _ _ _).mono (by decide)).append ((coded_pagePanels _ _ _).mono (by decide))).append
      ((coded_layoutIssues _ _ _ _).mono (by decide))
  · exact Coded.report (by decide)

theorem coded_pagesFrom (i : Nat) (items : List Value) : Coded cfg pageCodes (pagesFrom cfg i items) := by
  induction items generalizing i with
  | nil => exact .noIssues
  | cons v rest ih => exact (coded_pageIssues _ _ _).append (ih _)

/-- What lint finds before it comes to the pages. -/
theorem coded_front (entries : List (Value × Value)) :
    Coded cfg [.unknownKey, .titleNotText, .synopsisNotText, .creditsBadType]
      (unknownKeys cfg chapterKeys "" entries ++ wordingIssues cfg .titleNotText "title" entries ++
        wordingIssues cfg .synopsisNotText "synopsis" entries ++ creditIssues cfg entries) :=
  ((((coded_unknownKeys _ _ _).mono (by decide)).append ((coded_wordingIssues _ _ _).mono (by decide))).append
    ((coded_wordingIssues _ _ _).mono (by decide))).append ((coded_creditIssues _).mono (by decide))

theorem coded_issues (v : Value) : Coded cfg scriptCodes (issues cfg v) := by
  unfold issues
  split
  · refine ((coded_front _).mono (by decide)).append ?_
    split
    · exact .noIssues
    · exact (coded_pagesFrom _ _).mono (by decide)
    · exact Coded.report (by decide)
  · exact Coded.report (by decide)

/-! ## Issues at a place -/

/-- The issues with a code at a place. -/
def issuesAt (code : Code) (path : String) (found : List Issue) : List Issue :=
  found.filter fun i => decide (i.code = code ∧ i.path = path)

variable {code : Code} {path : String} {r : Findings} {found : List Issue}

theorem issuesAt_append (a b : List Issue) : issuesAt code path (a ++ b) = issuesAt code path a ++ issuesAt code path b :=
  List.filter_append a b

/-- A check finds no issue with a code at a place. -/
def Elsewhere (code : Code) (path : String) : Findings → Prop :=
  Each fun i => i.code = code → i.path ≠ path

theorem Elsewhere.issuesAt_eq_nil (h : Elsewhere code path r) (made : r = .ok found) : issuesAt code path found = [] := by
  refine List.filter_eq_nil_iff.2 fun i member selected => ?_
  obtain ⟨named, here⟩ := of_decide_eq_true selected
  exact h found made i member named here

theorem Coded.elsewhere (h : Coded cfg codes r) (other : code ∉ codes) : Elsewhere code path r := by
  refine Each.mono h fun i coded named => ?_
  rw [named] at coded
  exact absurd coded.1 other

theorem issuesAt_report_of_ne {other : Code} {place message : String} {hint : Option String} (apart : code ≠ other)
    (made : report cfg other place message hint = .ok found) : issuesAt code path found = [] :=
  Elsewhere.issuesAt_eq_nil (Each.report fun same => absurd same.symm apart) made

theorem Each.issuesAt_eq_self (h : Each (fun i => i.code = code ∧ i.path = path) r) (made : r = .ok found) :
    issuesAt code path found = found :=
  List.filter_eq_self.2 fun i member => decide_eq_true (h found made i member)

/-- Of the issues with a code at a place, a check finds those that a part of it finds. -/
def Reports (code : Code) (path : String) (r own : Findings) : Prop :=
  ∀ found, r = .ok found → ∃ part, own = .ok part ∧ issuesAt code path found = issuesAt code path part

namespace Reports

variable {a b own : Findings}

theorem refl : Reports code path r r :=
  fun found made => ⟨found, made, rfl⟩

theorem of_elsewhere (h : Elsewhere code path r) : Reports code path r noIssues :=
  fun _ made => ⟨[], rfl, h.issuesAt_eq_nil made⟩

theorem append_left (h : Reports code path b own) (other : Elsewhere code path a) : Reports code path (a ++ b) own := by
  intro found made
  obtain ⟨first, second, before, here, rfl⟩ := append_eq_ok_iff.1 made
  obtain ⟨part, read, same⟩ := h second here
  exact ⟨part, read, by rw [issuesAt_append, other.issuesAt_eq_nil before, List.nil_append, same]⟩

theorem append_right (h : Reports code path a own) (other : Elsewhere code path b) : Reports code path (a ++ b) own := by
  intro found made
  obtain ⟨first, second, here, after, rfl⟩ := append_eq_ok_iff.1 made
  obtain ⟨part, read, same⟩ := h first here
  exact ⟨part, read, by rw [issuesAt_append, other.issuesAt_eq_nil after, List.append_nil, same]⟩

/-- What is not found in the part is not found at all. -/
theorem elsewhere (h : Reports code path r own) (other : Elsewhere code path own) : Elsewhere code path r := by
  intro found made i member named here
  obtain ⟨part, read, same⟩ := h found made
  rw [other.issuesAt_eq_nil read] at same
  have shown : i ∈ issuesAt code path found := List.mem_filter.2 ⟨member, decide_eq_true ⟨named, here⟩⟩
  rw [same] at shown
  cases shown

end Reports

end ComicScript.Lint
