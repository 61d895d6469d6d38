import ComicScript.Proofs.Lint.Shape

/-!
# The reports of lint

Every issue is as bad as its code says, and no layout is ever found to be unreadable, so a script without errors is not
refused. What is reported at the layout of a page is what is found in that layout, whatever else the script holds.
-/

namespace ComicScript.Lint
set_option autoImplicit false

/-- Issues that are as bad as their codes say, none of them about an unreadable layout. -/
def Proper (cfg : Config) (found : List Issue) : Prop :=
  ∀ i ∈ found, i.severity = cfg.severityOf i.code ∧ i.code ≠ .layoutInvalid

/-- The issues of a whole script. -/
theorem proper_issues {cfg : Config} {v : Value} {found : List Issue} (made : issues cfg v = .ok found) :
    Proper cfg found := by
  intro i member
  obtain ⟨known, severity⟩ := coded_issues v found made i member
  refine ⟨severity, fun unreadable => ?_⟩
  rw [unreadable] at known
  exact absurd known (by decide)

/-- A script that lint finds no errors in is not refused. -/
theorem not_refused_of_no_errors {v : Value} {found : List Issue} (made : issues {} v = .ok found)
    (none : messages .error found = []) (e : ScriptError) : Chapter.ofValue v ≠ .error (.refused e) := by
  intro stop
  have bad : ∀ code ∈ shapeCodes, Config.severityOf {} code = .error := by decide
  have agree := agree_chapter v found made
  rw [stop] at agree
  obtain ⟨i, first, -⟩ := agree
  have member := List.mem_of_find?_eq_some first
  have shape : i.isShape = true := List.find?_some first
  have severe := (proper_issues made i member).1.trans (bad i.code (of_decide_eq_true shape))
  have shown : i.message ∈ messages .error found := List.mem_map_of_mem (List.mem_filter.2 ⟨member, by simp [severe]⟩)
  rw [none] at shown
  cases shown

/-! ## The layouts of pages -/

/-- The place of the layout of a page. -/
def layoutPath (page : Nat) : String :=
  itemPath "/pages" page ++ "/layout"

theorem layoutPath_inj {m n : Nat} (h : layoutPath m = layoutPath n) : m = n :=
  itemPath_inj ((String.append_left_inj _).1 h)

/-- The number of panels that a page lists, if it lists any: only mappings count. -/
def listedPanels : Value → Option Nat
  | .list items => some (items.countP isMapping)
  | _ => none

/-- What is found in the layout of a page. -/
def layoutFound (cfg : Config) (page : Nat) (v : Value) : Findings :=
  layoutIssues cfg page (layoutPath page) (listedPanels (v.get "panels")) (v.get "layout")

variable {cfg : Config}

theorem pagePanels_snd (page : Nat) (path : String) (v : Value) : (pagePanels cfg page path v).2 = listedPanels v := by
  cases v <;> rfl

/-- A check reports at one place. -/
def Located (path : String) : Findings → Prop :=
  Each fun i => i.path = path

theorem located_collisionIssues (page : Nat) (path : String) (before footprints : List Footprint) :
    Located path (collisionIssues cfg page path before footprints) := by
  induction footprints generalizing before with
  | nil => exact .noIssues
  | cons f rest ih =>
    refine Each.append ?_ (ih _)
    split
    · exact .noIssues
    · split
      · exact .noIssues
      · exact .report rfl

theorem located_parsedIssues (page : Nat) (path : String) (panelCount : Option Nat) (l : Layout) :
    Located path (parsedIssues cfg page path panelCount l) := by
  refine Each.append (located_collisionIssues _ _ _ _) ?_
  split
  · exact .noIssues
  · split
    · exact .report rfl
    · exact .noIssues

theorem located_layoutIssues (page : Nat) (path : String) (panelCount : Option Nat) (layout : Value) :
    Located path (layoutIssues cfg page path panelCount layout) := by
  unfold layoutIssues
  split
  · exact .noIssues
  · refine .bind fun source? read => ?_
    cases source? with
    | none => exact .report rfl
    | some source =>
      obtain ⟨l, parsed⟩ := exists_parse_layoutSource read
      simp only [parsed]
      exact located_parsedIssues _ _ _ _

/-- Nothing is found at the layout of another page. -/
theorem elsewhere_layoutFound {m n : Nat} (other : m ≠ n) (code : Code) (v : Value) :
    Elsewhere code (layoutPath n) (layoutFound cfg m v) :=
  Each.mono (located_layoutIssues _ _ _ _) fun _ located _ same => other (layoutPath_inj (located.symm.trans same))

section Pages

variable {code : Code} (about : code ∈ layoutCodes)
include about

/-- Of a page, only the layout has issues of layouts. -/
theorem reports_pageIssues (page : Nat) (place : String) (v : Value) :
    Reports code place (pageIssues cfg page (itemPath "/pages" page) v) (layoutFound cfg page v) := by
  have apart : ∀ code ∈ layoutCodes, code ∉ [.pageNotMapping, .unknownKey] ++ Code.panelsNotList :: panelCodes := by decide
  have foreign := apart code about
  simp only [List.mem_append, not_or] at foreign
  cases v with
  | map entries =>
    have parts : pageIssues cfg page (itemPath "/pages" page) (.map entries) =
        unknownKeys cfg pageKeys (itemPath "/pages" page) entries ++
          (pagePanels cfg page (itemPath "/pages" page ++ "/panels") (Value.field "panels" entries)).1 ++
          layoutFound cfg page (.map entries) := by
      rw [layoutFound, Value.get, Value.get, ← pagePanels_snd]
      rfl
    have keys : Coded cfg [.pageNotMapping, .unknownKey] (unknownKeys cfg pageKeys (itemPath "/pages" page) entries) :=
      (coded_unknownKeys _ _ _).mono (by decide)
    rw [parts]
    exact Reports.refl.append_left ((keys.elsewhere foreign.1).append ((coded_pagePanels _ _ _).elsewhere foreign.2))
  | _ => exact .of_elsewhere ((Coded.report (by decide)).elsewhere foreign.1)

theorem elsewhere_pagesFrom {n i : Nat} (early : n < i) (items : List Value) :
    Elsewhere code (layoutPath n) (pagesFrom cfg i items) := by
  induction items generalizing i with
  | nil => exact .noIssues
  | cons v rest ih =>
    refine Each.append ?_ (ih (Nat.lt_succ_of_lt early))
    exact (reports_pageIssues about i _ v).elsewhere (elsewhere_layoutFound (Nat.ne_of_gt early) code v)

theorem reports_pagesFrom {i k : Nat} {items : List Value} {w : Value} (page : items[k]? = some w) :
    Reports code (layoutPath (i + k)) (pagesFrom cfg i items) (layoutFound cfg (i + k) w) := by
  induction items generalizing i k with
  | nil => cases page
  | cons v rest ih =>
    cases k with
    | zero =>
      obtain rfl := Option.some.inj page
      exact (reports_pageIssues about i _ v).append_right (elsewhere_pagesFrom about (Nat.lt_succ_self i) rest)
    | succ k =>
      have later := ih (i := i + 1) page
      rw [Nat.add_right_comm, Nat.add_assoc] at later
      refine later.append_left ?_
      exact (reports_pageIssues about i _ v).elsewhere (elsewhere_layoutFound (by omega) code v)

/-- What is reported at the layout of a page is what is found in that layout. -/
theorem reports_issues {v w : Value} {k : Nat} (page : (v.get "pages").items[k]? = some w) :
    Reports code (layoutPath k) (issues cfg v) (layoutFound cfg k w) := by
  cases v with
  | map entries =>
    have apart : ∀ code ∈ layoutCodes, code ∉ [.unknownKey, .titleNotText, .synopsisNotText, .creditsBadType] := by decide
    cases pages : Value.field "pages" entries with
    | list items =>
      rw [Value.get, pages] at page
      have parts : issues cfg (.map entries) = (unknownKeys cfg chapterKeys "" entries ++
          wordingIssues cfg .titleNotText "title" entries ++ wordingIssues cfg .synopsisNotText "synopsis" entries ++
          creditIssues cfg entries) ++ pagesFrom cfg 0 items := by
        rw [issues, pages]
      have own := @reports_pagesFrom cfg code about 0 k items w page
      rw [Nat.zero_add] at own
      rw [parts]
      exact own.append_left ((coded_front entries).elsewhere (apart code about))
    | _ =>
      rw [Value.get, pages] at page
      cases page
  | _ => cases page

end Pages

end ComicScript.Lint
