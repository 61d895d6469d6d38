import ComicScript.Proofs.Lint.Codes

/-!
# What a caller asks of lint

Lint looks at a script in one way only. What a caller asks for is selected from what is found by default: an issue whose
code is left out is dropped, a warning that counts as an error is one, and everything else stays as it is, in its order. No
check depends on whether something that it found before was dropped, and none crashes on one caller's terms only.
-/

namespace ComicScript.Lint
set_option autoImplicit false

/-- A caller does not ask for an issue. -/
def Config.Omits (cfg : Config) (i : Issue) : Prop :=
  i.code.name ∈ cfg.ignore ∨ (i.code = .layoutPanelCountMismatch ∧ cfg.checkPanelCount = false)

instance (cfg : Config) (i : Issue) : Decidable (cfg.Omits i) :=
  inferInstanceAs (Decidable (_ ∨ _))

/-- An issue, as bad as a caller counts it. -/
def Config.regrade (cfg : Config) (i : Issue) : Issue :=
  if i.severity = .warning ∧ i.code.name ∈ cfg.escalate then { i with severity := .error } else i

/-- What a caller asks for, out of some issues. -/
def Config.select (cfg : Config) (found : List Issue) : List Issue :=
  (found.filter fun i => ¬ cfg.Omits i).map cfg.regrade

variable {cfg : Config}

/-- What a caller asks for, out of what a check finds. -/
def Config.selectFound (cfg : Config) (r : Findings) : Findings :=
  r.map cfg.select

theorem selectFound_append (a b : Findings) : cfg.selectFound (a ++ b) = cfg.selectFound a ++ cfg.selectFound b := by
  cases a with
  | error c => rfl
  | ok first =>
    cases b with
    | error c => rfl
    | ok second =>
      have all : cfg.select (first ++ second) = cfg.select first ++ cfg.select second := by
        rw [Config.select, List.filter_append, List.map_append]
        rfl
      exact congrArg Except.ok all

theorem selectFound_bind {α : Type} (x : Except Crash α) (f : α → Findings) :
    cfg.selectFound (x >>= f) = x >>= fun a => cfg.selectFound (f a) := by
  cases x <;> rfl

@[simp] theorem code_regrade (i : Issue) : (cfg.regrade i).code = i.code := by
  unfold Config.regrade
  split <;> rfl

theorem severityOf_default (code : Code) : Config.severityOf {} code = code.severity :=
  if_neg fun escalated => List.not_mem_nil escalated.2

/-- Regrading gives an issue the severity that the caller counts its code as. -/
theorem regrade_eq (code : Code) (message path : String) (hint : Option String) :
    cfg.regrade ⟨code.severity, code, message, path, hint⟩ = ⟨cfg.severityOf code, code, message, path, hint⟩ := by
  unfold Config.regrade Config.severityOf
  split <;> rfl

/-! ## The parts of lint -/

/-- A report is dropped or kept by its code alone, and one of a number of panels also if that is not to be looked at. -/
theorem select_report_eq (code : Code) (path message : String) (hint : Option String) :
    cfg.selectFound (report {} code path message hint) =
      if code = .layoutPanelCountMismatch ∧ cfg.checkPanelCount = false then noIssues
      else report cfg code path message hint := by
  have default : report {} code path message hint = .ok [⟨code.severity, code, message, path, hint⟩] := by
    rw [report_eq List.not_mem_nil, severityOf_default]
  have dropped (omitted : cfg.Omits ⟨code.severity, code, message, path, hint⟩) :
      cfg.select [⟨code.severity, code, message, path, hint⟩] = [] :=
    congrArg (List.map cfg.regrade) (List.filter_cons_of_neg (by simp [omitted]))
  rw [default]
  by_cases unseen : code = .layoutPanelCountMismatch ∧ cfg.checkPanelCount = false
  · rw [if_pos unseen]
    exact congrArg Except.ok (dropped (.inr unseen))
  · rw [if_neg unseen]
    by_cases ignored : code.name ∈ cfg.ignore
    · rw [report, if_pos ignored]
      exact congrArg Except.ok (dropped (.inl ignored))
    · rw [report_eq ignored, ← regrade_eq]
      refine congrArg (fun kept => Except.ok (kept.map cfg.regrade)) (List.filter_cons_of_pos ?_)
      simp [Config.Omits, ignored, unseen]

/-- A report of anything but a number of panels. -/
theorem select_report {code : Code} (other : code ≠ .layoutPanelCountMismatch) (path message : String)
    (hint : Option String) : cfg.selectFound (report {} code path message hint) = report cfg code path message hint := by
  rw [select_report_eq, if_neg fun count => other count.1]

theorem select_keyIssues (allowed : List String) (path : String) (key : Value) :
    cfg.selectFound (keyIssues {} allowed path key) = keyIssues cfg allowed path key := by
  unfold keyIssues
  split
  · rfl
  · rw [selectFound_bind]
    refine congrArg _ (funext fun shown => ?_)
    rw [selectFound_bind]
    exact congrArg _ (funext fun name => select_report (by decide) _ _ _)

theorem select_unknownKeys (allowed : List String) (path : String) (entries : List (Value × Value)) :
    cfg.selectFound (unknownKeys {} allowed path entries) = unknownKeys cfg allowed path entries := by
  induction entries with
  | nil => rfl
  | cons entry rest ih => rw [unknownKeys, selectFound_append, select_keyIssues, ih, unknownKeys]

theorem select_wordingIssues {code : Code} (other : code ≠ .layoutPanelCountMismatch) (name : String)
    (entries : List (Value × Value)) :
    cfg.selectFound (wordingIssues {} code name entries) = wordingIssues cfg code name entries := by
  unfold wordingIssues
  split
  · rfl
  · rfl
  · exact select_report other _ _ _

theorem select_creditIssues (entries : List (Value × Value)) :
    cfg.selectFound (creditIssues {} entries) = creditIssues cfg entries := by
  unfold creditIssues
  split
  · exact select_report (by decide) _ _ _
  · exact select_report (by decide) _ _ _
  · rfl

theorem select_entryIssues (path : String) (v : Value) :
    cfg.selectFound (entryIssues {} path v) = entryIssues cfg path v := by
  unfold entryIssues
  split
  · rw [selectFound_bind]
    refine congrArg _ (funext fun name => ?_)
    split
    · exact select_report (by decide) _ _ _
    · rfl
  · exact select_report (by decide) _ _ _

theorem select_entriesFrom (path : String) (i : Nat) (items : List Value) :
    cfg.selectFound (entriesFrom {} path i items) = entriesFrom cfg path i items := by
  induction items generalizing i with
  | nil => rfl
  | cons v rest ih => rw [entriesFrom, selectFound_append, select_entryIssues, ih, entriesFrom]

theorem select_dialogueIssues (path : String) (v : Value) :
    cfg.selectFound (dialogueIssues {} path v) = dialogueIssues cfg path v := by
  unfold dialogueIssues
  split
  · rfl
  · exact select_entriesFrom _ _ _
  · exact select_report (by decide) _ _ _

theorem select_panelIssues (page panel : Nat) (path : String) (v : Value) :
    cfg.selectFound (panelIssues {} page panel path v) = panelIssues cfg page panel path v := by
  unfold panelIssues
  split
  · rw [selectFound_append, select_unknownKeys, select_dialogueIssues]
  · exact select_report (by decide) _ _ _

theorem select_panelsFrom (page : Nat) (path : String) (i : Nat) (items : List Value) :
    cfg.selectFound (panelsFrom {} page path i items) = panelsFrom cfg page path i items := by
  induction items generalizing i with
  | nil => rfl
  | cons v rest ih => rw [panelsFrom, selectFound_append, select_panelIssues, ih, panelsFrom]

/-- How many panels are counted does not depend on what the caller asks for. -/
theorem select_pagePanels (page : Nat) (path : String) (v : Value) :
    cfg.selectFound (pagePanels {} page path v).1 = (pagePanels cfg page path v).1 ∧
      (pagePanels {} page path v).2 = (pagePanels cfg page path v).2 := by
  unfold pagePanels
  split
  · exact ⟨rfl, rfl⟩
  · exact ⟨select_panelsFrom _ _ _ _, rfl⟩
  · exact ⟨select_report (by decide) _ _ _, rfl⟩

/-- The labels that a label is compared with are the same, whether or not a collision before it was dropped. -/
theorem select_collisionIssues (page : Nat) (path : String) (before footprints : List Footprint) :
    cfg.selectFound (collisionIssues {} page path before footprints) = collisionIssues cfg page path before footprints := by
  induction footprints generalizing before with
  | nil => rfl
  | cons f rest ih =>
    rw [collisionIssues, selectFound_append, ih, collisionIssues]
    congr 1
    split
    · rfl
    · split
      · rfl
      · exact select_report (by decide) _ _ _

theorem select_parsedIssues (page : Nat) (path : String) (panelCount : Option Nat) (l : Layout) :
    cfg.selectFound (parsedIssues {} page path panelCount l) = parsedIssues cfg page path panelCount l := by
  unfold parsedIssues
  rw [selectFound_append, select_collisionIssues]
  congr 1
  cases panelCount with
  | none => rfl
  | some count =>
    by_cases differ : l.footprints.length ≠ count
    · cases looked : cfg.checkPanelCount <;> simp [differ, looked, select_report_eq]
    · simp only [differ, and_false, if_false]
      rfl

theorem select_layoutIssues (page : Nat) (path : String) (panelCount : Option Nat) (layout : Value) :
    cfg.selectFound (layoutIssues {} page path panelCount layout) = layoutIssues cfg page path panelCount layout := by
  unfold layoutIssues
  split
  · rfl
  · rw [selectFound_bind]
    refine congrArg _ (funext fun source? => ?_)
    cases source? with
    | none => exact select_report (by decide) _ _ _
    | some source =>
      dsimp only
      split
      · exact select_report (by decide) _ _ _
      · rfl
      · exact select_parsedIssues _ _ _ _

theorem select_pageIssues (page : Nat) (path : String) (v : Value) :
    cfg.selectFound (pageIssues {} page path v) = pageIssues cfg page path v := by
  unfold pageIssues
  split
  · rename_i entries
    obtain ⟨panels, count⟩ := @select_pagePanels cfg page (path ++ "/panels") (Value.field "panels" entries)
    simp only [selectFound_append, select_unknownKeys, panels, count, select_layoutIssues]
  · exact select_report (by decide) _ _ _

theorem select_pagesFrom (i : Nat) (pages : List Value) :
    cfg.selectFound (pagesFrom {} i pages) = pagesFrom cfg i pages := by
  induction pages generalizing i with
  | nil => rfl
  | cons v rest ih => rw [pagesFrom, selectFound_append, select_pageIssues, ih, pagesFrom]

/-- What a caller asks for is found as a selection of what is found by default. -/
theorem select_issues (v : Value) : cfg.selectFound (issues {} v) = issues cfg v := by
  unfold issues
  split
  · rw [selectFound_append, selectFound_append, selectFound_append, selectFound_append, select_unknownKeys, select_creditIssues,
      select_wordingIssues (by decide), select_wordingIssues (by decide)]
    congr 1
    split
    · rfl
    · exact select_pagesFrom _ _
    · exact select_report (by decide) _ _ _
  · exact select_report (by decide) _ _ _

/-! ## Selections compared -/

/-- Leaving out one more code drops the issues with that code and no other. -/
theorem select_ignore (code : String) (found : List Issue) :
    { cfg with ignore := code :: cfg.ignore }.select found = (cfg.select found).filter fun i => i.code.name ≠ code := by
  have same : { cfg with ignore := code :: cfg.ignore }.regrade = cfg.regrade := rfl
  rw [Config.select, Config.select, same, List.filter_map, List.filter_filter]
  refine congrArg _ (List.filter_congr fun i _ => ?_)
  simp [Config.Omits, or_assoc]

/-- Counting one more code as an error makes the issues with that code errors and changes no other. -/
theorem select_escalate (code : String) (found : List Issue) :
    { cfg with escalate := code :: cfg.escalate }.select found =
      (cfg.select found).map fun i => if i.code.name = code then { i with severity := .error } else i := by
  rw [Config.select, Config.select, List.map_map]
  refine List.map_congr_left fun i _ => ?_
  obtain ⟨severity, named, message, path, hint⟩ := i
  cases severity with
  | error => simp [Config.regrade]
  | warning =>
    by_cases here : named.name = code
    · by_cases before : code ∈ cfg.escalate <;> simp [Config.regrade, here, before]
    · by_cases before : named.name ∈ cfg.escalate <;> simp [Config.regrade, here, before]

/-- **What a caller asks of lint is a selection.** What is found on a caller's terms is what is found by default, in its
order, without the issues that the caller leaves out, and with a warning that counts as an error made one. So leaving out
one more code drops the issues with that code and touches no other; counting one more code as an error makes the issues
with that code errors and touches no other; and an issue that is left out is not found, whatever counts as an error. -/
theorem issues_eq_select (cfg : Config) (v : Value) :
    issues cfg v = (issues {} v).map (fun found => (found.filter fun i => ¬ cfg.Omits i).map cfg.regrade) ∧
    (∀ code, issues { cfg with ignore := code :: cfg.ignore } v =
      (issues cfg v).map fun found => found.filter fun i => i.code.name ≠ code) ∧
    (∀ code, issues { cfg with escalate := code :: cfg.escalate } v =
      (issues cfg v).map fun found => found.map fun i => if i.code.name = code then { i with severity := .error } else i) ∧
    ∀ escalate found, issues { cfg with escalate } v = .ok found →
      (found.filter fun i => i.code.name ∈ cfg.ignore) = [] := by
  refine ⟨(select_issues v).symm, ?_, ?_, ?_⟩
  · intro code
    rw [← @select_issues { cfg with ignore := code :: cfg.ignore } v, ← @select_issues cfg v]
    cases issues {} v with
    | ok found => exact congrArg Except.ok (select_ignore code found)
    | error c => rfl
  · intro code
    rw [← @select_issues { cfg with escalate := code :: cfg.escalate } v, ← @select_issues cfg v]
    cases issues {} v with
    | ok found => exact congrArg Except.ok (select_escalate code found)
    | error c => rfl
  · intro escalate found made
    rw [← select_issues] at made
    obtain ⟨all, -, rfl⟩ := exists_of_map_eq_ok made
    refine List.filter_eq_nil_iff.2 fun i member ignored => ?_
    obtain ⟨j, kept, rfl⟩ := List.mem_map.1 member
    rw [code_regrade] at ignored
    exact of_decide_eq_true (List.mem_filter.1 kept).2 (.inl (of_decide_eq_true ignored))

end ComicScript.Lint
