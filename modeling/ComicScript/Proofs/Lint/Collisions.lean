import ComicScript.Proofs.Layout.Partition
import ComicScript.Proofs.Lint.PageLayouts
import Mathlib.Data.Finset.Card

/-!
# Tokens that share a number

Two tokens of a layout can stand for one number, and then their panels have one colour and no order of their own. The first
panel with a number leads; lint reports each panel that follows one, beside the one that it follows. So there are as many
reports as panels beyond one for each number, and none exactly if the numbers of the panels increase.
-/

namespace ComicScript
set_option autoImplicit false

namespace Layout

/-! ## Panels that lead and panels that follow -/

/-- The first of some panels with the number of a panel. -/
def leader (panels : List Footprint) (f : Footprint) : Footprint :=
  (panels.find? (·.number == f.number)).getD f

/-- The panels that lead: each is the first with its number. -/
def leaders (panels : List Footprint) : List Footprint :=
  panels.filter fun f => decide (leader panels f = f)

/-- The panels that follow another one with their number. -/
def followers (panels : List Footprint) : List Footprint :=
  panels.filter fun f => !decide (leader panels f = f)

section Leaders

variable {panels : List Footprint}

/-- Panels with one number have one leader, which is one of them. -/
theorem exists_leader {f : Footprint} (member : f ∈ panels) : ∃ first ∈ panels, first.number = f.number ∧
    ∀ g : Footprint, g.number = f.number → leader panels g = first := by
  cases found : panels.find? (·.number == f.number) with
  | none => simpa using List.find?_eq_none.1 found f member
  | some first =>
    refine ⟨first, List.mem_of_find?_eq_some found, by simpa using List.find?_some found, fun g same => ?_⟩
    rw [leader, same, found, Option.getD_some]

/-- No two panels that lead have one number. -/
theorem nodup_numbers_leaders (distinct : panels.Nodup) : ((leaders panels).map (·.number)).Nodup := by
  refine List.Nodup.map_on (fun f leads g leads' same => ?_) (distinct.filter _)
  obtain ⟨member, own⟩ := List.mem_filter.1 leads
  obtain ⟨-, own'⟩ := List.mem_filter.1 leads'
  obtain ⟨first, -, -, lead⟩ := exists_leader member
  exact ((of_decide_eq_true own).symm.trans (lead f rfl)).trans ((lead g same.symm).symm.trans (of_decide_eq_true own'))

/-- The numbers of the panels that lead are all the numbers. -/
theorem toFinset_numbers_leaders :
    ((leaders panels).map (·.number)).toFinset = (panels.map (·.number)).toFinset := by
  ext n
  simp only [List.mem_toFinset, List.mem_map]
  constructor
  · rintro ⟨f, leads, rfl⟩
    exact ⟨f, (List.mem_filter.1 leads).1, rfl⟩
  · rintro ⟨f, member, rfl⟩
    obtain ⟨first, listed, number, lead⟩ := exists_leader member
    exact ⟨first, List.mem_filter.2 ⟨listed, decide_eq_true (lead first number)⟩, number⟩

/-- Apart from one panel for each number, all panels follow. -/
theorem length_followers_add_card (distinct : panels.Nodup) :
    (followers panels).length + (panels.map (·.number)).toFinset.card = panels.length := by
  have leading : (leaders panels).length = (panels.map (·.number)).toFinset.card := by
    rw [← toFinset_numbers_leaders, List.toFinset_card_of_nodup (nodup_numbers_leaders distinct), List.length_map]
  have all : panels.length = (leaders panels).length + (followers panels).length := List.length_eq_length_filter_add _
  omega

/-- In panels that are ordered by their numbers, none follows exactly if the numbers increase. -/
theorem followers_eq_nil_iff (distinct : panels.Nodup) (ordered : panels.Pairwise fun f g => f.number ≤ g.number) :
    followers panels = [] ↔ (panels.map (·.number)).Pairwise (· < ·) := by
  rw [List.pairwise_map]
  constructor
  · intro none
    have leading : leaders panels = panels := by
      refine List.filter_eq_self.2 fun f member => ?_
      simpa using List.filter_eq_nil_iff.1 none f member
    have different := nodup_numbers_leaders distinct
    rw [leading, List.Nodup, List.pairwise_map] at different
    exact ordered.imp₂ (fun f g le ne => by omega) different
  · intro increasing
    have different : (panels.map (·.number)).Nodup := List.pairwise_map.2 (increasing.imp fun lt => by omega)
    refine List.filter_eq_nil_iff.2 fun f member => ?_
    obtain ⟨first, listed, number, lead⟩ := exists_leader member
    simp [lead f rfl, List.inj_on_of_nodup_map different listed member number]

end Leaders

end Layout

namespace Lint

open Layout (leader followers)

/-- The report that a panel follows another with its number. -/
def collision (cfg : Config) (page : Nat) (path : String) (first f : Footprint) : Issue :=
  ⟨cfg.severityOf .layoutTokenCollision, .layoutTokenCollision, pageName page ++ " layout tokens " ++
    Text.quoted first.label ++ " and " ++ Text.quoted f.label ++ " share sort key " ++ toString f.number ++
    " (same color, arbitrary order)", path, none⟩

/-- Of panels with labels of their own, those that follow are reported, each beside its leader. -/
theorem collisionIssues_eq {cfg : Config} (kept : Code.name .layoutTokenCollision ∉ cfg.ignore) (page : Nat) (path : String)
    {panels before rest : List Footprint} (distinct : (panels.map (·.label)).Nodup) (split : before ++ rest = panels) :
    collisionIssues cfg page path before rest =
      .ok ((rest.filter fun f => !decide (leader panels f = f)).map fun f => collision cfg page path (leader panels f) f) := by
  induction rest generalizing before with
  | nil => rfl
  | cons f rest ih =>
    have later : collisionIssues cfg page path (before ++ [f]) rest = _ := ih (by rw [← split]; simp)
    have lead : leader panels f = (before.find? (·.number == f.number)).getD f := by
      rw [leader, ← split, List.find?_append]
      cases before.find? (·.number == f.number) <;> simp
    rw [collisionIssues, later, firstLabel, List.filter_cons]
    cases found : before.find? (·.number == f.number) with
    | none =>
      rw [found, Option.getD_none] at lead
      simp [lead]
    | some first =>
      have apart : first.label ≠ f.label := by
        rw [← split, List.map_append, List.map_cons, List.nodup_append] at distinct
        exact distinct.2.2 _ (List.mem_map_of_mem (List.mem_of_find?_eq_some found)) _ List.mem_cons_self
      have follows : first ≠ f := fun same => apart (congrArg Footprint.label same)
      rw [found, Option.getD_some] at lead
      simp only [Option.map_some, apart, lead, follows, if_false, decide_false, Bool.not_false, if_true, List.map_cons]
      rw [report_eq kept]
      rfl

/-- The reports of shared numbers are all that is found of them in a layout. -/
theorem reports_parsedIssues (cfg : Config) (page : Nat) (path : String) (panelCount : Option Nat) (l : Layout) :
    Reports .layoutTokenCollision path (parsedIssues cfg page path panelCount l)
      (collisionIssues cfg page path [] l.footprints) := by
  refine Reports.refl.append_right ?_
  split
  · exact .noIssues
  · split
    · exact .report (fun same => nomatch same)
    · exact .noIssues

/-- At a layout lint finds that each panel that follows stands beside its leader. -/
theorem issuesAt_of_layoutFound {cfg : Config} (kept : Code.name .layoutTokenCollision ∉ cfg.ignore) {w source : Value}
    (read : layoutSource? (w.get "layout") = .ok (some source)) {l : Layout} (parsed : Layout.parse source = .ok l) {k : Nat}
    {own : List Issue} (found : layoutFound cfg k w = .ok own) : issuesAt .layoutTokenCollision (layoutPath k) own =
      (followers l.footprints).map fun f => collision cfg k (layoutPath k) (leader l.footprints f) f := by
  rw [layoutFound_of_parse read parsed] at found
  obtain ⟨part, collisions, same⟩ := reports_parsedIssues _ _ _ _ _ own found
  have eq := collisionIssues_eq kept k (layoutPath k) (Layout.panelsOf_of_parse parsed).distinct (List.nil_append _)
  have only : issuesAt .layoutTokenCollision (layoutPath k) part = part := by
    refine Each.issuesAt_eq_self ?_ collisions
    intro found made i member
    exact ⟨List.mem_singleton.1 (coded_collisionIssues _ _ _ _ found made i member).1,
      located_collisionIssues _ _ _ _ found made i member⟩
  exact same.trans (only.trans (Except.ok.inj (collisions.symm.trans eq)))

/-- **Tokens that share a number.** Of a layout that lint reads, and unless a caller leaves the code out, each panel that
follows another with its number is reported once, beside the first panel with that number. The step of lint at the layout
gives these reports, and if lint comes to its end, they are what it says of the layout. So they are as many as the panels
less the numbers that their tokens stand for, and there are none exactly if these numbers increase from each panel to the
next. -/
theorem tokenCollisions_eq {cfg : Config} (kept : Code.name .layoutTokenCollision ∉ cfg.ignore) {v w : Value} {k : Nat}
    (listed : (v.get "pages").items[k]? = some w) {source : Value}
    (read : layoutSource? (w.get "layout") = .ok (some source)) {l : Layout} (parsed : Layout.parse source = .ok l) :
    let reports := (followers l.footprints).map fun f => collision cfg k (layoutPath k) (leader l.footprints f) f
    (∃ own, layoutFound cfg k w = .ok own ∧ issuesAt .layoutTokenCollision (layoutPath k) own = reports) ∧
    (∀ all, issues cfg v = .ok all → issuesAt .layoutTokenCollision (layoutPath k) all = reports) ∧
    (∀ f ∈ l.footprints, Layout.sortKey f.label.toList = .ok f.number) ∧
    reports.length + (l.footprints.map (·.number)).toFinset.card = l.footprints.length ∧
    (reports = [] ↔ (l.footprints.map (·.number)).Pairwise (· < ·)) := by
  intro reports
  have panels := Layout.panelsOf_of_parse parsed
  have distinct : l.footprints.Nodup := panels.distinct.of_map
  have ordered : l.footprints.Pairwise fun f g => f.number ≤ g.number := by
    refine panels.ordered.imp fun {f g} before => ?_
    rcases before with lt | ⟨same, -⟩
    · omega
    · omega
  refine ⟨?step, ?whole, panels.numbers, ?_, ?_⟩
  case step =>
    obtain ⟨own, found⟩ := (needsShort_parsedIssues k (layoutPath k) (listedPanels (w.get "panels")) l).ok nofun
    rw [← layoutFound_of_parse read parsed] at found
    exact ⟨own, found, issuesAt_of_layoutFound kept read parsed found⟩
  case whole =>
    intro all made
    obtain ⟨own, found, same⟩ := @reports_issues cfg .layoutTokenCollision (by decide) v w k listed all made
    exact same.trans (issuesAt_of_layoutFound kept read parsed found)
  · rw [List.length_map, Layout.length_followers_add_card distinct]
  · rw [List.map_eq_nil_iff, Layout.followers_eq_nil_iff distinct ordered]

/-- A colon stands for 3, like the digit: it follows the digit, and the letter that stands for 10 leads. -/
theorem tokenCollisions_colon :
    let l : Layout := ⟨["3:A".toList], [⟨"3", 3, [⟨0, 0⟩], ⟨0, 0, 1, 1⟩⟩, ⟨":", 3, [⟨1, 0⟩], ⟨1, 0, 1, 1⟩⟩,
      ⟨"A", 10, [⟨2, 0⟩], ⟨2, 0, 1, 1⟩⟩], 3, 1⟩
    Layout.parse (.list [.str "3:A"]) = .ok l ∧
    (∃ found, issues {} (laidOut (.list [.str "3:A"]) []) = .ok found ∧
      issuesAt .layoutTokenCollision (layoutPath 0) found = [⟨.warning, .layoutTokenCollision,
        "page 1 layout tokens '3' and ':' share sort key 3 (same color, arbitrary order)", "/pages/0/layout", none⟩]) ∧
    ¬ (l.footprints.map (·.number)).Pairwise (· < ·) := by
  intro l
  have ordered : l.footprints.mergeSort (fun a b => decide (a.number ≤ b.number)) = l.footprints :=
    List.mergeSort_of_pairwise (by decide)
  have parsed : Layout.parse (.list [.str "3:A"]) = .ok l :=
    congrArg (fun panels => Except.ok (Layout.mk ["3:A".toList] panels 3 1)) ordered
  have kept : Code.name .layoutTokenCollision ∉ Config.ignore {} := by decide
  have listed : ((laidOut (.list [.str "3:A"]) []).get "pages").items[0]? = some _ := rfl
  have writable : (laidOut (.list [.str "3:A"]) []).Writable := nofun
  obtain ⟨all, made⟩ := exists_issues writable {}
  obtain ⟨-, reports, -, -, increasing⟩ := tokenCollisions_eq kept listed rfl parsed
  have one : (followers l.footprints).map (fun f => collision {} 0 (layoutPath 0) (leader l.footprints f) f) =
      [⟨.warning, .layoutTokenCollision,
        "page 1 layout tokens '3' and ':' share sort key 3 (same color, arbitrary order)", "/pages/0/layout", none⟩] := by
    decide
  refine ⟨parsed, ⟨all, made, (reports all made).trans one⟩, fun strictly => ?_⟩
  rw [← increasing, one] at strictly
  cases strictly

end Lint

end ComicScript
