import ComicScript.Lint.Issue
import ComicScript.Proofs.Value.Text

/-!
# What checks find

Checks one after another find what each of them finds, in their order, unless one of them crashes. What holds of every
issue of each check holds of every issue of them all.
-/

namespace ComicScript.Lint
set_option autoImplicit false

/-- How bad an issue with a code is to a caller. -/
def Config.severityOf (cfg : Config) (code : Code) : Severity :=
  if code.severity = .warning ∧ code.name ∈ cfg.escalate then .error else code.severity

/-- Every issue that a check finds has a property. -/
def Each (P : Issue → Prop) (r : Findings) : Prop :=
  ∀ found, r = .ok found → ∀ i ∈ found, P i

variable {a b r : Findings} {cfg : Config} {code : Code} {path message : String} {hint : Option String}

theorem append_eq_ok_iff {found : List Issue} :
    a ++ b = .ok found ↔ ∃ first second, a = .ok first ∧ b = .ok second ∧ first ++ second = found := by
  constructor
  · intro h
    obtain ⟨first, here, h⟩ := exists_of_bind_eq_ok h
    obtain ⟨second, later, h⟩ := exists_of_bind_eq_ok h
    exact ⟨first, second, here, later, Except.ok.inj h⟩
  · rintro ⟨first, second, rfl, rfl, rfl⟩
    rfl

theorem append_eq_nil_iff : a ++ b = .ok [] ↔ a = .ok [] ∧ b = .ok [] := by
  rw [append_eq_ok_iff]
  constructor
  · rintro ⟨first, second, rfl, rfl, none⟩
    obtain ⟨rfl, rfl⟩ := List.append_eq_nil_iff.1 none
    exact ⟨rfl, rfl⟩
  · rintro ⟨rfl, rfl⟩
    exact ⟨[], [], rfl, rfl, rfl⟩

@[simp] theorem append_noIssues (r : Findings) : r ++ noIssues = r := by
  cases r with
  | ok found => exact congrArg Except.ok (List.append_nil found)
  | error c => rfl

@[simp] theorem noIssues_append (r : Findings) : noIssues ++ r = r := by
  cases r <;> rfl

/-- Checks one after another need the texts that each of them needs. -/
theorem needsShort_append {ns ms : List Int} (ha : NeedsShort a ns) (hb : NeedsShort b ms) :
    NeedsShort (a ++ b) (ns ++ ms) :=
  ha.bind fun _ _ => hb.bind_pure _

theorem needsShort_report : NeedsShort (report cfg code path message hint) [] := by
  unfold report
  split <;> exact .pure _

/-- A report is one issue, unless its code is left out. -/
theorem report_eq (kept : code.name ∉ cfg.ignore) :
    report cfg code path message hint = .ok [⟨cfg.severityOf code, code, message, path, hint⟩] :=
  if_neg kept

theorem report_eq_nil_iff : report cfg code path message hint = .ok [] ↔ code.name ∈ cfg.ignore := by
  by_cases ignored : code.name ∈ cfg.ignore
  · exact iff_of_true (if_pos ignored) ignored
  · rw [report_eq ignored]
    exact iff_of_false nofun ignored

theorem ne_nil_iff_of_report {found : List Issue} (made : report cfg code path message hint = .ok found) :
    found ≠ [] ↔ code.name ∉ cfg.ignore := by
  rw [← @report_eq_nil_iff cfg code path message hint, made, Ne, Except.ok.injEq]

namespace Each

variable {P Q : Issue → Prop}

theorem noIssues : Each P noIssues := by
  intro found made i member
  cases made
  cases member

theorem append (ha : Each P a) (hb : Each P b) : Each P (a ++ b) := by
  intro found made i member
  obtain ⟨first, second, here, later, rfl⟩ := append_eq_ok_iff.1 made
  rcases List.mem_append.1 member with left | right
  · exact ha first here i left
  · exact hb second later i right

/-- A check that comes after a step. -/
theorem bind {α : Type} {x : Except Crash α} {f : α → Findings} (h : ∀ a, x = .ok a → Each P (f a)) : Each P (x >>= f) := by
  intro found made
  obtain ⟨a, here, later⟩ := exists_of_bind_eq_ok made
  exact h a here found later

theorem mono (h : Each P r) (sub : ∀ i, P i → Q i) : Each Q r :=
  fun found made i member => sub i (h found made i member)

theorem report (h : P ⟨cfg.severityOf code, code, message, path, hint⟩) :
    Each P (Lint.report cfg code path message hint) := by
  intro found made i member
  by_cases ignored : code.name ∈ cfg.ignore
  · rw [report_eq_nil_iff.2 ignored] at made
    cases made
    cases member
  · rw [report_eq ignored] at made
    cases made
    rwa [List.mem_singleton.1 member]

end Each

end ComicScript.Lint
