import ComicScript.Proofs.Lint.Codes
import ComicScript.Proofs.Script.Written

/-!
# What lint writes

Lint writes keys and layouts into its reports. It finds what there is to find exactly if all the integers in them are
short, whatever a caller asks for.
-/

namespace ComicScript
set_option autoImplicit false

/-- The keys of a mapping; anything else has none. -/
def Value.keys : Value → List Value
  | .map entries => entries.map (·.1)
  | _ => []

namespace Lint

/-- The integers of the key of an entry of dialogue. -/
def entryWritten : Value → List Int
  | .map [(key, _)] => key.integers
  | _ => []

/-- The integers that are written of a panel. -/
def panelWritten (v : Value) : List Int :=
  Value.integersOf v.keys ++ (v.get "dialogue").items.flatMap entryWritten

/-- The integers that are written of a page. -/
def pageWritten (v : Value) : List Int :=
  Value.integersOf v.keys ++ (v.get "panels").items.flatMap panelWritten ++ (v.get "layout").rowIntegers

/-- The integers that are written of a script. -/
def written (v : Value) : List Int :=
  Value.integersOf v.keys ++ (v.get "pages").items.flatMap pageWritten

variable {cfg : Config}

theorem needsShort_append_pure {a b : Findings} {ns : List Int} (ha : NeedsShort a ns) (hb : NeedsShort b []) :
    NeedsShort (a ++ b) ns := by
  simpa using needsShort_append ha hb

/-- Known keys are texts, and unknown ones are written. -/
theorem needsShort_keyIssues (allowed : List String) (path : String) (key : Value) :
    NeedsShort (keyIssues cfg allowed path key) key.integers := by
  unfold keyIssues
  split
  · rename_i known
    cases key with
    | str s => exact .pure _
    | _ => cases known
  · have twice := key.needsShort_quoted.bind fun shown _ => key.needsShort_text.bind fun name _ =>
      @needsShort_report cfg .unknownKey (path ++ "/" ++ name) ("unknown key " ++ shown ++ " is ignored")
        (some ("expected one of: " ++ ", ".intercalate allowed))
    exact twice.of_mem_iff fun n => by simp

theorem needsShort_unknownKeys (allowed : List String) (path : String) (entries : List (Value × Value)) :
    NeedsShort (unknownKeys cfg allowed path entries) (Value.integersOf (entries.map (·.1))) := by
  induction entries with
  | nil => exact .pure _
  | cons entry rest ih => exact needsShort_append (needsShort_keyIssues _ _ _) ih

theorem needsShort_wordingIssues (code : Code) (name : String) (entries : List (Value × Value)) :
    NeedsShort (wordingIssues cfg code name entries) [] := by
  unfold wordingIssues
  split
  · exact .pure _
  · exact .pure _
  · exact needsShort_report

theorem needsShort_creditIssues (entries : List (Value × Value)) : NeedsShort (creditIssues cfg entries) [] := by
  unfold creditIssues
  split
  · exact needsShort_report
  · exact needsShort_report
  · exact .pure _

theorem needsShort_entryIssues (path : String) (v : Value) : NeedsShort (entryIssues cfg path v) (entryWritten v) := by
  unfold entryIssues
  split
  · rename_i key _
    rw [entryWritten, ← key.integers.append_nil]
    refine key.needsShort_text.bind fun name _ => ?_
    split
    · exact needsShort_report
    · exact .pure _
  · rename_i other
    have nothing : entryWritten v = [] := by
      unfold entryWritten
      split
      · exact absurd rfl (other _ _)
      · rfl
    rw [nothing]
    exact needsShort_report

theorem needsShort_entriesFrom (path : String) (i : Nat) (items : List Value) :
    NeedsShort (entriesFrom cfg path i items) (items.flatMap entryWritten) := by
  induction items generalizing i with
  | nil => exact .pure _
  | cons v rest ih => exact needsShort_append (needsShort_entryIssues _ v) (ih (i + 1))

theorem needsShort_dialogueIssues (path : String) (v : Value) :
    NeedsShort (dialogueIssues cfg path v) (v.items.flatMap entryWritten) := by
  cases v with
  | null => exact .pure _
  | list items => exact needsShort_entriesFrom _ _ items
  | _ => exact needsShort_report

theorem needsShort_panelIssues (page panel : Nat) (path : String) (v : Value) :
    NeedsShort (panelIssues cfg page panel path v) (panelWritten v) := by
  cases v with
  | map entries => exact needsShort_append (needsShort_unknownKeys _ _ _) (needsShort_dialogueIssues _ _)
  | _ => exact needsShort_report

theorem needsShort_panelsFrom (page : Nat) (path : String) (i : Nat) (items : List Value) :
    NeedsShort (panelsFrom cfg page path i items) (items.flatMap panelWritten) := by
  induction items generalizing i with
  | nil => exact .pure _
  | cons v rest ih => exact needsShort_append (needsShort_panelIssues _ _ _ v) (ih (i + 1))

theorem needsShort_pagePanels (page : Nat) (path : String) (v : Value) :
    NeedsShort (pagePanels cfg page path v).1 (v.items.flatMap panelWritten) := by
  cases v with
  | null => exact .pure _
  | list items => exact needsShort_panelsFrom _ _ _ items
  | _ => exact needsShort_report

theorem needsShort_collisionIssues (page : Nat) (path : String) (before footprints : List Footprint) :
    NeedsShort (collisionIssues cfg page path before footprints) [] := by
  induction footprints generalizing before with
  | nil => exact .pure _
  | cons f rest ih =>
    refine needsShort_append_pure ?_ (ih _)
    split
    · exact .pure _
    · split
      · exact .pure _
      · exact needsShort_report

theorem needsShort_parsedIssues (page : Nat) (path : String) (panelCount : Option Nat) (l : Layout) :
    NeedsShort (parsedIssues cfg page path panelCount l) [] := by
  refine needsShort_append_pure (needsShort_collisionIssues _ _ _ _) ?_
  split
  · exact .pure _
  · split
    · exact needsShort_report
    · exact .pure _

theorem needsShort_layoutSource? (layout : Value) : NeedsShort (layoutSource? layout) layout.rowIntegers := by
  cases layout with
  | int n => exact (Value.needsShort_text (.int n)).bind_pure _
  | float x => exact (Value.needsShort_text (.float x)).bind_pure _
  | list items => exact (Value.needsShort_texts items).bind_pure _
  | _ => exact .pure _

theorem needsShort_layoutIssues (page : Nat) (path : String) (panelCount : Option Nat) (layout : Value) :
    NeedsShort (layoutIssues cfg page path panelCount layout) layout.rowIntegers := by
  unfold layoutIssues
  split
  · rename_i null
    cases layout with
    | null => exact .pure _
    | _ => cases null
  · rw [← layout.rowIntegers.append_nil]
    refine (needsShort_layoutSource? layout).bind fun source? read => ?_
    cases source? with
    | none => exact needsShort_report
    | some source =>
      obtain ⟨l, parsed⟩ := exists_parse_layoutSource read
      simp only [parsed]
      exact needsShort_parsedIssues _ _ _ _

theorem needsShort_pageIssues (page : Nat) (path : String) (v : Value) :
    NeedsShort (pageIssues cfg page path v) (pageWritten v) := by
  cases v with
  | map entries =>
    exact needsShort_append (needsShort_append (needsShort_unknownKeys _ _ _) (needsShort_pagePanels _ _ _))
      (needsShort_layoutIssues _ _ _ _)
  | _ => exact needsShort_report

theorem needsShort_pagesFrom (i : Nat) (items : List Value) :
    NeedsShort (pagesFrom cfg i items) (items.flatMap pageWritten) := by
  induction items generalizing i with
  | nil => exact .pure _
  | cons v rest ih => exact needsShort_append (needsShort_pageIssues _ _ v) (ih (i + 1))

/-- Lint finds what there is to find exactly if all that it writes can be written. -/
theorem needsShort_issues (cfg : Config) (v : Value) : NeedsShort (issues cfg v) (written v) := by
  cases v with
  | map entries =>
    refine needsShort_append ?_ ?_
    · refine needsShort_append_pure (needsShort_append_pure (needsShort_append_pure ?_ ?_) ?_) ?_
      · exact needsShort_unknownKeys _ _ _
      · exact needsShort_wordingIssues _ _ _
      · exact needsShort_wordingIssues _ _ _
      · exact needsShort_creditIssues _
    · show NeedsShort _ ((Value.field "pages" entries).items.flatMap pageWritten)
      cases Value.field "pages" entries with
      | null => exact .pure _
      | list pages => exact needsShort_pagesFrom _ pages
      | _ => exact needsShort_report
  | _ => exact needsShort_report

/-! ## The integers of a whole script -/

theorem integersOf_keys_subset (v : Value) : Value.integersOf v.keys ⊆ v.integers := by
  cases v with
  | map entries =>
    show Value.integersOf (entries.map (·.1)) ⊆ Value.integersOfEntries entries
    induction entries with
    | nil => exact List.nil_subset _
    | cons entry rest ih =>
      refine List.append_subset.2 ⟨List.subset_append_left _ _, ?_⟩
      exact List.Subset.trans ih (List.subset_append_of_subset_right _ (List.subset_append_right _ _))
  | _ => exact List.nil_subset _

theorem entryWritten_subset (v : Value) : entryWritten v ⊆ v.integers := by
  unfold entryWritten
  split
  · exact List.subset_append_left _ _
  · exact List.nil_subset _

theorem panelWritten_subset (v : Value) : panelWritten v ⊆ v.integers := by
  refine List.append_subset.2 ⟨integersOf_keys_subset v, ?_⟩
  exact List.Subset.trans (Value.flatMap_items_subset entryWritten_subset _) (Value.integers_get_subset _ v)

theorem pageWritten_subset (v : Value) : pageWritten v ⊆ v.integers := by
  refine List.append_subset.2 ⟨List.append_subset.2 ⟨integersOf_keys_subset v, ?_⟩, ?_⟩
  · exact List.Subset.trans (Value.flatMap_items_subset panelWritten_subset _) (Value.integers_get_subset _ v)
  · exact List.Subset.trans (Value.rowIntegers_subset _) (Value.integers_get_subset _ v)

/-- Nothing is written that is not in the script. -/
theorem written_subset (v : Value) : written v ⊆ v.integers := by
  refine List.append_subset.2 ⟨integersOf_keys_subset v, ?_⟩
  exact List.Subset.trans (Value.flatMap_items_subset pageWritten_subset _) (Value.integers_get_subset _ v)

/-- Lint comes to an end on a script that can be written. -/
theorem exists_issues {v : Value} (h : v.Writable) (cfg : Config) : ∃ found, issues cfg v = .ok found :=
  (needsShort_issues cfg v).ok fun n member => h n (written_subset v member)

end Lint

end ComicScript
