import ComicScript.Proofs.Script.Pages
import ComicScript.Proofs.Value.Text

/-!
# What decoding writes

Decoding turns keys, fields and rows into text. It crashes exactly for want of one of these texts: a chapter is read only
if all the integers in them are short, and with short ones it is read or refused.
-/

namespace ComicScript
set_option autoImplicit false
open Decimal (Short)

/-- A step that writes some integers on its way: it gives a result only if they are short, and crashes only if they are
not. -/
structure Writes {ε α : Type} (r : Except (Stop ε) α) (ns : List Int) : Prop where
  short : ∀ a, r = .ok a → ∀ n ∈ ns, Short n
  long : ∀ c, r = .error (.crashed c) → c = .tooManyDigits ∧ ∃ n ∈ ns, ¬ Short n

namespace Writes

variable {ε α β : Type} {r : Except (Stop ε) α} {ns ms : List Int}

theorem pure (a : α) : Writes (.ok a : Except (Stop ε) α) [] :=
  ⟨fun _ _ _ member => absurd member List.not_mem_nil, nofun⟩

/-- What is refused writes nothing more. -/
theorem refused (e : ε) : Writes (.error (.refused e) : Except (Stop ε) α) ns :=
  ⟨nofun, nofun⟩

/-- A text that is needed on the way. -/
theorem text {x : Except Crash α} (h : NeedsShort x ns) : Writes (liftM x : Except (Stop ε) α) ns := by
  constructor
  · intro a made
    exact h.ok_iff.1 ⟨a, eq_ok_of_mapError made⟩
  · intro c failed
    obtain ⟨d, crashed, same⟩ := eq_error_of_mapError failed
    cases same
    exact h.error_iff.1 crashed

theorem bind (h : Writes r ns) {f : α → Except (Stop ε) β} (hf : ∀ a, r = .ok a → Writes (f a) ms) :
    Writes (r >>= f) (ns ++ ms) := by
  cases r with
  | ok a =>
    have next := hf a rfl
    constructor
    · intro b made
      exact List.forall_mem_append.2 ⟨h.short a rfl, next.short b made⟩
    · intro c failed
      obtain ⟨kind, n, member, long⟩ := next.long c failed
      exact ⟨kind, n, List.mem_append_right _ member, long⟩
  | error stop =>
    refine ⟨nofun, fun c failed => ?_⟩
    cases failed
    obtain ⟨kind, n, member, long⟩ := h.long c rfl
    exact ⟨kind, n, List.mem_append_left _ member, long⟩

/-- A last step that cannot stop writes nothing. -/
theorem bind_pure (h : Writes r ns) (f : α → β) : Writes (r >>= fun a => .ok (f a)) ns := by
  simpa using h.bind fun a _ => pure (f a)

/-- A step that does not stop before it may be refused. -/
theorem bind_refusable {x : Except ε α} {f : α → Except (Stop ε) β} (h : ∀ a, x = .ok a → Writes (f a) ns) :
    Writes ((liftM x : Except (Stop ε) α) >>= f) ns := by
  cases x with
  | ok a => exact h a rfl
  | error e => exact refused e

theorem crashed_iff (h : Writes r ns) (accepted : ∀ e, r ≠ .error (.refused e)) {c : Crash} :
    r = .error (.crashed c) ↔ c = .tooManyDigits ∧ ∃ n ∈ ns, ¬ Short n := by
  refine ⟨h.long c, ?_⟩
  rintro ⟨rfl, n, member, long⟩
  cases r with
  | ok a => exact absurd (h.short a rfl n member) long
  | error stop =>
    cases stop with
    | refused e => exact absurd rfl (accepted e)
    | crashed c => rw [(h.long c rfl).1]

end Writes

/-! ## The integers that are written -/

/-- The integers of a text field: of what is dropped none is written. -/
def Value.fieldIntegers : Value → List Int
  | .list _ => []
  | .map _ => []
  | v => v.integers

/-- The integers of a number or of the items of a list, where a text or a list of texts is expected. -/
def Value.rowIntegers : Value → List Int
  | .int n => [n]
  | .list items => integersOf items
  | _ => []

/-- The integers of a layout. -/
def Value.layoutIntegers : Value → List Int
  | .list items => integersOf items
  | v => v.fieldIntegers

/-- The integers of an entry of dialogue. -/
def Dialogue.written : Value → List Int
  | .map [(key, text)] => key.integers ++ text.integers
  | _ => []

/-- The keys of the texts of a panel. -/
def Panel.textKeys : List String := ["name", "desc", "fx", "caption", "endCaption"]

/-- The integers of a panel. -/
def Panel.written (v : Value) : List Int :=
  (v.get "dialogue").items.flatMap Dialogue.written ++ textKeys.flatMap fun name => (v.get name).fieldIntegers

/-- The integers of a page. -/
def Page.written (v : Value) : List Int :=
  (v.get "name").fieldIntegers ++ ((v.get "layout").layoutIntegers ++ (v.get "panels").items.flatMap Panel.written)

/-- The integers of a chapter. -/
def Chapter.written (v : Value) : List Int :=
  (v.get "credits").rowIntegers ++ (v.get "pages").items.flatMap Page.written

/-! ## Decoding -/

theorem Value.needsShort_fieldText? (v : Value) : NeedsShort v.fieldText? v.fieldIntegers := by
  cases v with
  | null => exact .pure _
  | bool b => exact .pure _
  | list items => exact .pure _
  | map entries => exact .pure _
  | _ => exact (needsShort_text _).bind_pure _

theorem Value.needsShort_textOrEmpty (v : Value) : NeedsShort v.textOrEmpty v.integers := by
  unfold textOrEmpty
  split
  · exact .pure _
  · exact v.needsShort_text

theorem needsShort_creditsOf (v : Value) : NeedsShort (creditsOf v) v.rowIntegers := by
  cases v with
  | int n => exact (Value.needsShort_text (.int n)).bind_pure _
  | float x => exact (Value.needsShort_text (.float x)).bind_pure _
  | list items =>
    cases items with
    | nil => exact .pure _
    | cons item rest => exact (Value.needsShort_texts (item :: rest)).bind_pure _
  | _ => exact .pure _

theorem Page.needsShort_layoutOf (v : Value) : NeedsShort (layoutOf v) v.layoutIntegers := by
  cases v with
  | list items => exact (Value.needsShort_texts items).bind_pure _
  | _ => exact (Value.needsShort_fieldText? _).bind_pure _

theorem Dialogue.needsShort_ofValue? (v : Value) : NeedsShort (ofValue? v) (written v) := by
  unfold ofValue?
  split
  · rename_i key text
    exact key.needsShort_textOrEmpty.bind fun _ _ => text.needsShort_textOrEmpty.bind_pure _
  · rename_i other
    have nothing : written v = [] := by
      unfold written
      split
      · exact absurd rfl (other _ _)
      · rfl
    rw [nothing]
    exact .pure _

theorem Dialogue.needsShort_ofItems (items : List Value) : NeedsShort (ofItems items) (items.flatMap written) := by
  induction items with
  | nil => exact .pure _
  | cons item rest ih => exact (needsShort_ofValue? item).bind fun _ _ => ih.bind_pure _

theorem Panel.writes_ofValue (path : String) (v : Value) : Writes (ofValue path v) (written v) := by
  refine Writes.bind_refusable fun entries mapping => ?_
  obtain rfl := Value.eq_map_of_entriesAt mapping
  refine Writes.bind_refusable fun items listed => ?_
  obtain rfl := Value.items_of_listAt listed
  have field (name : String) : Writes (liftM (Value.field name entries).fieldText? : Except (Stop ScriptError) _) _ :=
    .text (Value.needsShort_fieldText? _)
  refine (Writes.text (Dialogue.needsShort_ofItems _)).bind fun _ _ => ?_
  refine (field "name").bind fun _ _ => (field "desc").bind fun _ _ => (field "fx").bind fun _ _ => ?_
  exact (field "caption").bind fun _ _ => (field "endCaption").bind fun _ _ => .pure _

theorem Panel.writes_listFrom (path : String) (i : Nat) (items : List Value) :
    Writes (listFrom path i items) (items.flatMap written) := by
  induction items generalizing i with
  | nil => exact .pure _
  | cons v rest ih => exact (writes_ofValue _ v).bind fun _ _ => (ih (i + 1)).bind_pure _

theorem Page.writes_ofValue (path : String) (v : Value) : Writes (ofValue path v) (written v) := by
  refine Writes.bind_refusable fun entries mapping => ?_
  obtain rfl := Value.eq_map_of_entriesAt mapping
  refine Writes.bind_refusable fun items listed => ?_
  obtain rfl := Value.items_of_listAt listed
  refine (Writes.text (Value.needsShort_fieldText? _)).bind fun _ _ => ?_
  refine (Writes.text (needsShort_layoutOf _)).bind fun _ _ => ?_
  exact (Panel.writes_listFrom _ _ _).bind_pure _

theorem Page.writes_listFrom (i : Nat) (items : List Value) : Writes (listFrom i items) (items.flatMap written) := by
  induction items generalizing i with
  | nil => exact .pure _
  | cons v rest ih => exact (writes_ofValue _ v).bind fun _ _ => (ih (i + 1)).bind_pure _

/-- A chapter is read only if all that is written can be, and then it is read or refused. -/
theorem Chapter.writes_ofValue (v : Value) : Writes (ofValue v) (written v) := by
  refine Writes.bind_refusable fun entries mapping => ?_
  obtain rfl := Value.eq_map_of_entriesAt mapping
  refine Writes.bind_refusable fun items listed => ?_
  obtain rfl := Value.items_of_listAt listed
  refine (Writes.text (needsShort_creditsOf _)).bind fun _ _ => ?_
  exact (Page.writes_listFrom _ _).bind_pure _

/-! ## The integers of a whole script -/

namespace Value

theorem integers_field_subset (name : String) (entries : List (Value × Value)) :
    (field name entries).integers ⊆ integersOfEntries entries := by
  induction entries with
  | nil => exact List.nil_subset _
  | cons entry rest ih =>
    obtain ⟨key, value⟩ := entry
    have later : (field name rest).integers ⊆ integersOfEntries ((key, value) :: rest) := fun n inside =>
      List.mem_append_right _ (List.mem_append_right _ (ih inside))
    cases key with
    | str s =>
      by_cases same : s = name
      · have here : field name ((.str s, value) :: rest) = value := by simp [field, find?, same]
        rw [here]
        exact fun n inside => List.mem_append_right _ (List.mem_append_left _ inside)
      · have there : field name ((.str s, value) :: rest) = field name rest := by simp [field, find?, same]
        rwa [there]
    | _ => exact later

theorem integers_get_subset (name : String) (v : Value) : (v.get name).integers ⊆ v.integers := by
  cases v with
  | map entries => exact integers_field_subset name entries
  | _ => exact List.nil_subset _

theorem integersOf_items_subset (v : Value) : integersOf v.items ⊆ v.integers := by
  cases v with
  | list items => exact List.Subset.refl _
  | _ => exact List.nil_subset _

/-- What is written of the items of a list is in the list. -/
theorem flatMap_items_subset {written : Value → List Int} (h : ∀ v, written v ⊆ v.integers) (v : Value) :
    v.items.flatMap written ⊆ v.integers := by
  intro n member
  obtain ⟨item, listed, inside⟩ := List.mem_flatMap.1 member
  exact v.integersOf_items_subset (mem_integersOf.2 ⟨item, listed, h item inside⟩)

theorem fieldIntegers_subset (v : Value) : v.fieldIntegers ⊆ v.integers := by
  cases v <;> simp [fieldIntegers]

theorem rowIntegers_subset (v : Value) : v.rowIntegers ⊆ v.integers := by
  cases v <;> simp [rowIntegers, integers]

theorem layoutIntegers_subset (v : Value) : v.layoutIntegers ⊆ v.integers := by
  unfold layoutIntegers
  split
  · exact List.Subset.refl _
  · exact v.fieldIntegers_subset

end Value

open Value

theorem Dialogue.written_subset (v : Value) : written v ⊆ v.integers := by
  unfold written
  split
  · simp [integers, integersOfEntries]
  · exact List.nil_subset _

theorem Panel.written_subset (v : Value) : written v ⊆ v.integers := by
  refine List.append_subset.2 ⟨?_, ?_⟩
  · exact List.Subset.trans (flatMap_items_subset Dialogue.written_subset _) (integers_get_subset _ v)
  · intro n member
    obtain ⟨name, -, inside⟩ := List.mem_flatMap.1 member
    exact integers_get_subset name v (fieldIntegers_subset _ inside)

theorem Page.written_subset (v : Value) : written v ⊆ v.integers := by
  refine List.append_subset.2 ⟨?_, List.append_subset.2 ⟨?_, ?_⟩⟩
  · exact List.Subset.trans (fieldIntegers_subset _) (integers_get_subset _ v)
  · exact List.Subset.trans (layoutIntegers_subset _) (integers_get_subset _ v)
  · exact List.Subset.trans (flatMap_items_subset Panel.written_subset _) (integers_get_subset _ v)

/-- Nothing is written that is not in the script. -/
theorem Chapter.written_subset (v : Value) : written v ⊆ v.integers := by
  refine List.append_subset.2 ⟨?_, ?_⟩
  · exact List.Subset.trans (rowIntegers_subset _) (integers_get_subset _ v)
  · exact List.Subset.trans (flatMap_items_subset Page.written_subset _) (integers_get_subset _ v)

/-- A script that can be written is a chapter or refused. -/
theorem Chapter.ofValue_ne_crashed {v : Value} (h : v.Writable) (c : Crash) : ofValue v ≠ .error (.crashed c) := by
  intro failed
  obtain ⟨-, n, member, long⟩ := (writes_ofValue v).long c failed
  exact long (h n (written_subset v member))

end ComicScript
