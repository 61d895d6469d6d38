import ComicScript.Proofs.Crash
import ComicScript.Proofs.Decimal.Size
import ComicScript.Value.Text

/-!
# Values that can be written

A value has a text exactly if all integers in it are short enough for a numeral; else it is known for want of which text a
step crashes.
-/

namespace ComicScript
set_option autoImplicit false
open Decimal (Short intText)

/-- A step that goes through exactly if some integers are short, and crashes for want of a numeral else. -/
structure NeedsShort {α : Type} (r : Except Crash α) (ns : List Int) : Prop where
  ok : (∀ n ∈ ns, Short n) → ∃ a, r = .ok a
  crash : (∃ n ∈ ns, ¬ Short n) → r = .error .tooManyDigits

namespace NeedsShort

variable {α β : Type} {r : Except Crash α} {ns ms : List Int}

theorem ok_iff (h : NeedsShort r ns) : (∃ a, r = .ok a) ↔ ∀ n ∈ ns, Short n := by
  refine ⟨?_, h.ok⟩
  rintro ⟨a, made⟩ n member
  by_contra long
  have failed := h.crash ⟨n, member, long⟩
  rw [made] at failed
  cases failed

theorem error_iff (h : NeedsShort r ns) {c : Crash} :
    r = .error c ↔ c = .tooManyDigits ∧ ∃ n ∈ ns, ¬ Short n := by
  by_cases short : ∀ n ∈ ns, Short n
  · obtain ⟨a, made⟩ := h.ok short
    rw [made]
    refine ⟨nofun, ?_⟩
    rintro ⟨-, n, member, long⟩
    exact absurd (short n member) long
  · have long : ∃ n ∈ ns, ¬ Short n := by simpa using short
    rw [h.crash long]
    exact ⟨fun same => ⟨(Except.error.inj same).symm, long⟩, fun same => same.1 ▸ rfl⟩

theorem pure (a : α) : NeedsShort (.ok a : Except Crash α) [] :=
  ⟨fun _ => ⟨a, rfl⟩, nofun⟩

theorem bind (h : NeedsShort r ns) {f : α → Except Crash β} (hf : ∀ a, r = .ok a → NeedsShort (f a) ms) :
    NeedsShort (r >>= f) (ns ++ ms) := by
  constructor
  · intro short
    obtain ⟨a, made⟩ := h.ok fun n member => short n (List.mem_append_left _ member)
    obtain ⟨b, next⟩ := (hf a made).ok fun n member => short n (List.mem_append_right _ member)
    rw [made]
    exact ⟨b, next⟩
  · rintro ⟨n, member, long⟩
    by_cases short : ∀ m ∈ ns, Short m
    · obtain ⟨a, made⟩ := h.ok short
      have later := (List.mem_append.1 member).resolve_left fun first => long (short n first)
      rw [made]
      exact (hf a made).crash ⟨n, later, long⟩
    · rw [h.crash (by simpa using short)]
      rfl

theorem of_mem_iff (h : NeedsShort r ns) (same : ∀ n, n ∈ ns ↔ n ∈ ms) : NeedsShort r ms := by
  refine ⟨fun short => h.ok fun n member => short n ((same n).1 member), ?_⟩
  rintro ⟨n, member, long⟩
  exact h.crash ⟨n, (same n).2 member, long⟩

/-- A last step that cannot crash needs nothing. -/
theorem bind_pure (h : NeedsShort r ns) (f : α → β) : NeedsShort (r >>= fun a => .ok (f a)) ns := by
  simpa using h.bind fun a _ => pure (f a)

end NeedsShort

namespace Value

mutual

/-- The integers in a value, those in its keys as well. -/
def integers : Value → List Int
  | int n => [n]
  | list items => integersOf items
  | tuple items => integersOf items
  | map entries => integersOfEntries entries
  | set items => integersOf items
  | _ => []

/-- The integers in the items of a collection. -/
def integersOf : List Value → List Int
  | [] => []
  | item :: items => integers item ++ integersOf items

/-- The integers in the entries of a map. -/
def integersOfEntries : List (Value × Value) → List Int
  | [] => []
  | (key, value) :: entries => integers key ++ (integers value ++ integersOfEntries entries)

end

theorem needsShort_intText (n : Int) : NeedsShort (intText n) [n] := by
  constructor
  · exact fun short => ⟨_, (short n List.mem_cons_self).intText⟩
  · rintro ⟨m, member, long⟩
    obtain rfl := List.mem_singleton.1 member
    exact Decimal.intText_of_not_short long

mutual

/-- A value inside a collection has a text exactly if its integers are short. -/
theorem needsShort_quoted : ∀ v : Value, NeedsShort v.quoted v.integers
  | null => .pure _
  | bool _ => .pure _
  | int n => needsShort_intText n
  | float _ => .pure _
  | str _ => .pure _
  | list items => (needsShort_quotedItems items).bind_pure _
  | tuple [] => .pure _
  | tuple [item] => by
    have only := (needsShort_quoted item).bind_pure fun shown => "(" ++ shown ++ ",)"
    rwa [integers, integersOf, integersOf, List.append_nil]
  | tuple (first :: second :: rest) => (needsShort_quotedItems (first :: second :: rest)).bind_pure _
  | map entries => (needsShort_quotedEntries entries).bind_pure _
  | date _ => .pure _
  | moment _ => .pure _
  | bytes _ => .pure _
  | set [] => .pure _
  | set (item :: items) => (needsShort_quotedItems (item :: items)).bind_pure _

theorem needsShort_quotedItems : ∀ items : List Value, NeedsShort (quotedItems items) (integersOf items)
  | [] => .pure _
  | item :: items => (needsShort_quoted item).bind fun _ _ => (needsShort_quotedItems items).bind_pure _

theorem needsShort_quotedEntries :
    ∀ entries : List (Value × Value), NeedsShort (quotedEntries entries) (integersOfEntries entries)
  | [] => .pure _
  | (key, value) :: entries =>
    (needsShort_quoted key).bind fun _ _ =>
      (needsShort_quoted value).bind fun _ _ => (needsShort_quotedEntries entries).bind_pure _

end

/-- A value has a text exactly if its integers are short. -/
theorem needsShort_text (v : Value) : NeedsShort v.text v.integers := by
  cases v with
  | str s => exact .pure s
  | date d => exact .pure d.text
  | moment m => exact .pure m.text
  | _ => exact needsShort_quoted _

theorem texts_cons {v : Value} (present : v.isNull = false) (rest : List Value) :
    texts (v :: rest) = v.text >>= fun first => texts rest >>= fun others => .ok (first :: others) := by
  cases v with
  | null => cases present
  | _ => rfl

/-- The texts of the values that are not null exist exactly if all of them do. -/
theorem needsShort_texts (items : List Value) : NeedsShort (texts items) (integersOf items) := by
  induction items with
  | nil => exact .pure _
  | cons v rest ih =>
    cases present : v.isNull with
    | true =>
      cases v with
      | null => exact ih
      | _ => cases present
    | false =>
      rw [texts_cons present]
      exact (needsShort_text v).bind fun _ _ => ih.bind_pure _

/-- A value has a text. -/
def Writable (v : Value) : Prop :=
  ∀ n ∈ v.integers, Short n

theorem Writable.exists_text {v : Value} (h : v.Writable) : ∃ s, v.text = .ok s :=
  (needsShort_text v).ok h

theorem mem_integersOf {n : Int} {items : List Value} : n ∈ integersOf items ↔ ∃ v ∈ items, n ∈ v.integers := by
  induction items with
  | nil => simp [integersOf]
  | cons v rest ih => simp [integersOf, ih]

theorem integersOf_append (a b : List Value) : integersOf (a ++ b) = integersOf a ++ integersOf b := by
  induction a with
  | nil => rfl
  | cons v rest ih => rw [List.cons_append, integersOf, integersOf, ih, List.append_assoc]

/-- The integers of some values are short exactly if each of the values has a text. -/
theorem forall_integersOf_iff {items : List Value} : (∀ n ∈ integersOf items, Short n) ↔ ∀ v ∈ items, v.Writable := by
  simp only [mem_integersOf, Writable]
  exact ⟨fun h v member n inside => h n ⟨v, member, inside⟩, fun h n ⟨v, member, inside⟩ => h v member n inside⟩

/-- Of a step that needs some values to be written, a value that cannot be is enough for a crash. -/
theorem crash_of_not_writable {α : Type} {r : Except Crash α} {items : List Value} (h : NeedsShort r (integersOf items))
    {v : Value} (member : v ∈ items) (long : ¬ v.Writable) : r = .error .tooManyDigits := by
  refine h.crash ?_
  by_contra none
  exact long (forall_integersOf_iff.1 (by simpa using none) v member)

end Value

end ComicScript
