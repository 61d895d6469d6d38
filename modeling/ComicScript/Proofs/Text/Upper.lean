import ComicScript.Proofs.Text.Lines
import ComicScript.Text.Upper

/-!
# Capital letters and signs

The signs and digits that stand before the letters are no capital form of anything but themselves. So a text in capital
letters has the line feeds, spaces and signs that it had before, and is cut at them as before.
-/

namespace ComicScript.Text
set_option autoImplicit false

/-- A character before the capital letters, other than the zero character. -/
def IsSign (c : Char) : Prop := 0 < c.toNat ∧ c.toNat < 'A'.toNat

instance (c : Char) : Decidable (IsSign c) := inferInstanceAs (Decidable (_ ∧ _))

theorem eq_toNat_of_ofNat_eq {c : Char} (sign : IsSign c) {n : Nat} (h : Char.ofNat n = c) : n = c.toNat := by
  by_cases valid : n.isValidChar
  · rw [Char.ofNat, dif_pos valid] at h
    exact congrArg Char.toNat h
  · rw [Char.ofNat, dif_neg valid] at h
    subst h
    exact absurd sign (by decide)

theorem toUpper_of_sign : ∀ n < 0x80, IsSign (Char.ofNat n).toUpper → (Char.ofNat n).toUpper = Char.ofNat n := by
  decide

theorem not_isSign_of_mem_longCapitals : ∀ entry ∈ longCapitals.toList, ∀ n ∈ entry.2, ¬ IsSign (Char.ofNat n) := by
  decide

/-- Capital letters stand after the signs. -/
theorem le_shifted_of_mem_caseRuns : ∀ run ∈ caseRuns.toList, ('A'.toNat : Int) ≤ run.first + run.shift := by
  decide +kernel

/-- A sign is the capital form of nothing but itself. -/
theorem eq_of_mem_upperChar {c d : Char} (sign : IsSign d) (h : d ∈ upperChar c) : c = d := by
  unfold upperChar at h
  split at h
  · rename_i ascii
    have same := List.mem_singleton.1 h
    rw [same] at sign
    have kept := toUpper_of_sign c.toNat ascii
    rw [Char.ofNat_toNat] at kept
    exact (same.trans (kept sign)).symm
  · split at h
    · rename_i form found
      have entry := Array.mem_of_find?_eq_some found
      obtain ⟨n, listed, rfl⟩ := List.mem_map.1 h
      exact absurd sign (not_isSign_of_mem_longCapitals _ (Array.mem_toList_iff.2 entry) n listed)
    · split at h
      · rename_i run found
        have entry := Array.mem_of_find?_eq_some found
        have later := le_shifted_of_mem_caseRuns run (Array.mem_toList_iff.2 entry)
        have inside := Array.find?_some found
        simp only [CaseRun.contains, Bool.and_eq_true, decide_eq_true_eq] at inside
        have shifted := eq_toNat_of_ofNat_eq sign (List.mem_singleton.1 h).symm
        have before := sign.2
        omega
      · exact (List.mem_singleton.1 h).symm

theorem upperChar_of_isSign {c : Char} (sign : IsSign c) : upperChar c = [c] := by
  have ascii : c.toNat < 0x80 := Nat.lt_trans sign.2 (by decide)
  have all : ∀ n < 'A'.toNat, (Char.ofNat n).toUpper = Char.ofNat n := by decide
  have kept := all c.toNat sign.2
  rw [Char.ofNat_toNat] at kept
  rw [upperChar, if_pos ascii, kept]

theorem upperChar_ne_nil (c : Char) : upperChar c ≠ [] := by
  have forms : ∀ entry ∈ longCapitals.toList, entry.2 ≠ [] := by decide
  unfold upperChar
  split
  · exact List.cons_ne_nil _ _
  · split
    · rename_i form found
      have entry := Array.mem_of_find?_eq_some found
      simpa using forms _ (Array.mem_toList_iff.2 entry)
    · split <;> exact List.cons_ne_nil _ _

theorem upper_append (a b : String) : upper (a ++ b) = upper a ++ upper b := by
  rw [upper, String.toList_append, List.flatMap_append, String.ofList_append, upper, upper]

theorem not_mem_upper {c : Char} (sign : IsSign c) {s : String} (h : c ∉ s.toList) : c ∉ (upper s).toList := by
  intro member
  rw [upper, String.toList_ofList] at member
  obtain ⟨d, inside, written⟩ := List.mem_flatMap.1 member
  exact h (eq_of_mem_upperChar sign written ▸ inside)

theorem lineFeed_not_mem_upper {s : String} (h : '\n' ∉ s.toList) : '\n' ∉ (upper s).toList :=
  not_mem_upper (by decide) h

/-- A text has its signs in capital letters too. -/
theorem count_upper {c : Char} (sign : IsSign c) (s : String) : (upper s).toList.count c = s.toList.count c := by
  rw [upper, String.toList_ofList]
  induction s.toList with
  | nil => rfl
  | cons d rest ih =>
    rw [List.flatMap_cons, List.count_append, ih, List.count_cons, Nat.add_comm]
    by_cases same : d = c
    · rw [same, upperChar_of_isSign sign]
      simp
    · rw [List.count_eq_zero.2 fun member => same (eq_of_mem_upperChar sign member)]
      simp [same]

/-- Where a text in capital letters has a sign, the text has it. -/
theorem exists_of_flatMap_upperChar {d : Char} (sign : IsSign d) {s x y : List Char}
    (h : s.flatMap upperChar = x ++ d :: y) :
    ∃ u v, s = u ++ d :: v ∧ u.flatMap upperChar = x ∧ v.flatMap upperChar = y := by
  induction s generalizing x with
  | nil => simp at h
  | cons c rest ih =>
    rw [List.flatMap_cons] at h
    rcases List.append_eq_append_iff.1 h with ⟨more, rfl, later⟩ | ⟨more, here, later⟩
    · obtain ⟨u, v, rfl, same, after⟩ := ih later
      exact ⟨c :: u, v, rfl, by rw [List.flatMap_cons, same], after⟩
    · rcases List.cons_eq_append_iff.1 later with ⟨rfl, next⟩ | ⟨others, rfl, rfl⟩
      · obtain ⟨u, v, rfl, none, after⟩ := ih (x := []) next
        exact ⟨c :: u, v, rfl, by rw [List.flatMap_cons, none, here, List.append_nil, List.append_nil], after⟩
      · obtain rfl : c = d := eq_of_mem_upperChar sign (here ▸ List.mem_append_right x List.mem_cons_self)
        rw [upperChar_of_isSign sign] at here
        obtain ⟨rfl, rfl⟩ : x = [] ∧ others = [] := by simpa [List.cons_eq_append_iff] using here
        exact ⟨[], rest, rfl, rfl, rfl⟩

/-- A line feed in capital letters cuts a text where it has that line feed. -/
theorem exists_of_upper_eq {s x y : String} (h : upper s = x ++ "\n" ++ y) :
    ∃ u v, s = u ++ "\n" ++ v ∧ upper u = x ∧ upper v = y := by
  have cut : s.toList.flatMap upperChar = x.toList ++ '\n' :: y.toList := by
    have same := congrArg String.toList h
    rw [upper, String.toList_ofList] at same
    simpa using same
  obtain ⟨u, v, same, before, after⟩ := exists_of_flatMap_upperChar (by decide) cut
  refine ⟨String.ofList u, String.ofList v, ?_, ?_, ?_⟩
  · rw [← String.toList_inj]
    simpa using same
  · rw [upper, String.toList_ofList, before, String.ofList_toList]
  · rw [upper, String.toList_ofList, after, String.ofList_toList]

theorem prefix_of_prefix_flatMap_upperChar {lead s : List Char} (signs : ∀ c ∈ lead, IsSign c)
    (h : lead <+: s.flatMap upperChar) : lead <+: s := by
  induction lead generalizing s with
  | nil => exact List.nil_prefix
  | cons d lead ih =>
    obtain ⟨sign, signs⟩ := List.forall_mem_cons.1 signs
    obtain ⟨y, same⟩ := h
    obtain ⟨u, v, rfl, none, after⟩ := exists_of_flatMap_upperChar (x := []) sign same.symm
    -- only the empty text is empty in capital letters
    obtain rfl : u = [] := by
      rw [List.eq_nil_iff_forall_not_mem]
      exact fun c member => upperChar_ne_nil c (List.flatMap_eq_nil_iff.1 none c member)
    exact List.cons_prefix_cons.2 ⟨rfl, ih signs ⟨y, after.symm⟩⟩

/-- A text begins with signs if it does in capital letters. -/
theorem startsWith_of_startsWith_upper {lead s : String} (signs : ∀ c ∈ lead.toList, IsSign c)
    (h : startsWith lead (upper s) = true) : startsWith lead s = true := by
  rw [startsWith, List.isPrefixOf_iff_prefix, upper, String.toList_ofList] at h
  rw [startsWith, List.isPrefixOf_iff_prefix]
  exact prefix_of_prefix_flatMap_upperChar signs h

end ComicScript.Text
