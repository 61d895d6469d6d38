import ComicScript.Output.Suite
import ComicScript.Proofs.Crash
import ComicScript.Proofs.Decimal.Numeral
import ComicScript.Proofs.Text.Lines
import Mathlib.Data.List.Nodup

/-!
# The files of a suite

A written file holds its text as long as nothing else is written to its path. Every diagram of a suite has a file of its own:
numbers with different values have different names. So no file is written twice, and if all that a suite is made of is there,
what is written one file after another is the list of those files, and all of them are found after a run.
-/

namespace ComicScript
set_option autoImplicit false

namespace Files

theorem textOf?_put (p q : Path) (text : String) (files : Files) :
    textOf? (put p text files) q = if p = q then some text else textOf? files q := by
  induction files with
  | nil => by_cases same : p = q <;> simp [put, textOf?, same]
  | cons file rest ih =>
    obtain ⟨r, old⟩ := file
    unfold textOf? at ih ⊢
    rw [put]
    by_cases here : r = p
    · subst here
      by_cases same : r = q <;> simp [same]
    · rw [if_neg here]
      by_cases found : r = q
      · subst found
        simp [Ne.symm here]
      · simpa [found] using ih

/-- A path that is not written to keeps its text. -/
theorem textOf?_foldl_put_of_not_mem {entries : Files} {p : Path} (other : p ∉ entries.map (·.1)) (files : Files) :
    textOf? (entries.foldl (fun written entry => put entry.1 entry.2 written) files) p = textOf? files p := by
  induction entries generalizing files with
  | nil => rfl
  | cons entry rest ih =>
    rw [List.map_cons, List.mem_cons, not_or] at other
    rw [List.foldl_cons, ih other.2, textOf?_put, if_neg (Ne.symm other.1)]

/-- Of entries with different paths every one is found, whatever was written before. -/
theorem textOf?_foldl_put {entries : Files} (distinct : (entries.map (·.1)).Nodup) {p : Path} {text : String}
    (listed : (p, text) ∈ entries) (files : Files) :
    textOf? (entries.foldl (fun written entry => put entry.1 entry.2 written) files) p = some text := by
  induction entries generalizing files with
  | nil => cases listed
  | cons entry rest ih =>
    obtain ⟨fresh, others⟩ := List.nodup_cons.1 distinct
    rw [List.foldl_cons]
    rcases List.mem_cons.1 listed with rfl | later
    · rw [textOf?_foldl_put_of_not_mem fresh, textOf?_put, if_pos rfl]
    · exact ih others later _

end Files

/-! ## Steps that write -/

/-- A step puts some files, one after another, and gives a result. -/
def Puts {α : Type} (step : Writing α) (entries : Files) (a : α) : Prop :=
  ∀ files, step.run.run files = (.ok a, entries.foldl (fun written entry => Files.put entry.1 entry.2 written) files)

namespace Puts

variable {α β : Type} {a : α} {b : β} {entries more : Files}

theorem pure (a : α) : Puts (pure a) [] a := fun _ => rfl

theorem bind {x : Writing α} {f : α → Writing β} (hx : Puts x entries a) (hf : Puts (f a) more b) :
    Puts (x >>= f) (entries ++ more) b := by
  intro files
  have next := hf (entries.foldl (fun written entry => Files.put entry.1 entry.2 written) files)
  rw [List.foldl_append, ← next]
  show ((x >>= f).run.run files : Except Crash β × Files) = _
  rw [ExceptT.run_bind, StateT.run_bind, hx files]
  rfl

/-- A last step that writes nothing. -/
theorem bind_pure {x : Writing α} (hx : Puts x entries a) (f : α → β) : Puts (x >>= fun a => Pure.pure (f a)) entries (f a) := by
  simpa using Puts.bind (f := fun a => Pure.pure (f a)) hx (pure (f a))

theorem writeFile_bind {p : Path} {text : String} {f : Unit → Writing β} (h : Puts (f ()) entries b) :
    Puts (writeFile p text >>= f) ((p, text) :: entries) b :=
  have one : Puts (writeFile p text) [(p, text)] () := fun _ => rfl
  one.bind h

/-- A step that may crash, but does not, writes nothing. -/
theorem lift_bind {x : Except Crash α} {f : α → Writing β} (made : x = .ok a) (h : Puts (f a) entries b) :
    Puts (liftM x >>= f) entries b := by
  subst made
  have none : Puts (liftM (.ok a : Except Crash α)) [] a := fun _ => rfl
  exact none.bind h

end Puts

namespace Path

/-- A path inside another, by its names. -/
def below (p : Path) (names : List String) : Path :=
  { p with names := p.names ++ names }

theorem below_inj {p : Path} {a b : List String} (h : p.below a = p.below b) : a = b :=
  List.append_cancel_left (congrArg Path.names h)

theorem below_below (p : Path) (a b : List String) : (p.below a).below b = p.below (a ++ b) := by
  simp [below]

/-- A name that is one name of a path. -/
def IsPlain (name : String) : Prop :=
  name.isEmpty = false ∧ name ≠ "." ∧ '/' ∉ name.toList

/-- The child with a plain name is the path with that name. -/
theorem child_eq {name : String} (h : IsPlain name) (p : Path) : p.child name = p.below [name] := by
  obtain ⟨some_chars, no_dot, no_slash⟩ := h
  have root : rootOf name.toList = "" := by
    have none : name.toList.takeWhile (· == '/') = [] := by
      cases chars : name.toList with
      | nil => rfl
      | cons c rest =>
        rw [chars, List.mem_cons, not_or] at no_slash
        simp [Ne.symm no_slash.1]
    rw [rootOf, none]
    rfl
  have only : Text.splitOn '/' name = [name] := by
    have whole := Text.Chars.splitOn_append no_slash []
    rw [List.append_nil] at whole
    rw [Text.splitOn, whole]
    simp [Text.Chars.splitOn]
  have read : ofString name = ⟨"", [name]⟩ := by
    rw [ofString, root, only]
    simp [some_chars, no_dot]
  rw [child, read]
  rfl

end Path

namespace Suite

theorem toList_filename (n : Nat) : (filename n).toList =
    "page_".toList ++ (Decimal.zeros (2 - (toString n).length) ++ Nat.toDigits 10 n) ++ ".svg".toList := by
  have positive : ¬ (n : Int) < 0 := by omega
  simp only [filename, if_neg positive, Int.natAbs_natCast, Decimal.padLeft, String.toList_append, String.toList_ofList,
    Nat.toString_eq_ofList_toDigits]

theorem ofDigitChars_zeros (k : Nat) (digits : List Char) :
    Nat.ofDigitChars 10 (Decimal.zeros k ++ digits) 0 = Nat.ofDigitChars 10 digits 0 := by
  induction k with
  | zero => rfl
  | succ k ih => simpa [Decimal.zeros, List.replicate_succ, Nat.ofDigitChars] using ih

/-- Diagrams with different numbers have different names. -/
theorem filename_inj {m n : Nat} (h : filename m = filename n) : m = n := by
  have same := congrArg String.toList h
  rw [toList_filename, toList_filename] at same
  have numerals := List.append_cancel_left (List.append_cancel_right same)
  have values := congrArg (fun digits => Nat.ofDigitChars 10 digits 0) numerals
  simpa [ofDigitChars_zeros] using values

theorem head?_filename (n : Nat) : (filename n).toList.head? = some 'p' := by
  simp [toList_filename]

theorem filename_ne_of_head? {n : Nat} {s : String} (h : s.toList.head? ≠ some 'p') : filename n ≠ s := by
  rintro rfl
  exact h (head?_filename n)

theorem slash_not_mem_filename (n : Nat) : '/' ∉ (filename n).toList := by
  rw [toList_filename]
  intro member
  simp only [List.mem_append] at member
  rcases member with (lead | zeros | digits) | ending
  · exact absurd lead (by decide)
  · exact absurd (List.eq_of_mem_replicate zeros) (by decide)
  · exact absurd (Decimal.isNumeral_of_mem_toDigits digits) (by decide)
  · exact absurd ending (by decide)

theorem isPlain_filename (n : Nat) : Path.IsPlain (filename n) := by
  refine ⟨?_, filename_ne_of_head? (by decide), slash_not_mem_filename n⟩
  have some_chars : filename n ≠ "" := filename_ne_of_head? (by decide)
  simpa using some_chars

/-- The diagram beside a page, where there is one. -/
def diagramOf (cfg : Config) (slot : Slot Page) : String :=
  textOf (Preview.pageDiagram cfg (some slot))

/-- The number of panels in a page's layout as the index has it, where it can be told. -/
def countOf (slot : Slot Page) : String :=
  textOf (layoutCount (pageOf slot))

/-- All that a suite is made of is there. -/
structure Complete (cfg : Config) (c : Chapter) : Prop where
  diagram : ∀ slot ∈ c.pageList, ∃ svg, Preview.pageDiagram cfg (some slot) = .ok svg
  count : ∀ slot ∈ c.pageList, ∃ count, layoutCount (pageOf slot) = .ok count
  title : ∃ title, indexTitle c = .ok title

/-- The files of diagrams by the numbers of their pages, and their rows in the index. -/
def pagesFrom (cfg : Config) (dir : Path) (number : Nat) (pages : List (Slot Page)) : List ((Path × String) × String) :=
  pages.mapIdx fun n slot =>
    ((dir.child (filename (number + n : Nat)), withFinalLineFeed (diagramOf cfg slot)),
      row (number + n) (pageOf slot) (countOf slot))

theorem pagesFrom_cons (cfg : Config) (dir : Path) (number : Nat) (slot : Slot Page) (rest : List (Slot Page)) :
    pagesFrom cfg dir number (slot :: rest) =
      ((dir.child (filename number), withFinalLineFeed (diagramOf cfg slot)), row number (pageOf slot) (countOf slot)) ::
        pagesFrom cfg dir (number + 1) rest := by
  rw [pagesFrom, List.mapIdx_cons]
  simp only [pagesFrom, Nat.add_assoc, Nat.add_comm 1, Nat.add_zero]

theorem writePages_cons (cfg : Config) (dir : Path) (number : Nat) (slot : Slot Page) (rest : List (Slot Page)) :
    writePages cfg dir number (slot :: rest) = liftM (Preview.pageDiagram cfg (some slot)) >>= fun svg =>
      writeFile (dir.child (filename number)) (withFinalLineFeed svg) >>= fun _ =>
        liftM (layoutCount (pageOf slot)) >>= fun count => writePages cfg dir (number + 1) rest >>= fun others =>
          pure ((dir.child (filename number), row number (pageOf slot) count) :: others) := rfl

/-- The pages are written one after another. -/
theorem puts_writePages {cfg : Config} {pages : List (Slot Page)}
    (diagrams : ∀ slot ∈ pages, ∃ svg, Preview.pageDiagram cfg (some slot) = .ok svg)
    (counts : ∀ slot ∈ pages, ∃ count, layoutCount (pageOf slot) = .ok count) (dir : Path) (number : Nat) :
    Puts (writePages cfg dir number pages) ((pagesFrom cfg dir number pages).map (·.1))
      ((pagesFrom cfg dir number pages).map fun page => (page.1.1, page.2)) := by
  induction pages generalizing number with
  | nil => exact .pure _
  | cons slot rest ih =>
    obtain ⟨svg, drawn⟩ := diagrams slot List.mem_cons_self
    obtain ⟨count, counted⟩ := counts slot List.mem_cons_self
    have others := ih (fun other member => diagrams other (List.mem_cons_of_mem _ member))
      (fun other member => counts other (List.mem_cons_of_mem _ member)) (number + 1)
    have diagram : diagramOf cfg slot = svg := by rw [diagramOf, drawn, textOf_ok]
    have told : countOf slot = count := by rw [countOf, counted, textOf_ok]
    rw [pagesFrom_cons, diagram, told, writePages_cons, List.map_cons, List.map_cons]
    dsimp only
    exact .lift_bind drawn (.writeFile_bind (.lift_bind counted (others.bind_pure _)))

section Entries

variable (cfg : Config) (out : Path) (name : String) (c : Chapter)

/-- The files of the diagrams. -/
def written (out : Path) (name : String) (c : Chapter) : List Path :=
  c.pageList.mapIdx fun n _ => (out.child name).below [filename (n + 1 : Nat)]

/-- The rows of the index. -/
def rows (c : Chapter) : List String :=
  c.pageList.mapIdx fun n slot => row (n + 1) (pageOf slot) (countOf slot)

/-- The diagrams, each in the file with the number of its page. -/
def diagrams : Files :=
  c.pageList.mapIdx fun n slot =>
    ((out.child name).below [filename (n + 1 : Nat)], withFinalLineFeed (diagramOf cfg slot))

/-- The index of a suite. -/
def indexText (c : Chapter) : String :=
  titled (textOf (indexTitle c)) (index (rows c))

/-- The files of a suite in the order in which they are written. -/
def entries (withIndex : Bool) : Files :=
  diagrams cfg out name c ++ if withIndex then [((out.child name).below ["index.md"], indexText c)] else []

theorem map_pagesFrom {α : Type} (f : (Path × String) × String → α) :
    (pagesFrom cfg (out.child name) 1 c.pageList).map f = c.pageList.mapIdx fun n slot =>
      f (((out.child name).below [filename (n + 1 : Nat)], withFinalLineFeed (diagramOf cfg slot)),
        row (n + 1) (pageOf slot) (countOf slot)) := by
  have child (n : Nat) : (out.child name).child (filename n) = (out.child name).below [filename n] :=
    Path.child_eq (isPlain_filename n) _
  simp only [pagesFrom, List.mapIdx_eq_zipIdx_map, List.map_map, Nat.add_comm 1, child]
  rfl

/-- A suite that is complete is written as its files, and the paths of its diagrams are given. -/
theorem puts_write {cfg : Config} {c : Chapter} (complete : Complete cfg c) (out : Path) (name : String) (withIndex : Bool) :
    Puts (write cfg out name withIndex c) (entries cfg out name c withIndex) (written out name c) := by
  have pages := puts_writePages complete.diagram complete.count (out.child name) 1
  obtain ⟨title, titled⟩ := complete.title
  have paths : ((pagesFrom cfg (out.child name) 1 c.pageList).map fun page => (page.1.1, page.2)).map (·.1) =
      written out name c := by
    rw [List.map_map]
    exact map_pagesFrom cfg out name c _
  have listed : ((pagesFrom cfg (out.child name) 1 c.pageList).map fun page => (page.1.1, page.2)).map (·.2) = rows c := by
    rw [List.map_map]
    exact map_pagesFrom cfg out name c _
  have files : (pagesFrom cfg (out.child name) 1 c.pageList).map (·.1) = diagrams cfg out name c :=
    map_pagesFrom cfg out name c _
  have place : (out.child name).child "index.md" = (out.child name).below ["index.md"] :=
    Path.child_eq ⟨by decide, by decide, by decide⟩ _
  have known : textOf (indexTitle c) = title := by rw [titled, textOf_ok]
  rw [files] at pages
  rw [← paths, entries]
  refine pages.bind ?_
  cases withIndex with
  | false => exact .pure _
  | true =>
    rw [if_pos rfl, if_pos rfl, indexText, known, ← listed, ← place]
    exact .lift_bind titled (.writeFile_bind (.pure _))

/-- No two pages have the same file. -/
theorem nodup_written : (written out name c).Nodup := by
  rw [written, List.Nodup, List.pairwise_iff_getElem]
  intro i j hi hj before same
  simp only [List.getElem_mapIdx] at same
  have equal := filename_inj (List.cons.inj (Path.below_inj same)).1
  omega

/-- The index has a file of its own. -/
theorem index_not_mem_written : (out.child name).below ["index.md"] ∉ written out name c := by
  intro member
  obtain ⟨n, -, same⟩ := List.mem_mapIdx.1 member
  exact filename_ne_of_head? (by decide) (List.cons.inj (Path.below_inj same)).1

theorem map_fst_diagrams : (diagrams cfg out name c).map (·.1) = written out name c := by
  simp [diagrams, written, List.mapIdx_eq_zipIdx_map, Function.comp_def]

theorem nodup_entries (withIndex : Bool) : ((entries cfg out name c withIndex).map (·.1)).Nodup := by
  rw [entries, List.map_append, map_fst_diagrams, List.nodup_append]
  refine ⟨nodup_written out name c, by cases withIndex <;> simp, ?_⟩
  intro path diagram other index same
  cases withIndex with
  | false => cases index
  | true =>
    have onIndex : path = (out.child name).below ["index.md"] := same.trans (List.mem_singleton.1 index)
    exact index_not_mem_written out name c (onIndex ▸ diagram)

variable {cfg out name c}

theorem mem_entries_of_getElem? {n : Nat} {slot : Slot Page} (page : c.pageList[n]? = some slot) (withIndex : Bool) :
    ((out.child name).below [filename (n + 1 : Nat)], withFinalLineFeed (diagramOf cfg slot)) ∈
      entries cfg out name c withIndex := by
  obtain ⟨inside, rfl⟩ := List.getElem?_eq_some_iff.1 page
  exact List.mem_append_left _ (List.mem_mapIdx.2 ⟨n, inside, rfl⟩)

end Entries

/-- The files of a suite and their places in the directory that it is written to. -/
def placed (cfg : Config) (c : Chapter) : List (List String × String) :=
  c.pageList.mapIdx (fun n slot => ([usualName, filename (n + 1 : Nat)], withFinalLineFeed (diagramOf cfg slot))) ++
    [([usualName, "index.md"], indexText c)]

/-- The usual directory is a name of the paths. -/
theorem entries_usualName (cfg : Config) (out : Path) (c : Chapter) :
    entries cfg out usualName c true = (placed cfg c).map fun file => (out.below file.1, file.2) := by
  have directory : out.child usualName = out.below [usualName] := Path.child_eq ⟨by decide, by decide, by decide⟩ out
  simp [entries, diagrams, placed, directory, List.mapIdx_eq_zipIdx_map, Path.below_below, Function.comp_def]

end Suite

end ComicScript
