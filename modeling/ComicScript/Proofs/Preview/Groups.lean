import ComicScript.Proofs.Preview.Cuts
import Mathlib.Data.List.SplitBy

/-!
# Groups of lines

The scan of lines is what one would write down at once: the lines are grouped into the longest runs of quoted lines and the
lines between them, and each group is converted by itself. Lines are pending in a quote and nowhere else, however the scan
is used.
-/

namespace ComicScript.Preview
set_option autoImplicit false

/-! ## The HTML of a group -/

/-- A paragraph for each of some quoted lines that is not blank, all in one quote. -/
def runHtml (entries : List String) : String :=
  "<blockquote>" ++
    String.join ((entries.filter (!Text.allBlank ·)).map fun entry => "<p>" ++ inline (Text.trim entry) ++ "</p>\n") ++
    "</blockquote>\n"

/-- A line that is not quoted: a line feed, a heading or a paragraph. -/
def lineHtml (line : String) : String :=
  if Text.allBlank line then "\n"
  else if Text.startsWith "# " line then "<h1>" ++ Text.escapeHtml (Text.drop 2 line) ++ "</h1>\n"
  else if Text.startsWith "## " line then "<h2>" ++ Text.escapeHtml (Text.drop 3 line) ++ "</h2>\n"
  else if Text.startsWith "### " line then "<h3>" ++ Text.escapeHtml (Text.drop 4 line) ++ "</h3>\n"
  else "<p>" ++ inline line ++ "</p>\n"

/-- The groups of some lines: the longest runs of quoted lines, and each other line alone. -/
def groups (lines : List String) : List (List String) :=
  lines.splitBy fun a b => Text.startsWith "> " a && Text.startsWith "> " b

/-- A group of lines, which is a run of quoted lines if the first one is quoted. -/
def groupHtml : List String → String
  | [] => ""
  | line :: rest => if Text.startsWith "> " line then runHtml ((line :: rest).map (Text.drop 2)) else lineHtml line

theorem plainLine_eq (line : String) : plainLine line = lineHtml line := by
  have lengths : "# ".length = 2 ∧ "## ".length = 3 ∧ "### ".length = 4 := by decide
  unfold plainLine lineHtml
  split
  · rfl
  · cases one : Text.startsWith "# " line with
    | true => simp [headings, one, element, lengths, String.append_assoc]
    | false =>
      cases two : Text.startsWith "## " line with
      | true => simp [headings, pageLead, one, two, element, lengths, String.append_assoc]
      | false =>
        cases three : Text.startsWith "### " line with
        | true => simp [headings, pageLead, one, two, three, element, lengths, String.append_assoc]
        | false => simp [headings, pageLead, one, two, three, paragraph, element, String.append_assoc]

theorem blockquote_eq (entries : List String) : blockquote entries = runHtml entries := by
  simp [blockquote, runHtml, element, paragraph, String.append_assoc]

/-! ## Conversion by groups -/

/-- A line that is not quoted is converted apart from what follows. -/
theorem convertLines_cons {line : String} (plain : Text.startsWith quoteLead line = false) (rest : List String) :
    convertLines (line :: rest) = lineHtml line ++ convertLines rest := by
  have fed : Scan.start.feed line = Scan.start.behind (lineHtml line) := by
    rw [Scan.feed, if_neg (by simp [plain]), plainLine_eq]
    simp [Scan.flush, Scan.start, Scan.behind]
  rw [convertLines, List.foldl_cons, fed, Scan.foldl_feed_behind, Scan.finish_behind, convertLines]

/-- A group is a line that is not quoted, or has quoted lines only. -/
theorem group_cases {line : String} {rest : List String}
    (run : (line :: rest).IsChain fun a b => (Text.startsWith quoteLead a && Text.startsWith quoteLead b) = true) :
    (Text.startsWith quoteLead line = false ∧ rest = []) ∨
      ∀ other ∈ line :: rest, Text.startsWith quoteLead other = true := by
  induction rest generalizing line with
  | nil =>
    cases quoted : Text.startsWith quoteLead line with
    | false => exact .inl ⟨rfl, rfl⟩
    | true => exact .inr fun other member => by rw [List.mem_singleton.1 member, quoted]
  | cons next rest ih =>
    obtain ⟨both, run⟩ := List.isChain_cons_cons.1 run
    rw [Bool.and_eq_true] at both
    rcases ih run with ⟨plain, -⟩ | all
    · rw [plain] at both
      cases both.2
    · exact .inr (List.forall_mem_cons.2 ⟨both.1, all⟩)

/-- Groups are converted apart: after a run of quoted lines comes a line that is not quoted. -/
theorem convertLines_flatten {gs : List (List String)} (filled : [] ∉ gs)
    (runs : ∀ g ∈ gs, g.IsChain fun a b => (Text.startsWith quoteLead a && Text.startsWith quoteLead b) = true)
    (longest : gs.IsChain fun g next => ∃ (hg : g ≠ []) (hn : next ≠ []),
      (Text.startsWith quoteLead (g.getLast hg) && Text.startsWith quoteLead (next.head hn)) = false) :
    convertLines gs.flatten = String.join (gs.map groupHtml) := by
  induction gs with
  | nil => rfl
  | cons g gs ih =>
    rw [List.mem_cons, not_or] at filled
    obtain ⟨run, runs⟩ := List.forall_mem_cons.1 runs
    have others := ih filled.2 runs longest.tail
    obtain ⟨line, rest, rfl⟩ := List.exists_cons_of_ne_nil (Ne.symm filled.1)
    rw [List.flatten_cons, List.map_cons, String.join_cons, ← others]
    rcases group_cases run with ⟨plain, rfl⟩ | quoted
    · have alone : groupHtml [line] = lineHtml line := if_neg (by rw [show "> " = quoteLead from rfl, plain]; decide)
      rw [List.singleton_append, convertLines_cons plain, alone]
    · have run : groupHtml (line :: rest) = runHtml ((line :: rest).map (Text.drop 2)) :=
        if_pos (quoted line List.mem_cons_self)
      rw [convertLines_append, convertLines_quoted (List.cons_ne_nil line rest) quoted, blockquote_eq, run]
      · rfl
      · -- the next group begins with a line that is not quoted, or else it would belong to the run
        intro next first
        cases gs with
        | nil => cases first
        | cons g' gs =>
          obtain ⟨hg, hn, apart⟩ := (List.isChain_cons_cons.1 longest).1
          obtain ⟨head, tail, rfl⟩ := List.exists_cons_of_ne_nil hn
          obtain rfl : head = next := by simpa using first
          rw [quoted _ (List.getLast_mem hg), Bool.true_and] at apart
          exact apart

/-! ## All states of a scan -/

/-- What can be asked of a scan: to convert a line, or to finish. -/
inductive Call
  | feed (line : String)
  | finish

/-- The state of a scan after a call. -/
def Scan.call (s : Scan) : Call → Scan
  | .feed line => s.feed line
  | .finish => s.flush

/-- The state of a scan after some calls, from the first one on. -/
def Scan.after (calls : List Call) : Scan :=
  calls.foldl Scan.call Scan.start

/-- Lines are pending in a quote, and only there. -/
def Scan.Pending (s : Scan) : Prop :=
  s.held ≠ [] ↔ s.mode = .inQuote

namespace Scan

theorem pending_start : start.Pending := by
  simp [Pending, start]

theorem Pending.tidy {s : Scan} (h : s.Pending) : s.Tidy := by
  intro normal
  by_contra lines
  have quote := h.1 lines
  rw [normal] at quote
  cases quote

theorem Pending.call {s : Scan} (h : s.Pending) (c : Call) : (s.call c).Pending := by
  cases c with
  | feed line =>
    rw [Scan.call, Scan.feed]
    split
    · simp [Pending]
    · simp [Pending, h.tidy.flush]
  | finish =>
    simp [Scan.call, Pending, h.tidy.flush]

theorem pending_after (calls : List Call) : (after calls).Pending := by
  rw [after]
  have run {s : Scan} (h : s.Pending) : (calls.foldl Scan.call s).Pending := by
    induction calls generalizing s with
    | nil => exact h
    | cons c rest ih => exact ih (h.call c)
  exact run pending_start

end Scan

/-- **Conversion by groups.** Markdown is converted as its groups of lines are, one after another: a run of quoted lines to one
quote, and any other line by what it begins with. After any calls of the scan lines are pending exactly in a quote, and
nothing is pending once it has finished. -/
theorem convert_eq_join_groups :
    (∀ markdown : String,
      convert markdown = String.join ((groups (Text.lines markdown)).map groupHtml) ∧
      convert markdown = (Scan.after ((Text.lines markdown).map .feed ++ [.finish])).html) ∧
    ∀ calls : List Call,
      ((Scan.after calls).held ≠ [] ↔ (Scan.after calls).mode = .inQuote) ∧
      (Scan.after (calls ++ [.finish])).held = [] ∧ (Scan.after (calls ++ [.finish])).mode = .normal := by
  refine ⟨fun markdown => ⟨?_, ?_⟩, fun calls => ⟨Scan.pending_after calls, ?_, ?_⟩⟩
  · obtain ⟨whole, filled, runs, longest⟩ := List.splitBy_eq_iff.1 (rfl : groups (Text.lines markdown) = _)
    have joined := convertLines_flatten filled runs longest
    rw [← whole] at joined
    exact joined
  · rw [Scan.after, List.foldl_append, List.foldl_map]
    rfl
  · rw [Scan.after, List.foldl_append]
    exact (Scan.pending_after calls).tidy.flush
  · rw [Scan.after, List.foldl_append]
    exact Scan.flush_mode _

end ComicScript.Preview
