import ComicScript.Preview.Convert
import ComicScript.Proofs.Text.Lines

/-!
# The scan of lines

A quote that is open at an empty line is written there as it would be at the end of the text, so an empty line can be
converted on either side of a cut. What has been written has no say in what comes after it, so texts with an empty line
between them are converted apart.
-/

namespace ComicScript.Preview
set_option autoImplicit false

namespace Scan

/-- Nothing is held back once the quote is written. -/
@[simp] theorem flush_mode (s : Scan) : s.flush.mode = .normal := by
  unfold flush
  split <;> simp_all

/-- An empty line writes the quote that is open and its own end. -/
theorem feed_empty (s : Scan) : s.feed "" = ⟨.normal, s.flush.held, s.flush.html ++ "\n"⟩ := by
  have plain : ¬ Text.startsWith quoteLead "" = true := by decide
  rw [feed, if_neg plain, ← s.flush_mode]
  rfl

/-- An empty line ends a quote as the end of the text does. -/
theorem finish_feed_empty (s : Scan) : (s.feed "").finish = s.finish ++ "\n" := by
  rw [feed_empty]
  rfl

/-- A scan that had written something more at the beginning. -/
def behind (s : Scan) (before : String) : Scan :=
  { s with html := before ++ s.html }

theorem flush_behind (s : Scan) (before : String) : (s.behind before).flush = s.flush.behind before := by
  cases mode : s.mode <;> simp [flush, behind, mode, String.append_assoc]

theorem feed_behind (s : Scan) (before line : String) : (s.behind before).feed line = (s.feed line).behind before := by
  unfold feed
  split
  · rfl
  · rw [flush_behind]
    simp [behind, String.append_assoc]

theorem foldl_feed_behind (s : Scan) (before : String) (lines : List String) :
    lines.foldl feed (s.behind before) = (lines.foldl feed s).behind before := by
  induction lines generalizing s with
  | nil => rfl
  | cons line rest ih => rw [List.foldl_cons, List.foldl_cons, feed_behind, ih]

theorem finish_behind (s : Scan) (before : String) : (s.behind before).finish = before ++ s.finish := by
  rw [finish, flush_behind]
  rfl

/-- In a quote, quoted lines are held back in their order. -/
theorem foldl_feed_quoted {s : Scan} {lines : List String} (quoted : ∀ line ∈ lines, Text.startsWith quoteLead line = true)
    (mode : s.mode = .inQuote) :
    lines.foldl feed s = { s with held := s.held ++ lines.map (Text.drop quoteLead.length) } := by
  induction lines generalizing s with
  | nil => simp
  | cons line rest ih =>
    obtain ⟨first, others⟩ := List.forall_mem_cons.1 quoted
    rw [List.foldl_cons, feed, if_pos first, ih others rfl]
    simp [mode]

/-- Lines are held back in a quote alone. -/
def Tidy (s : Scan) : Prop :=
  s.mode = .normal → s.held = []

theorem tidy_start : start.Tidy := fun _ => rfl

theorem Tidy.flush {s : Scan} (h : s.Tidy) : s.flush.held = [] := by
  unfold Scan.flush
  cases mode : s.mode with
  | normal => exact h mode
  | inQuote => rfl

theorem Tidy.feed {s : Scan} (h : s.Tidy) (line : String) : (s.feed line).Tidy := by
  unfold Scan.feed
  split
  · intro normal
    cases normal
  · intro _
    exact h.flush

theorem Tidy.foldl {s : Scan} (h : s.Tidy) (lines : List String) : (lines.foldl Scan.feed s).Tidy := by
  induction lines generalizing s with
  | nil => exact h
  | cons line rest ih => exact ih (h.feed line)

/-- Writing the quote that is open leaves a scan that begins anew behind what it has written. -/
theorem Tidy.flush_eq {s : Scan} (h : s.Tidy) : s.flush = start.behind s.finish := by
  have mode := s.flush_mode
  have held := h.flush
  rw [finish, behind, start, String.append_empty, ← mode, ← held]

/-- At a line that is not quoted a scan begins anew behind what it has written. -/
theorem Tidy.feed_plain {s : Scan} (h : s.Tidy) {line : String} (plain : Text.startsWith quoteLead line = false) :
    s.feed line = (start.feed line).behind s.finish := by
  have unquoted : ¬ Text.startsWith quoteLead line = true := by simp [plain]
  rw [← feed_behind, Scan.feed, Scan.feed, if_neg unquoted, if_neg unquoted, h.flush_eq, flush_behind]
  rfl

/-- After an empty line a scan begins anew behind what it has written. -/
theorem Tidy.feed_empty {s : Scan} (h : s.Tidy) : s.feed "" = start.behind (s.finish ++ "\n") := by
  rw [Scan.feed_empty, h.flush, behind, start, finish, String.append_empty]

end Scan

/-- A line feed at the end of a text is converted to a line feed. -/
theorem convert_lineFeed (s : String) : convert (s ++ "\n") = convert s ++ "\n" := by
  rw [convert, Text.lines_lineFeed, List.foldl_append]
  exact Scan.finish_feed_empty _

/-- Texts with an empty line between them are converted apart. -/
theorem convert_append_blank (a b : String) : convert (a ++ "\n\n" ++ b) = convert a ++ "\n" ++ convert b := by
  have cut : a ++ "\n\n" ++ b = a ++ "\n" ++ "" ++ "\n" ++ b := by
    simp [← String.toList_inj]
  have before := Scan.tidy_start.foldl (Text.lines a)
  rw [cut, convert, Text.lines_append_lineFeed, Text.lines_append_lineFeed, List.foldl_append, List.foldl_append,
    Text.lines_empty, List.foldl_cons, List.foldl_nil, before.feed_empty, Scan.foldl_feed_behind, Scan.finish_behind]
  rfl

end ComicScript.Preview
