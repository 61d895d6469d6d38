import ComicScript.Proofs.Session

/-!
# The warnings of preview sessions

A text that is refused has its session write what reading the text writes and one warning that names the failure. What is
shown instead is read again, and what that writes comes after the warning: nothing if the stored text loads as it is, but the
warnings of its recovery, once more for each such text, if it does not. After a crash there is no warning.
-/

namespace ComicScript

namespace Script
set_option autoImplicit false

variable {source raw : String}

/-- A text that loads as it is has nothing written. -/
theorem notes_parse_of_load {v : Value} (h : Yaml.load raw = .ok v) : (parse source raw).notes = [] := by
  simp only [parse, loadEntries, Attempt.andThen, load, h]

/-- A text that is a script only after recovery has the warnings of recovery written. -/
theorem notes_parse_of_recovered {c : Chapter} (read : (parse source raw).outcome = .ok c)
    (h : ∀ v, Yaml.load raw ≠ .ok v) : (parse source raw).notes = changeNotes source (recover raw).changes := by
  cases loaded : Yaml.load raw with
  | ok v => exact absurd loaded (h v)
  | error fault =>
    simp only [parse, loadEntries, Attempt.andThen, load, loaded] at read ⊢
    split at read
    · cases read
    · rename_i changed
      rw [if_neg changed]
      split at read
      · simp
      · cases read

/-- There is always a warning of recovery. -/
theorem changeNotes_ne_nil (source : String) (changes : List Change) : changeNotes source changes ≠ [] := by
  simp [changeNotes]

/-- Of a text that is a script nothing is written exactly if it loads as it is. -/
theorem notes_parse_eq_nil_iff {c : Chapter} (read : (parse source raw).outcome = .ok c) :
    (parse source raw).notes = [] ↔ ∃ v, Yaml.load raw = .ok v := by
  refine ⟨fun silent => ?_, fun ⟨v, loaded⟩ => notes_parse_of_load loaded⟩
  by_contra none
  have warned := notes_parse_of_recovered read fun v loaded => none ⟨v, loaded⟩
  rw [silent] at warned
  exact changeNotes_ne_nil _ _ warned.symm

end Script

namespace Session
set_option autoImplicit false

/-- What is due to be written for a text that is refused: what reading it writes and one warning that names the
failure. It depends on nothing else than the text, the source and whether a snapshot is stored. -/
def dueNotes (source raw : String) (stored : Bool) (e : ScriptError) : List String :=
  (Script.parse source raw).notes ++
    ["warning: " ++ source ++ ": render failed" ++
      (if stored then ", keeping last good render" else " with nothing to fall back to") ++ ": " ++ e.message]

/-- What is written when the stored text is read again. -/
def notesAgain (s : Session) : List String :=
  s.lastGood.elim [] fun last => (Script.parse s.source last.raw).notes

/-- A text that is refused has what is due written, and after it what reading the stored text writes. -/
theorem notes_update_of_refused {s : Session} {raw : String} {e : ScriptError}
    (h : (Snapshot.build s.cfg s.source raw).outcome = .error (.refused e)) :
    (s.update raw).2.notes = dueNotes s.source raw s.lastGood.isSome e ++ s.notesAgain := by
  have read : (Snapshot.build s.cfg s.source raw).notes = (Script.parse s.source raw).notes := rfl
  simp only [update, h, fallBack, dueNotes, notesAgain, read]
  cases s.lastGood with
  | none => simp [warning]
  | some last =>
    have again : (Snapshot.build s.cfg s.source last.raw).notes = (Script.parse s.source last.raw).notes := rfl
    simp [warning, again]

/-- Before a crash just what reading the text writes is written. -/
theorem notes_update_of_crashed {s : Session} {raw : String} {c : Crash}
    (h : (Snapshot.build s.cfg s.source raw).outcome = .error (.crashed c)) :
    (s.update raw).2.notes = (Script.parse s.source raw).notes := by
  simp only [update, h]
  rfl

/-- Nothing more is written exactly if the stored text, if there is one, loads as it is. -/
theorem notesAgain_eq_nil_iff {s : Session} (h : s.Rebuilds) :
    s.notesAgain = [] ↔ ∀ last, s.lastGood = some last → ∃ v, Yaml.load last.raw = .ok v := by
  unfold notesAgain
  cases stored : s.lastGood with
  | none => simp
  | some last =>
    simp only [Option.elim_some, Option.some.injEq, forall_eq']
    exact Script.notes_parse_eq_nil_iff (parts_of_build (h last stored)).2

theorem exists_ok {ε α : Type} {x : Except ε α} (h : x.isOk = true) : ∃ a, x = .ok a := by
  cases x with
  | ok a => exact ⟨a, rfl⟩
  | error e => cases h

/-- **The warnings of a fallback.** After any commands to a session, a text that is refused has what is due written, and after
it what reading the stored text writes. That is nothing, and only what is due is written, exactly if no text is stored or the
stored text loads as it is; of a stored text that loads only after recovery it is the warnings of its recovery. Of a text
that cannot be rendered for a crash just what reading it writes is written. -/
theorem notes_update_after (cfg : Config) (source : String) (commands : List Command) (raw : String) (e : ScriptError)
    (failed : (Snapshot.build cfg source raw).outcome = .error (.refused e)) :
    let s := commands.foldl after (start cfg source)
    let due := dueNotes source raw s.lastGood.isSome e
    (s.update raw).2.notes = due ++ s.notesAgain ∧
    ((s.update raw).2.notes = due ↔ ∀ last, s.lastGood = some last → ∃ v, Yaml.load last.raw = .ok v) ∧
    (∀ last, s.lastGood = some last → (∀ v, Yaml.load last.raw ≠ .ok v) →
      s.notesAgain = Script.changeNotes source (Script.recover last.raw).changes) ∧
    ∀ other c, (Snapshot.build cfg source other).outcome = .error (.crashed c) →
      (s.update other).2.notes = (Script.parse source other).notes := by
  intro s due
  have follows : Follows cfg source commands s := .foldl cfg source commands
  have built (text : String) : Snapshot.build s.cfg s.source text = Snapshot.build cfg source text := by
    rw [follows.cfg_eq, follows.source_eq]
  have written := notes_update_of_refused (s := s) (by rw [built, failed])
  rw [follows.source_eq] at written
  refine ⟨written, ?again, ?recovered, ?crashed⟩
  case again =>
    rw [written, List.append_right_eq_self]
    exact notesAgain_eq_nil_iff follows.rebuilds
  case recovered =>
    intro last stored recovered
    have read := (parts_of_build (follows.rebuilds last stored)).2
    rw [notesAgain, stored, Option.elim_some, Script.notes_parse_of_recovered read recovered, follows.source_eq]
  case crashed =>
    intro other c crash
    rw [notes_update_of_crashed (s := s) (by rw [built, crash]), follows.source_eq]

/-- A text that is no mapping is refused. -/
theorem exists_refused : ∃ e, (Snapshot.build {} "draft" "- x").outcome = .error (.refused e) := by
  have refused : (match (Snapshot.build {} "draft" "- x").outcome with
      | .error (.refused _) => true
      | _ => false) = true := by decide +kernel
  split at refused
  · rename_i e failed
    exact ⟨e, failed⟩
  · cases refused

/-- A list after a script that loads as it is, which was shown after one that loads only after recovery. -/
theorem notes_update_after_script :
    let s := [Command.update "title: a: b", .update "title: a"].foldl after (start {} "draft")
    ∃ e, (Snapshot.build {} "draft" "- x").outcome = .error (.refused e) ∧
      (s.update "- x").2.notes = dueNotes "draft" "- x" s.lastGood.isSome e := by
  have loads : (Yaml.load "title: a").isOk = true := by decide +kernel
  have stored : ([Command.update "title: a: b", .update "title: a"].foldl after (start {} "draft")).lastGood.map (·.raw) =
      some "title: a" := by decide +kernel
  obtain ⟨e, failed⟩ := exists_refused
  obtain ⟨-, exactly, -⟩ :=
    notes_update_after {} "draft" [.update "title: a: b", .update "title: a"] "- x" e failed
  refine ⟨e, failed, exactly.2 ?_⟩
  intro last kept
  rw [kept] at stored
  rw [show last.raw = "title: a" from Option.some.inj stored]
  exact exists_ok loads

/-- A list after a script that loads only after recovery: the warnings of its recovery are written again. -/
theorem notes_update_of_recovered :
    let s := ((start {} "draft").update "title: a: b").1
    ∃ e, (Snapshot.build {} "draft" "- x").outcome = .error (.refused e) ∧
      (s.update "- x").2.notes ≠ dueNotes "draft" "- x" s.lastGood.isSome e := by
  have silent : (Script.parse "draft" "- x").notes = [] := by decide +kernel
  have written : (((start {} "draft").update "title: a: b").1.update "- x").2.notes.length = 4 := by decide +kernel
  obtain ⟨e, failed⟩ := exists_refused
  refine ⟨e, failed, fun due => ?_⟩
  rw [due, dueNotes, silent] at written
  cases written

end Session

end ComicScript
