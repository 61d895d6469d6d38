import ComicScript.Proofs.Crash
import ComicScript.Proofs.Decimal.Size
import ComicScript.Session
import Mathlib.Data.List.Induction

/-!
# Runs of preview sessions

Any number of sessions are edited and reset in any order. Each of them keeps the snapshot of the latest text that could be
rendered since it was last reset, and that snapshot is what its text renders to, so a text that is refused shows it again. A
crash shows nothing, but what is kept outlives it.
-/

namespace ComicScript.Session
set_option autoImplicit false

/-- What is done to a session. -/
inductive Command
  | update (raw : String)
  | reset
  deriving DecidableEq, Repr

/-- The text that a command shows. -/
def Command.raw? : Command → Option String
  | update raw => some raw
  | reset => none

/-- A session after a command. -/
def after (s : Session) : Command → Session
  | .update raw => (s.update raw).1
  | .reset => s.reset

/-- The texts of the updates since the last reset, the latest first. -/
def recent (commands : List Command) : List String :=
  (commands.reverse.takeWhile (· ≠ .reset)).filterMap Command.raw?

/-- The snapshot of the latest text since the last reset that can be rendered. -/
def latestGood (cfg : Config) (source : String) (commands : List Command) : Option Snapshot :=
  (recent commands).findSome? fun raw => (Snapshot.build cfg source raw).outcome.toOption

/-! ## One session -/

section One

variable {cfg : Config} {source raw : String} {commands : List Command} {s : Session} {snapshot : Snapshot}

/-- A snapshot keeps the text that it is made of, and the chapter that is read of it. -/
theorem parts_of_build (h : (Snapshot.build cfg source raw).outcome = .ok snapshot) :
    snapshot.raw = raw ∧ (Script.parse source raw).outcome = .ok snapshot.chapter := by
  obtain ⟨c, read, made⟩ := exists_of_bind_eq_ok h
  obtain ⟨html, -, same⟩ := exists_of_bind_eq_ok (eq_ok_of_mapError made)
  rw [← Except.ok.inj same]
  exact ⟨rfl, read⟩

/-- A text that can be rendered is stored and shown. -/
theorem update_of_ok (h : (Snapshot.build s.cfg s.source raw).outcome = .ok snapshot) :
    (s.update raw).1 = { s with lastGood := some snapshot } ∧ (s.update raw).2.snapshot = .ok (some snapshot) := by
  rw [update]
  simp only [h, and_self]

/-- A text that is refused leaves the session as it is. -/
theorem update_of_refused {e : ScriptError} (h : (Snapshot.build s.cfg s.source raw).outcome = .error (.refused e)) :
    (s.update raw).1 = s ∧ (s.update raw).2.snapshot = (s.fallBack e).snapshot := by
  rw [update]
  simp only [h, and_self]

/-- A crash leaves the session as it is. -/
theorem update_of_crashed {c : Crash} (h : (Snapshot.build s.cfg s.source raw).outcome = .error (.crashed c)) :
    (s.update raw).1 = s ∧ (s.update raw).2.snapshot = .error c := by
  rw [update]
  simp only [h, and_self]

/-- A text that cannot be rendered leaves the session as it is. -/
theorem update_of_error {stop : Stop ScriptError} (h : (Snapshot.build s.cfg s.source raw).outcome = .error stop) :
    (s.update raw).1 = s := by
  cases stop with
  | refused e => exact (update_of_refused h).1
  | crashed c => exact (update_of_crashed h).1

/-- The session stores a snapshot that its own text renders to. -/
def Rebuilds (s : Session) : Prop :=
  ∀ last, s.lastGood = some last → (Snapshot.build s.cfg s.source last.raw).outcome = .ok last

/-- What is shown in place of a text that is refused is what is stored. -/
theorem snapshot_fallBack (h : s.Rebuilds) (e : ScriptError) : (s.fallBack e).snapshot = .ok s.lastGood := by
  unfold fallBack
  cases stored : s.lastGood with
  | none => rfl
  | some last => simp only [h last stored]

theorem recent_update (commands : List Command) (raw : String) :
    recent (commands ++ [.update raw]) = raw :: recent commands := by
  simp [recent, Command.raw?]

theorem recent_reset (commands : List Command) : recent (commands ++ [.reset]) = [] := by
  simp [recent]

example : recent [.update "a", .reset, .update "b", .update "c"] = ["c", "b"] := rfl

/-- The latest good snapshot is what its text renders to. -/
theorem build_of_latestGood (h : latestGood cfg source commands = some snapshot) :
    (Snapshot.build cfg source snapshot.raw).outcome = .ok snapshot := by
  obtain ⟨raw, -, found⟩ := List.exists_of_findSome?_eq_some h
  cases built : (Snapshot.build cfg source raw).outcome with
  | error e =>
    rw [built] at found
    cases found
  | ok other =>
    rw [built] at found
    obtain rfl : other = snapshot := Option.some.inj found
    rw [(parts_of_build built).1, built]

/-- What a session that was started with a configuration and a source is after its commands. -/
structure Follows (cfg : Config) (source : String) (commands : List Command) (s : Session) : Prop where
  cfg_eq : s.cfg = cfg
  source_eq : s.source = source
  lastGood_eq : s.lastGood = latestGood cfg source commands

namespace Follows

theorem start (cfg : Config) (source : String) : Follows cfg source [] (Session.start cfg source) :=
  ⟨rfl, rfl, rfl⟩

theorem rebuilds (h : Follows cfg source commands s) : s.Rebuilds := by
  intro last stored
  rw [h.cfg_eq, h.source_eq]
  exact build_of_latestGood (h.lastGood_eq.symm.trans stored)

/-- Each command is followed: a text that renders replaces the stored snapshot, any other leaves it, a reset drops it. -/
theorem after (h : Follows cfg source commands s) (command : Command) :
    Follows cfg source (commands ++ [command]) (s.after command) := by
  cases command with
  | reset =>
    refine ⟨h.cfg_eq, h.source_eq, ?_⟩
    rw [latestGood, recent_reset]
    rfl
  | update raw =>
    have latest : latestGood cfg source (commands ++ [.update raw]) =
        ((Snapshot.build cfg source raw).outcome.toOption).or (latestGood cfg source commands) := by
      rw [latestGood, recent_update, List.findSome?_cons]
      cases (Snapshot.build cfg source raw).outcome.toOption <;> rfl
    have built : Snapshot.build s.cfg s.source raw = Snapshot.build cfg source raw := by
      rw [h.cfg_eq, h.source_eq]
    rw [← built] at latest
    cases outcome : (Snapshot.build s.cfg s.source raw).outcome with
    | ok snapshot =>
      rw [Session.after, (update_of_ok outcome).1]
      refine ⟨h.cfg_eq, h.source_eq, ?_⟩
      rw [latest, outcome]
      rfl
    | error e =>
      rw [Session.after, update_of_error outcome]
      refine ⟨h.cfg_eq, h.source_eq, ?_⟩
      rw [latest, outcome, h.lastGood_eq]
      rfl

/-- A whole run of commands is followed. -/
theorem foldl (cfg : Config) (source : String) (commands : List Command) :
    Follows cfg source commands (commands.foldl Session.after (Session.start cfg source)) := by
  induction commands using List.reverseRecOn with
  | nil => exact start cfg source
  | append_singleton commands command ih =>
    rw [List.foldl_append]
    exact ih.after command

end Follows

end One

/-! ## Sessions side by side -/

section Many

variable {ι : Type} [DecidableEq ι]

/-- Sessions after a command to one of them. -/
def dispatch (sessions : ι → Session) (event : ι × Command) : ι → Session := fun i =>
  if event.1 = i then (sessions i).after event.2 else sessions i

/-- Sessions after commands to any of them, in the order of the commands. -/
def run (sessions : ι → Session) (events : List (ι × Command)) : ι → Session :=
  events.foldl dispatch sessions

/-- The commands to one session, in their order. -/
def own (i : ι) (events : List (ι × Command)) : List Command :=
  events.filterMap fun event => if event.1 = i then some event.2 else none

/-- A session depends on its own commands alone. -/
theorem run_apply (sessions : ι → Session) (events : List (ι × Command)) (i : ι) :
    run sessions events i = (own i events).foldl after (sessions i) := by
  induction events generalizing sessions with
  | nil => rfl
  | cons event rest ih =>
    have tail : run sessions (event :: rest) i = (own i rest).foldl after (dispatch sessions event i) :=
      ih (dispatch sessions event)
    rw [tail]
    by_cases here : event.1 = i
    · have first : own i (event :: rest) = event.2 :: own i rest := by simp [own, here]
      rw [first, List.foldl_cons, dispatch, if_pos here]
    · have first : own i (event :: rest) = own i rest := by simp [own, here]
      rw [first, dispatch, if_neg here]

/-- **The last good snapshot.** After any run of interleaved sessions each session stores the snapshot of its own latest text
since its last reset that could be rendered, shows its markdown and HTML, and renders its text to it again. A further text
that can be rendered is stored and shown; one that is refused changes nothing and shows what is stored; and one that crashes
changes nothing either, but shows nothing. -/
theorem run_lastGood (cfg : ι → Config) (source : ι → String) (events : List (ι × Command)) (i : ι) :
    let s := run (fun i => start (cfg i) (source i)) events i
    let latest := latestGood (cfg i) (source i) (own i events)
    s.cfg = cfg i ∧ s.source = source i ∧ s.lastGood = latest ∧
    s.markdown = latest.elim "" (·.markdown) ∧ s.html = latest.elim "" (·.html) ∧
    (∀ last, s.lastGood = some last → (Snapshot.build s.cfg s.source last.raw).outcome = .ok last) ∧
    ∀ raw,
      match (Snapshot.build (cfg i) (source i) raw).outcome with
      | .ok snapshot =>
        (s.update raw).1 = { s with lastGood := some snapshot } ∧ (s.update raw).2.snapshot = .ok (some snapshot)
      | .error (.refused _) => (s.update raw).1 = s ∧ (s.update raw).2.snapshot = .ok s.lastGood
      | .error (.crashed c) => (s.update raw).1 = s ∧ (s.update raw).2.snapshot = .error c := by
  intro s latest
  have follows : Follows (cfg i) (source i) (own i events) s := by
    rw [show s = _ from run_apply _ events i]
    exact .foldl _ _ _
  have stored : s.lastGood = latest := follows.lastGood_eq
  refine ⟨follows.cfg_eq, follows.source_eq, stored, ?_, ?_, follows.rebuilds, ?_⟩
  · rw [markdown, stored]
    cases latest <;> rfl
  · rw [html, stored]
    cases latest <;> rfl
  · intro raw
    have built : Snapshot.build s.cfg s.source raw = Snapshot.build (cfg i) (source i) raw := by
      rw [follows.cfg_eq, follows.source_eq]
    rw [← built]
    cases outcome : (Snapshot.build s.cfg s.source raw).outcome with
    | ok snapshot => exact update_of_ok outcome
    | error stop =>
      cases stop with
      | refused e =>
        have unchanged := update_of_refused outcome
        exact ⟨unchanged.1, unchanged.2.trans (snapshot_fallBack follows.rebuilds e)⟩
      | crashed c => exact update_of_crashed outcome

end Many

/-- An update of a session that draws in a size past the largest double shows nothing. -/
theorem snapshot_update_of_large_width :
    ∃ c, ((start { width := .whole (10 ^ 400) } "draft").update "pages:\n- {}").2.snapshot = .error c := by
  have crashed : ((start { width := .whole (10 ^ 400) } "draft").update "pages:\n- {}").2.snapshot.isOk = false := by
    decide +kernel
  cases shown : ((start { width := .whole (10 ^ 400) } "draft").update "pages:\n- {}").2.snapshot with
  | ok snapshot =>
    rw [shown] at crashed
    cases crashed
  | error c => exact ⟨c, rfl⟩

end ComicScript.Session
