import ComicScript.Preview.Document
import ComicScript.Script.Load

/-!
# Preview sessions

A session shows the last text that could be rendered. A text that is refused changes nothing but the warnings: the last
good text is rendered again in its place. A crash is not held up: it shows nothing, and changes nothing either.
-/

namespace ComicScript
set_option autoImplicit false

/-- A rendered script: its text and all that is made of it. -/
structure Snapshot where
  raw : String
  chapter : Chapter
  markdown : String
  html : String
  pageStarts : List Nat

namespace Snapshot

/-- Renders the chapter of a text. -/
def ofChapter (cfg : Config) (raw : String) (c : Chapter) : Except Crash Snapshot := do
  let doc := Markdown.document (.filled c)
  return ⟨raw, c, doc.text, ← Preview.ofChapter cfg false c, doc.pageStarts⟩

/-- Reads and renders a text. -/
def build (cfg : Config) (source raw : String) : Attempt Snapshot :=
  (Script.parse source raw).andThen fun c => ofChapter cfg raw c

end Snapshot

/-- A session of one edited text. -/
structure Session where
  cfg : Config
  source : String
  lastGood : Option Snapshot

/-- What an update shows: a snapshot, unless nothing could ever be rendered or the update crashes, and warnings. -/
structure Shown where
  snapshot : Except Crash (Option Snapshot)
  notes : List String

namespace Session

/-- A session that has shown nothing. -/
def start (cfg : Config) (source : String) : Session :=
  ⟨cfg, source, none⟩

/-- The markdown that is shown. -/
def markdown (s : Session) : String :=
  (s.lastGood.map (·.markdown)).getD ""

/-- The HTML that is shown. -/
def html (s : Session) : String :=
  (s.lastGood.map (·.html)).getD ""

/-- The warning about a text that cannot be rendered. -/
def warning (s : Session) (what : String) (e : ScriptError) : String :=
  "warning: " ++ s.source ++ ": render failed" ++ what ++ ": " ++ e.message

/-- Shows the last good text in place of one that is refused. -/
def fallBack (s : Session) (e : ScriptError) : Shown :=
  match s.lastGood with
  | none => ⟨.ok none, [s.warning " with nothing to fall back to" e]⟩
  | some last =>
    let again := Snapshot.build s.cfg s.source last.raw
    let shown :=
      match again.outcome with
      | .ok snapshot => .ok (some snapshot)
      | .error (.refused _) => .ok (some last)
      | .error (.crashed c) => .error c
    ⟨shown, s.warning ", keeping last good render" e :: again.notes⟩

/-- Shows an edited text. -/
def update (s : Session) (raw : String) : Session × Shown :=
  let a := Snapshot.build s.cfg s.source raw
  match a.outcome with
  | .ok snapshot => ({ s with lastGood := some snapshot }, ⟨.ok (some snapshot), a.notes⟩)
  | .error (.refused e) =>
    let shown := s.fallBack e
    (s, { shown with notes := a.notes ++ shown.notes })
  | .error (.crashed c) => (s, ⟨.error c, a.notes⟩)

/-- Forgets what was shown. -/
def reset (s : Session) : Session :=
  { s with lastGood := none }

end Session

end ComicScript
