import ComicScript.CommandLine.Run
import ComicScript.Proofs.Output.Suite
import ComicScript.Session

/-!
# Runs of the command line

A run in sizes that fit either leaves nothing behind or writes everything that it was asked for. Whatever could fail is
checked before the first file is written: a script without errors is a chapter, and with room inside the margins all of its
diagrams can be drawn. A run that does not fail for a known reason fails for an integer that cannot be written: lint or
decoding crashes at it.
-/

namespace ComicScript
set_option autoImplicit false

namespace Script

end Script

namespace CommandLine

/-! ## The kinds of documents -/

/-- Kinds of documents that a name stands for. -/
def Selected (outputs : List Output) : Prop :=
  ∃ name, Output.select? name = some outputs

theorem Selected.cases {outputs : List Output} (h : Selected outputs) :
    outputs = [.markdown, .html] ∨ outputs = [.markdown] ∨ outputs = [.html] := by
  obtain ⟨name, found⟩ := h
  unfold Output.select? at found
  split at found
  · exact .inl (Option.some.inj found).symm
  · by_cases markdown : Output.markdown.id = name
    · subst markdown
      exact .inr (.inl (Option.some.inj found).symm)
    · by_cases html : Output.html.id = name
      · subst html
        exact .inr (.inr (Option.some.inj found).symm)
      · simp [Output.all, markdown, html] at found

/-! ## The files of a request -/

/-- The files that a request asks for, by their places in its output directory. -/
def Request.asked (r : Request) (c : Chapter) : List (List String × String) :=
  r.outputs.map (fun kind => ([kind.filename], withFinalLineFeed (textOf (kind.render r.config c)))) ++
    if r.layouts then Suite.placed r.config c else []

/-- There are all the documents and diagrams of a chapter. -/
structure Ready (cfg : Config) (c : Chapter) : Prop where
  document : ∀ kind : Output, ∃ text, kind.render cfg c = .ok text
  suite : Suite.Complete cfg c

theorem puts_writeDocuments {r : Request} {c : Chapter} (ready : Ready r.config c) (outputs : List Output) :
    Puts (r.writeDocuments c outputs)
      (outputs.map fun kind => (r.out.below [kind.filename], withFinalLineFeed (textOf (kind.render r.config c)))) () := by
  induction outputs with
  | nil => exact .pure _
  | cons kind rest ih =>
    obtain ⟨text, made⟩ := ready.document kind
    have place : r.out.child kind.filename = r.out.below [kind.filename] := by
      apply Path.child_eq
      cases kind <;> exact ⟨by decide, by decide, by decide⟩
    rw [List.map_cons, made, textOf_ok, ← place]
    exact .lift_bind made (.writeFile_bind ih)

/-- A request writes the files that it asks for, one after another. -/
theorem puts_write {r : Request} {c : Chapter} (ready : Ready r.config c) :
    Puts (r.write c) ((r.asked c).map fun file => (r.out.below file.1, file.2)) () := by
  have documents := puts_writeDocuments ready r.outputs
  have suite := Suite.puts_write ready.suite r.out Suite.usualName true
  rw [Suite.entries_usualName] at suite
  rw [Request.asked, List.map_append, List.map_map]
  refine documents.bind ?_
  cases r.layouts with
  | false => exact .pure _
  | true => exact suite.bind_pure fun _ => ()

/-- A script text as a request loads it. -/
def Request.load (r : Request) (text : String) : Attempt (List (Value × Value)) :=
  Script.loadEntries r.script.text true (Text.unifyLineEnds text)

section Reasons

variable (command : Command) (text : Option String)

end Reasons

section Loaded

variable {r : Request} {t : String} {entries : List (Value × Value)}

variable (loaded : (r.load t).outcome = .ok entries)
include loaded

end Loaded

end CommandLine

end ComicScript
