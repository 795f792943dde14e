/-
# How a run ends

A run with a good command line has three places to fail, in this order: the path
to the repository leads nowhere, the target's family has no compile options, the
file does not open. It says how far it came, ends with code 1 and one line that
says why, and leaves the tree as it was. If none of them fails it writes the
file. `Ending` has the four endings, each with its whole outcome.

Key definition: `Ending`.
Key theorems: `run_of_stop`, `ending_of_run`, `run_by_stages`.
-/
import BuildSettings.Command
import BuildSettings.Proofs.Outcome
import BuildSettings.Proofs.Writing

namespace BuildSettings.Command

open FileTree (Ends)
open Pathname (Location)

variable {s : Session} {words : List Bytes} {given : Given}

/-- The request that a run makes of its command line and the repository's place. -/
def requestAt (s : Session) (given : Given) (root : Location) : Request :=
  request given root.path s.vars

/-- What is said before a file is written. -/
def writingLines (c : Configuration) : List String :=
  Request.progress ++ ["Writing " ++ Utf8.lossy c.outputPath]

theorem announced_eq (r : Request) (c : Configuration) : announced r c = writingLines c := by
  rw [announced, r.said_eq, writingLines]

/-! ### The endings -/

/-- A command line that asks for no build ends the run and changes nothing. -/
theorem run_of_stop {stop : CommandLine.Stop} (h : CommandLine.parse words = .error stop) :
    run s words = (ofStop (colours s.vars) stop, s.tree) := by
  rw [run, prepare, h]
  rfl

/-- The run of a good command line, stage by stage. -/
theorem run_of_parse (h : CommandLine.parse words = .ok given) :
    run s words =
      match plan given s.vars ((s.tree.canonical s.cwd given.root).map Location.path) with
      | .error outcome => (outcome, s.tree)
      | .ok (r, c) =>
        let written := c.emit s.tree s.cwd
        match written.answer with
        | .error e => (conclude r c s.vars (some e), written.tree)
        | .ok _ => (conclude r c s.vars none, written.tree) := by
  rw [run, prepare, h]
  rfl

theorem run_of_lost (h : CommandLine.parse words = .ok given) {fault : Fault}
    (hroot : s.tree.canonical s.cwd given.root = .error fault) :
    run s words = (failed s.vars [] [] (.repository given.root fault), s.tree) := by
  rw [run_of_parse h, hroot]
  rfl

theorem run_of_refused (h : CommandLine.parse words = .ok given) {root : Location}
    (hroot : s.tree.canonical s.cwd given.root = .ok root) {e : Error}
    (hresolve : (requestAt s given root).resolve = .error e) :
    run s words = (failed s.vars Request.progress (requestAt s given root).events (.resolution e),
      s.tree) := by
  have hplan : plan given s.vars (.ok root.path) =
      .error (failed s.vars (requestAt s given root).said (requestAt s given root).events
        (.resolution e)) := by
    rw [plan, ← requestAt, hresolve]
  rw [run_of_parse h, hroot, Except.map, hplan, Request.said_eq]

theorem plan_of_resolve {root : Location} {c : Configuration}
    (hresolve : (requestAt s given root).resolve = .ok c) :
    plan given s.vars (.ok root.path) = .ok (requestAt s given root, c) := by
  rw [plan, ← requestAt, hresolve]

theorem run_of_unwritten (h : CommandLine.parse words = .ok given) {root : Location}
    (hroot : s.tree.canonical s.cwd given.root = .ok root) {c : Configuration}
    (hresolve : (requestAt s given root).resolve = .ok c) {fault : Fault}
    (hends : Ends s.tree s.cwd c.outputPath (.error fault)) :
    run s words = (failed s.vars (writingLines c) (requestAt s given root).events
      (.output (.unwritten c.outputPath fault)), s.tree) := by
  rw [run_of_parse h, hroot, Except.map, plan_of_resolve hresolve]
  simp only [Configuration.emit_of_fails hends, conclude, announced_eq]

theorem run_of_written (h : CommandLine.parse words = .ok given) {root : Location}
    (hroot : s.tree.canonical s.cwd given.root = .ok root) {c : Configuration}
    (hresolve : (requestAt s given root).resolve = .ok c) {loc : Location}
    (hends : Ends s.tree s.cwd c.outputPath (.ok loc)) :
    run s words = (succeeded s.vars (writingLines c)
      ((requestAt s given root).events ++ [c.wroteEvent]), s.tree.set loc (.file c.content)) := by
  rw [run_of_parse h, hroot, Except.map, plan_of_resolve hresolve]
  simp only [Configuration.emit_of_opens hends, conclude, announced_eq]

/-- How a run with a good command line ends, with its outcome and the tree after
it. -/
inductive Ending (s : Session) (given : Given) : Outcome × FileTree → Prop
  /-- The repository is not found. -/
  | lost {fault : Fault} : s.tree.canonical s.cwd given.root = .error fault →
      Ending s given (failed s.vars [] [] (.repository given.root fault), s.tree)
  /-- The target is refused. -/
  | refused {root : Location} : s.tree.canonical s.cwd given.root = .ok root →
      familyName (requestAt s given root).askedTarget ∉ knownFamilies →
      Ending s given (failed s.vars Request.progress (requestAt s given root).events
        (.resolution (.unknownArch (familyName (requestAt s given root).askedTarget))), s.tree)
  /-- The file does not open. -/
  | unwritten {root : Location} {c : Configuration} {fault : Fault} :
      s.tree.canonical s.cwd given.root = .ok root → (requestAt s given root).resolve = .ok c →
      Ends s.tree s.cwd c.outputPath (.error fault) →
      Ending s given (failed s.vars (writingLines c) (requestAt s given root).events
        (.output (.unwritten c.outputPath fault)), s.tree)
  /-- The file is written. -/
  | written {root : Location} {c : Configuration} {loc : Location} :
      s.tree.canonical s.cwd given.root = .ok root → (requestAt s given root).resolve = .ok c →
      Ends s.tree s.cwd c.outputPath (.ok loc) →
      Ending s given (succeeded s.vars (writingLines c)
        ((requestAt s given root).events ++ [c.wroteEvent]), s.tree.set loc (.file c.content))

/-- There is no fifth ending. -/
theorem ending_of_run (h : CommandLine.parse words = .ok given) : Ending s given (run s words) := by
  cases hroot : s.tree.canonical s.cwd given.root with
  | error fault =>
    rw [run_of_lost h hroot]
    exact .lost hroot
  | ok root =>
    by_cases hknown : familyName (requestAt s given root).askedTarget ∈ knownFamilies
    · obtain ⟨c, hc⟩ := (requestAt s given root).resolve_of_known hknown
      obtain ⟨result, hends⟩ := FileTree.exists_ends s.tree s.cwd c.outputPath
      cases result with
      | error fault =>
        rw [run_of_unwritten h hroot hc hends]
        exact .unwritten hroot hc hends
      | ok loc =>
        rw [run_of_written h hroot hc hends]
        exact .written hroot hc hends
    · rw [run_of_refused h hroot (Request.resolve_of_unknown _ hknown)]
      exact .refused hroot hknown

/-- The line that says why a run fails. -/
def errorLine (f : Failure) : String := "ERROR: " ++ f.message ++ "\n"

theorem stderr_failed (vars : Variables) (said : List String) (events : List Event) (f : Failure) :
    (failed vars said events f).stderr = log vars events ++ errorLine f := by
  rw [failed, errorLine]
  simp only [String.append_assoc]

end BuildSettings.Command
