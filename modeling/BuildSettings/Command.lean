/-
# The command

A run reads the command line, follows the path to the repository, resolves the
configuration and writes it. `prepare`, `plan` and `conclude` say what comes
before, between and after the two stages that need a file system, so that they
can be joined over a tree, as `run` does, or over a disk.

A run that fails changes nothing. On standard error it leaves its log and then
the one line that says why.

Key definitions: `Failure`, `Outcome`, `Session`, `log`, `colours`, `prepare`,
`plan`, `conclude`, `run`.
-/
import BuildSettings.CommandLine.Help
import BuildSettings.CommandLine.Parse
import BuildSettings.FileTree.Canonical
import BuildSettings.Output
import BuildSettings.Threshold

namespace BuildSettings.Command

open Pathname (Location)

/-- Why a run with a good command line fails. -/
inductive Failure where
  /-- The path to the repository leads nowhere. -/
  | repository (path : Bytes) (fault : Fault)
  /-- The configuration is not resolved. -/
  | resolution (error : Error)
  /-- The configuration is not written. -/
  | output (error : Error)
  deriving DecidableEq, Repr

/-- An error's message, and what is behind it after a colon. -/
def withSource (e : Error) : String :=
  e.message ++
    match e.source with
    | some fault => ": " ++ fault.text
    | none => ""

/-- The wording of a failure, from the outside in. -/
def Failure.message : Failure → String
  | .repository path fault => "pdbg repo not found at " ++ Utf8.lossy path ++ ": " ++ fault.text
  | .resolution e => withSource e
  | .output e => "Could not write the build config: " ++ withSource e

/-- What a run leaves besides files. -/
structure Outcome where
  code : Nat
  stdout : String
  stderr : String
  deriving DecidableEq, Repr

/-- The variables of a process. -/
abbrev Variables := List (Bytes × Bytes)

/-- The value of a variable. -/
def Variables.value? (vars : Variables) (name : String) : Option Bytes :=
  (Environment.Block.ofPairs vars).value? (Utf8.encode name)

/-- The threshold that the variables set. A filter that is not UTF-8 counts as
unset. -/
def threshold (vars : Variables) : Threshold :=
  .ofVariable ((vars.value? Threshold.logVariable).bind Utf8.decode?)

/-- The variable that forbids colours. -/
def plainVariable : String := "NO_COLOR"

/-- Whether the log is in colours: it is unless a text forbids them. -/
def logColours (vars : Variables) : Bool :=
  ((vars.value? plainVariable).bind Utf8.decode?).all (· = "")

/-- The lines of the events that reach the log. -/
def log (vars : Variables) (events : List Event) : String :=
  String.join ((events.filter (threshold vars).admits).map (Event.record (logColours vars)))

/-- Lines of text. -/
def lines (ls : List String) : String :=
  String.join (ls.map (· ++ "\n"))

/-- How a run ends that fails, with what it said and recorded until then. -/
def failed (vars : Variables) (said : List String) (events : List Event) (f : Failure) : Outcome :=
  ⟨1, lines said, log vars events ++ "ERROR: " ++ f.message ++ "\n"⟩

/-- How a run ends that writes its file. -/
def succeeded (vars : Variables) (said : List String) (events : List Event) : Outcome :=
  ⟨0, lines said, log vars events⟩

/-- Whether a variable is set to more than the empty text. -/
def Variables.isFilled (vars : Variables) (name : String) : Bool :=
  (vars.value? name).any (· ≠ [])

/-- The variable that asks for colours. -/
def colourVariable : String := "CLICOLOR_FORCE"

/-- Whether help and complaints are in colours. They go to no terminal, so that
colours have to be asked for. -/
def colours (vars : Variables) : Bool :=
  vars.isFilled colourVariable && !vars.isFilled plainVariable

/-- How a run ends that the command line alone decides. -/
def ofStop (colours : Bool) : CommandLine.Stop → Outcome
  | .help true => ⟨0, CommandLine.longHelp.rendered colours, ""⟩
  | .help false => ⟨0, CommandLine.shortHelp.rendered colours, ""⟩
  | .version => ⟨0, CommandLine.versionLine, ""⟩
  | .usage e => ⟨2, "", e.text.rendered colours⟩

/-- What a command line gives, or how the run ends there. -/
def prepare (vars : Variables) (words : List Bytes) : Except Outcome Given :=
  (CommandLine.parse words).mapError (ofStop (colours vars))

/-- The request of a run, once the repository's own path is known. -/
def request (given : Given) (root : Bytes) (vars : Variables) : Request :=
  ⟨{ given with root := root }, {}, .ofBytes vars⟩

/-- The configuration to write, with its request, or how the run ends before. -/
def plan (given : Given) (vars : Variables) :
    Except Fault Bytes → Except Outcome (Request × Configuration)
  | .error fault => .error (failed vars [] [] (.repository given.root fault))
  | .ok root =>
    let r := request given root vars
    match r.resolve with
    | .error e => .error (failed vars r.said r.events (.resolution e))
    | .ok c => .ok (r, c)

/-- What a run says until it writes. -/
def announced (r : Request) (c : Configuration) : List String :=
  r.said ++ ["Writing " ++ Utf8.lossy c.outputPath]

/-- How a run ends that comes to writing its file. -/
def conclude (r : Request) (c : Configuration) (vars : Variables) : Option Error → Outcome
  | some e => failed vars (announced r c) r.events (.output e)
  | none => succeeded vars (announced r c) (r.events ++ [c.wroteEvent])

/-- Where a run takes place. -/
structure Session where
  tree : FileTree
  cwd : Location
  vars : Variables

/-- A run: how it ends, and the tree after it. -/
def run (s : Session) (words : List Bytes) : Outcome × FileTree :=
  match prepare s.vars words with
  | .error outcome => (outcome, s.tree)
  | .ok given =>
    match plan given s.vars ((s.tree.canonical s.cwd given.root).map Location.path) with
    | .error outcome => (outcome, s.tree)
    | .ok (r, c) =>
      let written := c.emit s.tree s.cwd
      match written.answer with
      | .error e => (conclude r c s.vars (some e), written.tree)
      | .ok _ => (conclude r c s.vars none, written.tree)

end BuildSettings.Command
