/-
# Which events reach the log

The variable `RUST_LOG` holds directives, with commas between them. A directive is a
level, or the beginning of a source with or without one; after a source an equals
sign stands before the level, and without a level all events of the source are let
through. Of the directives that concern an event the one with the longest source
decides, and of equal sources the last.

Levels are read in any case, or as the number of their depth. Where one part between
commas is no directive, the whole variable counts as unset. It does so here as well
where a part is for spans or fields, which stand in brackets, or for a source with
letters beyond ASCII.

Key definitions: `Verbosity`, `Directive`, `Directive.ofText?`, `Threshold.admits`,
`Threshold.ofVariable`.
-/
import BuildSettings.Event

namespace BuildSettings

/-- How much is let through. -/
inductive Verbosity where
  | off
  | error
  | warn
  | info
  | debug
  | trace
  deriving DecidableEq, Repr

namespace Verbosity

/-- The word for a verbosity. -/
def name : Verbosity → String
  | off => "off"
  | error => "error"
  | warn => "warn"
  | info => "info"
  | debug => "debug"
  | trace => "trace"

/-- How far down events are let through. -/
def depth : Verbosity → Nat
  | off => 0
  | error => 1
  | warn => 2
  | info => 3
  | debug => 4
  | trace => 5

/-- The least verbosity that lets a level through. -/
def ofLevel : Level → Verbosity
  | .info => info
  | .debug => debug

/-- Whether a level is let through. -/
def admits (v : Verbosity) (l : Level) : Bool := (ofLevel l).depth ≤ v.depth

/-- Every verbosity, by depth. -/
def all : List Verbosity := [off, error, warn, info, debug, trace]

/-- The verbosity of a word: its name in any case, or its depth as a number. -/
def ofWord? (word : List Char) : Option Verbosity :=
  if word ≠ [] ∧ word.all Char.isDigit then all[Nat.ofDigitChars 10 word 0]?
  else all.find? fun v => v.name.toList = word.map Char.toLower

/-- The verbosity of a word that can stand for a level. A number has one digit
there. -/
def ofLevelWord? (word : List Char) : Option Verbosity :=
  if word.all Char.isDigit && word.length ≠ 1 then none else ofWord? word

end Verbosity

/-- One part of a filter: how much is let through of the events whose source begins
so, or of all events. -/
structure Directive where
  source : Option String
  verbosity : Verbosity
  deriving DecidableEq, Repr

namespace Directive

/-- Whether a text can begin a source: letters, digits, underscores, colons and
dashes. -/
def isSourceWord (word : List Char) : Bool :=
  word ≠ [] && word.all fun c => c.isAlphanum || c = '_' || c = ':' || c = '-'

/-- The source that a word begins. A word for a verbosity is none. -/
def sourceOf (word : List Char) : Option String :=
  if (Verbosity.ofWord? word).isSome then none else some (String.ofList word)

/-- The directive for a source, by what follows on its word. -/
def ofRest? (source : Option String) : List Char → Option Directive
  | [] | ['='] => some ⟨source, .trace⟩
  | _ :: level => (Verbosity.ofLevelWord? level).map (⟨source, ·⟩)

/-- The directive of a text. -/
def ofText? (text : List Char) : Option Directive :=
  match Verbosity.ofLevelWord? text with
  | some v => some ⟨none, v⟩
  | none =>
    let word := text.takeWhile (· ≠ '=')
    if isSourceWord word then ofRest? (sourceOf word) (text.dropWhile (· ≠ '=')) else none

/-- Whether a directive concerns events from a source. -/
def concerns (d : Directive) (source : String) : Bool :=
  d.source.all fun start => start.toList.isPrefixOf source.toList

/-- How narrow a directive is. -/
def weight (d : Directive) : Nat :=
  d.source.elim 0 fun start => start.length + 1

/-- The directive that decides about events from a source. -/
def deciding? (source : String) : List Directive → Option Directive
  | [] => none
  | d :: ds =>
    match deciding? source ds with
    | some later => if d.concerns source && later.weight < d.weight then some d else some later
    | none => if d.concerns source then some d else none

end Directive

/-- Which events reach the log. -/
structure Threshold where
  directives : List Directive
  deriving DecidableEq, Repr

namespace Threshold

/-- The name of this program, with which the sources of its events begin. -/
def target : String := "pdbg_config"

/-- The name of the variable that filters the log. -/
def logVariable : String := "RUST_LOG"

/-- The source of an event, by which a filter can name it. -/
def sourceOf : Event → String
  | .wrote .. => target ++ "::emit"
  | _ => target ++ "::resolve"

/-- Whether an event reaches the log. -/
def admits (t : Threshold) (e : Event) : Bool :=
  (Directive.deciding? (sourceOf e) t.directives).any fun d => d.verbosity.admits e.level

/-- One verbosity for all events. -/
def uniform (v : Verbosity) : Threshold := ⟨[⟨none, v⟩]⟩

/-- The threshold that a filter sets. Where the variable is not set warnings are let
through, and where it holds nothing errors. -/
def ofVariable : Option String → Threshold
  | none => uniform .warn
  | some filter =>
    match ((filter.toList.splitOn ',').filter (· ≠ [])).mapM Directive.ofText? with
    | none => uniform .warn
    | some [] => uniform .error
    | some directives => ⟨directives⟩

end Threshold
end BuildSettings
