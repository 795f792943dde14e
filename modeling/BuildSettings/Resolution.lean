/-
# The course of resolving

Resolving goes through steps: a line is said, a look-up asks the environment and
leaves its event, a setting goes into the table. `Course` is what the steps so far
have left, the names that were asked for included. Two steps can fail, a setting
whose name is in the table already and a refusal; the first that does ends the
course, and what was said and recorded before stays.

Key definitions: `Resolution.Step`, `Resolution.Course`, `Course.take`,
`Course.follow`.
-/
import BuildSettings.Event
import BuildSettings.Settings

namespace BuildSettings.Resolution

/-- One step of resolving. -/
inductive Step where
  /-- A line is said on standard output. -/
  | say (line : String)
  /-- A look-up asks the environment for variables. It leaves an event if it finds
  something. -/
  | look (asked : List String) (event : Option Event)
  /-- A setting goes into the table. -/
  | put (name value : String)
  /-- Resolving is given up. -/
  | refuse (error : Error)
  deriving DecidableEq, Repr

/-- What the steps so far have left. -/
structure Course where
  said : List String
  asked : List String
  events : List Event
  settings : Settings
  deriving DecidableEq

namespace Course

/-- Before the first step. -/
def start : Course := ⟨[], [], [], .empty⟩

/-- The course after one more step. -/
def take (c : Course) : Step → Except Error Course
  | .say line => .ok { c with said := c.said ++ [line] }
  | .look asked event =>
    .ok { c with asked := c.asked ++ asked, events := c.events ++ event.toList }
  | .put name value => (c.settings.insert name value).map fun settings => { c with settings }
  | .refuse error => .error error

/-- The course after steps up to the first that fails, and why that one does. -/
def follow (c : Course) : List Step → Course × Option Error
  | [] => (c, none)
  | step :: rest =>
    match c.take step with
    | .ok next => next.follow rest
    | .error e => (c, some e)

end Course
end BuildSettings.Resolution
