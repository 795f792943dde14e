/-
# A path as a way through a directory tree

`Route.ofBytes` reads a path's bytes as the steps it takes: into a named entry,
up to the parent, or nowhere. Runs of slashes count as one; that a path starts
or ends with one is kept, since both matter to where it leads. A `Location` is
where a route can end, named from the root without links or dots.

Key definitions: `Route`, `Route.ofBytes`, `Location.path`.
-/
import BuildSettings.Pathname.Join

namespace BuildSettings.Pathname

/-- The name of an entry in a directory. -/
abbrev Name := Bytes

/-- One step of a route. -/
inductive Step where
  | here
  | up
  | into (name : Name)
  deriving DecidableEq, Repr

/-- A path taken apart: whether it starts at the root, its steps, and whether a
slash ends it. -/
structure Route where
  absolute : Bool
  steps : List Step
  slashed : Bool
  deriving DecidableEq, Repr

/-- A part held back, unless nothing is. -/
def part (held : Bytes) : List Bytes :=
  if held = [] then [] else [held]

/-- The non-empty parts between slashes, with `held` in front of the first. -/
def partsFrom (held : Bytes) : Bytes → List Bytes
  | [] => part held
  | b :: bs => if b = slash then part held ++ partsFrom [] bs else partsFrom (held ++ [b]) bs

/-- The step that a part stands for. -/
def Step.ofPart (p : Bytes) : Step :=
  if p = [0x2E] then .here
  else if p = [0x2E, 0x2E] then .up
  else .into p

/-- The route that a path describes. -/
def Route.ofBytes (path : Bytes) : Route where
  absolute := path.head? = some slash
  steps := (partsFrom [] path).map Step.ofPart
  slashed := path.getLast? = some slash

/-- An entry's place in the tree: the names on the way to it from the root. -/
abbrev Location := List Name

/-- The absolute path that spells a location. -/
def Location.path (loc : Location) : Bytes :=
  if loc = [] then [slash] else loc.flatMap (slash :: ·)

theorem head?_path (loc : Location) : loc.path.head? = some slash := by
  cases loc with
  | nil => rfl
  | cons name rest => rfl

/-- Where a route starts, for someone at `cwd`. -/
def Route.base (r : Route) (cwd : Location) : Location :=
  if r.absolute then [] else cwd

end BuildSettings.Pathname
