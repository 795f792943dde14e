/-
# Following a path

A path is followed step by step from a directory. Each step needs a directory to
start in; `..` at the root stays there; a name longer than 255 bytes is refused
before it is looked for. A link is replaced by the steps of its target, which
start at the root or in the link's own directory, and at most forty links are
followed in all.

Paths are followed in different ways to their ends. `look` needs every step to
lead to something. `lookToWrite` ends where a file is or may be made: the last
step must be a name, it may lead nowhere yet, and neither a directory nor a name
with a slash after it will do. `follow` works through the links for any way.

Key definitions: `look`, `lookToWrite`, `follow`, `FileTree.enter`,
`FileTree.destination`.
-/
import BuildSettings.Fault
import BuildSettings.FileTree.Basic

namespace BuildSettings.FileTree

open Pathname (Location Route Step)

/-- Where following steps stops: at its end, at a link with steps still to go
after it, or at a fault. -/
inductive Stop where
  | at (loc : Location)
  | link (dir : Location) (target : Bytes) (rest : List Step)
  | fault (f : Fault)
  deriving DecidableEq, Repr

/-- The longest name that a directory can hold. -/
def maxName : Nat := 255

/-- How many links are followed on one path. -/
def maxLinks : Nat := 40

/-- The length from which on a path is too long to be asked for. -/
def maxPath : Nat := 4096

/-- Every step leads to something. A slash at the end asks for a directory. -/
def look (t : FileTree) (slashed : Bool) : Location → List Step → Stop
  | loc, [] => if slashed && !t.isDirectory loc then .fault .notADirectory else .at loc
  | loc, step :: rest =>
    if !t.isDirectory loc then .fault .notADirectory
    else match step with
      | .here => look t slashed loc rest
      | .up => look t slashed loc.dropLast rest
      | .into name =>
        if name.length > maxName then .fault .nameTooLong
        else match t.get? (loc ++ [name]) with
          | none => .fault .notFound
          | some (.link target) => .link loc target rest
          | some _ => look t slashed (loc ++ [name]) rest

/-- The last step leads to a file, or to nothing yet. -/
def lookToWrite (t : FileTree) (slashed : Bool) : Location → List Step → Stop
  | _, [] => .fault .isADirectory
  | loc, [step] =>
    if !t.isDirectory loc then .fault .notADirectory
    else match step with
      | .here => .fault .isADirectory
      | .up => .fault .isADirectory
      | .into name =>
        if slashed then .fault .isADirectory
        else if name.length > maxName then .fault .nameTooLong
        else match t.get? (loc ++ [name]) with
          | some .directory => .fault .isADirectory
          | some (.link target) => .link loc target []
          | _ => .at (loc ++ [name])
  | loc, step :: next :: rest =>
    if !t.isDirectory loc then .fault .notADirectory
    else match step with
      | .here => lookToWrite t slashed loc (next :: rest)
      | .up => lookToWrite t slashed loc.dropLast (next :: rest)
      | .into name =>
        if name.length > maxName then .fault .nameTooLong
        else match t.get? (loc ++ [name]) with
          | none => .fault .notFound
          | some (.link target) => .link loc target (next :: rest)
          | some _ => lookToWrite t slashed (loc ++ [name]) (next :: rest)

/-- Steps followed from a location through at most `links` links. The slash
after a link's target counts when the link was the last step. -/
def follow (way : Bool → Location → List Step → Stop) :
    Nat → Bool → Location → List Step → Except Fault Location
  | links, slashed, loc, steps =>
    match way slashed loc steps with
    | .at found => .ok found
    | .fault f => .error f
    | .link dir target rest =>
      match links with
      | 0 => .error .linkLoop
      | links + 1 =>
        let route := Route.ofBytes target
        follow way links (slashed || (rest.isEmpty && route.slashed)) (route.base dir)
          (route.steps ++ rest)

/-- The directory that a path leads to, for someone who goes there from `cwd`. -/
def enter (t : FileTree) (cwd : Location) (path : Bytes) : Except Fault Location :=
  if 0 ∈ path then .error .nulInPath
  else if path = [] then .error .notFound
  else
    let route := Route.ofBytes path
    follow t.look maxLinks true (route.base cwd) route.steps

/-- The location of the file that a path leads to when it is opened for writing,
for someone at `cwd`. -/
def destination (t : FileTree) (cwd : Location) (path : Bytes) : Except Fault Location :=
  if 0 ∈ path then .error .nulInPath
  else if path = [] then .error .notFound
  else if path.length ≥ maxPath then .error .nameTooLong
  else
    let route := Route.ofBytes path
    follow t.lookToWrite maxLinks route.slashed (route.base cwd) route.steps

end BuildSettings.FileTree
