/-
# Reading a file back

`locate` finds the location that a path leads to when all of it exists, and
`read` the content of the file there. Reading follows links as writing does, but
makes nothing.

Key definitions: `FileTree.locate`, `FileTree.contentAt`, `FileTree.read`.
-/
import BuildSettings.FileTree.Walk

namespace BuildSettings.FileTree

open Pathname (Location Route)

/-- The location that a path leads to, for someone at `cwd`. -/
def locate (t : FileTree) (cwd : Location) (path : Bytes) : Except Fault Location :=
  if 0 ∈ path then .error .nulInPath
  else if path = [] then .error .notFound
  else if path.length ≥ maxPath then .error .nameTooLong
  else
    let route := Route.ofBytes path
    follow t.look maxLinks route.slashed (route.base cwd) route.steps

/-- The content of the file at a location. -/
def contentAt (t : FileTree) (loc : Location) : Except Fault Bytes :=
  match t.get? loc with
  | some (.file content) => .ok content
  | some .directory => .error .isADirectory
  | _ => .error .notFound

/-- The content of the file that a path leads to. -/
def read (t : FileTree) (cwd : Location) (path : Bytes) : Except Fault Bytes := do
  t.contentAt (← t.locate cwd path)

end BuildSettings.FileTree
