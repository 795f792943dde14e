/-
# Changing a directory tree

`write` puts a file's whole content where a path leads, making the file if it is
not there yet. The rest lays out a tree and shows it: directories with the ones
above them, links, removal with all that is below, and the list of what stands
below a location in the order of the paths' bytes.

Key definitions: `FileTree.write`, `FileTree.makeDirectories`,
`FileTree.makeLink`, `FileTree.remove`, `FileTree.below`.
-/
import BuildSettings.FileTree.Walk

namespace BuildSettings.FileTree

open Pathname (Location Route Step)

/-- The tree after a path is written over. -/
def write (t : FileTree) (cwd : Location) (path content : Bytes) : Except Fault FileTree := do
  let loc ← t.destination cwd path
  return t.set loc (.file content)

/-- The tree with every directory on the way to the end of the steps. -/
def makeDirectoriesFrom (t : FileTree) (loc : Location) : List Step → Except Fault FileTree
  | [] => .ok t
  | .here :: rest => makeDirectoriesFrom t loc rest
  | .up :: rest => makeDirectoriesFrom t loc.dropLast rest
  | .into name :: rest =>
    match t.get? (loc ++ [name]) with
    | none => makeDirectoriesFrom (t.set (loc ++ [name]) .directory) (loc ++ [name]) rest
    | some _ =>
      match follow t.look maxLinks true loc [.into name] with
      | .ok found => makeDirectoriesFrom t found rest
      | .error f => .error f

/-- The tree with the directory that a path names, and those above it. -/
def makeDirectories (t : FileTree) (cwd : Location) (path : Bytes) : Except Fault FileTree :=
  let route := Route.ofBytes path
  t.makeDirectoriesFrom (route.base cwd) route.steps

/-- The location that a path names itself, when its last step is a link too. -/
def place (t : FileTree) (cwd : Location) (path : Bytes) : Except Fault Location := do
  let route := Route.ofBytes path
  let dir ← follow t.look maxLinks true (route.base cwd) route.steps.dropLast
  match route.steps.getLast? with
  | some (.into name) => return dir ++ [name]
  | some .up => return dir.dropLast
  | _ => return dir

/-- The tree with a new link at a path. -/
def makeLink (t : FileTree) (cwd : Location) (path target : Bytes) : Except Fault FileTree := do
  let loc ← t.place cwd path
  return t.set loc (.link target)

/-- The tree without what a path names and all below it. A link goes, what it
leads to stays. -/
def remove (t : FileTree) (cwd : Location) (path : Bytes) : Except Fault FileTree := do
  let loc ← t.place cwd path
  return ⟨t.entries.filter fun p => !loc.isPrefixOf p.1⟩

/-- What stands below a location: relative paths with their entries, in the
order of the paths' bytes. -/
def below (t : FileTree) (loc : Location) : List (Bytes × Entry) :=
  let found := t.entries.filterMap fun p =>
    if loc.isPrefixOf p.1 && p.1 ≠ loc then
      some ((Location.path (p.1.drop loc.length)).drop 1, p.2)
    else none
  found.mergeSort fun a b => !decide (b.1 < a.1)

end BuildSettings.FileTree
