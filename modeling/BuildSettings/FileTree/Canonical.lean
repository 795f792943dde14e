/-
# The canonical path

`canonical` finds the location that a path leads to, whose path holds no links
and no dots. It goes by names alone: what stands at each is asked for by the
whole path spelled out so far, and this path must not be too long, however short
the path that led there. A `..` takes the last name off and asks nothing.

A name that something follows as a directory, without an entry being named in
it, is asked for with a slash after it, unless a link stands there.

Key definitions: `needsDirectory`, `ask`, `lookSpelled`, `FileTree.canonical`.
-/
import BuildSettings.FileTree.Walk

namespace BuildSettings.FileTree

open Pathname (Location Name Route Step)

/-- Whether the steps after a name need a directory there and name nothing in
it: they go up, or there is but a dot or a slash. -/
def needsDirectory (slashed : Bool) : List Step → Bool
  | [] => slashed
  | .here :: rest => rest.isEmpty || needsDirectory slashed rest
  | .up :: _ => true
  | .into _ :: _ => false

/-- What stands at a name in a location, asked for by its path with so many
slashes after it. -/
def ask (t : FileTree) (slashes : Nat) (loc : Location) (name : Name) : Except Fault Entry :=
  if (Location.path (loc ++ [name])).length + slashes ≥ maxPath then .error .nameTooLong
  else if !t.isDirectory loc then .error .notADirectory
  else if name.length > maxName then .error .nameTooLong
  else match t.get? (loc ++ [name]) with
    | none => .error .notFound
    | some e => .ok e

/-- Every name leads to something. -/
def lookSpelled (t : FileTree) (slashed : Bool) : Location → List Step → Stop
  | loc, [] => .at loc
  | loc, .here :: rest => lookSpelled t slashed loc rest
  | loc, .up :: rest => lookSpelled t slashed loc.dropLast rest
  | loc, .into name :: rest =>
    let needed := needsDirectory slashed rest
    match t.ask 0 loc name with
    | .ok (.link target) => .link loc target rest
    | _ =>
      match t.ask needed.toNat loc name with
      | .error f => .fault f
      | .ok e =>
        if needed && e ≠ .directory then .fault .notADirectory
        else lookSpelled t slashed (loc ++ [name]) rest

/-- The location that a path leads to, for someone at `cwd`. -/
def canonical (t : FileTree) (cwd : Location) (path : Bytes) : Except Fault Location :=
  if 0 ∈ path then .error .nulInPath
  else if path = [] then .error .notFound
  else
    let route := Route.ofBytes path
    follow t.lookSpelled maxLinks route.slashed (route.base cwd) route.steps

end BuildSettings.FileTree
