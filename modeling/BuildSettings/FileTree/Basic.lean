/-
# Directory trees

A tree says what stands at each location: a directory, a file with its content,
or a link with the path it leads to. The root is always a directory. Writing a
location changes that location and no other.

Key definitions: `Entry`, `FileTree`, `FileTree.get?`, `FileTree.set`.
Key theorem: `FileTree.get?_set`.
-/
import BuildSettings.Pathname.Route

namespace BuildSettings

open Pathname (Location)

/-- What stands at a location. -/
inductive Entry where
  | directory
  | file (content : Bytes)
  | link (target : Bytes)
  deriving DecidableEq, Repr

/-- The entries of a tree below its root. Of two for one location the first
counts. -/
structure FileTree where
  entries : List (Location × Entry)
  deriving DecidableEq, Repr

namespace FileTree

/-- Nothing but the root. -/
def empty : FileTree := ⟨[]⟩

/-- The first entry for a location. -/
def find? (loc : Location) : List (Location × Entry) → Option Entry
  | [] => none
  | (l, e) :: rest => if l = loc then some e else find? loc rest

/-- What stands at a location. -/
def get? (t : FileTree) (loc : Location) : Option Entry :=
  if loc = [] then some .directory else find? loc t.entries

/-- Whether a location is a directory. -/
def isDirectory (t : FileTree) (loc : Location) : Bool :=
  t.get? loc = some .directory

/-- An entry in the place of the first one for its location, or after all. -/
def put (loc : Location) (e : Entry) : List (Location × Entry) → List (Location × Entry)
  | [] => [(loc, e)]
  | (l, f) :: rest => if l = loc then (loc, e) :: rest else (l, f) :: put loc e rest

/-- The tree with another entry at a location. -/
def set (t : FileTree) (loc : Location) (e : Entry) : FileTree :=
  ⟨put loc e t.entries⟩

theorem find?_put (loc l : Location) (e : Entry) : ∀ es : List (Location × Entry),
    find? l (put loc e es) = if l = loc then some e else find? l es
  | [] => by
    by_cases h : l = loc
    · simp [put, find?, h]
    · simp [put, find?, h, Ne.symm h]
  | (k, f) :: rest => by
    unfold put
    by_cases hk : k = loc
    · by_cases h : l = loc
      · simp [hk, h, find?]
      · simp [hk, h, find?, Ne.symm h]
    · by_cases h : l = loc
      · simp [hk, h, find?, find?_put]
      · simp [hk, h, find?, find?_put]

/-- Setting a location changes it and no other. -/
theorem get?_set (t : FileTree) {loc : Location} (h : loc ≠ []) (e : Entry) (l : Location) :
    (t.set loc e).get? l = if l = loc then some e else t.get? l := by
  unfold get? set
  by_cases hl : l = []
  · simp [hl, Ne.symm h]
  · simp [hl, find?_put]

end FileTree
end BuildSettings
