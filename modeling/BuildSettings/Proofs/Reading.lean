/-
# Reading the include file back

A name may hold the mark that stands before a value, and so may a value, so that an
assignment does not say where its name ends. The exports do: each is a fixed word
and then a name, up to the end of its line. There are as many exports as
assignments beside five lines of frame, and so the number of lines tells where both
blocks stand. `read?` takes the names from the exports and strips them, with the
mark, from the assignments.

Where names and values are one line each the file is read back as the table that it
was made of (`read?_render`). So such tables have different files if they are
different.

Key definitions: `linesOf`, `strip?`, `pairs?`, `Makefile.read?`,
`Settings.OneLine`.
Key theorems: `linesOf_lines`, `pairs?_blocks`, `pairsOf?_sheet`, `read?_render`.
-/
import BuildSettings.Proofs.Layout
import Mathlib.Data.List.Basic

namespace BuildSettings

/-- A table whose names and values are one line each. -/
structure Settings.OneLine (s : Settings) : Prop where
  names : ∀ name ∈ s.names, IsLine name
  values : ∀ value ∈ s.values, IsLine value

namespace Makefile

/-! ### The reader -/

/-- The lines of a text. What follows the last newline is not one. -/
def linesOf (text : String) : List String :=
  (text.toList.splitOn '\n').dropLast.map String.ofList

/-- What a line has after a start, if it starts so. -/
def strip? (start line : String) : Option String :=
  (start.toList.isPrefixOf? line.toList).map String.ofList

/-- The settings of some exports and the assignments that go with them, line by
line. -/
def pairs? : List String → List String → Option (List (String × String))
  | [], [] => some []
  | e :: exports, a :: assignments => do
    let name ← strip? "export " e
    let value ← strip? (name ++ " := ") a
    return (name, value) :: (← pairs? exports assignments)
  | _, _ => none

/-- How many settings a file of some lines has. -/
def count (ls : List String) : Nat := (ls.length - 5) / 2

/-- The lines that assign. -/
def assignmentBlock (ls : List String) : List String := (ls.drop 3).take (count ls)

/-- The lines that export. -/
def exportBlock (ls : List String) : List String := (ls.drop (count ls + 4)).take (count ls)

/-- The settings of a file's lines. -/
def pairsOf? (ls : List String) : Option (List (String × String)) :=
  pairs? (exportBlock ls) (assignmentBlock ls)

/-- The table of a file. -/
def read? (text : String) : Option Settings := do
  (Settings.ofList (← pairsOf? (linesOf text))).toOption

/-! ### Lines -/

theorem splitOn_lines {ls : List String} (h : ∀ l ∈ ls, IsLine l) :
    (Command.lines ls).toList.splitOn '\n' = ls.map String.toList ++ [[]] := by
  induction ls with
  | nil => rfl
  | cons l ls ih =>
    have hl : '\n' ∉ l.toList := h l List.mem_cons_self
    have hrest := ih fun m hm => h m (List.mem_cons_of_mem l hm)
    have hcons : (Command.lines (l :: ls)).toList =
        l.toList ++ '\n' :: (Command.lines ls).toList := by
      simp [Command.lines, String.join_cons]
    rw [hcons, List.splitOn_append_cons_self, List.splitOn_eq_singleton hl, hrest]
    rfl

theorem linesOf_lines {ls : List String} (h : ∀ l ∈ ls, IsLine l) :
    linesOf (Command.lines ls) = ls := by
  have hid : String.ofList ∘ String.toList = id := funext fun _ => String.ofList_toList
  rw [linesOf, splitOn_lines h, List.dropLast_concat, List.map_map, hid, List.map_id]

/-! ### Blocks -/

theorem strip?_append (start rest : String) : strip? start (start ++ rest) = some rest := by
  have hlist : start.toList.isPrefixOf? (start ++ rest).toList = some rest.toList := by
    rw [List.isPrefixOf?_eq_some_iff_append_eq, String.toList_append]
  rw [strip?, hlist, Option.map_some, String.ofList_toList]

/-- The names come from the exports, and what is left of the assignments are the
values. -/
theorem pairs?_blocks (ps : List (String × String)) :
    pairs? (ps.map fun p => exported p.1) (ps.map fun p => assigned p.1 p.2) = some ps := by
  induction ps with
  | nil => rfl
  | cons p ps ih =>
    have hname : strip? "export " (exported p.1) = some p.1 := strip?_append ..
    have hvalue : strip? (p.1 ++ " := ") (assigned p.1 p.2) = some p.2 := strip?_append ..
    simp only [List.map_cons, pairs?, hname, hvalue, ih, Option.bind_eq_bind, Option.bind_some]
    rfl

section
variable {names values : List String} (h : values.length = names.length)
include h

theorem count_sheet : count (sheet names values) = names.length := by
  rw [count, length_sheet h]
  omega

theorem assignmentBlock_sheet :
    assignmentBlock (sheet names values) = List.zipWith assigned names values := by
  have hlength : (List.zipWith assigned names values).length = names.length := by
    rw [List.length_zipWith, h, Nat.min_self]
  have hdrop : (sheet names values).drop 3 =
      List.zipWith assigned names values ++ ([""] ++ names.map exported ++ [""]) := by
    simp [sheet]
  rw [assignmentBlock, count_sheet h, hdrop, List.take_left' hlength]

theorem exportBlock_sheet : exportBlock (sheet names values) = names.map exported := by
  have hfront : (["", header, ""] ++ List.zipWith assigned names values ++ [""]).length =
      names.length + 4 := by
    simp only [List.length_append, List.length_cons, List.length_nil, List.length_zipWith, h,
      Nat.min_self]
    omega
  have hsheet : sheet names values =
      (["", header, ""] ++ List.zipWith assigned names values ++ [""]) ++
        (names.map exported ++ [""]) := by
    simp [sheet]
  have hlength : (names.map exported).length = names.length := List.length_map _
  rw [exportBlock, count_sheet h, hsheet, List.drop_left' hfront, List.take_left' hlength]

end

theorem pairsOf?_sheet (s : Settings) : pairsOf? (sheet s.names s.values) = some s.toList := by
  have hexports : s.names.map exported = s.toList.map fun p => exported p.1 := List.map_map
  have hassignments : List.zipWith assigned s.names s.values =
      s.toList.map fun p => assigned p.1 p.2 := by
    rw [Settings.names, Settings.values, List.zipWith_map, List.zipWith_self]
  rw [pairsOf?, exportBlock_sheet (values_length s), assignmentBlock_sheet (values_length s),
    hexports, hassignments]
  exact pairs?_blocks s.toList

/-! ### The file -/

theorem linesOf_render {s : Settings} (h : s.OneLine) :
    linesOf (render s) = sheet s.names s.values := by
  obtain ⟨htext, hlines⟩ := isLines_render h.names h.values
  rw [htext, linesOf_lines hlines]

/-- **The file of a table is read back as the table,** whatever the names and values
are that stand on a line each. So no other such table has the same file. -/
theorem read?_render {s : Settings} (h : s.OneLine) :
    read? (render s) = some s ∧ ∀ t : Settings, t.OneLine → (render t = render s ↔ t = s) := by
  have hread : ∀ t : Settings, t.OneLine → read? (render t) = some t := by
    intro t ht
    rw [read?, linesOf_render ht, pairsOf?_sheet]
    show (Settings.ofList t.toList).toOption = some t
    rw [Settings.ofList_toList]
    rfl
  refine ⟨hread s h, fun t ht => ⟨fun heq => ?_, fun heq => by rw [heq]⟩⟩
  have hboth := hread t ht
  rw [heq, hread s h] at hboth
  exact (Option.some_inj.mp hboth).symm

/-- Names that look like assignments and exports, and a value that holds the mark. -/
def maskedTable : Settings where
  toList := [("", " := "), ("A", "B := C"), ("A := B", "C"), ("export A", "")]
  sorted := by decide +kernel

/-- Two of its assignments are the same line, and yet it is read back; the empty
table has another file. -/
theorem read?_of_maskedTable : assigned "A" "B := C" = assigned "A := B" "C" ∧
    read? (render maskedTable) = some maskedTable ∧ render .empty ≠ render maskedTable := by
  have hone : maskedTable.OneLine := ⟨by decide +kernel, by decide +kernel⟩
  have hempty : Settings.empty.OneLine := ⟨by decide, by decide⟩
  obtain ⟨hread, hinj⟩ := read?_render hone
  refine ⟨rfl, hread, fun heq => ?_⟩
  have hsame := (hinj .empty hempty).mp heq
  exact absurd hsame (by decide +kernel)

end Makefile
end BuildSettings
