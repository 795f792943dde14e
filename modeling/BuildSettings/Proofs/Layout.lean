/-
# The layout of the include file

The file of a table is laid out line by line: an empty line, the comment, an empty
line, one assignment for each name, an empty line, one export for each name, an
empty line (`sheet`). Values stand in it as they are. So the file has that layout
as long as no value holds a newline, and loses it with the first one
(`laidOut_iff`): every newline in a value makes one more line of the file
(`newlines_render`), and the lines that follow it are read as whatever they say.

Nothing but what is given to a request can bring a newline in. What is made of one
line each is one line (`isLine_value?`).

Key definitions: `IsLine`, `IsLines`, `Makefile.sheet`, `Makefile.LaidOut`,
`Request.OneLine`.
Key theorems: `newlines_lines`, `render_eq`, `laidOut_iff`, `isLine_value?`,
`layout_of_resolve`.
-/
import BuildSettings.Command
import BuildSettings.Proofs.Influence

namespace BuildSettings

/-! ### Lines -/

/-- How many newlines a text has. -/
def newlines (text : String) : Nat := text.toList.count '\n'

/-- A text without a newline. -/
def IsLine (text : String) : Prop := '\n' ∉ text.toList

instance (text : String) : Decidable (IsLine text) := inferInstanceAs (Decidable (¬ _))

/-- A text read as lines, each with the newline that ends it. -/
structure IsLines (text : String) (ls : List String) : Prop where
  text_eq : text = Command.lines ls
  isLine : ∀ l ∈ ls, IsLine l

theorem newlines_eq_zero_iff {text : String} : newlines text = 0 ↔ IsLine text :=
  List.count_eq_zero

@[simp]
theorem newlines_append (a b : String) : newlines (a ++ b) = newlines a + newlines b := by
  rw [newlines, String.toList_append, List.count_append]
  rfl

@[simp]
theorem isLine_append {a b : String} : IsLine (a ++ b) ↔ IsLine a ∧ IsLine b := by
  simp only [IsLine, String.toList_append, List.mem_append, not_or]

theorem Command.lines_append (a b : List String) : lines (a ++ b) = lines a ++ lines b := by
  rw [lines, List.map_append, String.join_append]
  rfl

theorem isLine_join {ls : List String} : IsLine (String.join ls) ↔ ∀ l ∈ ls, IsLine l := by
  simp only [IsLine, String.toList_join, List.mem_flatMap, not_exists, not_and]

/-- Lines have the newlines that end them, and those that they hold. -/
theorem newlines_lines (ls : List String) :
    newlines (Command.lines ls) = ls.length + newlines (String.join ls) := by
  induction ls with
  | nil => rfl
  | cons l ls ih =>
    have hcons : Command.lines (l :: ls) = l ++ "\n" ++ Command.lines ls := String.join_cons
    have hend : newlines "\n" = 1 := rfl
    rw [hcons, newlines_append, newlines_append, ih, hend, String.join_cons, newlines_append,
      List.length_cons]
    omega

/-! ### The file of a table -/

/-- The values of a table, in the order of its names. -/
def Settings.values (s : Settings) : List String :=
  s.toList.map (·.2)

namespace Makefile

/-- What stands on the line that assigns a value. -/
def assigned (name value : String) : String := name ++ " := " ++ value

/-- What stands on the line that exports a name. -/
def exported (name : String) : String := "export " ++ name

/-- The file's lines for some names and the values that go with them. -/
def sheet (names values : List String) : List String :=
  ["", header, ""] ++ List.zipWith assigned names values ++ [""] ++ names.map exported ++ [""]

/-- A text that is laid out as the file for some names, whatever their values. -/
def LaidOut (names : List String) (text : String) : Prop :=
  ∃ values, values.length = names.length ∧ IsLines text (sheet names values)

theorem length_sheet {names values : List String} (h : values.length = names.length) :
    (sheet names values).length = 5 + 2 * names.length := by
  simp only [sheet, List.length_append, List.length_cons, List.length_nil, List.length_zipWith,
    List.length_map, h, Nat.min_self]
  omega

theorem values_length (s : Settings) : s.values.length = s.names.length := by
  rw [Settings.values, Settings.names, List.length_map, List.length_map]

theorem join_assignments (s : Settings) : String.join (s.toList.map assignment) =
    Command.lines (List.zipWith assigned s.names s.values) := by
  rw [Command.lines, Settings.names, Settings.values, List.zipWith_map, List.zipWith_self,
    List.map_map]
  rfl

theorem join_exports (s : Settings) : String.join (s.names.map exportLine) =
    Command.lines (s.names.map exported) := by
  rw [Command.lines, List.map_map]
  rfl

theorem render_eq (s : Settings) : render s = Command.lines (sheet s.names s.values) := by
  have hhead : Command.lines ["", header, ""] = "\n" ++ header ++ "\n\n" := by decide +kernel
  have hempty : Command.lines [""] = "\n" := rfl
  rw [render, sheet, Command.lines_append, Command.lines_append, Command.lines_append,
    Command.lines_append, hhead, hempty, join_assignments, join_exports]

/-- Beside names that are one line each, the values alone hold newlines. -/
theorem newlines_assignments : ∀ {names values : List String}, (∀ name ∈ names, IsLine name) →
    values.length = names.length →
    newlines (String.join (List.zipWith assigned names values)) = newlines (String.join values)
  | [], [], _, _ => rfl
  | name :: names, value :: values, hnames, hlength => by
    have hname : newlines name = 0 := newlines_eq_zero_iff.mpr (hnames name (.head _))
    have hmark : newlines " := " = 0 := rfl
    have hrest := newlines_assignments (fun n hn => hnames n (.tail _ hn)) (Nat.succ.inj hlength)
    rw [List.zipWith_cons_cons, assigned, String.join_cons, newlines_append, hrest, newlines_append,
      newlines_append, hname, hmark, String.join_cons, newlines_append, Nat.zero_add]

theorem newlines_sheet {names values : List String} (hnames : ∀ name ∈ names, IsLine name)
    (hlength : values.length = names.length) :
    newlines (String.join (sheet names values)) = newlines (String.join values) := by
  have hframe : newlines (String.join ["", header, ""]) = 0 := by decide +kernel
  have hempty : newlines (String.join [""]) = 0 := rfl
  have hexports : newlines (String.join (names.map exported)) = 0 := by
    rw [newlines_eq_zero_iff, isLine_join]
    intro l hl
    obtain ⟨name, hname, rfl⟩ := List.mem_map.mp hl
    exact isLine_append.mpr ⟨by decide, hnames name hname⟩
  simp only [sheet, String.join_append, newlines_append, hframe, hempty, hexports,
    newlines_assignments hnames hlength, Nat.zero_add, Nat.add_zero]

section
variable {s : Settings} (hnames : ∀ name ∈ s.names, IsLine name)
include hnames

/-- Every newline in a value makes one more line. -/
theorem newlines_render :
    newlines (render s) = 5 + 2 * s.size + newlines (String.join s.values) := by
  have hsize : s.names.length = s.size := List.length_map _
  rw [render_eq, newlines_lines, length_sheet (values_length s),
    newlines_sheet hnames (values_length s), hsize]

theorem isLines_render (h : ∀ value ∈ s.values, IsLine value) :
    IsLines (render s) (sheet s.names s.values) := by
  refine ⟨render_eq s, isLine_join.mp (newlines_eq_zero_iff.mp ?_)⟩
  rw [newlines_sheet hnames (values_length s), newlines_eq_zero_iff, isLine_join]
  exact h

/-- **A file is laid out for its names exactly if each value is one line.** -/
theorem laidOut_iff : LaidOut s.names (render s) ↔ ∀ value ∈ s.values, IsLine value := by
  constructor
  · rintro ⟨values, hlength, htext, hlines⟩
    -- as many lines as the layout has leave no newline for the values
    have hcount : newlines (render s) = 5 + 2 * s.size := by
      rw [htext, newlines_lines, length_sheet hlength,
        newlines_eq_zero_iff.mpr (isLine_join.mpr hlines), Nat.add_zero]
      exact congrArg (5 + 2 * ·) (List.length_map _)
    rw [newlines_render hnames, Nat.add_eq_left] at hcount
    exact isLine_join.mp (newlines_eq_zero_iff.mp hcount)
  · intro h
    exact ⟨s.values, values_length s, isLines_render hnames h⟩

end
end Makefile

/-! ### What is made of lines -/

theorem isLine_joinText {base segment : String} (hbase : IsLine base) (hsegment : IsLine segment) :
    IsLine (Pathname.joinText base segment) := by
  unfold IsLine at hbase hsegment ⊢
  unfold Pathname.joinText Pathname.join
  rw [String.toList_ofList]
  split
  · exact hsegment
  · split <;> simp [hbase, hsegment]

theorem isLine_familyName {arch : String} (h : IsLine arch) : IsLine (familyName arch) := by
  unfold IsLine familyName
  rw [String.toList_ofList]
  exact fun hmem => h (List.mem_of_mem_take hmem)

theorem isLine_wordFlag (family : Family) (arch : String) : IsLine (family.wordFlag arch) := by
  have hnone : IsLine "" := by decide
  have hlong : IsLine " -m64" := by decide
  have hshort : IsLine " -m32" := by decide
  cases family with
  | arm => exact hnone
  | x86 | ppc =>
    simp only [Family.wordFlag]
    split
    · exact hlong
    · exact hshort

/-- A target's options are fixed texts of one line, whatever the target is called. -/
theorem isLine_flags {of : Parameter → String} {flags : Flags}
    (h : Derived.flags? of = some flags) :
    IsLine flags.compiler ∧ IsLine flags.linker ∧ IsLine flags.sharedLinker := by
  cases hfamily : Family.ofArch (of .target) with
  | error e => rw [Derived.flags?, Flags.ofArch, hfamily] at h; cases h
  | ok family =>
    rw [Derived.flags?, Flags.ofArch, hfamily] at h
    cases h
    have hword := isLine_wordFlag family (of .target)
    simp only [isLine_append, hword]
    decide

namespace Request

/-- A request whose texts are one line each. -/
structure OneLine (r : Request) : Prop where
  root : IsLine r.root
  ecmdRoot : IsLine r.ecmdRoot
  value : ∀ p, ∀ text ∈ r.given.value p, IsLine text
  env : ∀ name ∈ consulted, ∀ text ∈ r.env.get? name, IsLine text
  fallbacks : ∀ text ∈ [r.fallbacks.cc, r.fallbacks.ld, r.fallbacks.ar, r.fallbacks.sysroot,
    r.fallbacks.verbose, r.fallbacks.hostMachine], IsLine text

variable {r : Request} {c : Configuration}

theorem OneLine.named (h : r.OneLine) {p : Parameter} {text : String}
    (hnamed : r.named p = some text) : IsLine text := by
  rcases Option.or_eq_some_iff.mp hnamed with hvalue | ⟨-, henv⟩
  · exact h.value p text hvalue
  · exact h.env _ (Inquiry.ofParameter p).name_mem_consulted text henv

theorem OneLine.standIn (h : r.OneLine) {p : Parameter} {text : String}
    (hstand : r.standIn p = some text) : IsLine text := by
  cases p with
  | host | cc | ld | ar | sysroot =>
    cases hstand
    exact h.fallbacks _ (by simp)
  | target =>
    cases hstand
    cases hhost : r.named .host with
    | some text => exact h.named hhost
    | none => exact h.fallbacks _ (by simp)
  | outputRoot | installPath =>
    cases hstand
    exact isLine_joinText h.root (by decide)
  | swig | perl | perlInc | python | pythonInc | python3 | python3Inc | doxygen | extensions
  | ecmdRepos => cases hstand

theorem OneLine.parameter (h : r.OneLine) {p : Parameter} {text : String}
    (hvalue : (r.named p).or (r.standIn p) = some text) : IsLine text := by
  rcases Option.or_eq_some_iff.mp hvalue with hnamed | ⟨-, hstand⟩
  · exact h.named hnamed
  · exact h.standIn hstand

theorem OneLine.valueOf (h : r.OneLine) (p : Parameter) : IsLine (r.valueOf p) := by
  unfold Request.valueOf
  cases hvalue : (r.named p).or (r.standIn p) with
  | some text => exact h.parameter hvalue
  | none => exact (by decide : IsLine "")

theorem OneLine.getD (h : r.OneLine) {name fallback : String} (hname : name ∈ consulted)
    (hfallback : IsLine fallback) : IsLine ((r.env.get? name).getD fallback) := by
  cases henv : r.env.get? name with
  | some text => exact h.env name hname text henv
  | none => exact hfallback

theorem OneLine.objects (h : r.OneLine) : IsLine (Derived.objects r.valueOf) := by
  unfold Derived.objects
  rw [isLine_append]
  exact ⟨isLine_joinText (h.valueOf _) (isLine_append.mpr ⟨by decide, h.valueOf _⟩), by decide⟩

theorem OneLine.products (h : r.OneLine) : IsLine (Derived.products r.valueOf) :=
  isLine_joinText (h.valueOf _) (isLine_append.mpr ⟨by decide, h.valueOf _⟩)

theorem OneLine.derived (h : r.OneLine) {d : Derived} {text : String}
    (hvalue : d.value? r.root r.ecmdRoot r.valueOf = some text) : IsLine text := by
  cases d with
  | root => cases hvalue; exact h.root
  | ecmdRoot => cases hvalue; exact h.ecmdRoot
  | hostFamily | targetFamily => cases hvalue; exact isLine_familyName (h.valueOf _)
  | objectPath => cases hvalue; exact h.objects
  | searchPath => cases hvalue; exact isLine_append.mpr ⟨by decide, h.objects⟩
  | outputPath => cases hvalue; exact h.products
  | programPath | libraryPath =>
    rw [← Option.some_inj.mp hvalue]
    exact isLine_joinText h.products (by decide)
  | compilerFlags =>
    obtain ⟨flags, hflags, rfl⟩ := Option.map_eq_some_iff.mp hvalue
    exact isLine_append.mpr ⟨by decide, (isLine_flags hflags).1⟩
  | linkerFlags =>
    obtain ⟨flags, hflags, rfl⟩ := Option.map_eq_some_iff.mp hvalue
    exact (isLine_flags hflags).2.1
  | sharedLinkerFlags =>
    obtain ⟨flags, hflags, rfl⟩ := Option.map_eq_some_iff.mp hvalue
    exact (isLine_flags hflags).2.2

/-- What a request of lines makes of each setting is one line. -/
theorem isLine_value? (h : r.OneLine) {s : Setting} {text : String}
    (hvalue : r.value? s = some text) : IsLine text := by
  cases s with
  | parameter p => exact h.parameter hvalue
  | derived d => exact h.derived hvalue
  | create l =>
    cases hvalue
    split
    · decide
    · exact h.getD (Inquiry.value (.create l)).name_mem_consulted (by decide)
  | defines =>
    have hown : "DEFINES" ∈ consulted := mem_consulted_of_lone (by decide)
    cases hvalue
    rw [isLine_append, isLine_append]
    refine ⟨⟨h.getD hown (by decide), by decide⟩, ?_⟩
    split <;> decide
  | echo =>
    have hecho : "VERBOSE" ∈ consulted := mem_consulted_of_lone (by decide)
    cases hvalue
    split
    · decide
    · exact h.getD hecho (h.fallbacks _ (by simp))

theorem name_isLine : ∀ s ∈ Setting.all, IsLine s.name := by
  decide +kernel

theorem names_isLine (h : r.resolve = .ok c) : ∀ name ∈ c.settings.names, IsLine name := by
  intro name hname
  obtain ⟨s, rfl⟩ := exists_setting h hname
  exact name_isLine s s.mem_all

theorem values_isLine (h : r.resolve = .ok c) (hone : r.OneLine) :
    ∀ value ∈ c.settings.values, IsLine value := by
  intro value hvalue
  obtain ⟨p, hp, rfl⟩ := List.mem_map.mp hvalue
  obtain ⟨s, hs⟩ := exists_setting h (List.mem_map_of_mem hp)
  have hget : c.settings.get? s.name = some p.2 := Settings.get?_eq_some_iff.mpr (hs ▸ hp)
  exact isLine_value? hone ((get?_setting h s).symm.trans hget)

/-- **The file of a request is laid out exactly as long as its values are lines.**
The names are in increasing order. The file has its frame of lines, two for each
name, and one for every newline in a value. So it is laid out for its names, one
assignment and one export each, if and only if no value holds a newline; and none
does where no text of the request does. -/
theorem layout_of_resolve (h : r.resolve = .ok c) :
    c.settings.names.Pairwise (· < ·) ∧
    newlines (Makefile.render c.settings) =
      5 + 2 * c.settings.size + newlines (String.join c.settings.values) ∧
    (Makefile.LaidOut c.settings.names (Makefile.render c.settings) ↔
      ∀ value ∈ c.settings.values, IsLine value) ∧
    (r.OneLine → IsLines (Makefile.render c.settings)
      (Makefile.sheet c.settings.names c.settings.values)) := by
  have hnames := names_isLine h
  exact ⟨c.settings.names_increasing, Makefile.newlines_render hnames, Makefile.laidOut_iff hnames,
    fun hone => Makefile.isLines_render hnames (values_isLine h hone)⟩

theorem layout_of_crossBuild : ∃ c, crossBuild.resolve = .ok c ∧
    newlines (Makefile.render c.settings) = 57 ∧
    Makefile.LaidOut c.settings.names (Makefile.render c.settings) := by
  have hone : crossBuild.OneLine := {
    root := by decide +kernel
    ecmdRoot := by decide +kernel
    value := fun p => by cases p <;> decide
    env := by decide +kernel
    fallbacks := by decide +kernel }
  obtain ⟨c, hc⟩ := crossBuild.resolve_of_known (by decide +kernel)
  obtain ⟨-, hcount, hlaid, -⟩ := layout_of_resolve hc
  have hvalues := values_isLine hc hone
  have htools : Parameter.tools.filter crossBuild.hasTool = [.swig] := by decide +kernel
  rw [size_of_resolve hc, htools, newlines_eq_zero_iff.mpr (isLine_join.mpr hvalues)] at hcount
  exact ⟨c, hc, hcount, hlaid.mpr hvalues⟩

/-- A build whose compiler brings a line of its own. -/
def twoLineBuild : Request :=
  { crossBuild with given.value := fun
      | .cc => some "g++\nSYSROOT := /elsewhere"
      | p => crossBuild.given.value p }

/-- One value of two lines, and the file is not laid out. -/
theorem not_laidOut_of_twoLineBuild : ∃ c, twoLineBuild.resolve = .ok c ∧
    ¬ Makefile.LaidOut c.settings.names (Makefile.render c.settings) := by
  obtain ⟨c, hc⟩ := twoLineBuild.resolve_of_known (by decide +kernel)
  refine ⟨c, hc, fun hlaid => ?_⟩
  have hvalues := (Makefile.laidOut_iff (names_isLine hc)).mp hlaid
  have hget : c.settings.get? "CC" = some "g++\nSYSROOT := /elsewhere" := get?_parameter hc .cc
  have hline := hvalues _ (List.mem_map_of_mem (Settings.get?_eq_some_iff.mp hget))
  exact absurd hline (by decide)

end Request
end BuildSettings
