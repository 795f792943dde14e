/-
# The settings of a table, by kind

A table has settings of five kinds: parameters; settings that follow from the
repositories and from parameters; the languages' interfaces; the definitions; and
the echo of recipes. `Request.value?` says what each of them is worth to a
request. A resolved table holds this value and nothing else (`get?_setting`,
`exists_setting`). So two tables agree on a name if the two requests agree on the
setting of that name (`get?_congr`), and requests that agree on all of them give one
configuration (`configuration_congr`).

Key definitions: `Derived`, `Derived.value?`, `Setting`, `Request.valueOf`,
`Request.value?`.
Key theorems: `get?_derived`, `get?_setting`, `exists_setting`, `get?_congr`,
`configuration_congr`.
-/
import BuildSettings.Proofs.Values

namespace BuildSettings

theorem Parameter.mem_all (p : Parameter) : p ∈ all := by
  cases p <;> decide

theorem Language.mem_all (l : Language) : l ∈ all := by
  cases l <;> decide

/-- A setting that follows from the repositories and from parameters. -/
inductive Derived where
  | root
  | ecmdRoot
  | hostFamily
  | targetFamily
  | objectPath
  | searchPath
  | outputPath
  | programPath
  | libraryPath
  | compilerFlags
  | linkerFlags
  | sharedLinkerFlags
  deriving DecidableEq, Repr

namespace Derived

/-- The name of a derived setting. -/
def name : Derived → String
  | root => "PDBG_ROOT"
  | ecmdRoot => "ECMD_ROOT"
  | hostFamily => "HOST_BARCH"
  | targetFamily => "TARGET_BARCH"
  | objectPath => "OBJPATH"
  | searchPath => "GPATH"
  | outputPath => "OUTPATH"
  | programPath => "OUTBIN"
  | libraryPath => "OUTLIB"
  | compilerFlags => "CFLAGS"
  | linkerFlags => "LDFLAGS"
  | sharedLinkerFlags => "SLDFLAGS"

/-- Every derived setting. -/
def all : List Derived :=
  [root, ecmdRoot, hostFamily, targetFamily, objectPath, searchPath, outputPath, programPath,
    libraryPath, compilerFlags, linkerFlags, sharedLinkerFlags]

theorem mem_all (d : Derived) : d ∈ all := by
  cases d <;> decide

/-- The parameters that a derived setting follows from. -/
def sources : Derived → List Parameter
  | root => []
  | ecmdRoot => []
  | hostFamily => [.host]
  | targetFamily => [.target]
  | objectPath => [.outputRoot, .target]
  | searchPath => [.outputRoot, .target]
  | outputPath => [.outputRoot, .target]
  | programPath => [.outputRoot, .target]
  | libraryPath => [.outputRoot, .target]
  | compilerFlags => [.target]
  | linkerFlags => [.target]
  | sharedLinkerFlags => [.target]

section
variable (rootText ecmdText : String) (of : Parameter → String)

/-- Where objects go. -/
def objects : String :=
  Pathname.joinText (of .outputRoot) ("obj_" ++ of .target) ++ "/"

/-- Where products go. -/
def products : String :=
  Pathname.joinText (of .outputRoot) ("out_" ++ of .target)

/-- A target's options, if there are any. -/
def flags? : Option Flags :=
  (Flags.ofArch (of .target)).toOption

/-- The value of a derived setting, from the repositories and the values of
parameters. -/
def value? : Derived → Option String
  | root => rootText
  | ecmdRoot => ecmdText
  | hostFamily => familyName (of .host)
  | targetFamily => familyName (of .target)
  | objectPath => objects of
  | searchPath => " " ++ objects of
  | outputPath => products of
  | programPath => Pathname.joinText (products of) "bin"
  | libraryPath => Pathname.joinText (products of) "lib"
  | compilerFlags => (flags? of).map fun flags => "-g -I." ++ flags.compiler
  | linkerFlags => (flags? of).map Flags.linker
  | sharedLinkerFlags => (flags? of).map Flags.sharedLinker

end

theorem value?_congr {rootText ecmdText : String} {of of' : Parameter → String} {d : Derived}
    (h : ∀ p ∈ d.sources, of' p = of p) :
    d.value? rootText ecmdText of' = d.value? rootText ecmdText of := by
  cases d <;> simp_all [sources, value?, objects, products, flags?]

end Derived

/-- A setting, by its kind. -/
inductive Setting where
  | parameter (p : Parameter)
  | derived (d : Derived)
  /-- Whether a language's interface is built. -/
  | create (l : Language)
  /-- The definitions for the preprocessor. -/
  | defines
  /-- What stands in front of each recipe. -/
  | echo
  deriving DecidableEq, Repr

namespace Setting

/-- The name of a setting. -/
def name : Setting → String
  | parameter p => p.setting
  | derived d => d.name
  | create l => l.createSetting
  | defines => "DEFINES"
  | echo => "VERBOSE"

/-- Every setting. -/
def all : List Setting :=
  Parameter.all.map parameter ++ Derived.all.map derived ++ Language.all.map create
  ++ [defines, echo]

theorem mem_all (s : Setting) : s ∈ all := by
  cases s with
  | parameter p =>
    refine List.mem_append_left _ (List.mem_append_left _ (List.mem_append_left _ ?_))
    exact List.mem_map_of_mem p.mem_all
  | derived d =>
    refine List.mem_append_left _ (List.mem_append_left _ (List.mem_append_right _ ?_))
    exact List.mem_map_of_mem d.mem_all
  | create l =>
    refine List.mem_append_left _ (List.mem_append_right _ ?_)
    exact List.mem_map_of_mem l.mem_all
  | defines => exact List.mem_append_right _ (.head _)
  | echo => exact List.mem_append_right _ (.tail _ (.head _))

end Setting

namespace Request

variable (r : Request)

/-- What a parameter is worth: what names it first, or what stands for it. A tool
that nobody gives is worth nothing. -/
def valueOf (p : Parameter) : String :=
  ((r.named p).or (r.standIn p)).getD ""

/-- What a setting is worth. -/
def value? : Setting → Option String
  | .parameter p => (r.named p).or (r.standIn p)
  | .derived d => d.value? r.root r.ecmdRoot r.valueOf
  | .create l => some (if r.disabled l then "no" else (r.env.get? l.createSetting).getD "yes")
  | .defines => some ((r.env.get? "DEFINES").getD "" ++ " -DLINUX" ++
      if r.given.switch .removeSim || r.env.contains "REMOVE_SIM" then " -DREMOVE_SIM" else "")
  | .echo => some (if r.given.switch .buildVerbose then ""
      else (r.env.get? "VERBOSE").getD r.fallbacks.verbose)

theorem valueOf_eq {p : Parameter} {fallback : String} (h : r.standIn p = some fallback) :
    r.valueOf p = (r.parameter p fallback).value := by
  rw [valueOf, h, parameter_value]
  cases r.named p <;> rfl

theorem valueOf_host : r.valueOf .host = r.hostArch.value := r.valueOf_eq rfl

theorem valueOf_target : r.valueOf .target = r.targetArch.value := by
  refine r.valueOf_eq (congrArg some ?_)
  rw [hostArch, parameter_value]

theorem valueOf_outputRoot : r.valueOf .outputRoot = r.outputRoot.value := r.valueOf_eq rfl

variable {r : Request} {c : Configuration}

/-- Only a tool is worth nothing, and nothing stands for a tool in any request. -/
theorem standIn_of_worthless {p : Parameter} (h : r.value? (.parameter p) = none)
    (q : Request) : q.standIn p = none := by
  obtain ⟨-, hstand⟩ := Option.or_eq_none_iff.mp h
  cases p with
  | host | target | outputRoot | cc | ld | ar | sysroot | installPath => cases hstand
  | swig | perl | perlInc | python | pythonInc | python3 | python3Inc | doxygen | extensions
  | ecmdRepos => rfl

theorem get?_valueOf (h : r.resolve = .ok c) {p : Parameter} (hp : (r.standIn p).isSome) :
    c.settings.get? p.setting = some (r.valueOf p) := by
  obtain ⟨fallback, hfallback⟩ := Option.isSome_iff_exists.mp hp
  rw [get?_parameter h, valueOf, hfallback]
  cases r.named p <;> rfl

theorem objects_valueOf : Derived.objects r.valueOf = r.objectPath := by
  rw [Derived.objects, valueOf_outputRoot, valueOf_target]
  rfl

theorem products_valueOf : Derived.products r.valueOf = r.outputPath := by
  rw [Derived.products, valueOf_outputRoot, valueOf_target]
  rfl

/-- **What follows from the repositories and parameters.** -/
theorem get?_derived (h : r.resolve = .ok c) (d : Derived) :
    c.settings.get? d.name = d.value? r.root r.ecmdRoot r.valueOf := by
  obtain ⟨flags, hflags, -⟩ := of_resolve h
  have hopt : Derived.flags? r.valueOf = some flags := by
    rw [Derived.flags?, valueOf_target, hflags]
    rfl
  -- the options that the steps put are those of the target
  have put : ∀ {value : String}, (d.name, value) ∈ r.earlyEntries ++ r.lateEntries flags →
      c.settings.get? d.name = some value := fun hmem =>
    get?_of_mem h fun flags' hflags' => by
      rw [hflags] at hflags'
      cases hflags'
      exact hmem
  cases d with
  | root | ecmdRoot => exact put (by simp [Derived.name, earlyEntries])
  | hostFamily =>
    rw [Derived.value?, valueOf_host]
    exact put (by simp [Derived.name, earlyEntries])
  | targetFamily =>
    rw [Derived.value?, valueOf_target]
    exact put (by simp [Derived.name, earlyEntries])
  | objectPath | searchPath =>
    rw [Derived.value?, objects_valueOf]
    exact put (by simp [Derived.name, lateEntries, optionEntries])
  | outputPath | programPath | libraryPath =>
    rw [Derived.value?, products_valueOf]
    exact put (by simp [Derived.name, earlyEntries])
  | compilerFlags | linkerFlags | sharedLinkerFlags =>
    rw [Derived.value?, hopt]
    exact put (by simp [Derived.name, lateEntries, optionEntries])

/-- **A resolved table holds what each setting is worth.** -/
theorem get?_setting (h : r.resolve = .ok c) (s : Setting) :
    c.settings.get? s.name = r.value? s := by
  cases s with
  | parameter p => exact get?_parameter h p
  | derived d => exact get?_derived h d
  | create l => exact get?_create h l
  | defines => exact get?_defines h
  | echo => exact get?_verbose h

theorem setting_of_mandatory : ∀ name ∈ mandatoryNames, ∃ s ∈ Setting.all, s.name = name := by
  decide +kernel

theorem exists_setting (h : r.resolve = .ok c) {name : String} (hmem : name ∈ c.settings.names) :
    ∃ s : Setting, s.name = name := by
  rw [(names_of_resolve h).mem_iff, List.mem_append] at hmem
  rcases hmem with hmem | hmem
  · obtain ⟨s, -, hs⟩ := setting_of_mandatory name hmem
    exact ⟨s, hs⟩
  · obtain ⟨p, -, hp⟩ := List.mem_map.mp hmem
    exact ⟨.parameter p, hp⟩

theorem get?_congr {q : Request} {d : Configuration} (hr : r.resolve = .ok c)
    (hq : q.resolve = .ok d) {name : String}
    (hvalue : ∀ s : Setting, s.name = name → q.value? s = r.value? s) :
    d.settings.get? name = c.settings.get? name := by
  by_cases hs : ∃ s : Setting, s.name = name
  · obtain ⟨s, rfl⟩ := hs
    rw [get?_setting hr, get?_setting hq, hvalue s rfl]
  · rw [Settings.get?_eq_none_iff.mpr (mt (exists_setting hq) hs),
      Settings.get?_eq_none_iff.mpr (mt (exists_setting hr) hs)]

/-- Requests for one root give one configuration, if the requests agree on every
setting and the files have one name. -/
theorem configuration_congr {q : Request} {d : Configuration} (hr : r.resolve = .ok c)
    (hq : q.resolve = .ok d) (hroot : q.given.root = r.given.root) (hname : d.fileName = c.fileName)
    (hvalue : ∀ s : Setting, q.value? s = r.value? s) : d = c := by
  have hdirectory : d.root = c.root := by
    obtain ⟨-, -, hc, -⟩ := of_resolve hr
    obtain ⟨-, -, hd, -⟩ := of_resolve hq
    rw [hc, hd, hroot]
  have hsettings : d.settings = c.settings :=
    Settings.ext_get? fun _ => get?_congr hr hq fun s _ => hvalue s
  cases c
  cases d
  rw [Configuration.mk.injEq]
  exact ⟨hdirectory, hname, hsettings⟩

end Request
end BuildSettings
