/-
# What a resolved table holds

The table of a resolved request has the 25 mandatory names and those of the tools
that somebody gives, and no others. Each of the 18 parameters has the value given
for it, failing that its variable's, failing that what stands for it; a tool has
nothing that stands for it. An empty text is a value like any other.

Key definitions: `mandatoryNames`, `Request.standIn`.
Key theorems: `names_of_resolve`, `get?_parameter`, `table_of_resolve`.
-/
import BuildSettings.Proofs.Outcome

namespace BuildSettings

/-- The names that every resolved table has. -/
def mandatoryNames : List String :=
  ["PDBG_ROOT", "ECMD_ROOT", "HOST_ARCH", "HOST_BARCH", "TARGET_ARCH", "TARGET_BARCH",
    "OUTPUT_ROOT", "OBJPATH", "OUTPATH", "OUTBIN", "OUTLIB", "CC", "LD", "AR", "SYSROOT",
    "DEFINES", "GPATH", "CFLAGS", "LDFLAGS", "SLDFLAGS", "CREATE_PERLAPI", "CREATE_PYAPI",
    "CREATE_PY3API", "VERBOSE", "INSTALL_PATH"]

namespace Request

variable {r : Request} {c : Configuration}

/-- What stands for a parameter that nobody names, if anything does. -/
def standIn (r : Request) : Parameter → Option String
  | .host => r.fallbacks.hostMachine
  | .target => (r.named .host).getD r.fallbacks.hostMachine
  | .outputRoot => Pathname.joinText r.root "build"
  | .cc => r.fallbacks.cc
  | .ld => r.fallbacks.ld
  | .ar => r.fallbacks.ar
  | .sysroot => r.fallbacks.sysroot
  | .installPath => Pathname.joinText r.root "install"
  | _ => none

/-! ### Names -/

/-- A table's names are the mandatory ones and those of the tools that are given,
up to their order. -/
theorem names_of_resolve (h : r.resolve = .ok c) :
    c.settings.names.Perm
      (mandatoryNames ++ (Parameter.tools.filter r.hasTool).map Parameter.setting) := by
  obtain ⟨flags, -, -, -, hperm⟩ := of_resolve h
  have hnames := hperm.map (·.1)
  rw [← Resolution.putNames, putNames_steps, List.append_assoc] at hnames
  have hfixed : (leadingNames ++ closingNames).Perm mandatoryNames := by decide +kernel
  refine hnames.trans ((List.perm_append_comm.append_left leadingNames).trans ?_)
  rw [← List.append_assoc]
  exact hfixed.append_right _

/-! ### Values -/

theorem get?_of_mem (h : r.resolve = .ok c) {name value : String}
    (hmem : ∀ flags, Flags.ofArch r.targetArch.value = .ok flags →
      (name, value) ∈ r.earlyEntries ++ r.lateEntries flags) :
    c.settings.get? name = some value := by
  obtain ⟨flags, hflags, -, -, hperm⟩ := of_resolve h
  rw [Resolution.entries_append, entries_earlySteps, entries_lateSteps] at hperm
  exact Settings.get?_eq_some_iff.mpr (hperm.mem_iff.mpr (hmem flags hflags))

/-- A parameter that is looked up in three tiers has the value of the first that
names it. -/
theorem get?_of_parameter (h : r.resolve = .ok c) {p : Parameter} {fallback : String}
    (hstand : r.standIn p = some fallback)
    (hmem : ∀ flags, (p.setting, (r.parameter p fallback).value) ∈
      r.earlyEntries ++ r.lateEntries flags) :
    c.settings.get? p.setting = (r.named p).or (r.standIn p) := by
  rw [get?_of_mem h fun flags _ => hmem flags, parameter_value, hstand]
  cases r.named p <;> rfl

theorem setting_inj_of_tool {p q : Parameter} (hp : p ∈ Parameter.tools) (hq : q ∈ Parameter.tools)
    (h : p.setting = q.setting) : p = q :=
  have hnodup := (List.nodup_append.mp (List.nodup_append.mp nodup_settingNames).1).2.1
  List.inj_on_of_nodup_map hnodup hp hq h

theorem setting_not_mem_mandatory {p : Parameter} (hp : p ∈ Parameter.tools) :
    p.setting ∉ mandatoryNames := by
  have hnames : ∀ q ∈ Parameter.tools, q.setting ∉ mandatoryNames := by decide +kernel
  exact hnames p hp

theorem get?_of_tool (h : r.resolve = .ok c) {p : Parameter} (hp : p ∈ Parameter.tools) :
    c.settings.get? p.setting = r.named p := by
  cases hvalue : r.named p with
  | some value =>
    refine get?_of_mem h fun flags _ => List.mem_append_right _ ?_
    refine List.mem_append_left _ (List.mem_append_right _ ?_)
    exact List.mem_filterMap.mpr ⟨p, hp, by rw [hvalue]; rfl⟩
  | none =>
    rw [Settings.get?_eq_none_iff, (names_of_resolve h).mem_iff, List.mem_append, not_or]
    refine ⟨setting_not_mem_mandatory hp, fun hm => ?_⟩
    obtain ⟨q, hq, hset⟩ := List.mem_map.mp hm
    obtain ⟨hq, hhas⟩ := List.mem_filter.mp hq
    rw [setting_inj_of_tool hq hp hset, hasTool, hvalue] at hhas
    cases hhas

/-- **Arguments beat variables, and both beat what stands for a parameter.** -/
theorem get?_parameter (h : r.resolve = .ok c) (p : Parameter) :
    c.settings.get? p.setting = (r.named p).or (r.standIn p) := by
  have hhost : r.hostArch.value = (r.named .host).getD r.fallbacks.hostMachine := r.parameter_value ..
  have tool : p ∈ Parameter.tools → r.standIn p = none →
      c.settings.get? p.setting = (r.named p).or (r.standIn p) := fun hp hnone => by
    rw [get?_of_tool h hp, hnone, Option.or_none]
  cases p with
  | host => exact get?_of_parameter h rfl fun _ => by simp [earlyEntries, Parameter.setting, hostArch]
  | target =>
    refine get?_of_parameter h rfl fun _ => ?_
    rw [← hhost]
    simp [lateEntries, optionEntries, Parameter.setting, targetArch]
  | outputRoot =>
    exact get?_of_parameter h rfl fun _ => by simp [earlyEntries, Parameter.setting, outputRoot]
  | cc => exact get?_of_parameter h rfl fun _ => by simp [earlyEntries, Parameter.setting, cc]
  | ld => exact get?_of_parameter h rfl fun _ => by simp [earlyEntries, Parameter.setting, ld]
  | ar => exact get?_of_parameter h rfl fun _ => by simp [earlyEntries, Parameter.setting, ar]
  | sysroot =>
    exact get?_of_parameter h rfl fun _ => by simp [earlyEntries, Parameter.setting, sysroot]
  | installPath =>
    exact get?_of_parameter h rfl fun _ => by simp [lateEntries, Parameter.setting, installPath]
  | swig | perl | perlInc | python | pythonInc | python3 | python3Inc | doxygen | extensions
  | ecmdRepos => exact tool (by decide) rfl

theorem get?_defines (h : r.resolve = .ok c) :
    c.settings.get? "DEFINES" = some ((r.env.get? "DEFINES").getD "" ++ " -DLINUX" ++
      if r.given.switch .removeSim || r.env.contains "REMOVE_SIM" then " -DREMOVE_SIM" else "") := by
  have hmem : ∀ flags, ("DEFINES", r.defines) ∈ r.earlyEntries ++ r.lateEntries flags := by
    simp [lateEntries, optionEntries]
  rw [get?_of_mem h fun flags _ => hmem flags, defines, ownDefines, resolve_value, Option.none_or,
    switchOn_eq]

theorem get?_verbose (h : r.resolve = .ok c) :
    c.settings.get? "VERBOSE" = some (if r.given.switch .buildVerbose then ""
      else (r.env.get? "VERBOSE").getD r.fallbacks.verbose) := by
  have hmem : ∀ flags, ("VERBOSE", r.verbose) ∈ r.earlyEntries ++ r.lateEntries flags := by
    simp [lateEntries]
  rw [get?_of_mem h fun flags _ => hmem flags, verbose, echo, resolve_value, Option.none_or]

theorem withoutSwig_eq (r : Request) :
    r.withoutSwig = (r.given.switch .withoutSwig || r.env.contains "WITHOUT_SWIG") :=
  r.switchOn_eq ..

theorem disabled_eq (r : Request) (l : Language) :
    r.disabled l = (r.given.switch .withoutSwig || r.env.contains "WITHOUT_SWIG"
      || (r.given.switch l.disablingSwitch || r.env.contains l.disablingVariable)) := by
  rw [disabled, withoutSwig_eq, switchOn_eq]

theorem get?_create (h : r.resolve = .ok c) (l : Language) :
    c.settings.get? l.createSetting = some (if r.disabled l then "no"
      else (r.env.get? l.createSetting).getD "yes") := by
  have hl : l ∈ Language.all := by cases l <;> decide
  have hmem : ∀ flags, (l.createSetting, (r.create l).value) ∈ r.lateEntries flags := fun flags => by
    refine List.mem_append_left _ (List.mem_append_left _ (List.mem_append_right _ ?_))
    exact List.mem_map.mpr ⟨l, hl, rfl⟩
  rw [get?_of_mem h fun flags _ => List.mem_append_right _ (hmem flags), create, resolve_value,
    decided]
  split <;> rfl

theorem fileName_of_resolve (h : r.resolve = .ok c) :
    c.fileName = (r.env.get? "MAKEFILE_CONFIG_NAME").getD r.fallbacks.fileName := by
  obtain ⟨flags, -, -, hname, -⟩ := of_resolve h
  rw [hname, fileName, resolve_value, Option.none_or]
  rfl

theorem size_of_resolve (h : r.resolve = .ok c) :
    c.settings.size = 25 + (Parameter.tools.filter r.hasTool).length := by
  have hlength := (names_of_resolve h).length_eq
  rwa [List.length_append, List.length_map, Settings.names, List.length_map] at hlength

theorem hasTool_eq (r : Request) (p : Parameter) :
    r.hasTool p = ((r.given.value p).isSome || r.env.contains p.setting) := by
  rw [hasTool, named, Option.isSome_or]
  rfl

/-! ### The table -/

/-- **What stands in the table of a resolved request.** The mandatory names and
those of the tools that somebody gives; for each parameter its argument, else its
variable, else its stand-in; and what the switches make of the rest. -/
theorem table_of_resolve (h : r.resolve = .ok c) :
    (∀ name, c.settings.contains name = true ↔ name ∈ mandatoryNames ∨
      ∃ p ∈ Parameter.tools,
        ((r.given.value p).isSome || r.env.contains p.setting) = true ∧ p.setting = name) ∧
    c.settings.size = 25 + (Parameter.tools.filter fun p =>
      (r.given.value p).isSome || r.env.contains p.setting).length ∧
    (∀ p, c.settings.get? p.setting =
      (r.given.value p).or ((r.env.get? p.setting).or (r.standIn p))) ∧
    c.settings.get? "DEFINES" = some ((r.env.get? "DEFINES").getD "" ++ " -DLINUX" ++
      if r.given.switch .removeSim || r.env.contains "REMOVE_SIM" then " -DREMOVE_SIM" else "") ∧
    c.settings.get? "VERBOSE" = some (if r.given.switch .buildVerbose then ""
      else (r.env.get? "VERBOSE").getD r.fallbacks.verbose) ∧
    (∀ l : Language, c.settings.get? l.createSetting = some (
      if r.given.switch .withoutSwig || r.env.contains "WITHOUT_SWIG"
        || (r.given.switch l.disablingSwitch || r.env.contains l.disablingVariable) then "no"
      else (r.env.get? l.createSetting).getD "yes")) ∧
    c.fileName = (r.env.get? "MAKEFILE_CONFIG_NAME").getD r.fallbacks.fileName := by
  have htool : r.hasTool = fun p => (r.given.value p).isSome || r.env.contains p.setting :=
    funext r.hasTool_eq
  refine ⟨fun name => ?_, ?_, fun p => ?_, get?_defines h, get?_verbose h, fun l => ?_,
    fileName_of_resolve h⟩
  · rw [Settings.contains_iff, (names_of_resolve h).mem_iff, List.mem_append, List.mem_map, htool]
    simp only [List.mem_filter, and_assoc]
  · rw [size_of_resolve h, htool]
  · rw [get?_parameter h, named, Option.or_assoc]
  · rw [get?_create h, disabled_eq]

/-- A build for another machine, with a variable set to the empty text. -/
def crossBuild : Request where
  given := {
    root := Utf8.encode "/r"
    ecmdRoot := Utf8.encode "/e"
    value := fun
      | .target => some "ppc64"
      | .swig => some ""
      | _ => none }
  fallbacks := {}
  env := .ofPairs [("CC", ""), ("TARGET_ARCH", "sparc"), ("REMOVE_SIM", "0"), ("DEFINES", "-DX")]

theorem table_of_crossBuild : ∃ c, crossBuild.resolve = .ok c ∧ c.settings.size = 26 ∧
    c.settings.get? "TARGET_ARCH" = some "ppc64" ∧ c.settings.get? "CC" = some "" ∧
    c.settings.get? "SWIG" = some "" ∧ c.settings.get? "LD" = some "/usr/bin/g++" ∧
    c.settings.get? "DEFINES" = some "-DX -DLINUX -DREMOVE_SIM" := by
  obtain ⟨c, hc⟩ := crossBuild.resolve_of_known (by decide +kernel)
  obtain ⟨-, hsize, hvalue, hdefines, -⟩ := table_of_resolve hc
  exact ⟨c, hc, hsize, hvalue .target, hvalue .cc, hvalue .swig, hvalue .ld, hdefines⟩

end Request
end BuildSettings
