/-
# When a request is resolved

A request is resolved if the family of its target has compile options, and
refused with that family's name if not. Nothing else can go wrong: each of the
settings is put under a name that the table does not hold yet.

The names are the same for every request, tools that nobody gives apart, and they
are all different (`nodup_settingNames`). So the steps up to the check succeed,
and so do those after it where the check is passed (`follow_prefix`).

Key definitions: `Request.askedTarget`, `Request.hasTool`, `settingNames`.
Key theorems: `putNames_steps`, `course_of_known`, `course_of_unknown`,
`of_resolve`, `resolve_iff_target_known`.
-/
import BuildSettings.Configuration
import BuildSettings.Proofs.Course

namespace BuildSettings

open Resolution (Course Step)

/-! ### Families -/

/-- The first three characters that compile options are known for. -/
def knownFamilies : List String := ["x86", "ppc", "arm"]

theorem ofArch_of_known {arch : String} (h : familyName arch ∈ knownFamilies) :
    ∃ flags, Flags.ofArch arch = .ok flags := by
  have hf : ∃ family, Family.ofArch arch = .ok family := by
    unfold Family.ofArch
    cases hfind : Family.all.find? (·.name = familyName arch) with
    | some family => exact ⟨family, rfl⟩
    | none =>
      rw [List.find?_eq_none] at hfind
      have hname : familyName arch ∈ Family.all.map Family.name := h
      obtain ⟨family, hmem, heq⟩ := List.mem_map.mp hname
      exact absurd (decide_eq_true heq) (hfind family hmem)
  obtain ⟨family, hf⟩ := hf
  exact ⟨_, by rw [Flags.ofArch, hf]; rfl⟩

theorem ofArch_of_unknown {arch : String} (h : familyName arch ∉ knownFamilies) :
    Flags.ofArch arch = .error (.unknownArch (familyName arch)) := by
  have hfind : Family.all.find? (·.name = familyName arch) = none := by
    rw [List.find?_eq_none]
    intro family hmem heq
    exact h (List.mem_map.mpr ⟨family, hmem, of_decide_eq_true heq⟩)
  rw [Flags.ofArch, Family.ofArch, hfind]
  rfl

namespace Request

variable (r : Request)

/-! ### What a request asks for -/

/-- The first of the two tiers above the fallback that names a parameter. -/
def named (p : Parameter) : Option String :=
  (r.given.value p).or (r.env.get? p.setting)

/-- The architecture that the request is for: the target if anybody names it,
then the host, then the machine. -/
def askedTarget : String :=
  (r.named .target).getD ((r.named .host).getD r.fallbacks.hostMachine)

theorem resolve_value (name : String) (explicit : Option String) (env : Environment)
    (fallback : String) :
    (BuildSettings.resolve name explicit env fallback).value =
      (explicit.or (env.get? name)).getD fallback := by
  rw [resolve_eq, resolveOptional_eq]
  cases explicit with
  | some value => rfl
  | none => cases env.get? name <;> rfl

theorem parameter_value (p : Parameter) (fallback : String) :
    (r.parameter p fallback).value = (r.named p).getD fallback :=
  resolve_value ..

theorem switchOn_eq (name : String) (s : Switch) :
    r.switchOn name s = (r.given.switch s || r.env.contains name) :=
  flag_eq ..

theorem targetArch_value : r.targetArch.value = r.askedTarget := by
  rw [targetArch, parameter_value, hostArch, parameter_value]
  rfl

/-- Whether anybody gives a tool. -/
def hasTool (p : Parameter) : Bool := (r.named p).isSome

theorem tool_value (p : Parameter) : (r.tool p).map (·.value) = r.named p := by
  rw [tool, named, resolveOptional_eq]
  cases r.given.value p with
  | some value => rfl
  | none => cases r.env.get? p.setting <;> rfl

/-! ### What its steps put -/

open Resolution (entries putNames)

/-- The settings that are put before the check of the target. -/
def earlyEntries : List (String × String) :=
  [("PDBG_ROOT", r.root), ("ECMD_ROOT", r.ecmdRoot), ("HOST_BARCH", familyName r.hostArch.value),
    ("TARGET_BARCH", familyName r.targetArch.value), ("HOST_ARCH", r.hostArch.value),
    ("OUTBIN", Pathname.joinText r.outputPath "bin"),
    ("OUTLIB", Pathname.joinText r.outputPath "lib"), ("OUTPATH", r.outputPath),
    ("OUTPUT_ROOT", r.outputRoot.value), ("CC", r.cc.value), ("LD", r.ld.value),
    ("AR", r.ar.value), ("SYSROOT", r.sysroot.value)]

/-- The settings that are put for the target. -/
def optionEntries (flags : Flags) : List (String × String) :=
  [("DEFINES", r.defines), ("GPATH", " " ++ r.objectPath), ("OBJPATH", r.objectPath),
    ("CFLAGS", "-g -I." ++ flags.compiler), ("LDFLAGS", flags.linker),
    ("SLDFLAGS", flags.sharedLinker), ("TARGET_ARCH", r.targetArch.value)]

/-- The settings that are put after the check. -/
def lateEntries (flags : Flags) : List (String × String) :=
  r.optionEntries flags
  ++ Language.all.map (fun l => (l.createSetting, (r.create l).value))
  ++ Parameter.tools.filterMap (fun p => (r.named p).map fun value => (p.setting, value))
  ++ [("VERBOSE", r.verbose), ("INSTALL_PATH", r.installPath.value)]

theorem entries_earlySteps : entries r.earlySteps = r.earlyEntries := rfl

theorem entries_languageSteps (l : Language) :
    entries (r.languageSteps l) = [(l.createSetting, (r.create l).value)] := by
  unfold languageSteps
  split <;> rfl

theorem entries_toolSteps (p : Parameter) :
    entries (r.toolSteps p) = ((r.named p).map fun value => (p.setting, value)).toList := by
  rw [← tool_value, toolSteps]
  cases r.tool p <;> rfl

theorem entries_finalSteps :
    entries r.finalSteps = [("VERBOSE", r.verbose), ("INSTALL_PATH", r.installPath.value)] := by
  unfold finalSteps
  split <;> rfl

theorem entries_flatMap {α : Type} (steps : α → List Step) (l : List α) :
    entries (l.flatMap steps) = l.flatMap fun a => entries (steps a) :=
  List.filterMap_flatMap

theorem entries_lateSteps (flags : Flags) : entries (r.lateSteps flags) = r.lateEntries flags := by
  unfold lateSteps lateEntries
  simp only [Resolution.entries_append, entries_flatMap, entries_languageSteps, entries_toolSteps,
    entries_finalSteps]
  rw [List.filterMap_eq_flatMap_toList]
  rfl

/-! ### All names are different -/

/-- The names that every request puts before its tools, in the order of the
steps. -/
def leadingNames : List String :=
  ["PDBG_ROOT", "ECMD_ROOT", "HOST_BARCH", "TARGET_BARCH", "HOST_ARCH", "OUTBIN", "OUTLIB",
    "OUTPATH", "OUTPUT_ROOT", "CC", "LD", "AR", "SYSROOT", "DEFINES", "GPATH", "OBJPATH",
    "CFLAGS", "LDFLAGS", "SLDFLAGS", "TARGET_ARCH"]
  ++ Language.all.map Language.createSetting

/-- The names that it puts after them. -/
def closingNames : List String := ["VERBOSE", "INSTALL_PATH"]

/-- Every name that a request can put, in the order of the steps. -/
def settingNames : List String :=
  leadingNames ++ Parameter.tools.map Parameter.setting ++ closingNames

theorem nodup_settingNames : settingNames.Nodup := by decide +kernel

theorem map_fst_tools (l : List Parameter) :
    (l.filterMap fun p => (r.named p).map fun value => (p.setting, value)).map (·.1) =
      (l.filter r.hasTool).map Parameter.setting := by
  induction l with
  | nil => rfl
  | cons p rest ih =>
    cases hp : r.named p with
    | none => simpa [hasTool, hp] using ih
    | some value => simpa [hasTool, hp] using ih

/-- The names that are put: of the tools only those that somebody gives. -/
theorem putNames_steps (flags : Flags) :
    putNames (r.earlySteps ++ r.lateSteps flags) =
      leadingNames ++ (Parameter.tools.filter r.hasTool).map Parameter.setting ++ closingNames := by
  rw [Resolution.putNames_append]
  unfold putNames
  rw [entries_earlySteps, entries_lateSteps]
  unfold lateEntries
  simp only [List.map_append, map_fst_tools]
  rw [← List.append_assoc, ← List.append_assoc, ← List.append_assoc]
  rfl

theorem nodup_putNames (flags : Flags) : (putNames (r.earlySteps ++ r.lateSteps flags)).Nodup := by
  have htools : ((Parameter.tools.filter r.hasTool).map Parameter.setting).Sublist
      (Parameter.tools.map Parameter.setting) := List.filter_sublist.map _
  rw [putNames_steps]
  exact nodup_settingNames.sublist ((htools.append_left _).append_right _)

/-! ### How its course goes -/

theorem refuse_not_mem_earlySteps (e : Error) : .refuse e ∉ r.earlySteps := by
  simp [earlySteps, hostSteps, outputSteps, compilerSteps, lookUpParameter, lookUp]

theorem quiet_optionSteps (flags : Flags) : ∀ step ∈ r.optionSteps flags, step.isQuiet := by
  simp [optionSteps, lookUp, askSwitch, Step.isQuiet]

theorem quiet_languageSteps (l : Language) : ∀ step ∈ r.languageSteps l, step.isQuiet := by
  unfold languageSteps
  split <;> simp [lookUp, askSwitch, Step.isQuiet]

theorem quiet_toolSteps (p : Parameter) : ∀ step ∈ r.toolSteps p, step.isQuiet := by
  unfold toolSteps
  split <;> simp [Step.isQuiet]

theorem quiet_finalSteps : ∀ step ∈ r.finalSteps, step.isQuiet := by
  unfold finalSteps
  split <;> simp [lookUpParameter, lookUp, Step.isQuiet]

theorem quiet_lateSteps (flags : Flags) : ∀ step ∈ r.lateSteps flags, step.isQuiet := by
  unfold lateSteps
  intro step hstep
  rcases List.mem_append.mp hstep with hstep | hstep
  · rcases List.mem_append.mp hstep with hstep | hstep
    · rcases List.mem_append.mp hstep with hstep | hstep
      · exact r.quiet_optionSteps flags step hstep
      · obtain ⟨l, -, hl⟩ := List.mem_flatMap.mp hstep
        exact r.quiet_languageSteps l step hl
    · obtain ⟨p, -, hp⟩ := List.mem_flatMap.mp hstep
      exact r.quiet_toolSteps p step hp
  · exact r.quiet_finalSteps step hstep

/-- Up to the check, and past it where it is passed, each step succeeds. -/
theorem follow_prefix (flags : Flags) {pre post : List Step}
    (h : r.earlySteps ++ r.lateSteps flags = pre ++ post) :
    ∃ c, Course.start.follow pre = (c, none) := by
  have hmem : ∀ e, .refuse e ∉ pre := fun e he => by
    have hall : .refuse e ∈ r.earlySteps ++ r.lateSteps flags := h ▸ List.mem_append_left post he
    rcases List.mem_append.mp hall with hm | hm
    · exact r.refuse_not_mem_earlySteps e hm
    · cases r.quiet_lateSteps flags _ hm
  have hnodup : (putNames pre).Nodup := by
    have hall := r.nodup_putNames flags
    rw [h, Resolution.putNames_append] at hall
    exact (List.nodup_append.mp hall).1
  exact Course.follow_of_fresh hmem hnodup

/-- A target with compile options: the course goes through all its steps. -/
theorem course_of_known {flags : Flags} (h : Flags.ofArch r.targetArch.value = .ok flags) :
    ∃ c, r.course = (c, none) ∧
      Resolution.Adds .start (r.earlySteps ++ r.lateSteps flags) c := by
  obtain ⟨c, hc⟩ := r.follow_prefix flags (List.append_nil _).symm
  refine ⟨c, ?_, Course.adds_of_follow hc⟩
  rw [course, steps, h]
  exact hc

theorem course_of_unknown {e : Error} (h : Flags.ofArch r.targetArch.value = .error e) :
    ∃ c, r.course = (c, some e) ∧ Resolution.Adds .start r.earlySteps c := by
  obtain ⟨c, hc⟩ := r.follow_prefix ⟨"", "", ""⟩ rfl
  refine ⟨c, ?_, Course.adds_of_follow hc⟩
  rw [course, steps, h]
  exact Course.follow_refuse hc e

theorem said_eq : r.said = progress := by
  have hearly : Resolution.lines r.earlySteps = progress := rfl
  cases hflags : Flags.ofArch r.targetArch.value with
  | ok flags =>
    obtain ⟨c, hc, hadds⟩ := r.course_of_known hflags
    rw [said, hc, hadds.said, Resolution.lines_append, hearly,
      Resolution.lines_of_quiet (r.quiet_lateSteps flags), List.append_nil]
    rfl
  | error e =>
    obtain ⟨c, hc, hadds⟩ := r.course_of_unknown hflags
    rw [said, hc, hadds.said, hearly]
    rfl

theorem resolve_of_known (h : familyName r.askedTarget ∈ knownFamilies) :
    ∃ c, r.resolve = .ok c := by
  rw [← targetArch_value] at h
  obtain ⟨flags, hflags⟩ := ofArch_of_known h
  obtain ⟨c, hc, -⟩ := r.course_of_known hflags
  exact ⟨_, by rw [resolve, hc]⟩

theorem resolve_of_unknown (h : familyName r.askedTarget ∉ knownFamilies) :
    r.resolve = .error (.unknownArch (familyName r.askedTarget)) := by
  rw [← targetArch_value] at h ⊢
  obtain ⟨c, hc, -⟩ := r.course_of_unknown (ofArch_of_unknown h)
  rw [resolve, hc]

/-- What a resolved configuration holds: its table is what the steps put. -/
theorem of_resolve {r : Request} {c : Configuration} (h : r.resolve = .ok c) :
    ∃ flags, Flags.ofArch r.targetArch.value = .ok flags ∧
      c.root = r.given.root ∧ c.fileName = r.fileName.value ∧
      c.settings.toList.Perm (entries (r.earlySteps ++ r.lateSteps flags)) := by
  cases hflags : Flags.ofArch r.targetArch.value with
  | error e =>
    obtain ⟨d, hd, -⟩ := r.course_of_unknown hflags
    rw [resolve, hd] at h
    cases h
  | ok flags =>
    obtain ⟨d, hd, hadds⟩ := r.course_of_known hflags
    rw [resolve, hd] at h
    cases h
    exact ⟨flags, rfl, rfl, rfl, hadds.settings⟩

theorem known_iff_resolved :
    (∃ c, r.resolve = .ok c) ↔ familyName r.askedTarget ∈ knownFamilies := by
  refine ⟨fun ⟨c, hc⟩ => ?_, r.resolve_of_known⟩
  by_contra h
  rw [r.resolve_of_unknown h] at hc
  cases hc

end Request
end BuildSettings
