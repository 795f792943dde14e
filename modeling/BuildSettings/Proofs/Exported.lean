/-
# A table among the variables of its own build

A build exports its settings, so that the programs it starts find them among
their variables. A request that such a program makes for the same repositories,
with nothing else given, looks each setting up where the table put it. So every
setting is worth what it was, whether an argument, a switch, a variable or a
fallback had decided it (`value?_exported`). Only the definitions grow, since
what is always defined is added to what the environment asks for
(`resolve_exported`).

Key definition: `Request.exported`.
Key theorems: `get?_setAll_toList`, `named_exported`, `value?_exported`,
`resolve_exported`.
-/
import BuildSettings.Proofs.Setting

namespace BuildSettings

namespace Environment

theorem get?_setAll (name : String) : ∀ {pairs : List (String × String)} (env : Environment),
    (pairs.map (·.1)).Nodup →
      (env.setAll pairs).get? name = ((pairs.find? (·.1 = name)).map (·.2)).or (env.get? name)
  | [], _, _ => rfl
  | p :: rest, env, hnodup => by
    obtain ⟨hp, hrest⟩ := List.nodup_cons.mp hnodup
    have ih := get?_setAll name (env.set p.1 p.2) hrest
    show ((env.set p.1 p.2).setAll rest).get? name = _
    rw [ih, get?_set]
    by_cases hname : p.1 = name
    · have hnone : rest.find? (·.1 = name) = none := by
        rw [List.find?_eq_none]
        intro q hq heq
        have hqp : q.1 = p.1 := (of_decide_eq_true heq).trans hname.symm
        exact hp (List.mem_map.mpr ⟨q, hq, hqp⟩)
      simp [hnone, hname]
    · have hne : ¬ name = p.1 := fun h => hname h.symm
      simp [hname, hne]

theorem get?_setAll_toList (env : Environment) (s : Settings) (name : String) :
    (env.setAll s.toList).get? name = (s.get? name).or (env.get? name) :=
  get?_setAll name env s.names_nodup

end Environment

namespace Request

/-- The request of a program that a build starts: the same repositories, nothing
else given, and the table's settings among the variables. -/
def exported (r : Request) (c : Configuration) : Request where
  given := { root := r.given.root, ecmdRoot := r.given.ecmdRoot }
  fallbacks := r.fallbacks
  env := r.env.setAll c.settings.toList

variable {r : Request} {c : Configuration}

/-! ### Its variables -/

theorem get?_exported (h : r.resolve = .ok c) (s : Setting) :
    (r.exported c).env.get? s.name = (r.value? s).or (r.env.get? s.name) := by
  rw [← get?_setting h s]
  exact Environment.get?_setAll_toList ..

/-- The variables that are asked for without being settings. -/
def unexported : List String :=
  ["WITHOUT_SWIG", "REMOVE_SIM", fileNameVariable] ++ Language.all.map Language.disablingVariable

theorem name_ne_of_unexported : ∀ s ∈ Setting.all, ∀ name ∈ unexported, s.name ≠ name := by
  decide +kernel

theorem disablingVariable_mem_unexported (l : Language) : l.disablingVariable ∈ unexported :=
  List.mem_append_right _ (List.mem_map_of_mem l.mem_all)

theorem get?_of_unexported (h : r.resolve = .ok c) {name : String} (hname : name ∈ unexported) :
    (r.exported c).env.get? name = r.env.get? name := by
  have hnone : c.settings.get? name = none := by
    rw [Settings.get?_eq_none_iff]
    intro hmem
    obtain ⟨s, hs⟩ := exists_setting h hmem
    exact name_ne_of_unexported s s.mem_all name hname hs
  show (r.env.setAll c.settings.toList).get? name = _
  rw [Environment.get?_setAll_toList, hnone, Option.none_or]

/-! ### What its settings are worth -/

/-- A parameter is named by the variable that was exported for it. A tool that
nobody gave is not exported, and no variable gives it. -/
theorem named_exported (h : r.resolve = .ok c) (p : Parameter) :
    (r.exported c).named p = r.value? (.parameter p) := by
  have hvar : (r.exported c).named p = (r.value? (.parameter p)).or (r.env.get? p.setting) :=
    get?_exported h (.parameter p)
  rw [hvar]
  cases hvalue : r.value? (.parameter p) with
  | some value => rfl
  | none =>
    obtain ⟨hnamed, -⟩ := Option.or_eq_none_iff.mp hvalue
    exact (Option.or_eq_none_iff.mp hnamed).2

theorem parameter_exported (h : r.resolve = .ok c) (p : Parameter) :
    (r.exported c).value? (.parameter p) = r.value? (.parameter p) := by
  show ((r.exported c).named p).or ((r.exported c).standIn p) = _
  rw [named_exported h]
  cases hvalue : r.value? (.parameter p) with
  | some value => rfl
  | none => exact standIn_of_worthless hvalue _

theorem valueOf_exported (h : r.resolve = .ok c) (p : Parameter) :
    (r.exported c).valueOf p = r.valueOf p :=
  congrArg (·.getD "") (parameter_exported h p)

/-- A language that a variable disabled stays disabled; one that only a switch
disabled is no longer. -/
theorem disabled_exported (h : r.resolve = .ok c) (l : Language) :
    (r.exported c).disabled l =
      (r.env.contains "WITHOUT_SWIG" || r.env.contains l.disablingVariable) := by
  have hall : (r.exported c).env.get? "WITHOUT_SWIG" = r.env.get? "WITHOUT_SWIG" :=
    get?_of_unexported h (by simp [unexported])
  have hown := get?_of_unexported h (disablingVariable_mem_unexported l)
  rw [disabled_eq, Environment.contains, Environment.contains, hall, hown]
  rfl

/-- An interface that was disabled is not built either: a disabling variable is
still set, and after a switch the setting itself is exported as `no`. -/
theorem create_exported (h : r.resolve = .ok c) (l : Language) :
    (r.exported c).value? (.create l) = r.value? (.create l) := by
  have hvar : (r.exported c).env.get? l.createSetting = r.value? (.create l) :=
    get?_exported h (.create l)
  have hvalue : (r.exported c).value? (.create l) = some (if (r.exported c).disabled l then "no"
      else ((r.exported c).env.get? l.createSetting).getD "yes") := rfl
  rw [hvalue, hvar, disabled_exported h, value?, Option.getD_some]
  by_cases hvars : (r.env.contains "WITHOUT_SWIG" || r.env.contains l.disablingVariable) = true
  · have hdisabled : r.disabled l = true := by
      rw [disabled_eq]
      rcases Bool.or_eq_true_iff.mp hvars with hset | hset <;> simp [hset]
    rw [if_pos hvars, if_pos hdisabled]
  · rw [if_neg hvars]

theorem echo_exported (h : r.resolve = .ok c) :
    (r.exported c).value? .echo = r.value? .echo := by
  have hvar : (r.exported c).env.get? "VERBOSE" = r.value? .echo := get?_exported h .echo
  show some (((r.exported c).env.get? "VERBOSE").getD r.fallbacks.verbose) = _
  rw [hvar, value?, Option.getD_some]

/-- **Every setting but the definitions is worth what it was.** -/
theorem value?_exported (h : r.resolve = .ok c) {s : Setting} (hs : s ≠ .defines) :
    (r.exported c).value? s = r.value? s := by
  cases s with
  | parameter p => exact parameter_exported h p
  | derived d => exact Derived.value?_congr fun p _ => valueOf_exported h p
  | create l => exact create_exported h l
  | defines => exact absurd rfl hs
  | echo => exact echo_exported h

/-- The definitions are added to those that were exported. Whether the simulator
is left out is asked of the environment alone now. -/
theorem defines_exported (h : r.resolve = .ok c) :
    ∃ defines, r.value? .defines = some defines ∧
      (r.exported c).value? .defines = some (defines ++ " -DLINUX" ++
        if r.env.contains "REMOVE_SIM" then " -DREMOVE_SIM" else "") := by
  have hvar : (r.exported c).env.get? "DEFINES" = r.value? .defines := get?_exported h .defines
  have hsim : (r.exported c).env.get? "REMOVE_SIM" = r.env.get? "REMOVE_SIM" :=
    get?_of_unexported h (by simp [unexported])
  refine ⟨_, rfl, ?_⟩
  show some (((r.exported c).env.get? "DEFINES").getD "" ++ " -DLINUX" ++
    if ((r.exported c).env.get? "REMOVE_SIM").isSome then " -DREMOVE_SIM" else "") = _
  rw [hvar, hsim]
  rfl

/-! ### The table -/

theorem exists_resolve_exported (h : r.resolve = .ok c) :
    ∃ d, (r.exported c).resolve = .ok d := by
  refine resolve_of_known _ ?_
  rw [← targetArch_value, ← valueOf_target, valueOf_exported h, valueOf_target, targetArch_value]
  exact r.known_iff_resolved.mp ⟨c, h⟩

theorem get?_of_exported {d : Configuration} (h : r.resolve = .ok c)
    (hd : (r.exported c).resolve = .ok d) {name : String} (hname : name ≠ "DEFINES") :
    d.settings.get? name = c.settings.get? name := by
  refine get?_congr h hd fun s hs => value?_exported h ?_
  rintro rfl
  exact hname hs.symm

theorem fileName_exported {d : Configuration} (h : r.resolve = .ok c)
    (hd : (r.exported c).resolve = .ok d) : d.fileName = c.fileName := by
  have hvar : (r.exported c).env.get? fileNameVariable = r.env.get? fileNameVariable :=
    get?_of_unexported h (by simp [unexported])
  rw [fileName_of_resolve h, fileName_of_resolve hd, ← fileNameVariable, hvar]
  rfl

/-- **A build's own settings lead to the same build.** Where a request is
resolved, that of a program started from the build is too: its table has the same
names, for the same file, and the same values but for the definitions, which have
grown by what is always defined. -/
theorem resolve_exported (h : r.resolve = .ok c) :
    ∃ d, (r.exported c).resolve = .ok d ∧ d.root = c.root ∧ d.fileName = c.fileName ∧
      d.settings.names = c.settings.names ∧
      (∀ name, name ≠ "DEFINES" → d.settings.get? name = c.settings.get? name) ∧
      ∃ defines, c.settings.get? "DEFINES" = some defines ∧
        d.settings.get? "DEFINES" = some (defines ++ " -DLINUX" ++
          if r.env.contains "REMOVE_SIM" then " -DREMOVE_SIM" else "") := by
  obtain ⟨d, hd⟩ := exists_resolve_exported h
  obtain ⟨defines, hdefines, hgrown⟩ := defines_exported h
  have hold : c.settings.get? "DEFINES" = some defines := (get?_setting h .defines).trans hdefines
  have hnew : d.settings.get? "DEFINES" = some _ := (get?_setting hd .defines).trans hgrown
  refine ⟨d, hd, ?_, fileName_exported h hd, ?_, fun name => get?_of_exported h hd,
    defines, hold, hnew⟩
  · obtain ⟨-, -, hroot, -⟩ := of_resolve h
    obtain ⟨-, -, hroot', -⟩ := of_resolve hd
    rw [hroot, hroot']
    rfl
  · refine Settings.names_ext fun name => ?_
    by_cases hname : name = "DEFINES"
    · rw [hname, hold, hnew]
      rfl
    · rw [get?_of_exported h hd hname]

/-- A build for another machine that only switches have changed. -/
def switchedBuild : Request :=
  { crossBuild with
    given := { crossBuild.given with
      switch := fun
        | .removeSim | .withoutPerl | .buildVerbose => true
        | _ => false }
    env := .ofPairs [("DEFINES", "-DX")] }

/-- What switches did, the variables keep up, and the switch that leaves out the
simulator adds nothing a second time. -/
theorem exported_switchedBuild : ∃ c d, switchedBuild.resolve = .ok c ∧
    (switchedBuild.exported c).resolve = .ok d ∧ d.fileName = "makefile.config" ∧
    d.settings.names = c.settings.names ∧ d.settings.get? "TARGET_ARCH" = some "ppc64" ∧
    d.settings.get? "SWIG" = some "" ∧ d.settings.get? "CREATE_PERLAPI" = some "no" ∧
    d.settings.get? "VERBOSE" = some "" ∧
    d.settings.get? "DEFINES" = some "-DX -DLINUX -DREMOVE_SIM -DLINUX" := by
  obtain ⟨c, hc⟩ := switchedBuild.resolve_of_known (by decide +kernel)
  obtain ⟨d, hd, -, hfile, hnames, hvalue, defines, hdefines, hgrown⟩ := resolve_exported hc
  have hold : some defines = some "-DX -DLINUX -DREMOVE_SIM" := hdefines.symm.trans (get?_defines hc)
  rw [Option.some.inj hold] at hgrown
  exact ⟨c, d, hc, hd, hfile.trans (fileName_of_resolve hc), hnames,
    (hvalue "TARGET_ARCH" (by decide)).trans (get?_parameter hc .target),
    (hvalue "SWIG" (by decide)).trans (get?_parameter hc .swig),
    (hvalue "CREATE_PERLAPI" (by decide)).trans (get?_create hc .perl),
    (hvalue "VERBOSE" (by decide)).trans (get?_verbose hc), hgrown⟩

end Request
end BuildSettings
