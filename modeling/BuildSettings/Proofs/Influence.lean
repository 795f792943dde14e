/-
# What a variable can change

A request asks its environment for 29 names at most, so that environments which
agree on them cannot be told apart (`indistinct_under`). A setting asks for fewer:
a parameter for its own variable, and the target, where nobody names it, for the
host's; what is derived asks for what its sources ask for (`Setting.reads`).
Turned round this is the cone of a variable, the settings that it can change
(`cone`). Outside its cone a variable changes nothing (`variables_reach_cones`).

Key definitions: `Setting.reads`, `cone`.
Key theorems: `indistinct_under`, `value?_under`, `mem_cone_of_reads`,
`variables_reach_cones`.
-/
import BuildSettings.Proofs.Lookups

namespace BuildSettings

namespace Request

theorem mem_consulted_of_lone {name : String}
    (h : name ∈ ["DEFINES", "REMOVE_SIM", "WITHOUT_SWIG", "VERBOSE", fileNameVariable]) :
    name ∈ consulted :=
  List.mem_append_left _ (List.mem_append_right _ h)

variable {r : Request} {env : Environment}

theorem named_under {p : Parameter} (h : env.get? p.setting = r.env.get? p.setting) :
    (r.under env).named p = r.named p := by
  show (r.given.value p).or (env.get? p.setting) = _
  rw [h]
  rfl

theorem switchOn_under {name : String} (h : env.get? name = r.env.get? name) (s : Switch) :
    (r.under env).switchOn name s = r.switchOn name s := by
  rw [switchOn_eq, switchOn_eq]
  exact congrArg (r.given.switch s || ·) (contains_congr h)

theorem disabled_under {l : Language} (hall : env.get? "WITHOUT_SWIG" = r.env.get? "WITHOUT_SWIG")
    (hown : env.get? l.disablingVariable = r.env.get? l.disablingVariable) :
    (r.under env).disabled l = r.disabled l := by
  rw [disabled, disabled, withoutSwig, withoutSwig, switchOn_under hall, switchOn_under hown]

/-- Environments that agree on what is consulted cannot be told apart. -/
theorem indistinct_under (h : Environment.AgreeOn consulted r.env env) :
    r.Indistinct (r.under env) :=
  (alike_under fun name hname => h name (r.lookups_subset hname)).indistinct

end Request

/-! ### Cones -/

/-- The variables that a parameter's value is looked up in. A target that nobody
names is the host. -/
def Parameter.reads (targetNamed : Bool) : Parameter → List String
  | .target => if targetNamed then ["TARGET_ARCH"] else ["TARGET_ARCH", "HOST_ARCH"]
  | p => [p.setting]

/-- The variables that a setting's value is looked up in. -/
def Setting.reads (targetNamed : Bool) : Setting → List String
  | parameter p => p.reads targetNamed
  | derived d => d.sources.flatMap (Parameter.reads targetNamed)
  | create l => ["WITHOUT_SWIG", l.disablingVariable, l.createSetting]
  | defines => ["DEFINES", "REMOVE_SIM"]
  | echo => ["VERBOSE"]

/-- What follows from the target. -/
def targetCone : List String :=
  ["TARGET_ARCH", "TARGET_BARCH", "OBJPATH", "GPATH", "OUTPATH", "OUTBIN", "OUTLIB", "CFLAGS",
    "LDFLAGS", "SLDFLAGS"]

/-- The settings that a variable can change. The host's reaches what follows from
the target where nobody names a target. -/
def cone (targetNamed : Bool) : String → List String
  | "REMOVE_SIM" => ["DEFINES"]
  | "WITHOUT_PERL" => ["CREATE_PERLAPI"]
  | "WITHOUT_PYTHON" => ["CREATE_PYAPI"]
  | "WITHOUT_PYTHON3" => ["CREATE_PY3API"]
  | "WITHOUT_SWIG" => ["CREATE_PERLAPI", "CREATE_PYAPI", "CREATE_PY3API"]
  | "OUTPUT_ROOT" => ["OUTPUT_ROOT", "OBJPATH", "GPATH", "OUTPATH", "OUTBIN", "OUTLIB"]
  | "TARGET_ARCH" => targetCone
  | "HOST_ARCH" => ["HOST_ARCH", "HOST_BARCH"] ++ if targetNamed then [] else targetCone
  | "MAKEFILE_CONFIG_NAME" => []
  | own => [own]

theorem mem_cone_of_reads : ∀ targetNamed, ∀ s ∈ Setting.all, ∀ v ∈ s.reads targetNamed,
    s.name ∈ cone targetNamed v := by
  decide +kernel

theorem Setting.consulted_of_reads : ∀ targetNamed, ∀ s ∈ Setting.all,
    ∀ v ∈ s.reads targetNamed, v ∈ Request.consulted := by
  decide +kernel

namespace Request

variable {r : Request} {env : Environment}

theorem parameter_value?_under {p : Parameter}
    (h : Environment.AgreeOn (p.reads (r.named .target).isSome) r.env env) :
    ((r.under env).named p).or ((r.under env).standIn p) = (r.named p).or (r.standIn p) := by
  have own : p.setting ∈ p.reads (r.named .target).isSome := by
    cases p with
    | target => cases (r.named .target).isSome <;> decide
    | _ => exact List.mem_singleton_self _
  rw [named_under (h _ own)]
  cases p with
  | target =>
    cases htarget : r.named .target with
    | some target => rfl
    | none =>
      rw [htarget] at h
      have hhost : (r.under env).named .host = r.named .host :=
        named_under (h "HOST_ARCH" (by decide))
      rw [standIn, standIn, hhost]
      rfl
  | _ => rfl

theorem valueOf_under {p : Parameter}
    (h : Environment.AgreeOn (p.reads (r.named .target).isSome) r.env env) :
    (r.under env).valueOf p = r.valueOf p := by
  rw [valueOf, valueOf, parameter_value?_under h]

/-- **A setting is worth the same where the variables that it reads have the same
values.** -/
theorem value?_under {s : Setting}
    (h : Environment.AgreeOn (s.reads (r.named .target).isSome) r.env env) :
    (r.under env).value? s = r.value? s := by
  cases s with
  | parameter p => exact parameter_value?_under h
  | derived d =>
    refine Derived.value?_congr fun p hp => valueOf_under fun v hv => h v ?_
    exact List.mem_flatMap.mpr ⟨p, hp, hv⟩
  | create l =>
    have hdisabled : (r.under env).disabled l = r.disabled l :=
      disabled_under (h _ (.head _)) (h _ (.tail _ (.head _)))
    have hown : env.get? l.createSetting = r.env.get? l.createSetting :=
      h _ (.tail _ (.tail _ (.head _)))
    rw [value?, value?, hdisabled]
    show some (if r.disabled l then "no" else (env.get? l.createSetting).getD "yes") = _
    rw [hown]
  | defines =>
    have hown : env.get? "DEFINES" = r.env.get? "DEFINES" := h _ (.head _)
    have hsim : env.contains "REMOVE_SIM" = r.env.contains "REMOVE_SIM" :=
      contains_congr (h _ (.tail _ (.head _)))
    rw [value?, value?]
    show some ((env.get? "DEFINES").getD "" ++ " -DLINUX" ++
      if r.given.switch .removeSim || env.contains "REMOVE_SIM" then " -DREMOVE_SIM" else "") = _
    rw [hown, hsim]
  | echo =>
    have hown : env.get? "VERBOSE" = r.env.get? "VERBOSE" := h _ (.head _)
    rw [value?, value?]
    show some (if r.given.switch .buildVerbose then ""
      else (env.get? "VERBOSE").getD r.fallbacks.verbose) = _
    rw [hown]

/-- A variable changes nothing outside its cone. -/
theorem get?_outside_cone {v : String} {c d : Configuration}
    (h : ∀ name ∈ consulted, name ≠ v → env.get? name = r.env.get? name)
    (hc : r.resolve = .ok c) (hd : (r.under env).resolve = .ok d) {name : String}
    (hname : name ∉ cone (r.named .target).isSome v) :
    d.settings.get? name = c.settings.get? name := by
  refine get?_congr hc hd fun s hs => value?_under fun w hw => ?_
  refine h w (Setting.consulted_of_reads _ s s.mem_all w hw) fun hv => hname ?_
  rw [← hs, ← hv]
  exact mem_cone_of_reads _ s s.mem_all w hw

theorem agreeOn_set {v : String} (hv : v ∉ consulted) (value : String) :
    Environment.AgreeOn consulted env (env.set v value) := by
  rintro name hname
  rw [Environment.get?_set, if_neg]
  rintro rfl
  exact hv hname

theorem derived_not_consulted (d : Derived) : d.name ∉ consulted := by
  have hall : ∀ d ∈ Derived.all, d.name ∉ consulted := by decide +kernel
  exact hall d d.mem_all

/-- **What a variable can change.** There are 29 variables that count; where
environments agree on them, requests cannot be told apart, so that variables with
the names of derived settings do nothing. A variable that counts changes at most
the settings in its cone, and the name of the file only if it is the variable
that renames it. -/
theorem variables_reach_cones (r : Request) (env : Environment) :
    consulted.Perm ["HOST_ARCH", "TARGET_ARCH", "OUTPUT_ROOT", "CC", "LD", "AR", "SYSROOT",
      "DEFINES", "REMOVE_SIM", "WITHOUT_SWIG", "WITHOUT_PERL", "WITHOUT_PYTHON", "WITHOUT_PYTHON3",
      "CREATE_PERLAPI", "CREATE_PYAPI", "CREATE_PY3API", "SWIG", "ECMDPERLBIN", "PERLINC",
      "ECMDPYTHONBIN", "PYINC", "ECMDPYTHON3BIN", "PY3INC", "DOXYGENBIN", "EXTENSIONS",
      "ECMD_REPOS", "VERBOSE", "INSTALL_PATH", "MAKEFILE_CONFIG_NAME"] ∧
    (Environment.AgreeOn consulted r.env env → r.Indistinct (r.under env)) ∧
    (∀ (d : Derived) (value : String), r.Indistinct (r.under (r.env.set d.name value))) ∧
    ∀ v, (∀ name ∈ consulted, name ≠ v → env.get? name = r.env.get? name) →
      ∀ c d, r.resolve = .ok c → (r.under env).resolve = .ok d →
        d.root = c.root ∧ (v ≠ "MAKEFILE_CONFIG_NAME" → d.fileName = c.fileName) ∧
        ∀ name ∉ cone (r.named .target).isSome v, d.settings.get? name = c.settings.get? name := by
  refine ⟨by decide +kernel, indistinct_under, fun d value => ?_, fun v h c d hc hd => ?_⟩
  · exact indistinct_under (agreeOn_set (derived_not_consulted d) value)
  · refine ⟨?_, fun hv => ?_, fun name hname => get?_outside_cone h hc hd hname⟩
    · obtain ⟨-, -, hroot, -⟩ := of_resolve hc
      obtain ⟨-, -, hroot', -⟩ := of_resolve hd
      rw [hroot, hroot']
      rfl
    · rw [fileName_of_resolve hc, fileName_of_resolve hd]
      show (env.get? "MAKEFILE_CONFIG_NAME").getD r.fallbacks.fileName = _
      rw [h _ (mem_consulted_of_lone (by simp [fileNameVariable])) (Ne.symm hv)]

/-- Where the target is given, the host changes nothing for the target. -/
theorem host_beside_crossBuild : ∃ c d, crossBuild.resolve = .ok c ∧
    (crossBuild.under (crossBuild.env.set "HOST_ARCH" "armv7l")).resolve = .ok d ∧
    c.settings.get? "HOST_ARCH" = some "x86_64" ∧ d.settings.get? "HOST_ARCH" = some "armv7l" ∧
    d.fileName = c.fileName ∧ d.settings.get? "CFLAGS" = c.settings.get? "CFLAGS" ∧
    d.settings.get? "OBJPATH" = c.settings.get? "OBJPATH" := by
  obtain ⟨c, hc⟩ := crossBuild.resolve_of_known (by decide +kernel)
  obtain ⟨d, hd⟩ := (crossBuild.under (crossBuild.env.set "HOST_ARCH" "armv7l")).resolve_of_known
    (by decide +kernel)
  obtain ⟨-, -, -, hcone⟩ :=
    variables_reach_cones crossBuild (crossBuild.env.set "HOST_ARCH" "armv7l")
  obtain ⟨-, hfile, hrest⟩ := hcone "HOST_ARCH"
    (fun name _ hne => by rw [Environment.get?_set, if_neg hne]) c d hc hd
  exact ⟨c, d, hc, hd, get?_parameter hc .host, get?_parameter hd .host, hfile (by decide),
    hrest _ (by decide +kernel), hrest _ (by decide +kernel)⟩

end Request
end BuildSettings
