/-
# A resolved configuration, pinned

What a request was resolved to can be given to the next request: each parameter as
the table has it, and no tool that the table is without. A parameter that is given
is looked up nowhere. So the variables of these parameters may change, and so may
whatever stands for a parameter that nobody names: as long as the rest stays, the
request is resolved to the same configuration (`resolve_pinned`).

The rest is what a value cannot be given for: the definitions, the flags, the
interfaces, the echo of recipes and the name of the file, and also the variables of
the tools that are left out, since a tool can still come in there.

Key definitions: `Given.pinned`, `Request.Pins`.
Key theorems: `Pins.named_eq`, `Pins.value?_eq`, `resolve_pinned`.
-/
import BuildSettings.Proofs.Lookups

namespace BuildSettings

/-- What is given, with every parameter as a configuration has it. -/
def Given.pinned (g : Given) (c : Configuration) : Given :=
  { g with value := fun p => c.settings.get? p.setting }

namespace Request

/-- A request that pins a configuration of another. Only the variables of pinned
parameters and the fallbacks of parameters may differ besides. -/
structure Pins (r : Request) (c : Configuration) (q : Request) : Prop where
  given : q.given = r.given.pinned c
  env : ∀ name, (∀ p : Parameter, p.setting = name → c.settings.get? name = none) →
    q.env.get? name = r.env.get? name
  verbose : q.fallbacks.verbose = r.fallbacks.verbose
  fileName : q.fallbacks.fileName = r.fallbacks.fileName

variable {r q : Request} {c : Configuration}

namespace Pins

theorem get?_env (h : r.Pins c q) {i : Inquiry} (hi : ∀ p, i ≠ .ofParameter p) :
    q.env.get? i.name = r.env.get? i.name :=
  h.env _ fun p hp => absurd (Inquiry.name_inj (i := .ofParameter p) hp).symm (hi p)

theorem contains_env (h : r.Pins c q) (f : Flag) : q.env.contains f.name = r.env.contains f.name :=
  contains_congr (h.get?_env (i := .flag f) fun _ h => by cases h)

theorem switch_eq (h : r.Pins c q) (s : Switch) : q.given.switch s = r.given.switch s := by
  rw [h.given]
  rfl

/-! ### What its settings are worth -/

/-- Each parameter is named with what it was worth. One that was worth nothing is a
tool, and its variable was not set. -/
theorem named_eq (h : r.Pins c q) (hc : r.resolve = .ok c) (p : Parameter) :
    q.named p = r.value? (.parameter p) := by
  have hheld : c.settings.get? p.setting = r.value? (.parameter p) := get?_setting hc (.parameter p)
  have hgiven : q.given.value p = r.value? (.parameter p) := by
    rw [h.given]
    exact hheld
  rw [named, hgiven]
  cases hvalue : r.value? (.parameter p) with
  | some value => rfl
  | none =>
    have hnone : c.settings.get? p.setting = none := hheld.trans hvalue
    have henv : q.env.get? p.setting = r.env.get? p.setting := h.env _ fun _ _ => hnone
    obtain ⟨hnamed, -⟩ := Option.or_eq_none_iff.mp hvalue
    obtain ⟨-, hunset⟩ := Option.or_eq_none_iff.mp hnamed
    rw [Option.none_or, henv, hunset]

theorem parameter_eq (h : r.Pins c q) (hc : r.resolve = .ok c) (p : Parameter) :
    q.value? (.parameter p) = r.value? (.parameter p) := by
  show (q.named p).or (q.standIn p) = _
  rw [h.named_eq hc]
  cases hvalue : r.value? (.parameter p) with
  | some value => rfl
  | none => exact standIn_of_worthless hvalue q

theorem disabled_eq (h : r.Pins c q) (l : Language) : q.disabled l = r.disabled l := by
  have hall : q.env.contains "WITHOUT_SWIG" = r.env.contains "WITHOUT_SWIG" :=
    h.contains_env .withoutSwig
  have hown : q.env.contains l.disablingVariable = r.env.contains l.disablingVariable :=
    h.contains_env (.without l)
  rw [Request.disabled_eq, Request.disabled_eq, h.switch_eq, h.switch_eq, hall, hown]

/-- **Every setting is worth what it was.** -/
theorem value?_eq (h : r.Pins c q) (hc : r.resolve = .ok c) (s : Setting) :
    q.value? s = r.value? s := by
  cases s with
  | parameter p => exact h.parameter_eq hc p
  | derived d =>
    have hroot : q.root = r.root := by rw [Request.root, h.given]; rfl
    have hecmd : q.ecmdRoot = r.ecmdRoot := by rw [Request.ecmdRoot, h.given]; rfl
    rw [value?, value?, hroot, hecmd]
    exact Derived.value?_congr fun p _ => congrArg (Option.getD · "") (h.parameter_eq hc p)
  | create l =>
    have hown : q.env.get? l.createSetting = r.env.get? l.createSetting :=
      h.get?_env (i := .value (.create l)) fun _ h => by cases h
    rw [value?, value?, h.disabled_eq, hown]
  | defines =>
    have hown : q.env.get? "DEFINES" = r.env.get? "DEFINES" :=
      h.get?_env (i := .value .defines) fun _ h => by cases h
    have hsim : q.env.contains "REMOVE_SIM" = r.env.contains "REMOVE_SIM" :=
      h.contains_env .removeSim
    rw [value?, value?, hown, h.switch_eq, hsim]
  | echo =>
    have hown : q.env.get? "VERBOSE" = r.env.get? "VERBOSE" :=
      h.get?_env (i := .value .echo) fun _ h => by cases h
    rw [value?, value?, h.switch_eq, hown, h.verbose]

/-! ### The configuration -/

theorem exists_resolve (h : r.Pins c q) (hc : r.resolve = .ok c) : ∃ d, q.resolve = .ok d := by
  have htarget : q.askedTarget = r.askedTarget := by
    have hvalue : q.valueOf .target = r.valueOf .target :=
      congrArg (Option.getD · "") (h.parameter_eq hc .target)
    rwa [valueOf_target, valueOf_target, targetArch_value, targetArch_value] at hvalue
  refine q.resolve_of_known ?_
  rw [htarget]
  exact r.known_iff_resolved.mp ⟨c, hc⟩

theorem fileName_eq (h : r.Pins c q) {d : Configuration} (hc : r.resolve = .ok c)
    (hd : q.resolve = .ok d) : d.fileName = c.fileName := by
  have hown : q.env.get? "MAKEFILE_CONFIG_NAME" = r.env.get? "MAKEFILE_CONFIG_NAME" :=
    h.get?_env (i := .value .fileName) fun _ h => by cases h
  rw [fileName_of_resolve hc, fileName_of_resolve hd, hown, h.fileName]

end Pins

/-- **A pinned configuration stays.** A request whose parameters are given as a
resolved table has them is resolved to the same configuration, whatever has become
of the variables of these parameters and of the fallbacks that stand for them. -/
theorem resolve_pinned (hc : r.resolve = .ok c) (h : r.Pins c q) : q.resolve = .ok c := by
  obtain ⟨d, hd⟩ := h.exists_resolve hc
  have hroot : q.given.root = r.given.root := by rw [h.given]; rfl
  rw [hd, configuration_congr hc hd hroot (h.fileName_eq hc hd) (h.value?_eq hc)]

/-- What was given for a build, carried to another machine. -/
def carried (given : Given) : Request where
  given
  fallbacks := { cc := "clang", sysroot := "/opt", hostMachine := "riscv64" }
  env := (crossBuild.env.set "CC" "tcc").set "HOST_ARCH" "armv7l"

/-- On the other machine the same build would be for another host. Pinned, it is the
same build: the value from a variable, the fallbacks and the empty tool stay. -/
theorem resolve_carried : ∃ c, crossBuild.resolve = .ok c ∧
    (carried (crossBuild.given.pinned c)).resolve = .ok c ∧
    c.settings.get? "CC" = some "" ∧ c.settings.get? "SWIG" = some "" ∧
    c.settings.get? "HOST_ARCH" = some "x86_64" ∧
    ∃ d, (carried crossBuild.given).resolve = .ok d ∧
      d.settings.get? "HOST_ARCH" = some "armv7l" := by
  obtain ⟨c, hc⟩ := crossBuild.resolve_of_known (by decide +kernel)
  obtain ⟨d, hd⟩ := (carried crossBuild.given).resolve_of_known (by decide +kernel)
  have hcc : c.settings.get? "CC" = some "" := get?_parameter hc .cc
  have hhost : c.settings.get? "HOST_ARCH" = some "x86_64" := get?_parameter hc .host
  have hpins : crossBuild.Pins c (carried (crossBuild.given.pinned c)) :=
    { given := rfl, verbose := rfl, fileName := rfl
      env := fun name hname => by
        have hne : name ≠ "CC" ∧ name ≠ "HOST_ARCH" := by
          refine ⟨?_, ?_⟩
          · rintro rfl
            simp [hname .cc rfl] at hcc
          · rintro rfl
            simp [hname .host rfl] at hhost
        simp [carried, Environment.get?_set, hne] }
  exact ⟨c, hc, resolve_pinned hc hpins, hcc, get?_parameter hc .swig, hhost, d, hd,
    get?_parameter hd .host⟩

end Request
end BuildSettings
