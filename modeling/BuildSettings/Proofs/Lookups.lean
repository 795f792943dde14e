/-
# What decides a request

The reports of what a request tries decide everything else: the events are these
reports, and the table holds the values in them. So requests with the same reports
cannot be told apart, and they look up the same variables (`Alike.indistinct`,
`Alike.lookups_eq`). The reports in turn are decided by the variables that are
looked up (`alike_under`).

Key definitions: `Environment.AgreeOn`, `Request.under`, `Request.Indistinct`,
`Request.Alike`.
Key theorems: `Alike.indistinct`, `Alike.lookups_eq`, `alike_under`.
-/
import BuildSettings.Proofs.Attempts
import BuildSettings.Proofs.Setting

namespace BuildSettings

/-- Environments in which these names have the same values. -/
def Environment.AgreeOn (names : List String) (env env' : Environment) : Prop :=
  ∀ name ∈ names, env'.get? name = env.get? name

theorem contains_congr {name : String} {env env' : Environment}
    (h : env'.get? name = env.get? name) : env'.contains name = env.contains name := by
  rw [Environment.contains, Environment.contains, h]

theorem Inquiry.name_mem_consulted (i : Inquiry) : i.name ∈ Request.consulted := by
  have hall : ∀ i ∈ all, i.name ∈ Request.consulted := by decide +kernel
  exact hall i i.mem_all

namespace Request

/-- A request in another environment. -/
def under (r : Request) (env : Environment) : Request := { r with env }

/-- Requests that nobody can tell apart: they end alike, say the same and record
the same. -/
structure Indistinct (r q : Request) : Prop where
  result : q.resolve = r.resolve
  said : q.said = r.said
  events : q.events = r.events

/-- Requests on the same repositories with the same reports. -/
structure Alike (r q : Request) : Prop where
  root : q.given.root = r.given.root
  ecmdRoot : q.ecmdRoot = r.ecmdRoot
  verbose : q.given.switch .buildVerbose = r.given.switch .buildVerbose
  report : ∀ i ∈ r.attempts, q.report? i = r.report? i

variable {r q : Request}

/-! ### What reports tell -/

theorem answer?_of_report? {v : Query} (h : q.report? (.value v) = r.report? (.value v)) :
    q.answer? v = r.answer? v := by
  refine Option.map_injective (fun a b hab => ?_) h
  cases a
  cases b
  cases hab
  rfl

/-- The report of a flag tells whether its switch is given, and whether it is
on. -/
theorem flag_of_report? {f : Flag} (h : q.report? (.flag f) = r.report? (.flag f)) :
    q.given.switch f.switch = r.given.switch f.switch ∧
    (q.given.switch f.switch || q.env.contains f.name) =
      (r.given.switch f.switch || r.env.contains f.name) := by
  rw [report?, report?, Option.some.injEq, Event.flag.injEq] at h
  exact h.2

theorem withoutSwig_of_report?
    (h : q.report? (.flag .withoutSwig) = r.report? (.flag .withoutSwig)) :
    q.withoutSwig = r.withoutSwig := by
  rw [withoutSwig_eq, withoutSwig_eq]
  exact (flag_of_report? h).2

theorem argument?_isSome_iff {v : Query} :
    (r.argument? v).isSome ↔ ∃ value, r.answer? v = some ⟨value, .argument⟩ := by
  simp only [answer?_eq_some_iff, Option.isSome_iff_exists]

/-- What an attempt looks up shows in its report. -/
theorem lookup_of_report? {i : Inquiry} (h : q.report? i = r.report? i) :
    q.lookup i = r.lookup i := by
  cases i with
  | value v =>
    have hgiven : (q.argument? v).isSome ↔ (r.argument? v).isSome := by
      rw [argument?_isSome_iff, argument?_isSome_iff, answer?_of_report? h]
    simp only [lookup, hgiven]
  | flag f => rw [lookup, lookup, (flag_of_report? h).1]

theorem answer?_value_of_fallback {v : Query} {fallback : String} (hargument : r.argument? v = none)
    (hfallback : r.fallback? v = some fallback) :
    (r.answer? v).map (·.value) = some ((r.env.get? v.name).getD fallback) := by
  rw [answer?_value, hargument, hfallback, Option.none_or]
  cases r.env.get? v.name <;> rfl

/-! Each setting that is not derived has a value from reports. -/

theorem value?_parameter (p : Parameter) :
    r.value? (.parameter p) = (r.answer? (.parameter p)).map (·.value) := by
  rw [answer?_value]
  rfl

theorem value?_create (l : Language) :
    r.value? (.create l) = (r.answer? (.create l)).map (·.value) := by
  cases hdisabled : r.disabled l with
  | true => rw [answer?_value, value?, argument?, hdisabled]; rfl
  | false =>
    have hargument : r.argument? (.create l) = none := by rw [argument?, hdisabled]; rfl
    rw [answer?_value_of_fallback hargument rfl, value?, hdisabled]
    rfl

theorem value?_defines : r.value? .defines = ((r.answer? .defines).map (·.value)).map
    (· ++ " -DLINUX" ++ if r.given.switch .removeSim || r.env.contains "REMOVE_SIM"
      then " -DREMOVE_SIM" else "") := by
  rw [answer?_value_of_fallback (v := .defines) rfl rfl]
  rfl

theorem value?_echo : r.value? .echo =
    if r.given.switch .buildVerbose then some "" else (r.answer? .echo).map (·.value) := by
  rw [answer?_value_of_fallback (v := .echo) rfl rfl, value?]
  split <;> rfl

theorem fileName_of_answer? {c : Configuration} (h : r.resolve = .ok c) :
    (r.answer? .fileName).map (·.value) = some c.fileName := by
  rw [answer?_value_of_fallback (v := .fileName) rfl rfl, fileName_of_resolve h]
  rfl

/-! ### The same reports -/

namespace Alike

variable (h : r.Alike q)
include h

theorem answer? {v : Query} (hv : .value v ∈ r.attempts) : q.answer? v = r.answer? v :=
  answer?_of_report? (h.report _ hv)

theorem askedTarget : q.askedTarget = r.askedTarget := by
  have hmem : .ofParameter .target ∈ r.attempts := first_mem_attempts _ (by decide)
  have htarget : q.value? (.parameter .target) = r.value? (.parameter .target) := by
    rw [value?_parameter, value?_parameter, h.answer? hmem]
  have hvalue : q.valueOf .target = r.valueOf .target := congrArg (Option.getD · "") htarget
  rwa [valueOf_target, valueOf_target, targetArch_value, targetArch_value] at hvalue

theorem attempts_eq : q.attempts = r.attempts := by
  have haccepted : q.accepted = r.accepted := by rw [accepted, accepted, h.askedTarget]
  cases hr : r.accepted with
  | false => rw [attempts_of_refused hr, attempts_of_refused (haccepted.trans hr)]
  | true =>
    have hmem : .flag .withoutSwig ∈ r.attempts := mem_attempts_iff.mpr hr
    have hswig : q.withoutSwig = r.withoutSwig := withoutSwig_of_report? (h.report _ hmem)
    have htries : q.tries = r.tries := funext fun i => by
      unfold tries
      rw [haccepted, hswig, h.verbose]
    rw [attempts, attempts, htries]

theorem lookups_eq : q.lookups = r.lookups := by
  rw [Request.lookups_eq, Request.lookups_eq, h.attempts_eq]
  exact List.flatMap_congr fun i hi => lookup_of_report? (h.report i hi)

theorem value?_eq (hr : r.accepted = true) (s : Setting) : q.value? s = r.value? s := by
  have hparameter : ∀ p, q.value? (.parameter p) = r.value? (.parameter p) := fun p => by
    rw [value?_parameter, value?_parameter, h.answer? (parameter_mem_attempts hr p)]
  cases s with
  | parameter p => exact hparameter p
  | derived d =>
    have hroot : q.root = r.root := congrArg Utf8.lossy h.root
    rw [value?, value?, hroot, h.ecmdRoot]
    exact Derived.value?_congr fun p _ => congrArg (Option.getD · "") (hparameter p)
  | create l =>
    have hmem : .value (.create l) ∈ r.attempts := mem_attempts_iff.mpr hr
    rw [value?_create, value?_create, h.answer? hmem]
  | defines =>
    have hmem : .value .defines ∈ r.attempts := mem_attempts_iff.mpr hr
    have hflag : .flag .removeSim ∈ r.attempts := mem_attempts_iff.mpr hr
    have hsim := (flag_of_report? (h.report _ hflag)).2
    simp only [Flag.switch, Flag.name] at hsim
    rw [value?_defines, value?_defines, h.answer? hmem, hsim]
  | echo =>
    rw [value?_echo, value?_echo, h.verbose]
    cases hverbose : r.given.switch .buildVerbose with
    | true => rfl
    | false =>
      have hmem : .value .echo ∈ r.attempts := by simp [mem_attempts_iff, tries, hr, hverbose]
      rw [h.answer? hmem]

theorem configuration_eq {c d : Configuration} (hc : r.resolve = .ok c) (hd : q.resolve = .ok d) :
    d = c := by
  have hr : r.accepted = true := accepted_iff.mpr (r.known_iff_resolved.mp ⟨c, hc⟩)
  have hname : d.fileName = c.fileName := by
    have hmem : .value .fileName ∈ r.attempts := mem_attempts_iff.mpr hr
    refine Option.some.inj ?_
    rw [← fileName_of_answer? hd, ← fileName_of_answer? hc, h.answer? hmem]
  exact configuration_congr hc hd h.root hname (h.value?_eq hr)

/-- **Requests with the same reports cannot be told apart.** -/
theorem indistinct : r.Indistinct q where
  result := by
    by_cases hknown : familyName r.askedTarget ∈ knownFamilies
    · obtain ⟨c, hc⟩ := r.resolve_of_known hknown
      obtain ⟨d, hd⟩ := q.resolve_of_known (h.askedTarget ▸ hknown)
      rw [hc, hd, h.configuration_eq hc hd]
    · rw [r.resolve_of_unknown hknown, q.resolve_of_unknown (h.askedTarget ▸ hknown), h.askedTarget]
  said := by rw [said_eq, said_eq]
  events := by
    rw [events_eq, events_eq, h.attempts_eq]
    exact List.filterMap_congr h.report

end Alike

/-! ### Reports from look-ups -/

/-- Of the two tiers above the fallback, the second counts where the first has
nothing. -/
theorem answer?_congr {v : Query} (hargument : q.argument? v = r.argument? v)
    (henv : r.argument? v = none → q.env.get? v.name = r.env.get? v.name)
    (hfallback : q.fallback? v = r.fallback? v) : q.answer? v = r.answer? v := by
  rw [Request.answer?, Request.answer?, hargument, hfallback]
  cases hgiven : r.argument? v with
  | some value => rfl
  | none => rw [henv hgiven]

/-- A fallback follows from the repository, the fallbacks and the host. -/
theorem fallback?_congr (hroot : q.given.root = r.given.root)
    (hfallbacks : q.fallbacks = r.fallbacks)
    (hhost : q.named .host = r.named .host) (v : Query) : q.fallback? v = r.fallback? v := by
  have hstand : q.standIn = r.standIn := funext fun p => by
    cases p <;> simp only [standIn, Request.root, hroot, hfallbacks, hhost]
  cases v <;> simp only [Request.fallback?, hstand, hfallbacks]

section
variable {env : Environment} (h : Environment.AgreeOn r.lookups r.env env)
include h

theorem get?_of_lookup {i : Inquiry} (hi : i ∈ r.attempts) (hname : i.name ∈ r.lookup i) :
    env.get? i.name = r.env.get? i.name := by
  refine h _ ?_
  rw [lookups_eq]
  exact List.mem_flatMap.mpr ⟨i, hi, hname⟩

theorem get?_of_attempt {v : Query} (hv : .value v ∈ r.attempts) (hgiven : r.argument? v = none) :
    env.get? v.name = r.env.get? v.name :=
  get?_of_lookup h hv (by simp [lookup, hgiven, Inquiry.name])

theorem switchOn_of_attempt {f : Flag} (hf : .flag f ∈ r.attempts) :
    (r.under env).switchOn f.name f.switch = r.switchOn f.name f.switch := by
  rw [switchOn_eq, switchOn_eq]
  show (r.given.switch f.switch || env.contains f.name) = _
  cases hswitch : r.given.switch f.switch with
  | true => rfl
  | false =>
    have hname : f.name ∈ r.lookup (.flag f) := by simp [lookup, hswitch]
    have hvalue : env.get? f.name = r.env.get? f.name := get?_of_lookup h hf hname
    rw [contains_congr hvalue]

theorem disabled_of_attempt {l : Language} (hl : .value (.create l) ∈ r.attempts) :
    (r.under env).disabled l = r.disabled l := by
  have hr : r.accepted = true := mem_attempts_iff.mp hl
  have hswig : (r.under env).withoutSwig = r.withoutSwig :=
    switchOn_of_attempt h (f := .withoutSwig) (mem_attempts_iff.mpr hr)
  rw [disabled, disabled, hswig]
  cases hw : r.withoutSwig with
  | true => rfl
  | false =>
    have hmem : .flag (.without l) ∈ r.attempts := by simp [mem_attempts_iff, tries, hr, hw]
    have hown := switchOn_of_attempt h hmem
    rwa [Bool.false_or, Bool.false_or]

theorem argument?_of_attempt {v : Query} (hv : .value v ∈ r.attempts) :
    (r.under env).argument? v = r.argument? v := by
  cases v with
  | create l => rw [argument?, argument?, disabled_of_attempt h hv]
  | _ => rfl

theorem named_host_of_lookups : (r.under env).named .host = r.named .host := by
  show (r.given.value .host).or (env.get? "HOST_ARCH") =
    (r.given.value .host).or (r.env.get? "HOST_ARCH")
  cases hgiven : r.given.value .host with
  | some value => rfl
  | none =>
    have hmem : .ofParameter .host ∈ r.attempts := first_mem_attempts _ (by decide)
    have hvalue : env.get? "HOST_ARCH" = r.env.get? "HOST_ARCH" := get?_of_attempt h hmem hgiven
    rw [hvalue]

/-- **The variables that are looked up decide the reports.** -/
theorem alike_under : r.Alike (r.under env) where
  root := rfl
  ecmdRoot := rfl
  verbose := rfl
  report i hi := by
    cases i with
    | value v =>
      have hfallback : (r.under env).fallback? v = r.fallback? v :=
        fallback?_congr (r := r) (q := r.under env) rfl rfl (named_host_of_lookups h) v
      have hanswer : (r.under env).answer? v = r.answer? v :=
        answer?_congr (argument?_of_attempt h hi) (get?_of_attempt h hi) hfallback
      rw [report?, report?, hanswer]
    | flag f =>
      have hon := switchOn_of_attempt h hi
      rw [switchOn_eq, switchOn_eq] at hon
      exact congrArg (some ∘ Event.flag f.name (r.given.switch f.switch)) hon

end

/-! ### What is looked up -/

theorem eq_name_of_lookup {i : Inquiry} {name : String} (h : name ∈ r.lookup i) :
    name = i.name := by
  unfold lookup at h
  split at h <;> split at h <;> simp_all [Inquiry.name]

/-- What is looked up is tried, without an answer being given. -/
theorem of_mem_lookups {i : Inquiry} (h : i.name ∈ r.lookups) :
    i ∈ r.attempts ∧ i.name ∈ r.lookup i := by
  rw [lookups_eq] at h
  obtain ⟨j, hj, hname⟩ := List.mem_flatMap.mp h
  obtain rfl := Inquiry.name_inj (eq_name_of_lookup hname)
  exact ⟨hj, hname⟩

theorem lookups_subset (r : Request) : r.lookups ⊆ consulted := by
  intro name hname
  rw [lookups_eq] at hname
  obtain ⟨i, -, hi⟩ := List.mem_flatMap.mp hname
  exact eq_name_of_lookup hi ▸ i.name_mem_consulted

/-- The target and one tool are given. The other tools are looked up, although
nobody gives them. -/
example : crossBuild.lookups =
    ["HOST_ARCH", "OUTPUT_ROOT", "CC", "LD", "AR", "SYSROOT", "DEFINES", "REMOVE_SIM",
      "WITHOUT_SWIG", "WITHOUT_PERL", "CREATE_PERLAPI", "WITHOUT_PYTHON", "CREATE_PYAPI",
      "WITHOUT_PYTHON3", "CREATE_PY3API", "ECMDPERLBIN", "PERLINC", "ECMDPYTHONBIN", "PYINC",
      "ECMDPYTHON3BIN", "PY3INC", "DOXYGENBIN", "EXTENSIONS", "ECMD_REPOS", "VERBOSE",
      "INSTALL_PATH", "MAKEFILE_CONFIG_NAME"] := by
  decide +kernel

end Request
end BuildSettings
