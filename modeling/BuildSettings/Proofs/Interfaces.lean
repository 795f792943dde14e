/-
# When a language's interface is built

The interface of a language is built unless something disables it. Its own switch
does, and its own variable by being set; the switch and the variable for all
languages do too. Only if nothing does, the setting's own variable has its word.

To raise one more of these flags turns off what it governs and leaves all else as
it was (`get?_of_raises`). Where all interfaces are disabled, no language's switch
or variable is looked at: requests that differ in nothing else have the same
reports (`alike_of_withoutSwig`), so that they cannot be told apart.

Key definitions: `Flag.governs`, `Flag.governed`, `Request.Raises`,
`Request.ButLanguages`.
Key theorems: `disabled_of_raises`, `get?_of_raises`, `alike_of_withoutSwig`,
`interfaces_of_resolve`.
-/
import BuildSettings.Proofs.Influence

namespace BuildSettings

namespace Flag

/-- The flags that disable interfaces. -/
def disabling : List Flag := [withoutSwig, without .perl, without .python, without .python3]

/-- Whether a flag disables a language's interface. -/
def governs (f : Flag) (l : Language) : Bool := f = withoutSwig || f = without l

/-- The settings that a flag turns off. -/
def governed (f : Flag) : List String := (Language.all.filter f.governs).map Language.createSetting

theorem mem_governed_iff {f : Flag} {name : String} :
    name ∈ f.governed ↔ ∃ l, f.governs l = true ∧ l.createSetting = name := by
  simp [governed, Language.mem_all]

theorem mem_disabling_of_ne {f : Flag} (h : f ≠ removeSim) : f ∈ disabling := by
  cases f with
  | removeSim => exact absurd rfl h
  | withoutSwig => decide
  | without l => cases l <;> decide

theorem switch_inj {f g : Flag} (h : f.switch = g.switch) : f = g := by
  have hall : ∀ f ∈ removeSim :: disabling, ∀ g ∈ removeSim :: disabling,
      f.switch = g.switch → f = g := by decide
  have hmem : ∀ f, f ∈ removeSim :: disabling := fun f => by
    by_cases hf : f = removeSim
    · exact hf ▸ List.mem_cons_self
    · exact List.mem_cons_of_mem _ (mem_disabling_of_ne hf)
  exact hall f (hmem f) g (hmem g) h

theorem switch_of_disabling : ∀ f ∈ disabling,
    Switch.removeSim ≠ f.switch ∧ Switch.buildVerbose ≠ f.switch := by
  decide

theorem name_inj {f g : Flag} (h : f.name = g.name) : f = g :=
  Inquiry.flag.inj (Inquiry.name_inj h)

end Flag

namespace Request

/-- A request with a switch given besides. -/
def giving (r : Request) (s : Switch) : Request :=
  { r with given := { r.given with switch := Function.update r.given.switch s true } }

/-- A request with a flag raised besides: its switch is given, or its variable is
set to something. -/
inductive Raises (f : Flag) (r : Request) : Request → Prop
  | given : Raises f r (r.giving f.switch)
  | set (value : String) : Raises f r (r.under (r.env.set f.name value))

/-- Requests that differ at most in what is said of single languages: their
switches, and the variables that disable or ask for their interfaces. -/
structure ButLanguages (r q : Request) : Prop where
  root : q.given.root = r.given.root
  ecmdRoot : q.given.ecmdRoot = r.given.ecmdRoot
  value : q.given.value = r.given.value
  fallbacks : q.fallbacks = r.fallbacks
  switch : ∀ s, (∀ l : Language, s ≠ l.disablingSwitch) → q.given.switch s = r.given.switch s
  env : ∀ name, (∀ l : Language, name ≠ l.disablingVariable ∧ name ≠ l.createSetting) →
    q.env.get? name = r.env.get? name

variable {r q : Request} {c d : Configuration} {f : Flag}

/-! ### One more flag -/

/-- A raised flag is on, and every other is as before. -/
theorem switchOn_of_raises (h : Raises f r q) (g : Flag) :
    q.switchOn g.name g.switch = (decide (f = g) || r.switchOn g.name g.switch) := by
  rw [switchOn_eq, switchOn_eq]
  cases h with
  | given =>
    show (Function.update r.given.switch f.switch true g.switch || r.env.contains g.name) = _
    by_cases hfg : f = g
    · subst hfg
      simp
    · have hne : g.switch ≠ f.switch := fun he => hfg (Flag.switch_inj he).symm
      rw [Function.update_of_ne hne, decide_eq_false hfg]
      rfl
  | set value =>
    show (r.given.switch g.switch || ((r.env.set f.name value).get? g.name).isSome) = _
    rw [Environment.get?_set]
    by_cases hfg : f = g
    · subst hfg
      simp
    · have hne : g.name ≠ f.name := fun he => hfg (Flag.name_inj he).symm
      rw [if_neg hne, decide_eq_false hfg]
      rfl

/-- **A raised flag disables what it governs, and nothing else.** -/
theorem disabled_of_raises (h : Raises f r q) (l : Language) :
    q.disabled l = (f.governs l || r.disabled l) := by
  have hall : q.withoutSwig = (decide (f = .withoutSwig) || r.withoutSwig) :=
    switchOn_of_raises h .withoutSwig
  have hown := switchOn_of_raises h (.without l)
  simp only [Flag.name, Flag.switch] at hown
  rw [disabled, hall, hown, disabled, Flag.governs]
  cases decide (f = .withoutSwig) <;> cases decide (f = .without l) <;> simp

theorem get?_env_of_raises (h : Raises f r q) {name : String} (hname : name ≠ f.name) :
    q.env.get? name = r.env.get? name := by
  cases h with
  | given => rfl
  | set value => exact (Environment.get?_set ..).trans (if_neg hname)

theorem named_of_raises (h : Raises f r q) (p : Parameter) : q.named p = r.named p := by
  have hname : p.setting ≠ f.name := fun he => by
    cases Inquiry.name_inj (i := .ofParameter p) (j := .flag f) he
  have henv := get?_env_of_raises h hname
  cases h <;> exact congrArg (Option.or _) henv

/-- A flag's variable is read for what the flag governs only. -/
theorem governs_of_reads : ∀ f ∈ Flag.disabling, ∀ targetNamed, ∀ s ∈ Setting.all,
    f.name ∈ s.reads targetNamed → ∃ l ∈ Language.all, f.governs l = true ∧ s = .create l := by
  decide +kernel

theorem value?_of_raises (hf : f ∈ Flag.disabling) (h : Raises f r q) {s : Setting}
    (hs : ∀ l, f.governs l = true → s ≠ .create l) : q.value? s = r.value? s := by
  cases h with
  | set value =>
    refine value?_under fun name hname => (Environment.get?_set ..).trans (if_neg ?_)
    rintro rfl
    obtain ⟨l, -, hl, rfl⟩ := governs_of_reads f hf _ s s.mem_all hname
    exact hs l hl rfl
  | given =>
    -- of the kinds of settings three look at switches
    have hswitch : ∀ t, t ≠ f.switch → (r.giving f.switch).given.switch t = r.given.switch t :=
      fun t ht => Function.update_of_ne ht ..
    cases s with
    | parameter p => rfl
    | derived d => rfl
    | create l =>
      have hl : f.governs l = false := Bool.eq_false_iff.mpr fun hl => hs l hl rfl
      rw [value?, value?, disabled_of_raises .given, hl, Bool.false_or]
      rfl
    | defines =>
      have hsim : Switch.removeSim ≠ f.switch := (Flag.switch_of_disabling f hf).1
      rw [value?, value?, hswitch _ hsim]
      rfl
    | echo =>
      have hverbose : Switch.buildVerbose ≠ f.switch := (Flag.switch_of_disabling f hf).2
      rw [value?, value?, hswitch _ hverbose]
      rfl

/-- **A raised flag turns off the settings that it governs, and changes no other.** -/
theorem get?_of_raises (hf : f ∈ Flag.disabling) (h : Raises f r q) (hc : r.resolve = .ok c)
    (hd : q.resolve = .ok d) (name : String) :
    d.settings.get? name = if name ∈ f.governed then some "no" else c.settings.get? name := by
  split
  · rename_i hname
    obtain ⟨l, hl, rfl⟩ := Flag.mem_governed_iff.mp hname
    rw [get?_create hd, disabled_of_raises h, hl, Bool.true_or]
    rfl
  · rename_i hname
    refine get?_congr hc hd fun s hs => value?_of_raises hf h ?_
    rintro l hl rfl
    exact hname (Flag.mem_governed_iff.mpr ⟨l, hl, hs⟩)

/-- A raised flag keeps no request from being resolved, and moves no file. -/
theorem resolve_of_raises (h : Raises f r q) (hc : r.resolve = .ok c) :
    ∃ d, q.resolve = .ok d ∧ d.root = c.root ∧ d.fileName = c.fileName := by
  have hfallbacks : q.fallbacks = r.fallbacks := by cases h <;> rfl
  have hroot : q.given.root = r.given.root := by cases h <;> rfl
  have htarget : q.askedTarget = r.askedTarget := by
    rw [askedTarget, askedTarget, named_of_raises h, named_of_raises h, hfallbacks]
  have hknown := r.known_iff_resolved.mp ⟨c, hc⟩
  obtain ⟨d, hd⟩ := q.resolve_of_known (htarget ▸ hknown)
  obtain ⟨-, -, hrootc, -⟩ := of_resolve hc
  obtain ⟨-, -, hrootd, -⟩ := of_resolve hd
  have hname : fileNameVariable ≠ f.name := fun he => by
    cases Inquiry.name_inj (i := .value .fileName) (j := .flag f) he
  have henv : q.env.get? "MAKEFILE_CONFIG_NAME" = r.env.get? "MAKEFILE_CONFIG_NAME" :=
    get?_env_of_raises h hname
  refine ⟨d, hd, ?_, ?_⟩
  · rw [hrootd, hrootc, hroot]
  · rw [fileName_of_resolve hc, fileName_of_resolve hd, henv, hfallbacks]

/-! ### All interfaces disabled -/

theorem without_not_mem_attempts (hswig : r.withoutSwig = true) (l : Language) :
    .flag (.without l) ∉ r.attempts := by
  simp [mem_attempts_iff, tries, hswig]

/-- Whether to build an interface is decided before its variable is looked up. -/
theorem lookup_create (hswig : r.withoutSwig = true) (l : Language) :
    r.lookup (.value (.create l)) = [] := by
  simp [lookup, argument?, disabled, hswig]

theorem not_mem_lookups (hswig : r.withoutSwig = true) (l : Language) :
    l.disablingVariable ∉ r.lookups ∧ l.createSetting ∉ r.lookups := by
  refine ⟨fun hmem => ?_, fun hmem => ?_⟩
  · have hflag := of_mem_lookups (i := .flag (.without l)) hmem
    exact without_not_mem_attempts hswig l hflag.1
  · have hvalue := of_mem_lookups (i := .value (.create l)) hmem
    rw [lookup_create hswig l] at hvalue
    cases hvalue.2

namespace ButLanguages

variable (h : ButLanguages r q)
include h

theorem get?_env {i : Inquiry} (hflag : ∀ l, i ≠ .flag (.without l))
    (hcreate : ∀ l, i ≠ .value (.create l)) : q.env.get? i.name = r.env.get? i.name :=
  h.env _ fun l =>
    ⟨fun he => hflag l (Inquiry.name_inj he), fun he => hcreate l (Inquiry.name_inj he)⟩

theorem get?_query {v : Query} (hv : ∀ l, v ≠ .create l) : q.env.get? v.name = r.env.get? v.name :=
  h.get?_env (i := .value v) (by simp) (by simpa using hv)

theorem report?_flag (hf : ∀ l, f ≠ .without l) : q.report? (.flag f) = r.report? (.flag f) := by
  have hswitch : q.given.switch f.switch = r.given.switch f.switch :=
    h.switch _ fun l he => hf l (Flag.switch_inj he)
  have henv : q.env.get? f.name = r.env.get? f.name :=
    h.get?_env (i := .flag f) (by simpa using hf) (by simp)
  rw [report?, report?, hswitch, contains_congr henv]

theorem withoutSwig_eq : q.withoutSwig = r.withoutSwig :=
  withoutSwig_of_report? (h.report?_flag (by simp))

theorem named_host : q.named .host = r.named .host := by
  have henv : q.env.get? "HOST_ARCH" = r.env.get? "HOST_ARCH" :=
    h.get?_query (v := .parameter .host) (by simp)
  show (q.given.value .host).or (q.env.get? "HOST_ARCH") = _
  rw [h.value, henv]
  rfl

theorem answer?_eq (hswig : r.withoutSwig = true) (v : Query) : q.answer? v = r.answer? v := by
  have hfallback := fallback?_congr h.root h.fallbacks h.named_host v
  cases v with
  | create l =>
    have hr : r.argument? (.create l) = some "no" := by simp [argument?, disabled, hswig]
    have hq : q.argument? (.create l) = some "no" := by
      simp [argument?, disabled, h.withoutSwig_eq, hswig]
    exact answer?_congr (hq.trans hr.symm) (fun hnone => by simp [hr] at hnone) hfallback
  | parameter p =>
    exact answer?_congr (congrFun h.value p) (fun _ => h.get?_query (by simp)) hfallback
  | defines | echo | fileName =>
    exact answer?_congr rfl (fun _ => h.get?_query (by simp)) hfallback

end ButLanguages

/-- **Where all interfaces are disabled, single languages do not count.** -/
theorem alike_of_withoutSwig (hswig : r.withoutSwig = true) (h : ButLanguages r q) :
    r.Alike q where
  root := h.root
  ecmdRoot := congrArg Utf8.lossy h.ecmdRoot
  verbose := h.switch _ fun l => by cases l <;> decide
  report i hi := by
    cases i with
    | value v => rw [report?, report?, h.answer?_eq hswig v]
    | flag f =>
      refine h.report?_flag fun l hl => ?_
      exact without_not_mem_attempts hswig l (hl ▸ hi)

/-! ### The settings of the interfaces -/

/-- **When the interfaces are built.** The setting of a language's interface is
`no` as soon as a switch or a variable, of all languages or of this one, disables
it. Otherwise it is the value of the setting's own variable, and `yes` where that
is not set. To give one more of these switches or to set one more of these
variables turns off what it governs; every other setting stays as it is, and so
does the file. What is looked up decides everything. Where all interfaces are
disabled, no variable of a single language is looked up, and neither they nor the
switches make a difference to anything, the look-ups included. -/
theorem interfaces_of_resolve (h : r.resolve = .ok c) :
    (∀ l : Language, c.settings.get? l.createSetting = some (
      if r.given.switch .withoutSwig || r.env.contains "WITHOUT_SWIG"
        || r.given.switch l.disablingSwitch || r.env.contains l.disablingVariable then "no"
      else (r.env.get? l.createSetting).getD "yes")) ∧
    (∀ f ∈ Flag.disabling, ∀ q, Raises f r q →
      ∃ d, q.resolve = .ok d ∧ d.root = c.root ∧ d.fileName = c.fileName ∧
        ∀ name, d.settings.get? name =
          if name ∈ f.governed then some "no" else c.settings.get? name) ∧
    (∀ env, Environment.AgreeOn r.lookups r.env env →
      r.Indistinct (r.under env) ∧ (r.under env).lookups = r.lookups) ∧
    (r.given.switch .withoutSwig = true ∨ r.env.contains "WITHOUT_SWIG" = true →
      (∀ l : Language, l.disablingVariable ∉ r.lookups ∧ l.createSetting ∉ r.lookups) ∧
      ∀ q, ButLanguages r q → r.Indistinct q ∧ q.lookups = r.lookups) := by
  refine ⟨fun l => ?_, fun f hf q hq => ?_, fun env henv => ?_, fun hany => ?_⟩
  · rw [get?_create h, disabled_eq, Bool.or_assoc (_ || _)]
  · obtain ⟨d, hd, hroot, hname⟩ := resolve_of_raises hq h
    exact ⟨d, hd, hroot, hname, get?_of_raises hf hq h hd⟩
  · exact ⟨(alike_under henv).indistinct, (alike_under henv).lookups_eq⟩
  · have hswig : r.withoutSwig = true := by
      rw [withoutSwig_eq]
      exact Bool.or_eq_true_iff.mpr hany
    refine ⟨not_mem_lookups hswig, fun q hq => ?_⟩
    have halike := alike_of_withoutSwig hswig hq
    exact ⟨halike.indistinct, halike.lookups_eq⟩

/-- A build in which the variable for all interfaces is set to the empty text. -/
def bareBuild : Request := crossBuild.under (crossBuild.env.set "WITHOUT_SWIG" "")

/-- The variable turns off an interface and leaves the flags. After that the
interface's own variable does nothing. -/
theorem interfaces_of_bareBuild : ∃ c d, crossBuild.resolve = .ok c ∧ bareBuild.resolve = .ok d ∧
    c.settings.get? "CREATE_PYAPI" = some "yes" ∧ d.settings.get? "CREATE_PYAPI" = some "no" ∧
    d.settings.get? "CFLAGS" = c.settings.get? "CFLAGS" ∧ d.fileName = c.fileName ∧
    (bareBuild.under (bareBuild.env.set "CREATE_PYAPI" "yes")).resolve = .ok d := by
  obtain ⟨c, hc⟩ := crossBuild.resolve_of_known (by decide +kernel)
  obtain ⟨hcreate, hraise, -, -⟩ := interfaces_of_resolve hc
  obtain ⟨d, hd, -, hname, hget⟩ := hraise .withoutSwig (by decide) bareBuild (.set "")
  obtain ⟨-, -, -, hbare⟩ := interfaces_of_resolve hd
  have hlanguage : bareBuild.ButLanguages
      (bareBuild.under (bareBuild.env.set "CREATE_PYAPI" "yes")) :=
    { root := rfl, ecmdRoot := rfl, value := rfl, fallbacks := rfl, switch := fun _ _ => rfl
      env := fun _ hname => (Environment.get?_set ..).trans (if_neg (hname .python).2) }
  obtain ⟨hsame, -⟩ := (hbare (.inr rfl)).2 _ hlanguage
  exact ⟨c, d, hc, hd, hcreate .python, hget _, hget _, hname, hsame.result.trans hd⟩

end Request
end BuildSettings
