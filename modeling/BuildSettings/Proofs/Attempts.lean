/-
# The steps look up what is tried

The steps of resolving look up one thing after another. These are the attempts of the
request, in their order: each step asks the environment for what the attempt looks up,
and leaves its report (`looks_early`, `looks_late`). So the variables that a request
looks up and its events are known (`lookups_eq`, `events_eq`).

Only a tool that nobody gives leaves no event. What does leave one is an inquiry
(`inquiries_eq`), so that the events are the reports of the inquiries, one for each
(`reports_eq`).

Key definition: `Request.look`.
Key theorems: `looks_early`, `looks_late`, `lookups_eq`, `events_eq`,
`inquiries_eq`, `reports_eq`.
-/
import BuildSettings.Proofs.Query
import Mathlib.Data.List.Flatten

namespace BuildSettings

open Resolution (askedFor looks looks_append looks_flatMap recorded Step)

namespace Request

variable {r : Request}

/-! ### What is tried -/

theorem mem_attempts_iff {i : Inquiry} : i ∈ r.attempts ↔ r.tries i = true := by
  rw [attempts, List.mem_filter, and_iff_right i.mem_all]

theorem accepted_iff : r.accepted = true ↔ familyName r.askedTarget ∈ knownFamilies :=
  decide_eq_true_iff

theorem refused_iff : r.accepted = false ↔ familyName r.askedTarget ∉ knownFamilies :=
  decide_eq_false_iff_not

theorem first_mem_attempts : ∀ i ∈ Inquiry.first, i ∈ r.attempts := by
  simp [mem_attempts_iff, Inquiry.first, Inquiry.ofParameter, tries]

theorem parameter_mem_attempts (h : r.accepted = true) (p : Parameter) :
    .ofParameter p ∈ r.attempts := by
  rw [mem_attempts_iff, Inquiry.ofParameter, tries, h, Bool.true_or]

theorem filter_languages (h : r.accepted = true) :
    (Language.all.flatMap Inquiry.ofLanguage).filter r.tries =
      Language.all.flatMap r.languageInquiries := by
  rw [List.filter_flatMap]
  refine List.flatMap_congr fun l _ => ?_
  rw [languageInquiries, ← withoutSwig_eq]
  cases hw : r.withoutSwig <;> simp [Inquiry.ofLanguage, tries, h, hw]

theorem attempts_of_accepted (h : r.accepted = true) : r.attempts =
    Inquiry.first ++ ([.value .defines, .flag .removeSim, .flag .withoutSwig]
      ++ Language.all.flatMap r.languageInquiries ++ Parameter.tools.map .ofParameter
      ++ (if r.given.switch .buildVerbose then [] else [.value .echo])
      ++ [.ofParameter .installPath, .value .fileName]) := by
  have hparameters : ∀ ps : List Parameter,
      (ps.map .ofParameter).filter r.tries = ps.map .ofParameter := fun ps => by
    refine List.filter_eq_self.mpr fun i hi => ?_
    obtain ⟨p, -, rfl⟩ := List.mem_map.mp hi
    exact mem_attempts_iff.mp (parameter_mem_attempts h p)
  have hecho : [.value .echo].filter r.tries =
      if r.given.switch .buildVerbose then [] else [.value .echo] := by
    cases hv : r.given.switch .buildVerbose <;> simp [tries, h, hv]
  have hrest : ∀ i ∈ [.value .defines, .flag .removeSim, .flag .withoutSwig], r.tries i = true := by
    simp [tries, h]
  have hend : ∀ i ∈ [.ofParameter .installPath, .value .fileName], r.tries i = true := by
    simp [tries, Inquiry.ofParameter, h]
  simp only [attempts, Inquiry.all, Inquiry.first, List.filter_append, hparameters, hecho,
    filter_languages h, List.filter_eq_self.mpr hrest, List.filter_eq_self.mpr hend]

theorem attempts_of_refused (h : r.accepted = false) : r.attempts = Inquiry.first := by
  have htries : r.tries = fun i => decide (i ∈ Inquiry.first) := funext fun i => by
    cases i with
    | value q => cases q <;> simp [tries, h, Inquiry.first, Inquiry.ofParameter]
    | flag f => cases f <;> simp [tries, h, Inquiry.first, Inquiry.ofParameter]
  rw [attempts, htries]
  decide

/-! ### Steps look up what is tried -/

/-- What an inquiry looks up, and the event that it leaves. -/
def look (r : Request) (i : Inquiry) : List String × Option Event := (r.lookup i, r.report? i)

theorem looks_lookUp {q : Query} {fallback : String} (h : r.fallback? q = some fallback) :
    looks [r.lookUp q.name (r.argument? q)
      (BuildSettings.resolve q.name (r.argument? q) r.env fallback)] = [r.look (.value q)] := by
  rw [look, lookup, report?_value (answer?_of_fallback h), lookUp, Environment.asked_resolveWith]
  rfl

theorem looks_askSwitch (f : Flag) : looks [r.askSwitch f.name f.switch] = [r.look (.flag f)] := by
  rw [look, lookup, report?, ← flag_eq, askSwitch, Environment.asked_flagWith]
  rfl

theorem looks_parameter {p : Parameter} {fallback : String} (h : r.standIn p = some fallback) :
    looks [r.lookUpParameter p (r.parameter p fallback)] = [r.look (.ofParameter p)] :=
  looks_lookUp (q := .parameter p) h

theorem standIn_target : r.standIn .target = some r.hostArch.value := by
  rw [hostArch, parameter_value]
  rfl

theorem looks_early : looks r.earlySteps = Inquiry.first.map r.look := by
  have hparts : looks r.earlySteps =
      looks [r.lookUpParameter .host r.hostArch] ++ looks [r.lookUpParameter .target r.targetArch]
      ++ looks [r.lookUpParameter .outputRoot r.outputRoot] ++ looks [r.lookUpParameter .cc r.cc]
      ++ looks [r.lookUpParameter .ld r.ld] ++ looks [r.lookUpParameter .ar r.ar]
      ++ looks [r.lookUpParameter .sysroot r.sysroot] := rfl
  rw [hparts, hostArch, looks_parameter rfl, targetArch, looks_parameter standIn_target, outputRoot,
    looks_parameter rfl, cc, looks_parameter rfl, ld, looks_parameter rfl, ar, looks_parameter rfl,
    sysroot, looks_parameter rfl]
  rfl

theorem looks_options (flags : Flags) : looks (r.optionSteps flags) =
    [Inquiry.value .defines, .flag .removeSim, .flag .withoutSwig].map r.look := by
  have hparts : looks (r.optionSteps flags) =
      looks [r.lookUp "DEFINES" none r.ownDefines] ++ looks [r.askSwitch "REMOVE_SIM" .removeSim]
      ++ looks [r.askSwitch "WITHOUT_SWIG" .withoutSwig] := rfl
  have hdefines : looks [r.lookUp "DEFINES" none r.ownDefines] = [r.look (.value .defines)] :=
    looks_lookUp (q := .defines) rfl
  have hsim : looks [r.askSwitch "REMOVE_SIM" .removeSim] = [r.look (.flag .removeSim)] :=
    looks_askSwitch .removeSim
  have hswig : looks [r.askSwitch "WITHOUT_SWIG" .withoutSwig] = [r.look (.flag .withoutSwig)] :=
    looks_askSwitch .withoutSwig
  rw [hparts, hdefines, hsim, hswig]
  rfl

theorem looks_language (l : Language) :
    looks (r.languageSteps l) = (r.languageInquiries l).map r.look := by
  have hcreate : looks [r.lookUp l.createSetting (r.decided l) (r.create l),
      .put l.createSetting (r.create l).value] = [r.look (.value (.create l))] :=
    looks_lookUp (q := .create l) rfl
  rw [languageSteps, languageInquiries, looks_append, hcreate, ← withoutSwig_eq, List.map_append]
  cases r.withoutSwig with
  | true => rfl
  | false => exact congrArg (· ++ [r.look (.value (.create l))]) (looks_askSwitch (.without l))

theorem looks_tool {p : Parameter} (h : p ∈ Parameter.tools) :
    looks (r.toolSteps p) = [r.look (.ofParameter p)] := by
  have hlook : looks (r.toolSteps p) =
      [(r.env.asked (resolveOptionalWith · p.setting (r.given.value p)),
        (r.tool p).map (·.event p.setting))] := by
    unfold toolSteps
    split <;> rfl
  rw [hlook, look, report?_tool h, Environment.asked_resolveOptionalWith]
  rfl

theorem looks_final : looks r.finalSteps =
    ((if r.given.switch .buildVerbose then [] else [Inquiry.value .echo])
      ++ [Inquiry.ofParameter .installPath, .value .fileName]).map r.look := by
  have hecho : looks [r.lookUp "VERBOSE" none r.echo] = [r.look (.value .echo)] :=
    looks_lookUp (q := .echo) rfl
  have hrest : looks [.put "VERBOSE" r.verbose, r.lookUpParameter .installPath r.installPath,
      .put "INSTALL_PATH" r.installPath.value, r.lookUp fileNameVariable none r.fileName] =
      looks [r.lookUpParameter .installPath r.installPath]
      ++ looks [r.lookUp fileNameVariable none r.fileName] := rfl
  have hfile : looks [r.lookUp fileNameVariable none r.fileName] = [r.look (.value .fileName)] :=
    looks_lookUp (q := .fileName) rfl
  rw [finalSteps, looks_append, hrest, installPath, looks_parameter rfl, hfile, List.map_append]
  split
  · rfl
  · rw [hecho]
    rfl

/-- **The steps look up what is tried.** After the check these are the attempts that
are left. -/
theorem looks_late (h : r.accepted = true) (flags : Flags) :
    looks (r.earlySteps ++ r.lateSteps flags) = r.attempts.map r.look := by
  have hlanguages : looks (Language.all.flatMap r.languageSteps) =
      (Language.all.flatMap r.languageInquiries).map r.look := by
    rw [looks_flatMap, List.map_flatMap]
    exact List.flatMap_congr fun l _ => looks_language l
  have htools : looks (Parameter.tools.flatMap r.toolSteps) =
      (Parameter.tools.map .ofParameter).map r.look := by
    rw [looks_flatMap, List.map_map, List.map_eq_flatMap]
    exact List.flatMap_congr fun p hp => looks_tool hp
  rw [attempts_of_accepted h, lateSteps]
  simp only [looks_append, looks_early, looks_options, hlanguages, htools, looks_final,
    List.map_append, List.append_assoc]

theorem looks_of_refused (h : r.accepted = false) : looks r.earlySteps = r.attempts.map r.look := by
  rw [looks_early, attempts_of_refused h]

/-- The course of a request takes steps that look up what is tried. -/
theorem exists_looks (r : Request) :
    ∃ steps, looks steps = r.attempts.map r.look ∧ Resolution.Adds .start steps r.course.1 := by
  cases haccepted : r.accepted with
  | true =>
    have hknown := accepted_iff.mp haccepted
    rw [← targetArch_value] at hknown
    obtain ⟨flags, hflags⟩ := ofArch_of_known hknown
    obtain ⟨c, hc, hadds⟩ := r.course_of_known hflags
    exact ⟨_, looks_late haccepted flags, by rwa [hc]⟩
  | false =>
    have hunknown := refused_iff.mp haccepted
    rw [← targetArch_value] at hunknown
    obtain ⟨c, hc, hadds⟩ := r.course_of_unknown (ofArch_of_unknown hunknown)
    exact ⟨_, looks_of_refused haccepted, by rwa [hc]⟩

theorem events_eq (r : Request) : r.events = r.attempts.filterMap r.report? := by
  obtain ⟨steps, hlooks, hadds⟩ := r.exists_looks
  rw [events, hadds.events, recorded, hlooks, List.filterMap_map]
  rfl

/-- The variables that are looked up are those of what is tried. -/
theorem lookups_eq (r : Request) : r.lookups = r.attempts.flatMap r.lookup := by
  obtain ⟨steps, hlooks, hadds⟩ := r.exists_looks
  rw [lookups, hadds.asked, askedFor, hlooks, List.flatMap_map]
  rfl

/-! ### An inquiry for each event -/

theorem languageInquiries_sublist (r : Request) (l : Language) :
    (r.languageInquiries l).Sublist (Inquiry.ofLanguage l) := by
  unfold languageInquiries
  split
  · exact List.sublist_cons_self _ _
  · exact List.Sublist.refl _

theorem languages_sublist (r : Request) : (Language.all.flatMap r.languageInquiries).Sublist
    (Language.all.flatMap Inquiry.ofLanguage) :=
  List.Sublist.flatMap_right _ fun l _ => r.languageInquiries_sublist l

/-- Only a tool can leave no event. -/
theorem isSome_report? {i : Inquiry} (h : i ∉ Parameter.tools.map .ofParameter) :
    (r.report? i).isSome = true := by
  have hanswer : ∀ q, (r.fallback? q).isSome → (r.report? (.value q)).isSome = true := fun q hq => by
    obtain ⟨fallback, hfallback⟩ := Option.isSome_iff_exists.mp hq
    rw [report?_value (answer?_of_fallback hfallback), Option.isSome_some]
  cases i with
  | flag f => rfl
  | value q =>
    refine hanswer q ?_
    cases q with
    | parameter p => cases p <;> first | rfl | exact absurd (by decide) h
    | defines | create | echo | fileName => rfl

theorem filter_of_no_tool {l : List Inquiry} (h : ∀ i ∈ l, i ∉ Parameter.tools.map .ofParameter) :
    l.filter (fun i => (r.report? i).isSome) = l :=
  List.filter_eq_self.mpr fun i hi => isSome_report? (h i hi)

theorem filter_tool {p : Parameter} (h : p ∈ Parameter.tools) :
    [Inquiry.ofParameter p].filter (fun i => (r.report? i).isSome) = r.toolInquiries p := by
  have hgiven : (r.report? (.ofParameter p)).isSome =
      ((r.given.value p).isSome || r.env.contains p.setting) := by
    rw [report?_tool h, ← hasTool_eq, hasTool, ← tool_value, Option.isSome_map, Option.isSome_map]
  rw [toolInquiries, List.filter_singleton, hgiven, cond_eq_ite]

theorem filter_tools : (Parameter.tools.map .ofParameter).filter (fun i => (r.report? i).isSome) =
    Parameter.tools.flatMap r.toolInquiries := by
  rw [List.map_eq_flatMap, List.filter_flatMap]
  exact List.flatMap_congr fun p hp => filter_tool hp

/-- **What is asked is what is tried and leaves an event.** -/
theorem inquiries_eq (r : Request) :
    r.inquiries = r.attempts.filter fun i => (r.report? i).isSome := by
  rw [inquiries]
  cases haccepted : r.accepted with
  | false =>
    rw [if_neg (refused_iff.mp haccepted), List.append_nil, attempts_of_refused haccepted,
      filter_of_no_tool (by decide)]
  | true =>
    have hlanguages : ∀ i ∈ Language.all.flatMap r.languageInquiries,
        i ∉ Parameter.tools.map .ofParameter := fun i hi => by
      have hno : ∀ i ∈ Language.all.flatMap Inquiry.ofLanguage,
          i ∉ Parameter.tools.map .ofParameter := by decide
      exact hno i (r.languages_sublist.subset hi)
    have hecho : ∀ i ∈ (if r.given.switch .buildVerbose then [] else [.value .echo]),
        i ∉ Parameter.tools.map Inquiry.ofParameter := by
      split <;> decide
    rw [if_pos (accepted_iff.mp haccepted), attempts_of_accepted haccepted, furtherInquiries]
    simp only [List.filter_append, filter_tools, filter_of_no_tool hlanguages,
      filter_of_no_tool hecho]
    rw [filter_of_no_tool (l := Inquiry.first) (by decide),
      filter_of_no_tool (l := [.value .defines, .flag .removeSim, .flag .withoutSwig]) (by decide),
      filter_of_no_tool (l := [.ofParameter .installPath, .value .fileName]) (by decide)]

/-- **The events are the reports of what is asked,** one for each. -/
theorem reports_eq (r : Request) : r.events.map some = r.inquiries.map r.report? := by
  rw [events_eq, List.map_filterMap_some_eq_filter_map_isSome, inquiries_eq, List.filter_map]
  rfl

end Request
end BuildSettings
