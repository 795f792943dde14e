/-
# The log of a request

A request leaves an event for each thing that it asks, the report of it, in one order.
No name is asked for twice, so that the event of a name is the only one that tells of
it. So the log tells where every value came from. A value is kept under its name as it
was reported. But the definitions have grown by then, and the file's name is kept
apart.

Key definition: `Event.name`.
Key theorems: `nodup_names`, `answer?_of_event`, `kept`, `events_of_inquiries`.
-/
import BuildSettings.Proofs.Attempts

namespace BuildSettings

/-- What an event tells of. -/
def Event.name : Event → String
  | .resolved setting _ _ => setting
  | .flag name _ _ => name
  | .wrote path _ => path

namespace Request

variable {r : Request}

/-! ### Each name once -/

/-- Whatever a request asks for, it asks for in one order. -/
theorem inquiries_sublist (r : Request) : r.inquiries.Sublist Inquiry.all := by
  rw [inquiries_eq, attempts]
  exact List.filter_sublist.trans List.filter_sublist

/-- A report tells of what is asked for, and is a look-up's. -/
theorem of_report? {i : Inquiry} {e : Event} (h : r.report? i = some e) :
    e.name = i.name ∧ e.level = .debug := by
  cases i with
  | value q =>
    obtain ⟨a, -, rfl⟩ := Option.map_eq_some_iff.mp h
    exact ⟨rfl, rfl⟩
  | flag f =>
    cases h
    exact ⟨rfl, rfl⟩

theorem exists_event {i : Inquiry} (h : i ∈ r.inquiries) : ∃ e ∈ r.events, r.report? i = some e := by
  have hreport : r.report? i ∈ r.events.map some := by
    rw [reports_eq]
    exact List.mem_map_of_mem h
  obtain ⟨e, he, heq⟩ := List.mem_map.mp hreport
  exact ⟨e, he, heq.symm⟩

theorem exists_inquiry {e : Event} (h : e ∈ r.events) : ∃ i ∈ r.inquiries, r.report? i = some e := by
  have hreport : some e ∈ r.inquiries.map r.report? := by
    rw [← reports_eq]
    exact List.mem_map_of_mem h
  exact List.mem_map.mp hreport

theorem level_of_event {e : Event} (h : e ∈ r.events) : e.level = .debug := by
  obtain ⟨i, -, hreport⟩ := exists_inquiry h
  exact (of_report? hreport).2

theorem names_of_events (r : Request) : r.events.map Event.name = r.inquiries.map Inquiry.name := by
  have hname : ∀ i ∈ r.inquiries, (r.report? i).map Event.name = some i.name := by
    intro i hi
    obtain ⟨e, -, he⟩ := exists_event hi
    rw [he, Option.map_some, (of_report? he).1]
  have hmap : (r.events.map Event.name).map some = (r.inquiries.map Inquiry.name).map some :=
    calc (r.events.map Event.name).map some
      _ = (r.events.map some).map (Option.map Event.name) := by simp [Function.comp_def]
      _ = r.inquiries.map fun i => (r.report? i).map Event.name := by
        rw [reports_eq, List.map_map]
        rfl
      _ = (r.inquiries.map Inquiry.name).map some := by
        rw [List.map_congr_left hname, List.map_map]
        rfl
  exact (List.map_inj_right fun _ _ h => Option.some.inj h).mp hmap

/-- **No name is told of twice.** -/
theorem nodup_names (r : Request) : (r.events.map Event.name).Nodup := by
  rw [names_of_events]
  exact Inquiry.nodup_names.sublist (r.inquiries_sublist.map _)

/-! ### What becomes of the answers -/

theorem answer?_of_event {name value : String} {source : Source}
    (h : .resolved name source value ∈ r.events) :
    ∃ q, .value q ∈ r.inquiries ∧ q.name = name ∧ r.answer? q = some ⟨value, source⟩ := by
  obtain ⟨i, hi, hreport⟩ := exists_inquiry h
  cases i with
  | value q =>
    obtain ⟨a, hanswer, heq⟩ := Option.map_eq_some_iff.mp hreport
    cases heq
    exact ⟨q, hi, rfl, hanswer⟩
  | flag f => cases hreport

theorem echo_of_mem (h : .value .echo ∈ r.inquiries) : r.given.switch .buildVerbose = false := by
  rw [inquiries_eq] at h
  have htries : r.tries (.value .echo) = true := mem_attempts_iff.mp (List.mem_filter.mp h).1
  rw [tries, Bool.and_eq_true, Bool.not_eq_true'] at htries
  exact htries.2

variable {c : Configuration} {value : String} {source : Source}

theorem kept_defines (h : r.resolve = .ok c) (hanswer : r.answer? .defines = some ⟨value, source⟩) :
    c.settings.get? "DEFINES" = some (value ++ " -DLINUX" ++
      if r.given.switch .removeSim || r.env.contains "REMOVE_SIM" then " -DREMOVE_SIM" else "") := by
  have hvalue : (r.env.get? "DEFINES").getD "" = value := by
    simpa [argument?, fallback?, Query.name] using value_of_answer? hanswer
  rw [get?_defines h, hvalue]

theorem kept_fileName (h : r.resolve = .ok c)
    (hanswer : r.answer? .fileName = some ⟨value, source⟩) : c.fileName = value := by
  rw [fileName_of_resolve h]
  simpa [argument?, fallback?, Query.name] using value_of_answer? hanswer

theorem kept (h : r.resolve = .ok c) {q : Query} (hq : .value q ∈ r.inquiries)
    (hdefines : q ≠ .defines) (hfile : q ≠ .fileName) (hanswer : r.answer? q = some ⟨value, source⟩) :
    c.settings.get? q.name = some value := by
  have hvalue := value_of_answer? hanswer
  cases q with
  | parameter p =>
    rw [← hvalue]
    exact get?_parameter h p
  | defines => exact absurd rfl hdefines
  | create l =>
    rw [← hvalue]
    refine (get?_create h l).trans ?_
    simp only [argument?, fallback?, Query.name]
    cases r.disabled l <;> simp
  | echo =>
    have hecho := get?_verbose h
    rw [echo_of_mem hq, if_neg Bool.false_ne_true] at hecho
    rw [← hvalue]
    refine hecho.trans ?_
    simp [argument?, fallback?, Query.name]
  | fileName => exact absurd rfl hfile

/-! ### The log of a request -/

/-- **The log tells of each thing that is asked, once and in order.** There is one
event for each inquiry, and it is the report of it: of a refused target those
about the machines, the output and the compilers only. No name is told of twice.
The tier that an event names is the one that gave the value: an argument; failing
that the variable of the name; failing both what stands for it. If the request is
resolved, every value is kept under its name as it was told, except that the
definitions have grown and that the file's name is no setting. -/
theorem events_of_inquiries (r : Request) :
    r.events.map some = r.inquiries.map r.report? ∧
    (r.events.map Event.name).Nodup ∧
    (∀ name source value, .resolved name source value ∈ r.events →
      ∃ q : Query, q.name = name ∧
        match source with
        | .argument => r.argument? q = some value
        | .environment => r.argument? q = none ∧ r.env.get? name = some value
        | .fallback => r.argument? q = none ∧ r.env.get? name = none ∧
            r.fallback? q = some value) ∧
    ∀ c, r.resolve = .ok c → ∀ name source value, .resolved name source value ∈ r.events →
      (name = "DEFINES" → c.settings.get? name = some (value ++ " -DLINUX" ++
        if r.given.switch .removeSim || r.env.contains "REMOVE_SIM" then " -DREMOVE_SIM" else "")) ∧
      (name = "MAKEFILE_CONFIG_NAME" → c.fileName = value) ∧
      (name ≠ "DEFINES" → name ≠ "MAKEFILE_CONFIG_NAME" →
        c.settings.get? name = some value) := by
  refine ⟨r.reports_eq, r.nodup_names, ?_, ?_⟩
  · intro name source value h
    obtain ⟨q, -, rfl, hanswer⟩ := answer?_of_event h
    exact ⟨q, rfl, answer?_eq_some_iff.mp hanswer⟩
  · intro c hc name source value h
    obtain ⟨q, hq, rfl, hanswer⟩ := answer?_of_event h
    refine ⟨fun hname => ?_, fun hname => ?_, fun hdefines hfile => ?_⟩
    · obtain rfl : q = .defines := Query.name_inj hname
      exact kept_defines hc hanswer
    · obtain rfl : q = .fileName := Query.name_inj hname
      exact kept_fileName hc hanswer
    · refine kept hc hq ?_ ?_ hanswer
      · rintro rfl
        exact hdefines rfl
      · rintro rfl
        exact hfile rfl

/-- The one tool that is given is asked for, and every language's own flag. -/
example : crossBuild.inquiries.map Inquiry.name =
    ["HOST_ARCH", "TARGET_ARCH", "OUTPUT_ROOT", "CC", "LD", "AR", "SYSROOT", "DEFINES",
      "REMOVE_SIM", "WITHOUT_SWIG", "WITHOUT_PERL", "CREATE_PERLAPI", "WITHOUT_PYTHON",
      "CREATE_PYAPI", "WITHOUT_PYTHON3", "CREATE_PY3API", "SWIG", "VERBOSE", "INSTALL_PATH",
      "MAKEFILE_CONFIG_NAME"] := by
  decide +kernel

end Request
end BuildSettings
