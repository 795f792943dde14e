/-
# What the log's filter changes, and what it does not

A filter in the variable `RUST_LOG` decides which events reach the log. There each
has a record: its level, its message, and its fields with their values
(`Event.line`, `record_eq_line`).

What a run records does not depend on the filter (`trace`). So the filter changes
which records stand in front on standard error, and nothing else: not the code,
what is said, the line that says why a run fails, or the tree
(`run_up_to_log`).

Key definitions: `Event.line`, `Variables.Hold`, `Variables.AgreeBut`, `trace`.
Key theorems: `record_eq_line`, `run_up_to_log`, `trace_of_found`,
`trace_of_written`, `run_under_filters`.
-/
import BuildSettings.Proofs.Filters
import BuildSettings.Proofs.Inquiry
import BuildSettings.Proofs.Message
import BuildSettings.Proofs.Run
import BuildSettings.Proofs.Spelling
import BuildSettings.Proofs.Variables

namespace BuildSettings

/-! ### Records are lines -/

namespace Event

/-- A level at the start of a log line. -/
def levelText (colours : Bool) : Level → String
  | .debug => if colours then "\x1B[34mDEBUG\x1B[0m" else "DEBUG"
  | .info => if colours then "\x1B[32m INFO\x1B[0m" else " INFO"

/-- A field in a log line. -/
def fieldText (colours : Bool) (name value : String) : String :=
  if colours then " \x1B[3m" ++ name ++ "\x1B[0m\x1B[2m=\x1B[0m" ++ value
  else " " ++ name ++ "=" ++ value

/-- The line of an event in the log, with colours or without. -/
def line (colours : Bool) : Event → String
  | .resolved setting source value =>
    let tier := match source with
      | .argument => "argument"
      | .environment => "environment"
      | .fallback => "default"
    levelText colours .debug ++ " resolved"
      ++ fieldText colours "setting" ("\"" ++ setting ++ "\"")
      ++ fieldText colours "source" tier ++ fieldText colours "value" value ++ "\n"
  | .flag name switch on =>
    levelText colours .debug ++ " resolved flag"
      ++ fieldText colours "flag" ("\"" ++ name ++ "\"")
      ++ fieldText colours "switch" (if switch then "true" else "false")
      ++ fieldText colours "set" (if on then "true" else "false") ++ "\n"
  | .wrote path settings =>
    levelText colours .info ++ " wrote build config"
      ++ fieldText colours "path" path
      ++ fieldText colours "settings" (toString settings) ++ "\n"

variable (colours : Bool)

theorem column_eq (l : Level) :
    (if colours then Text.Styled.coloured [l.column] else Text.Styled.raw [l.column]) =
      levelText colours l := by
  cases colours <;> cases l <;> rfl

theorem coloured_fieldSpans (name value : String) :
    Text.Styled.coloured (fieldSpans name value) = fieldText true name value := by
  have hstart : " " ++ Text.Style.sequence 3 = " \x1B[3m" := rfl
  have hsign : Text.Style.sequence 0 ++ (Text.Style.sequence 2 ++ ("=" ++ Text.Style.sequence 0)) =
      "\x1B[0m\x1B[2m=\x1B[0m" := rfl
  rw [fieldText, if_pos rfl, ← hstart, ← hsign]
  simp only [Text.Styled.coloured, fieldSpans, List.map_cons, List.map_nil, Text.Span.coloured,
    Text.Style.codes, String.join_cons, String.join_nil, String.append_assoc]
  simp [String.append_assoc]

theorem raw_fieldSpans (name value : String) :
    Text.Styled.raw (fieldSpans name value) = fieldText false name value := by
  simp [Text.Styled.raw, fieldSpans, fieldText, String.append_assoc]

theorem join_flatMap {α : Type} (f : α → List String) (l : List α) :
    String.join (l.flatMap f) = String.join (l.map fun a => String.join (f a)) := by
  induction l with
  | nil => rfl
  | cons a rest ih => rw [List.flatMap_cons, String.join_append, ih, List.map_cons, String.join_cons]

/-- A record is its level, its message and its fields. -/
theorem record_eq (e : Event) : e.record colours = levelText colours e.level ++ (" " ++ e.message)
    ++ String.join (e.fields.map fun f => fieldText colours f.1 f.2) ++ "\n" := by
  rw [← column_eq]
  cases colours with
  | true =>
    simp only [← coloured_fieldSpans]
    simp only [record, spans, Text.Styled.coloured, List.map_append, List.map_flatMap,
      String.join_append, join_flatMap]
    simp [Text.Span.coloured, Text.Style.codes, String.append_assoc]
  | false =>
    simp only [← raw_fieldSpans]
    simp only [record, spans, Text.Styled.raw, List.map_append, List.map_flatMap,
      String.join_append, join_flatMap]
    simp [String.append_assoc]

/-- **A record is the line of its event,** if its name is quoted as it stands. -/
theorem record_eq_line {e : Event}
    (hname : e.level = .debug → named e.name = "\"" ++ e.name ++ "\"") :
    e.record colours = e.line colours := by
  rw [record_eq]
  cases e with
  | resolved setting source value =>
    have hquoted : named setting = "\"" ++ setting ++ "\"" := hname rfl
    have hmessage : " " ++ message (.resolved setting source value) = " resolved" := rfl
    rw [hmessage, fields, hquoted]
    cases source <;> simp [line, level, Source.name, String.append_assoc]
  | flag name switch on =>
    have hquoted : named name = "\"" ++ name ++ "\"" := hname rfl
    have hmessage : " " ++ message (.flag name switch on) = " resolved flag" := rfl
    rw [hmessage, fields, hquoted]
    simp [line, level, truth, String.append_assoc]
  | wrote path settings =>
    have hmessage : " " ++ message (.wrote path settings) = " wrote build config" := rfl
    rw [hmessage, fields]
    simp [line, level, String.append_assoc]

end Event

namespace Command

open FileTree (Ends)
open Pathname (Location)

variable {s : Session} {words : List Bytes} {given : Given}

/-- A filter that variables set. -/
def Variables.Hold (vars : Variables) (f : PlainFilter) : Prop :=
  vars.value? Threshold.logVariable = f.text.map Utf8.encode

/-- Variables that differ in one name's value at most. -/
def Variables.AgreeBut (vars : Variables) (name : String) (vars' : Variables) : Prop :=
  ∀ other, '=' ∉ other.toList → other ≠ name → vars'.value? other = vars.value? other

theorem log_of_hold {vars : Variables} {f : PlainFilter} (h : vars.Hold f) (events : List Event) :
    log vars events =
      String.join ((f.admitted events).map (Event.record (logColours vars))) := by
  have hthreshold : threshold vars = Threshold.ofVariable f.text := by
    rw [threshold, h]
    cases f.text with
    | none => rfl
    | some text => rw [Option.map_some, Option.bind_some, Utf8.decode?_encode]
  have hadmits : (threshold vars).admits = fun e => f.verbosity.admits e.level :=
    funext fun e => by rw [hthreshold, PlainFilter.admits_ofVariable]
  rw [log, PlainFilter.admitted, hadmits]

theorem logColours_iff {vars : Variables} : logColours vars = true ↔
    ∀ text, vars.value? "NO_COLOR" = some (Utf8.encode text) → text = "" := by
  simp only [logColours, Option.all_eq_true, Option.bind_eq_some_iff, Utf8.decode?_eq_some_iff,
    decide_eq_true_eq]
  refine ⟨fun h text hset => h text ⟨_, hset, rfl⟩, ?_⟩
  rintro h text ⟨_, hset, rfl⟩
  exact h text hset

/-! ### What a run records -/

/-- What a run records: what it looks up, and the file once it is written. -/
def trace (s : Session) (words : List Bytes) : List Event :=
  match CommandLine.parse words with
  | .error _ => []
  | .ok given =>
    match s.tree.canonical s.cwd given.root with
    | .error _ => []
    | .ok root =>
      (requestAt s given root).events ++
        match (requestAt s given root).resolve with
        | .error _ => []
        | .ok c => (c.emit s.tree s.cwd).events

theorem trace_of_stop {stop : CommandLine.Stop} (h : CommandLine.parse words = .error stop) :
    trace s words = [] := by
  rw [trace, h]

theorem trace_of_lost (h : CommandLine.parse words = .ok given) {fault : Fault}
    (hroot : s.tree.canonical s.cwd given.root = .error fault) : trace s words = [] := by
  simp only [trace, h, hroot]

theorem trace_of_refused (h : CommandLine.parse words = .ok given) {root : Location}
    (hroot : s.tree.canonical s.cwd given.root = .ok root) {e : Error}
    (hresolve : (requestAt s given root).resolve = .error e) :
    trace s words = (requestAt s given root).events := by
  simp only [trace, h, hroot, hresolve, List.append_nil]

theorem trace_of_unwritten (h : CommandLine.parse words = .ok given) {root : Location}
    (hroot : s.tree.canonical s.cwd given.root = .ok root) {c : Configuration}
    (hresolve : (requestAt s given root).resolve = .ok c) {fault : Fault}
    (hends : Ends s.tree s.cwd c.outputPath (.error fault)) :
    trace s words = (requestAt s given root).events := by
  simp only [trace, h, hroot, hresolve, Configuration.emit_of_fails hends, List.append_nil]

theorem trace_of_written (h : CommandLine.parse words = .ok given) {root : Location}
    (hroot : s.tree.canonical s.cwd given.root = .ok root) {c : Configuration}
    (hresolve : (requestAt s given root).resolve = .ok c) {loc : Location}
    (hends : Ends s.tree s.cwd c.outputPath (.ok loc)) :
    trace s words = (requestAt s given root).events ++ [c.wroteEvent] := by
  simp only [trace, h, hroot, hresolve, Configuration.emit_of_opens hends]

/-! ### The filter and the rest -/

theorem logVariable_not_consulted : Threshold.logVariable ∉ Request.consulted := by decide +kernel

section
variable {vars' : Variables} (hsame : s.vars.AgreeBut Threshold.logVariable vars')
include hsame

theorem agreeOn_of_agreeBut :
    Environment.AgreeOn Request.consulted (.ofBytes s.vars) (.ofBytes vars') := fun name hname => by
  have hvalue : vars'.value? name = s.vars.value? name :=
    hsame name (Request.equals_not_mem_of_consulted name hname) fun heq =>
      logVariable_not_consulted (heq ▸ hname)
  show (if name = "" ∨ '\x00' ∈ name.toList then none else (vars'.value? name).map Utf8.lossy) = _
  rw [hvalue]
  rfl

theorem indistinct_of_agreeBut (given : Given) (root : Location) :
    (requestAt s given root).Indistinct (requestAt { s with vars := vars' } given root) :=
  Request.indistinct_under (r := requestAt s given root) (agreeOn_of_agreeBut hsame)

theorem colours_of_agreeBut : colours vars' = colours s.vars := by
  have hcolour : vars'.value? colourVariable = s.vars.value? colourVariable :=
    hsame _ (by decide) (by decide)
  have hplain : vars'.value? plainVariable = s.vars.value? plainVariable :=
    hsame _ (by decide) (by decide)
  rw [colours, colours, Variables.isFilled, Variables.isFilled, Variables.isFilled,
    Variables.isFilled, hcolour, hplain]

theorem logColours_of_agreeBut : logColours vars' = logColours s.vars := by
  have hplain : vars'.value? plainVariable = s.vars.value? plainVariable :=
    hsame _ (by decide) (by decide)
  rw [logColours, logColours, hplain]

end

/-- Nothing is complained about where a command line alone ends a run well. -/
theorem stderr_ofStop {colours : Bool} {stop : CommandLine.Stop} (h : (ofStop colours stop).code = 0) :
    (ofStop colours stop).stderr = "" := by
  cases stop with
  | help long => cases long <;> rfl
  | version => rfl
  | usage e => cases h

theorem log_nil (vars : Variables) : log vars [] = "" := rfl

/-- The outcome with the log in front of what else there is on standard error. -/
def Outcome.logging (o : Outcome) (text : String) : Outcome := { o with stderr := text ++ o.stderr }

theorem failed_eq (vars : Variables) (said : List String) (events : List Event) (f : Failure) :
    failed vars said events f = Outcome.logging ⟨1, lines said, errorLine f⟩ (log vars events) := by
  have hstderr := stderr_failed vars said events f
  rw [failed] at hstderr ⊢
  rw [Outcome.logging, ← hstderr]

theorem succeeded_eq (vars : Variables) (said : List String) (events : List Event) :
    succeeded vars said events = Outcome.logging ⟨0, lines said, ""⟩ (log vars events) := by
  rw [succeeded, Outcome.logging, String.append_empty]

/-- **Up to its log a run is the same under each filter.** Its log stands in front
of what else there is on standard error, which is nothing if the run ends well. -/
theorem run_up_to_log (s : Session) (words : List Bytes) :
    ∃ (o : Outcome) (tree : FileTree), (o.code = 0 → o.stderr = "") ∧
      ∀ vars', s.vars.AgreeBut Threshold.logVariable vars' →
        run { s with vars := vars' } words = (o.logging (log vars' (trace s words)), tree) := by
  cases hparse : CommandLine.parse words with
  | error stop =>
    refine ⟨ofStop (colours s.vars) stop, s.tree, stderr_ofStop, fun vars' hsame => ?_⟩
    rw [run_of_stop hparse, colours_of_agreeBut hsame, trace_of_stop hparse, log_nil,
      Outcome.logging, String.empty_append]
  | ok given =>
    cases hroot : s.tree.canonical s.cwd given.root with
    | error fault =>
      refine ⟨⟨1, lines [], errorLine (.repository given.root fault)⟩, s.tree, by simp,
        fun vars' _ => ?_⟩
      rw [run_of_lost (s := { s with vars := vars' }) hparse hroot, trace_of_lost hparse hroot,
        failed_eq]
    | ok root =>
      -- the request under other variables, which is the same as far as anybody can tell
      have hsame := fun vars' (h : s.vars.AgreeBut Threshold.logVariable vars') =>
        indistinct_of_agreeBut h given root
      cases hresolve : (requestAt s given root).resolve with
      | error e =>
        refine ⟨⟨1, lines Request.progress, errorLine (.resolution e)⟩, s.tree, by simp,
          fun vars' h => ?_⟩
        rw [run_of_refused (s := { s with vars := vars' }) hparse hroot
          ((hsame vars' h).result.trans hresolve), trace_of_refused hparse hroot hresolve, failed_eq,
          (hsame vars' h).events]
      | ok c =>
        obtain ⟨result, hends⟩ := FileTree.exists_ends s.tree s.cwd c.outputPath
        cases result with
        | error fault =>
          refine ⟨⟨1, lines (writingLines c), errorLine (.output (.unwritten c.outputPath fault))⟩,
            s.tree, by simp, fun vars' h => ?_⟩
          rw [run_of_unwritten (s := { s with vars := vars' }) hparse hroot
            ((hsame vars' h).result.trans hresolve) hends,
            trace_of_unwritten hparse hroot hresolve hends, failed_eq, (hsame vars' h).events]
        | ok loc =>
          refine ⟨⟨0, lines (writingLines c), ""⟩, s.tree.set loc (.file c.content), fun _ => rfl,
            fun vars' h => ?_⟩
          rw [run_of_written (s := { s with vars := vars' }) hparse hroot
            ((hsame vars' h).result.trans hresolve) hends,
            trace_of_written hparse hroot hresolve hends, succeeded_eq, (hsame vars' h).events]

/-! ### What reaches the log -/

/-- A run that finds its repository records the request's look-ups, and the file
if it ends well. -/
theorem trace_of_found (h : CommandLine.parse words = .ok given) {root : Location}
    (hroot : s.tree.canonical s.cwd given.root = .ok root) :
    ((run s words).1.code = 1 ∧ trace s words = (requestAt s given root).events) ∨
    ((run s words).1.code = 0 ∧ ∃ c, (requestAt s given root).resolve = .ok c ∧
      trace s words = (requestAt s given root).events ++ [c.wroteEvent]) := by
  cases hresolve : (requestAt s given root).resolve with
  | error e =>
    left
    rw [run_of_refused h hroot hresolve]
    exact ⟨rfl, trace_of_refused h hroot hresolve⟩
  | ok c =>
    obtain ⟨result, hends⟩ := FileTree.exists_ends s.tree s.cwd c.outputPath
    cases result with
    | error fault =>
      left
      rw [run_of_unwritten h hroot hresolve hends]
      exact ⟨rfl, trace_of_unwritten h hroot hresolve hends⟩
    | ok loc =>
      right
      rw [run_of_written h hroot hresolve hends]
      exact ⟨rfl, c, rfl, trace_of_written h hroot hresolve hends⟩

theorem lookups_of_failure (hcode : (run s words).1.code ≠ 0) :
    ∀ e ∈ trace s words, e.level = .debug := by
  cases hparse : CommandLine.parse words with
  | error stop => simp [trace_of_stop hparse]
  | ok given =>
    cases hroot : s.tree.canonical s.cwd given.root with
    | error fault => simp [trace_of_lost hparse hroot]
    | ok root =>
      rcases trace_of_found hparse hroot with ⟨-, htrace⟩ | ⟨hzero, -⟩
      · rw [htrace]
        exact fun e he => Request.level_of_event he
      · exact absurd hzero hcode

/-- At `info` a run logs the file that it writes, and no look-up. -/
theorem admitted_wrote {f : PlainFilter} (hf : f.verbosity = .info) (r : Request) (c : Configuration) :
    f.admitted (r.events ++ [c.wroteEvent]) = [c.wroteEvent] := by
  have hlookups : f.admitted r.events = [] :=
    PlainFilter.admitted_of_lookups hf fun _ he => Request.level_of_event he
  have hwrote : f.admitted [c.wroteEvent] = [c.wroteEvent] := by
    rw [PlainFilter.admitted, hf]
    rfl
  rw [PlainFilter.admitted_append, hlookups, hwrote, List.nil_append]

theorem agreeBut_refl (vars : Variables) (name : String) : vars.AgreeBut name vars :=
  fun _ _ _ => rfl

theorem named_of_trace {e : Event} (he : e ∈ trace s words) (hlevel : e.level = .debug) :
    Event.named e.name = "\"" ++ e.name ++ "\"" := by
  have hnames : (Inquiry.all.all fun i => i.name.toList.all Text.standsInQuotes) = true := by
    decide +kernel
  have hlookup : ∀ r : Request, e ∈ r.events → Event.named e.name = "\"" ++ e.name ++ "\"" :=
    fun r hr => by
      obtain ⟨i, -, hi⟩ := Request.exists_inquiry hr
      rw [(Request.of_report? hi).1]
      have hname := List.all_eq_true.mp hnames i i.mem_all
      exact Text.quote_of_stands (List.all_eq_true.mp hname)
  cases hparse : CommandLine.parse words with
  | error stop => rw [trace_of_stop hparse] at he; cases he
  | ok given =>
    cases hroot : s.tree.canonical s.cwd given.root with
    | error fault => rw [trace_of_lost hparse hroot] at he; cases he
    | ok root =>
      rcases trace_of_found hparse hroot with ⟨-, htrace⟩ | ⟨-, c, -, htrace⟩
      · exact hlookup _ (htrace ▸ he)
      · rw [htrace, List.mem_append, List.mem_singleton] at he
        rcases he with he | rfl
        · exact hlookup _ he
        · cases hlevel

theorem records_eq_lines (s : Session) (words : List Bytes) (f : PlainFilter) (colours : Bool) :
    (f.admitted (trace s words)).map (Event.record colours) =
      (f.admitted (trace s words)).map (Event.line colours) :=
  List.map_congr_left fun _ he =>
    Event.record_eq_line colours (named_of_trace (List.mem_of_mem_filter he))

/-- **The filter decides what the log shows, and nothing else.** Take any run, and
the same run with another value in `RUST_LOG`, both plain filters. They end with
the same code, say the same and leave the same tree. On standard error each has
the lines of those events that its filter lets through, in their order, and then
the same text as the other, none if the run ends well. The lines, without their time
stamps, are in colours unless `NO_COLOR` holds a text.

The events are those of the request's look-ups, up to where it is refused, and
after them, if the run ends well, that of the file with the number of settings.
At `debug` and `trace` all of them are let through, at `info` the file's only, and
else none. -/
theorem run_under_filters (s : Session) (words : List Bytes) {vars' : Variables}
    {f f' : PlainFilter} (hsame : s.vars.AgreeBut Threshold.logVariable vars')
    (hf : s.vars.Hold f) (hf' : vars'.Hold f') :
    (run { s with vars := vars' } words).1.code = (run s words).1.code ∧
    (run { s with vars := vars' } words).1.stdout = (run s words).1.stdout ∧
    (run { s with vars := vars' } words).2 = (run s words).2 ∧
    (∃ (colours : Bool) (text : String),
      (colours = true ↔
        ∀ forbidding, s.vars.value? "NO_COLOR" = some (Utf8.encode forbidding) → forbidding = "") ∧
      (run s words).1.stderr =
        String.join ((f.admitted (trace s words)).map (Event.line colours)) ++ text ∧
      (run { s with vars := vars' } words).1.stderr =
        String.join ((f'.admitted (trace s words)).map (Event.line colours)) ++ text ∧
      ((run s words).1.code = 0 → text = "")) ∧
    (f.verbosity = .debug ∨ f.verbosity = .trace → f.admitted (trace s words) = trace s words) ∧
    (f.verbosity = .off ∨ f.verbosity = .error ∨ f.verbosity = .warn →
      f.admitted (trace s words) = []) ∧
    (f.verbosity = .info → (run s words).1.code ≠ 0 → f.admitted (trace s words) = []) ∧
    ∀ given root, CommandLine.parse words = .ok given →
      s.tree.canonical s.cwd given.root = .ok root →
      ((run s words).1.code ≠ 0 → trace s words = (requestAt s given root).events) ∧
      ((run s words).1.code = 0 → ∃ c, (requestAt s given root).resolve = .ok c ∧
        trace s words = (requestAt s given root).events ++
          [.wrote (Utf8.lossy c.outputPath) c.settings.size] ∧
        (f.verbosity = .info → f.admitted (trace s words) =
          [.wrote (Utf8.lossy c.outputPath) c.settings.size])) := by
  obtain ⟨o, tree, hquiet, hrun⟩ := run_up_to_log s words
  have hown : run s words = (o.logging (String.join
      ((f.admitted (trace s words)).map (Event.line (logColours s.vars)))), tree) := by
    rw [← records_eq_lines, ← log_of_hold hf]
    exact hrun s.vars (agreeBut_refl _ _)
  have hother : run { s with vars := vars' } words = (o.logging (String.join
      ((f'.admitted (trace s words)).map (Event.line (logColours s.vars)))), tree) := by
    rw [← records_eq_lines, ← logColours_of_agreeBut hsame, ← log_of_hold hf']
    exact hrun vars' hsame
  refine ⟨by rw [hown, hother]; rfl, by rw [hown, hother]; rfl, by rw [hown, hother],
    ⟨logColours s.vars, o.stderr, logColours_iff, by rw [hown]; rfl, by rw [hother]; rfl, ?_⟩,
    PlainFilter.admitted_of_debug, PlainFilter.admitted_of_warn, fun hinfo hcode => ?_,
    fun given root h hroot => ?_⟩
  · intro hcode
    rw [hown] at hcode
    exact hquiet hcode
  · exact PlainFilter.admitted_of_lookups hinfo (lookups_of_failure hcode)
  · rcases trace_of_found h hroot with ⟨hcode, htrace⟩ | ⟨hcode, c, hresolve, htrace⟩
    · rw [hcode, htrace]
      exact ⟨fun _ => rfl, by simp⟩
    · rw [hcode, htrace]
      refine ⟨by simp, fun _ => ⟨c, hresolve, rfl, fun hinfo => ?_⟩⟩
      exact admitted_wrote hinfo _ c

/-- Variables that ask for what is done. -/
def doneVariables : Variables :=
  [(Utf8.encode Threshold.logVariable, Utf8.encode "INFO")]

/-- The word for this level in capitals. -/
def doneWord : LevelWord := ⟨"INFO", .info, by decide⟩

theorem agreeBut_doneVariables : Variables.AgreeBut doneVariables Threshold.logVariable [] := by
  intro other hother hne
  have hname : Utf8.encode Threshold.logVariable ≠ Utf8.encode other := fun h =>
    hne (Utf8.encode_inj.mp h).symm
  have hequals : '=' ∉ Threshold.logVariable.toList := by decide
  have hvalue : doneVariables.value? other =
      if Utf8.encode Threshold.logVariable = Utf8.encode other then some (Utf8.encode "INFO")
      else Variables.value? [] other :=
    Environment.Block.value?_ofPairs_concat _ (List.forall_mem_nil _)
      (mt Environment.equals_mem_encode.mp hequals) (mt Environment.equals_mem_encode.mp hother)
  rw [hvalue, if_neg hname]

/-- Without a filter nothing is logged, and at `info` the file that both runs write. -/
theorem run_under_doneVariables :
    (run ⟨linkedTree, [], []⟩ linkWords).1.code = 0 ∧
    (run ⟨linkedTree, [], []⟩ linkWords).1.stderr = "" ∧
    (run ⟨linkedTree, [], []⟩ linkWords).2 = (run ⟨linkedTree, [], doneVariables⟩ linkWords).2 ∧
    (run ⟨linkedTree, [], doneVariables⟩ linkWords).1.stderr =
      "\x1B[32m INFO\x1B[0m wrote build config \x1B[3mpath\x1B[0m\x1B[2m=\x1B[0m/r/makefile.config"
        ++ " \x1B[3msettings\x1B[0m\x1B[2m=\x1B[0m25\n" := by
  have hfilter : Variables.Hold doneVariables (.level doneWord) := by
    unfold Variables.Hold
    decide +kernel
  have hnone : Variables.Hold [] .unset := rfl
  have hadmitted : PlainFilter.admitted (.level doneWord)
      (trace ⟨linkedTree, [], doneVariables⟩ linkWords) = [.wrote "/r/makefile.config" 25] := by
    decide +kernel
  have hcolours : doneVariables.value? "NO_COLOR" = none := by decide +kernel
  have hcode : (run ⟨linkedTree, [], doneVariables⟩ linkWords).1.code = 0 := by decide +kernel
  obtain ⟨hsame, -, htree, ⟨colours, text, hplain, hdone, hunset, htext⟩, -⟩ :=
    run_under_filters ⟨linkedTree, [], doneVariables⟩ linkWords agreeBut_doneVariables hfilter
      hnone
  have hcoloured : colours = true := hplain.mpr fun _ h => by rw [hcolours] at h; cases h
  have hnothing : PlainFilter.admitted .unset (trace ⟨linkedTree, [], doneVariables⟩ linkWords) = [] :=
    PlainFilter.admitted_of_warn (.inr (.inr rfl))
  refine ⟨hsame.trans hcode, ?_, htree, ?_⟩
  · rw [hunset, hnothing, htext hcode]
    rfl
  · rw [hdone, hadmitted, htext hcode, hcoloured]
    rfl

end Command
end BuildSettings
