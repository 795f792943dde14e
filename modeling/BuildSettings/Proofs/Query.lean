/-
# What a request can ask for

A request asks for values and for flags. A value has up to three tiers: what is given
for it, the variable of its name, and what stands for it where neither is there
(`argument?`, `fallback?`). `answer?` is the first of these, with its tier, and is
what a look-up gives (`answer?_of_fallback`, `answer?_of_optional`). `report?` is the
event that it leaves.

All that can be asked for has an order, in which no name comes twice (`all`).
`attempts` are what a request tries to find out. For each it looks up one variable,
except where the answer is given: by an argument, by a switch, or by a disabled
interface (`lookup`). `inquiries` are what it asks, the tools left out that nobody
gives.

Key definitions: `Query`, `Flag`, `Inquiry`, `Request.answer?`, `Request.report?`,
`Request.lookup`, `Request.attempts`, `Request.inquiries`.
Key theorems: `answer?_of_fallback`, `answer?_of_optional`, `answer?_eq_some_iff`,
`report?_tool`.
-/
import BuildSettings.Proofs.Values

namespace BuildSettings

/-- Something that a request looks up a value for. -/
inductive Query where
  | parameter (p : Parameter)
  /-- The definitions that the environment asks for. -/
  | defines
  /-- Whether a language's interface is built. -/
  | create (l : Language)
  /-- What stands in front of each recipe. -/
  | echo
  /-- The name of the file to write. -/
  | fileName
  deriving DecidableEq, Repr

/-- The name that a value is looked up for. -/
def Query.name : Query → String
  | parameter p => p.setting
  | defines => "DEFINES"
  | create l => l.createSetting
  | echo => "VERBOSE"
  | fileName => "MAKEFILE_CONFIG_NAME"

/-- A switch that a variable can stand for. -/
inductive Flag where
  | removeSim
  | withoutSwig
  | without (l : Language)
  deriving DecidableEq, Repr

namespace Flag

/-- The variable that stands for a switch by being set. -/
def name : Flag → String
  | removeSim => "REMOVE_SIM"
  | withoutSwig => "WITHOUT_SWIG"
  | without l => l.disablingVariable

/-- The switch itself. -/
def switch : Flag → Switch
  | removeSim => .removeSim
  | withoutSwig => .withoutSwig
  | without l => l.disablingSwitch

end Flag

/-- Something that a request asks for. -/
inductive Inquiry where
  | value (q : Query)
  | flag (f : Flag)
  deriving DecidableEq, Repr

namespace Inquiry

/-- The name that is asked for. -/
def name : Inquiry → String
  | value q => q.name
  | flag f => f.name

/-- A parameter's value is asked for. -/
def ofParameter (p : Parameter) : Inquiry := .value (.parameter p)

/-- What every request asks for, before its target is checked. -/
def first : List Inquiry :=
  [.host, .target, .outputRoot, .cc, .ld, .ar, .sysroot].map ofParameter

/-- What is asked for a language, unless all are disabled. -/
def ofLanguage (l : Language) : List Inquiry := [.flag (.without l), .value (.create l)]

/-- All that a request can ask for, in its order. -/
def all : List Inquiry :=
  first ++ ([.value .defines, .flag .removeSim, .flag .withoutSwig]
    ++ Language.all.flatMap ofLanguage ++ Parameter.tools.map ofParameter
    ++ [.value .echo] ++ [ofParameter .installPath, .value .fileName])

/-- No name is asked for twice. -/
theorem nodup_names : (all.map name).Nodup := by decide +kernel

theorem mem_all (i : Inquiry) : i ∈ all := by
  cases i with
  | value q =>
    cases q with
    | parameter p => cases p <;> decide
    | create l => cases l <;> decide
    | defines | echo | fileName => decide
  | flag f =>
    cases f with
    | without l => cases l <;> decide
    | removeSim | withoutSwig => decide

theorem name_inj {i j : Inquiry} (h : i.name = j.name) : i = j :=
  List.inj_on_of_nodup_map nodup_names i.mem_all j.mem_all h

end Inquiry

theorem Query.name_inj {q q' : Query} (h : q.name = q'.name) : q = q' :=
  Inquiry.value.inj (Inquiry.name_inj h)

namespace Request

variable (r : Request)

/-! ### Reports -/

/-- What is given for a query. A disabled interface is as good as given. -/
def argument? : Query → Option String
  | .parameter p => r.given.value p
  | .create l => if r.disabled l then some "no" else none
  | _ => none

/-- What a query is answered with where neither an argument nor a variable does. -/
def fallback? : Query → Option String
  | .parameter p => r.standIn p
  | .defines => some ""
  | .create _ => some "yes"
  | .echo => some r.fallbacks.verbose
  | .fileName => some r.fallbacks.fileName

/-- The answer to a query, with the tier that it comes from. -/
def answer? (q : Query) : Option Resolved :=
  match r.argument? q, r.env.get? q.name, r.fallback? q with
  | some value, _, _ => some ⟨value, .argument⟩
  | none, some value, _ => some ⟨value, .environment⟩
  | none, none, some value => some ⟨value, .fallback⟩
  | none, none, none => none

/-- The event that an inquiry leaves. -/
def report? : Inquiry → Option Event
  | .value q => (r.answer? q).map fun a => .resolved q.name a.source a.value
  | .flag f => some (.flag f.name (r.given.switch f.switch)
      (r.given.switch f.switch || r.env.contains f.name))

/-- The variable that an inquiry looks up, unless its answer is given. -/
def lookup : Inquiry → List String
  | .value q => if (r.argument? q).isSome then [] else [q.name]
  | .flag f => if r.given.switch f.switch then [] else [f.name]

/-- Whether the target has compile options. -/
def accepted : Bool := familyName r.askedTarget ∈ knownFamilies

/-- Whether a request tries to find something out. Every tool is tried, given or
not. -/
def tries : Inquiry → Bool
  | .value (.parameter p) => r.accepted || Inquiry.ofParameter p ∈ Inquiry.first
  | .value .echo => r.accepted && !r.given.switch .buildVerbose
  | .flag (.without _) => r.accepted && !r.withoutSwig
  | _ => r.accepted

/-- What a request tries to find out, in its order. -/
def attempts : List Inquiry := Inquiry.all.filter r.tries

/-- What is asked for a language. -/
def languageInquiries (l : Language) : List Inquiry :=
  (if r.given.switch .withoutSwig || r.env.contains "WITHOUT_SWIG" then [] else [.flag (.without l)])
  ++ [.value (.create l)]

/-- A tool is asked for that is given or set. -/
def toolInquiries (p : Parameter) : List Inquiry :=
  if (r.given.value p).isSome || r.env.contains p.setting then [.ofParameter p] else []

/-- What is asked once the target is accepted. -/
def furtherInquiries : List Inquiry :=
  [.value .defines, .flag .removeSim, .flag .withoutSwig]
  ++ Language.all.flatMap r.languageInquiries ++ Parameter.tools.flatMap r.toolInquiries
  ++ (if r.given.switch .buildVerbose then [] else [.value .echo])
  ++ [.ofParameter .installPath, .value .fileName]

/-- What a request asks, in its order. -/
def inquiries : List Inquiry :=
  Inquiry.first ++ if familyName r.askedTarget ∈ knownFamilies then r.furtherInquiries else []

variable {r}

/-! ### Answers are look-ups -/

/-- A look-up of three tiers gives the answer. -/
theorem answer?_of_fallback {q : Query} {fallback : String} (h : r.fallback? q = some fallback) :
    r.answer? q = some (BuildSettings.resolve q.name (r.argument? q) r.env fallback) := by
  rw [answer?, h, resolve_eq, resolveOptional_eq]
  cases r.argument? q with
  | some value => rfl
  | none => cases r.env.get? q.name <;> rfl

theorem answer?_of_optional {q : Query} (h : r.fallback? q = none) :
    r.answer? q = resolveOptional q.name (r.argument? q) r.env := by
  rw [answer?, h, resolveOptional_eq]
  cases r.argument? q with
  | some value => rfl
  | none => cases r.env.get? q.name <;> rfl

theorem report?_value {q : Query} {a : Resolved} (h : r.answer? q = some a) :
    r.report? (.value q) = some (a.event q.name) := by
  rw [report?, h]
  rfl

theorem standIn_of_tool {p : Parameter} (h : p ∈ Parameter.tools) : r.standIn p = none := by
  simp only [Parameter.tools, List.mem_cons, List.not_mem_nil, or_false] at h
  rcases h with rfl | rfl | rfl | rfl | rfl | rfl | rfl | rfl | rfl | rfl <;> rfl

/-- A tool has no third tier, and its report says what somebody gives. -/
theorem report?_tool {p : Parameter} (h : p ∈ Parameter.tools) :
    r.report? (.ofParameter p) = (r.tool p).map (·.event p.setting) := by
  have hanswer : r.answer? (.parameter p) = r.tool p := answer?_of_optional (standIn_of_tool h)
  rw [Inquiry.ofParameter, report?, hanswer]
  rfl

theorem answer?_eq_some_iff {q : Query} {value : String} {source : Source} :
    r.answer? q = some ⟨value, source⟩ ↔
      match source with
      | .argument => r.argument? q = some value
      | .environment => r.argument? q = none ∧ r.env.get? q.name = some value
      | .fallback => r.argument? q = none ∧ r.env.get? q.name = none ∧
          r.fallback? q = some value := by
  unfold answer?
  cases r.argument? q with
  | some given => cases source <;> simp
  | none =>
    cases r.env.get? q.name with
    | some found => cases source <;> simp
    | none => cases r.fallback? q <;> cases source <;> simp

theorem answer?_value (q : Query) :
    (r.answer? q).map (·.value) = ((r.argument? q).or (r.env.get? q.name)).or (r.fallback? q) := by
  unfold answer?
  cases r.argument? q with
  | some given => rfl
  | none =>
    cases r.env.get? q.name with
    | some found => rfl
    | none => cases r.fallback? q <;> rfl

theorem value_of_answer? {q : Query} {value : String} {source : Source}
    (h : r.answer? q = some ⟨value, source⟩) :
    ((r.argument? q).or (r.env.get? q.name)).or (r.fallback? q) = some value := by
  rw [← answer?_value, h]
  rfl

end Request
end BuildSettings
