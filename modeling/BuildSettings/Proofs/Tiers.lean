/-
# What the look-ups answer after a history

An environment starts empty and lives through operations: variables are set, in
place or as the environment is built, and in between anything is asked. A variable
has the value that it was last set to (`get?_after`), and nothing else of the history
shows.

There are four ways to ask for a variable, and they agree. Whether it is there,
whether a flag of its name is on without a switch, and whether two tiers give it a
value is one question, which an empty value answers with yes. A look-up of three
tiers is one of two tiers where that finds something, its event included. Only where
it does not, the fallback is evaluated, and once (`run_counted`).

Key definitions: `Environment.Operation`, `Environment.Answer`, `Environment.Reply`,
`Environment.perform`, `Environment.after`, `History.lastValue`, `counted`.
Key theorems: `get?_perform`, `get?_after`, `set_comm`, `run_counted`,
`lookups_after`.
-/
import BuildSettings.Lookup

namespace BuildSettings.Environment

/-- Something done to an environment or asked of it. -/
inductive Operation where
  | set (name value : String)
  | having (name value : String)
  | get (name : String)
  | contains (name : String)
  | flag (name : String) (switch : Bool)
  | resolve (name : String) (explicit : Option String) (fallback : String)
  | resolveOptional (name : String) (explicit : Option String)
  deriving DecidableEq, Repr

/-- The variable that an operation sets, and to what. -/
def Operation.sets? : Operation → Option (String × String)
  | set name value => some (name, value)
  | having name value => some (name, value)
  | _ => none

/-- What comes back. -/
inductive Answer where
  | done
  | value (found : Option String)
  | truth (holds : Bool)
  /-- A value, and how often the fallback was evaluated for it. -/
  | resolved (r : Resolved) (evaluations : Nat)
  | found (r : Option Resolved)
  deriving DecidableEq, Repr

/-- What an operation leaves. -/
structure Reply where
  answer : Answer
  events : List Event
  env : Environment

/-- A fallback that counts how often it is evaluated. -/
def counted (fallback : String) : StateM Nat String := do
  modify (· + 1)
  return fallback

/-- What an operation answers and records, and the environment after it. -/
def perform (env : Environment) : Operation → Reply
  | .set name value => ⟨.done, [], env.set name value⟩
  | .having name value => ⟨.done, [], env.having name value⟩
  | .get name => ⟨.value (env.get? name), [], env⟩
  | .contains name => ⟨.truth (env.contains name), [], env⟩
  | .flag name switch =>
    ⟨.truth (flag name switch env), [flagEvent name switch env], env⟩
  | .resolve name explicit fallback =>
    let (r, evaluations) := Id.run ((resolveM name explicit env (counted fallback)).run 0)
    ⟨.resolved r evaluations, [r.event name], env⟩
  | .resolveOptional name explicit =>
    let r := resolveOptional name explicit env
    ⟨.found r, (r.map (·.event name)).toList, env⟩

/-- Operations in their order. -/
abbrev History := List Operation

/-- The value that a history last sets a variable to. -/
def History.lastValue (h : History) (name : String) : Option String :=
  ((h.filterMap Operation.sets?).reverse.find? (·.1 = name)).map (·.2)

/-- The environment after more operations. -/
def performAll (env : Environment) (h : History) : Environment :=
  h.foldl (fun env op => (env.perform op).env) env

/-- The environment after a history. -/
def after (h : History) : Environment := empty.performAll h

/-! ### The last value of a variable -/

theorem ext_get? {env env' : Environment} (h : ∀ name, env.get? name = env'.get? name) :
    env = env' := by
  cases env
  cases env'
  rw [mk.injEq]
  exact funext h

theorem History.lastValue_append (a b : History) (name : String) :
    lastValue (a ++ b) name = (b.lastValue name).or (a.lastValue name) := by
  unfold lastValue
  rw [List.filterMap_append, List.reverse_append, List.find?_append, Option.map_or]

theorem env_perform (env : Environment) (op : Operation) :
    (env.perform op).env = op.sets?.elim env fun p => env.set p.1 p.2 := by
  cases op <;> rfl

/-- An operation gives a variable a value if it sets it, and else leaves it the one it
had. -/
theorem get?_perform (env : Environment) (op : Operation) (name : String) :
    (env.perform op).env.get? name = (History.lastValue [op] name).or (env.get? name) := by
  have hlast : History.lastValue [op] name =
      (op.sets?.toList.find? (·.1 = name)).map (·.2) := by
    unfold History.lastValue
    cases hop : op.sets? <;> simp [hop]
  rw [env_perform, hlast]
  cases op.sets? with
  | none => rfl
  | some p =>
    show (env.set p.1 p.2).get? name = _
    rw [get?_set]
    by_cases hname : p.1 = name
    · simp [hname]
    · simp [hname, Ne.symm hname]

theorem get?_performAll (h : History) : ∀ (env : Environment) (name : String),
    (env.performAll h).get? name = (h.lastValue name).or (env.get? name) := by
  induction h with
  | nil => exact fun _ _ => rfl
  | cons op rest ih =>
    intro env name
    show ((env.perform op).env.performAll rest).get? name = _
    rw [ih, get?_perform, ← Option.or_assoc, ← History.lastValue_append]
    rfl

/-- **A variable has the value that it was last set to.** -/
theorem get?_after (h : History) (name : String) : (after h).get? name = h.lastValue name := by
  rw [after, get?_performAll]
  exact Option.or_none

theorem performAll_append (env : Environment) (a b : History) :
    env.performAll (a ++ b) = (env.performAll a).performAll b :=
  List.foldl_append

/-! ### Order -/

theorem set_comm (env : Environment) {n m : String} (h : n ≠ m) (v w : String) :
    (env.set n v).set m w = (env.set m w).set n v := by
  refine ext_get? fun name => ?_
  rw [get?_set, get?_set, get?_set, get?_set]
  by_cases hm : name = m
  · have hn : name ≠ n := fun hn => h (hn.symm.trans hm)
    rw [if_pos hm, if_neg hn, if_pos hm]
  · rw [if_neg hm, if_neg hm]

theorem perform_comm (env : Environment) {a b : Operation} {p q : String × String}
    (ha : a.sets? = some p) (hb : b.sets? = some q) (h : p.1 ≠ q.1) :
    ((env.perform a).env.perform b).env = ((env.perform b).env.perform a).env := by
  simp only [env_perform, ha, hb, Option.elim_some]
  exact set_comm env h p.2 q.2

/-! ### Look-ups -/

theorem isSome_resolveOptional (name : String) (explicit : Option String) (env : Environment) :
    (resolveOptional name explicit env).isSome = (explicit.isSome || env.contains name) := by
  rw [resolveOptional_eq, Option.isSome_or, Option.isSome_map, Option.isSome_map]
  rfl

/-- **The fallback is evaluated where two tiers have nothing,** once, and it is the
answer then. -/
theorem run_counted (name : String) (explicit : Option String) (env : Environment)
    (fallback : String) :
    Id.run ((resolveM name explicit env (counted fallback)).run 0) =
      match resolveOptional name explicit env with
      | some r => (r, 0)
      | none => (⟨fallback, .fallback⟩, 1) := by
  rw [resolveM_eq]
  cases resolveOptional name explicit env <;> rfl

/-- Where two tiers have a value, the third changes nothing about the look-up. -/
theorem perform_resolve_of_some {env : Environment} {name : String} {explicit : Option String}
    {r : Resolved} (h : resolveOptional name explicit env = some r)
    (fallback : String) :
    env.perform (.resolve name explicit fallback) = ⟨.resolved r 0, [r.event name], env⟩ ∧
    env.perform (.resolveOptional name explicit) = ⟨.found (some r), [r.event name], env⟩ := by
  have hrun := run_counted name explicit env fallback
  rw [h] at hrun
  refine ⟨?_, ?_⟩
  · simp only [perform, hrun]
  · rw [perform, h]
    rfl

/-- Where they have none, the third tells of the fallback, and the look-up of two tells
nothing. -/
theorem perform_resolve_of_none {env : Environment} {name : String} {explicit : Option String}
    (h : resolveOptional name explicit env = none) (fallback : String) :
    env.perform (.resolve name explicit fallback) =
      ⟨.resolved ⟨fallback, .fallback⟩ 1, [.resolved name .fallback fallback], env⟩ ∧
    env.perform (.resolveOptional name explicit) = ⟨.found none, [], env⟩ := by
  have hrun := run_counted name explicit env fallback
  rw [h] at hrun
  refine ⟨?_, ?_⟩
  · simp only [perform, hrun]
    rfl
  · rw [perform, h]
    rfl

/-- **What the look-ups answer after any history.** A variable has the value that it
was last set to, in whichever way. Operations on different variables commute, and
questions leave no trace. A variable is there, its flag is on and two tiers find it
exactly if it has a value, be it empty; a switch turns its flag on in any case. Three
tiers answer as two do, with the same event and without the fallback; if two have
nothing, with the fallback, evaluated once. -/
theorem lookups_after (h : History) :
    (∀ name, (after h).get? name = h.lastValue name) ∧
    (∀ name value, (after h).perform (.having name value) = (after h).perform (.set name value)) ∧
    (∀ a b p q, a.sets? = some p → b.sets? = some q → p.1 ≠ q.1 → ∀ later : History,
      after (h ++ a :: b :: later) = after (h ++ b :: a :: later)) ∧
    (∀ op, op.sets? = none → ∀ later : History, after (h ++ op :: later) = after (h ++ later)) ∧
    (∀ name,
      ((after h).contains name = true ↔ ((after h).get? name).isSome = true) ∧
      (flag name false (after h) = true ↔ ((after h).get? name).isSome = true) ∧
      ((resolveOptional name none (after h)).isSome = true ↔
        ((after h).get? name).isSome = true) ∧
      flag name true (after h) = true) ∧
    (∀ name explicit fallback, resolve name explicit (after h) fallback =
      (resolveOptional name explicit (after h)).getD ⟨fallback, .fallback⟩) ∧
    (∀ name explicit fallback r, resolveOptional name explicit (after h) = some r →
      (after h).perform (.resolve name explicit fallback) =
        ⟨.resolved r 0, ((after h).perform (.resolveOptional name explicit)).events, after h⟩ ∧
      ((after h).perform (.resolveOptional name explicit)).events = [r.event name]) ∧
    (∀ name explicit fallback, resolveOptional name explicit (after h) = none →
      (after h).perform (.resolve name explicit fallback) =
        ⟨.resolved ⟨fallback, .fallback⟩ 1, [.resolved name .fallback fallback], after h⟩ ∧
      ((after h).perform (.resolveOptional name explicit)).events = []) := by
  refine ⟨get?_after h, fun _ _ => rfl, fun a b p q ha hb hne later => ?_, fun op hop later => ?_,
    fun name => ⟨Iff.rfl, ?_, ?_, rfl⟩, fun name explicit fallback => resolve_eq .., ?_, ?_⟩
  · have hstep := perform_comm (after h) ha hb hne
    rw [after, performAll_append, after, performAll_append]
    exact congrArg (performAll · later) hstep
  · rw [after, performAll_append, after, performAll_append]
    show ((after h).perform op).env.performAll later = _
    rw [env_perform, hop]
    rfl
  · rw [flag_eq, Bool.false_or]
    rfl
  · rw [isSome_resolveOptional, Option.isSome_none, Bool.false_or]
    rfl
  · intro name explicit fallback r hr
    obtain ⟨hthree, htwo⟩ := perform_resolve_of_some hr fallback
    rw [hthree, htwo]
    exact ⟨rfl, rfl⟩
  · intro name explicit fallback hnone
    obtain ⟨hthree, htwo⟩ := perform_resolve_of_none hnone fallback
    rw [hthree, htwo]
    exact ⟨rfl, rfl⟩

end BuildSettings.Environment
