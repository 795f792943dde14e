/-
# Three tiers

A setting takes the value given for it; failing that, the environment's under
the setting's own name; failing that, a fallback. `resolveWith` has the fallback
as an action, so that nothing of it happens where an earlier tier answers.
`resolveOptionalWith` stops after two tiers. A flag is on when its switch is given
or a variable of its name is set to anything (`flagWith`).

The environment is an action as well: a look-up asks it, and may find that it need
not. `resolve`, `resolveOptional` and `flag` ask an environment for its answers.
One that notes what it is asked shows which variables a look-up depends on
(`Environment.asked`).

Key definitions: `Resolved`, `resolveWith`, `resolveOptionalWith`, `flagWith`,
`resolveM`, `resolve`, `resolveOptional`, `flag`, `Environment.asked`.
Key theorems: `resolveM_eq`, `asked_resolveWith`, `asked_flagWith`.
-/
import BuildSettings.Environment
import BuildSettings.Event

namespace BuildSettings

/-- A value and the tier it comes from. -/
structure Resolved where
  value : String
  source : Source
  deriving DecidableEq, Repr

/-- The event of a resolved name. -/
def Resolved.event (r : Resolved) (name : String) : Event :=
  .resolved name r.source r.value

section
variable {m : Type → Type} [Monad m] (get : String → m (Option String)) (name : String)

/-- The value of a name from three tiers. The environment and the fallback are
actions. -/
def resolveWith (explicit : Option String) (fallback : m String) : m Resolved :=
  match explicit with
  | some value => pure ⟨value, .argument⟩
  | none => do
    match ← get name with
    | some value => return ⟨value, .environment⟩
    | none => return ⟨← fallback, .fallback⟩

/-- The value of a name from the first two tiers. -/
def resolveOptionalWith (explicit : Option String) : m (Option Resolved) :=
  match explicit with
  | some value => return some ⟨value, .argument⟩
  | none => return (← get name).map (⟨·, .environment⟩)

/-- Whether a flag is on. Where its switch is given nothing is asked. -/
def flagWith (switch : Bool) : m Bool :=
  if switch then return true else return (← get name).isSome

end

/-! ## What an environment answers -/

/-- The value of a name from three tiers, the last of which is an action. -/
def resolveM {m : Type → Type} [Monad m] (name : String) (explicit : Option String)
    (env : Environment) (fallback : m String) : m Resolved :=
  resolveWith (fun n => pure (env.get? n)) name explicit fallback

/-- The value of a name from three tiers. -/
def resolve (name : String) (explicit : Option String) (env : Environment)
    (fallback : String) : Resolved :=
  Id.run (resolveM name explicit env (pure fallback))

/-- The value of a name from the first two tiers. -/
def resolveOptional (name : String) (explicit : Option String) (env : Environment) :
    Option Resolved :=
  Id.run (resolveOptionalWith (fun n => pure (env.get? n)) name explicit)

/-- Whether a flag is on. -/
def flag (name : String) (switch : Bool) (env : Environment) : Bool :=
  Id.run (flagWith (fun n => pure (env.get? n)) name switch)

/-- The event of a flag that is asked for. -/
def flagEvent (name : String) (switch : Bool) (env : Environment) : Event :=
  .flag name switch (flag name switch env)

section
variable (name : String) (explicit : Option String) (env : Environment)

theorem resolveOptional_eq : resolveOptional name explicit env =
    (explicit.map (⟨·, .argument⟩)).or ((env.get? name).map (⟨·, .environment⟩)) := by
  cases explicit <;> rfl

theorem flag_eq (switch : Bool) : flag name switch env = (switch || env.contains name) := by
  cases switch <;> rfl

/-- The three tiers are the first two, and the action where these have nothing. -/
theorem resolveM_eq {m : Type → Type} [Monad m] [LawfulMonad m] (fallback : m String) :
    resolveM name explicit env fallback =
      match resolveOptional name explicit env with
      | some resolved => pure resolved
      | none => do return ⟨← fallback, .fallback⟩ := by
  rw [resolveOptional_eq]
  cases explicit with
  | some value => rfl
  | none =>
    unfold resolveM resolveWith
    rw [pure_bind]
    cases env.get? name <;> rfl

theorem resolve_eq (fallback : String) : resolve name explicit env fallback =
    (resolveOptional name explicit env).getD ⟨fallback, .fallback⟩ := by
  rw [resolve, resolveM_eq]
  cases resolveOptional name explicit env <;> rfl

end

/-! ## What an environment is asked -/

namespace Environment

/-- Answers, and notes the name that is asked for. -/
def noting (env : Environment) (name : String) : StateM (List String) (Option String) := do
  modify (· ++ [name])
  return env.get? name

/-- The variables that a look-up asks an environment for. -/
def asked (env : Environment) {α : Type}
    (lookUp : (String → StateM (List String) (Option String)) → StateM (List String) α) :
    List String :=
  ((lookUp env.noting).run []).2

variable (env : Environment) (name : String) (explicit : Option String)

/-- A look-up asks for its own name, unless its answer is given. -/
theorem asked_resolveWith (fallback : String) :
    env.asked (resolveWith · name explicit (pure fallback)) =
      if explicit.isSome then [] else [name] := by
  cases explicit with
  | some value => rfl
  | none =>
    simp only [asked, resolveWith, noting]
    cases env.get? name <;> rfl

theorem asked_resolveOptionalWith :
    env.asked (resolveOptionalWith · name explicit) = if explicit.isSome then [] else [name] := by
  cases explicit <;> rfl

theorem asked_flagWith (switch : Bool) :
    env.asked (flagWith · name switch) = if switch then [] else [name] := by
  cases switch <;> rfl

end Environment
end BuildSettings
