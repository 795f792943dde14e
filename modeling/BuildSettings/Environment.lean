/-
# Environment variables

An `Environment` gives a name's value, if the name is set. A variable that is
set to the empty text is set. Environments grow by `set`, where the last value
of a name counts. `ofBytes` asks what a process is given: a name is found by its
UTF-8 form, a value read lossily.

Key definitions: `Environment`, `Environment.set`, `Environment.ofPairs`,
`Environment.ofBytes`.
-/
import BuildSettings.Environment.Block

namespace BuildSettings

/-- What each variable is set to. -/
structure Environment where
  get? : String → Option String

namespace Environment

/-- No variable is set. -/
def empty : Environment := ⟨fun _ => none⟩

/-- A variable set, in place of what it was. -/
def set (env : Environment) (name value : String) : Environment :=
  ⟨fun n => if n = name then some value else env.get? n⟩

/-- The last value of a name counts, and no other name changes. -/
theorem get?_set (env : Environment) (name value n : String) :
    (env.set name value).get? n = if n = name then some value else env.get? n :=
  rfl

/-- An environment with one variable more, for building it in one expression. -/
def having (env : Environment) (name value : String) : Environment :=
  env.set name value

/-- Whether a variable is set, to whatever value. -/
def contains (env : Environment) (name : String) : Bool :=
  (env.get? name).isSome

/-- Variables set one after another. -/
def setAll (env : Environment) (pairs : List (String × String)) : Environment :=
  pairs.foldl (fun env p => env.set p.1 p.2) env

/-- The environment in which only these variables are set, one after another. -/
def ofPairs (pairs : List (String × String)) : Environment :=
  empty.setAll pairs

/-- The environment of a process. No variable's name is empty or holds NUL. -/
def ofBytes (pairs : List (Bytes × Bytes)) : Environment :=
  let block := Block.ofPairs pairs
  ⟨fun name =>
    if name = "" ∨ '\x00' ∈ name.toList then none
    else (block.value? (Utf8.encode name)).map Utf8.lossy⟩

end Environment
end BuildSettings
