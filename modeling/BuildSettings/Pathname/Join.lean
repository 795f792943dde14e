/-
# Joining paths

A path is a list over some alphabet, characters or bytes, in which one letter
separates. `join` neither looks at the disk nor tidies the text: a second path
that starts with the separator stands alone, otherwise one separator is put
between the two unless the first is empty or ends in one. An empty second path
therefore leaves a trailing separator.

Key definitions: `join`, `joinBytes`, `joinText`.
Key theorems: `join_of_absolute`, `join_of_relative`.
-/
import BuildSettings.Text.Utf8

namespace BuildSettings.Pathname

/-- Two paths over one alphabet, joined at the separator `sep`. -/
def join {α : Type} [DecidableEq α] (sep : α) (base segment : List α) : List α :=
  if segment.head? = some sep then segment
  else if base = [] ∨ base.getLast? = some sep then base ++ segment
  else base ++ sep :: segment

/-- A path that starts with the separator stands alone. -/
theorem join_of_absolute {α : Type} [DecidableEq α] {sep : α} {segment : List α}
    (h : segment.head? = some sep) (base : List α) : join sep base segment = segment :=
  if_pos h

/-- Any other path follows the first, after at most one separator. -/
theorem join_of_relative {α : Type} [DecidableEq α] {sep : α} {segment : List α}
    (h : segment.head? ≠ some sep) (base : List α) :
    join sep base segment =
      base ++ if base = [] ∨ base.getLast? = some sep then segment else sep :: segment := by
  unfold join
  rw [if_neg h]
  split <;> rfl

/-- The byte that separates the names of a path. -/
def slash : UInt8 := 0x2F

/-- Two paths as bytes. -/
def joinBytes (base segment : Bytes) : Bytes :=
  join slash base segment

/-- Two paths as text. -/
def joinText (base segment : String) : String :=
  String.ofList (join '/' base.toList segment.toList)

end BuildSettings.Pathname
