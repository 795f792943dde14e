/-
# Faults of the file system

Why the system refuses a path, with the text it gives for each. A fault that
comes from elsewhere carries its own text.

Key definitions: `Fault`, `Fault.text`.
-/
namespace BuildSettings

/-- A reason why the system does not do what it is asked. -/
inductive Fault where
  | notFound
  | notADirectory
  | isADirectory
  | nameTooLong
  | linkLoop
  /-- The path holds a NUL, which no path can. -/
  | nulInPath
  | other (text : String)
  deriving DecidableEq, Repr

/-- The system's words for a fault, with its number where it has one. -/
def Fault.text : Fault → String
  | .notFound => "No such file or directory (os error 2)"
  | .notADirectory => "Not a directory (os error 20)"
  | .isADirectory => "Is a directory (os error 21)"
  | .nameTooLong => "File name too long (os error 36)"
  | .linkLoop => "Too many levels of symbolic links (os error 40)"
  | .nulInPath => "file name contained an unexpected NUL byte"
  | .other text => text

end BuildSettings
