/-
# Complaints about a command line

The first thing wrong with a command line is the one that is reported. A message
names an option as the help text does, with the word for its value. A word that
is no option, and a value that is not wanted, are shown as they were typed, as
far as they are text.

Key definitions: `UsageError`, `UsageError.message`, `UsageError.text`.
-/
import BuildSettings.CommandLine.Opt
import BuildSettings.Text.Styled

namespace BuildSettings.CommandLine

open Text (Styled)

/-- What is wrong with a command line. -/
inductive UsageError where
  /-- A word that no option accounts for. -/
  | unexpected (word : String)
  /-- The option has no value, or an empty one where none will do. -/
  | valueMissing (o : Opt)
  /-- The option is given twice. -/
  | repeated (o : Opt)
  /-- The option takes no value. -/
  | valueUnneeded (o : Opt) (value : String)
  /-- A value that is not UTF-8. -/
  | notUtf8
  /-- Options that have to be given and are not. -/
  | required (os : List Opt)
  deriving DecidableEq, Repr

/-- The wording of a complaint. -/
def UsageError.message : UsageError → Styled
  | .unexpected word => [⟨.body, "unexpected argument '"⟩, ⟨.unfit, word⟩, ⟨.body, "' found"⟩]
  | .valueMissing o =>
    [⟨.body, "a value is required for '"⟩, ⟨.unfit, o.shown⟩, ⟨.body, "' but none was supplied"⟩]
  | .repeated o =>
    [⟨.body, "the argument '"⟩, ⟨.unfit, o.shown⟩, ⟨.body, "' cannot be used multiple times"⟩]
  | .valueUnneeded o value =>
    [⟨.body, "unexpected value '"⟩, ⟨.unfit, value⟩, ⟨.body, "' for '"⟩, ⟨.literal, o.shown⟩,
      ⟨.body, "' found; no more were expected"⟩]
  | .notUtf8 => Styled.body "invalid UTF-8 was detected in one or more arguments"
  | .required os =>
    Styled.body "the following required arguments were not provided:"
      ++ os.flatMap fun o => [⟨.body, "\n  "⟩, ⟨.fit, o.shown⟩]

/-- The complaint as it is printed. -/
def UsageError.text (e : UsageError) : Styled :=
  [⟨.alarm, "error:"⟩, ⟨.body, " "⟩] ++ e.message
    ++ [⟨.body, "\n\nFor more information, try '"⟩, ⟨.literal, "--help"⟩, ⟨.body, "'.\n"⟩]

end BuildSettings.CommandLine
