/-
# The help text

The short form has an option and its help on one line, in two columns; the long
form gives each two lines and a blank one. Both list what may be given first and
what has to be given after it, and set off titles and what is typed as it stands.

Key definitions: `shortHelp`, `longHelp`, `versionLine`.
-/
import BuildSettings.CommandLine.Opt
import BuildSettings.Text.Styled

namespace BuildSettings.CommandLine

open Text (Styled)

/-- The name of the program. -/
def programName : String := "pdbg-config"

/-- What the program answers when asked for its version. -/
def versionLine : String := programName ++ " 0.1.0\n"

/-- What the program does, in a line. -/
def about : String := "Create all the variables necessary to build pdbg"

/-- What the program does, with where its values come from. -/
def longAbout : String :=
  about ++ ".\n\n"
    ++ "Values are determined in 3 ways:\n"
    ++ "  1) Command line options to this tool\n"
    ++ "  2) Environment variables defined when the tool is invoked\n"
    ++ "  3) Looking in default locations (i.e. /usr/bin/g++)\n\n"
    ++ "For most users building using the default packages of their distro,\n"
    ++ "no options beyond the two repos should be required."

/-- An option with the word for its value, as the help sets it off. -/
def Opt.styled (o : Opt) : Styled := [⟨.literal, o.flag⟩, ⟨.body, o.operand⟩]

/-- How the program is called. -/
def usageLine : Styled :=
  [⟨.heading, "Usage:"⟩, ⟨.body, " "⟩, ⟨.literal, programName⟩, ⟨.body, " [OPTIONS]"⟩]
    ++ Opt.required.flatMap (fun o => Styled.body " " ++ o.styled) ++ Styled.body "\n"

namespace Opt

/-- What an option is for. -/
def purpose : Opt → String
  | ecmdRepo => "The location of the eCMD repo to build against"
  | pdbgRepo => "The location of the pdbg repo to build against"
  | parameter .installPath => "Path to install to"
  | parameter .host => "The host architecture"
  | parameter .target => "The target architecture"
  | parameter .cc => "The compiler to use"
  | parameter .ld => "The linker to use"
  | parameter .ar => "The archive creator to use"
  | parameter .sysroot => "The system root to use. Default is /"
  | parameter .swig => "The swig executable to use"
  | parameter .perl => "The perl executable to use"
  | parameter .perlInc => "The perl include path to use"
  | parameter .python => "The python executable to use"
  | parameter .pythonInc => "The python include path to use"
  | parameter .python3 => "The python3 executable to use"
  | parameter .python3Inc => "The python3 include path to use"
  | parameter .doxygen => "The doxygen executable to use"
  | parameter .outputRoot => "The location to place build output"
  | parameter .extensions => "Filter down the list of extensions to build"
  | parameter .ecmdRepos => "Other ecmd extension/plugin repos to include in build"
  | switch .removeSim => "Enable REMOVE_SIM in build"
  | switch .withoutSwig => "Disable all swig actions, sets every CREATE_*API to no"
  | switch .withoutPerl => "Disable perl module build"
  | switch .withoutPython => "Disable python module build"
  | switch .withoutPython3 => "Disable python3 module build"
  | switch .buildVerbose =>
    "Enable verbose messaging during builds, displays compiler calls etc."
  | help => "Print help"
  | version => "Print version"

/-- The variables that can stand for an option. -/
def standIns : Opt → List String
  | parameter p => [p.setting]
  | switch .removeSim => ["REMOVE_SIM"]
  | switch .withoutSwig => ["WITHOUT_SWIG"]
  | switch .withoutPerl => ["CREATE_PERLAPI", "WITHOUT_PERL"]
  | switch .withoutPython => ["CREATE_PYAPI", "WITHOUT_PYTHON"]
  | switch .withoutPython3 => ["CREATE_PY3API", "WITHOUT_PYTHON3"]
  | switch .buildVerbose => ["VERBOSE"]
  | _ => []

/-- The help of an option: its purpose and its variables. The short form points
to the long one, and back. -/
def describe (long : Bool) (o : Opt) : String :=
  o.purpose ++
    match o with
    | help => if long then " (see a summary with '-h')" else " (see more with '--help')"
    | _ =>
      if o.standIns = [] then "" else " [env: " ++ ", ".intercalate o.standIns ++ "]"

/-- An option with its letter, if it has one, and the word for its value. -/
def heading (o : Opt) : Styled :=
  (match o.letter with
    | some c => [⟨.literal, "-" ++ c.toString⟩, ⟨.body, ", "⟩]
    | none => Styled.body "    ") ++ o.styled

/-- How wide the heading of an option is. -/
def width (o : Opt) : Nat := o.heading.plain.length

/-- An option in the short help, its first column so many characters wide. -/
def shortEntry (column : Nat) (o : Opt) : Styled :=
  Styled.body "  " ++ o.heading
    ++ Styled.body (String.ofList (List.replicate (column - o.width) ' ') ++ "  "
      ++ o.describe false ++ "\n")

/-- An option in the long help. -/
def longEntry (o : Opt) : Styled :=
  Styled.body "  " ++ o.heading ++ Styled.body ("\n          " ++ o.describe true ++ "\n")

end Opt

/-- The title of a part of the help. -/
def titled (title : String) : Styled := [⟨.heading, title ++ ":"⟩, ⟨.body, "\n"⟩]

/-- Options in the short help, in columns. -/
def shortSection (title : String) (os : List Opt) : Styled :=
  titled title ++ os.flatMap (·.shortEntry ((os.map (·.width)).foldl max 0))

/-- Options in the long help, apart by blank lines. -/
def longSection (title : String) (os : List Opt) : Styled :=
  titled title ++ (Styled.body "\n").intercalate (os.map Opt.longEntry)

/-- The help in short. -/
def shortHelp : Styled :=
  Styled.body (about ++ "\n\n") ++ usageLine ++ Styled.body "\n"
    ++ shortSection "Options" Opt.optional ++ Styled.body "\n"
    ++ shortSection "Required Arguments" Opt.required

/-- The help at length. -/
def longHelp : Styled :=
  Styled.body (longAbout ++ "\n\n") ++ usageLine ++ Styled.body "\n"
    ++ longSection "Options" Opt.optional ++ Styled.body "\n"
    ++ longSection "Required Arguments" Opt.required

end BuildSettings.CommandLine
