/-
# The options of the command line

Every option has a long name, and a word for its value if it takes one. The two
repositories have to be given; the parameters and switches may be. This is the
one table that reading, complaining and the help text share.

Key definitions: `Opt`, `Opt.name`, `Opt.valueName`, `Opt.help`, `Opt.shown`,
`Opt.find?`.
-/
import BuildSettings.Parameter
import BuildSettings.Text.Utf8

namespace BuildSettings.CommandLine

/-- An option. -/
inductive Opt where
  | ecmdRepo
  | pdbgRepo
  | parameter (p : Parameter)
  | switch (s : Switch)
  | help
  | version
  deriving DecidableEq, Repr

namespace Opt

/-- The parameters in the order of the help text. -/
def parameters : List Parameter :=
  [.installPath, .host, .target, .cc, .ld, .ar, .sysroot, .swig, .perl, .perlInc, .python,
    .pythonInc, .python3, .python3Inc, .doxygen, .outputRoot, .extensions, .ecmdRepos]

/-- The switches in the order of the help text. -/
def switches : List Switch :=
  [.removeSim, .withoutSwig, .withoutPerl, .withoutPython, .withoutPython3, .buildVerbose]

/-- The options that have to be given. -/
def required : List Opt := [ecmdRepo, pdbgRepo]

/-- The options that may be given. -/
def optional : List Opt :=
  parameters.map parameter ++ switches.map switch ++ [help, version]

/-- The long name of an option, without the dashes. -/
def name : Opt → String
  | ecmdRepo => "ecmd-repo"
  | pdbgRepo => "pdbg-repo"
  | parameter .installPath => "install-path"
  | parameter .host => "host"
  | parameter .target => "target"
  | parameter .cc => "cc"
  | parameter .ld => "ld"
  | parameter .ar => "ar"
  | parameter .sysroot => "sysroot"
  | parameter .swig => "swig"
  | parameter .perl => "perl"
  | parameter .perlInc => "perlinc"
  | parameter .python => "python"
  | parameter .pythonInc => "pythoninc"
  | parameter .python3 => "python3"
  | parameter .python3Inc => "python3inc"
  | parameter .doxygen => "doxygen"
  | parameter .outputRoot => "output-root"
  | parameter .extensions => "extensions"
  | parameter .ecmdRepos => "ecmd-repos"
  | switch .removeSim => "remove-sim"
  | switch .withoutSwig => "without-swig"
  | switch .withoutPerl => "without-perl"
  | switch .withoutPython => "without-python"
  | switch .withoutPython3 => "without-python3"
  | switch .buildVerbose => "build-verbose"
  | help => "help"
  | version => "version"

/-- The word for an option's value. -/
def valueName : Opt → Option String
  | ecmdRepo => some "PATH"
  | pdbgRepo => some "PATH"
  | parameter .installPath => some "PATH"
  | parameter .host => some "ARCH"
  | parameter .target => some "ARCH"
  | parameter .cc => some "CC"
  | parameter .ld => some "LD"
  | parameter .ar => some "AR"
  | parameter .sysroot => some "PATH"
  | parameter .swig => some "SWIG"
  | parameter .perl => some "PERL"
  | parameter .perlInc => some "PERLINC"
  | parameter .python => some "PYTHON"
  | parameter .pythonInc => some "PYTHONINC"
  | parameter .python3 => some "PYTHON3"
  | parameter .python3Inc => some "PYTHON3INC"
  | parameter .doxygen => some "DOXYGEN"
  | parameter .outputRoot => some "PATH"
  | parameter .extensions => some "EXTENSIONS"
  | parameter .ecmdRepos => some "ECMD_REPOS"
  | _ => none

/-- The letter that stands for an option. -/
def letter : Opt → Option Char
  | help => some 'h'
  | version => some 'V'
  | _ => none

/-- An option as it is typed. -/
def flag (o : Opt) : String := "--" ++ o.name

/-- The word for an option's value, as it stands after the option. -/
def operand (o : Opt) : String :=
  match o.valueName with
  | some value => " <" ++ value ++ ">"
  | none => ""

/-- An option with the word for its value, as messages name it. -/
def shown (o : Opt) : String := o.flag ++ o.operand

/-- The option of a long name. -/
def find? (name : Bytes) : Option Opt :=
  (required ++ optional).find? fun o => Utf8.encode o.name = name

/-- The option of a letter. -/
def ofLetter? (c : Char) : Option Opt :=
  optional.find? fun o => o.letter = some c

end Opt
end BuildSettings.CommandLine
