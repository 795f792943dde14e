/-
# What can be asked of a build

A parameter is a setting that can be given a value; a switch can only be given
or not. A parameter's setting has the name of the variable that can give it too.
Ten parameters name optional tools, which are left out when nobody gives them.
Each language has an interface that is built unless it is disabled.

Key definitions: `Parameter`, `Switch`, `Language`.
-/
namespace BuildSettings

/-- A setting that can be given a value. -/
inductive Parameter where
  | installPath
  | host
  | target
  | cc
  | ld
  | ar
  | sysroot
  | swig
  | perl
  | perlInc
  | python
  | pythonInc
  | python3
  | python3Inc
  | doxygen
  | outputRoot
  | extensions
  | ecmdRepos
  deriving DecidableEq, Repr

namespace Parameter

/-- The setting of a parameter, and the variable that gives it a value. -/
def setting : Parameter → String
  | installPath => "INSTALL_PATH"
  | host => "HOST_ARCH"
  | target => "TARGET_ARCH"
  | cc => "CC"
  | ld => "LD"
  | ar => "AR"
  | sysroot => "SYSROOT"
  | swig => "SWIG"
  | perl => "ECMDPERLBIN"
  | perlInc => "PERLINC"
  | python => "ECMDPYTHONBIN"
  | pythonInc => "PYINC"
  | python3 => "ECMDPYTHON3BIN"
  | python3Inc => "PY3INC"
  | doxygen => "DOXYGENBIN"
  | outputRoot => "OUTPUT_ROOT"
  | extensions => "EXTENSIONS"
  | ecmdRepos => "ECMD_REPOS"

/-- The parameters that every table holds. -/
def mandatory : List Parameter :=
  [host, target, outputRoot, cc, ld, ar, sysroot, installPath]

/-- The optional tools, in the order they are looked up. -/
def tools : List Parameter :=
  [swig, perl, perlInc, python, pythonInc, python3, python3Inc, doxygen, extensions, ecmdRepos]

/-- Every parameter. -/
def all : List Parameter := mandatory ++ tools

end Parameter

/-- Something that is given or not. -/
inductive Switch where
  | removeSim
  | withoutSwig
  | withoutPerl
  | withoutPython
  | withoutPython3
  | buildVerbose
  deriving DecidableEq, Repr

/-- A language that an interface can be built for. -/
inductive Language where
  | perl
  | python
  | python3
  deriving DecidableEq, Repr

namespace Language

/-- Every language, in the order they are looked up. -/
def all : List Language := [perl, python, python3]

/-- The setting that says whether the interface is built. -/
def createSetting : Language → String
  | perl => "CREATE_PERLAPI"
  | python => "CREATE_PYAPI"
  | python3 => "CREATE_PY3API"

/-- The variable that disables the interface by being set. -/
def disablingVariable : Language → String
  | perl => "WITHOUT_PERL"
  | python => "WITHOUT_PYTHON"
  | python3 => "WITHOUT_PYTHON3"

/-- The switch that disables the interface. -/
def disablingSwitch : Language → Switch
  | perl => .withoutPerl
  | python => .withoutPython
  | python3 => .withoutPython3

end Language
end BuildSettings
