/-
# A request for a configuration

A request is what is given for a build, the fallbacks, and the environment. Its
values are defined here one by one: those that are looked up in three tiers, and
those that follow from others.

Key definitions: `Given`, `Fallbacks`, `Request`, `Request.consulted`.
-/
import BuildSettings.Arch
import BuildSettings.Lookup
import BuildSettings.Parameter
import BuildSettings.Pathname.Join

namespace BuildSettings

/-- What is given for a build: the two repositories, values for some parameters
and some switches. -/
structure Given where
  /-- The repository to build, where the file is written. -/
  root : Bytes
  /-- The eCMD repository to build against. -/
  ecmdRoot : Bytes
  value : Parameter → Option String := fun _ => none
  switch : Switch → Bool := fun _ => false

/-- The values that are used where nobody gives another. -/
structure Fallbacks where
  cc : String := "/usr/bin/g++"
  ld : String := "/usr/bin/g++"
  ar : String := "/usr/bin/ar"
  sysroot : String := "/"
  /-- What silences the echo of a recipe. -/
  verbose : String := "@"
  /-- The name of the file to write. -/
  fileName : String := "makefile.config"
  /-- The machine that the build runs on. -/
  hostMachine : String := Machine.own.name
  deriving DecidableEq, Repr

/-- All that a configuration depends on. -/
structure Request where
  given : Given
  fallbacks : Fallbacks
  env : Environment

namespace Request

variable (r : Request)

/-! ## Architectures and places -/

/-- The repository to build, as text. -/
def root : String := Utf8.lossy r.given.root

/-- The eCMD repository, as text. -/
def ecmdRoot : String := Utf8.lossy r.given.ecmdRoot

/-- A parameter, looked up in three tiers. -/
def parameter (p : Parameter) (fallback : String) : Resolved :=
  resolve p.setting (r.given.value p) r.env fallback

/-- A switch, or the variable that stands for it. -/
def switchOn (name : String) (s : Switch) : Bool :=
  flag name (r.given.switch s) r.env

/-- The architecture of the machine that builds. -/
def hostArch : Resolved := r.parameter .host r.fallbacks.hostMachine

/-- The architecture that is built for: the host's unless given. -/
def targetArch : Resolved := r.parameter .target r.hostArch.value

/-- Where the build puts its output. -/
def outputRoot : Resolved := r.parameter .outputRoot (Pathname.joinText r.root "build")

/-- Where objects go. Make's rules need the slash at the end. -/
def objectPath : String :=
  Pathname.joinText r.outputRoot.value ("obj_" ++ r.targetArch.value) ++ "/"

/-- Where the products for the target go. -/
def outputPath : String :=
  Pathname.joinText r.outputRoot.value ("out_" ++ r.targetArch.value)

/-- Where the build is installed to. -/
def installPath : Resolved := r.parameter .installPath (Pathname.joinText r.root "install")

/-! ## Compilers and their options -/

/-- The compiler. -/
def cc : Resolved := r.parameter .cc r.fallbacks.cc

/-- The linker. -/
def ld : Resolved := r.parameter .ld r.fallbacks.ld

/-- What makes archives. -/
def ar : Resolved := r.parameter .ar r.fallbacks.ar

/-- The root of the system that is built for. -/
def sysroot : Resolved := r.parameter .sysroot r.fallbacks.sysroot

/-- The definitions that the environment asks for. -/
def ownDefines : Resolved := resolve "DEFINES" none r.env ""

/-- All definitions for the preprocessor. -/
def defines : String :=
  r.ownDefines.value ++ " -DLINUX" ++
    if r.switchOn "REMOVE_SIM" .removeSim then " -DREMOVE_SIM" else ""

/-! ## Language interfaces, tools and the rest -/

/-- Whether all language interfaces are disabled. -/
def withoutSwig : Bool := r.switchOn "WITHOUT_SWIG" .withoutSwig

/-- Whether a language's interface is disabled. -/
def disabled (l : Language) : Bool :=
  r.withoutSwig || r.switchOn l.disablingVariable l.disablingSwitch

/-- What is as good as given for a language's interface: `no` once it is disabled. -/
def decided (l : Language) : Option String := if r.disabled l then some "no" else none

/-- Whether a language's interface is built. -/
def create (l : Language) : Resolved :=
  resolve l.createSetting (r.decided l) r.env "yes"

/-- An optional tool, if anybody gives it. -/
def tool (p : Parameter) : Option Resolved :=
  resolveOptional p.setting (r.given.value p) r.env

/-- What stands in front of each recipe, where the switch does not clear it. -/
def echo : Resolved := resolve "VERBOSE" none r.env r.fallbacks.verbose

/-- What stands in front of each recipe. -/
def verbose : String :=
  if r.given.switch .buildVerbose then "" else r.echo.value

/-- The name of the variable that renames the file. -/
def fileNameVariable : String := "MAKEFILE_CONFIG_NAME"

/-- The name of the file to write. -/
def fileName : Resolved := resolve fileNameVariable none r.env r.fallbacks.fileName

/-- The variables that a request can ask the environment for. -/
def consulted : List String :=
  Parameter.all.map Parameter.setting
  ++ ["DEFINES", "REMOVE_SIM", "WITHOUT_SWIG", "VERBOSE", fileNameVariable]
  ++ Language.all.flatMap fun l => [l.disablingVariable, l.createSetting]

end Request
end BuildSettings
