/-
# The resolved configuration

`Request.steps` are the steps that resolving a request goes through, each
look-up with its event and each setting as it goes into the table. They end at a
target whose family has no compile options. `Request.resolve` makes a
configuration of what they leave: the table of all settings, the directory the
file goes to, and the file's name.

Key definitions: `Configuration`, `Configuration.outputPath`, `Request.steps`,
`Request.resolve`, `Request.lookups`, `Request.events`, `Request.said`.
-/
import BuildSettings.Request
import BuildSettings.Resolution

namespace BuildSettings

open Resolution (Course Step)

/-- A configuration, ready to be written. -/
structure Configuration where
  /-- The directory that the file goes to. -/
  root : Bytes
  fileName : String
  settings : Settings
  deriving DecidableEq

/-- The path of the file. -/
def Configuration.outputPath (c : Configuration) : Bytes :=
  Pathname.joinBytes c.root (Utf8.encode c.fileName)

namespace Request

/-! ## What is said -/

/-- Said before the architectures are looked up. -/
def hostLine : String := "Determining host and distro.."

/-- Said before the places for output are. -/
def outputLine : String := "Establishing output locations.."

/-- Said before the compilers are. -/
def compilerLine : String := "Establishing compiler locations.."

/-- Said before the compile options are. -/
def optionLine : String := "Establishing compiler options.."

/-- The lines in their order. -/
def progress : List String := [hostLine, outputLine, compilerLine, optionLine]

variable (r : Request)

/-! ## The steps -/

/-- A value is looked up in three tiers. -/
def lookUp (name : String) (explicit : Option String) (found : Resolved) : Step :=
  .look (r.env.asked (resolveWith · name explicit (pure found.value))) (some (found.event name))

/-- A parameter is looked up. -/
def lookUpParameter (p : Parameter) (found : Resolved) : Step :=
  r.lookUp p.setting (r.given.value p) found

/-- A switch is asked for. -/
def askSwitch (name : String) (s : Switch) : Step :=
  .look (r.env.asked (flagWith · name (r.given.switch s)))
    (some (flagEvent name (r.given.switch s) r.env))

/-- The architectures, after the two repositories. -/
def hostSteps : List Step :=
  [.put "PDBG_ROOT" r.root, .put "ECMD_ROOT" r.ecmdRoot, .say hostLine,
    r.lookUpParameter .host r.hostArch, .put "HOST_BARCH" (familyName r.hostArch.value),
    r.lookUpParameter .target r.targetArch,
    .put "TARGET_BARCH" (familyName r.targetArch.value), .put "HOST_ARCH" r.hostArch.value]

/-- The places for output. -/
def outputSteps : List Step :=
  [.say outputLine, r.lookUpParameter .outputRoot r.outputRoot,
    .put "OUTBIN" (Pathname.joinText r.outputPath "bin"),
    .put "OUTLIB" (Pathname.joinText r.outputPath "lib"),
    .put "OUTPATH" r.outputPath, .put "OUTPUT_ROOT" r.outputRoot.value]

/-- The compilers. -/
def compilerSteps : List Step :=
  [.say compilerLine,
    r.lookUpParameter .cc r.cc, .put "CC" r.cc.value,
    r.lookUpParameter .ld r.ld, .put "LD" r.ld.value,
    r.lookUpParameter .ar r.ar, .put "AR" r.ar.value,
    r.lookUpParameter .sysroot r.sysroot, .put "SYSROOT" r.sysroot.value]

/-- The options for the target. The target itself goes into the table here. -/
def optionSteps (flags : Flags) : List Step :=
  [r.lookUp "DEFINES" none r.ownDefines, r.askSwitch "REMOVE_SIM" .removeSim,
    .put "DEFINES" r.defines, .put "GPATH" (" " ++ r.objectPath), .put "OBJPATH" r.objectPath,
    .put "CFLAGS" ("-g -I." ++ flags.compiler), .put "LDFLAGS" flags.linker,
    .put "SLDFLAGS" flags.sharedLinker, .put "TARGET_ARCH" r.targetArch.value,
    r.askSwitch "WITHOUT_SWIG" .withoutSwig]

/-- A language's interface. Its own switch is not asked for once all are
disabled. -/
def languageSteps (l : Language) : List Step :=
  (if r.withoutSwig then [] else [r.askSwitch l.disablingVariable l.disablingSwitch])
  ++ [r.lookUp l.createSetting (r.decided l) (r.create l), .put l.createSetting (r.create l).value]

/-- An optional tool is looked up, and kept if anybody gives it. -/
def toolSteps (p : Parameter) : List Step :=
  .look (r.env.asked (resolveOptionalWith · p.setting (r.given.value p)))
    ((r.tool p).map (·.event p.setting))
  :: match r.tool p with
    | some t => [.put p.setting t.value]
    | none => []

/-- The rest. The recipes' echo is not looked up where the switch clears it. -/
def finalSteps : List Step :=
  (if r.given.switch .buildVerbose then [] else [r.lookUp "VERBOSE" none r.echo])
  ++ [.put "VERBOSE" r.verbose,
    r.lookUpParameter .installPath r.installPath, .put "INSTALL_PATH" r.installPath.value,
    r.lookUp fileNameVariable none r.fileName]

/-- The steps up to the compile options. -/
def earlySteps : List Step :=
  r.hostSteps ++ r.outputSteps ++ r.compilerSteps ++ [.say optionLine]

/-- The steps from the compile options on. -/
def lateSteps (flags : Flags) : List Step :=
  r.optionSteps flags ++ Language.all.flatMap r.languageSteps
  ++ Parameter.tools.flatMap r.toolSteps ++ r.finalSteps

/-- Every step of resolving a request. A target without compile options ends
them. -/
def steps : List Step :=
  r.earlySteps ++
    match Flags.ofArch r.targetArch.value with
    | .ok flags => r.lateSteps flags
    | .error e => [.refuse e]

/-! ## What they leave -/

/-- How resolving goes: what it leaves, and why it fails if it does. -/
def course : Course × Option Error := Course.start.follow r.steps

/-- The configuration of a request. -/
def resolve : Except Error Configuration :=
  match r.course with
  | (c, none) => .ok ⟨r.given.root, r.fileName.value, c.settings⟩
  | (_, some e) => .error e

/-- The variables that are looked up, in their order. -/
def lookups : List String := r.course.1.asked

/-- What the look-ups record. -/
def events : List Event := r.course.1.events

/-- What resolving says as it goes. -/
def said : List String := r.course.1.said

end Request
end BuildSettings
