/-
# Architectures

An architecture's family is the first three characters of its name. Compile
options are known for three families; `Flags.ofArch` selects them, and refuses
any other. The word size is read off the whole name, so the two digits may
straddle the end of the family.

A machine goes by the name that it gives itself, which is not always that of the
architecture that programs are built for.

Key definitions: `familyName`, `Family.ofArch`, `Flags.ofArch`, `Machine.name`.
Key theorem: `occurs_iff`.
-/
import BuildSettings.Error

namespace BuildSettings

/-- The first three characters of an architecture's name, or all of a shorter
one. -/
def familyName (arch : String) : String :=
  String.ofList (arch.toList.take 3)

/-- Whether a word stands somewhere in a text. -/
def occurs (word : List Char) : List Char → Bool
  | [] => word.isEmpty
  | c :: cs => word.isPrefixOf (c :: cs) || occurs word cs

theorem occurs_iff {word : List Char} : ∀ {cs : List Char}, occurs word cs = true ↔ word <:+: cs
  | [] => by simp [occurs]
  | c :: cs => by simp [occurs, occurs_iff, List.infix_cons_iff]

/-- The families that compile options are known for. -/
inductive Family where
  | x86
  | ppc
  | arm
  deriving DecidableEq, Repr

namespace Family

/-- The name of a family. -/
def name : Family → String
  | .x86 => "x86"
  | .ppc => "ppc"
  | .arm => "arm"

/-- Every family. -/
def all : List Family := [.x86, .ppc, .arm]

/-- The family of an architecture. -/
def ofArch (arch : String) : Except Error Family :=
  match all.find? (·.name = familyName arch) with
  | some family => .ok family
  | none => .error (.unknownArch (familyName arch))

/-- The option that sets the word size, with the space before it. The family
`arm` takes none. -/
def wordFlag (family : Family) (arch : String) : String :=
  match family with
  | .arm => ""
  | _ => if occurs ['6', '4'] arch.toList then " -m64" else " -m32"

end Family

/-- Options for the compiler, the linker and the linker of shared libraries.
Each starts with a space, so that it can follow others. -/
structure Flags where
  compiler : String
  linker : String
  sharedLinker : String
  deriving DecidableEq, Repr

/-- The options for a target architecture. -/
def Flags.ofArch (arch : String) : Except Error Flags := do
  let family ← Family.ofArch arch
  let word := family.wordFlag arch
  return ⟨" -Wall" ++ word ++ " -fPIC", word ++ " -fPIC", " -shared" ++ word ++ " -fPIC"⟩

/-- What a program is built for: an architecture, by the word for it, and whether
it stores numbers with the low byte first. -/
structure Machine where
  arch : String
  littleEndian : Bool
  deriving DecidableEq, Repr

namespace Machine

/-- The name that a machine gives itself. -/
def name (m : Machine) : String :=
  match m.arch with
  | "powerpc64" => if m.littleEndian then "ppc64le" else "ppc64"
  | "powerpc" => "ppc"
  | "x86" => "i686"
  | "arm" => "armv7l"
  | other => other

/-- The machine that this program is built for. -/
def own : Machine := ⟨"x86_64", true⟩

end Machine

end BuildSettings
