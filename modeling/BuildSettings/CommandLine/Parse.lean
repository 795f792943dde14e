/-
# Reading a command line

The words are read from left to right. `--name=value` is whole in one word;
`--name value` takes the next word unless that starts with a dash and is more
than a dash. After `--` no word is an option. Help and version end the reading
as soon as they are met.

A value in a word of its own is settled late, at the next option or at the end:
only then is it found missing, repeated or unfit. A word that fits nothing is
reported at once, before such a value.

Key definitions: `Word.ofBytes`, `Line.put`, `meet`, `read`, `parse`.
-/
import BuildSettings.CommandLine.Usage
import BuildSettings.Request

namespace BuildSettings.CommandLine

/-- The shapes of a word. -/
inductive Word where
  /-- Two dashes. -/
  | divider
  /-- Two dashes, a name, and what follows an equals sign. -/
  | long (name : Bytes) (value : Option Bytes)
  /-- A dash and letters. -/
  | letters (bytes : Bytes)
  /-- Anything else, a lone dash too. -/
  | plain
  deriving DecidableEq, Repr

/-- A name up to the first equals sign, and the value after it. -/
def splitValue : Bytes → Bytes × Option Bytes
  | [] => ([], none)
  | b :: bs =>
    if b = 0x3D then ([], some bs)
    else (b :: (splitValue bs).1, (splitValue bs).2)

/-- The shape of a word. -/
def Word.ofBytes : Bytes → Word
  | [0x2D, 0x2D] => .divider
  | 0x2D :: 0x2D :: rest => .long (splitValue rest).1 (splitValue rest).2
  | [0x2D] => .plain
  | 0x2D :: rest => .letters rest
  | _ => .plain

/-- What a command line has given so far. -/
structure Line where
  ecmdRepo : Option Bytes := none
  pdbgRepo : Option Bytes := none
  value : Parameter → Option String := fun _ => none
  switch : Switch → Bool := fun _ => false

/-- Why reading ends early. -/
inductive Stop where
  /-- Help is asked for, at length or in short. -/
  | help (long : Bool)
  | version
  | usage (e : UsageError)
  deriving DecidableEq, Repr

namespace Line

/-- The line with an option that has a value. A repository may be any bytes but
none; a parameter must be text. -/
def put (l : Line) (o : Opt) (v : Bytes) : Except UsageError Line :=
  match o with
  | .ecmdRepo =>
    if l.ecmdRepo.isSome then .error (.repeated o)
    else if v = [] then .error (.valueMissing o)
    else .ok { l with ecmdRepo := some v }
  | .pdbgRepo =>
    if l.pdbgRepo.isSome then .error (.repeated o)
    else if v = [] then .error (.valueMissing o)
    else .ok { l with pdbgRepo := some v }
  | .parameter p =>
    if (l.value p).isSome then .error (.repeated o)
    else match Utf8.decode? v with
      | some text => .ok { l with value := fun q => if q = p then some text else l.value q }
      | none => .error .notUtf8
  | _ => .ok l

/-- The line with a switch. -/
def turnOn (l : Line) (s : Switch) : Except UsageError Line :=
  if l.switch s then .error (.repeated (.switch s))
  else .ok { l with switch := fun q => q = s || l.switch q }

end Line

/-- An option whose value is in a word of its own, and that word once it is
read. -/
structure Pending where
  opt : Opt
  value : Option Bytes
  deriving DecidableEq, Repr

/-- The line with the pending option's value. -/
def settle (l : Line) : Option Pending → Except UsageError Line
  | none => .ok l
  | some ⟨o, some v⟩ => l.put o v
  | some ⟨o, none⟩ => .error (.valueMissing o)

/-- A complaint about bytes that fit nothing. -/
def unexpected (bs : Bytes) : Stop :=
  .usage (.unexpected (Utf8.lossy bs))

/-- How an option ends the reading that asks for help or the version. What is
pending has to be settled first. -/
def endWith (l : Line) (pending : Option Pending) (stop : Stop) : Stop :=
  match settle l pending with
  | .ok _ => stop
  | .error e => .usage e

/-- A long option met, with what follows its equals sign: the line and what is
pending after it. -/
def meet (l : Line) (pending : Option Pending) :
    Opt → Option Bytes → Except Stop (Line × Option Pending)
  | .help, none => .error (endWith l pending (.help true))
  | .version, none => .error (endWith l pending .version)
  | .switch s, none =>
    ((settle l pending >>= (·.turnOn s)).map (·, none)).mapError .usage
  | o, none => ((settle l pending).map (·, some ⟨o, none⟩)).mapError .usage
  | o, some v =>
    if o.valueName.isSome then ((settle l pending >>= (·.put o v)).map (·, none)).mapError .usage
    else .error (.usage (.valueUnneeded o (Utf8.lossy v)))

/-- Letters met after a dash. The first one decides: it asks for help or the
version, or stands for nothing. -/
def meetLetters (l : Line) (pending : Option Pending) (bs : Bytes) : Stop :=
  match Utf8.decode bs with
  | .char c :: _ =>
    match Opt.ofLetter? c with
    | some .help => endWith l pending (.help false)
    | some .version => endWith l pending .version
    | _ => .usage (.unexpected (String.ofList ['-', c]))
  | _ => unexpected (0x2D :: bs)

/-- The words from a given point on. -/
def read (l : Line) (pending : Option Pending) : List Bytes → Except Stop Line
  | [] => (settle l pending).mapError .usage
  | w :: ws =>
    match Word.ofBytes w with
    | .divider =>
      match ws with
      | [] => (settle l pending).mapError .usage
      | next :: _ => .error (unexpected next)
    | .long name value =>
      match Opt.find? name with
      | none => .error (unexpected (0x2D :: 0x2D :: name))
      | some o =>
        match meet l pending o value with
        | .ok (l, pending) => read l pending ws
        | .error stop => .error stop
    | .letters bs => .error (meetLetters l pending bs)
    | .plain =>
      match pending with
      | some ⟨o, none⟩ => read l (some ⟨o, some w⟩) ws
      | _ => .error (unexpected w)

/-- The options that a line has to give and does not. -/
def Line.missing (l : Line) : List Opt :=
  (if l.ecmdRepo.isSome then [] else [.ecmdRepo]) ++ (if l.pdbgRepo.isSome then [] else [.pdbgRepo])

/-- What a command line gives for a build. -/
def parse (words : List Bytes) : Except Stop Given := do
  let l ← read {} none words
  match l.pdbgRepo, l.ecmdRepo with
  | some root, some ecmdRoot => return ⟨root, ecmdRoot, l.value, l.switch⟩
  | _, _ => throw (.usage (.required l.missing))

end BuildSettings.CommandLine
