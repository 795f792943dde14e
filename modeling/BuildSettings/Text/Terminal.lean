/-
# Text without what a terminal obeys

A terminal keeps for itself the control characters and the sequences that an
escape character opens: two-character escapes, control sequences after `ESC [`,
commands after `ESC ]`, device control strings after `ESC P`, and the strings
after `ESC X`, `ESC ^` and `ESC _`. `visible` takes them out of a text and keeps
the rest, tabs, line breaks and form feeds included.

White space inside an escape or a control sequence is kept and holds the
sequence up. Text goes on from there, and the sequence goes on at the next
control character, unless a character beyond ASCII has ended it before.

Key definitions: `Terminal.State.step`, `Terminal.State.shows`,
`Terminal.visible`.
-/
namespace BuildSettings.Text.Terminal

/-- What an escape character has opened. -/
inductive Sequence where
  /-- Nothing yet: its next character decides. -/
  | escape
  /-- An escape of more than two characters. -/
  | longEscape
  /-- A control sequence. -/
  | control
  /-- An operating system command. -/
  | command
  /-- A device control string, before its parameters. -/
  | device
  /-- A device control string, in its parameters. -/
  | deviceParameter
  /-- A device control string, after its parameters. -/
  | deviceIntermediate
  /-- The content of a device control string, or a string of another kind. -/
  | content
  deriving DecidableEq, Repr

/-- Where a reader of a text stands. -/
inductive State where
  /-- In text, perhaps with a sequence that white space holds up. -/
  | text (held : Option Sequence)
  /-- In a sequence. -/
  | inside (s : Sequence)
  deriving DecidableEq, Repr

/-- Whether a character's number lies between two bounds, both included. -/
def within (low high : Nat) (c : Char) : Bool :=
  low ≤ c.toNat && c.toNat ≤ high

/-- The control characters that only move the place where text goes on. -/
def isBlankControl (c : Char) : Bool :=
  c = '\t' || c = '\n' || c = '\x0C' || c = '\r'

/-- The characters that are text, where text is read. -/
def isText (c : Char) : Bool :=
  within 0x20 0x7E c || 0x80 ≤ c.toNat || isBlankControl c

/-- The characters that break off whatever is open: CAN and SUB. -/
def isCancel (c : Char) : Bool :=
  c = '\x18' || c = '\x1A'

/-- Whether white space holds a sequence up. In a string it is content. -/
def Sequence.yields : Sequence → Bool
  | .escape | .longEscape | .control => true
  | _ => false

/-- What a character that opens or cancels nothing makes of a sequence. The
content of a string ends at a character whose UTF-8 form has the byte 9C. -/
def Sequence.step (s : Sequence) (c : Char) : State :=
  match s with
  | .escape =>
    if c = '[' then .inside .control
    else if c = ']' then .inside .command
    else if c = 'P' then .inside .device
    else if c = 'X' || c = '^' || c = '_' then .inside .content
    else if within 0x20 0x2F c then .inside .longEscape
    else if within 0x30 0x7E c then .text none
    else .inside .escape
  | .longEscape => if within 0x30 0x7E c then .text none else .inside .longEscape
  | .control => if within 0x40 0x7E c then .text none else .inside .control
  | .command => if c = '\x07' then .text none else .inside .command
  | .device =>
    if within 0x20 0x2F c then .inside .deviceIntermediate
    else if within 0x30 0x3F c then .inside .deviceParameter
    else if within 0x40 0x7E c then .inside .content
    else .inside .device
  | .deviceParameter =>
    if within 0x20 0x2F c then .inside .deviceIntermediate
    else if within 0x3C 0x7E c then .inside .content
    else .inside .deviceParameter
  | .deviceIntermediate =>
    if within 0x30 0x7E c then .inside .content else .inside .deviceIntermediate
  | .content =>
    if (0x9C : UInt8) ∈ String.utf8EncodeChar c then .text none else .inside .content

namespace State

/-- Whether a character is seen. -/
def shows (q : State) (c : Char) : Bool :=
  match q with
  | .text _ => isText c
  | .inside s => isBlankControl c && s.yields

/-- Where a reader stands after a character. -/
def step (q : State) (c : Char) : State :=
  if c = '\x1B' then .inside .escape
  else if isCancel c then .text none
  else match q with
    | .text none => .text none
    | .text (some s) =>
      if !isText c then .inside s
      else if c.toNat < 0x80 then q
      else .text none
    | .inside s => if isBlankControl c && s.yields then .text (some s) else s.step c

end State

/-- The characters that are seen, from a given point on. -/
def visibleFrom (q : State) : List Char → List Char
  | [] => []
  | c :: cs =>
    if q.shows c then c :: visibleFrom (q.step c) cs else visibleFrom (q.step c) cs

/-- A text without what a terminal obeys. -/
def visible (s : String) : String :=
  String.ofList (visibleFrom (.text none) s.toList)

end BuildSettings.Text.Terminal
