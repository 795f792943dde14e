/-
# The quoted form of bytes

Messages show a path in double quotes, so that every byte of it can be told.
A character that would not be seen as itself is escaped: the two that the form
itself uses, NUL, tab, line feed and carriage return by a backslash and one
letter; whatever is unprintable, joins the character before it or may show
nothing by its number in braces. A byte that belongs to no character is written
`\xHH`.

Key definitions: `quote`.
-/
import BuildSettings.Text.Property
import BuildSettings.Text.Utf8

namespace BuildSettings.Text

/-- A digit below sixteen in upper case. -/
def upperDigit (n : Nat) : Char :=
  if n < 10 then Char.ofNat ('0'.toNat + n) else Char.ofNat ('A'.toNat + (n - 10))

/-- A character by number, in as few hexadecimal digits as it needs. -/
def numbered (c : Char) : List Char :=
  ['\\', 'u', '\x7b'] ++ Nat.toDigits 16 c.toNat ++ ['\x7d']

/-- A character inside quotes. -/
def quoteChar (c : Char) : List Char :=
  if c = '\x00' then ['\\', '0']
  else if c = '\t' then ['\\', 't']
  else if c = '\r' then ['\\', 'r']
  else if c = '\n' then ['\\', 'n']
  else if c = '"' then ['\\', '"']
  else if c = '\\' then ['\\', '\\']
  else if isExtender c || isIgnorable c || !isPrintable c then numbered c
  else [c]

/-- A byte inside quotes that belongs to no character. -/
def quoteByte (b : UInt8) : List Char :=
  ['\\', 'x', upperDigit (b.toNat / 16), upperDigit (b.toNat % 16)]

/-- A decoded piece inside quotes. -/
def quotePiece : Utf8.Piece → List Char
  | .char c => quoteChar c
  | .broken bs => bs.flatMap quoteByte

/-- Bytes in their quoted form. -/
def quote (bs : Bytes) : String :=
  String.ofList (['"'] ++ (Utf8.decode bs).flatMap quotePiece ++ ['"'])

end BuildSettings.Text
