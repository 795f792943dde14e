/-
# UTF-8, also where it is broken

Paths, variables and words of a command line are bytes; settings are text.
`decode` reads bytes as a list of pieces: a character, or a run of bytes that
starts none. A broken run is a maximal one: it ends where the next byte can no
longer continue a character that its bytes begin, so `E2 82` before `(` is one
run and `C0 80` is two. `lossy` shows each run as one U+FFFD; `decode?` refuses
any run.

The reader is a machine that takes one byte at a time. Between characters it
holds nothing; inside one it holds the bytes so far and the spans that the bytes
still due must lie in.

Key definitions: `encode`, `decode`, `lossy`, `decode?`.
-/
namespace BuildSettings

/-- Bytes in order: a path, a variable's value, a file's content. -/
abbrev Bytes := List UInt8

namespace Utf8

/-- The UTF-8 form of a text. -/
def encode (s : String) : Bytes :=
  s.toList.flatMap String.utf8EncodeChar

/-- The bytes from `low` to `high`. -/
structure Span where
  low : UInt8
  high : UInt8
  deriving DecidableEq, Repr

/-- Whether a byte lies in the span. -/
def Span.holds (s : Span) (b : UInt8) : Bool :=
  s.low ≤ b && b ≤ s.high

/-- The bytes that continue a character when nothing narrows them. -/
def tail : Span := ⟨0x80, 0xBF⟩

/-- Where the bytes after a lead byte must lie, `none` if no character starts
with it. The narrow spans keep out overlong forms, surrogates and what lies
above U+10FFFF. -/
def spansAfter (b : UInt8) : Option (List Span) :=
  if b < 0x80 then some []
  else if b < 0xC2 then none
  else if b < 0xE0 then some [tail]
  else if b = 0xE0 then some [⟨0xA0, 0xBF⟩, tail]
  else if b = 0xED then some [⟨0x80, 0x9F⟩, tail]
  else if b < 0xF0 then some [tail, tail]
  else if b = 0xF0 then some [⟨0x90, 0xBF⟩, tail, tail]
  else if b < 0xF4 then some [tail, tail, tail]
  else if b = 0xF4 then some [⟨0x80, 0x8F⟩, tail, tail]
  else none

/-- What decoding finds: a character, or a maximal run of bytes that is none. -/
inductive Piece where
  | char (c : Char)
  | broken (bytes : Bytes)
  deriving DecidableEq, Repr

/-- The character shown in place of a broken run. -/
def replacement : Char := '\uFFFD'

/-- The character of a complete sequence: the low bits of its bytes, six from
each after the first. -/
def assemble : Bytes → Char
  | [a] => Char.ofNat a.toNat
  | [a, b] => Char.ofNat (a.toNat % 32 * 64 + b.toNat % 64)
  | [a, b, c] => Char.ofNat (a.toNat % 16 * 4096 + b.toNat % 64 * 64 + c.toNat % 64)
  | [a, b, c, d] =>
    Char.ofNat (a.toNat % 8 * 262144 + b.toNat % 64 * 4096 + c.toNat % 64 * 64 + d.toNat % 64)
  | _ => replacement

/-- The reader between two bytes: the bytes of an unfinished character, and the
spans of those it still needs. -/
structure Reader where
  held : Bytes
  due : List Span
  deriving DecidableEq, Repr

/-- The reader between characters. -/
def Reader.start : Reader := ⟨[], []⟩

/-- A byte read between characters. -/
def Reader.lead (b : UInt8) : List Piece × Reader :=
  match spansAfter b with
  | none => ([.broken [b]], .start)
  | some [] => ([.char (assemble [b])], .start)
  | some spans => ([], ⟨[b], spans⟩)

/-- One byte: the pieces it completes and the reader after it. A byte outside
the span that is due breaks off what is held and is then read afresh. -/
def Reader.step (r : Reader) (b : UInt8) : List Piece × Reader :=
  match r.due with
  | [] => Reader.lead b
  | span :: due =>
    if span.holds b then
      match due with
      | [] => ([.char (assemble (r.held ++ [b]))], .start)
      | _ => ([], ⟨r.held ++ [b], due⟩)
    else
      (.broken r.held :: (Reader.lead b).1, (Reader.lead b).2)

/-- What the end of the bytes leaves over. -/
def Reader.finish (r : Reader) : List Piece :=
  if r.held = [] then [] else [.broken r.held]

/-- The pieces of the bytes read from a given point on. -/
def Reader.run (r : Reader) : Bytes → List Piece
  | [] => r.finish
  | b :: bs => (r.step b).1 ++ (r.step b).2.run bs

/-- The pieces of a byte string. -/
def decode (bs : Bytes) : List Piece :=
  Reader.start.run bs

/-- The one character that a piece is shown as. -/
def Piece.shown : Piece → Char
  | .char c => c
  | .broken _ => replacement

/-- The text of a byte string, each broken run shown as U+FFFD. -/
def lossy (bs : Bytes) : String :=
  String.ofList ((decode bs).map Piece.shown)

/-- The character of a piece that is one. -/
def Piece.char? : Piece → Option Char
  | .char c => some c
  | .broken _ => none

/-- The text of a byte string that is UTF-8 throughout. -/
def decode? (bs : Bytes) : Option String :=
  ((decode bs).mapM Piece.char?).map String.ofList

end Utf8
end BuildSettings
