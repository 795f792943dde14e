/-
# Text that is set off

Help, complaints and the log set some of their words off. A `Styled` text is a list
of spans, each in a style. `Styled.coloured` tells a terminal the styles, by codes
before a span and by the code that ends them after it. `Styled.raw` leaves the
styles out, `Styled.plain` also whatever else in a span a terminal would obey.

Key definitions: `Style`, `Styled`, `Styled.coloured`, `Styled.raw`, `Styled.plain`.
-/
import BuildSettings.Text.Terminal

namespace BuildSettings.Text

/-- What words are set off as. -/
inductive Style where
  /-- Nothing: they are not set off. -/
  | body
  /-- The title of a part. -/
  | heading
  /-- What is typed as it stands. -/
  | literal
  /-- The sign that something is wrong. -/
  | alarm
  /-- What would do. -/
  | fit
  /-- What will not do. -/
  | unfit
  /-- The level of a record that tells of something done. -/
  | notice
  /-- The level of a record that tells of a detail. -/
  | detail
  /-- The name of a record's field. -/
  | field
  /-- The sign between a field's name and its value. -/
  | faint
  deriving DecidableEq, Repr

/-- The codes of a style: 1 is bold, 2 faint, 3 italic, 4 underlined, 31 red, 32
green, 33 yellow, 34 blue. -/
def Style.codes : Style → List Nat
  | .body => []
  | .heading => [1, 4]
  | .literal => [1]
  | .alarm => [1, 31]
  | .fit => [32]
  | .unfit => [33]
  | .notice => [32]
  | .detail => [34]
  | .field => [3]
  | .faint => [2]

/-- The control sequence that tells a terminal a code. -/
def Style.sequence (code : Nat) : String :=
  "\x1B[" ++ toString code ++ "m"

/-- Words in one style. -/
structure Span where
  style : Style
  text : String
  deriving DecidableEq, Repr

namespace Span

/-- The words without a style. -/
def plain (s : Span) : String :=
  Terminal.visible s.text

/-- The words between the codes of their style and the code that ends it. -/
def coloured (s : Span) : String :=
  if s.style.codes = [] then s.text
  else String.join (s.style.codes.map Style.sequence) ++ s.text ++ Style.sequence 0

end Span

/-- A text in styles. -/
abbrev Styled := List Span

namespace Styled

/-- A text that is not set off. -/
def body (s : String) : Styled := [⟨.body, s⟩]

/-- The text without its styles. -/
def raw (t : Styled) : String :=
  String.join (t.map Span.text)

/-- The text for a reader that obeys no codes. -/
def plain (t : Styled) : String :=
  String.join (t.map Span.plain)

/-- The text for a terminal. -/
def coloured (t : Styled) : String :=
  String.join (t.map Span.coloured)

/-- The text with colours, or without. -/
def rendered (colours : Bool) (t : Styled) : String :=
  if colours then t.coloured else t.plain

end Styled
end BuildSettings.Text
