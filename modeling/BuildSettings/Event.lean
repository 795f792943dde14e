/-
# Log events

Each look-up and each written file leaves an event: a message, and fields with
names. `record` is the line of an event in the log, with colours or without, from
the level on. The time stamp stands before it.

Key definitions: `Source`, `Event`, `Event.fields`, `Event.record`.
-/
import BuildSettings.Text.Quoted
import BuildSettings.Text.Styled

namespace BuildSettings

/-- The tier that supplied a value. -/
inductive Source where
  | argument
  | environment
  | fallback
  deriving DecidableEq, Repr

/-- The word for a tier. -/
def Source.name : Source → String
  | .argument => "argument"
  | .environment => "environment"
  | .fallback => "default"

/-- Something worth a line in the log. -/
inductive Event where
  /-- A setting got its value from a tier. -/
  | resolved (setting : String) (source : Source) (value : String)
  /-- A flag was asked for: whether its switch is given, and whether it is on. -/
  | flag (name : String) (switch : Bool) (on : Bool)
  /-- A file with so many settings was written. -/
  | wrote (path : String) (settings : Nat)
  deriving DecidableEq, Repr

/-- How much an event matters. -/
inductive Level where
  | debug
  | info
  deriving DecidableEq, Repr

namespace Event

/-- The level of an event. -/
def level : Event → Level
  | .wrote .. => .info
  | _ => .debug

/-- What an event says, its fields apart. -/
def message : Event → String
  | .resolved .. => "resolved"
  | .flag .. => "resolved flag"
  | .wrote .. => "wrote build config"

/-- A truth value in a record. -/
def truth (b : Bool) : String :=
  if b then "true" else "false"

/-- A name in a record. -/
def named (name : String) : String :=
  Text.quote (Utf8.encode name)

/-- The fields of an event, with their values as a record shows them. -/
def fields : Event → List (String × String)
  | .resolved setting source value =>
    [("setting", named setting), ("source", source.name), ("value", value)]
  | .flag name switch on => [("flag", named name), ("switch", truth switch), ("set", truth on)]
  | .wrote path settings => [("path", path), ("settings", toString settings)]

end Event

/-- The name of a level, five columns wide, in its style. -/
def Level.column : Level → Text.Span
  | .debug => ⟨.detail, "DEBUG"⟩
  | .info => ⟨.notice, " INFO"⟩

/-- A field in a record, with the space before it. -/
def Event.fieldSpans (name value : String) : Text.Styled :=
  [⟨.body, " "⟩, ⟨.field, name⟩, ⟨.faint, "="⟩, ⟨.body, value⟩]

/-- The words of a record, up to the end of the line. -/
def Event.spans (e : Event) : Text.Styled :=
  [e.level.column, ⟨.body, " " ++ e.message⟩] ++ e.fields.flatMap (fun f => fieldSpans f.1 f.2)
  ++ [⟨.body, "\n"⟩]

/-- The line of an event in the log. -/
def Event.record (colours : Bool) (e : Event) : String :=
  if colours then e.spans.coloured else e.spans.raw

end BuildSettings
