/-
# What can go wrong with a configuration

Three causes: the target's architecture family has no compile options, a setting
is recorded twice, or the file cannot be written. `message` words each; the
fault behind a failed write is `source`, and is not part of the message.

Key definitions: `Error`, `Error.message`, `Error.source`.
-/
import BuildSettings.Fault
import BuildSettings.Text.Quoted

namespace BuildSettings

/-- Why a configuration is not resolved or not written. -/
inductive Error where
  /-- No compile options are known for the family. -/
  | unknownArch (family : String)
  /-- The setting was recorded before. -/
  | duplicateSetting (name : String)
  /-- The file at `path` was not written. -/
  | unwritten (path : Bytes) (fault : Fault)
  deriving DecidableEq, Repr

/-- The wording of an error. The family and the setting stand as they are, the
path in its quoted form. -/
def Error.message : Error → String
  | .unknownArch family =>
    "Unknown arch \"" ++ family ++ "\" detected, can't setup compile options"
  | .duplicateSetting name => "Setting " ++ name ++ " was already resolved"
  | .unwritten path _ => "Failed to write " ++ Text.quote path

/-- The fault that an error passes on. -/
def Error.source : Error → Option Fault
  | .unwritten _ fault => some fault
  | _ => none

end BuildSettings
