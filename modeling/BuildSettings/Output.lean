/-
# Writing a configuration

The include file goes where the configuration's path leads, whatever stood there
before. The tree changes at that one location or not at all. `emit` is all that
a write leaves: its answer, the tree after it, and its events.

Key definitions: `Configuration.write`, `Configuration.wroteEvent`,
`Configuration.emit`.
-/
import BuildSettings.Configuration
import BuildSettings.FileTree.Change
import BuildSettings.Makefile

namespace BuildSettings.Configuration

/-- The include file of a configuration. -/
def content (c : Configuration) : Bytes :=
  Utf8.encode (Makefile.render c.settings)

/-- The event of a written configuration. -/
def wroteEvent (c : Configuration) : Event :=
  .wrote (Utf8.lossy c.outputPath) c.settings.size

/-- The tree after a configuration is written, for someone at `cwd`. -/
def write (c : Configuration) (t : FileTree) (cwd : Pathname.Location) : Except Error FileTree :=
  (t.write cwd c.outputPath c.content).mapError (.unwritten c.outputPath)

/-- The events of a write: one if the file was written, none otherwise. -/
def writeEvents (c : Configuration) : Except Error FileTree → List Event
  | .ok _ => [c.wroteEvent]
  | .error _ => []

/-- What a write leaves. -/
structure Written where
  /-- The path of the file, or why there is none. -/
  answer : Except Error Bytes
  tree : FileTree
  events : List Event

/-- A configuration written, for someone at `cwd`. -/
def emit (c : Configuration) (t : FileTree) (cwd : Pathname.Location) : Written :=
  let written := c.write t cwd
  ⟨written.map fun _ => c.outputPath, written.toOption.getD t, c.writeEvents written⟩

end BuildSettings.Configuration
