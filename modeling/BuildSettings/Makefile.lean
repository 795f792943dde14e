/-
# The make include file

A table is written as one assignment a line, and then one export a line so that
scripts run from the build see the settings too. Values stand as they are.

Key definitions: `Makefile.render`.
-/
import BuildSettings.Settings

namespace BuildSettings.Makefile

/-- The comment at the top. -/
def header : String := "# These variables are generated by config.py"

/-- The line that assigns a setting. -/
def assignment (p : String × String) : String :=
  p.1 ++ " := " ++ p.2 ++ "\n"

/-- The line that exports a setting. -/
def exportLine (name : String) : String :=
  "export " ++ name ++ "\n"

/-- The include file of a table. -/
def render (s : Settings) : String :=
  "\n" ++ header ++ "\n\n"
    ++ String.join (s.toList.map assignment) ++ "\n"
    ++ String.join (s.names.map exportLine) ++ "\n"

end BuildSettings.Makefile
