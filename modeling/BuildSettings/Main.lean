/-
# The program

Joins the stages of the command over the disk. Words and variables come as text,
and a path that is not text cannot be opened.
-/
import BuildSettings.Command

namespace BuildSettings.Program

/-- The fault of a system error number. -/
def faultOfNumber (e : IO.Error) (number : UInt32) : Fault :=
  if number = 2 then .notFound
  else if number = 20 then .notADirectory
  else if number = 21 then .isADirectory
  else if number = 36 then .nameTooLong
  else if number = 40 then .linkLoop
  else .other (toString e)

/-- The fault behind a failed call. -/
def faultOf (e : IO.Error) : Fault :=
  match e with
  | .noFileOrDirectory _ number _ => faultOfNumber e number
  | .inappropriateType _ number _ => faultOfNumber e number
  | .invalidArgument _ number _ => faultOfNumber e number
  | _ => .other (toString e)

/-- The variables that a run can ask for. -/
def processVariables : IO Command.Variables :=
  ([Threshold.logVariable, Command.colourVariable, Command.plainVariable]
    ++ Request.consulted).filterMapM fun name => do
    return (← IO.getEnv name).map fun value => (Utf8.encode name, Utf8.encode value)

/-- The path that another stands for on the disk. -/
def canonical (path : Bytes) : IO (Except Fault Bytes) := do
  try
    let found ← IO.FS.realPath (Utf8.lossy path)
    return .ok (Utf8.encode found.toString)
  catch e => return .error (faultOf e)

/-- A configuration written to the disk. -/
def write (c : Configuration) : IO (Option Error) := do
  try
    IO.FS.writeFile (Utf8.lossy c.outputPath) (Makefile.render c.settings)
    return none
  catch e => return some (.unwritten c.outputPath (faultOf e))

/-- A run over the disk. -/
def run (words : List Bytes) : IO Command.Outcome := do
  let vars ← processVariables
  match Command.prepare vars words with
  | .error outcome => return outcome
  | .ok given =>
    match Command.plan given vars (← canonical given.root) with
    | .error outcome => return outcome
    | .ok (r, c) => return Command.conclude r c vars (← write c)

end BuildSettings.Program

def main (args : List String) : IO UInt32 := do
  let outcome ← BuildSettings.Program.run (args.map BuildSettings.Utf8.encode)
  IO.print outcome.stdout
  IO.eprint outcome.stderr
  return outcome.code.toUInt32
