import CqlGateway.CommandLine.Run

/-! The program. It reads the files that its command line names, and prints the outcome. -/

namespace CqlGateway.CommandLine

/-- What the system's error says of a file. -/
def faultOf : IO.Error → FileFault
  | .noFileOrDirectory _ _ _ => .missing
  | .inappropriateType _ code _ => if code = 21 then .isDirectory else .notDirectory
  | error => .reported (toString error)

/-- The text of a file. -/
def readText (path : String) : IO (Except FileFault String) := do
  try
    let bytes ← IO.FS.readBinFile path
    match String.fromUTF8? bytes with
    | some text => return .ok text
    | none => return .error .notText
  catch error =>
    return .error (faultOf error)

/-- What is around the program when it runs a command line. -/
def surroundingsOf (words : List String) : IO Surroundings := do
  let standardPath := Surroundings.settingsPath (← IO.getEnv "XDG_CONFIG_HOME") (← IO.getEnv "HOME")
  let paths :=
    match Invocation.ofWords words with
    | .ok invocation => invocation.paths standardPath
    | .error _ => []
  let files ← paths.mapM fun path => do
    let text ← readText path
    return (path, text)
  let terminal ← IO.getEnv "TERM"
  let noColor ← IO.getEnv "NO_COLOR"
  let time ← IO.monoMsNow
  return {
    fileText := fun path => (files.lookup path).getD (.error .missing)
    standardSettingsPath := standardPath
    engine := fun _ => .unreachable
    tracking := .first ("run-" ++ toString time)
    showsColors := Surroundings.terminalShowsColors terminal noColor.isSome
  }

end CqlGateway.CommandLine

def main (words : List String) : IO UInt32 := do
  let surroundings ← CqlGateway.CommandLine.surroundingsOf words
  let outcome := CqlGateway.CommandLine.run surroundings words
  IO.print outcome.output
  IO.eprint outcome.errors
  return outcome.status.toUInt32
