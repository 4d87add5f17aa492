import MiniLisp.CommandLine

open MiniLisp

def settingNames : List String := ["LISPY_PROMPT", "LISPY_LOGLEVEL", "LISPY_RECURSION_LIMIT"]

def readVariables : IO Variables :=
  settingNames.filterMapM fun name => do return (← IO.getEnv name).map (name, ·)

partial def talk (prompt : String) (session : Session) : IO Unit := do
  let output ← IO.getStdout
  output.putStr prompt
  output.flush
  let line ← (← IO.getStdin).getLine
  if line.isEmpty then output.putStrLn ""
  else
    let (written, session) := session.respond depthLimit line
    output.putStr written
    talk prompt session

def dies (failure : RunFailure) : IO UInt32 := do
  IO.eprintln failure.className
  return 1

def usage : String := "usage: [-h] [-c COMMAND] [--prompt PROMPT] [--log-level LOG_LEVEL]"

def main (words : List String) : IO UInt32 := do
  match CommandLine.read words with
  | .helpAsked =>
    IO.println usage
    return 0
  | .rejected =>
    IO.eprintln usage
    return 2
  | .accepted line =>
    let shell ← readVariables
    let limit := CommandLine.limitFor shell Settings.defaultDepthLimit
    match limit, line.command, line.promptFor shell with
    | .error failure, _, _ => dies failure
    | .ok _, some command, _ =>
      let (succeeded, written) := CommandLine.runCommand depthLimit command
      IO.print written
      return if succeeded then 0 else 1
    | .ok _, none, .error failure => dies failure
    | .ok _, none, .ok prompt =>
      talk prompt Session.start
      return 0
