import Switchboard.Cli.Run
import Switchboard.Live.Clock
/-
# The server program

Reads the command line; prints the help or the refusal and exits with 0 or 2.
Otherwise it seeds the demo when asked, starts the realtime core, and reports that it
listens. Standard input stands in for the stop signal here: the program serves until
its input ends, then shuts the core down and exits with 0.
-/
open Switchboard Switchboard.Cli

/-- Waits until standard input ends. -/
partial def waitForEnd (stdin : IO.FS.Stream) : IO Unit := do
  let line ← stdin.getLine
  if line.isEmpty then return
  waitForEnd stdin

/-- Runs the server program. -/
def main (args : List String) : IO UInt32 := do
  match parseArgs args with
  | .error .help =>
    IO.print helpText
    return 0
  | .error (.refused e) =>
    IO.eprint e.render
    return 2
  | .ok s =>
    let store := if s.demo then demoStore else {}
    if s.demo then IO.println seededLine
    let world := Live.World.start { access := { store } } s.config
    if !bindable s.host then
      IO.println "Server error: failed to lookup address information: Name or service not known"
      return 1
    for l in listeningLines s do IO.println l
    waitForEnd (← IO.getStdin)
    IO.println (receivedLine .interrupt)
    let world := world.shutdown
    if world.onlineUserIds.isEmpty then IO.println shutdownLine
    return 0
