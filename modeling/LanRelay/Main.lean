/-
The command line.

The configuration that a task reads is fetched beforehand, so that carrying
out the task is a function of it. What remains to be done on the network is
not done here.
-/
import LanRelay.Cli.Execution

namespace LanRelay.Cli

/-- What stands at a path of this system. -/
def entryAt (path : String) : IO (Option FileEntry) := do
  try
    let bytes ← IO.FS.readBinFile path
    return some (.file bytes.data.toList)
  catch
    | .noFileOrDirectory .. => return none
    | _ => return some .directory

/-- Help and the version are asked for; all else is a mistake. -/
def exitCode : UsageFault → UInt32
  | .helpAsked | .versionAsked => 0
  | _ => 2

/-- Carry out a command line, and give the exit code. -/
def runCommandLine (words : List String) : IO UInt32 := do
  let environment ← environmentNames.mapM fun name => do
    return (name, ← IO.getEnv name)
  match Invocation.parse (fun name => (environment.lookup name).join) words with
  | .error fault =>
      IO.eprintln fault.kind
      return exitCode fault
  | .ok invocation =>
      let task := invocation.task
      let entry ← (task.configPath?.mapM entryAt : IO _)
      match task.execute fun _ => entry.join with
      | .done output =>
          IO.print output
          return 0
      | .failed message output =>
          IO.print output
          IO.eprintln s!"Error: {message}"
          return 1
      | .aborted =>
          IO.eprintln "attempt to multiply with overflow"
          return 101
      | .ready _ =>
          IO.eprintln "Error: no network to run on"
          return 1

end LanRelay.Cli

def main (words : List String) : IO UInt32 :=
  LanRelay.Cli.runCommandLine words
