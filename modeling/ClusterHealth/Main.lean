import ClusterHealth.Command

/-!
# `ClusterHealth.Main` — the command, rehearsed

Runs the command against a cluster of one node that answers every request, on a file system of its own
that starts empty. Options and environment count as they would in earnest, but nothing outside the process
is touched. The log goes to standard error.
-/

namespace ClusterHealth.Rehearsal

/-- A machine with nothing on it, that can reach a cluster of one node. -/
def machine : Machine :=
  .ofParts .initial { Cluster.empty with hosts := [.text "127.0.0.1"] }

/-- The variables of the environment that name a setting. -/
def environment : IO (List (String × String)) :=
  Settings.Field.all.filterMapM fun field => do
    let name := field.variableName.toUpper
    return (← IO.getEnv name).map (name, ·)

/-- A line of the log. -/
def line (n : Notice) : String :=
  n.severity.label ++ " " ++ n.source ++ ": " ++ n.text

end ClusterHealth.Rehearsal

open ClusterHealth in
/-- Rehearses the command with some words. -/
def main (words : List String) : IO UInt32 := do
  let (ending, m) := (Command.run words (← Rehearsal.environment) 1 (Host.plain 0)).run Rehearsal.machine
  (ending.shown m).forM fun n => IO.eprintln (Rehearsal.line n)
  if let some failure := ending.crash then IO.eprintln failure.text
  IO.print ending.output
  return ending.exitCode.toUInt32
