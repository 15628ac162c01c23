import ClusterHealth.Host
import ClusterHealth.Logging
import ClusterHealth.Run
import ClusterHealth.Text.Style

/-!
# `ClusterHealth.Command` — the command as a whole

The exit code tells the verdict: 0, 1 and 2 for a healthy, a degraded and an unreachable cluster, 2 also
for a command line or settings that are not valid, and 3 if the lock cannot be had. The verdict is the
only thing that is printed, without terminal styles. A failure that nobody expects ends the process with 1.
-/

namespace ClusterHealth.Command

open ClusterHealth.Machine

/-- How the command ends. -/
structure Ending where
  exitCode : Nat
  /-- What was printed. -/
  output : String
  /-- A failure that nobody expected. -/
  crash : Option Failure
  /-- What the log lets through. -/
  threshold : Severity

/-- What the log shows of a run. -/
def Ending.shown (e : Ending) (m : Machine) : List Notice :=
  m.notices.filter fun n => e.threshold.rank ≤ n.severity.rank

/-- The exit code of a command that is not used as it should be. -/
def usageCode : Nat := 2

/-- The exit code of a run that cannot have its lock. -/
def refusedCode : Nat := 3

/-- The exit code of a failure that nobody expects. -/
def crashCode : Nat := 1

/-- What is added to the number of a signal that ended the process. -/
def signalCode : Nat := 128

/-- Nothing was done. -/
def Ending.silent (code : Nat) : Ending := ⟨code, "", none, .info⟩

/-- Some work during which the process cleans up before it ends when it is told to end. -/
def endingCleanly {α : Type} (work : StateM Machine α) : StateM Machine α := do
  let before := (← get).endsCleanly
  modify fun m => { m with endsCleanly := true }
  let result ← work
  modify fun m => { m with endsCleanly := before }
  return result

/-- How a run ends the command. -/
def endingOf (threshold : Severity) : Except Failure Report → Ending
  | .ok r =>
    match r.summary with
    | .ok line => ⟨r.status.code, Text.unstyled line ++ "\n", none, threshold⟩
    | .error e => ⟨crashCode, "", some e, threshold⟩
  | .error e =>
    match e with
    | .alreadyRunning .. | .lockFile .. => ⟨refusedCode, "", none, threshold⟩
    | .terminated signal => ⟨signalCode + signal, "", none, threshold⟩
    | _ => ⟨crashCode, "", some e, threshold⟩

/-- A run refused for its lock is reported. -/
def reportRefusal : Except Failure Report → StateM Machine Unit
  | .error (.alreadyRunning lock holder) =>
    report (.runRefused (Failure.text (.alreadyRunning lock holder)))
  | .error (.lockFile lock reason) => report (.runRefused (Failure.text (.lockFile lock reason)))
  | _ => pure ()

/-- A run with valid settings. -/
def runWith (s : Settings) (process : Nat) : StateM Machine Ending := do
  let result ← endingCleanly do
    let result ← (Run.run s ⟨s.lockFile, process⟩).run
    reportRefusal result
    return result
  return endingOf (Logging.threshold s.debug) result

/-- No place was found for temporary files, so the command could not start. -/
def Ending.unstarted : Ending := ⟨crashCode, "", some (.system .notFound), .info⟩

/-- The settings that words and environment ask for, or how the command ends without a run. A request for
help comes before anything that is wrong with values. -/
def request (words : List String) (environment : List (String × String)) (host : Host) (fs : FileSystem) :
    Except Ending Settings :=
  match host.owner? fs environment with
  | none => .error .unstarted
  | some owner =>
    match CommandLine.parse words with
    | .error _ => .error (.silent usageCode)
    | .ok parsed =>
      if parsed.help then .error (.silent 0)
      else
        match parsed.arguments? host.reader fs with
        | none => .error (.silent usageCode)
        | some arguments =>
          match Settings.ofSource ⟨arguments, environment, owner⟩ with
          | .error _ => .error (.silent usageCode)
          | .ok s => .ok s

/-- The command: its words, the environment, the number of the process and the host. -/
def run (words : List String) (environment : List (String × String)) (process : Nat) (host : Host) :
    StateM Machine Ending := do
  match request words environment host (← onFiles fun fs => (fs, fs)) with
  | .error ending => return ending
  | .ok s => runWith s process

theorem run_apply (words : List String) (environment : List (String × String)) (process : Nat) (host : Host)
    (m : Machine) : run words environment process host m =
      match request words environment host m.files with
      | .error ending => (ending, m)
      | .ok s => runWith s process m := by
  show (match request words environment host m.files with
    | .error ending => pure ending
    | .ok s => runWith s process : StateM Machine Ending) m = _
  cases request words environment host m.files with
  | error ending => rfl
  | ok s => rfl

end ClusterHealth.Command
