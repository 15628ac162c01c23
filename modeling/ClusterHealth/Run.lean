import ClusterHealth.Check
import ClusterHealth.Client
import ClusterHealth.Lock

/-!
# `ClusterHealth.Run` — one health check from lock to verdict

A run takes the lock, opens a session, makes its check, and leaves both behind. A failure of the store
that comes before the check makes the cluster unreachable as well.
-/

namespace ClusterHealth.Run

open ClusterHealth.Machine

/-- The names that settings give to the keyspace and the table. -/
def namesOf (s : Settings) : Schema.Names :=
  ⟨s.keyspace, s.table⟩

/-- A check in a session of its own. -/
def checked (s : Settings) : Action Machine Report :=
  Client.session s fun c => Check.run c.store (namesOf s)

/-- A check whose verdict on an unreachable cluster covers the session as well. -/
def judged (s : Settings) : Action Machine Report :=
  (checked s).handle Failure.isStore fun e => do
    report (Check.unreachableNotice e)
    return Check.unreachableReport e none .zero

/-- One run, under a lock. -/
def run (s : Settings) (lock : Lock.LockFile) : Action Machine Report := do
  let (report, _) ← Lock.hold lock fun _ => judged s
  return report

end ClusterHealth.Run
