import ClusterHealth.Failure
import ClusterHealth.Notice
import ClusterHealth.Topology
import ClusterHealth.Trace

/-!
# `ClusterHealth.Report` — the verdict of a run

A probe that failed makes the cluster unreachable, a downgrade makes it degraded, anything else is
healthy. The number of a status is the exit code of the command, and `Report.summary` is the line that it
prints.
-/

namespace ClusterHealth

open ClusterHealth.Text ClusterHealth.Number ClusterHealth.Network ClusterHealth.Retry

/-! ## Status -/

/-- The verdict in one word. -/
inductive Status where
  | healthy
  | degraded
  | unreachable
  deriving DecidableEq, Repr

namespace Status

/-- The word for a status. -/
def label : Status → String
  | .healthy => "HEALTHY"
  | .degraded => "DEGRADED"
  | .unreachable => "UNREACHABLE"

/-- The exit code for a status. -/
def code : Status → Nat
  | .healthy => 0
  | .degraded => 1
  | .unreachable => 2

/-- The status that a word names. -/
def ofLabel? (s : String) : Option Status :=
  [healthy, degraded, unreachable].find? (·.label = s)

end Status

/-! ## Outcome of the probe -/

/-- What a read gave: its rows, and the events of its trace if there is one. -/
structure Reading where
  rows : List Value
  trace : Option (List Trace.Event)

/-- What is known after the probe. -/
structure Outcome where
  result : Except Failure Reading
  /-- The downgrade that was recorded, if any. -/
  decision : Option Downgrade
  /-- In milliseconds. -/
  latency : Binary64

/-- The verdict on a probe. -/
def Outcome.status (o : Outcome) : Status :=
  match o.result, o.decision with
  | .error _, _ => .unreachable
  | .ok _, some _ => .degraded
  | .ok _, none => .healthy

/-! ## Report -/

/-- The result of a run. -/
structure Report where
  status : Status
  snapshot : Option Topology.Snapshot
  decision : Option Downgrade
  /-- The nodes that left no event; `none` if nothing is known about them. -/
  missing : Option NodeSet
  error : Option String
  /-- In milliseconds. -/
  latency : Binary64

namespace Report

/-- The nodes that are missing: unknown without a trace, `none` where no name is left to print. -/
def missingText : Option NodeSet → String
  | none => "unknown"
  | some nodes =>
    let names := String.intercalate ", " nodes.toList
    if names = "" then "none" else names

/-- The line that tells the verdict. A degraded report must have its downgrade. -/
def summary (r : Report) : Except Failure String :=
  match r.status with
  | .healthy =>
    .ok (Status.healthy.label ++ " (" ++ decimal ((r.snapshot.map (·.size)).getD 0)
      ++ " nodes answered at ALL in " ++ r.latency.fixed 0 ++ "ms)")
  | .degraded =>
    match r.decision with
    | none => .error .downgradeMissing
    | some d =>
      .ok (Status.degraded.label ++ " (consistency downgraded to " ++ Level.text d.granted
        ++ "; missing: " ++ missingText r.missing ++ ")")
  | .unreachable => .ok (Status.unreachable.label ++ " (" ++ r.error.getD "None" ++ ")")

end Report

end ClusterHealth
