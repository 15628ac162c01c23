import ClusterHealth.Probe

/-!
# `ClusterHealth.Check` — one run, one verdict

A check takes the nodes, brings the keyspace to one copy for each of them, probes it, and tells the
verdict. Failures of the store make the cluster unreachable; all others end the run. After a downgrade the
trace shows which nodes took no part.
-/

namespace ClusterHealth

open ClusterHealth.Number ClusterHealth.Retry

namespace Check

variable {σ : Type}

/-- The nodes that the coordinator knows; without any there is no check. -/
def takeSnapshot (store : Store σ) : Action σ Topology.Snapshot := do
  match Topology.Snapshot.ofNodes? (Topology.nodeNames (← store.hosts)) with
  | none => throw .emptyTopology
  | some snapshot =>
    store.report (.snapshotTaken snapshot.nodes)
    return snapshot

/-- What is reported about a failure that makes the cluster unreachable. -/
def unreachableNotice : Failure → Notice
  | .noHosts message errors => .noHostsAvailable (Failure.text (.noHosts message errors))
  | e => .clusterUnreachable e.text

/-- The report of an unreachable cluster. -/
def unreachableReport (e : Failure) (snapshot : Option Topology.Snapshot) (latency : Binary64) : Report :=
  ⟨.unreachable, snapshot, none, none, some e.text, latency⟩

/-- The report of a cluster that answered in full. -/
def healthyReport (snapshot : Topology.Snapshot) (latency : Binary64) : Report :=
  ⟨.healthy, some snapshot, none, none, none, latency⟩

/-- The report of a cluster that answered at a weaker level. -/
def degradedReport (snapshot : Topology.Snapshot) (decision : Downgrade) (reading : Reading)
    (latency : Binary64) : Report :=
  ⟨.degraded, some snapshot, some decision, Trace.missingNodes? reading.trace snapshot, none, latency⟩

/-- What is reported about the nodes that are missing. -/
def missingNotices : Option Network.NodeSet → List Notice
  | none => [.missingUnknown]
  | some nodes => if nodes.toList = [] then [] else [.hostsMissing nodes]

/-- What is reported about a weaker level. -/
def degradedNotices (snapshot : Topology.Snapshot) (decision : Downgrade) (reading : Reading) :
    List Notice :=
  .downgraded decision.granted :: Trace.notices reading.trace
    ++ missingNotices (Trace.missingNodes? reading.trace snapshot)

/-- The verdict on a probe, and what is reported about it. -/
def verdict (snapshot : Topology.Snapshot) (o : Outcome) : Report × List Notice :=
  match o.result, o.decision with
  | .error e, _ => (unreachableReport e (some snapshot) o.latency, [unreachableNotice e])
  | .ok _, none =>
    (healthyReport snapshot o.latency, [.allAnswered snapshot.size o.latency])
  | .ok reading, some decision =>
    (degradedReport snapshot decision reading o.latency, degradedNotices snapshot decision reading)

/-- Reports a failure and makes a report of it. -/
def unreachable (store : Store σ) (e : Failure) (snapshot : Option Topology.Snapshot) :
    Action σ Report := do
  store.report (unreachableNotice e)
  return unreachableReport e snapshot .zero

/-- The probe and its verdict, once the keyspace is in place. -/
def probe (store : Store σ) (names : Schema.Names) (snapshot : Topology.Snapshot) : Action σ Report := do
  let (_, result) ← (Probe.ofNames names).run store
  let (report, notices) := verdict snapshot (← result)
  store.reportAll notices
  return report

/-- One check. -/
def run (store : Store σ) (names : Schema.Names) : Action σ Report := do
  match ← (takeSnapshot store).outcome with
  | .error e => if e.isStore then unreachable store e none else throw e
  | .ok snapshot =>
    match ← (Schema.reconcile store names.folded snapshot).outcome with
    | .error e => if e.isStore then unreachable store e (some snapshot) else throw e
    | .ok _ => probe store names snapshot

end Check

end ClusterHealth
