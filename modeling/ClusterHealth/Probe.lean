import ClusterHealth.Schema

/-!
# `ClusterHealth.Probe` — one read that every node must answer

The probe reads the row of its table at level ALL, traced. It owns a recorder, which starts afresh with
every read, so that a downgrade belongs to the read that it was made for. A failure of the store is part
of the outcome; any other failure ends the run.
-/

namespace ClusterHealth

open ClusterHealth.Number ClusterHealth.Retry ClusterHealth.Cql

/-- A probe of a table, with what it last recorded. -/
structure Probe where
  names : Schema.Names
  recorder : Recorder
  deriving DecidableEq, Repr

namespace Probe

/-- A probe that has recorded nothing. -/
def ofNames (n : Schema.Names) : Probe := ⟨n, .fresh⟩

/-- The read. -/
def query (p : Probe) : Query :=
  ⟨(Statement.selectSeed p.names.keyspace p.names.table).text, [.text seedKey], Level.all, true⟩

/-- The time between two readings of a clock, in milliseconds. -/
def elapsed (started ended : Binary64) : Binary64 :=
  (ended.sub started).mul (.ofInt 1000)

/-- What is reported about a read that was served. -/
def notices (p : Probe) (reading : Reading) (latency : Binary64) : List Notice :=
  .readCompleted latency ::
    if reading.rows.isEmpty then [.noSeedRow p.names.keyspace p.names.table] else []

variable {σ : Type}

/-- One read: the probe with what it recorded, and the outcome. -/
def run (store : Store σ) (p : Probe) : StateM σ (Probe × Except Failure Outcome) := do
  let started ← store.clock
  let (recorder, result) ← store.read p.query .fresh
  let probe : Probe := ⟨p.names, recorder⟩
  match result with
  | .ok reading =>
    let latency := elapsed started (← store.clock)
    store.reportAll (p.notices reading latency)
    return (probe, .ok ⟨.ok reading, recorder.last, latency⟩)
  | .error e =>
    if e.isStore then
      let latency := elapsed started (← store.clock)
      return (probe, .ok ⟨.error e, recorder.last, latency⟩)
    else return (probe, .error e)

end Probe

end ClusterHealth
