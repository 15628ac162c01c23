import ClusterHealth.Cql.Statement
import ClusterHealth.Replication
import ClusterHealth.Report
import ClusterHealth.Retry.Recorder

/-!
# `ClusterHealth.Store` — what a check needs of a data store

A check is written against a `Store`: the few things that it asks of a cluster, and of the place where it
runs. Each is an `Action`, which may change the state of that place and may fail; what was changed before
a failure stays changed.
-/

namespace ClusterHealth

open ClusterHealth.Number ClusterHealth.Retry

/-- A step of the program over a state `σ`. -/
abbrev Action (σ : Type) := ExceptT Failure (StateM σ)

namespace Action

variable {σ α β : Type}

/-- The result of an action, be it a failure. -/
def outcome (act : Action σ α) : Action σ (Except Failure α) :=
  fun s => let (result, s) := act.run s; (.ok result, s)

/-- What to do about some failures of an action; the others stay. -/
def handle (act : Action σ α) (caught : Failure → Bool) (handler : Failure → Action σ α) :
    Action σ α := do
  match ← act.outcome with
  | .ok a => return a
  | .error e => if caught e then handler e else throw e

/-- An action whose transport failures become failures of the store. -/
def wrappingTransport (act : Action σ α) : Action σ α := do
  match ← act.outcome with
  | .ok a => return a
  | .error e => throw e.wrapTransport

end Action

/-- What a check needs of a cluster and of the place where it runs. -/
structure Store (σ : Type) where
  /-- The addresses of all hosts. -/
  hosts : Action σ (List Value)
  /-- The options of a keyspace's replication, if there is such a keyspace. -/
  replication : String → Action σ (Option Replication.Options)
  execute : Cql.Request → Action σ Unit
  /-- A read whose failed attempts are handed to the recorder. -/
  read : Cql.Query → Recorder → StateM σ (Recorder × Except Failure Reading)
  report : Notice → StateM σ Unit
  /-- A clock that never runs backwards, in seconds. -/
  clock : StateM σ Binary64

/-- Reports one thing after the other. -/
def Store.reportAll {σ : Type} (store : Store σ) (notices : List Notice) : StateM σ Unit :=
  notices.forM store.report

end ClusterHealth
