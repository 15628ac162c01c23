import ClusterHealth.Store
import ClusterHealth.Text.Case

/-!
# `ClusterHealth.Schema` — keeping the keyspace on every node

A read at level ALL tells something about every node only if every node has a copy of the row. The number
of copies is therefore kept equal to the number of nodes: a missing keyspace is made, one with another
number is dropped and made anew, and one with the right number is left alone.
-/

namespace ClusterHealth.Schema

open ClusterHealth.Text ClusterHealth.Cql

/-- The keyspace and the table of a check. -/
structure Names where
  keyspace : String
  table : String
  deriving DecidableEq, Repr

/-- The names as a cluster stores them: in small letters. -/
def Names.folded (n : Names) : Names :=
  ⟨lower n.keyspace, lower n.table⟩

/-! ## The plan -/

/-- What makes the keyspace, its table and the row in it. -/
def creation (n : Names) (factor : Int) : List Statement :=
  [.createKeyspace n.keyspace factor, .createTable n.keyspace n.table, .insertSeed n.keyspace n.table]

/-- What gives the keyspace as many copies as wanted; `found` is the number that it has, if it exists. -/
def plan (n : Names) (found : Option Int) (wanted : Int) : List Statement :=
  match found with
  | none => creation n wanted
  | some factor => if factor = wanted then [] else .dropKeyspace n.keyspace :: creation n wanted

/-- What is reported about the plan. -/
def planNotice (n : Names) (found : Option Int) (wanted : Int) : Notice :=
  match found with
  | none => .creatingKeyspace n.keyspace wanted
  | some factor =>
    if factor = wanted then .keyspaceInPlace n.keyspace factor
    else .recreatingKeyspace n.keyspace factor wanted

/-! ## Carrying it out -/

variable {σ : Type}

/-- The number of copies that the keyspace has; `none` if it does not exist. -/
def describe (store : Store σ) (n : Names) : Action σ (Option Int) := do
  match ← store.replication n.keyspace with
  | none => return none
  | some options =>
    match Replication.ofOptions options with
    | .ok replication => return some replication.factor
    | .error issues => throw (.invalid issues)

/-- Statements sent one after the other. -/
def executeAll (store : Store σ) (statements : List Statement) : Action σ Unit :=
  statements.forM fun s => store.execute s.request

/-- The keyspace made, with its table and the row. -/
def create (store : Store σ) (n : Names) (factor : Int) : Action σ Unit :=
  executeAll store (creation n factor)

/-- The keyspace dropped. -/
def drop (store : Store σ) (n : Names) : Action σ Unit :=
  executeAll store [.dropKeyspace n.keyspace]

/-- The keyspace brought to one copy for each node of a snapshot; returns the number of copies. -/
def reconcile (store : Store σ) (n : Names) (snapshot : Topology.Snapshot) : Action σ Int := do
  let found ← describe store n
  store.report (planNotice n found snapshot.size)
  executeAll store (plan n found snapshot.size)
  return snapshot.size

end ClusterHealth.Schema
