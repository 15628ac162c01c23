import ClusterHealth.Cql.Effect
import ClusterHealth.Cql.Statement
import ClusterHealth.Failure
import ClusterHealth.Replication
import ClusterHealth.Trace

/-!
# `ClusterHealth.Cluster.Script` — a cluster that follows a script

A run can be rehearsed against a scripted cluster. The script fixes the hosts, the keyspaces, which
statements and connections fail, how each read goes, and what the clock shows. The keyspaces change as
statements are executed; all lists of the script are used up from the front. Rows are kept by the name of
their keyspace, which need not exist when they are inserted: making or dropping it clears them.
-/

namespace ClusterHealth

open ClusterHealth.Number ClusterHealth.Retry ClusterHealth.Cql

namespace Cluster

/-- An attempt of a read that fails: at the level in use and after as many retries as were made, unless
the script says otherwise. -/
structure AttemptScript where
  kind : FailureKind
  level : Option Level
  retries : Option Int
  responses : Int
  required : Int
  dataRetrieved : Bool
  deriving DecidableEq, Repr

/-- What happens when the trace of a read is fetched. -/
inductive TraceScript where
  /-- One event from each host. -/
  | fromHosts
  | absent
  | failing (failure : Failure)
  | events (events : List Trace.Event)

/-- How a read goes. -/
structure ReadScript where
  attempts : List AttemptScript
  /-- Whether the process is told to end while it waits. -/
  terminated : Bool
  failure : Option Failure
  /-- The keys that are found; those of the keyspace if the script does not say. -/
  rows : Option (List Value)
  /-- A failure after the last row. -/
  lateFailure : Option Failure
  trace : TraceScript

/-- A read that goes well. -/
def ReadScript.plain : ReadScript :=
  ⟨[], false, none, none, none, .fromHosts⟩

end Cluster

/-- A cluster that follows a script. -/
structure Cluster where
  hosts : List Value
  /-- The options of the replication of each keyspace. -/
  keyspaces : List (String × Replication.Options)
  /-- The keys that were inserted under the name of a keyspace. -/
  rows : List (String × List Value)
  /-- For each cluster object to come, its failure if it cannot be made. -/
  builds : List (Option Failure)
  /-- For each connection to come, its failure if it fails. -/
  connections : List (Option Failure)
  /-- Failures of statements, by the number of the statement. -/
  failures : List (Nat × Failure)
  /-- How many statements there were. -/
  executed : Nat
  reads : List Cluster.ReadScript
  /-- What the clock shows from now on; the last reading stays. -/
  clock : List Binary64
  lastReading : Binary64

namespace Cluster

/-- Nothing but a clock that stands still. -/
def empty : Cluster :=
  ⟨[], [], [], [], [], [], 0, [], [], .zero⟩

/-- The next cluster object: its failure, if it cannot be made. -/
def nextBuild (c : Cluster) : Option Failure × Cluster :=
  match c.builds with
  | [] => (none, c)
  | failure :: rest => (failure, { c with builds := rest })

/-- The next connection: its failure, if it fails. -/
def nextConnection (c : Cluster) : Option Failure × Cluster :=
  match c.connections with
  | [] => (none, c)
  | failure :: rest => (failure, { c with connections := rest })

/-- The next statement: its failure, if it fails. -/
def nextStatement (c : Cluster) : Option Failure × Cluster :=
  (Pairs.get? c.executed c.failures, { c with executed := c.executed + 1 })

/-- The next read. -/
def nextRead (c : Cluster) : ReadScript × Cluster :=
  match c.reads with
  | [] => (.plain, c)
  | script :: rest => (script, { c with reads := rest })

/-- The next reading of the clock. -/
def nextReading (c : Cluster) : Binary64 × Cluster :=
  match c.clock with
  | [] => (c.lastReading, c)
  | reading :: rest => (reading, { c with clock := rest, lastReading := reading })

/-- The options of a keyspace of exactly this name. -/
def replication? (c : Cluster) (keyspace : String) : Option Replication.Options :=
  Pairs.get? keyspace c.keyspaces

/-- The keys under a name. -/
def keysOf (c : Cluster) (keyspace : String) : List Value :=
  (Pairs.get? keyspace c.rows).getD []

/-- A keyspace with options and keys. -/
def withKeyspace (c : Cluster) (keyspace : String) (options : Replication.Options) (keys : List Value) :
    Cluster :=
  { c with keyspaces := Pairs.put keyspace options c.keyspaces, rows := Pairs.put keyspace keys c.rows }

/-- No keyspace of a name, and no keys under it. -/
def withoutKeyspace (c : Cluster) (keyspace : String) : Cluster :=
  { c with keyspaces := Pairs.erase keyspace c.keyspaces, rows := Pairs.erase keyspace c.rows }

/-- One more key under a name. -/
def withKey (c : Cluster) (keyspace : String) (key : Value) : Cluster :=
  { c with rows := Pairs.put keyspace (c.keysOf keyspace ++ [key]) c.rows }

/-- The options of a keyspace that a statement made. -/
def simpleOptions (factor : String) : Replication.Options :=
  [("class", .text "SimpleStrategy"), ("replication_factor", .text factor)]

/-- The cluster after a statement. -/
def after (c : Cluster) (r : Request) : Cluster :=
  match Effect.ofText r.text with
  | .create keyspace factor => c.withKeyspace keyspace (simpleOptions factor) []
  | .drop keyspace => c.withoutKeyspace keyspace
  | .insert keyspace =>
    match r.parameters with
    | some (key :: _) => c.withKey keyspace key
    | _ => c
  | .nothing => c

/-- The keys that a query finds. -/
def rowsOf (c : Cluster) (q : Query) : List Value :=
  ((Effect.source? q.text.toList).map c.keysOf).getD []

/-- A row with its one column. -/
def row (key : Value) : Value :=
  .map [(keyColumn, key)]

/-- The events of a trace to which every host contributes one. -/
def hostEvents (c : Cluster) : List Trace.Event :=
  c.hosts.map fun host => ⟨host, none, none, none⟩

end Cluster

end ClusterHealth
