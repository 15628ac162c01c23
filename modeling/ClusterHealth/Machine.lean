import ClusterHealth.Cluster.Script
import ClusterHealth.Settings
import ClusterHealth.Store
import ClusterHealth.FileSystem.Open

/-!
# `ClusterHealth.Machine` — where a run takes place

A machine has files and can reach a cluster. Its journal keeps, in order, everything that was observed:
what the program reported, the statements that it sent, and its calls to the cluster.
-/

namespace ClusterHealth

open ClusterHealth.Number ClusterHealth.Cql

namespace Machine

/-- How a cluster is to be reached. -/
structure Connection where
  contactPoints : List String
  portNumber : Int
  /-- User and password. -/
  credentials : Option (String × String)
  connectTimeout : Binary64
  requestTimeout : Binary64
  /-- The only hosts that requests may go to. -/
  allowedHosts : List String
  deriving DecidableEq

/-- A call to the cluster, or the answer of the program to a failed attempt. -/
inductive Call where
  | build (connection : Connection)
  | connect
  | retry (level : Level)
  | rethrow
  | fetchTrace (wait : Binary64)
  | closeSession
  | closeCluster
  deriving DecidableEq

/-- Something that was observed. -/
inductive Event where
  | notice (notice : Notice)
  | statement (request : Request)
  | query (query : Query)
  | call (call : Call)
  /-- The lock on a file was dropped, and the file closed. -/
  | unlocked (path : Path)

end Machine

/-- Where a run takes place. -/
structure Machine where
  files : FileSystem
  cluster : Cluster
  journal : List Machine.Event
  /-- Whether the program cleans up before it ends when it is told to end. -/
  endsCleanly : Bool

namespace Machine

/-- A machine on which nothing has happened. -/
def ofParts (files : FileSystem) (cluster : Cluster) : Machine :=
  ⟨files, cluster, [], false⟩

/-- One more event in the journal. -/
def observe (e : Event) : StateM Machine Unit :=
  modify fun m => { m with journal := m.journal ++ [e] }

/-- Reports an event of the run. -/
def report (n : Notice) : StateM Machine Unit :=
  observe (.notice n)

/-- A step of the scripted cluster. -/
def onCluster {α : Type} (f : Cluster → α × Cluster) : StateM Machine α := fun m =>
  let (a, c) := f m.cluster
  (a, { m with cluster := c })

/-- A step on the files. -/
def onFiles {α : Type} (f : FileSystem → α × FileSystem) : StateM Machine α := fun m =>
  let (a, fs) := f m.files
  (a, { m with files := fs })

/-- Everything that was reported. -/
def notices (m : Machine) : List Notice :=
  m.journal.filterMap fun
    | .notice n => some n
    | _ => none

end Machine

end ClusterHealth
