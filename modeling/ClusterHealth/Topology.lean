import ClusterHealth.Network.NodeSet
import ClusterHealth.Value

/-!
# `ClusterHealth.Topology` — the nodes of a cluster

`nodeName` gives a node one name whatever notation its address comes in. A `Snapshot` is the set of
names of the nodes that a coordinator knows of, taken once per run; it is never empty.
-/

namespace ClusterHealth

open ClusterHealth.Text ClusterHealth.Network

namespace Topology

/-- The canonical text of an address; any other text stays, without blanks at its ends. -/
def canonicalText (s : String) : String :=
  let stripped := strip s
  match Address.parse? stripped with
  | some a => a.text
  | none => stripped

/-- The name of the node that a value denotes. -/
def nodeName (v : Value) : String :=
  canonicalText v.display

/-- The names of the nodes that values denote. -/
def nodeNames (hosts : List Value) : NodeSet :=
  .ofList (hosts.map nodeName)

/-- The nodes known at the start of a run. -/
structure Snapshot where
  nodes : NodeSet
  nonempty : nodes.toList ≠ []
  deriving DecidableEq

/-- A snapshot of some nodes; `none` without any. -/
def Snapshot.ofNodes? (nodes : NodeSet) : Option Snapshot :=
  if h : nodes.toList = [] then none else some ⟨nodes, h⟩

/-- The number of nodes. -/
def Snapshot.size (s : Snapshot) : Nat :=
  s.nodes.size

/-- Whether a value is the name of a node, as it stands; `none` for a list or a map, which cannot be
looked up. -/
def Snapshot.contains? (s : Snapshot) : Value → Option Bool
  | .text name => some (decide (name ∈ s.nodes))
  | .list _ | .map _ => none
  | _ => some false

end Topology

end ClusterHealth
