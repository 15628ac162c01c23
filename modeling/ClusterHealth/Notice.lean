import ClusterHealth.Network.NodeSet
import ClusterHealth.Number.Decimal
import ClusterHealth.Path
import ClusterHealth.Retry.Decision
import ClusterHealth.Text.Quoted

/-!
# `ClusterHealth.Notice` — what the program reports while it works

Every line of the log is a `Notice`: an event of a run with what belongs to it. Its severity, the part
of the program that it comes from and its wording are functions of the event.
-/

namespace ClusterHealth

open ClusterHealth.Text ClusterHealth.Number ClusterHealth.Network ClusterHealth.Retry

/-- How grave an event is. -/
inductive Severity where
  | debug
  | info
  | warning
  | error
  | critical
  deriving DecidableEq, Repr

namespace Severity

/-- The word for a severity. -/
def label : Severity → String
  | .debug => "DEBUG"
  | .info => "INFO"
  | .warning => "WARNING"
  | .error => "ERROR"
  | .critical => "CRITICAL"

/-- The order of severities, with room between them. -/
def rank : Severity → Nat
  | .debug => 10
  | .info => 20
  | .warning => 30
  | .error => 40
  | .critical => 50

/-- All severities. -/
def all : List Severity := [.debug, .info, .warning, .error, .critical]

/-- The severity that a word names. -/
def ofLabel? (s : String) : Option Severity :=
  all.find? (·.label = s)

end Severity

/-- An event of a run. -/
inductive Notice where
  | rethrowing (attempt : FailedAttempt)
  | retrying (attempt : FailedAttempt) (level : Level)
  | downgradeIgnored (ignored recorded : Downgrade)
  | snapshotTaken (nodes : NodeSet)
  | eventSeen (description time source : String) (micros : Option Int)
  | creatingKeyspace (keyspace : String) (factor : Int)
  | recreatingKeyspace (keyspace : String) (factor target : Int)
  | keyspaceInPlace (keyspace : String) (factor : Int)
  | connecting (host : String) (portNumber : Int)
  | executing (statement : String)
  | traceUnavailable (reason : String)
  | traceNotFetched (reason : String)
  | readCompleted (latency : Binary64)
  | noSeedRow (keyspace table : String)
  | allAnswered (nodes : Nat) (latency : Binary64)
  | downgraded (level : Level)
  | missingUnknown
  | hostsMissing (nodes : NodeSet)
  | noHostsAvailable (reason : String)
  | clusterUnreachable (reason : String)
  | lockAcquired (path : Path)
  | lockReleased (path : Path)
  | runRefused (reason : String)
  deriving DecidableEq

namespace Notice

/-- How grave an event is. -/
def severity : Notice → Severity
  | .rethrowing .. | .retrying .. | .creatingKeyspace .. | .allAnswered .. => .info
  | .downgradeIgnored .. | .recreatingKeyspace .. | .noSeedRow .. | .downgraded ..
  | .missingUnknown => .warning
  | .hostsMissing .. | .noHostsAvailable .. | .clusterUnreachable .. | .runRefused .. => .error
  | _ => .debug

/-- The part of the program that reports an event. -/
def source : Notice → String
  | .rethrowing .. | .retrying .. | .downgradeIgnored .. => "retry"
  | .snapshotTaken .. => "topology"
  | .eventSeen .. => "trace"
  | .creatingKeyspace .. | .recreatingKeyspace .. | .keyspaceInPlace .. => "schema"
  | .connecting .. | .executing .. | .traceUnavailable .. | .traceNotFetched .. => "cassandra_client"
  | .readCompleted .. | .noSeedRow .. => "probe"
  | .allAnswered .. | .downgraded .. | .missingUnknown | .hostsMissing .. | .noHostsAvailable ..
  | .clusterUnreachable .. => "check"
  | .lockAcquired .. | .lockReleased .. => "lock"
  | .runRefused .. => "cli"

/-- The counts of a failed attempt. -/
def counts (a : FailedAttempt) : String :=
  "(responses=" ++ decimalInt a.responses ++ ", required=" ++ decimalInt a.required
    ++ ", attempt=" ++ decimalInt a.retries ++ ")"

/-- A downgrade with all its parts. -/
def downgradeText (d : Downgrade) : String :=
  "RetryDecision(kind=<FailureKind." ++ d.kind.constant ++ ": " ++ quoted d.kind.label
    ++ ">, requested=" ++ decimalInt d.requested ++ ", consistency=" ++ decimalInt d.granted
    ++ ", responses=" ++ decimalInt d.responses ++ ", required=" ++ decimalInt d.required ++ ")"

/-- A set of names in brackets. -/
def nodesText (nodes : NodeSet) : String :=
  bracketed (nodes.toList.map quoted)

/-- An optional number; `None` if it is missing. -/
def optionText : Option Int → String
  | some n => decimalInt n
  | none => "None"

/-- The wording of an event. -/
def text : Notice → String
  | .rethrowing a =>
    "Rethrowing " ++ a.kind.label ++ " at " ++ Level.text a.level ++ " " ++ counts a
  | .retrying a level =>
    "Retrying on " ++ a.kind.label ++ " at " ++ Level.text level ++ " instead of "
      ++ Level.text a.level ++ " " ++ counts a
  | .downgradeIgnored ignored recorded =>
    "Ignoring additional retry decision " ++ downgradeText ignored ++ "; already recorded "
      ++ downgradeText recorded
  | .snapshotTaken nodes =>
    "Topology snapshot: " ++ decimal nodes.size ++ " nodes " ++ nodesText nodes
  | .eventSeen description time source micros =>
    "description=" ++ description ++ " elapsed=" ++ time ++ " source=" ++ source
      ++ " micros=" ++ optionText micros
  | .creatingKeyspace keyspace factor =>
    "Creating keyspace " ++ keyspace ++ " with replication factor " ++ decimalInt factor
  | .recreatingKeyspace keyspace factor target =>
    "Keyspace " ++ keyspace ++ " has replication factor " ++ decimalInt factor
      ++ " but cluster has " ++ decimalInt target ++ " nodes, recreating"
  | .keyspaceInPlace keyspace factor =>
    "Keyspace " ++ keyspace ++ " already has replication factor " ++ decimalInt factor
  | .connecting host portNumber => "Connecting to " ++ host ++ ":" ++ decimalInt portNumber
  | .executing statement => "Executing " ++ statement
  | .traceUnavailable reason => "Query trace unavailable: " ++ reason
  | .traceNotFetched reason => "Could not fetch query trace: " ++ reason
  | .readCompleted latency => "Probe read completed in " ++ latency.fixed 1 ++ "ms"
  | .noSeedRow keyspace table =>
    "Probe read returned no seed row from " ++ keyspace ++ "." ++ table
  | .allAnswered nodes latency =>
    "All " ++ decimal nodes ++ " hosts answered at ALL in " ++ latency.fixed 1 ++ "ms"
  | .downgraded level =>
    "Could not query all hosts; consistency downgraded to " ++ Level.text level
  | .missingUnknown => "No query trace available, missing hosts unknown"
  | .hostsMissing nodes => "Missing log entries from these hosts: " ++ nodesText nodes
  | .noHostsAvailable reason => "No hosts available: " ++ reason
  | .clusterUnreachable reason => "Cluster unreachable: " ++ reason
  | .lockAcquired path => "Acquired process lock " ++ path.text
  | .lockReleased path => "Released process lock " ++ path.text
  | .runRefused reason => reason

end Notice

end ClusterHealth
