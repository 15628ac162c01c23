import ClusterHealth.Notice
import ClusterHealth.Topology

/-!
# `ClusterHealth.Trace` — what the trace of a query tells

Every replica that works on a traced query leaves an event. The nodes of the topology that left none
did not take part. Without a trace nothing is known about them, which is not the same as none missing.
-/

namespace ClusterHealth

open ClusterHealth.Text ClusterHealth.Number ClusterHealth.Network

namespace Trace

/-- A point in time. -/
structure Timestamp where
  year : Nat
  month : Nat
  day : Nat
  hour : Nat
  minute : Nat
  second : Nat
  microsecond : Nat
  deriving DecidableEq, Repr

/-- An event of a trace. -/
structure Event where
  source : Value
  timestamp : Option Timestamp
  elapsedMicros : Option Int
  description : Option String

/-- A number with zeros in front. -/
def paddedDecimal (width n : Nat) : String :=
  String.ofList (padZeros width (decimalChars n))

/-- The time of day with four places of the second; a dash if there is none. -/
def timeText : Option Timestamp → String
  | none => "-"
  | some t =>
    paddedDecimal 2 t.hour ++ ":" ++ paddedDecimal 2 t.minute ++ ":" ++ paddedDecimal 2 t.second
      ++ "." ++ paddedDecimal 4 (t.microsecond / 100)

/-- The node that an event comes from. -/
def Event.node (e : Event) : String :=
  Topology.nodeName e.source

/-- What is reported about an event. -/
def Event.notice (e : Event) : Notice :=
  .eventSeen (e.description.getD "None") (timeText e.timestamp) e.node e.elapsedMicros

/-- The nodes of a snapshot that left no event; `none` without a trace. -/
def missingNodes? (trace : Option (List Event)) (snapshot : Topology.Snapshot) : Option NodeSet :=
  trace.map fun events => snapshot.nodes.diff (.ofList (events.map Event.node))

/-- What is reported while a trace is read. -/
def notices (trace : Option (List Event)) : List Notice :=
  (trace.getD []).map Event.notice

/-- A duration of whole microseconds as a double-precision number of seconds, times a million, without
its fraction. -/
def micros (duration : Int) : Int :=
  let seconds := Binary64.ofRatio (decide (duration < 0)) duration.natAbs 1000000
  ((seconds.mul (.ofInt 1000000)).truncate?).getD 0

end Trace

end ClusterHealth
