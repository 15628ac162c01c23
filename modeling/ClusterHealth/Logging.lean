import ClusterHealth.Logging.Message
import ClusterHealth.Notice

/-!
# `ClusterHealth.Logging` — where log lines go

Two loggers are set up: that of the program, and that of the code that talks to the cluster, which is
quieter unless details are wanted. Both write to one outlet and pass nothing on. A line belongs to the
logger whose name starts its own, part by part.
-/

namespace ClusterHealth.Logging

/-- A place that lines are written to. -/
structure Outlet where
  id : Nat
  /-- Whether the program set it up. -/
  own : Bool
  deriving DecidableEq, Repr

/-- A logger: what it lets through, if it says so, and where that goes. -/
structure Logger where
  threshold : Option Severity
  outlets : List Outlet
  passesOn : Bool
  deriving DecidableEq, Repr

/-- The two loggers. -/
structure Loggers where
  program : Logger
  driver : Logger
  /-- How many outlets there were. -/
  outlets : Nat
  deriving DecidableEq, Repr

/-- The name of the logger of the program. -/
def programName : String := "cassandra_healthcheck"

/-- The name of the logger of the code that talks to the cluster. -/
def driverName : String := "cassandra"

/-- The loggers as another program may have left them: one outlet that is not ours. -/
def Loggers.initial : Loggers :=
  ⟨⟨some .debug, [⟨0, false⟩], false⟩, ⟨none, [], true⟩, 1⟩

/-- What is let through of the lines of the program. -/
def threshold (debug : Bool) : Severity :=
  if debug then .debug else .info

/-- What is let through of the lines of the code that talks to the cluster. -/
def driverThreshold (debug : Bool) : Severity :=
  if debug then .debug else .warning

/-- Both loggers with one new outlet, and no other. -/
def Loggers.configure (l : Loggers) (debug : Bool) : Loggers :=
  let outlet : Outlet := ⟨l.outlets, true⟩
  ⟨⟨some (threshold debug), [outlet], false⟩, ⟨some (driverThreshold debug), [outlet], false⟩,
    l.outlets + 1⟩

/-- The outlets of a logger that the program set up. -/
def Logger.ownOutlets (l : Logger) : List Outlet :=
  l.outlets.filter (·.own)

/-- Whether both loggers write to one outlet of ours. -/
def Loggers.shareOutlet (l : Loggers) : Bool :=
  l.program.ownOutlets.any fun o => o ∈ l.driver.ownOutlets

/-- Whether a name is that of a logger or of a part of it. -/
def isWithin (name logger : String) : Bool :=
  name = logger || (logger ++ ".").isPrefixOf name

/-- The logger that a name belongs to. -/
def Loggers.owner? (l : Loggers) (name : String) : Option Logger :=
  if isWithin name programName then some l.program
  else if isWithin name driverName then some l.driver
  else none

/-- What a logger lets through; without a word of its own, warnings. -/
def Logger.letsThrough (l : Logger) (s : Severity) : Bool :=
  (l.threshold.getD .warning).rank ≤ s.rank

/-- What our outlets get to see of a line. A line that is not let through, or goes nowhere, is not even
written. -/
def Loggers.delivered (l : Loggers) (name : String) (s : Severity) (message : String)
    (values : List Value) : Except Fault (List (Severity × String)) :=
  match l.owner? name with
  | none => .ok []
  | some logger =>
    if logger.letsThrough s && !logger.outlets.isEmpty then do
      let text ← messageText message values
      return logger.ownOutlets.map fun _ => (s, name ++ ": " ++ text)
    else .ok []

end ClusterHealth.Logging
