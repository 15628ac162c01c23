import ClusterHealth.Consistency
import ClusterHealth.Pairs
import ClusterHealth.Path
import ClusterHealth.Text.Quoted
import ClusterHealth.Validation.Issue

/-!
# `ClusterHealth.Failure` — everything that can go wrong in a run

The failures of a data store come in families: a coordinator that could not get enough answers, a
request that failed or timed out, a connection that broke, no host to talk to, and requests that are
refused as they stand. The first four say something about the cluster; they are *transport* failures
and become failures of the store (`Failure.wrapTransport`). All others are defects of the set-up and stay as
they are.

## Contents
- `DriverFailure`: what a session reports, with its text and its label.
- `Failure`: those, the failures of the store, of the lock and of the file system, and the rest.
- `Failure.wrapTransport`, `Failure.isStore`.
-/

namespace ClusterHealth

open ClusterHealth.Text

/-! ## Failures of a session -/

/-- Why a coordinator gave up: the level asked for, the replicas that it needs and those it had. -/
structure Shortfall where
  level : Option Level
  required : Option Int
  received : Option Int
  deriving DecidableEq, Repr

/-- The failures that a request meets without any figures. -/
inductive ExecutionFault where
  | general
  | changeLog
  | function
  deriving DecidableEq, Repr

/-- The failures of a connection. -/
inductive ConnectionFault where
  | general
  | shutdown
  | checksum
  | unsupportedVersion
  deriving DecidableEq, Repr

/-- The refusals and defects that say nothing about the cluster. -/
inductive Refusal where
  | invalidRequest
  | unauthorized
  | configuration
  | requestValidation
  | authenticationFailed
  | unsupportedOperation
  | unresolvableContactPoints
  | driver
  | connectionBusy
  | protocol
  deriving DecidableEq, Repr

/-- What a session reports. -/
inductive DriverFailure where
  | readTimeout (message : String) (shortfall : Shortfall)
  | writeTimeout (message : String) (shortfall : Shortfall) (writeType : Option Int)
  | readFailure (message : String) (shortfall : Shortfall) (failures : Option Int)
  | writeFailure (message : String) (shortfall : Shortfall) (failures : Option Int)
  | unavailable (message : String) (shortfall : Shortfall)
  | operationTimedOut (errors : Option String) (lastHost : Option String)
  | execution (fault : ExecutionFault) (message : String)
  | connection (fault : ConnectionFault) (message : String)
  | noHostAvailable (message : String) (errors : Option (List (String × String)))
  | traceUnavailable (message : String)
  | alreadyExists (keyspace : Option String) (table : Option String)
  | refusal (kind : Refusal) (message : String)
  deriving DecidableEq, Repr

namespace DriverFailure

/-- The label of a failure. -/
def label : DriverFailure → String
  | .readTimeout .. => "ReadTimeout"
  | .writeTimeout .. => "WriteTimeout"
  | .readFailure .. => "ReadFailure"
  | .writeFailure .. => "WriteFailure"
  | .unavailable .. => "Unavailable"
  | .operationTimedOut .. => "OperationTimedOut"
  | .execution .general _ => "RequestExecutionException"
  | .execution .changeLog _ => "CDCWriteFailure"
  | .execution .function _ => "FunctionFailure"
  | .connection .general _ => "ConnectionException"
  | .connection .shutdown _ => "ConnectionShutdown"
  | .connection .checksum _ => "CrcMismatchException"
  | .connection .unsupportedVersion _ => "ProtocolVersionUnsupported"
  | .noHostAvailable .. => "NoHostAvailable"
  | .traceUnavailable _ => "TraceUnavailable"
  | .alreadyExists .. => "AlreadyExists"
  | .refusal .invalidRequest _ => "InvalidRequest"
  | .refusal .unauthorized _ => "Unauthorized"
  | .refusal .configuration _ => "ConfigurationException"
  | .refusal .requestValidation _ => "RequestValidationException"
  | .refusal .authenticationFailed _ => "AuthenticationFailed"
  | .refusal .unsupportedOperation _ => "UnsupportedOperation"
  | .refusal .unresolvableContactPoints _ => "UnresolvableContactPoints"
  | .refusal .driver _ => "DriverException"
  | .refusal .connectionBusy _ => "ConnectionBusy"
  | .refusal .protocol _ => "ProtocolError"

/-- The names of the kinds of write, from number zero on. -/
def writeTypes : List String :=
  ["SIMPLE", "BATCH", "UNLOGGED_BATCH", "COUNTER", "BATCH_LOG", "CAS", "VIEW", "CDC"]

/-- An optional integer; `None` if it is missing. -/
def figure : Option Int → String
  | some n => decimalInt n
  | none => "None"

/-- A kind of write by its quoted name, or by its number if it has none. -/
def writeTypeText : Option Int → String
  | some (.ofNat n) => ((writeTypes[n]?).map quoted).getD (decimal n)
  | n => figure n

/-- A level by its quoted name. -/
def levelText : Option Level → String
  | some level => quoted (Level.text level)
  | none => "'Not Set'"

/-- A message with named figures behind it. -/
def withInfo (message : String) (info : List (String × String)) : String :=
  message ++ " info=\x7b"
    ++ String.intercalate ", " (info.map fun (name, value) => quoted name ++ ": " ++ value) ++ "\x7d"

/-- The figures of a shortfall, of responses or of replicas. -/
def Shortfall.info (s : Shortfall) (required received : String) : List (String × String) :=
  [("consistency", levelText s.level), (required, figure s.required), (received, figure s.received)]

/-- The figures of a shortfall of responses. -/
def responsesInfo (s : Shortfall) : List (String × String) :=
  Shortfall.info s "required_responses" "received_responses"

/-- Errors by host, in braces. -/
def hostErrorsText : Option (List (String × String)) → String
  | none => "None"
  | some errors =>
    "\x7b" ++ String.intercalate ", "
      ((Pairs.ofList errors).map fun (host, e) => quoted host ++ ": Exception(" ++ quoted e ++ ")")
      ++ "\x7d"

/-- What exists already: a table, or its keyspace if the table has no name. -/
def alreadyExistsText (keyspace table : String) : String :=
  if table = "" then "Keyspace '" ++ keyspace ++ "' already exists"
  else "Table '" ++ keyspace ++ "." ++ table ++ "' already exists"

/-- The text of a failure. -/
def text : DriverFailure → String
  | .readTimeout m s => withInfo m (responsesInfo s)
  | .writeTimeout m s w => withInfo m (responsesInfo s ++ [("write_type", writeTypeText w)])
  | .readFailure m s n | .writeFailure m s n => withInfo m (responsesInfo s ++ [("failures", figure n)])
  | .unavailable m s => withInfo m (Shortfall.info s "required_replicas" "alive_replicas")
  | .operationTimedOut errors lastHost =>
    "errors=" ++ errors.getD "None" ++ ", last_host=" ++ lastHost.getD "None"
  | .noHostAvailable m errors => "(" ++ quoted m ++ ", " ++ hostErrorsText errors ++ ")"
  | .alreadyExists keyspace table => alreadyExistsText (keyspace.getD "None") (table.getD "")
  | .execution _ m | .connection _ m | .traceUnavailable m | .refusal _ m => m

/-- The number of a level without a name. -/
def Shortfall.unnamed? (s : Shortfall) : Option (Option Int) :=
  match s.level with
  | some level => if (Level.name? level).isSome then none else some (some level)
  | none => none

/-- The number of a kind of write without a name; a kind that is not known has none either. -/
def unnamedWrite? : Option Int → Option (Option Int)
  | some (.ofNat n) => if n < writeTypes.length then none else some (some n)
  | n => some n

/-- A number in a failure that should have a name and has none. -/
def unnamed? : DriverFailure → Option (Option Int)
  | .readTimeout _ s | .readFailure _ s _ | .writeFailure _ s _ | .unavailable _ s => Shortfall.unnamed? s
  | .writeTimeout _ s w => (unnamedWrite? w).or (Shortfall.unnamed? s)
  | _ => none

/-- A request that the cluster took and could not carry out, or not in time. -/
def isExecution : DriverFailure → Bool
  | .readTimeout .. | .writeTimeout .. | .readFailure .. | .writeFailure .. | .unavailable ..
  | .operationTimedOut .. | .execution .. => true
  | _ => false

/-- A connection that broke. -/
def isConnection : DriverFailure → Bool
  | .connection .. => true
  | _ => false

/-- A failure of the way to the cluster or within it. -/
def isTransport (f : DriverFailure) : Bool :=
  match f with
  | .noHostAvailable .. => true
  | _ => f.isExecution || f.isConnection

end DriverFailure

/-! ## Failures of a run -/

/-- What the file system reports. -/
inductive SystemFailure where
  | notFound
  | exists
  | isDirectory
  | notDirectory
  | notEmpty
  | invalid
  | busy
  | nameTooLong
  /-- The path holds a character that ends texts of the system. -/
  | nullCharacter
  | denied (reason : Option String)
  deriving DecidableEq, Repr

/-- The system's text for a failure. -/
def SystemFailure.text : SystemFailure → String
  | .notFound => "No such file or directory"
  | .exists => "File exists"
  | .isDirectory => "Is a directory"
  | .notDirectory => "Not a directory"
  | .notEmpty => "Directory not empty"
  | .invalid => "Invalid argument"
  | .busy => "Device or resource busy"
  | .nameTooLong => "File name too long"
  | .nullCharacter => "embedded null byte"
  | .denied reason => reason.getD ""

/-- Everything that can end a step of the program. -/
inductive Failure where
  /-- What a session reports, as it stands. -/
  | driver (failure : DriverFailure)
  /-- The data store failed. -/
  | store (message : String)
  /-- The data store could not be asked; the errors are those of its hosts. -/
  | noHosts (message : String) (errors : List (String × String))
  /-- Another run holds the lock. -/
  | alreadyRunning (lock : Path) (holder : Option Int)
  /-- The lock file cannot be used. -/
  | lockFile (lock : Path) (reason : String)
  /-- A record is not valid. -/
  | invalid (issues : List Validation.Issue)
  | system (failure : SystemFailure)
  /-- A value is out of place; the text says which. -/
  | badValue (message : String)
  /-- A step was taken out of order; the text says which. -/
  | badState (message : String)
  /-- Bytes that should be UTF-8 are not. -/
  | undecodable
  /-- A number has no name where one is needed. -/
  | unnamed (number : Option Int)
  /-- A degraded report lacks its downgrade. -/
  | downgradeMissing
  /-- The process was told to end by a signal. -/
  | terminated (signal : Nat)
  deriving DecidableEq, Repr

namespace Failure

/-- There are no nodes. -/
def emptyTopology : Failure :=
  .badValue "Topology snapshot must contain at least one node"

/-- No session is open. -/
def notConnected : Failure :=
  .badState "CassandraClient is not connected"

/-- No host could be asked; of several errors of a host the last one counts. -/
def noHostsOf (message : String) (errors : List (String × String)) : Failure :=
  .noHosts message (Pairs.ofList errors)

/-- The text of a failure. -/
def text : Failure → String
  | .driver f => f.text
  | .store m => m
  | .noHosts m errors =>
    if errors = [] then m
    else m ++ " (" ++ String.intercalate "; " (errors.map fun (host, e) => host ++ ": " ++ e) ++ ")"
  | .alreadyRunning lock holder =>
    let who := if holder.getD 0 = 0 then "" else " by PID " ++ decimalInt (holder.getD 0)
    "There appears to be another health check running (lock " ++ lock.text ++ " held" ++ who ++ ")"
  | .lockFile lock reason =>
    "Cannot use lock file " ++ lock.text ++ ": " ++ reason
      ++ ". Remove it or choose another path with --lock-file."
  | .system f => f.text
  | .badValue m | .badState m => m
  | .invalid issues => String.intercalate "; " (issues.map (·.fault.message))
  | .unnamed n => DriverFailure.figure n
  | .undecodable | .downgradeMissing | .terminated _ => ""

/-- What a session reports. A failure cannot be told if one of its numbers lacks a name: then that is the
failure. -/
def reported (f : DriverFailure) : Failure :=
  match f.unnamed? with
  | some n => .unnamed n
  | none => .driver f

/-- A failure of the data store. -/
def isStore : Failure → Bool
  | .store _ | .noHosts .. => true
  | _ => false

/-- Transport failures become failures of the store; all others stay as they are. -/
def wrapTransport : Failure → Failure
  | .driver (.noHostAvailable _ errors) => noHostsOf "No hosts available" (errors.getD [])
  | .driver f => if f.isTransport then .store (f.label ++ ": " ++ f.text) else .driver f
  | f => f

end Failure

end ClusterHealth
