import ClusterHealth.Pairs
import ClusterHealth.Path
import ClusterHealth.Text.Case
import ClusterHealth.Value

/-!
# `ClusterHealth.Settings.Source` — where the values of settings come from

Settings are given as arguments or as variables of the environment. An argument wins over a variable,
whatever its value (`given?_argument`); neither kind of name heeds the case of its letters.
-/

namespace ClusterHealth.Settings

open ClusterHealth.Text

/-- The settings, by name. -/
inductive Field where
  | host
  | portNumber
  | username
  | password
  | connectTimeout
  | requestTimeout
  | traceWait
  | keyspace
  | table
  | lockFile
  | debug
  deriving DecidableEq, Repr

namespace Field

/-- The name of a setting. -/
def name : Field → String
  | .host => "host"
  | .portNumber => "port"
  | .username => "username"
  | .password => "password"
  | .connectTimeout => "connect_timeout"
  | .requestTimeout => "request_timeout"
  | .traceWait => "trace_wait"
  | .keyspace => "keyspace"
  | .table => "table"
  | .lockFile => "lock_file"
  | .debug => "debug"

/-- All settings, in the order in which they are checked. -/
def all : List Field :=
  [.host, .portNumber, .username, .password, .connectTimeout, .requestTimeout, .traceWait,
    .keyspace, .table, .lockFile, .debug]

/-- What the name of a variable starts with. -/
def variableStart : String := "cassandra_healthcheck_"

/-- The name of the variable for a setting, in small letters. -/
def variableName (f : Field) : String := variableStart ++ f.name

end Field

/-- Who runs the program: the number of a user, and the directory for temporary files. -/
structure Owner where
  user : Nat
  temporary : Path
  deriving DecidableEq, Repr

namespace Owner

/-- The directory for temporary files where nothing else is said. -/
def usualTemporary : Path := ⟨.single, ["tmp"]⟩

/-- A number alone stands for a user with the usual directory for temporary files. -/
instance : Coe Nat Owner := ⟨fun user => ⟨user, usualTemporary⟩⟩

end Owner

/-- Arguments, the environment, and who runs the program. -/
structure Source where
  arguments : List (String × Value)
  environment : List (String × String)
  owner : Owner

namespace Source

/-- The argument for a setting; of several the first one counts. -/
def inArguments? (s : Source) (f : Field) : Option Value :=
  (s.arguments.find? fun entry => lower entry.1 = f.name).map (·.2)

/-- The variable for a setting; of several the last one counts. -/
def inEnvironment? (s : Source) (f : Field) : Option Value :=
  (s.environment.reverse.find? fun entry => lower entry.1 = f.variableName).map fun entry =>
    .text entry.2

/-- The value that is given for a setting. -/
def given? (s : Source) (f : Field) : Option Value :=
  (s.inArguments? f).or (s.inEnvironment? f)

/-- The arguments that belong to no setting. -/
def unknownNames (s : Source) : List String :=
  (s.arguments.map (·.1)).filter fun name => Field.all.all fun f => lower name ≠ f.name

theorem given?_argument {s : Source} {f : Field} {v : Value} (h : s.inArguments? f = some v) :
    s.given? f = some v := by
  simp [given?, h]

theorem given?_variable {s : Source} {f : Field} (h : s.inArguments? f = none) :
    s.given? f = s.inEnvironment? f := by
  simp [given?, h]

end Source

end ClusterHealth.Settings
