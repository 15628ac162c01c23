import ClusterHealth.Consistency
import ClusterHealth.Value

/-!
# `ClusterHealth.Cql.Statement` — the statements of a run

A run makes, fills, reads and drops one table with one column and one row. `Statement` lists what it may
say to the cluster; a statement is sent as a `Request`, a text and the values for its placeholders.
-/

namespace ClusterHealth.Cql

open ClusterHealth.Text

/-- A text in CQL, and the values for its placeholders if it has any. -/
structure Request where
  text : String
  parameters : Option (List Value)

/-- A read at a consistency level, traced by the cluster if wanted. -/
structure Query where
  text : String
  parameters : List Value
  level : Level
  tracing : Bool

/-- The column of the table. -/
def keyColumn : String := "healthkey"

/-- The key of the one row. -/
def seedKey : String := "healthy"

/-- A statement of a run. -/
inductive Statement where
  | lookUp (keyspace : String)
  | createKeyspace (keyspace : String) (factor : Int)
  | createTable (keyspace table : String)
  | insertSeed (keyspace table : String)
  | dropKeyspace (keyspace : String)
  | selectSeed (keyspace table : String)
  deriving DecidableEq, Repr

namespace Statement

/-- A statement in CQL. -/
def text : Statement → String
  | .lookUp _ => "SELECT replication FROM system_schema.keyspaces WHERE keyspace_name = %s"
  | .createKeyspace keyspace factor =>
    "CREATE KEYSPACE " ++ keyspace
      ++ " WITH REPLICATION = \x7b 'class': 'SimpleStrategy', 'replication_factor': "
      ++ decimalInt factor ++ " \x7d"
  | .createTable keyspace table =>
    "CREATE TABLE " ++ keyspace ++ "." ++ table ++ " ( " ++ keyColumn ++ " varchar PRIMARY KEY )"
  | .insertSeed keyspace table =>
    "INSERT INTO " ++ keyspace ++ "." ++ table ++ " (" ++ keyColumn ++ ") VALUES (%s)"
  | .dropKeyspace keyspace => "DROP KEYSPACE " ++ keyspace
  | .selectSeed keyspace table =>
    "SELECT * FROM " ++ keyspace ++ "." ++ table ++ " WHERE " ++ keyColumn ++ " = %s"

/-- The values for the placeholders of a statement. -/
def parameters : Statement → Option (List Value)
  | .lookUp keyspace => some [.text keyspace]
  | .insertSeed .. | .selectSeed .. => some [.text seedKey]
  | .createKeyspace .. | .createTable .. | .dropKeyspace _ => none

/-- A statement as it is sent. -/
def request (s : Statement) : Request :=
  ⟨s.text, s.parameters⟩

end Statement

end ClusterHealth.Cql
