import ClusterHealth.Text.Blank
import ClusterHealth.Text.Case
import ClusterHealth.Text.Digit

/-!
# `ClusterHealth.Cql.Effect` — what a statement does to the keyspaces

Reads from the text of a statement what it changes. A name is a run of characters without blanks that
stands right behind the first words of the statement, whatever follows it; the keyspace of a table is what
comes before a point, the last one that has something on both sides. The replication factor of a new
keyspace is the last one that its first line gives. A statement of any other form changes nothing.
-/

namespace ClusterHealth.Cql

open ClusterHealth.Text

/-- What a statement changes. -/
inductive Effect where
  | create (keyspace factor : String)
  | drop (keyspace : String)
  | insert (keyspace : String)
  | nothing
  deriving DecidableEq, Repr

namespace Effect

/-- What follows the given characters, if a text starts with them. -/
def after? : List Char → List Char → Option (List Char)
  | [], cs => some cs
  | _ :: _, [] => none
  | a :: start, c :: cs => if a = c then after? start cs else none

/-- The characters up to the first blank, and what follows them. -/
def word (cs : List Char) : List Char × List Char :=
  cs.span fun c => !isBlank c

/-- What stands before the last point, if anything does. -/
def beforeLastPoint? (cs : List Char) : Option (List Char) :=
  match (cs.reverse.dropWhile (· ≠ '.')).drop 1 with
  | [] => none
  | kept => some kept.reverse

/-- How a replication factor is introduced. -/
def factorName : String := "'replication_factor': "

/-- The number that follows the last name of a replication factor with a number behind it. -/
def lastFactor? : List Char → Option (List Char)
  | [] => none
  | c :: cs =>
    match lastFactor? cs with
    | some factor => some factor
    | none =>
      match (after? factorName.toList (c :: cs)).map fun rest => rest.takeWhile isDecimal with
      | some (d :: ds) => some (d :: ds)
      | _ => none

/-- A keyspace made. -/
def creation? (cs : List Char) : Option Effect := do
  let (name, rest) := word (← after? "CREATE KEYSPACE ".toList cs)
  guard (name ≠ [])
  let options ← after? [' '] rest
  let factor ← lastFactor? (options.takeWhile (· ≠ '\n'))
  return .create (String.ofList name) (String.ofList factor)

/-- A keyspace dropped. -/
def removal? (cs : List Char) : Option Effect := do
  let (name, _) := word (← after? "DROP KEYSPACE ".toList cs)
  guard (name ≠ [])
  return .drop (String.ofList name)

/-- A row put into a table, which has a name of its own. -/
def insertion? (cs : List Char) : Option Effect := do
  let (name, rest) := word (← after? "INSERT INTO ".toList cs)
  let _ ← after? [' '] rest
  return .insert (String.ofList (← beforeLastPoint? name.dropLast))

/-- What a statement changes. -/
def ofText (s : String) : Effect :=
  let cs := s.toList
  (((creation? cs).or (removal? cs)).or (insertion? cs)).getD .nothing

/-- The keyspace that a query reads, in small letters: that of the first table behind `FROM`. -/
def source? : List Char → Option String
  | [] => none
  | c :: cs =>
    (do
      let (name, _) := word (← after? "FROM ".toList (c :: cs))
      return lower (String.ofList (← beforeLastPoint? name))).or (source? cs)

end Effect

end ClusterHealth.Cql
