import ClusterHealth.Text.Positional

/-!
# `ClusterHealth.Consistency` — consistency levels

How many replicas must answer a request. A level travels as an integer; eleven of them have names, and
any other is written as its number.
-/

namespace ClusterHealth

open ClusterHealth.Text

/-- A consistency level by its number. -/
abbrev Level := Int

namespace Level

/-- One replica. -/
def one : Level := 1
/-- Two replicas. -/
def two : Level := 2
/-- Three replicas. -/
def three : Level := 3
/-- Every replica. -/
def all : Level := 5

/-- The names of the levels, from number zero on. -/
def names : List String :=
  ["ANY", "ONE", "TWO", "THREE", "QUORUM", "ALL", "LOCAL_QUORUM", "EACH_QUORUM", "SERIAL",
    "LOCAL_SERIAL", "LOCAL_ONE"]

/-- The name of a level that has one. -/
def name? : Level → Option String
  | .ofNat n => names[n]?
  | .negSucc _ => none

/-- A level as text. -/
def text (level : Level) : String :=
  (name? level).getD (decimalInt level)

end Level

end ClusterHealth
