import ClusterHealth.Pairs
import ClusterHealth.Validation.Record

/-!
# `ClusterHealth.Replication` — how a keyspace is replicated

The metadata of a keyspace are options by name. They must name a strategy and a number of copies, at
least one; other options are kept by name only. The strategy stands under `class`, or under `strategy`
where there is no `class`.
-/

namespace ClusterHealth

open ClusterHealth.Validation

/-- How a keyspace is replicated. -/
structure Replication where
  strategy : String
  /-- The copies of each row. -/
  factor : Int
  /-- The names of all other options, in the order of their texts. -/
  others : List String
  deriving DecidableEq, Repr

namespace Replication

/-- Options by name. -/
abbrev Options := List (String × Value)

/-- The name of the option that tells the strategy. -/
def strategyName (options : Options) : String :=
  if (Pairs.get? "class" options).isNone ∧ (Pairs.get? "strategy" options).isSome then "strategy"
  else "class"

/-- The name of the option that tells the number of copies. -/
def factorName : String := "replication_factor"

/-- An option that must be there, read by a rule. -/
def required {α : Type} (rule : Rule α) (name : String) (options : Options) : Checked α :=
  .part name <| match Pairs.get? name options with
    | some v => rule v
    | none => .error .missing

/-- The names of the options that tell neither the strategy nor the number of copies. -/
def otherNames (options : Options) : List String :=
  (options.map (·.1)).filter fun name => name ≠ strategyName options && name ≠ factorName

/-- The replication that options describe. -/
def ofOptions (options : Options) : Checked Replication :=
  (Except.ok fun strategy factor =>
      ⟨strategy, factor, (otherNames options).mergeSort fun a b => !decide (b < a)⟩)
    |> (Checked.withPart · (required Validation.text (strategyName options) options))
    |> (Checked.withPart · (required (atLeast 1 integer) factorName options))

/-- The replication that a value describes; only a map can. -/
def ofValue : Value → Checked Replication
  | .map options => ofOptions options
  | _ => .error [⟨[], .notMapping⟩]

end Replication

end ClusterHealth
