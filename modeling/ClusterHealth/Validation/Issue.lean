import ClusterHealth.Text.Positional

/-!
# `ClusterHealth.Validation.Issue` — what can be wrong with a value

A rejected record lists its issues: where each is, and which rule was broken. A fault has a short code
and a message for people.
-/

namespace ClusterHealth.Validation

open ClusterHealth.Text

/-- A rule that a value breaks. -/
inductive Fault where
  | missing
  | unknownName
  | notText
  | notUtf8
  | patternMismatch
  | notInteger
  | unreadableInteger
  | hugeInteger
  | fractionalInteger
  | notFinite
  | notNumber
  | unreadableNumber
  | notBoolean
  | unreadableBoolean
  | notPath
  | below (least : Nat)
  | above (greatest : Nat)
  | notAbove (bound : Nat)
  | notMapping
  | passwordMissing
  deriving DecidableEq, Repr

/-- The form of a plain identifier: a small letter, then at most 47 small letters, digits and
underscores. -/
def identifierPattern : String :=
  "^[a-z][a-z0-9_]\x7b0,47\x7d$"

namespace Fault

/-- The code of a fault. -/
def code : Fault → String
  | .missing => "missing"
  | .unknownName => "extra_forbidden"
  | .notText => "string_type"
  | .notUtf8 => "string_unicode"
  | .patternMismatch => "string_pattern_mismatch"
  | .notInteger => "int_type"
  | .unreadableInteger => "int_parsing"
  | .hugeInteger => "int_parsing_size"
  | .fractionalInteger => "int_from_float"
  | .notFinite => "finite_number"
  | .notNumber => "float_type"
  | .unreadableNumber => "float_parsing"
  | .notBoolean => "bool_type"
  | .unreadableBoolean => "bool_parsing"
  | .notPath => "path_type"
  | .below _ => "greater_than_equal"
  | .above _ => "less_than_equal"
  | .notAbove _ => "greater_than"
  | .notMapping => "model_type"
  | .passwordMissing => "value_error"

/-- The message of a fault. -/
def message : Fault → String
  | .missing => "Field required"
  | .unknownName => "Extra inputs are not permitted"
  | .notText => "Input should be a valid string"
  | .notUtf8 => "Input should be a valid string, unable to parse raw data as a unicode string"
  | .patternMismatch => "String should match pattern '" ++ identifierPattern ++ "'"
  | .notInteger => "Input should be a valid integer"
  | .unreadableInteger =>
    "Input should be a valid integer, unable to parse string as an integer"
  | .hugeInteger => "Unable to parse input string as an integer, exceeded maximum size"
  | .fractionalInteger =>
    "Input should be a valid integer, got a number with a fractional part"
  | .notFinite => "Input should be a finite number"
  | .notNumber => "Input should be a valid number"
  | .unreadableNumber => "Input should be a valid number, unable to parse string as a number"
  | .notBoolean => "Input should be a valid boolean"
  | .unreadableBoolean => "Input should be a valid boolean, unable to interpret input"
  | .notPath => "Input is not a valid path for <class 'pathlib.Path'>"
  | .below least => "Input should be greater than or equal to " ++ decimal least
  | .above greatest => "Input should be less than or equal to " ++ decimal greatest
  | .notAbove bound => "Input should be greater than " ++ decimal bound
  | .notMapping => "Input should be a valid dictionary or instance of KeyspaceReplication"
  | .passwordMissing => "Value error, password is required when username is set"

end Fault

/-- A fault and the names that lead to it; none for the record as a whole. -/
structure Issue where
  location : List String
  fault : Fault
  deriving DecidableEq, Repr

end ClusterHealth.Validation
