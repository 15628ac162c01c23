import ClusterHealth.Consistency

/-!
# `ClusterHealth.Retry.Decision` — what to do about a failed attempt

A failed read is retried at most once, and only if the coordinator says that too few replicas answered
or are alive: at the same level if all that were needed did answer and only the data are missing, and
otherwise at the strongest level that the replicas at hand can satisfy.
-/

namespace ClusterHealth.Retry

/-- What a coordinator reports about a failed attempt. -/
inductive FailureKind where
  | readTimeout
  | writeTimeout
  | unavailable
  | requestError
  deriving DecidableEq, Repr

/-- The word for a kind of failure. -/
def FailureKind.label : FailureKind → String
  | .readTimeout => "read_timeout"
  | .writeTimeout => "write_timeout"
  | .unavailable => "unavailable"
  | .requestError => "request_error"

/-- The constant that names a kind of failure. -/
def FailureKind.constant : FailureKind → String
  | .readTimeout => "READ_TIMEOUT"
  | .writeTimeout => "WRITE_TIMEOUT"
  | .unavailable => "UNAVAILABLE"
  | .requestError => "REQUEST_ERROR"

/-- All kinds of failure. -/
def FailureKind.all : List FailureKind :=
  [.readTimeout, .writeTimeout, .unavailable, .requestError]

/-- The kind of failure that a word names. -/
def FailureKind.ofLabel? (s : String) : Option FailureKind :=
  FailureKind.all.find? (·.label = s)

/-- An attempt of a request that failed. -/
structure FailedAttempt where
  kind : FailureKind
  /-- How many retries were made before. -/
  retries : Int
  level : Level
  /-- The replicas that answered, or that are alive. -/
  responses : Int
  /-- The replicas that the level needs. -/
  required : Int
  /-- Whether the replica that was asked for the data answered. -/
  dataRetrieved : Bool
  deriving DecidableEq, Repr

/-- What to do about it. -/
inductive Verdict where
  | retry (level : Level)
  | rethrow
  deriving DecidableEq, Repr

/-- The strongest of the levels one, two and three that so many replicas satisfy. -/
def downgradedLevel? (responses : Int) : Option Level :=
  if 3 ≤ responses then some .three
  else if responses = 2 then some .two
  else if responses = 1 then some .one
  else none

/-- The verdict on a failed attempt. -/
def FailedAttempt.verdict (a : FailedAttempt) : Verdict :=
  if 0 < a.retries then .rethrow
  else if a.kind ≠ .readTimeout ∧ a.kind ≠ .unavailable then .rethrow
  else if a.kind = .readTimeout ∧ a.required ≤ a.responses then
    if a.dataRetrieved then .rethrow else .retry a.level
  else
    match downgradedLevel? a.responses with
    | some level => .retry level
    | none => .rethrow

/-- A retry at a weaker level than the one requested, and what led to it. -/
structure Downgrade where
  kind : FailureKind
  requested : Level
  granted : Level
  responses : Int
  required : Int
  deriving DecidableEq, Repr

/-- The downgrade that a failed attempt leads to, if it is retried at another level. -/
def FailedAttempt.downgrade? (a : FailedAttempt) : Option Downgrade :=
  match a.verdict with
  | .retry level =>
    if level = a.level then none else some ⟨a.kind, a.level, level, a.responses, a.required⟩
  | .rethrow => none

end ClusterHealth.Retry
