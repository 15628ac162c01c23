import ClusterHealth.Machine

/-!
# `ClusterHealth.Cluster.Session` — requests to the scripted cluster

What a session does with a statement and with a read. Every request is put down in the journal before
anything can go wrong with it. An attempt of a read that fails is handed to the recorder; the read goes on
at the level that it grants, or ends with the failure.
-/

namespace ClusterHealth.Cluster

open ClusterHealth.Number ClusterHealth.Retry ClusterHealth.Cql ClusterHealth.Machine

/-- Fails if there is a failure. -/
def failing : Option Failure → Action Machine Unit
  | none => pure ()
  | some e => throw e

/-- A cluster object made, from which nothing is asked yet. -/
def make : Action Machine Unit := do
  let failure ← ExceptT.lift (onCluster nextBuild)
  failing failure

/-- A connection. -/
def connect : Action Machine Unit := do
  observe (.call .connect)
  let failure ← ExceptT.lift (onCluster nextConnection)
  failing failure

/-- A statement executed. -/
def execute (r : Request) : Action Machine Unit := do
  observe (.statement r)
  let failure ← ExceptT.lift (onCluster nextStatement)
  failing failure
  modify fun m => { m with cluster := m.cluster.after r }

/-- The options of a keyspace looked up. -/
def lookUp (keyspace : String) : Action Machine (Option Replication.Options) := do
  execute (Statement.lookUp keyspace).request
  return (← get).cluster.replication? keyspace

/-! ## Reads -/

/-- The attempt that a script describes. -/
def AttemptScript.attempt (s : AttemptScript) (level : Level) (retries : Nat) : FailedAttempt :=
  ⟨s.kind, s.retries.getD retries, s.level.getD level, s.responses, s.required, s.dataRetrieved⟩

/-- What a read fails with whose attempt is not retried. -/
def failureOf (a : FailedAttempt) : DriverFailure :=
  let shortfall : Shortfall := ⟨some a.level, some a.required, some a.responses⟩
  match a.kind with
  | .readTimeout => .readTimeout "Coordinator node timed out" shortfall
  | .writeTimeout => .writeTimeout "Coordinator node timed out" shortfall (some 0)
  | .unavailable => .unavailable "Cannot achieve consistency level" shortfall
  | .requestError => .operationTimedOut (some "overloaded") none

/-- The call that tells the answer to a failed attempt. -/
def answerOf : Verdict → Call
  | .retry level => .retry level
  | .rethrow => .rethrow

/-- The attempts of a read, each handed to the recorder. -/
def attemptAll (scripts : List AttemptScript) (level : Level) (retries : Nat) (recorder : Recorder) :
    StateM Machine (Recorder × Except Failure Unit) :=
  match scripts with
  | [] => pure (recorder, .ok ())
  | script :: rest => do
    let a := script.attempt level retries
    let (recorder, notices) := recorder.handle a
    notices.forM report
    observe (.call (answerOf a.verdict))
    match a.verdict with
    | .retry level => attemptAll rest level (retries + 1) recorder
    | .rethrow => return (recorder, .error (.reported (failureOf a)))

/-- What follows the attempts of a read: its rows. -/
def rowsOfScript (q : Query) (script : ReadScript) : Action Machine (List Value) := do
  if script.terminated then throw (.terminated 15)
  failing script.failure
  let keys := script.rows.getD ((← get).cluster.rowsOf q)
  failing script.lateFailure
  return keys.map row

/-- A read: the rows, and the script of its trace. -/
def read (q : Query) (recorder : Recorder) :
    StateM Machine (Recorder × Except Failure (List Value × TraceScript)) := do
  observe (.query q)
  match ← onCluster nextStatement with
  | some e => return (recorder, .error e)
  | none =>
    let script ← onCluster nextRead
    match ← attemptAll script.attempts q.level 0 recorder with
    | (recorder, .error e) => return (recorder, .error e)
    | (recorder, .ok ()) =>
      let rows ← (rowsOfScript q script).run
      return (recorder, rows.map (·, script.trace))

/-- The trace of a read fetched, waiting at most so many seconds. -/
def fetchTrace (wait : Binary64) (script : TraceScript) : Action Machine (Option (List Trace.Event)) := do
  observe (.call (.fetchTrace wait))
  match script with
  | .fromHosts => return some (← get).cluster.hostEvents
  | .absent => return none
  | .failing e => throw e
  | .events events => return some events

end ClusterHealth.Cluster
