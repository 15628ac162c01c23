import ClusterHealth.Cluster.Session

/-!
# `ClusterHealth.Client` — a session with one coordinator

A client talks to one coordinator and to no other node, since another one might see the cluster
differently. Transport failures come out as failures of the store. Trouble with a trace is no trouble with
the read that it belongs to.

## Contents
- `Client`, `Client.connect`, `Client.close`, `Client.open`: the life of a session.
- `Client.store`: what a check needs, over an open session.
- `Client.session`: some work in a session that is closed whatever happens.
-/

namespace ClusterHealth

open ClusterHealth.Text ClusterHealth.Number ClusterHealth.Retry ClusterHealth.Cql ClusterHealth.Machine

/-- A client, and how much of a session it has. -/
structure Client where
  settings : Settings
  /-- Whether there is a cluster object, which must be shut down. -/
  built : Bool
  /-- Whether there is a session. -/
  connected : Bool
  deriving DecidableEq

namespace Client

/-- A client without a session. -/
def ofSettings (s : Settings) : Client := ⟨s, false, false⟩

/-! ## The life of a session -/

/-- How the coordinator is reached; a user without a password has an empty one. -/
def connection (s : Settings) : Connection :=
  { contactPoints := [s.host]
    portNumber := s.portNumber
    credentials :=
      match s.username with
      | none | some "" => none
      | some user => some (user, (s.password.map (·.reveal)).getD "")
    connectTimeout := s.connectTimeout
    requestTimeout := s.requestTimeout
    allowedHosts := [s.host] }

/-- Puts down the cluster object that was made. -/
def build (c : Client) : StateM Machine Connection := do
  observe (.call (.build (connection c.settings)))
  return connection c.settings

/-- Makes a cluster object and connects to the coordinator: the client with what it now has, and whether it
worked. A cluster object that cannot be made says nothing about the cluster. -/
def connect (c : Client) : StateM Machine (Client × Except Failure Unit) := do
  match ← Cluster.make.run with
  | .error e => return (c, .error e)
  | .ok () =>
    let _ ← c.build
    report (.connecting c.settings.host c.settings.portNumber)
    match ← (Action.wrappingTransport Cluster.connect).run with
    | .ok () => return ({ c with built := true, connected := true }, .ok ())
    | .error e => return ({ c with built := true }, .error e)

/-- Ends the session, if there is one. -/
def close (c : Client) : StateM Machine Client := do
  if c.connected then observe (.call .closeSession)
  if c.built then observe (.call .closeCluster)
  return { c with built := false, connected := false }

/-- Connects, and cleans up if that fails. -/
def enter (c : Client) : StateM Machine (Client × Except Failure Unit) := do
  match ← c.connect with
  | (c, .ok ()) => return (c, .ok ())
  | (c, .error e) => return (← c.close, .error e)

/-! ## Requests -/

/-- Fails without a session. -/
def requireSession (c : Client) : Action Machine Unit :=
  if c.connected then pure () else throw .notConnected

/-- The names of all hosts. -/
def hosts (c : Client) : Action Machine Network.NodeSet := do
  c.requireSession
  return Topology.nodeNames (← get).cluster.hosts

/-- The options of a keyspace. -/
def replication (c : Client) (keyspace : String) : Action Machine (Option Replication.Options) := do
  c.requireSession
  Action.wrappingTransport (Cluster.lookUp keyspace)

/-- A statement executed. -/
def execute (c : Client) (r : Request) : Action Machine Unit := do
  c.requireSession
  report (.executing r.text)
  Action.wrappingTransport (Cluster.execute r)

/-- An event of a trace as it is passed on: its source by name, its duration in whole microseconds. -/
def passedOn (e : Trace.Event) : Trace.Event :=
  ⟨.text e.node, e.timestamp, e.elapsedMicros.map Trace.micros, some (e.description.getD "")⟩

/-- What is reported about a trace that could not be fetched; `none` if the failure must not be
ignored. -/
def traceNotice? : Failure → Option Notice
  | .driver (.traceUnavailable reason) => some (.traceUnavailable reason)
  | .driver f =>
    match f with
    | .noHostAvailable .. => some (.traceNotFetched f.text)
    | _ => if f.isExecution then some (.traceNotFetched f.text) else none
  | _ => none

/-- The trace of a read; `none` if it cannot be had in time. -/
def trace (c : Client) (script : Cluster.TraceScript) : Action Machine (Option (List Trace.Event)) := do
  match ← (Cluster.fetchTrace c.settings.traceWait script).outcome with
  | .ok events => return events.map (·.map passedOn)
  | .error e =>
    match traceNotice? e with
    | some notice => report notice; return none
    | none => throw e

/-- A read whose failed attempts are handed to the recorder. -/
def read (c : Client) (q : Query) (recorder : Recorder) :
    StateM Machine (Recorder × Except Failure Reading) := do
  if !c.connected then return (recorder, .error .notConnected)
  match ← Cluster.read q recorder with
  | (recorder, .error e) => return (recorder, .error e.wrapTransport)
  | (recorder, .ok (rows, script)) =>
    if q.tracing then
      let events ← (c.trace script).run
      return (recorder, events.map (⟨rows, ·⟩))
    else return (recorder, .ok ⟨rows, none⟩)

/-- What a check needs, over the session of a client. -/
def store (c : Client) : Store Machine where
  hosts := do return (← c.hosts).toList.map .text
  replication := c.replication
  execute := c.execute
  read := c.read
  report := report
  clock := onCluster Cluster.nextReading

/-- Some work in a session, which is closed whatever happens. -/
def session {α : Type} (s : Settings) (work : Client → Action Machine α) : Action Machine α := do
  let (c, entered) ← (ofSettings s).enter
  entered
  let result ← (work c).outcome
  let _ ← c.close
  result

end Client

end ClusterHealth
