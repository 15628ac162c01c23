import ClusterHealth.Proofs.Journal
import ClusterHealth.Schema

/-!
# `ClusterHealth.Proofs.Client` — the calls of a client, one by one

What every call of a client does in a given state of the machine: what goes to the journal, what is used
up of the script, and with what it ends.

## Contents
- `Cluster.execute_apply`, `execute_apply`: a statement.
- `hosts_apply`: the hosts, which need a session.
- `trace_apply`, `read_apply`: a read and its trace.
- `executeAll_journal`: statements that all went well are all in the journal.
-/

namespace ClusterHealth

open ClusterHealth.Cql ClusterHealth.Retry ClusterHealth.Machine

/-! ## Requests to the cluster -/

namespace Cluster

/-- The machine when a statement was sent. -/
def stated (r : Request) (m : Machine) : Machine :=
  { m with journal := m.journal ++ [.statement r], cluster := m.cluster.nextStatement.2 }

/-- The machine when a statement was carried out. -/
def carriedOut (r : Request) (m : Machine) : Machine :=
  { stated r m with cluster := m.cluster.nextStatement.2.after r }

theorem execute_apply (r : Request) (m : Machine) : execute r m =
    match m.cluster.nextStatement.1 with
    | some e => (.error e, stated r m)
    | none => (.ok (), carriedOut r m) := by
  unfold execute
  rw [Action.lift_bind_apply]
  show (failing m.cluster.nextStatement.1 >>= _ : Action Machine Unit) (stated r m) = _
  cases m.cluster.nextStatement.1 <;> rfl

theorem fetchTrace_failing (wait : Number.Binary64) (e : Failure) (m : Machine) :
    fetchTrace wait (.failing e) m = (.error e, (observe (.call (.fetchTrace wait)) m).2) := rfl

/-- A trace cannot be fetched just if its script says so. -/
theorem fetchTrace_eq_error {wait : Number.Binary64} {script : TraceScript} {m m' : Machine} {e : Failure}
    (h : fetchTrace wait script m = (.error e, m')) : script = .failing e := by
  cases script with
  | failing e' => exact congrArg TraceScript.failing (Except.error.inj (congrArg Prod.fst h))
  | fromHosts => exact nomatch (congrArg Prod.fst h)
  | absent => exact nomatch (congrArg Prod.fst h)
  | events events => exact nomatch (congrArg Prod.fst h)

end Cluster

/-! ## Requests of a client -/

namespace Client

variable {c : Client} {m m' : Machine}

theorem requireSession_apply (hc : c.connected = true) (m : Machine) :
    c.requireSession m = (.ok (), m) := by
  unfold requireSession
  rw [if_pos hc]
  rfl

theorem requireSession_of_not (hc : ¬ c.connected = true) (m : Machine) :
    c.requireSession m = (.error .notConnected, m) := by
  unfold requireSession
  rw [if_neg hc]
  rfl

/-- The names of the hosts; without a session there are none to be had. -/
theorem hosts_apply (c : Client) (m : Machine) : c.store.hosts m =
    if c.connected then (.ok ((Topology.nodeNames m.cluster.hosts).toList.map .text), m)
    else (.error .notConnected, m) := by
  show ((c.requireSession >>= _ : Action Machine _) >>= _ : Action Machine _) m = _
  by_cases hc : c.connected = true
  · rw [if_pos hc]
    refine Action.bind_of_ok (a := Topology.nodeNames m.cluster.hosts) ?_
    rw [Action.bind_of_ok (requireSession_apply hc m)]
    rfl
  · rw [if_neg hc]
    exact Action.bind_of_error (Action.bind_of_error (requireSession_of_not hc m))

theorem execute_apply (hc : c.connected = true) (r : Request) (m : Machine) : c.store.execute r m =
    match m.cluster.nextStatement.1 with
    | some e => (.error e.wrapTransport, Cluster.stated r (report (.executing r.text) m).2)
    | none => (.ok (), Cluster.carriedOut r (report (.executing r.text) m).2) := by
  show (c.requireSession >>= _ : Action Machine Unit) m = _
  rw [Action.bind_of_ok (requireSession_apply hc m), Action.lift_bind_apply]
  have hexecute : Cluster.execute r (report (.executing r.text) m).2 =
      match m.cluster.nextStatement.1 with
      | some e => (.error e, Cluster.stated r (report (.executing r.text) m).2)
      | none => (.ok (), Cluster.carriedOut r (report (.executing r.text) m).2) :=
    Cluster.execute_apply r _
  cases hnext : m.cluster.nextStatement.1 with
  | some e =>
    rw [hnext] at hexecute
    exact Action.wrappingTransport_of_error hexecute
  | none =>
    rw [hnext] at hexecute
    exact Action.wrappingTransport_of_ok hexecute

/-- Statements that all went well are all in the journal, in order. -/
theorem executeAll_journal (hc : c.connected = true) {statements : List Statement}
    (h : Schema.executeAll c.store statements m = (.ok (), m')) :
    m'.journal = m.journal ++
      statements.flatMap fun s => [.notice (.executing s.text), .statement s.request] := by
  induction statements generalizing m with
  | nil =>
    obtain ⟨-, rfl⟩ := Prod.mk.inj h
    exact (List.append_nil _).symm
  | cons s rest ih =>
    have h : (c.store.execute s.request >>= fun _ => Schema.executeAll c.store rest) m = (.ok (), m') := h
    obtain ⟨⟨⟩, m₁, hs, hrest⟩ := Action.bind_eq_ok h
    rw [execute_apply hc] at hs
    split at hs
    · exact nomatch (congrArg Prod.fst hs)
    · obtain ⟨-, rfl⟩ := Prod.mk.inj hs
      rw [ih hrest, List.flatMap_cons]
      show ((m.journal ++ [_]) ++ [_]) ++ _ = _
      rw [List.append_assoc, List.append_assoc]
      rfl

/-! ## Reads -/

/-- The trace of a read: some failures are only reported. -/
theorem trace_apply (c : Client) (script : Cluster.TraceScript) (m : Machine) : c.trace script m =
    match Cluster.fetchTrace c.settings.traceWait script m with
    | (.ok events, m₁) => (.ok (events.map (·.map passedOn)), m₁)
    | (.error e, m₁) =>
      match traceNotice? e with
      | some notice => (.ok none, (report notice m₁).2)
      | none => (.error e, m₁) := by
  unfold trace
  rw [Action.bind_of_ok (Action.outcome_apply _ m)]
  rcases Cluster.fetchTrace c.settings.traceWait script m with ⟨e | events, m₁⟩
  · cases hn : traceNotice? e with
    | none => simp only [hn]; rfl
    | some notice => simp only [hn]; rfl
  · rfl

/-- A traced read: it fails, or its rows come with what became of the trace. -/
theorem read_apply (hc : c.connected = true) {q : Query} (ht : q.tracing = true) (r : Recorder)
    (m : Machine) : c.store.read q r m =
    match Cluster.read q r m with
    | ((r', .error e), m₁) => ((r', .error e.wrapTransport), m₁)
    | ((r', .ok (rows, script)), m₁) =>
      ((r', (c.trace script m₁).1.map (⟨rows, ·⟩)), (c.trace script m₁).2) := by
  show read c q r m = _
  unfold read
  rw [if_neg (by simp [hc]), Action.step_bind_apply]
  rcases Cluster.read q r m with ⟨⟨r', e | ⟨rows, script⟩⟩, m₁⟩
  · rfl
  · simp only [if_pos ht]
    rfl

end Client

end ClusterHealth
