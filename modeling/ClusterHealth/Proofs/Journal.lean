import ClusterHealth.Client
import ClusterHealth.Proofs.Action

/-!
# `ClusterHealth.Proofs.Journal` — what the calls of a client leave in the journal

Everything that a run says and asks is put down in the journal of its machine, so the journal tells what
really happened, whatever the run itself believes. An *attempt* of a read shows in it twice over: the query
is the first attempt, and every answer to a failed attempt that grants another level is the next.

## Contents
- `Event.attempt?`, `attemptLevels`: the levels at which the attempts of a read were issued.
- `Extends P`: the journal went on by events of one kind, and the files are the same.
- `Continues P`: moreover the script of hosts and reads is the same.
- `Adds view seen`: what a view shows of the events that came to the journal.
- `Moves (Continues P)` for the calls of a session and of a client.
-/

namespace ClusterHealth

open ClusterHealth.Cql ClusterHealth.Retry ClusterHealth.Machine

namespace Machine

/-- The level of the attempt that an event begins, if it begins one. -/
def Event.attempt? : Event → Option Level
  | .query q => some q.level
  | .call (.retry level) => some level
  | _ => none

/-- The levels at which the attempts of a read were issued. -/
def attemptLevels (events : List Event) : List Level :=
  events.filterMap Event.attempt?

/-- What came to the journal since an earlier time. -/
def since (m m' : Machine) : List Event :=
  m'.journal.drop m.journal.length

/-- The journal went on by events of one kind, and no file was touched. -/
structure Extends (P : Event → Prop) (m m' : Machine) : Prop where
  journal : ∃ events, m'.journal = m.journal ++ events ∧ ∀ e ∈ events, P e
  files : m'.files = m.files

/-- Moreover the hosts, and the reads that are to come, are the same. -/
structure Continues (P : Event → Prop) (m m' : Machine) : Prop extends Extends P m m' where
  hosts : m'.cluster.hosts = m.cluster.hosts
  reads : m'.cluster.reads = m.cluster.reads

variable {P : Event → Prop} {m m' : Machine}

theorem since_of_append {events : List Event} (h : m'.journal = m.journal ++ events) :
    m.since m' = events := by
  unfold since
  rw [h, List.drop_left]

/-- Nothing was said or asked. -/
theorem Extends.silent (hj : m'.journal = m.journal) (hf : m'.files = m.files) : Extends P m m' :=
  ⟨⟨[], by rw [hj, List.append_nil], fun _ h => absurd h List.not_mem_nil⟩, hf⟩

instance : Std.Refl (Extends P) :=
  ⟨fun _ => Extends.silent rfl rfl⟩

instance : IsTrans Machine (Extends P) := by
  constructor
  rintro m₁ m₂ m₃ ⟨⟨xs, hxs, hP⟩, hf⟩ ⟨⟨ys, hys, hQ⟩, hf'⟩
  refine ⟨⟨xs ++ ys, ?_, ?_⟩, hf'.trans hf⟩
  · rw [hys, hxs, List.append_assoc]
  · intro e he
    rcases List.mem_append.1 he with he | he
    · exact hP e he
    · exact hQ e he

theorem Continues.silent (hj : m'.journal = m.journal) (hf : m'.files = m.files)
    (hh : m'.cluster.hosts = m.cluster.hosts) (hr : m'.cluster.reads = m.cluster.reads) :
    Continues P m m' :=
  ⟨Extends.silent hj hf, hh, hr⟩

instance : Std.Refl (Continues P) :=
  ⟨fun _ => Continues.silent rfl rfl rfl rfl⟩

instance : IsTrans Machine (Continues P) := by
  constructor
  rintro m₁ m₂ m₃ ⟨hx, hh, hr⟩ ⟨hx', hh', hr'⟩
  exact ⟨trans_of (Extends P) hx hx', hh'.trans hh, hr'.trans hr⟩

/-! ## Views of the journal -/

/-- The journal went on, and this is what some view shows of what came to it. -/
def Adds {β : Type} (view : Event → Option β) (seen : List β) (m m' : Machine) : Prop :=
  ∃ events, m'.journal = m.journal ++ events ∧ events.filterMap view = seen

section Views

variable {β : Type} {view : Event → Option β} {seen seen' : List β} {m₁ : Machine}

theorem Adds.silent (h : m'.journal = m.journal) : Adds view [] m m' :=
  ⟨[], by rw [h, List.append_nil], rfl⟩

theorem Adds.trans (h : Adds view seen m m₁) (h' : Adds view seen' m₁ m') :
    Adds view (seen ++ seen') m m' := by
  obtain ⟨events, hj, rfl⟩ := h
  obtain ⟨events', hj', rfl⟩ := h'
  exact ⟨events ++ events', by rw [hj', hj, List.append_assoc], List.filterMap_append⟩

theorem Adds.andSilent (h : Adds view seen m m₁) (h' : Adds view [] m₁ m') : Adds view seen m m' := by
  have hboth := h.trans h'
  rwa [List.append_nil] at hboth

/-- What a view does not show. -/
theorem Adds.of_extends (h : Extends (fun e => view e = none) m m') : Adds view [] m m' := by
  obtain ⟨events, hj, hnone⟩ := h.journal
  exact ⟨events, hj, List.filterMap_eq_nil_iff.2 hnone⟩

end Views

/-! ## Single steps -/

theorem moves_observe {e : Event} (h : P e) : Action.Moves (Continues P) (observe e) := by
  intro m
  refine ⟨⟨⟨[e], rfl, ?_⟩, rfl⟩, rfl, rfl⟩
  intro e' he
  rw [List.mem_singleton.1 he]
  exact h

theorem moves_report {n : Notice} (h : P (.notice n)) : Action.Moves (Continues P) (report n) :=
  moves_observe h

/-- A step of the cluster that only uses up its connections, statements or readings of the clock. -/
theorem moves_onCluster {α : Type} {f : Cluster → α × Cluster} (hh : ∀ c, (f c).2.hosts = c.hosts)
    (hr : ∀ c, (f c).2.reads = c.reads) : Action.Moves (Continues P) (onCluster f) :=
  fun m => Continues.silent rfl rfl (hh m.cluster) (hr m.cluster)

theorem moves_nextStatement : Action.Moves (Continues P) (onCluster Cluster.nextStatement) :=
  moves_onCluster (fun _ => rfl) (fun _ => rfl)

theorem moves_nextReading : Action.Moves (Continues P) (onCluster Cluster.nextReading) := by
  apply moves_onCluster
  · intro c
    unfold Cluster.nextReading
    split <;> rfl
  · intro c
    unfold Cluster.nextReading
    split <;> rfl

end Machine

/-! ## Calls of a session -/

namespace Cluster

variable {P : Event → Prop}

/-- What a statement does is done to keyspaces and rows. -/
theorem after_eq (c : Cluster) (r : Request) :
    ∃ keyspaces rows, c.after r = { c with keyspaces := keyspaces, rows := rows } := by
  unfold Cluster.after
  split
  · exact ⟨_, _, rfl⟩
  · exact ⟨_, _, rfl⟩
  · split
    · exact ⟨_, _, rfl⟩
    · exact ⟨_, _, rfl⟩
  · exact ⟨_, _, rfl⟩

theorem moves_failing (failure : Option Failure) :
    Action.Moves (Continues P) (Cluster.failing failure) := by
  cases failure with
  | none => exact Action.Moves.pure _
  | some e => exact Action.Moves.throw e

theorem moves_execute {r : Request} (h : P (.statement r)) :
    Action.Moves (Continues P) (Cluster.execute r) := by
  unfold Cluster.execute
  refine Action.Moves.andThen (Action.Moves.lift (moves_observe h)) fun _ => ?_
  refine Action.Moves.andThen (Action.Moves.lift moves_nextStatement) fun failure => ?_
  refine Action.Moves.andThen (moves_failing failure) fun _ => ?_
  -- What a statement does to the keyspaces is not seen by a read.
  intro m
  obtain ⟨keyspaces, rows, hafter⟩ := after_eq m.cluster r
  have hhosts : (m.cluster.after r).hosts = m.cluster.hosts := by rw [hafter]
  have hreads : (m.cluster.after r).reads = m.cluster.reads := by rw [hafter]
  exact Continues.silent rfl rfl hhosts hreads

theorem moves_lookUp {keyspace : String} (h : P (.statement (Statement.lookUp keyspace).request)) :
    Action.Moves (Continues P) (Cluster.lookUp keyspace) := by
  unfold Cluster.lookUp
  refine Action.Moves.andThen (moves_execute h) fun _ => ?_
  exact fun m => refl m

theorem moves_fetchTrace {wait : Number.Binary64} (script : Cluster.TraceScript)
    (h : P (.call (.fetchTrace wait))) : Action.Moves (Continues P) (Cluster.fetchTrace wait script) := by
  unfold Cluster.fetchTrace
  refine Action.Moves.andThen (Action.Moves.lift (moves_observe h)) fun _ => ?_
  cases script with
  | failing e => exact Action.Moves.throw e
  | _ => exact fun m => refl m

end Cluster

/-! ## Calls of a client -/

namespace Client

variable {P : Event → Prop}

theorem moves_requireSession (c : Client) : Action.Moves (Continues P) c.requireSession := by
  unfold Client.requireSession
  split
  · exact Action.Moves.pure _
  · exact Action.Moves.throw _

theorem moves_hosts (c : Client) : Action.Moves (Continues P) c.store.hosts := by
  show Action.Moves (Continues P)
    (c.hosts >>= fun hosts => pure (hosts.toList.map Value.text) : Action Machine (List Value))
  refine Action.Moves.andThen ?_ fun _ => Action.Moves.pure _
  unfold Client.hosts
  refine Action.Moves.andThen (moves_requireSession c) fun _ => ?_
  exact fun m => refl m

theorem moves_replication (c : Client) {keyspace : String}
    (h : P (.statement (Statement.lookUp keyspace).request)) :
    Action.Moves (Continues P) (c.store.replication keyspace) :=
  Action.Moves.andThen (moves_requireSession c) fun _ =>
    Action.Moves.wrappingTransport (Cluster.moves_lookUp h)

theorem moves_execute (c : Client) {r : Request} (hn : P (.notice (.executing r.text)))
    (hs : P (.statement r)) : Action.Moves (Continues P) (c.store.execute r) := by
  show Action.Moves _ (c.execute r)
  unfold Client.execute
  refine Action.Moves.andThen (moves_requireSession c) fun _ => ?_
  refine Action.Moves.andThen (Action.Moves.lift (moves_report hn)) fun _ => ?_
  exact Action.Moves.wrappingTransport (Cluster.moves_execute hs)

end Client

end ClusterHealth
