import ClusterHealth.Proofs.Attempts
import ClusterHealth.Proofs.Check
import ClusterHealth.Proofs.Client

/-!
# `ClusterHealth.Proofs.Moves` — what a check can do to the place where it runs

A check does nothing to the place where it runs but through the calls of its store. So if every call takes
a state only to states that are related to it, the whole check does, whatever its result is.

## Contents
- `Store.Moves R`: the condition on the calls of a store.
- `Check.run_moves` and the lemmas before it: the same for the parts of a check and for a check.
- `Client.store_moves`, `Client.read_extends`, `Client.moves_read`: what the calls of a client do to a machine.
-/

namespace ClusterHealth

open ClusterHealth.Cql ClusterHealth.Retry ClusterHealth.Machine

/-! ## What is reported -/

/-- Whether a notice is about the lock; none of those that a check reports is. -/
def Notice.ofLock : Notice → Bool
  | .lockAcquired _ | .lockReleased _ => true
  | _ => false

theorem Schema.planNotice_ofLock (n : Names) (found : Option Int) (wanted : Int) :
    (planNotice n found wanted).ofLock = false := by
  cases found with
  | none => rfl
  | some factor =>
    unfold planNotice
    simp only
    split <;> rfl

theorem Probe.notices_ofLock (p : Probe) (reading : Reading) (latency : Number.Binary64) :
    ∀ n ∈ p.notices reading latency, n.ofLock = false := by
  intro n hn
  unfold notices at hn
  rcases List.mem_cons.1 hn with rfl | hn
  · rfl
  · split at hn
    · rw [List.mem_singleton.1 hn]
      rfl
    · exact absurd hn List.not_mem_nil

theorem Trace.notices_ofLock (trace : Option (List Trace.Event)) :
    ∀ n ∈ Trace.notices trace, n.ofLock = false := by
  intro n hn
  obtain ⟨e, -, rfl⟩ := List.mem_map.1 hn
  rfl

namespace Check

theorem unreachableNotice_ofLock (e : Failure) : (unreachableNotice e).ofLock = false := by
  unfold unreachableNotice
  split <;> rfl

theorem missingNotices_ofLock (missing : Option Network.NodeSet) :
    ∀ n ∈ missingNotices missing, n.ofLock = false := by
  intro n hn
  unfold missingNotices at hn
  split at hn
  · rw [List.mem_singleton.1 hn]
    rfl
  · split at hn
    · exact absurd hn List.not_mem_nil
    · rw [List.mem_singleton.1 hn]
      rfl

theorem verdict_ofLock (snapshot : Topology.Snapshot) (o : Outcome) :
    ∀ n ∈ (verdict snapshot o).2, n.ofLock = false := by
  intro n hn
  unfold verdict at hn
  split at hn
  · rw [List.mem_singleton.1 hn]
    exact unreachableNotice_ofLock _
  · rw [List.mem_singleton.1 hn]
    rfl
  · rcases List.mem_append.1 hn with hn | hn
    · rcases List.mem_cons.1 hn with rfl | hn
      · rfl
      · exact Trace.notices_ofLock _ n hn
    · exact missingNotices_ofLock _ n hn

end Check

theorem Retry.Recorder.handle_ofLock (r : Recorder) (a : FailedAttempt) :
    ∀ n ∈ (r.handle a).2, n.ofLock = false := by
  have hverdict : (a.verdict.notice a).ofLock = false := by
    unfold Verdict.notice
    split <;> rfl
  intro n hn
  unfold Recorder.handle at hn
  split at hn
  · rw [List.mem_singleton.1 hn]
    exact hverdict
  · rcases List.mem_cons.1 hn with rfl | hn
    · exact hverdict
    · unfold Recorder.record at hn
      split at hn
      · exact absurd hn List.not_mem_nil
      · rw [List.mem_singleton.1 hn]
        rfl

theorem Client.traceNotice?_ofLock {e : Failure} {n : Notice} (h : traceNotice? e = some n) :
    n.ofLock = false := by
  unfold traceNotice? at h
  split at h
  · rw [← Option.some.inj h]
    rfl
  · split at h
    · rw [← Option.some.inj h]
      rfl
    · split at h
      · rw [← Option.some.inj h]
        rfl
      · exact nomatch h
  · exact nomatch h

/-! ## Checks -/

/-- The calls of a store, the read apart, take every state to one that is related to it. Nothing is asked of
notices about the lock, which are not reported through a store. -/
structure Store.Moves {σ : Type} (R : σ → σ → Prop) (store : Store σ) : Prop where
  hosts : Action.Moves R store.hosts
  replication : ∀ keyspace, Action.Moves R (store.replication keyspace)
  execute : ∀ r, Action.Moves R (store.execute r)
  report : ∀ n, n.ofLock = false → Action.Moves R (store.report n)
  clock : Action.Moves R store.clock

section Checks

variable {σ : Type} {R : σ → σ → Prop} {store : Store σ}

theorem Schema.describe_moves (h : store.Moves R) (n : Names) : Action.Moves R (describe store n) := by
  intro s
  rw [describe_apply]
  rcases hr : store.replication n.keyspace s with ⟨e | options, s₁⟩
  · exact (h.replication n.keyspace).of_eq hr
  · exact (h.replication n.keyspace).of_eq hr

variable [Std.Refl R]

theorem Check.givenUp_moves (h : store.Moves R) (e : Failure) (snapshot : Option Topology.Snapshot) :
    Action.Moves R (givenUp store e snapshot) := by
  intro s
  unfold givenUp
  split
  · exact h.report _ (unreachableNotice_ofLock e) s
  · exact refl s

variable [IsTrans σ R]

theorem Store.Moves.reportAll (h : store.Moves R) {notices : List Notice}
    (hnotices : ∀ n ∈ notices, n.ofLock = false) : Action.Moves R (store.reportAll notices) := by
  induction notices with
  | nil => exact Action.Moves.pure _
  | cons n rest ih =>
    refine Action.Moves.bind (h.report n (hnotices n List.mem_cons_self)) fun _ => ?_
    exact ih fun n' hn' => hnotices n' (List.mem_cons_of_mem n hn')

theorem Schema.reconcile_moves (h : store.Moves R) (n : Names) (snapshot : Topology.Snapshot) :
    Action.Moves R (reconcile store n snapshot) := by
  unfold reconcile
  refine Action.Moves.andThen (describe_moves h n) fun found => ?_
  refine Action.Moves.andThen (Action.Moves.lift (h.report _ (planNotice_ofLock _ _ _))) fun _ => ?_
  refine Action.Moves.andThen ?_ fun _ => Action.Moves.pure _
  exact Action.Moves.forEach (fun s : Statement => h.execute s.request) _

theorem Probe.run_moves (h : store.Moves R) (hread : ∀ q r, Action.Moves R (store.read q r)) (p : Probe) :
    Action.Moves R (p.run store) := by
  intro s
  rw [run_apply]
  rcases hr : store.read p.query .fresh (store.clock s).2 with ⟨⟨recorder, e | reading⟩, s₁⟩
  · have hanswered : R s s₁ := trans_of R (h.clock s) ((hread p.query .fresh).of_eq hr)
    by_cases he : e.isStore = true
    · simp only [if_pos he]
      exact trans_of R hanswered (h.clock s₁)
    · simp only [if_neg he]
      exact hanswered
  · have hanswered : R s s₁ := trans_of R (h.clock s) ((hread p.query .fresh).of_eq hr)
    have hended : R s (store.clock s₁).2 := trans_of R hanswered (h.clock s₁)
    exact trans_of R hended (h.reportAll (notices_ofLock _ _ _) _)

namespace Check

theorem takeSnapshot_moves (h : store.Moves R) : Action.Moves R (takeSnapshot store) := by
  unfold takeSnapshot
  refine Action.Moves.andThen h.hosts fun hosts => ?_
  cases Topology.Snapshot.ofNodes? (Topology.nodeNames hosts) with
  | none => exact Action.Moves.throw _
  | some snapshot =>
    exact Action.Moves.andThen (Action.Moves.lift (h.report _ rfl)) fun _ => Action.Moves.pure _

theorem probe_moves (h : store.Moves R) (hread : ∀ q r, Action.Moves R (store.read q r))
    (names : Schema.Names) (snapshot : Topology.Snapshot) : Action.Moves R (probe store names snapshot) := by
  intro s
  rw [probe_apply]
  rcases hp : (Probe.ofNames names).run store s with ⟨⟨p, e | o⟩, s₁⟩
  · exact (Probe.run_moves h hread _).of_eq hp
  · have hprobed : R s s₁ := (Probe.run_moves h hread _).of_eq hp
    exact trans_of R hprobed (h.reportAll (verdict_ofLock snapshot o) s₁)

/-- **A check does nothing but through its store.** -/
theorem run_moves (h : store.Moves R) (hread : ∀ q r, Action.Moves R (store.read q r))
    (names : Schema.Names) : Action.Moves R (run store names) := by
  intro s
  rw [run_apply]
  rcases ht : takeSnapshot store s with ⟨e | snapshot, s₁⟩
  · exact trans_of R ((takeSnapshot_moves h).of_eq ht) (givenUp_moves h e none s₁)
  · have htaken : R s s₁ := (takeSnapshot_moves h).of_eq ht
    simp only
    rcases hr : Schema.reconcile store names.folded snapshot s₁ with ⟨e | size, s₂⟩
    · have hreconciled : R s s₂ := trans_of R htaken ((Schema.reconcile_moves h _ _).of_eq hr)
      exact trans_of R hreconciled (givenUp_moves h e (some snapshot) s₂)
    · have hreconciled : R s s₂ := trans_of R htaken ((Schema.reconcile_moves h _ _).of_eq hr)
      exact trans_of R hreconciled (probe_moves h hread names snapshot s₂)

end Check

end Checks

/-! ## The calls of a client -/

section Clients

variable {P : Event → Prop}

/-- The calls of a client, the read apart, go on with the journal and leave the rest as it is. -/
theorem Client.store_moves (hn : ∀ n, n.ofLock = false → P (.notice n)) (hs : ∀ r, P (.statement r))
    (c : Client) : c.store.Moves (Continues P) where
  hosts := moves_hosts c
  replication := fun _ => moves_replication c (hs _)
  execute := fun r => moves_execute c (hn _ rfl) (hs r)
  report := fun n h => moves_report (hn n h)
  clock := moves_nextReading

theorem Store.Moves.mono {σ : Type} {R Q : σ → σ → Prop} {store : Store σ} (hRQ : ∀ s s', R s s' → Q s s')
    (h : store.Moves R) : store.Moves Q where
  hosts := h.hosts.mono hRQ
  replication := fun keyspace => (h.replication keyspace).mono hRQ
  execute := fun r => (h.execute r).mono hRQ
  report := fun n hn => (h.report n hn).mono hRQ
  clock := h.clock.mono hRQ

/-- What a read may put down behind its query: the answers to its attempts, and the way to its trace. -/
structure ReadEvents (P : Event → Prop) : Prop where
  notice : ∀ n, n.ofLock = false → P (.notice n)
  answer : ∀ verdict, P (.call (Cluster.answerOf verdict))
  trace : ∀ wait, P (.call (.fetchTrace wait))

theorem Cluster.moves_attemptAll (h : ReadEvents P) (scripts : List AttemptScript) (level : Level)
    (retries : Nat) (r : Recorder) :
    Action.Moves (Extends P) (attemptAll scripts level retries r) := by
  -- By induction on the attempts: each puts down what it records and its answer.
  induction scripts generalizing level retries r with
  | nil => exact Action.Moves.pure _
  | cons script rest ih =>
    intro m
    have hhandled : Extends P m (handled r (script.attempt level retries) m) := by
      refine ⟨⟨_, rfl, ?_⟩, rfl⟩
      intro e he
      rcases List.mem_append.1 he with he | he
      · obtain ⟨n, hn, rfl⟩ := List.mem_map.1 he
        exact h.notice n (Recorder.handle_ofLock _ _ n hn)
      · rw [List.mem_singleton.1 he]
        exact h.answer _
    rw [attemptAll_cons]
    split
    · exact trans_of (Extends P) hhandled (ih _ _ _ _)
    · exact hhandled

/-- A read puts its query down, and then goes on with the journal. -/
theorem Cluster.read_extends (h : ReadEvents P) (q : Query) (r : Recorder) (m : Machine) :
    Extends P (sent q m) (Cluster.read q r m).2 := by
  have htaken : Extends P (sent q m) (taken (sent q m)) := Extends.silent rfl rfl
  rw [read_apply]
  split
  · exact refl _
  · rcases ha : attemptAll (sent q m).cluster.nextRead.1.attempts q.level 0 r (taken (sent q m))
      with ⟨⟨r', e | u⟩, m'⟩
    · exact trans_of (Extends P) htaken ((moves_attemptAll h _ _ _ _).of_eq ha)
    · exact trans_of (Extends P) htaken ((moves_attemptAll h _ _ _ _).of_eq ha)

theorem Client.moves_trace (hn : ∀ n, n.ofLock = false → P (.notice n))
    (ht : ∀ wait, P (.call (.fetchTrace wait))) (c : Client) (script : Cluster.TraceScript) :
    Action.Moves (Continues P) (c.trace script) := by
  have hfetch := Cluster.moves_fetchTrace script (ht c.settings.traceWait)
  intro m
  rw [trace_apply]
  rcases hf : Cluster.fetchTrace c.settings.traceWait script m with ⟨e | events, m₁⟩
  · cases hnotice : traceNotice? e with
    | none =>
      simp only [hnotice]
      exact hfetch.of_eq hf
    | some notice =>
      simp only [hnotice]
      exact trans_of (Continues P) (hfetch.of_eq hf)
        (moves_report (hn notice (traceNotice?_ofLock hnotice)) m₁)
  · exact hfetch.of_eq hf

/-- A read of a client with a session puts its query down, and then goes on with the journal. -/
theorem Client.read_extends (h : ReadEvents P) {c : Client} (hc : c.connected = true) (q : Query)
    (r : Recorder) (m : Machine) : Extends P (Cluster.sent q m) (c.store.read q r m).2 := by
  show Extends P (Cluster.sent q m) (read c q r m).2
  unfold read
  rw [if_neg (by simp [hc]), Action.step_bind_apply]
  have hread := Cluster.read_extends h q r m
  rcases hr : Cluster.read q r m with ⟨⟨r', e | ⟨rows, script⟩⟩, m₁⟩
  · rw [hr] at hread
    exact hread
  · rw [hr] at hread
    by_cases hq : q.tracing = true
    · simp only [if_pos hq]
      exact trans_of (Extends P) hread (moves_trace h.notice h.trace c script m₁).toExtends
    · simp only [if_neg hq]
      exact hread

/-- A read goes on with the journal, and touches no file. -/
theorem Client.moves_read (h : ReadEvents P) (hq : ∀ q, P (.query q)) (c : Client) (q : Query)
    (r : Recorder) : Action.Moves (Extends P) (c.store.read q r) := by
  intro m
  by_cases hc : c.connected = true
  · have hsent : Extends P m (Cluster.sent q m) := by
      refine ⟨⟨[.query q], rfl, ?_⟩, rfl⟩
      intro e he
      rw [List.mem_singleton.1 he]
      exact hq q
    exact trans_of (Extends P) hsent (read_extends h hc q r m)
  · show Extends P m (read c q r m).2
    unfold read
    rw [if_pos (by simp [hc])]
    exact refl m

end Clients

end ClusterHealth
