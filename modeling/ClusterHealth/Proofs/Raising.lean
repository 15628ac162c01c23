import ClusterHealth.Proofs.UnderLock

/-!
# `ClusterHealth.Proofs.Raising` — what a run can fail with

Only the lock itself tells that a lock cannot be had. Everything else in a run fails with what the cluster
has in store, or with a failure of its own that is not about the lock. So if nothing in the script of a
cluster pretends to be a failure of the lock, a run that ends with one was refused its lock.

## Contents
- `Failure.ofLock`: the failures that are about the lock.
- `Action.Harmless I`: an action that keeps `I` and fails with none of these; the combinators pass it on.
- `Cluster.Foreign`: a script without such failures.
- `Client.store_harmless`, `Check.run_harmless`, `Run.judged_harmless`: the layers of a run.
- `Run.refused_of_ofLock`: a run that ends with a failure of the lock.
-/

namespace ClusterHealth

open ClusterHealth.Cql ClusterHealth.Retry ClusterHealth.Machine

/-! ## Failures of the lock -/

namespace Failure

/-- Whether a failure is about the lock: another run has it, or its file cannot be used. -/
def ofLock : Failure → Bool
  | .alreadyRunning .. | .lockFile .. => true
  | _ => false

theorem wrapTransport_ofLock (e : Failure) : e.wrapTransport.ofLock = e.ofLock := by
  cases e with
  | driver f =>
    cases f with
    | noHostAvailable message errors => rfl
    | _ =>
      unfold wrapTransport
      simp only
      split <;> rfl
  | _ => rfl

theorem reported_ofLock (f : DriverFailure) : (reported f).ofLock = false := by
  unfold reported
  split <;> rfl

end Failure

/-! ## Actions -/

namespace Action

variable {σ α β : Type} {I : σ → Prop}

/-- What holds of the state before holds of the state behind. -/
def Keeps (I : σ → Prop) (s s' : σ) : Prop := I s → I s'

instance : Std.Refl (Keeps I) := ⟨fun _ h => h⟩

instance : IsTrans σ (Keeps I) := ⟨fun _ _ _ h h' hs => h' (h hs)⟩

/-- An action that keeps a property of the state, and under it fails with nothing that is about the lock. -/
structure Harmless (I : σ → Prop) (x : Action σ α) : Prop where
  keeps : Moves (Keeps I) x
  fails : ∀ s e, I s → (x s).1 = .error e → e.ofLock = false

namespace Harmless

variable {x : Action σ α}

theorem of_eq_ok {s s' : σ} {a : α} (hx : Harmless I x) (hs : I s) (h : x s = (.ok a, s')) : I s' :=
  hx.keeps.of_eq h hs

theorem of_eq_error {s s' : σ} {e : Failure} (hx : Harmless I x) (hs : I s) (h : x s = (.error e, s')) :
    I s' ∧ e.ofLock = false :=
  ⟨hx.keeps.of_eq h hs, hx.fails s e hs (congrArg Prod.fst h)⟩

theorem pure (a : α) : Harmless I (Pure.pure a : Action σ α) :=
  ⟨Moves.pure _, fun _ _ _ h => nomatch h⟩

theorem throw {e : Failure} (he : e.ofLock = false) : Harmless I (MonadExcept.throw e : Action σ α) := by
  refine ⟨Moves.throw e, ?_⟩
  intro s e' _ h
  rw [← Except.error.inj h]
  exact he

/-- A step that cannot fail. -/
theorem lift {x : StateM σ α} (hx : Moves (Keeps I) x) : Harmless I (ExceptT.lift x : Action σ α) :=
  ⟨Moves.lift hx, fun _ _ _ h => nomatch h⟩

/-- An action after another one, which may not be begun. -/
theorem andThen {f : α → Action σ β} (hx : Harmless I x) (hf : ∀ a, Harmless I (f a)) :
    Harmless I (x >>= f) := by
  refine ⟨Moves.andThen hx.keeps fun a => (hf a).keeps, ?_⟩
  intro s e hs h
  rcases hxs : x s with ⟨e' | a, s₁⟩
  · rw [bind_of_error hxs] at h
    rw [← Except.error.inj h]
    exact (hx.of_eq_error hs hxs).2
  · rw [bind_of_ok hxs] at h
    exact (hf a).fails s₁ e (hx.of_eq_ok hs hxs) h

theorem wrappingTransport (hx : Harmless I x) : Harmless I x.wrappingTransport := by
  refine ⟨Moves.wrappingTransport hx.keeps, ?_⟩
  intro s e hs h
  rcases hxs : x s with ⟨e' | a, s₁⟩
  · rw [wrappingTransport_of_error hxs] at h
    rw [← Except.error.inj h, Failure.wrapTransport_ofLock]
    exact (hx.of_eq_error hs hxs).2
  · rw [wrappingTransport_of_ok hxs] at h
    exact nomatch h

/-- Actions one after the other, up to the first that fails. -/
theorem forEach {f : α → Action σ PUnit} (hf : ∀ a, Harmless I (f a)) (xs : List α) :
    Harmless I (xs.forM f) := by
  induction xs with
  | nil => exact Harmless.pure _
  | cons a xs ih => exact Harmless.andThen (hf a) fun _ => ih

end Harmless

end Action

open ClusterHealth.Action (Keeps)

/-! ## Checks -/

section Checks

variable {σ : Type} {I : σ → Prop} {store : Store σ}

/-- All calls of a store keep a property of the state, and under it fail with nothing that is about the
lock. -/
structure Store.Harmless (I : σ → Prop) (store : Store σ) : Prop where
  hosts : Action.Harmless I store.hosts
  replication : ∀ keyspace, Action.Harmless I (store.replication keyspace)
  execute : ∀ r, Action.Harmless I (store.execute r)
  report : ∀ n, Action.Moves (Keeps I) (store.report n)
  clock : Action.Moves (Keeps I) store.clock
  read : ∀ q r, Action.Moves (Keeps I) (store.read q r)
  readFails : ∀ q r s e, I s → (store.read q r s).1.2 = .error e → e.ofLock = false

theorem Store.Harmless.moves (h : store.Harmless I) : store.Moves (Keeps I) :=
  ⟨h.hosts.keeps, fun keyspace => (h.replication keyspace).keeps, fun r => (h.execute r).keeps,
    fun n _ => h.report n, h.clock⟩

namespace Schema

/-- Metadata that are not valid are a failure of their own. -/
theorem copiesIn_ofLock {options : Option Replication.Options} {e : Failure} (h : copiesIn options = .error e) :
    e.ofLock = false := by
  obtain ⟨found, issues, -, -, rfl⟩ := copiesIn_eq_error h
  rfl

theorem describe_harmless (h : store.Harmless I) (n : Names) : Action.Harmless I (describe store n) := by
  refine ⟨describe_moves h.moves n, ?_⟩
  intro s e hs he
  rw [describe_apply] at he
  rcases hr : store.replication n.keyspace s with ⟨e' | options, s₁⟩
  · rw [hr] at he
    rw [← Except.error.inj he]
    exact ((h.replication n.keyspace).of_eq_error hs hr).2
  · rw [hr] at he
    exact copiesIn_ofLock he

theorem reconcile_harmless (h : store.Harmless I) (n : Names) (snapshot : Topology.Snapshot) :
    Action.Harmless I (reconcile store n snapshot) := by
  unfold reconcile
  refine Action.Harmless.andThen (describe_harmless h n) fun found => ?_
  refine Action.Harmless.andThen (Action.Harmless.lift (h.report _)) fun _ => ?_
  refine Action.Harmless.andThen ?_ fun _ => Action.Harmless.pure _
  exact Action.Harmless.forEach (fun s : Statement => h.execute s.request) _

end Schema

namespace Check

theorem takeSnapshot_harmless (h : store.Harmless I) : Action.Harmless I (takeSnapshot store) := by
  unfold takeSnapshot
  refine Action.Harmless.andThen h.hosts fun hosts => ?_
  cases Topology.Snapshot.ofNodes? (Topology.nodeNames hosts) with
  | none => exact Action.Harmless.throw rfl
  | some snapshot =>
    exact Action.Harmless.andThen (Action.Harmless.lift (h.report _)) fun _ => Action.Harmless.pure _

/-- A failure that a check is given up for comes out as it is, if it comes out at all. -/
theorem givenUp_eq_error {e e' : Failure} {snapshot : Option Topology.Snapshot} {s : σ}
    (h : (givenUp store e snapshot s).1 = .error e') : e' = e := by
  unfold givenUp at h
  split at h
  · exact nomatch h
  · exact (Except.error.inj h).symm

theorem probe_harmless (h : store.Harmless I) (names : Schema.Names) (snapshot : Topology.Snapshot) :
    Action.Harmless I (probe store names snapshot) := by
  refine ⟨probe_moves h.moves h.read names snapshot, ?_⟩
  intro s e hs he
  rw [probe_apply, Probe.run_apply] at he
  have hread := h.readFails (Probe.ofNames names).query .fresh (store.clock s).2
  rcases hr : store.read (Probe.ofNames names).query .fresh (store.clock s).2
    with ⟨⟨recorder, e' | reading⟩, s₁⟩
  · rw [hr] at he hread
    by_cases hstore : e'.isStore = true
    · simp only [if_pos hstore] at he
      exact nomatch he
    · simp only [if_neg hstore] at he
      rw [← Except.error.inj he]
      exact hread e' (h.clock s hs) rfl
  · rw [hr] at he
    exact nomatch he

/-- **A check fails with nothing that its store does not fail with**, apart from failures of its own, and
none of these is about the lock. -/
theorem run_harmless (h : store.Harmless I) (names : Schema.Names) :
    Action.Harmless I (run store names) := by
  refine ⟨run_moves h.moves h.read names, ?_⟩
  intro s e hs he
  rw [run_apply] at he
  rcases ht : takeSnapshot store s with ⟨e' | snapshot, s₁⟩
  · rw [ht] at he
    rw [givenUp_eq_error he]
    exact ((takeSnapshot_harmless h).of_eq_error hs ht).2
  · rw [ht] at he
    have hs₁ := (takeSnapshot_harmless h).of_eq_ok hs ht
    simp only at he
    rcases hr : Schema.reconcile store names.folded snapshot s₁ with ⟨e' | size, s₂⟩
    · rw [hr] at he
      rw [givenUp_eq_error he]
      exact ((Schema.reconcile_harmless h _ _).of_eq_error hs₁ hr).2
    · rw [hr] at he
      exact (probe_harmless h names snapshot).fails s₂ e ((Schema.reconcile_harmless h _ _).of_eq_ok hs₁ hr) he

end Check

end Checks

/-! ## Scripts -/

namespace Cluster

/-- Nothing that happens to a read is about the lock. -/
structure ReadScript.Foreign (script : ReadScript) : Prop where
  failure : ∀ e, script.failure = some e → e.ofLock = false
  lateFailure : ∀ e, script.lateFailure = some e → e.ofLock = false
  trace : ∀ e, script.trace = .failing e → e.ofLock = false

/-- Nothing that a cluster has in store is about the lock. -/
structure Foreign (c : Cluster) : Prop where
  builds : ∀ e, some e ∈ c.builds → e.ofLock = false
  connections : ∀ e, some e ∈ c.connections → e.ofLock = false
  failures : ∀ x ∈ c.failures, x.2.ofLock = false
  reads : ∀ script ∈ c.reads, script.Foreign

/-- The machines whose cluster has nothing in store that is about the lock. -/
abbrev ForeignOn (m : Machine) : Prop := m.cluster.Foreign

variable {c : Cluster} {e : Failure}

theorem nextBuild_foreign (h : c.Foreign) : c.nextBuild.2.Foreign
    ∧ ∀ e, c.nextBuild.1 = some e → e.ofLock = false := by
  unfold nextBuild
  cases hb : c.builds with
  | nil => exact ⟨h, fun _ he => nomatch he⟩
  | cons failure rest =>
    have hbuilds := h.builds
    rw [hb] at hbuilds
    refine ⟨⟨fun e he => hbuilds e (List.mem_cons_of_mem _ he), h.connections, h.failures, h.reads⟩, ?_⟩
    rintro e rfl
    exact hbuilds e List.mem_cons_self

theorem nextConnection_foreign (h : c.Foreign) : c.nextConnection.2.Foreign
    ∧ ∀ e, c.nextConnection.1 = some e → e.ofLock = false := by
  unfold nextConnection
  cases hc : c.connections with
  | nil => exact ⟨h, fun _ he => nomatch he⟩
  | cons failure rest =>
    have hconnections := h.connections
    rw [hc] at hconnections
    refine ⟨⟨h.builds, fun e he => hconnections e (List.mem_cons_of_mem _ he), h.failures, h.reads⟩, ?_⟩
    rintro e rfl
    exact hconnections e List.mem_cons_self

theorem nextStatement_foreign (h : c.Foreign) : c.nextStatement.2.Foreign
    ∧ ∀ e, c.nextStatement.1 = some e → e.ofLock = false :=
  ⟨⟨h.builds, h.connections, h.failures, h.reads⟩, fun _ he => h.failures _ (Pairs.mem_of_get? he)⟩

theorem ReadScript.plain_foreign : ReadScript.plain.Foreign :=
  ⟨fun _ he => (nomatch he), fun _ he => (nomatch he), fun _ he => (nomatch he)⟩

theorem nextRead_foreign (h : c.Foreign) : c.nextRead.2.Foreign ∧ c.nextRead.1.Foreign := by
  unfold nextRead
  cases hr : c.reads with
  | nil => exact ⟨h, ReadScript.plain_foreign⟩
  | cons script rest =>
    have hreads := h.reads
    rw [hr] at hreads
    exact ⟨⟨h.builds, h.connections, h.failures, fun s hs => hreads s (List.mem_cons_of_mem _ hs)⟩,
      hreads script List.mem_cons_self⟩

theorem nextReading_foreign (h : c.Foreign) : c.nextReading.2.Foreign := by
  unfold nextReading
  split
  · exact h
  · exact ⟨h.builds, h.connections, h.failures, h.reads⟩

theorem after_foreign (h : c.Foreign) (r : Request) : (c.after r).Foreign := by
  obtain ⟨keyspaces, rows, hafter⟩ := after_eq c r
  rw [hafter]
  exact ⟨h.builds, h.connections, h.failures, h.reads⟩

/-! ## Requests -/

theorem execute_harmless (r : Request) : Action.Harmless ForeignOn (execute r) := by
  constructor
  · intro m hm
    rw [execute_apply]
    cases m.cluster.nextStatement.1 with
    | some e => exact (nextStatement_foreign hm).1
    | none => exact after_foreign (nextStatement_foreign hm).1 r
  · intro m e hm he
    rw [execute_apply] at he
    cases hn : m.cluster.nextStatement.1 with
    | some e' =>
      rw [hn] at he
      rw [← Except.error.inj he]
      exact (nextStatement_foreign hm).2 e' hn
    | none =>
      rw [hn] at he
      exact nomatch he

theorem attemptAll_harmless (scripts : List AttemptScript) (level : Level) (retries : Nat) (r : Recorder)
    (m : Machine) : (attemptAll scripts level retries r m).2.cluster = m.cluster
      ∧ ∀ e, (attemptAll scripts level retries r m).1.2 = .error e → e.ofLock = false := by
  -- By induction on the attempts: the last one may fail, with what a session reports.
  induction scripts generalizing level retries r m with
  | nil => exact ⟨rfl, fun _ he => nomatch he⟩
  | cons script rest ih =>
    rw [attemptAll_cons]
    split
    · exact ih _ _ _ _
    · refine ⟨rfl, ?_⟩
      intro e he
      rw [← Except.error.inj he]
      exact Failure.reported_ofLock _

theorem ReadScript.Foreign.answer {script : ReadScript} (h : script.Foreign) {found : List Value}
    (he : script.answer found = .error e) : e.ofLock = false := by
  unfold ReadScript.answer at he
  split at he
  · rw [← Except.error.inj he]
    rfl
  · split at he
    · next e' hf =>
      rw [← Except.error.inj he]
      exact h.failure e' hf
    · next e' _ hl =>
      rw [← Except.error.inj he]
      exact h.lateFailure e' hl
    · exact nomatch he

/-- How a read ends: with a failure that is not about the lock, or with rows and the script of a trace of
which the same can be said. -/
theorem read_harmless {m : Machine} (hm : m.cluster.Foreign) (q : Query) (r : Recorder) :
    (Cluster.read q r m).2.cluster.Foreign
      ∧ (∀ e, (Cluster.read q r m).1.2 = .error e → e.ofLock = false)
      ∧ ∀ rows e, (Cluster.read q r m).1.2 = .ok (rows, .failing e) → e.ofLock = false := by
  obtain ⟨hsent, hfails⟩ := nextStatement_foreign hm
  rw [read_apply]
  cases hn : m.cluster.nextStatement.1 with
  | some e =>
    refine ⟨hsent, ?_, fun _ _ h => nomatch h⟩
    intro e' he
    rw [← Except.error.inj he]
    exact hfails e hn
  | none =>
    obtain ⟨htaken, hscript⟩ : (taken (sent q m)).cluster.Foreign ∧ (sent q m).cluster.nextRead.1.Foreign :=
      nextRead_foreign hsent
    obtain ⟨hcluster, hattempts⟩ :=
      attemptAll_harmless (sent q m).cluster.nextRead.1.attempts q.level 0 r (taken (sent q m))
    rw [← hcluster] at htaken
    rcases ha : attemptAll (sent q m).cluster.nextRead.1.attempts q.level 0 r (taken (sent q m))
      with ⟨⟨r', e | ⟨⟩⟩, m'⟩
    · rw [ha] at htaken hattempts
      refine ⟨htaken, ?_, fun _ _ h => nomatch h⟩
      intro e' he
      rw [← Except.error.inj he]
      exact hattempts e rfl
    · rw [ha] at htaken
      refine ⟨htaken, ?_, ?_⟩
      · intro e he
        simp only [afterAttempts] at he
        cases hanswer : (sent q m).cluster.nextRead.1.answer (m'.cluster.rowsOf q) with
        | error e' =>
          rw [hanswer] at he
          rw [← Except.error.inj he]
          exact hscript.answer hanswer
        | ok rows =>
          rw [hanswer] at he
          exact nomatch he
      · intro rows e he
        simp only [afterAttempts] at he
        cases hanswer : (sent q m).cluster.nextRead.1.answer (m'.cluster.rowsOf q) with
        | error e' =>
          rw [hanswer] at he
          exact nomatch he
        | ok rows' =>
          rw [hanswer] at he
          exact hscript.trace e (congrArg Prod.snd (Except.ok.inj he))

end Cluster

/-! ## The calls of a client -/

namespace Client

open Cluster (ForeignOn)

theorem report_keeps (n : Notice) : Action.Moves (Keeps ForeignOn) (report n) :=
  fun _ hm => hm

theorem requireSession_harmless (c : Client) : Action.Harmless ForeignOn c.requireSession := by
  unfold requireSession
  split
  · exact Action.Harmless.pure _
  · exact Action.Harmless.throw rfl

/-- Fetching a trace leaves the script as it is, and fails with what is written there. -/
theorem trace_harmless (c : Client) {script : Cluster.TraceScript} {m : Machine}
    (h : ∀ e, script = .failing e → e.ofLock = false) : (c.trace script m).2.cluster = m.cluster
      ∧ ∀ e, (c.trace script m).1 = .error e → e.ofLock = false := by
  have hfetched : (Cluster.fetchTrace c.settings.traceWait script m).2.cluster = m.cluster := by
    cases script <;> rfl
  rw [trace_apply]
  rcases hf : Cluster.fetchTrace c.settings.traceWait script m with ⟨e | events, m₁⟩
  · rw [hf] at hfetched
    cases hn : traceNotice? e with
    | some notice =>
      simp only [hn]
      exact ⟨hfetched, fun _ he => nomatch he⟩
    | none =>
      simp only [hn]
      refine ⟨hfetched, ?_⟩
      intro e' he
      rw [← Except.error.inj he]
      exact h e (Cluster.fetchTrace_eq_error hf)
  · rw [hf] at hfetched
    exact ⟨hfetched, fun _ he => nomatch he⟩

theorem read_harmless (c : Client) (q : Query) (r : Recorder) {m : Machine} (hm : m.cluster.Foreign) :
    (c.store.read q r m).2.cluster.Foreign
      ∧ ∀ e, (c.store.read q r m).1.2 = .error e → e.ofLock = false := by
  show (c.read q r m).2.cluster.Foreign ∧ ∀ e, (c.read q r m).1.2 = .error e → e.ofLock = false
  unfold read
  by_cases hc : c.connected = true
  · obtain ⟨hread, hfails, htrace⟩ := Cluster.read_harmless hm q r
    rw [if_neg (by simp [hc]), Action.step_bind_apply]
    rcases hr : Cluster.read q r m with ⟨⟨r', e | ⟨rows, script⟩⟩, m₁⟩
    · rw [hr] at hread hfails
      refine ⟨hread, ?_⟩
      intro e' he
      rw [← Except.error.inj he, Failure.wrapTransport_ofLock]
      exact hfails e rfl
    · rw [hr] at hread htrace
      by_cases hq : q.tracing = true
      · have hscript : ∀ e, script = .failing e → e.ofLock = false := by
          rintro e rfl
          exact htrace rows e rfl
        obtain ⟨hcluster, hlost⟩ := trace_harmless (m := m₁) c hscript
        simp only [if_pos hq]
        rw [Action.step_bind_apply]
        refine ⟨?_, ?_⟩
        · show (c.trace script m₁).2.cluster.Foreign
          rw [hcluster]
          exact hread
        · intro e he
          have he : (c.trace script m₁).1.map (Reading.mk rows) = .error e := he
          cases ht : (c.trace script m₁).1 with
          | error e' =>
            rw [ht] at he
            rw [← Except.error.inj he]
            exact hlost e' ht
          | ok events =>
            rw [ht] at he
            exact nomatch he
      · simp only [if_neg hq]
        exact ⟨hread, fun _ he => nomatch he⟩
  · rw [if_pos (by simp [hc])]
    refine ⟨hm, ?_⟩
    intro e he
    rw [← Except.error.inj he]
    rfl

theorem store_harmless (c : Client) : c.store.Harmless ForeignOn where
  hosts := by
    show Action.Harmless ForeignOn
      (c.hosts >>= fun hosts => pure (hosts.toList.map Value.text) : Action Machine (List Value))
    refine Action.Harmless.andThen ?_ fun _ => Action.Harmless.pure _
    unfold hosts
    refine Action.Harmless.andThen (requireSession_harmless c) fun _ => ?_
    exact ⟨fun _ hm => hm, fun _ _ _ he => nomatch he⟩
  replication := fun keyspace => by
    refine Action.Harmless.andThen (requireSession_harmless c) fun _ => Action.Harmless.wrappingTransport ?_
    refine Action.Harmless.andThen (Cluster.execute_harmless _) fun _ => ?_
    exact ⟨fun _ hm => hm, fun _ _ _ he => nomatch he⟩
  execute := fun r => by
    refine Action.Harmless.andThen (requireSession_harmless c) fun _ => ?_
    refine Action.Harmless.andThen (Action.Harmless.lift (report_keeps _)) fun _ => ?_
    exact Action.Harmless.wrappingTransport (Cluster.execute_harmless r)
  report := report_keeps
  clock := fun _ hm => Cluster.nextReading_foreign hm
  read := fun q r _ hm => (read_harmless c q r hm).1
  readFails := fun q r _ e hm he => (read_harmless c q r hm).2 e he

end Client

/-! ## Runs -/

namespace Run

variable {s : Settings} {lock : Lock.LockFile} {m : Machine} {e : Failure}

/-- The verdict on a session fails with nothing that is about the lock. -/
theorem judged_ofLock (hm : m.cluster.Foreign) (h : (judged s m).1 = .error e) : e.ofLock = false := by
  obtain ⟨hunbuilt, hbuild⟩ := Cluster.nextBuild_foreign hm
  obtain ⟨hdialled, hconnect⟩ := Cluster.nextConnection_foreign hunbuilt
  have hchecked : ∀ e, (checked s m).1 = .error e → e.ofLock = false := by
    intro e he
    unfold checked at he
    rw [Client.session_apply] at he
    cases hb : Client.buildFailure m with
    | some e' =>
      rw [hb] at he
      rw [← Except.error.inj he]
      exact hbuild e' hb
    | none =>
      rw [hb] at he
      simp only at he
      cases hf : Client.connectFailure m with
      | some e' =>
        rw [hf] at he
        rw [← Except.error.inj he, Failure.wrapTransport_ofLock]
        exact hconnect e' hf
      | none =>
        rw [hf] at he
        exact (Check.run_harmless (Client.store_harmless _) _).fails (Client.dialled s m) e hdialled he
  rw [judged_apply] at h
  rcases hc : checked s m with ⟨e' | r, m₁⟩
  · rw [hc] at h
    rw [Check.givenUp_eq_error h]
    exact hchecked e' (congrArg Prod.fst hc)
  · rw [hc] at h
    exact nomatch h

/-- **A run that ends with a failure of the lock was refused its lock.** -/
theorem refused_of_ofLock (hm : m.cluster.Foreign) (h : (run s lock m).1 = .error e)
    (he : e.ofLock = true) :
    ∃ m₁, Lock.acquire lock Lock.alone m = (.error e, m₁) ∧ run s lock m = (.error e, m₁) := by
  rcases ha : Lock.acquire lock Lock.alone m with ⟨e' | handle, m₁⟩
  · have hrun : run s lock m = (.error e', m₁) := by rw [run_apply, ha]
    rw [hrun] at h ⊢
    rw [Except.error.inj h]
    exact ⟨m₁, rfl, rfl⟩
  · -- A run that has its lock fails with what its verdict fails with, or cannot remove its lock file.
    obtain ⟨d, -, hlocked⟩ := run_of_acquired (s := s) ha
    rcases hlocked.of_error h with hjudged | ⟨reason, -, rfl⟩
    · have hfalse := judged_ofLock (hlocked.cluster ▸ hm) hjudged
      rw [he] at hfalse
      exact nomatch hfalse
    · exact nomatch he

end Run

end ClusterHealth
