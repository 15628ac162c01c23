import ClusterHealth.Proofs.Ending
import ClusterHealth.Proofs.Host
import ClusterHealth.Proofs.Outage
import ClusterHealth.Proofs.Reports

/-!
# `ClusterHealth.Proofs.Escaping` — what ends the command with a crash

The exit code of a crash is that of a degraded cluster, so it matters which failures come out of a run. A
failure of transport does not: on its way out of a session it becomes a failure of the store, and that
becomes a report. What comes out is a defect of the set-up: metadata that are not valid, a cluster without
nodes, a request that is refused as it stands, a cluster object that cannot be made, a lock file that cannot be
removed.

All this is said of runs whose lock is settled (`LockSettled`), and in which no connection breaks while a trace
is fetched (`Cluster.TraceReachable`).

## Contents
- `Failure.of_wrapTransport_unstored`: a failure that stays as it is on its way out.
- `Cluster.read_served`, `Client.read_eq_error`: what a read fails with.
- `Check.Escapes`, `Check.run_escapes`: what comes out of a check; `Check.Escapes.isTransport`: it is none of
  transport.
- `Run.Escapes`, `Run.run_escapes`: what comes out of a run that has its lock.
- `Command.Crashed`, `Command.exit_one_degraded_or_crashed`: the meanings of exit code 1.
-/

namespace ClusterHealth

open ClusterHealth.Cql ClusterHealth.Retry ClusterHealth.Machine

/-! ## Failures on their way out -/

/-- What is no failure of the store on its way out of a session was none of transport, and stays as it is. -/
theorem Failure.of_wrapTransport_unstored {e : Failure} (h : e.wrapTransport.isStore = false) :
    e.isTransport = false ∧ e.wrapTransport = e := by
  cases ht : e.isTransport with
  | true => exact nomatch h.symm.trans (wrapTransport_isStore ht)
  | false => exact ⟨rfl, wrapTransport_of_not ht⟩

namespace Cluster

/-- No connection breaks while the trace of the next read is fetched. -/
def TraceReachable (c : Cluster) : Prop :=
  ∀ f, c.nextRead.1.trace = .failing (.driver f) → f.isConnection = false

theorem ReadScript.answer_eq_ok {script : ReadScript} (found : List Value)
    (h : (if script.terminated then some (.terminated 15) else script.failure.or script.lateFailure) = none) :
    ∃ rows, script.answer found = .ok rows := by
  unfold answer
  by_cases ht : script.terminated = true
  · rw [if_pos ht] at h
    cases h
  · rw [if_neg ht] at h ⊢
    obtain ⟨hfailure, hlate⟩ := Option.or_eq_none_iff.1 h
    rw [hfailure, hlate]
    exact ⟨_, rfl⟩

/-- A read for which the script has no failure gives rows, with the trace of the script. -/
theorem read_served {q : Query} {m : Machine} (r : Recorder)
    (h : (m.cluster.trouble? 0).or (m.cluster.nextRead.1.raised? q.level) = none) :
    ∃ rows, (Cluster.read q r m).1.2 = .ok (rows, m.cluster.nextRead.1.trace) := by
  obtain ⟨hnow, hraised⟩ := Option.or_eq_none_iff.1 h
  obtain ⟨hlast, hrest⟩ := Option.or_eq_none_iff.1 hraised
  have hnow : m.cluster.nextStatement.1 = none := hnow
  have hscript : (sent q m).cluster.nextRead.1 = m.cluster.nextRead.1 := nextRead_of_reads rfl
  have hresult := attemptAll_result m.cluster.nextRead.1.attempts q.level 0 r (taken (sent q m))
  rw [hlast] at hresult
  rw [read_apply, hnow, hscript]
  rcases ha : attemptAll m.cluster.nextRead.1.attempts q.level 0 r (taken (sent q m)) with ⟨⟨r', result⟩, m'⟩
  rw [ha] at hresult
  obtain rfl : result = .ok () := hresult
  obtain ⟨rows, hrows⟩ := ReadScript.answer_eq_ok (m'.cluster.rowsOf q) hrest
  refine ⟨rows, ?_⟩
  simp only [afterAttempts, hrows]
  rfl

end Cluster

namespace Client

variable {c : Client} {m : Machine} {e : Failure}

/-- A failure that ends the fetching of a trace is one of a connection that broke, or none of transport. -/
theorem traceNotice?_eq_none (h : traceNotice? e = none)
    (hreachable : ∀ f, e = .driver f → f.isConnection = false) : e.isTransport = false := by
  cases e with
  | driver f =>
    have hconnection := hreachable f rfl
    show f.isTransport = false
    cases f with
    | noHostAvailable message errors => exact nomatch h
    | traceUnavailable message => rfl
    | _ =>
      -- The others are reported just if the request could not be carried out.
      simp only [traceNotice?, ite_eq_right_iff, reduceCtorEq, imp_false, Bool.not_eq_true] at h
      simp only [DriverFailure.isTransport, h, hconnection, Bool.or_self]
  | _ => rfl

/-- A trace ends a read only with a failure of the script that is not reported instead. -/
theorem trace_eq_error {script : Cluster.TraceScript} (h : (c.trace script m).1 = .error e) :
    script = .failing e ∧ traceNotice? e = none := by
  rcases ht : c.trace script m with ⟨e' | events, m₁⟩
  · rw [ht] at h
    obtain rfl : e' = e := Except.error.inj h
    have hfailing := Check.trace_eq_error ht
    rw [trace_apply, hfailing, Cluster.fetchTrace_failing] at ht
    refine ⟨hfailing, ?_⟩
    cases hn : traceNotice? e' with
    | none => rfl
    | some notice =>
      simp only [hn] at ht
      cases congrArg Prod.fst ht
  · rw [ht] at h
    cases h

/-- **What a read fails with** is what the script has for it, as it comes out of a session, or what ends the
fetching of its trace. -/
theorem read_eq_error (hc : c.connected = true) {q : Query} (hq : q.tracing = true) {r : Recorder}
    (h : (c.store.read q r m).1.2 = .error e) :
    (∃ e', m.cluster.raised? 0 (.query q) = some e' ∧ e = e'.wrapTransport)
      ∨ m.cluster.nextRead.1.trace = .failing e ∧ traceNotice? e = none := by
  cases hraised : m.cluster.raised? 0 (.query q) with
  | some e' =>
    have hfails := read_fails hc hq r hraised
    exact .inl ⟨e', rfl, Except.error.inj (h.symm.trans hfails)⟩
  | none =>
    obtain ⟨rows, hrows⟩ := Cluster.read_served r hraised
    rw [read_apply hc hq] at h
    rcases hr : Cluster.read q r m with ⟨⟨r', result⟩, m₁⟩
    rw [hr] at h hrows
    obtain rfl : result = .ok (rows, m.cluster.nextRead.1.trace) := hrows
    have h : (c.trace m.cluster.nextRead.1.trace m₁).1.map (Reading.mk rows) = .error e := h
    cases ht : (c.trace m.cluster.nextRead.1.trace m₁).1 with
    | error e' =>
      rw [ht] at h
      rw [← Except.error.inj h]
      exact .inr (trace_eq_error ht)
    | ok events =>
      rw [ht] at h
      cases h

end Client

/-! ## What comes out of a check -/

namespace Check

/-- What comes out of a check of a cluster. -/
inductive Escapes (names : Schema.Names) (c : Cluster) : Failure → Prop
  | noNodes (h : c.hosts = []) : Escapes names c .emptyTopology
  /-- The metadata of the keyspace are not valid. -/
  | metadata {options : Replication.Options} {issues : List Validation.Issue}
    (hfound : c.replication? names.folded.keyspace = some options)
    (h : Replication.ofOptions options = .error issues) : Escapes names c (.invalid issues)
  /-- The first request that fails at once fails with this. -/
  | request {k : Nat} {e : Failure} (h : c.FirstTrouble k e) (ht : e.isTransport = false) : Escapes names c e
  /-- The read goes on, and then fails with this. -/
  | read {e : Failure} (h : c.nextRead.1.raised? (Probe.ofNames names).query.level = some e)
    (ht : e.isTransport = false) : Escapes names c e
  /-- The trace cannot be fetched, and that is not reported instead. -/
  | trace {e : Failure} (h : c.nextRead.1.trace = .failing e) (hn : Client.traceNotice? e = none)
    (ht : e.isTransport = false) : Escapes names c e

/-- No failure of transport comes out of a check. -/
theorem Escapes.isTransport {names : Schema.Names} {c : Cluster} {e : Failure} (h : Escapes names c e) :
    e.isTransport = false := by
  cases h with
  | noNodes h => rfl
  | metadata hfound h => rfl
  | request h ht => exact ht
  | read h ht => exact ht
  | trace h hn ht => exact ht

section Stores

variable {σ : Type} {store : Store σ} {e e' : Failure} {snapshot : Option Topology.Snapshot} {s : σ}

/-- A check is given up for no failure of the store. -/
theorem givenUp_unstored (h : (givenUp store e snapshot s).1 = .error e') : e'.isStore = false := by
  unfold givenUp at h
  split at h
  · exact nomatch h
  · next hstore =>
    rw [← Except.error.inj h]
    exact Bool.eq_false_iff.2 hstore

/-- A check that is given up for a failure as it comes out of a session. -/
theorem givenUp_wrapped (h : (givenUp store e.wrapTransport snapshot s).1 = .error e') :
    e' = e ∧ e.isTransport = false := by
  have hstore := givenUp_unstored h
  rw [givenUp_eq_error h] at hstore ⊢
  obtain ⟨htransport, hstays⟩ := Failure.of_wrapTransport_unstored hstore
  exact ⟨hstays, htransport⟩

end Stores

variable {c : Client} {names : Schema.Names} {m : Machine} {e : Failure}

theorem snapshotOf?_eq_none {cluster : Cluster} (h : snapshotOf? cluster = none) : cluster.hosts = [] := by
  unfold snapshotOf? Topology.Snapshot.ofNodes? at h
  split at h
  · next hnone =>
    rw [List.eq_nil_iff_forall_not_mem]
    intro host hhost
    have hmem : Topology.nodeName host ∈ (Topology.nodeNames cluster.hosts).toList :=
      Topology.mem_nodeNames.2 ⟨host, hhost, rfl⟩
    rw [hnone] at hmem
    exact absurd hmem List.not_mem_nil
  · cases h

/-- What comes out of a probe comes out of its read. -/
theorem probe_eq_error {snapshot : Topology.Snapshot} (hc : c.connected = true)
    (h : (probe c.store names snapshot m).1 = .error e) :
    m.cluster.raised? 0 (.query (Probe.ofNames names).query) = some e ∧ e.isTransport = false
      ∨ m.cluster.nextRead.1.trace = .failing e ∧ Client.traceNotice? e = none := by
  have hclock := clock_passes c m
  rw [probe_apply, Probe.run_apply] at h
  rcases hr : c.store.read (Probe.ofNames names).query .fresh (c.store.clock m).2
    with ⟨⟨recorder, e' | reading⟩, m₁⟩
  · have hread := Client.read_eq_error hc (q := (Probe.ofNames names).query) rfl (congrArg (fun x => x.1.2) hr)
    rw [hclock.raised, Cluster.nextRead_of_reads hclock.reads] at hread
    rw [hr] at h
    by_cases hstore : e'.isStore = true
    · simp only [if_pos hstore] at h
      exact nomatch h
    · simp only [if_neg hstore] at h
      obtain rfl : e' = e := Except.error.inj h
      rcases hread with ⟨e₁, hraised, rfl⟩ | htrace
      · obtain ⟨htransport, hstays⟩ := Failure.of_wrapTransport_unstored (Bool.eq_false_iff.2 hstore)
        rw [hstays]
        exact .inl ⟨hraised, htransport⟩
      · exact .inr htrace
  · rw [hr] at h
    exact nomatch h

/-- **What comes out of a check**, whichever of its requests fails. -/
theorem run_escapes (hc : c.connected = true) (hreachable : m.cluster.TraceReachable)
    (h : (run c.store names m).1 = .error e) : Escapes names m.cluster e := by
  rw [run_apply, takeSnapshot_apply hc] at h
  cases hs : snapshotOf? m.cluster with
  | none =>
    rw [hs] at h
    rw [givenUp_eq_error h]
    exact .noNodes (snapshotOf?_eq_none hs)
  | some snapshot =>
    rw [hs] at h
    simp only at h
    -- To report the snapshot changes nothing of the cluster.
    have hcluster : (report (.snapshotTaken snapshot.nodes) m).2.cluster = m.cluster := rfl
    generalize (report (.snapshotTaken snapshot.nodes) m).2 = m₁ at h hcluster
    obtain ⟨m₂, ⟨hserved, hx, hp⟩ | ⟨k, e', -, hfirst, hx, -⟩⟩ :=
      Schema.reconcile_passes hc names.folded snapshot m₁
    · rw [hcluster] at hx
      rw [hx] at h
      cases hcopies : Schema.copiesIn (m.cluster.replication? names.folded.keyspace) with
      | error e' =>
        rw [hcopies] at h
        obtain ⟨options, issues, hfound, hinvalid, rfl⟩ := Schema.copiesIn_eq_error hcopies
        rw [givenUp_eq_error h]
        exact .metadata hfound hinvalid
      | ok found =>
        rw [hcopies] at h
        rcases probe_eq_error hc h with ⟨hraised, htransport⟩ | ⟨htrace, hnotice⟩
        · -- The query is one more request, behind those that did not fail.
          have hraised : (m₂.cluster.trouble? 0).or
              (m₂.cluster.nextRead.1.raised? (Probe.ofNames names).query.level) = some e := hraised
          cases htrouble : m₂.cluster.trouble? 0 with
          | some e' =>
            rw [htrouble] at hraised
            obtain rfl : e' = e := Option.some.inj hraised
            have hfirst := hp.firstTrouble hserved (.zero htrouble)
            rw [hcluster] at hfirst
            exact .request hfirst htransport
          | none =>
            rw [htrouble, Option.none_or, Cluster.nextRead_of_reads hp.reads, hcluster] at hraised
            exact .read hraised htransport
        · rw [Cluster.nextRead_of_reads hp.reads, hcluster] at htrace
          exact .trace htrace hnotice (Client.traceNotice?_eq_none hnotice fun f hf => hreachable f (hf ▸ htrace))
    · rw [hx] at h
      rw [hcluster] at hfirst
      obtain ⟨rfl, htransport⟩ := givenUp_wrapped h
      exact .request hfirst htransport

end Check

/-! ## What comes out of a run -/

namespace Run

/-- What comes out of a session in which a cluster is checked. -/
inductive Session.Escapes (s : Settings) (c : Cluster) : Failure → Prop
  /-- The cluster object cannot be made. -/
  | unbuilt {e : Failure} (h : c.nextBuild.1 = some e) : Session.Escapes s c e
  | unconnected {e : Failure} (h : c.nextBuild.2.nextConnection.1 = some e) (ht : e.isTransport = false) :
    Session.Escapes s c e
  | check {e : Failure} (h : Check.Escapes (namesOf s) c e) : Session.Escapes s c e

/-- What comes out of a run that has its lock. -/
inductive Escapes (s : Settings) (lock : Lock.LockFile) (m : Machine) : Failure → Prop
  | session {e : Failure} (h : Session.Escapes s m.cluster e) : Escapes s lock m e
  /-- The lock file cannot be removed when the lock is given back. -/
  | fixed {handle : Lock.Handle} {m₁ : Machine} {reason : Option String}
    (h : Lock.acquire lock Lock.alone m = (.ok handle, m₁)) (hfixed : m₁.files.fixed? lock.path = some reason) :
    Escapes s lock m (.system (.denied reason))

variable {s : Settings} {lock : Lock.LockFile} {m : Machine} {e : Failure}

/-- No failure of transport comes out of a run, unless the cluster object could not be made. -/
theorem Escapes.isTransport (h : Escapes s lock m e) : e.isTransport = false ∨ Client.buildFailure m = some e := by
  cases h with
  | session h =>
    cases h with
    | unbuilt h => exact .inr h
    | unconnected h ht => exact .inl ht
    | check h => exact .inl h.isTransport
  | fixed h hfixed => exact .inl rfl

/-- To connect takes no read away. -/
theorem nextRead_dialled (s : Settings) (m : Machine) :
    (Client.dialled s m).cluster.nextRead.1 = m.cluster.nextRead.1 := by
  obtain ⟨builds, connections, hcluster⟩ := Client.dialled_cluster s m
  exact Cluster.nextRead_of_reads (by rw [hcluster])

/-- What comes out of a check in a session is what came out of it on the cluster as it was before. -/
theorem escapes_of_dialled (h : Check.Escapes (namesOf s) (Client.dialled s m).cluster e) :
    Check.Escapes (namesOf s) m.cluster e := by
  obtain ⟨builds, connections, hcluster⟩ := Client.dialled_cluster s m
  have hread := nextRead_dialled s m
  rw [hcluster] at h hread
  cases h with
  | noNodes h => exact .noNodes h
  | metadata hfound h => exact .metadata hfound h
  | request h ht => exact .request ⟨h.fails, h.before⟩ ht
  | read h ht => exact .read (hread ▸ h) ht
  | trace h hn ht => exact .trace (hread ▸ h) hn ht

/-- What comes out of a session is no failure of the store. -/
theorem judged_escapes (hreachable : m.cluster.TraceReachable) (h : (judged s m).1 = .error e) :
    e.isStore = false ∧ Session.Escapes s m.cluster e := by
  cases hb : Client.buildFailure m with
  | some e' =>
    rw [judged_of_buildFailure hb] at h
    refine ⟨Check.givenUp_unstored h, ?_⟩
    rw [Check.givenUp_eq_error h]
    exact .unbuilt hb
  | none =>
    cases hf : Client.connectFailure m with
    | some e' =>
      rw [judged_of_connectFailure hb hf] at h
      refine ⟨Check.givenUp_unstored h, ?_⟩
      obtain ⟨rfl, htransport⟩ := Check.givenUp_wrapped h
      exact .unconnected hf htransport
    | none =>
      rw [judged_apply] at h
      rcases hc : checked s m with ⟨e' | r, m₁⟩
      · rw [hc] at h
        refine ⟨Check.givenUp_unstored h, ?_⟩
        rw [Check.givenUp_eq_error h]
        unfold checked at hc
        rw [Client.session_apply, hb, hf] at hc
        have hcheck : (Check.run (Client.store ⟨s, true, true⟩) (namesOf s) (Client.dialled s m)).1 = .error e' :=
          congrArg Prod.fst hc
        have hdialled : (Client.dialled s m).cluster.TraceReachable :=
          fun f hf => hreachable f (nextRead_dialled s m ▸ hf)
        exact .check (escapes_of_dialled (Check.run_escapes rfl hdialled hcheck))
      · rw [hc] at h
        exact nomatch h

/-- **What comes out of a run that had its lock** comes out of its session, or the lock file cannot be removed. -/
theorem run_escapes (hreachable : m.cluster.TraceReachable)
    (hlock : ∀ e, (Lock.acquire lock Lock.alone m).1 = .error e → e.ofLock = true)
    (h : (run s lock m).1 = .error e) (he : e.ofLock = false) : e.isStore = false ∧ Escapes s lock m e := by
  rcases hacquire : Lock.acquire lock Lock.alone m with ⟨e' | handle, m₁⟩
  · rw [run_apply, hacquire] at h
    rw [hacquire] at hlock
    rw [← Except.error.inj h, hlock e' rfl] at he
    exact nomatch he
  · obtain ⟨d, -, hlocked⟩ := run_of_acquired (s := s) hacquire
    rcases hlocked.of_error h with hjudged | ⟨reason, hfixed, rfl⟩
    · obtain ⟨hstore, hescapes⟩ := judged_escapes (hlocked.cluster ▸ hreachable) hjudged
      exact ⟨hstore, .session (hlocked.cluster ▸ hescapes)⟩
    · exact ⟨rfl, .fixed hacquire hfixed⟩

end Run

/-! ## Exit code 1 -/

namespace Command

variable {words : List String} {environment : List (String × String)} {process : Nat} {host : Host}
  {m m' : Machine} {ending : Ending} {r : Report} {e : Failure}

/-- The lock of a run can be had, or the refusal says that it cannot. -/
def LockSettled (given : Option Settings) (process : Nat) (m : Machine) : Prop :=
  ∀ s e, given = some s →
    (Lock.acquire ⟨s.lockFile, process⟩ Lock.alone (started m)).1 = .error e → e.ofLock = true

/-- A failure came out of the run, which is neither a refusal of the lock nor the signal to end, and nothing
is printed. -/
structure Crashed (given : Option Settings) (process : Nat) (m : Machine) (ending : Ending) (s : Settings)
    (e : Failure) : Prop where
  settings : given = some s
  raised : (Run.run s ⟨s.lockFile, process⟩ (started m)).1 = .error e
  unexpected : e.ofLock = false ∧ ∀ signal, e ≠ .terminated signal
  exitCode : ending.exitCode = crashCode
  output : ending.output = ""
  crash : ending.crash = some e

/-- A failure refuses the lock, is the signal to end, or makes a crash. -/
theorem endingOf_error (threshold : Severity) (e : Failure) :
    e.ofLock = true ∨ signalCode ≤ (endingOf threshold (.error e)).exitCode
      ∨ (e.ofLock = false ∧ ∀ signal, e ≠ .terminated signal)
        ∧ endingOf threshold (.error e) = ⟨crashCode, "", some e, threshold⟩ := by
  cases e with
  | alreadyRunning lock holder => exact .inl rfl
  | lockFile lock reason => exact .inl rfl
  | terminated signal => exact .inr (.inl (Nat.le_add_right signalCode signal))
  | _ => exact .inr (.inr ⟨⟨rfl, nofun⟩, rfl⟩)

theorem status_of_code_one {status : Status} (h : status.code = 1) : status = .degraded := by
  cases status with
  | degraded => rfl
  | healthy => exact nomatch h
  | unreachable => exact nomatch h

/-- A command that asks for help does nothing else. -/
theorem run_of_help (h : AsksForHelp words) {owner : Settings.Owner}
    (hstart : host.owner? m.files environment = some owner) (process : Nat) :
    run words environment process host m = (.silent 0, m) := by
  obtain ⟨parsed, hparse, hhelp⟩ := h
  rw [run_apply, request, hstart]
  simp only [hparse, if_pos hhelp]

/-- A run that returns a report does not crash: there is a line for it. -/
theorem crash_of_ok {s : Settings} (h : (Run.run s ⟨s.lockFile, process⟩ (started m)).1 = .ok r) :
    (runWith s process m).1.crash = none := by
  obtain ⟨line, hline, -⟩ := (Run.run_wellFormed h).summary_eq
  rw [runWith_eq, h]
  simp only [endingOf, hline]

/-- What exit code 1 of a run with valid settings means. -/
theorem runWith_exit_one {s : Settings} (hcode : (runWith s process m).1.exitCode = 1)
    (hsettled : LockSettled (some s) process m) (hreachable : m.cluster.TraceReachable) :
    (∃ r, Reported (some s) process m (runWith s process m).1 (runWith s process m).2 r ∧ r.status = .degraded)
    ∨ ∃ e, Crashed (some s) process m (runWith s process m).1 s e
      ∧ e.isStore = false ∧ Run.Escapes s ⟨s.lockFile, process⟩ (started m) e
      ∧ (e.isTransport = false ∨ Client.buildFailure m = some e) := by
  cases hresult : (Run.run s ⟨s.lockFile, process⟩ (started m)).1 with
  | ok r =>
    have hreported := reported_of_ok hresult (crash_of_ok hresult)
    exact .inl ⟨r, hreported, status_of_code_one (hreported.exitCode.symm.trans hcode)⟩
  | error e =>
    have hending : (runWith s process m).1 = endingOf (Logging.threshold s.debug) (.error e) := by
      rw [runWith_eq, hresult]
    rw [hending] at hcode ⊢
    rcases endingOf_error (Logging.threshold s.debug) e with hlock | hsignal | ⟨hunexpected, hcrash⟩
    · rw [endingOf_of_ofLock hlock] at hcode
      exact nomatch hcode
    · rw [hcode] at hsignal
      exact absurd hsignal (by decide)
    · obtain ⟨hstore, hescapes⟩ := Run.run_escapes (m := started m) hreachable
        (fun e he => hsettled s e rfl he) hresult hunexpected.1
      rw [hcrash]
      exact .inr ⟨e, ⟨rfl, hresult, hunexpected, rfl, rfl, rfl⟩, hstore, hescapes, hescapes.isTransport⟩

/-- **Exit code 1** means that the run returned a degraded report, or that the command did not even start for
lack of a place for temporary files, or that a failure came out of the run that is neither about the lock nor the
signal to end. That failure is none of the store, and it is one of those that nothing turns into anything else: a
cluster object that cannot be made, a cluster without nodes, metadata that are not valid, what a session reports
that is not of transport, or a lock file that cannot be removed. -/
theorem exit_one_degraded_or_crashed (hrun : run words environment process host m = (ending, m'))
    (hcode : ending.exitCode = 1) (hsettled : LockSettled (given? words environment host m.files) process m)
    (hreachable : m.cluster.TraceReachable) :
    (∃ r, Reported (given? words environment host m.files) process m ending m' r ∧ r.status = .degraded)
    ∨ ((∀ directory ∈ Host.candidates m.files.working environment, host.usable m.files directory = false)
      ∧ ending = .unstarted ∧ m' = m)
    ∨ ∃ s e, Crashed (given? words environment host m.files) process m ending s e
      ∧ e.isStore = false ∧ Run.Escapes s ⟨s.lockFile, process⟩ (started m) e
      ∧ (e.isTransport = false ∨ Client.buildFailure m = some e) := by
  cases hstart : host.owner? m.files environment with
  | none =>
    rw [run_unstarted hstart] at hrun
    obtain ⟨rfl, rfl⟩ := Prod.mk.inj hrun
    exact .inr (.inl ⟨Host.owner?_eq_none.1 hstart, rfl, rfl⟩)
  | some owner =>
    by_cases hhelp : AsksForHelp words
    · rw [run_of_help hhelp hstart] at hrun
      rw [← (Prod.mk.inj hrun).1] at hcode
      exact nomatch hcode
    rw [run_eq hhelp hstart] at hrun
    cases hgiven : given? words environment host m.files with
    | none =>
      rw [hgiven] at hrun
      rw [← (Prod.mk.inj hrun).1] at hcode
      exact nomatch hcode
    | some s =>
      rw [hgiven] at hrun hsettled
      obtain rfl : (runWith s process m).1 = ending := congrArg Prod.fst hrun
      obtain rfl : (runWith s process m).2 = m' := congrArg Prod.snd hrun
      rcases runWith_exit_one hcode hsettled hreachable with hreported | ⟨e, hcrashed⟩
      · exact .inl hreported
      · exact .inr (.inr ⟨s, e, hcrashed⟩)

/-- A cluster of one node whose keyspace has no number of copies, but one for each data center. -/
def perDatacenterNode : Machine :=
  { oneNode with cluster := { oneNode.cluster with keyspaces := [("healthcheck",
      [("class", .text "org.apache.cassandra.locator.NetworkTopologyStrategy"), ("dc1", .text "3")])] } }

/-- The words that name a lock file. -/
def lockWords : List String := ["--lock-file", "/hc.lock"]

/-- The run on that cluster has its lock, and returns no report. -/
theorem perDatacenterNode_raises : (given? lockWords [] (.plain 0) perDatacenterNode.files).map (fun s =>
    ((Lock.acquire ⟨s.lockFile, 4242⟩ Lock.alone (started perDatacenterNode)).1.isOk,
      (Run.run s ⟨s.lockFile, 4242⟩ (started perDatacenterNode)).1.isOk)) = some (true, false) := by
  decide +kernel

/-- The metadata of that cluster are not valid, so the exit code is 1 without any report. -/
theorem perDatacenterNode_exits_one :
    (run lockWords [] 4242 (.plain 0) perDatacenterNode).1.exitCode = 1
      ∧ (run lockWords [] 4242 (.plain 0) perDatacenterNode).1.crash
        = some (.invalid [⟨["replication_factor"], .missing⟩])
      ∧ ¬ ∃ s r, given? lockWords [] (.plain 0) perDatacenterNode.files = some s
        ∧ (Run.run s ⟨s.lockFile, 4242⟩ (started perDatacenterNode)).1 = .ok r ∧ r.status = .degraded := by
  refine ⟨by decide +kernel, by decide +kernel, ?_⟩
  rintro ⟨s, r, hs, hr, -⟩
  have hfailed := perDatacenterNode_raises
  rw [hs, Option.map_some, hr] at hfailed
  exact nomatch (Prod.mk.inj (Option.some.inj hfailed)).2

/-- What comes out of the run on that cluster are its metadata. -/
theorem perDatacenterNode_crashes : ∃ ending m' s e,
    run lockWords [] 4242 (.plain 0) perDatacenterNode = (ending, m') ∧ ending.exitCode = 1
      ∧ Crashed (given? lockWords [] (.plain 0) perDatacenterNode.files) 4242 perDatacenterNode ending s e
      ∧ Run.Escapes s ⟨s.lockFile, 4242⟩ (started perDatacenterNode) e ∧ e.isStore = false
      ∧ e.isTransport = false := by
  have hcode : (run lockWords [] 4242 (.plain 0) perDatacenterNode).1.exitCode = 1 := by decide +kernel
  have hraises := perDatacenterNode_raises
  have hsettled : LockSettled (given? lockWords [] (.plain 0) perDatacenterNode.files) 4242 perDatacenterNode := by
    intro s e hs he
    rw [hs, Option.map_some, he] at hraises
    exact nomatch (Prod.mk.inj (Option.some.inj hraises)).1
  rcases hrun : run lockWords [] 4242 (.plain 0) perDatacenterNode with ⟨ending, m'⟩
  rw [hrun] at hcode
  rcases exit_one_degraded_or_crashed hrun hcode hsettled (fun f hf => nomatch hf) with
    ⟨r, hreported, -⟩ | ⟨hstart, -, -⟩ | ⟨s, e, hcrashed, hstore, hescapes, htransport | hbuild⟩
  · obtain ⟨s, hs, hr, -⟩ := hreported.returned
    rw [hs, Option.map_some, hr] at hraises
    exact nomatch (Prod.mk.inj (Option.some.inj hraises)).2
  · exact absurd (hstart Settings.Owner.usualTemporary (by decide)) (by decide)
  · exact ⟨ending, m', s, e, rfl, hcode, hcrashed, hescapes, hstore, htransport⟩
  · exact nomatch hbuild

end Command

end ClusterHealth
