import ClusterHealth.Proofs.Recording
import ClusterHealth.Proofs.UnderLock
import ClusterHealth.Proofs.Verdict

/-!
# `ClusterHealth.Proofs.Reports` — a report has what its status calls for

The fields of a report are optional, and each of its makers fills some of them. Which of them are there is
fixed by the status: a healthy report has nothing but its nodes, a degraded one has a downgrade that is one,
and an unreachable one has a text. A line can therefore be printed for every report.

## Contents
- `Check.answer?`, `Run.answer?`: what the read gave, and what its recorder held then.
- `Report.WellFormed`: what each status calls for; `Report.WellFormed.summary_eq`: the line.
- `Check.run_wellFormed`, `Run.report_wellFormed`: every report of a check and of a run.
-/

namespace ClusterHealth

open ClusterHealth.Cql ClusterHealth.Retry ClusterHealth.Machine ClusterHealth.Network

/-! ## The answer to the read -/

/-- What the read of a check gave, and what its recorder held then; `none` if the check does not come to its
read. -/
def Check.answer? {σ : Type} (store : Store σ) (names : Schema.Names) (s : σ) :
    Option (Recorder × Except Failure Reading) :=
  match takeSnapshot store s with
  | (.error _, _) => none
  | (.ok snapshot, s₁) =>
    match Schema.reconcile store names.folded snapshot s₁ with
    | (.error _, _) => none
    | (.ok _, s₂) => some (store.read (Probe.ofNames names).query .fresh (store.clock s₂).2).1

/-- What the read of a run gave; `none` if there was no lock, no session, or no read. -/
def Run.answer? (s : Settings) (lock : Lock.LockFile) (m : Machine) :
    Option (Recorder × Except Failure Reading) :=
  match Lock.acquire lock Lock.alone m with
  | (.error _, _) => none
  | (.ok _, m₁) =>
    match Client.buildFailure m₁, Client.connectFailure m₁ with
    | none, none => Check.answer? (Client.store ⟨s, true, true⟩) (namesOf s) (Client.dialled s m₁)
    | _, _ => none

/-! ## What a status calls for -/

/-- A report has what its status calls for and nothing else. `nodes` are the nodes of the run and `answer`
is what the read gave. -/
structure Report.WellFormed (r : Report) (nodes : NodeSet)
    (answer : Option (Recorder × Except Failure Reading)) : Prop where
  healthy : r.status = .healthy → ∃ snapshot recorder reading,
    answer = some (recorder, .ok reading) ∧ recorder.last = none
    ∧ r.snapshot = some snapshot ∧ snapshot.nodes = nodes
    ∧ r.decision = none ∧ r.missing = none ∧ r.error = none
  degraded : r.status = .degraded → ∃ snapshot recorder reading d,
    answer = some (recorder, .ok reading) ∧ recorder.last = some d
    ∧ r.snapshot = some snapshot ∧ snapshot.nodes = nodes
    ∧ r.decision = some d ∧ d.granted ≠ d.requested ∧ r.error = none
    ∧ (r.missing = none ↔ reading.trace = none)
    ∧ ∀ missing, r.missing = some missing → ∀ node ∈ missing, node ∈ snapshot.nodes
  unreachable : r.status = .unreachable →
    (∃ text, r.error = some text) ∧ r.decision = none ∧ r.missing = none
  /-- Whatever was recorded before a read failed. -/
  failed : ∀ recorder e, answer = some (recorder, .error e) → r.status = .unreachable

namespace Report.WellFormed

variable {r : Report} {nodes : NodeSet} {answer : Option (Recorder × Except Failure Reading)}

/-- There is a line for every report, and that of a healthy one has the number of its nodes. -/
theorem summary_eq (h : r.WellFormed nodes answer) : ∃ line, r.summary = .ok line
    ∧ (r.status = .healthy → line = "HEALTHY (" ++ Text.decimal nodes.size
        ++ " nodes answered at ALL in " ++ r.latency.fixed 0 ++ "ms)") := by
  unfold Report.summary
  cases hstatus : r.status with
  | healthy =>
    obtain ⟨snapshot, _, _, -, -, hsnapshot, hnodes, -⟩ := h.healthy hstatus
    rw [hsnapshot, ← hnodes]
    exact ⟨_, rfl, fun _ => rfl⟩
  | degraded =>
    obtain ⟨_, _, _, d, -, -, -, -, hd, -⟩ := h.degraded hstatus
    rw [hd]
    exact ⟨_, rfl, fun hh => nomatch hh⟩
  | unreachable => exact ⟨_, rfl, fun hh => nomatch hh⟩

/-- A report on a failure calls for nothing else. -/
theorem of_unreachable (hr : r.status = .unreachable) (herror : ∃ text, r.error = some text)
    (hdecision : r.decision = none) (hmissing : r.missing = none) : r.WellFormed nodes answer where
  healthy := fun h => nomatch hr.symm.trans h
  degraded := fun h => nomatch hr.symm.trans h
  unreachable := fun _ => ⟨herror, hdecision, hmissing⟩
  failed := fun _ _ _ => hr

end Report.WellFormed

/-! ## Reports of a check -/

namespace Check

/-- The nodes that are missing are nodes of the snapshot, and they are not known just if there is no
trace. -/
theorem missingNodes?_spec (trace : Option (List Trace.Event)) (snapshot : Topology.Snapshot) :
    (Trace.missingNodes? trace snapshot = none ↔ trace = none)
      ∧ ∀ missing, Trace.missingNodes? trace snapshot = some missing →
        ∀ node ∈ missing, node ∈ snapshot.nodes := by
  unfold Trace.missingNodes?
  refine ⟨Option.map_eq_none_iff, ?_⟩
  intro missing h node hnode
  obtain ⟨events, -, rfl⟩ := Option.map_eq_some_iff.1 h
  exact (NodeSet.mem_diff.1 hnode).1

/-- **The verdict on a read.** What was recorded is a downgrade to another level, if it is anything. -/
theorem verdict_wellFormed {snapshot : Topology.Snapshot} {recorder : Recorder}
    {result : Except Failure Reading} {latency : Number.Binary64} {attempts : List FailedAttempt}
    (h : Remembers recorder.last attempts) :
    (verdict snapshot ⟨result, recorder.last, latency⟩).1.WellFormed snapshot.nodes
      (some (recorder, result)) := by
  cases result with
  | error e => exact .of_unreachable rfl ⟨_, rfl⟩ rfl rfl
  | ok reading =>
    cases hlast : recorder.last with
    | none => exact
      { healthy := fun _ => ⟨snapshot, recorder, reading, rfl, hlast, rfl, rfl, rfl, rfl, rfl⟩
        degraded := fun hd => nomatch hd
        unreachable := fun hu => nomatch hu
        failed := fun _ _ hf => nomatch (Prod.mk.inj (Option.some.inj hf)).2 }
    | some d =>
      rw [hlast] at h
      obtain ⟨hmissing, hsubset⟩ := missingNodes?_spec reading.trace snapshot
      exact
        { healthy := fun hh => nomatch hh
          degraded := fun _ => ⟨snapshot, recorder, reading, d, rfl, hlast, rfl, rfl, rfl, h.granted_ne, rfl,
            hmissing, hsubset⟩
          unreachable := fun hu => nomatch hu
          failed := fun _ _ hf => nomatch (Prod.mk.inj (Option.some.inj hf)).2 }

variable {c : Client} {names : Schema.Names} {m m' : Machine} {r : Report}

/-- **Every report of a check** is well formed, in whichever of the three ways it was made. -/
theorem run_wellFormed (h : run c.store names m = (.ok r, m')) :
    r.WellFormed (Topology.nodeNames m.cluster.hosts) (answer? c.store names m) := by
  rcases run_eq_ok h with ⟨e, m₁, hsnap, -, rfl, -⟩ | ⟨snapshot, m₁, hsnap, hway⟩
  · exact .of_unreachable rfl ⟨_, rfl⟩ rfl rfl
  · obtain ⟨-, hnodes⟩ := takeSnapshot_spec hsnap
    rcases hway with ⟨e, m₂, -, -, rfl, -⟩ | ⟨size, m₂, hreconcile, hprobe⟩
    · exact .of_unreachable rfl ⟨_, rfl⟩ rfl rfl
    · obtain ⟨recorder, result, m₃, latency, -, hread, -, rfl, -⟩ := probe_eq_ok hprobe
      have hanswer : answer? c.store names m = some (recorder, result) := by
        unfold answer?
        simp only [hsnap, hreconcile, hread]
      obtain ⟨attempts, hconsulted⟩ :=
        c.read_exchanges (q := (Probe.ofNames names).query) rfl .fresh (c.store.clock m₂).2
      rw [hread] at hconsulted
      rw [hanswer, ← hnodes]
      exact verdict_wellFormed hconsulted.remembers

end Check

/-! ## Reports of a run -/

namespace Run

/-- Every report on a session is well formed, whether its check made it or the session failed. -/
theorem judged_wellFormed {s : Settings} {m : Machine} {r : Report} (h : (judged s m).1 = .ok r) :
    r.WellFormed (Topology.nodeNames m.cluster.hosts)
      (match Client.buildFailure m, Client.connectFailure m with
        | none, none => Check.answer? (Client.store ⟨s, true, true⟩) (namesOf s) (Client.dialled s m)
        | _, _ => none) := by
  rw [judged_apply] at h
  rcases hchecked : checked s m with ⟨e | r', m₁⟩
  · rw [hchecked] at h
    obtain ⟨-, rfl, -⟩ := Check.givenUp_eq_ok (Prod.ext h rfl)
    exact .of_unreachable rfl ⟨_, rfl⟩ rfl rfl
  · rw [hchecked] at h
    obtain rfl : r' = r := Except.ok.inj h
    unfold checked at hchecked
    rw [Client.session_apply] at hchecked
    cases hbuild : Client.buildFailure m with
    | some e =>
      rw [hbuild] at hchecked
      exact nomatch (congrArg Prod.fst hchecked)
    | none =>
      cases hconnect : Client.connectFailure m with
      | some e =>
        rw [hbuild, hconnect] at hchecked
        exact nomatch (congrArg Prod.fst hchecked)
      | none =>
        rw [hbuild, hconnect] at hchecked
        have hcheck : (Check.run (Client.store ⟨s, true, true⟩) (namesOf s) (Client.dialled s m)).1
            = .ok r' := congrArg Prod.fst hchecked
        obtain ⟨builds, connections, hcluster⟩ := Client.dialled_cluster s m
        have hhosts : (Client.dialled s m).cluster.hosts = m.cluster.hosts := by rw [hcluster]
        rw [← hhosts]
        exact Check.run_wellFormed (Prod.ext hcheck rfl)

theorem run_wellFormed {s : Settings} {lock : Lock.LockFile} {m : Machine} {r : Report}
    (h : (run s lock m).1 = .ok r) :
    r.WellFormed (Topology.nodeNames m.cluster.hosts) (answer? s lock m) := by
  unfold answer?
  rcases hacquire : Lock.acquire lock Lock.alone m with ⟨e | handle, m₁⟩
  · rw [run_apply, hacquire] at h
    exact nomatch h
  · obtain ⟨d, -, hlocked⟩ := run_of_acquired (s := s) hacquire
    rw [← hlocked.cluster]
    exact judged_wellFormed (hlocked.of_ok h).2

/-- **Every report of a run** has what its status calls for, so that its line can be printed, and the line
of a healthy cluster shows the number of distinct nodes of the run. -/
theorem report_wellFormed {s : Settings} {lock : Lock.LockFile} {m m' : Machine} {r : Report}
    (h : run s lock m = (.ok r, m')) :
    r.WellFormed (Topology.nodeNames m.cluster.hosts) (answer? s lock m)
      ∧ ∃ line, r.summary = .ok line ∧ (r.status = .healthy → line = "HEALTHY ("
          ++ Text.decimal (m.cluster.hosts.map Topology.nodeName).dedup.length
          ++ " nodes answered at ALL in " ++ r.latency.fixed 0 ++ "ms)") := by
  have hformed := run_wellFormed (congrArg Prod.fst h)
  obtain ⟨line, hline, hhealthy⟩ := hformed.summary_eq
  refine ⟨hformed, line, hline, ?_⟩
  rw [← NodeSet.size_ofList]
  exact hhealthy

/-- A node that fails its read after a retry at level two is unreachable: the downgrade that was recorded is
not in the report. -/
theorem report_wellFormed_recoveringNode : ∃ recorder e r m',
    run oneNodeSettings ⟨oneNodeSettings.lockFile, 4242⟩ recoveringNode = (.ok r, m')
    ∧ answer? oneNodeSettings ⟨oneNodeSettings.lockFile, 4242⟩ recoveringNode = some (recorder, .error e)
    ∧ recorder.last = some ⟨.unavailable, 5, 2, 2, 3⟩
    ∧ r.status = .unreachable ∧ (∃ text, r.error = some text) ∧ r.decision = none ∧ r.missing = none := by
  have hok : (run oneNodeSettings ⟨oneNodeSettings.lockFile, 4242⟩ recoveringNode).1.isOk = true := by
    decide +kernel
  have hread : (answer? oneNodeSettings ⟨oneNodeSettings.lockFile, 4242⟩ recoveringNode).map
      (fun a => (a.1.last, a.2.isOk)) = some (some ⟨.unavailable, 5, 2, 2, 3⟩, false) := by decide +kernel
  rcases hrun : run oneNodeSettings ⟨oneNodeSettings.lockFile, 4242⟩ recoveringNode with ⟨e | r, m'⟩
  · rw [hrun] at hok
    exact nomatch hok
  · obtain ⟨hformed, -⟩ := report_wellFormed hrun
    obtain ⟨⟨recorder, e | reading⟩, hanswer, hlast⟩ := Option.map_eq_some_iff.1 hread
    · have hstatus := hformed.failed recorder e hanswer
      exact ⟨recorder, e, r, m', rfl, hanswer, (Prod.mk.inj hlast).1, hstatus, hformed.unreachable hstatus⟩
    · exact nomatch (Prod.mk.inj hlast).2

end Run

end ClusterHealth
