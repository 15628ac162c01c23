import ClusterHealth.Proofs.Attempts
import ClusterHealth.Proofs.Check
import ClusterHealth.Proofs.Client
import ClusterHealth.Proofs.Congruence
import ClusterHealth.Proofs.Session

/-!
# `ClusterHealth.Proofs.LostTrace` — a read whose trace is lost

Trouble with a trace is no trouble with the read that it belongs to: that is what a client promises, and it
keeps the promise for all failures but those of a connection that broke. Here a run whose trace cannot be
fetched is compared, step by step, with the same run without a trace.

## Contents
- `Machine.AlikeBut S`: machines that are the same but for their journals and the reads to come.
- `Cluster.read_alike`, `Client.read_lost`: a read whose script differs in the trace only.
- `Lost f x y`: what `y` gives is what `x` gives, up to a trace that is lost to `f`.
- `Check.probe_lost`, `Check.run_lost`, `Run.run_lost`: the same for a probe, a check and a run.
- `lost_trace`: what becomes of a read, a run and a command for each failure of a trace.
-/

namespace ClusterHealth

open ClusterHealth.Cql ClusterHealth.Retry ClusterHealth.Machine

/-! ## Machines that differ in the reads to come -/

namespace Machine

variable {S : List Cluster.ReadScript → List Cluster.ReadScript → Prop}

/-- Machines that are the same but for the journal and the reads that are to come. -/
def AlikeBut (S : List Cluster.ReadScript → List Cluster.ReadScript → Prop) (m m' : Machine) : Prop :=
  ∃ reads journal, m' = { m with cluster := { m.cluster with reads := reads }, journal := journal }
    ∧ S m.cluster.reads reads

theorem AlikeBut.congruence : Congruence (AlikeBut S) where
  observe := by
    rintro e m _ ⟨reads, journal, rfl, h⟩
    exact ⟨rfl, reads, _, rfl, h⟩
  files := by
    rintro α f m _ ⟨reads, journal, rfl, h⟩
    exact ⟨rfl, reads, _, rfl, h⟩
  cluster := by
    rintro α f hf m _ ⟨reads, journal, rfl, h⟩
    have hkept : (f m.cluster).2.reads = m.cluster.reads :=
      congrArg (fun x => Cluster.reads x.2) (hf m.cluster m.cluster.reads)
    have hother := hf m.cluster reads
    refine ⟨(congrArg Prod.fst hother).symm, reads, journal, ?_, hkept ▸ h⟩
    show { m with cluster := (f { m.cluster with reads := reads }).2, journal := journal } = _
    rw [hother]
    rfl
  endsCleanly := by
    rintro m _ ⟨reads, journal, rfl, -⟩
    rfl
  ending := by
    rintro m _ b ⟨reads, journal, rfl, h⟩
    exact ⟨reads, _, rfl, h⟩

theorem AlikeBut.mono {T : List Cluster.ReadScript → List Cluster.ReadScript → Prop} {m m' : Machine}
    (hST : ∀ xs ys, S xs ys → T xs ys) (h : AlikeBut S m m') : AlikeBut T m m' := by
  obtain ⟨reads, journal, hm', hS⟩ := h
  exact ⟨reads, journal, hm', hST _ _ hS⟩

/-- The next read is the same but for its trace, and all others are the same. -/
def TracesDiffer (t t' : Cluster.TraceScript) (xs ys : List Cluster.ReadScript) : Prop :=
  ∃ (script : Cluster.ReadScript) (rest : List Cluster.ReadScript), xs = { script with trace := t } :: rest
    ∧ ys = { script with trace := t' } :: rest

/-- The next read with another trace. -/
def withTrace (t : Cluster.TraceScript) (m : Machine) : Machine :=
  { m with cluster := { m.cluster with
      reads := { m.cluster.nextRead.1 with trace := t } :: m.cluster.nextRead.2.reads } }

theorem alikeBut_withTrace (t t' : Cluster.TraceScript) (m : Machine) :
    AlikeBut (TracesDiffer t t') (m.withTrace t) (m.withTrace t') :=
  ⟨_, m.journal, rfl, m.cluster.nextRead.1, m.cluster.nextRead.2.reads, rfl, rfl⟩

end Machine

/-! ## The read -/

namespace Cluster

variable {t t' : TraceScript} {m m' : Machine}

/-- A read whose script differs in the trace only: the same rows, each with its own trace. -/
theorem read_alike (q : Query) (r : Recorder) (h : AlikeBut (TracesDiffer t t') m m') :
    ∃ (r' : Recorder) (answer : Except Failure (List Value)),
      (Cluster.read q r m).1 = (r', answer.map (·, t))
      ∧ (Cluster.read q r m').1 = (r', answer.map (·, t'))
      ∧ AlikeBut (fun _ _ => True) (Cluster.read q r m).2 (Cluster.read q r m').2 := by
  obtain ⟨reads, journal, rfl, script, rest, hreads, rfl⟩ := h
  rw [read_apply, read_apply]
  generalize hother : ({ m with
    cluster := { m.cluster with reads := { script with trace := t' } :: rest }, journal } : Machine) = m'
  have hfails : m'.cluster.nextStatement.1 = m.cluster.nextStatement.1 := by rw [← hother]; rfl
  rw [hfails]
  cases m.cluster.nextStatement.1 with
  | some e => exact ⟨r, .error e, rfl, rfl, _, _, by rw [← hother]; rfl, trivial⟩
  | none =>
    -- Each machine takes its own script, and then both go through the same attempts.
    have hnext : (sent q m).cluster.nextRead =
        ({ script with trace := t }, { (sent q m).cluster with reads := rest }) := by
      unfold nextRead
      rw [show (sent q m).cluster.reads = m.cluster.reads from rfl, hreads]
    have hnext' : (sent q m').cluster.nextRead =
        ({ script with trace := t' }, { (sent q m').cluster with reads := rest }) := by
      rw [← hother]
      rfl
    have htaken : AlikeBut (fun _ _ => True) (taken (sent q m)) (taken (sent q m')) := by
      unfold taken
      rw [hnext, hnext', ← hother]
      exact ⟨_, _, rfl, trivial⟩
    rw [hnext, hnext']
    have hattempts := attemptAll_coupled AlikeBut.congruence.toLocalCongruence script.attempts q.level 0 r
      _ _ htaken
    show ∃ r' answer, (afterAttempts q _ (attemptAll script.attempts q.level 0 r _)).1 = _
      ∧ (afterAttempts q _ (attemptAll script.attempts q.level 0 r _)).1 = _ ∧ _
    rcases hm : attemptAll script.attempts q.level 0 r (taken (sent q m)) with ⟨⟨r₁, result⟩, m₁⟩
    rcases hm' : attemptAll script.attempts q.level 0 r (taken (sent q m')) with ⟨⟨r₁', result'⟩, m₁'⟩
    rw [hm, hm'] at hattempts
    obtain ⟨hsame, halike⟩ := hattempts
    obtain ⟨rfl, rfl⟩ := Prod.mk.inj hsame
    cases result with
    | error e => exact ⟨r₁, .error e, rfl, rfl, halike⟩
    | ok u =>
      have hrows : m₁.cluster.rowsOf q = m₁'.cluster.rowsOf q := rowsOf_eq AlikeBut.congruence.steps halike q
      refine ⟨r₁, script.answer (m₁.cluster.rowsOf q), rfl, ?_, halike⟩
      rw [hrows]
      rfl

end Cluster

/-! ## What is left without a trace -/

/-- What is left of a result that rests on a read if the trace of the read is lost: a connection that
broke takes the place of everything that was served. -/
def withoutTrace {α : Type} (f : DriverFailure) (served : α → Bool) : Except Failure α → Except Failure α
  | .ok a => if f.isConnection && served a then .error (.driver f) else .ok a
  | .error e => .error e

theorem withoutTrace_of_not {α : Type} {f : DriverFailure} {served : α → Bool} (hf : f.isConnection = false)
    (result : Except Failure α) : withoutTrace f served result = result := by
  cases result with
  | error e => rfl
  | ok a => simp [withoutTrace, hf]

theorem withoutTrace_of_unserved {α : Type} {f : DriverFailure} {served : α → Bool} {a : α}
    (ha : served a = false) : withoutTrace f served (.ok a) = .ok a := by
  simp [withoutTrace, ha]

/-- What was served is there still, unless the connection broke. -/
theorem withoutTrace_ok {α : Type} {f : DriverFailure} {served : α → Bool} {a : α} (ha : served a = true) :
    withoutTrace f served (.ok a) = if f.isConnection then .error (.driver f) else .ok a := by
  simp [withoutTrace, ha]

theorem withoutTrace_of_served {α : Type} {f : DriverFailure} {served : α → Bool} {a : α}
    (hf : f.isConnection = true) (ha : served a = true) :
    withoutTrace f served (.ok a) = .error (.driver f) := by
  rw [withoutTrace_ok ha, if_pos hf]

/-- What a trace may be lost to: it is not there, or the way to it fails. -/
def TraceTrouble (f : DriverFailure) : Prop :=
  f.isTransport = true ∨ ∃ reason, f = .traceUnavailable reason

namespace Client

variable {f : DriverFailure} {m m' : Machine}

/-- All trouble with a trace but a broken connection is only reported. -/
theorem traceNotice?_isSome (hf : TraceTrouble f) :
    (traceNotice? (.driver f)).isSome = !f.isConnection := by
  rcases hf with hf | ⟨reason, rfl⟩
  · cases f <;> first | rfl | exact absurd hf Bool.false_ne_true
  · rfl

/-- Fetching a trace changes the journal only. -/
theorem trace_journal (c : Client) (script : Cluster.TraceScript) (m : Machine) :
    ∃ journal, (c.trace script m).2 = { m with journal := journal } := by
  rw [trace_apply]
  cases script with
  | failing e =>
    rw [Cluster.fetchTrace_failing]
    cases hn : traceNotice? e with
    | none =>
      simp only [hn]
      exact ⟨_, rfl⟩
    | some notice =>
      simp only [hn]
      exact ⟨_, rfl⟩
  | fromHosts => exact ⟨_, rfl⟩
  | absent => exact ⟨_, rfl⟩
  | events events => exact ⟨_, rfl⟩

theorem trace_failing (hf : TraceTrouble f) (c : Client) (m : Machine) :
    (c.trace (.failing (.driver f)) m).1 = withoutTrace f (fun _ => true) (.ok none) := by
  have hsome := traceNotice?_isSome hf
  rw [trace_apply, Cluster.fetchTrace_failing]
  cases hn : traceNotice? (.driver f) with
  | some notice =>
    have hnot : f.isConnection = false := by simpa [hn] using hsome
    simp only [hn]
    exact (withoutTrace_of_not hnot _).symm
  | none =>
    have hbroke : f.isConnection = true := by simpa [hn] using hsome
    simp only [hn]
    exact (withoutTrace_of_served hbroke rfl).symm

/-- A read that was served and whose trace is lost: its rows, unless the connection broke. -/
theorem read_failing (hf : TraceTrouble f) {c : Client} (hc : c.connected = true) {q : Query}
    (hq : q.tracing = true) {r r' : Recorder} {rows : List Value}
    (hread : Cluster.read q r m = ((r', .ok (rows, .failing (.driver f))), m')) :
    (c.read q r m).1 = (r', if f.isConnection then .error (.driver f) else .ok ⟨rows, none⟩) := by
  show (c.store.read q r m).1 = _
  rw [read_apply hc hq, hread]
  show (r', (c.trace (.failing (.driver f)) m').1.map (Reading.mk rows)) = _
  rw [trace_failing hf, withoutTrace_ok rfl]
  split <;> rfl

/-- **A read whose trace is lost**, beside the same read without a trace. -/
theorem read_lost (hf : TraceTrouble f) (c : Client) {q : Query} (hq : q.tracing = true) (r : Recorder)
    (h : AlikeBut (TracesDiffer .absent (.failing (.driver f))) m m') :
    ∃ r' answer, (c.store.read q r m).1 = (r', answer)
      ∧ (c.store.read q r m').1 = (r', withoutTrace f (fun _ => true) answer)
      ∧ AlikeBut (fun _ _ => True) (c.store.read q r m).2 (c.store.read q r m').2 := by
  by_cases hc : c.connected = true
  · obtain ⟨r', answer, hleft, hright, halike⟩ := Cluster.read_alike q r h
    rw [read_apply hc hq, read_apply hc hq]
    rcases hm : Cluster.read q r m with ⟨_, m₁⟩
    rcases hm' : Cluster.read q r m' with ⟨_, m₁'⟩
    rw [hm] at hleft halike
    rw [hm'] at hright halike
    subst hleft hright
    cases answer with
    | error e => exact ⟨r', .error e.wrapTransport, rfl, rfl, halike⟩
    | ok rows =>
      -- The rows are there on both sides, and the trace is lost on one.
      refine ⟨r', .ok ⟨rows, none⟩, rfl, ?_, ?_⟩
      · show (r', (c.trace (.failing (.driver f)) m₁').1.map (Reading.mk rows)) = _
        rw [trace_failing hf]
        by_cases hbroke : f.isConnection = true
        · simp [withoutTrace, hbroke, Except.map]
        · simp [withoutTrace, hbroke, Except.map]
      · obtain ⟨journal, hj⟩ := trace_journal c .absent m₁
        obtain ⟨journal', hj'⟩ := trace_journal c (.failing (.driver f)) m₁'
        obtain ⟨reads, _, rfl, -⟩ := halike
        show AlikeBut _ (c.trace .absent m₁).2 (c.trace (.failing (.driver f)) _).2
        rw [hj, hj']
        exact ⟨reads, journal', rfl, trivial⟩
  · have hnone : ∀ m, c.store.read q r m = ((r, .error .notConnected), m) := by
      intro m
      show read c q r m = _
      unfold read
      rw [if_pos (by simp [hc])]
      rfl
    rw [hnone, hnone]
    exact ⟨r, .error .notConnected, rfl, rfl, h.mono fun _ _ _ => trivial⟩

end Client

/-! ## Work that rests on the read -/

/-- Whether a report is that of a read that returned its rows. -/
def Report.served (r : Report) : Bool := r.status != .unreachable

theorem Report.served_eq_true {r : Report} (h : r.status ≠ .unreachable) : r.served = true :=
  bne_iff_ne.2 h

/-- Machines before a read whose trace is lost on one of them. -/
abbrev Machine.BeforeLoss (f : DriverFailure) : Machine → Machine → Prop :=
  AlikeBut (TracesDiffer .absent (.failing (.driver f)))

/-- Machines after it. The clock was not read again where the trace was lost. -/
def Machine.AfterLoss (m m' : Machine) : Prop := m.files = m'.files

theorem Machine.AfterLoss.congruence : LocalCongruence AfterLoss where
  observe := fun _ _ _ h => ⟨rfl, h⟩
  files := fun {_} f _ _ h => ⟨congrArg (fun fs => (f fs).1) h, congrArg (fun fs => (f fs).2) h⟩

theorem Machine.AlikeBut.afterLoss {S : List Cluster.ReadScript → List Cluster.ReadScript → Prop}
    {m m' : Machine} (h : AlikeBut S m m') : AfterLoss m m' := by
  obtain ⟨reads, journal, rfl, -⟩ := h
  rfl

/-- Some work that ends, if the trace of its read is lost, with what is left of its result. -/
def Lost (f : DriverFailure) (x : Action Machine Report) : Prop :=
  ∀ m m', BeforeLoss f m m' →
    (x m').1 = withoutTrace f Report.served (x m).1 ∧ AfterLoss (x m).2 (x m').2

namespace Lost

variable {f : DriverFailure} {α : Type}

/-- Work that never gets to its read, and so does not serve anything. -/
theorem of_coupled {x : Action Machine Report} (hx : Coupled (BeforeLoss f) x x)
    (hunserved : ∀ m r, (x m).1 = .ok r → r.served = false) : Lost f x := by
  intro m m' h
  obtain ⟨hsame, hafter⟩ := hx m m' h
  refine ⟨?_, hafter.afterLoss⟩
  rw [← hsame]
  cases hr : (x m).1 with
  | error e => rfl
  | ok r => simp [withoutTrace, hunserved m r hr]

/-- Work before which other things are done. -/
theorem andThen {x : Action Machine α} {g : α → Action Machine Report} (hx : Coupled (BeforeLoss f) x x)
    (hg : ∀ a, Lost f (g a)) : Lost f (x >>= g) := by
  intro m m' h
  obtain ⟨hsame, hafter⟩ := hx m m' h
  rcases hm : x m with ⟨result, m₁⟩
  rcases hm' : x m' with ⟨result', m₁'⟩
  rw [hm, hm'] at hsame hafter
  obtain rfl : result = result' := hsame
  cases result with
  | error e =>
    rw [Action.bind_of_error hm, Action.bind_of_error hm']
    exact ⟨rfl, hafter.afterLoss⟩
  | ok a =>
    rw [Action.bind_of_ok hm, Action.bind_of_ok hm']
    exact hg a m₁ m₁' hafter

/-- Work that is followed by cleaning up, whatever comes of it. -/
theorem cleanUp {x : Action Machine Report} {z : Action Machine Unit} (hx : Lost f x)
    (hz : Coupled AfterLoss z z) :
    Lost f (x.outcome >>= fun result => z >>= fun _ => (liftM result : Action Machine Report)) := by
  intro m m' h
  obtain ⟨hresult, hafter⟩ := hx m m' h
  rw [Action.bind_of_ok (Action.outcome_apply x m), Action.bind_of_ok (Action.outcome_apply x m'), hresult]
  obtain ⟨hsame, hafter'⟩ := hz _ _ hafter
  rcases hm : z (x m).2 with ⟨done, m₁⟩
  rcases hm' : z (x m').2 with ⟨done', m₁'⟩
  rw [hm, hm'] at hsame hafter'
  obtain rfl : done = done' := hsame
  cases done with
  | error e =>
    rw [Action.bind_of_error hm, Action.bind_of_error hm']
    exact ⟨rfl, hafter'⟩
  | ok u =>
    rw [Action.bind_of_ok hm, Action.bind_of_ok hm']
    exact ⟨rfl, hafter'⟩

/-- Work of which some failures become reports of a cluster that is unreachable. -/
theorem handle {x : Action Machine Report} {caught : Failure → Bool} {g : Failure → Action Machine Report}
    (hx : Lost f x) (hf : caught (.driver f) = false) (hg : ∀ e, Coupled AfterLoss (g e) (g e))
    (hunserved : ∀ e m r, (g e m).1 = .ok r → r.served = false) : Lost f (x.handle caught g) := by
  intro m m' h
  obtain ⟨hresult, hafter⟩ := hx m m' h
  unfold Action.handle
  rw [Action.bind_of_ok (Action.outcome_apply x m), Action.bind_of_ok (Action.outcome_apply x m'), hresult]
  cases (x m).1 with
  | ok r =>
    -- Served work has failed on the other side if the connection broke, and that is not caught.
    by_cases hlost : (f.isConnection && r.served) = true
    · simp only [withoutTrace, if_pos hlost, hf]
      exact ⟨(if_pos hlost).symm, hafter⟩
    · simp only [withoutTrace, if_neg hlost]
      exact ⟨(if_neg hlost).symm, hafter⟩
  | error e =>
    -- Work that failed before its read failed alike on both sides.
    by_cases he : caught e = true
    · simp only [withoutTrace, if_pos he]
      obtain ⟨hsame, hafter'⟩ := hg e _ _ hafter
      refine ⟨?_, hafter'⟩
      rw [← hsame]
      cases hr : (g e (x m).2).1 with
      | error e => rfl
      | ok r => simp [hunserved e _ r hr]
    · simp only [withoutTrace, if_neg he]
      exact ⟨rfl, hafter⟩

end Lost

/-! ## Whole runs -/

variable {f : DriverFailure}

namespace Check

theorem unreachable_served {σ : Type} {store : Store σ} {e : Failure}
    {snapshot : Option Topology.Snapshot} (s : σ) (r : Report)
    (h : (unreachable store e snapshot s).1 = .ok r) : r.served = false := by
  rw [← Except.ok.inj h]
  rfl

theorem verdict_served (snapshot : Topology.Snapshot) (result : Except Failure Reading)
    (decision : Option Downgrade) (latency : Number.Binary64) :
    (verdict snapshot ⟨result, decision, latency⟩).1.served = result.toBool := by
  cases result with
  | error e => rfl
  | ok reading => cases decision <;> rfl

/-- The probe is where the trace is lost. -/
theorem probe_lost (hf : TraceTrouble f) (c : Client) (names : Schema.Names)
    (snapshot : Topology.Snapshot) : Lost f (probe c.store names snapshot) := by
  intro m m' h
  have hreported : ∀ notices m, (c.store.reportAll notices m).2.files = m.files := by
    intro notices m
    show (notices.forM report m).2.files = m.files
    rw [forM_report_apply]
  obtain ⟨hstarted, hbefore⟩ := (Client.store_coupled AlikeBut.congruence c).clock m m' h
  obtain ⟨recorder, answer, hleft, hright, hafter⟩ :=
    Client.read_lost hf c (q := (Probe.ofNames names).query) rfl .fresh hbefore
  rw [probe_apply, probe_apply, Probe.run_apply, Probe.run_apply]
  rcases hm : c.store.read (Probe.ofNames names).query .fresh (c.store.clock m).2 with ⟨_, m₁⟩
  rcases hm' : c.store.read (Probe.ofNames names).query .fresh (c.store.clock m').2 with ⟨_, m₁'⟩
  rw [hm] at hleft hafter
  rw [hm'] at hright hafter
  subst hleft hright
  have hended := ((Client.store_coupled AlikeBut.congruence c).clock m₁ m₁' hafter).1
  have hlatency : Probe.latency c.store m m₁ = Probe.latency c.store m' m₁' := by
    unfold Probe.latency
    rw [hstarted, hended]
  have hfiles : (c.store.clock m₁).2.files = (c.store.clock m₁').2.files := hafter.afterLoss
  cases answer with
  | error e =>
    by_cases he : e.isStore = true
    · simp only [withoutTrace, if_pos he, hlatency]
      refine ⟨(withoutTrace_of_unserved (verdict_served snapshot (.error e) _ _)).symm, ?_⟩
      exact (hreported _ _).trans (hfiles.trans (hreported _ _).symm)
    · simp only [withoutTrace, if_neg he]
      exact ⟨trivial, hafter.afterLoss⟩
  | ok reading =>
    -- A broken connection ends the probe before its clock is read again; other trouble does not show.
    by_cases hbroke : f.isConnection = true
    · have hlost : withoutTrace f (fun _ => true) (.ok reading) = .error (.driver f) :=
        withoutTrace_of_served hbroke rfl
      simp only [hlost]
      refine ⟨(withoutTrace_of_served hbroke (verdict_served snapshot (.ok reading) _ _)).symm, ?_⟩
      exact (hreported _ _).trans ((hreported _ _).trans hafter.afterLoss)
    · simp only [withoutTrace_of_not (Bool.eq_false_iff.2 hbroke), hlatency]
      refine ⟨trivial, ?_⟩
      show (c.store.reportAll _ (c.store.reportAll _ _).2).2.files =
        (c.store.reportAll _ (c.store.reportAll _ _).2).2.files
      rw [hreported, hreported, hreported, hreported]
      exact hfiles

theorem run_lost (hf : TraceTrouble f) (c : Client) (names : Schema.Names) :
    Lost f (run c.store names) := by
  have hstore : c.store.Coupled (BeforeLoss f) c.store := Client.store_coupled AlikeBut.congruence c
  unfold run
  refine Lost.andThen (Coupled.outcome (takeSnapshot_coupled hstore)) fun taken => ?_
  cases taken with
  | error e =>
    by_cases he : e.isStore = true
    · simp only [if_pos he]
      exact Lost.of_coupled (unreachable_coupled hstore e none) unreachable_served
    · simp only [if_neg he]
      exact Lost.of_coupled (Coupled.throw e) fun _ _ h => nomatch h
  | ok snapshot =>
    refine Lost.andThen (Coupled.outcome (Schema.reconcile_coupled hstore names.folded snapshot)) fun made => ?_
    cases made with
    | error e =>
      by_cases he : e.isStore = true
      · simp only [if_pos he]
        exact Lost.of_coupled (unreachable_coupled hstore e (some snapshot)) unreachable_served
      · simp only [if_neg he]
        exact Lost.of_coupled (Coupled.throw e) fun _ _ h => nomatch h
    | ok size => exact probe_lost hf c names snapshot

end Check

/-- A session: the client that enters, its work, and the end of the session. -/
theorem Client.session_eq (s : Settings) (work : Client → Action Machine Report) :
    session s work =
      (ExceptT.lift (ofSettings s).enter >>= fun x => (liftM x.2 : Action Machine Unit) >>= fun _ =>
          Pure.pure x.1) >>= fun c =>
        (work c).outcome >>= fun result =>
          (ExceptT.lift c.close >>= fun _ => Pure.pure ()) >>= fun _ =>
            (liftM result : Action Machine Report) := by
  unfold session
  simp only [bind_assoc, pure_bind]
  rfl

theorem Client.session_lost (s : Settings) {work : Client → Action Machine Report}
    (hwork : ∀ c, Lost f (work c)) : Lost f (session s work) := by
  rw [session_eq]
  refine Lost.andThen ?_ fun c => Lost.cleanUp (hwork c) ?_
  · refine Coupled.andThen (Coupled.lift (enter_coupled AlikeBut.congruence.steps _)) fun x => ?_
    exact Coupled.andThen (fun _ _ h => ⟨rfl, h⟩) fun _ => Coupled.pure _
  · exact Coupled.andThen (Coupled.lift (close_coupled AfterLoss.congruence c)) fun _ => Coupled.pure _

namespace Run

theorem judged_lost (hf : TraceTrouble f) (s : Settings) : Lost f (judged s) := by
  unfold judged checked
  refine Lost.handle (Client.session_lost s fun c => Check.run_lost hf c _) rfl (fun e => ?_) fun e m r h => ?_
  · exact Coupled.andThen (Coupled.lift (AfterLoss.congruence.observe _)) fun _ => Coupled.pure _
  · rw [← Except.ok.inj h]
    rfl

/-- **A run whose trace is lost.** -/
theorem run_lost (hf : TraceTrouble f) (s : Settings) (lock : Lock.LockFile) : Lost f (run s lock) := by
  rw [run_eq]
  refine Lost.andThen (Lock.acquire_coupled AlikeBut.congruence.toLocalCongruence lock _) fun h => ?_
  refine Lost.cleanUp (judged_lost hf s) ?_
  exact Coupled.andThen (Coupled.lift (Lock.release_coupled AfterLoss.congruence h _)) fun _ _ _ h => ⟨rfl, h⟩

/-- A run whose trace is lost, beside the same run without a trace. -/
theorem run_withTrace (hf : TraceTrouble f) (s : Settings) (lock : Lock.LockFile) (m : Machine) :
    (run s lock (m.withTrace (.failing (.driver f)))).1 =
      withoutTrace f Report.served (run s lock (m.withTrace .absent)).1 :=
  (run_lost hf s lock _ _ (alikeBut_withTrace .absent (.failing (.driver f)) m)).1

end Run

namespace Command

/-- How a run with valid settings ends the command. -/
theorem runWith_apply (s : Settings) (process : Nat) (m : Machine) :
    (runWith s process m).1 = endingOf (Logging.threshold s.debug)
      (Run.run s ⟨s.lockFile, process⟩ { m with endsCleanly := true }).1 := rfl

/-- A command ends as it does without a trace, unless the connection broke. -/
theorem run_withTrace (hf : TraceTrouble f) (hnot : f.isConnection = false) (words : List String)
    (environment : List (String × String)) (process : Nat) (host : Host) (m : Machine) :
    (run words environment process host (m.withTrace (.failing (.driver f)))).1
      = (run words environment process host (m.withTrace .absent)).1 := by
  have hfiles : ∀ t : Cluster.TraceScript, (m.withTrace t).files = m.files := fun _ => rfl
  rw [run_apply, run_apply, hfiles, hfiles]
  cases request words environment host m.files with
  | error ending => rfl
  | ok s =>
    show (runWith s process _).1 = (runWith s process _).1
    rw [runWith_apply, runWith_apply]
    have hrun := Run.run_withTrace hf s ⟨s.lockFile, process⟩ { m with endsCleanly := true }
    rw [withoutTrace_of_not hnot] at hrun
    exact congrArg _ hrun

/-- A command whose connection broke under a served run crashes. -/
theorem runWith_broken (hf : TraceTrouble f) (hbroke : f.isConnection = true) (s : Settings) (process : Nat)
    {m : Machine} {r : Report}
    (hr : (Run.run s ⟨s.lockFile, process⟩ { m.withTrace .absent with endsCleanly := true }).1 = .ok r)
    (hserved : r.status ≠ .unreachable) :
    (runWith s process (m.withTrace (.failing (.driver f)))).1
      = ⟨crashCode, "", some (.driver f), Logging.threshold s.debug⟩ := by
  have hrun := Run.run_withTrace hf s ⟨s.lockFile, process⟩ { m with endsCleanly := true }
  have hr : (Run.run s ⟨s.lockFile, process⟩ (withTrace .absent { m with endsCleanly := true })).1
    = .ok r := hr
  rw [hr, withoutTrace_of_served hbroke (Report.served_eq_true hserved)] at hrun
  rw [runWith_apply]
  exact congrArg _ hrun

end Command

/-! ## Lost traces -/

/-- **A lost trace.** Whatever a trace is lost to, unless its connection broke, a read that was served gives
its rows without a trace, and the run and the command end as they do without one. If the connection broke,
that failure takes the place of the rows, of the verdict and of what the command tells. -/
theorem lost_trace (f : DriverFailure) (hf : TraceTrouble f) :
    (∀ (c : Client) (q : Query) (r r' : Recorder) (rows : List Value) (m m' : Machine),
      c.connected = true → q.tracing = true →
      Cluster.read q r m = ((r', .ok (rows, .failing (.driver f))), m') →
      (c.read q r m).1 = (r', if f.isConnection then .error (.driver f) else .ok ⟨rows, none⟩))
    ∧ (∀ (s : Settings) (lock : Lock.LockFile) (m : Machine) (r : Report),
      (Run.run s lock (m.withTrace .absent)).1 = .ok r → r.status ≠ .unreachable →
      (Run.run s lock (m.withTrace (.failing (.driver f)))).1
        = if f.isConnection then .error (.driver f) else .ok r)
    ∧ (∀ (s : Settings) (lock : Lock.LockFile) (m : Machine),
      (∀ r, (Run.run s lock (m.withTrace .absent)).1 = .ok r → r.status = .unreachable) →
      (Run.run s lock (m.withTrace (.failing (.driver f)))).1 = (Run.run s lock (m.withTrace .absent)).1)
    ∧ (f.isConnection = false → ∀ (words : List String) (environment : List (String × String))
        (process : Nat) (host : Host) (m : Machine),
      (Command.run words environment process host (m.withTrace (.failing (.driver f)))).1
        = (Command.run words environment process host (m.withTrace .absent)).1)
    ∧ (f.isConnection = true → ∀ (s : Settings) (process : Nat) (m : Machine) (r : Report),
      (Run.run s ⟨s.lockFile, process⟩ { m.withTrace .absent with endsCleanly := true }).1 = .ok r →
      r.status ≠ .unreachable →
      (Command.runWith s process (m.withTrace (.failing (.driver f)))).1
        = ⟨Command.crashCode, "", some (.driver f), Logging.threshold s.debug⟩) := by
  refine ⟨?_, ?_, ?_, ?_, ?_⟩
  · intro c q r r' rows m m' hc hq hread
    exact Client.read_failing hf hc hq hread
  · intro s lock m r hr hserved
    rw [Run.run_withTrace hf, hr]
    exact withoutTrace_ok (Report.served_eq_true hserved)
  · intro s lock m hunserved
    rw [Run.run_withTrace hf]
    cases hr : (Run.run s lock (m.withTrace .absent)).1 with
    | error e => rfl
    | ok r => exact withoutTrace_of_unserved (by simp [Report.served, hunserved r hr])
  · intro hnot words environment process host m
    exact Command.run_withTrace hf hnot words environment process host m
  · intro hbroke s process m r hr hserved
    exact Command.runWith_broken hf hbroke s process hr hserved

/-- A trace that is late leaves a healthy cluster healthy. -/
theorem lost_trace_timedOut : TraceTrouble (.operationTimedOut none none)
    ∧ ∃ r, r.status = .healthy
      ∧ (Run.run oneNodeSettings ⟨oneNodeSettings.lockFile, 4242⟩
          (oneNode.withTrace (.failing (.driver (.operationTimedOut none none))))).1 = .ok r := by
  have hf : TraceTrouble (.operationTimedOut none none) := .inl rfl
  refine ⟨hf, ?_⟩
  have hstatus : (Run.run oneNodeSettings ⟨oneNodeSettings.lockFile, 4242⟩
      (oneNode.withTrace .absent)).1.toOption.map (·.status) = some .healthy := by decide +kernel
  cases hr : (Run.run oneNodeSettings ⟨oneNodeSettings.lockFile, 4242⟩ (oneNode.withTrace .absent)).1 with
  | error e =>
    rw [hr] at hstatus
    exact absurd hstatus (by simp [Except.toOption])
  | ok r =>
    rw [hr] at hstatus
    have hhealthy : r.status = .healthy := Option.some.inj hstatus
    refine ⟨r, hhealthy, ?_⟩
    rw [(lost_trace _ hf).2.1 _ _ _ r hr (by rw [hhealthy]; decide)]
    rfl

/-- A connection that breaks while the trace is fetched makes a run fail that is healthy without a trace. -/
theorem trace_connection_escapes :
    TraceTrouble (.connection .general "m")
    ∧ (Run.run oneNodeSettings ⟨oneNodeSettings.lockFile, 4242⟩
        (oneNode.withTrace .absent)).1.toOption.map (·.status) = some .healthy
    ∧ ∃ e, (Run.run oneNodeSettings ⟨oneNodeSettings.lockFile, 4242⟩
        (oneNode.withTrace (.failing (.driver (.connection .general "m"))))).1 = .error e
      ∧ e = .driver (.connection .general "m") := by
  refine ⟨.inl rfl, by decide +kernel, ?_⟩
  have hfailed : (match (Run.run oneNodeSettings ⟨oneNodeSettings.lockFile, 4242⟩
      (oneNode.withTrace (.failing (.driver (.connection .general "m"))))).1 with
    | .error e => some e
    | .ok _ => none) = some (.driver (.connection .general "m")) := by decide +kernel
  split at hfailed
  · next e he => exact ⟨e, he, Option.some.inj hfailed⟩
  · exact nomatch hfailed

end ClusterHealth
