import ClusterHealth.Command
import ClusterHealth.Proofs.Attempts
import ClusterHealth.Proofs.Coupling

/-!
# `ClusterHealth.Proofs.Congruence` — relations that a run cannot tell apart

A relation between machines is a congruence if no step of a run can tell related machines apart: calls to
the system, to the cluster and to the journal give the same results on both. What a congruence leaves open
is the scripts of the reads to come; if they cannot be told apart either, neither can whole runs. A congruence
of steps leaves the hosts open as well.

## Contents
- `Machine.StepCongruence`, `Machine.Congruence`: the conditions on single steps.
- `Client.store_coupled`, `Client.session_coupled`, `Lock.hold_coupled`: sessions and locks.
- `Run.run_coupled`, `Command.run_coupled`: whole runs, if checks cannot tell the machines apart.
- `Command.run_journal`: the journal is written and never read.
-/

namespace ClusterHealth

open ClusterHealth.Cql ClusterHealth.Retry ClusterHealth.Machine

/-! ## Congruences -/

/-- A step of the cluster that neither looks at the reads to come nor changes them. -/
def Cluster.Blind {α : Type} (f : Cluster → α × Cluster) : Prop :=
  ∀ c reads, f { c with reads := reads } = ((f c).1, { (f c).2 with reads := reads })

/-- A step of the cluster that neither looks at the hosts and the reads to come nor changes them. -/
def Cluster.Narrow {α : Type} (f : Cluster → α × Cluster) : Prop :=
  ∀ c hosts reads, f { c with hosts := hosts, reads := reads }
    = ((f c).1, { (f c).2 with hosts := hosts, reads := reads })

theorem Cluster.Narrow.kept {α : Type} {f : Cluster → α × Cluster} (h : Narrow f) (c : Cluster) :
    (f c).2.hosts = c.hosts ∧ (f c).2.reads = c.reads :=
  ⟨congrArg (fun x => x.2.hosts) (h c c.hosts c.reads), congrArg (fun x => x.2.reads) (h c c.hosts c.reads)⟩

theorem Cluster.Narrow.blind {α : Type} {f : Cluster → α × Cluster} (h : Narrow f) : Blind f := by
  intro c reads
  refine (h c c.hosts reads).trans ?_
  rw [← (h.kept c).1]

/-- A relation between machines that neither the journal nor the files tell apart. -/
structure Machine.LocalCongruence (R : Machine → Machine → Prop) : Prop where
  observe : ∀ e, Coupled R (Machine.observe e) (Machine.observe e)
  files : ∀ {α : Type} (f : FileSystem → α × FileSystem), Coupled R (onFiles f) (onFiles f)

/-- A relation between machines that no step of a run can tell apart, apart from the read and from the look at
the hosts. -/
structure Machine.StepCongruence (R : Machine → Machine → Prop) : Prop extends LocalCongruence R where
  cluster : ∀ {α : Type} {f : Cluster → α × Cluster}, Cluster.Narrow f → Coupled R (onCluster f) (onCluster f)
  endsCleanly : ∀ {m m'}, R m m' → m.endsCleanly = m'.endsCleanly
  ending : ∀ {m m'} b, R m m' → R { m with endsCleanly := b } { m' with endsCleanly := b }

/-- A relation between machines that no step of a run can tell apart, the read excepted. -/
structure Machine.Congruence (R : Machine → Machine → Prop) : Prop extends LocalCongruence R where
  cluster : ∀ {α : Type} {f : Cluster → α × Cluster}, Cluster.Blind f → Coupled R (onCluster f) (onCluster f)
  endsCleanly : ∀ {m m'}, R m m' → m.endsCleanly = m'.endsCleanly
  ending : ∀ {m m'} b, R m m' → R { m with endsCleanly := b } { m' with endsCleanly := b }

theorem Machine.Congruence.steps {R : Machine → Machine → Prop} (hR : Congruence R) : StepCongruence R where
  toLocalCongruence := hR.toLocalCongruence
  cluster := fun hf => hR.cluster hf.blind
  endsCleanly := hR.endsCleanly
  ending := hR.ending

/-- Machines that are the same but for their journals. -/
def Machine.AlikeButJournal (m m' : Machine) : Prop := ∃ journal, m' = { m with journal := journal }

theorem Machine.AlikeButJournal.congruence : Congruence AlikeButJournal where
  observe := by
    rintro e m _ ⟨journal, rfl⟩
    exact ⟨rfl, _, rfl⟩
  files := by
    rintro α f m _ ⟨journal, rfl⟩
    exact ⟨rfl, _, rfl⟩
  cluster := by
    rintro α f - m _ ⟨journal, rfl⟩
    exact ⟨rfl, _, rfl⟩
  endsCleanly := by
    rintro m _ ⟨journal, rfl⟩
    rfl
  ending := by
    rintro m _ b ⟨journal, rfl⟩
    exact ⟨_, rfl⟩

variable {R : Machine → Machine → Prop}

/-! ## The session -/

namespace Cluster

theorem narrow_nextBuild : Narrow nextBuild := by
  rintro ⟨_, _, _, builds, _, _, _, _, _, _⟩ hosts reads
  cases builds <;> rfl

theorem narrow_nextConnection : Narrow nextConnection := by
  rintro ⟨_, _, _, _, connections, _, _, _, _, _⟩ hosts reads
  cases connections <;> rfl

theorem narrow_nextStatement : Narrow nextStatement :=
  fun _ _ _ => rfl

theorem narrow_nextReading : Narrow nextReading := by
  rintro ⟨_, _, _, _, _, _, _, _, clock, _⟩ hosts reads
  cases clock <;> rfl

theorem narrow_after (r : Request) : Narrow fun c => ((), c.after r) := by
  intro c hosts reads
  unfold after
  cases Effect.ofText r.text with
  | insert keyspace => rcases r.parameters with _ | ⟨_ | ⟨key, rest⟩⟩ <;> rfl
  | _ => rfl

theorem failing_coupled (failure : Option Failure) :
    Coupled R (failing failure) (failing failure) := by
  cases failure with
  | none => exact Coupled.pure _
  | some e => exact Coupled.throw e

theorem make_coupled (hR : StepCongruence R) : Coupled R make make :=
  Coupled.andThen (Coupled.lift (hR.cluster narrow_nextBuild)) failing_coupled

theorem connect_coupled (hR : StepCongruence R) : Coupled R connect connect := by
  unfold connect
  refine Coupled.andThen (Coupled.lift (hR.observe _)) fun _ => ?_
  exact Coupled.andThen (Coupled.lift (hR.cluster narrow_nextConnection)) failing_coupled

theorem execute_coupled (hR : StepCongruence R) (r : Request) : Coupled R (execute r) (execute r) := by
  unfold execute
  refine Coupled.andThen (Coupled.lift (hR.observe _)) fun _ => ?_
  refine Coupled.andThen (Coupled.lift (hR.cluster narrow_nextStatement)) fun failure => ?_
  refine Coupled.andThen (failing_coupled failure) fun _ => ?_
  exact Coupled.lift (hR.cluster (narrow_after r))

theorem lookUp_coupled (hR : StepCongruence R) (keyspace : String) :
    Coupled R (lookUp keyspace) (lookUp keyspace) := by
  unfold lookUp
  refine Coupled.andThen (execute_coupled hR _) fun _ => ?_
  have hnarrow : Narrow fun c => (c.replication? keyspace, c) := fun _ _ _ => rfl
  exact Coupled.lift (hR.cluster hnarrow)

theorem fetchTrace_coupled (hR : Congruence R) (wait : Number.Binary64) (script : TraceScript) :
    Coupled R (fetchTrace wait script) (fetchTrace wait script) := by
  unfold fetchTrace
  refine Coupled.andThen (Coupled.lift (hR.observe _)) fun _ => ?_
  cases script with
  | fromHosts =>
    have hblind : Blind fun c => (some c.hostEvents, c) := fun _ _ => rfl
    exact Coupled.lift (hR.cluster hblind)
  | absent => exact Coupled.pure _
  | failing e => exact Coupled.throw e
  | events events => exact Coupled.pure _

theorem attemptAll_coupled (hR : LocalCongruence R) (scripts : List AttemptScript) (level : Level)
    (retries : Nat) (r : Recorder) :
    Coupled R (attemptAll scripts level retries r) (attemptAll scripts level retries r) := by
  induction scripts generalizing level retries r with
  | nil => exact Coupled.pure _
  | cons script rest ih =>
    unfold attemptAll
    simp only
    refine Coupled.bind (Coupled.forM (fun n => hR.observe (.notice n)) _) fun _ => ?_
    refine Coupled.bind (hR.observe _) fun _ => ?_
    cases (script.attempt level retries).verdict with
    | retry next => exact ih next (retries + 1) _
    | rethrow => exact Coupled.pure _

theorem rowsOf_eq (hR : StepCongruence R) {m m' : Machine} (h : R m m') (q : Query) :
    m.cluster.rowsOf q = m'.cluster.rowsOf q := by
  have hnarrow : Narrow fun c => (c.rowsOf q, c) := fun _ _ _ => rfl
  exact (hR.cluster hnarrow m m' h).1

theorem rowsOfScript_coupled (hR : StepCongruence R) (q : Query) (script : ReadScript) :
    Coupled R (rowsOfScript q script) (rowsOfScript q script) := by
  intro m m' h
  rw [rowsOfScript_apply, rowsOfScript_apply, rowsOf_eq hR h]
  exact ⟨rfl, h⟩

/-- A read, if the scripts of the reads to come are the same. -/
theorem read_coupled (hR : StepCongruence R) (hnext : Coupled R (onCluster nextRead) (onCluster nextRead))
    (q : Query) (r : Recorder) : Coupled R (Cluster.read q r) (Cluster.read q r) := by
  unfold Cluster.read
  refine Coupled.bind (hR.observe _) fun _ => ?_
  refine Coupled.bind (hR.cluster narrow_nextStatement) fun failure => ?_
  cases failure with
  | some e => exact Coupled.pure _
  | none =>
    refine Coupled.bind hnext fun script => ?_
    refine Coupled.bind (attemptAll_coupled hR.toLocalCongruence script.attempts q.level 0 r) fun attempted => ?_
    obtain ⟨r', e | u⟩ := attempted
    · exact Coupled.pure _
    · exact Coupled.bind (rowsOfScript_coupled hR q script) fun _ => Coupled.pure _

end Cluster

namespace Client

theorem requireSession_coupled (c : Client) : Coupled R c.requireSession c.requireSession := by
  unfold requireSession
  split
  · exact Coupled.pure _
  · exact Coupled.throw _

/-- The names of the hosts, as a step of the cluster. -/
def namesStep (c : Cluster) : Network.NodeSet × Cluster := (Topology.nodeNames c.hosts, c)

theorem hosts_coupled (hnames : Coupled R (onCluster namesStep) (onCluster namesStep)) (c : Client) :
    Coupled R c.hosts c.hosts := by
  unfold hosts
  refine Coupled.andThen (requireSession_coupled c) fun _ => ?_
  exact Coupled.lift hnames

theorem replication_coupled (hR : StepCongruence R) (c : Client) (keyspace : String) :
    Coupled R (c.replication keyspace) (c.replication keyspace) :=
  Coupled.andThen (requireSession_coupled c) fun _ =>
    Coupled.wrappingTransport (Cluster.lookUp_coupled hR keyspace)

theorem execute_coupled (hR : StepCongruence R) (c : Client) (r : Request) :
    Coupled R (c.execute r) (c.execute r) := by
  unfold execute
  refine Coupled.andThen (requireSession_coupled c) fun _ => ?_
  refine Coupled.andThen (Coupled.lift (hR.observe _)) fun _ => ?_
  exact Coupled.wrappingTransport (Cluster.execute_coupled hR r)

theorem trace_coupled (hR : Congruence R) (c : Client) (script : Cluster.TraceScript) :
    Coupled R (c.trace script) (c.trace script) := by
  unfold trace
  refine Coupled.andThen (Coupled.outcome (Cluster.fetchTrace_coupled hR _ script)) fun result => ?_
  cases result with
  | ok events => exact Coupled.pure _
  | error e =>
    cases hn : traceNotice? e with
    | none => simp only [hn]; exact Coupled.throw e
    | some notice =>
      simp only [hn]
      exact Coupled.andThen (Coupled.lift (hR.observe _)) fun _ => Coupled.pure _

theorem read_coupled (hR : Congruence R)
    (hnext : Coupled R (onCluster Cluster.nextRead) (onCluster Cluster.nextRead)) (c : Client) (q : Query)
    (r : Recorder) : Coupled R (c.read q r) (c.read q r) := by
  unfold read
  by_cases hc : (!c.connected) = true
  · simp only [if_pos hc]
    exact Coupled.pure _
  · simp only [if_neg hc]
    refine Coupled.bind (Cluster.read_coupled hR.steps hnext q r) fun answer => ?_
    obtain ⟨r', e | ⟨rows, script⟩⟩ := answer
    · exact Coupled.pure _
    · by_cases hq : q.tracing = true
      · simp only [if_pos hq]
        exact Coupled.bind (trace_coupled hR c script) fun _ => Coupled.pure _
      · simp only [if_neg hq]
        exact Coupled.pure _

/-- Stores of machines whose hosts have the same names. -/
theorem store_coupled_of_names (hR : StepCongruence R)
    (hnames : Coupled R (onCluster namesStep) (onCluster namesStep)) (c : Client) :
    c.store.Coupled R c.store where
  hosts := Coupled.andThen (hosts_coupled hnames c) fun _ => Coupled.pure _
  replication := replication_coupled hR c
  execute := execute_coupled hR c
  report := fun n => hR.observe (.notice n)
  clock := hR.cluster Cluster.narrow_nextReading

theorem store_coupled (hR : Congruence R) (c : Client) : c.store.Coupled R c.store := by
  have hblind : Cluster.Blind namesStep := fun _ _ => rfl
  exact store_coupled_of_names hR.steps (hR.cluster hblind) c

theorem connect_coupled (hR : StepCongruence R) (c : Client) : Coupled R c.connect c.connect := by
  unfold connect
  refine Coupled.bind (Cluster.make_coupled hR) fun made => ?_
  obtain e | u := made
  · exact Coupled.pure _
  refine Coupled.bind (Coupled.bind (hR.observe _) fun _ => Coupled.pure _) fun _ => ?_
  refine Coupled.bind (hR.observe _) fun _ => ?_
  refine Coupled.bind (Coupled.wrappingTransport (Cluster.connect_coupled hR)) fun result => ?_
  cases result <;> exact Coupled.pure _

theorem close_coupled (hR : LocalCongruence R) (c : Client) : Coupled R c.close c.close := by
  obtain ⟨settings, built, connected⟩ := c
  -- What a client closes depends on what it has, and that is the same on both sides.
  cases connected with
  | true =>
    refine Coupled.bind (hR.observe _) fun _ => ?_
    cases built with
    | true => exact Coupled.bind (hR.observe _) fun _ => Coupled.pure _
    | false => exact Coupled.pure _
  | false =>
    cases built with
    | true => exact Coupled.bind (hR.observe _) fun _ => Coupled.pure _
    | false => exact Coupled.pure _

theorem enter_coupled (hR : StepCongruence R) (c : Client) : Coupled R c.enter c.enter := by
  unfold enter
  refine Coupled.bind (connect_coupled hR c) fun entered => ?_
  obtain ⟨c, e | u⟩ := entered
  · exact Coupled.bind (close_coupled hR.toLocalCongruence c) fun _ => Coupled.pure _
  · exact Coupled.pure _

theorem session_coupled {α : Type} (hR : StepCongruence R) (s : Settings) {work : Client → Action Machine α}
    (hwork : ∀ c, Coupled R (work c) (work c)) : Coupled R (session s work) (session s work) := by
  unfold session
  refine Coupled.andThen (Coupled.lift (enter_coupled hR _)) fun entered => ?_
  obtain ⟨c, result⟩ := entered
  refine Coupled.andThen (fun _ _ h => ⟨rfl, h⟩) fun _ => ?_
  refine Coupled.andThen (Coupled.outcome (hwork c)) fun result => ?_
  refine Coupled.andThen (Coupled.lift (close_coupled hR.toLocalCongruence c)) fun _ => ?_
  exact fun _ _ h => ⟨rfl, h⟩

end Client

/-! ## The lock -/

namespace Lock

theorem acquire_coupled (hR : LocalCongruence R) (lock : LockFile) (others : Others Acquire) :
    Coupled R (acquire lock others) (acquire lock others) := by
  unfold acquire
  refine Coupled.andThen (Coupled.lift (hR.files _)) fun made => ?_
  cases made with
  | error e => exact Coupled.throw _
  | ok u =>
    refine Coupled.andThen (Coupled.lift (hR.files _)) fun taken => ?_
    refine Coupled.andThen (fun _ _ h => ⟨rfl, h⟩) fun d => ?_
    exact Coupled.andThen (Coupled.lift (hR.observe _)) fun _ => Coupled.pure _

theorem release_coupled (hR : LocalCongruence R) (h : Handle) (others : Others Release) :
    Coupled R (release h others) (release h others) := by
  unfold release
  cases h.descriptor with
  | none => exact Coupled.pure _
  | some d =>
    refine Coupled.bind (hR.files _) fun result => ?_
    refine Coupled.bind (hR.observe _) fun _ => ?_
    cases result with
    | error e => exact Coupled.bind (Coupled.pure _) fun _ => Coupled.pure _
    | ok u => exact Coupled.bind (hR.observe _) fun _ => Coupled.pure _

theorem hold_coupled {α : Type} (hR : LocalCongruence R) (lock : LockFile)
    {work other : Handle → Action Machine α} (hwork : ∀ h, Coupled R (work h) (other h)) :
    Coupled R (hold lock work) (hold lock other) := by
  unfold hold
  refine Coupled.andThen (acquire_coupled hR lock alone) fun h => ?_
  refine Coupled.andThen (Coupled.outcome (hwork h)) fun result => ?_
  refine Coupled.andThen (Coupled.lift (release_coupled hR h alone)) fun released => ?_
  obtain ⟨h, released⟩ := released
  refine Coupled.andThen (fun _ _ h => ⟨rfl, h⟩) fun _ => ?_
  exact Coupled.andThen (fun _ _ h => ⟨rfl, h⟩) fun _ => Coupled.pure _

end Lock

/-! ## Whole runs -/

/-- Checks on machines whose reads to come cannot be told apart. -/
theorem Client.check_coupled (hR : Congruence R)
    (hnext : Coupled R (onCluster Cluster.nextRead) (onCluster Cluster.nextRead)) (c : Client)
    (names : Schema.Names) : Coupled R (Check.run c.store names) (Check.run c.store names) :=
  Check.run_coupled (store_coupled hR c) (read_coupled hR hnext c) names

namespace Run

variable (hR : StepCongruence R)
  (hcheck : ∀ c names, Coupled R (Check.run (Client.store c) names) (Check.run (Client.store c) names))

include hR hcheck

theorem judged_coupled (s : Settings) : Coupled R (judged s) (judged s) := by
  unfold judged
  refine Coupled.handle (Client.session_coupled hR s fun c => hcheck c _) fun e => ?_
  exact Coupled.andThen (Coupled.lift (hR.observe _)) fun _ => Coupled.pure _

/-- **Runs on related machines end the same.** -/
theorem run_coupled (s : Settings) (lock : Lock.LockFile) : Coupled R (run s lock) (run s lock) := by
  unfold run
  refine Coupled.andThen (Lock.hold_coupled hR.toLocalCongruence lock fun _ => ?_) fun _ => Coupled.pure _
  exact judged_coupled hR hcheck s

end Run

namespace Command

theorem endingCleanly_coupled (hR : StepCongruence R) {α : Type} {work other : StateM Machine α}
    (hwork : Coupled R work other) : Coupled R (endingCleanly work) (endingCleanly other) := by
  intro m m' h
  obtain ⟨hsame, hR'⟩ := hwork _ _ (hR.ending true h)
  refine ⟨hsame, ?_⟩
  show R { (work { m with endsCleanly := true }).2 with endsCleanly := m.endsCleanly }
    { (other { m' with endsCleanly := true }).2 with endsCleanly := m'.endsCleanly }
  -- The mark is put back as it was, which was alike.
  rw [← hR.endsCleanly h]
  exact hR.ending _ hR'

theorem reportRefusal_coupled (hR : LocalCongruence R) (result : Except Failure Report) :
    Coupled R (reportRefusal result) (reportRefusal result) := by
  unfold reportRefusal
  split
  · exact hR.observe _
  · exact hR.observe _
  · exact Coupled.pure _

section

variable (hR : StepCongruence R)
  (hcheck : ∀ c names, Coupled R (Check.run (Client.store c) names) (Check.run (Client.store c) names))

include hR hcheck

theorem runWith_coupled (s : Settings) (process : Nat) :
    Coupled R (runWith s process) (runWith s process) := by
  unfold runWith
  refine Coupled.bind (endingCleanly_coupled hR ?_) fun _ => Coupled.pure _
  refine Coupled.bind (Run.run_coupled hR hcheck s _) fun result => ?_
  exact Coupled.bind (reportRefusal_coupled hR.toLocalCongruence result) fun _ => Coupled.pure _

/-- **Commands on related machines end the same.** -/
theorem run_coupled (words : List String) (environment : List (String × String)) (process : Nat) (host : Host) :
    Coupled R (run words environment process host) (run words environment process host) := by
  unfold run
  refine Coupled.bind (hR.files _) fun fs => ?_
  cases request words environment host fs with
  | error ending => exact Coupled.pure _
  | ok s => exact runWith_coupled hR hcheck s process

end

/-- **The journal is written and never read.** -/
theorem run_journal (words : List String) (environment : List (String × String)) (process : Nat) (host : Host)
    (m : Machine) (journal : List Event) :
    (run words environment process host { m with journal := journal }).1
      = (run words environment process host m).1 := by
  have hnext : Coupled AlikeButJournal (onCluster Cluster.nextRead) (onCluster Cluster.nextRead) := by
    rintro m _ ⟨journal, rfl⟩
    exact ⟨rfl, _, rfl⟩
  have hcheck := Client.check_coupled AlikeButJournal.congruence hnext
  exact (run_coupled AlikeButJournal.congruence.steps hcheck words environment process host m _
    ⟨journal, rfl⟩).1.symm

end Command

end ClusterHealth
