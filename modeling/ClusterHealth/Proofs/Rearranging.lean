import ClusterHealth.Proofs.Client
import ClusterHealth.Proofs.Congruence
import ClusterHealth.Proofs.Missing
import ClusterHealth.Proofs.Outage
import ClusterHealth.Proofs.Verdict

/-!
# `ClusterHealth.Proofs.Rearranging` — only the nodes count

Hosts and events go through a run as names of nodes: hosts on their way to the snapshot, and events on their way
to the nodes that are missing. So runs on clusters that tell the same nodes in another way, in another order or
notation, end with the same report.

## Contents
- `Cluster.TraceScript.Alike`, `Cluster.ReadScript.Alike`: scripts whose traces come from the same nodes.
- `Machine.SameNodes`: machines whose clusters tell the same nodes; a congruence of steps.
- `Cluster.read_rearranged`, `Client.read_rearranged`, `Check.probe_alike`: reads and probes on such machines.
- `Check.check_alike`: no check tells them apart.
- `Trace.Exact`, `missing_exact`: what is known of the nodes that are missing, and that it is all that counts.
-/

namespace ClusterHealth

open ClusterHealth.Cql ClusterHealth.Retry ClusterHealth.Machine ClusterHealth.Network

/-! ## Scripts and machines -/

namespace Cluster

/-- Scripts of traces whose events come from the same nodes. -/
inductive TraceScript.Alike : TraceScript → TraceScript → Prop
  | same (script : TraceScript) : Alike script script
  | events {events events' : List Trace.Event} (h : Trace.SameNodes events events') :
    Alike (.events events) (.events events')

/-- Scripts of reads that are the same but for traces whose events come from the same nodes. -/
def ReadScript.Alike (script script' : ReadScript) : Prop :=
  ∃ trace, script' = { script with trace := trace } ∧ script.trace.Alike trace

theorem ReadScript.Alike.refl (script : ReadScript) : script.Alike script :=
  ⟨script.trace, rfl, .same _⟩

end Cluster

namespace Machine

/-- The same machine, whose cluster tells its hosts and its reads in another way. -/
def toldAs (hosts : List Value) (reads : List Cluster.ReadScript) (m : Machine) : Machine :=
  { m with cluster := { m.cluster with hosts := hosts, reads := reads } }

/-- Machines that are the same but for their journals and for clusters that tell the same nodes. -/
def SameNodes (m m' : Machine) : Prop :=
  ∃ hosts reads journal, m' = { m.toldAs hosts reads with journal := journal }
    ∧ Topology.SameNodes m.cluster.hosts hosts ∧ List.Forall₂ Cluster.ReadScript.Alike m.cluster.reads reads

namespace SameNodes

theorem congruence : StepCongruence SameNodes where
  observe := by
    rintro e m _ ⟨hosts, reads, journal, rfl, hhosts, hreads⟩
    exact ⟨rfl, hosts, reads, _, rfl, hhosts, hreads⟩
  files := by
    rintro α f m _ ⟨hosts, reads, journal, rfl, hhosts, hreads⟩
    exact ⟨rfl, hosts, reads, _, rfl, hhosts, hreads⟩
  cluster := by
    rintro α f hf m _ ⟨hosts, reads, journal, rfl, hhosts, hreads⟩
    have hother := hf m.cluster hosts reads
    obtain ⟨hkept, hkept'⟩ := hf.kept m.cluster
    refine ⟨(congrArg Prod.fst hother).symm, hosts, reads, journal, ?_, hkept ▸ hhosts, hkept' ▸ hreads⟩
    show { m with cluster := (f { m.cluster with hosts := hosts, reads := reads }).2, journal := journal } = _
    rw [hother]
    rfl
  endsCleanly := by
    rintro m _ ⟨hosts, reads, journal, rfl, -, -⟩
    rfl
  ending := by
    rintro m _ b ⟨hosts, reads, journal, rfl, hhosts, hreads⟩
    exact ⟨hosts, reads, _, rfl, hhosts, hreads⟩

/-- The names of the hosts are the same. -/
theorem names : Coupled SameNodes (onCluster Client.namesStep) (onCluster Client.namesStep) := by
  rintro m _ ⟨hosts, reads, journal, rfl, hhosts, hreads⟩
  exact ⟨hhosts, hosts, reads, journal, rfl, hhosts, hreads⟩

theorem nextRead : CoupledUpTo Cluster.ReadScript.Alike SameNodes (onCluster Cluster.nextRead)
    (onCluster Cluster.nextRead) := by
  rintro m _ ⟨hosts, reads, journal, rfl, hhosts, hreads⟩
  generalize hleft : m.cluster.reads = before at hreads
  cases hreads with
  | nil =>
    have hnext : onCluster Cluster.nextRead m = (.plain, m) := by
      simp only [onCluster, Cluster.nextRead, hleft]
    have hnone : List.Forall₂ Cluster.ReadScript.Alike m.cluster.reads [] := by
      rw [hleft]
      exact .nil
    rw [hnext]
    exact ⟨.refl _, hosts, [], journal, rfl, hhosts, hnone⟩
  | @cons script script' rest rest' hscript hrest =>
    have hnext : onCluster Cluster.nextRead m
        = (script, { m with cluster := { m.cluster with reads := rest } }) := by
      simp only [onCluster, Cluster.nextRead, hleft]
    rw [hnext]
    exact ⟨hscript, hosts, rest', journal, rfl, hhosts, hrest⟩

/-- Whatever is reported, the machines stay alike. -/
theorem reportAll {m m' : Machine} (h : m.SameNodes m') (c : Client) (notices notices' : List Notice) :
    (c.store.reportAll notices m).2.SameNodes (c.store.reportAll notices' m').2 := by
  obtain ⟨hosts, reads, journal, rfl, hhosts, hreads⟩ := h
  show (notices.forM report m).2.SameNodes (notices'.forM report _).2
  rw [forM_report_apply, forM_report_apply]
  exact ⟨hosts, reads, _, rfl, hhosts, hreads⟩

end SameNodes

end Machine

/-! ## Reads -/

/-- Traces whose events come from the same nodes, or no traces. -/
def TraceAlike : Option (List Trace.Event) → Option (List Trace.Event) → Prop :=
  Option.Rel Trace.SameNodes

/-- Readings of the same rows, with traces from the same nodes. -/
def Reading.Alike (r r' : Reading) : Prop :=
  r'.rows = r.rows ∧ TraceAlike r.trace r'.trace

namespace Cluster

/-- What a cluster answers to a read: the same rows, and scripts of traces from the same nodes. -/
def AnswersAlike (x y : Recorder × Except Failure (List Value × TraceScript)) : Prop :=
  x.1 = y.1 ∧ Agree (fun a b => b.1 = a.1 ∧ a.2.Alike b.2) x.2 y.2

theorem read_rearranged (q : Query) (r : Recorder) :
    CoupledUpTo AnswersAlike SameNodes (Cluster.read q r) (Cluster.read q r) := by
  unfold Cluster.read
  refine CoupledUpTo.after (SameNodes.congruence.observe _) fun _ => ?_
  refine CoupledUpTo.after (SameNodes.congruence.cluster narrow_nextStatement) fun failure => ?_
  cases failure with
  | some e => exact CoupledUpTo.pure ⟨rfl, .error e⟩
  | none =>
    refine CoupledUpTo.bind SameNodes.nextRead ?_
    rintro script _ ⟨trace, rfl, htrace⟩
    refine CoupledUpTo.after
      (attemptAll_coupled SameNodes.congruence.toLocalCongruence script.attempts q.level 0 r) fun attempted => ?_
    obtain ⟨r', e | u⟩ := attempted
    · exact CoupledUpTo.pure ⟨rfl, .error e⟩
    · refine CoupledUpTo.after (rowsOfScript_coupled SameNodes.congruence q script) fun rows => ?_
      cases rows with
      | error e => exact CoupledUpTo.pure ⟨rfl, .error e⟩
      | ok rows => exact CoupledUpTo.pure ⟨rfl, .ok ⟨rfl, htrace⟩⟩

theorem fetchTrace_alike (wait : Number.Binary64) {script script' : TraceScript} (h : script.Alike script') :
    CoupledUpTo (Agree TraceAlike) SameNodes (fetchTrace wait script) (fetchTrace wait script') := by
  intro m m' hm
  have hafter := (SameNodes.congruence.observe (.call (.fetchTrace wait)) m m' hm).2
  cases h with
  | events h => exact ⟨.ok (.some h), hafter⟩
  | same script =>
    cases script with
    | fromHosts =>
      obtain ⟨hosts, reads, journal, rfl, hhosts, -⟩ := hm
      have hsources : ∀ c : Cluster, c.hostEvents.map (·.source) = c.hosts := by
        intro c
        unfold hostEvents
        rw [List.map_map]
        exact List.map_id _
      refine ⟨.ok (.some ?_), hafter⟩
      show Topology.SameNodes _ _
      rw [hsources, hsources]
      exact hhosts
    | absent => exact ⟨.ok .none, hafter⟩
    | failing e => exact ⟨.error e, hafter⟩
    | events events => exact ⟨.ok (.some rfl), hafter⟩

end Cluster

namespace Client

/-- Events are passed on by the names of their nodes, which are the names of these names. -/
theorem passedOn_nodeNames (events : List Trace.Event) :
    Topology.nodeNames ((events.map passedOn).map (·.source)) = Topology.nodeNames (events.map (·.source)) := by
  have hname : ∀ e : Trace.Event, Topology.nodeName (passedOn e).source = Topology.nodeName e.source :=
    fun e => Topology.nodeName_nodeName e.source
  unfold Topology.nodeNames
  simp only [List.map_map, Function.comp_def, hname]

theorem trace_alike (c : Client) {script script' : Cluster.TraceScript} (h : script.Alike script') :
    CoupledUpTo (Agree TraceAlike) SameNodes (c.trace script) (c.trace script') := by
  intro m m' hm
  obtain ⟨hevents, hafter⟩ := Cluster.fetchTrace_alike c.settings.traceWait h m m' hm
  rw [trace_apply, trace_apply]
  rcases hfetch : Cluster.fetchTrace c.settings.traceWait script m with ⟨result, m₁⟩
  rcases hfetch' : Cluster.fetchTrace c.settings.traceWait script' m' with ⟨result', m₁'⟩
  rw [hfetch, hfetch'] at hevents hafter
  cases hevents with
  | error e =>
    cases hn : traceNotice? e with
    | none =>
      simp only [hn]
      exact ⟨.error e, hafter⟩
    | some notice =>
      simp only [hn]
      exact ⟨.ok .none, (SameNodes.congruence.observe _ _ _ hafter).2⟩
  | ok halike =>
    refine ⟨.ok ?_, hafter⟩
    cases halike with
    | none => exact .none
    | some hsame =>
      refine .some ?_
      show Topology.nodeNames _ = Topology.nodeNames _
      rw [passedOn_nodeNames, passedOn_nodeNames]
      exact hsame

/-- What a client reads: the same rows, and traces from the same nodes. -/
def ReadsAlike (x y : Recorder × Except Failure Reading) : Prop :=
  x.1 = y.1 ∧ Agree Reading.Alike x.2 y.2

theorem read_rearranged (c : Client) (q : Query) (r : Recorder) :
    CoupledUpTo ReadsAlike SameNodes (c.read q r) (c.read q r) := by
  unfold read
  by_cases hc : (!c.connected) = true
  · simp only [if_pos hc]
    exact CoupledUpTo.pure ⟨rfl, .error _⟩
  · simp only [if_neg hc]
    refine CoupledUpTo.bind (Cluster.read_rearranged q r) ?_
    rintro ⟨r', answer⟩ ⟨_, answer'⟩ ⟨rfl, hanswer⟩
    cases hanswer with
    | error e => exact CoupledUpTo.pure ⟨rfl, .error _⟩
    | @ok a b hab =>
      obtain ⟨rows, script⟩ := a
      obtain ⟨_, script'⟩ := b
      obtain ⟨rfl, hscript⟩ := hab
      by_cases hq : q.tracing = true
      · simp only [if_pos hq]
        refine CoupledUpTo.bind (trace_alike c hscript) fun events events' hevents => ?_
        cases hevents with
        | error e => exact CoupledUpTo.pure ⟨rfl, .error e⟩
        | ok hevents => exact CoupledUpTo.pure ⟨rfl, .ok ⟨rfl, hevents⟩⟩
      · simp only [if_neg hq]
        exact CoupledUpTo.pure ⟨rfl, .ok ⟨rfl, .none⟩⟩

end Client

/-! ## Probes and checks -/

/-- Outcomes that are the same but for traces from the same nodes. -/
def Outcome.Alike (o o' : Outcome) : Prop :=
  Agree Reading.Alike o.result o'.result ∧ o'.decision = o.decision ∧ o'.latency = o.latency

theorem Probe.run_alike (p : Probe) (c : Client) :
    CoupledUpTo (fun x y => x.1 = y.1 ∧ Agree Outcome.Alike x.2 y.2) SameNodes (p.run c.store)
      (p.run c.store) := by
  have hclock := (Client.store_coupled_of_names SameNodes.congruence SameNodes.names c).clock
  unfold run
  refine CoupledUpTo.after hclock fun started => ?_
  refine CoupledUpTo.bind (Client.read_rearranged c p.query .fresh) ?_
  rintro ⟨recorder, answer⟩ ⟨_, answer'⟩ ⟨rfl, hanswer⟩
  cases hanswer with
  | error e =>
    by_cases he : e.isStore = true
    · simp only [if_pos he]
      exact CoupledUpTo.after hclock fun _ => CoupledUpTo.pure ⟨rfl, .ok ⟨.error e, rfl, rfl⟩⟩
    · simp only [if_neg he]
      exact CoupledUpTo.pure ⟨rfl, .error e⟩
  | @ok reading reading' halike =>
    refine CoupledUpTo.after hclock fun ended => ?_
    have hnotices : ∀ latency, p.notices reading' latency = p.notices reading latency := by
      intro latency
      unfold notices
      rw [halike.1]
    simp only [hnotices]
    refine CoupledUpTo.after ?_ fun _ => CoupledUpTo.pure ⟨rfl, .ok ⟨.ok halike, rfl, rfl⟩⟩
    exact Coupled.forM (fun n => SameNodes.congruence.observe (.notice n)) _

namespace Check

/-- The verdict looks at the nodes that a trace comes from, and at nothing else of it. -/
theorem verdict_alike {o o' : Outcome} (h : o.Alike o') (snapshot : Topology.Snapshot) :
    (verdict snapshot o').1 = (verdict snapshot o).1 := by
  obtain ⟨result, decision, latency⟩ := o
  obtain ⟨result', decision', latency'⟩ := o'
  obtain ⟨hresult, hdecision, hlatency⟩ := h
  obtain rfl : decision' = decision := hdecision
  obtain rfl : latency' = latency := hlatency
  cases hresult with
  | error e => rfl
  | ok halike =>
    cases decision' with
    | none => rfl
    | some d =>
      unfold verdict degradedReport
      simp only [Trace.missingNodes?_sameNodes halike.2]

theorem probe_alike (c : Client) (names : Schema.Names) (snapshot : Topology.Snapshot) :
    Coupled SameNodes (probe c.store names snapshot) (probe c.store names snapshot) := by
  intro m m' hm
  obtain ⟨⟨-, houtcome⟩, hafter⟩ := (Probe.ofNames names).run_alike c m m' hm
  rw [probe_apply, probe_apply]
  rcases hrun : (Probe.ofNames names).run c.store m with ⟨⟨p, outcome⟩, m₁⟩
  rcases hrun' : (Probe.ofNames names).run c.store m' with ⟨⟨p', outcome'⟩, m₁'⟩
  rw [hrun, hrun'] at houtcome hafter
  cases houtcome with
  | error e => exact ⟨rfl, hafter⟩
  | ok halike => exact ⟨congrArg Except.ok (verdict_alike halike snapshot).symm, hafter.reportAll c _ _⟩

/-- **No check tells machines apart whose clusters tell the same nodes.** -/
theorem check_alike (c : Client) (names : Schema.Names) :
    Coupled SameNodes (run c.store names) (run c.store names) :=
  run_coupled_of_probe (Client.store_coupled_of_names SameNodes.congruence SameNodes.names c)
    (probe_alike c names)

end Check

/-! ## The theorem -/

open ClusterHealth.Topology Trace in
/-- The snapshot of some hosts and the nodes that are missing from a trace are exactly what they should be. -/
structure Trace.Exact (hosts : List Value) (trace : List Trace.Event) (snapshot : Snapshot) (missing : NodeSet) :
    Prop where
  named : Snapshot.ofNodes? (nodeNames hosts) = some snapshot
  /-- A check that asks a client for the hosts has the same snapshot. -/
  taken : ∀ (c : Client) (m : Machine), c.connected = true → m.cluster.hosts = hosts →
    (Check.takeSnapshot c.store m).1 = .ok snapshot
  found : missingNodes? (some trace) snapshot = some missing
  /-- So are the nodes that are missing from the trace as a client passes it on. -/
  passedOn : missingNodes? (some (trace.map Client.passedOn)) snapshot = some missing
  /-- The snapshot has as many nodes as there are different ones among the hosts. -/
  size : ∃ distinct, Representatives hosts distinct ∧ snapshot.size = distinct.length
  /-- Those nodes are missing of which no event comes. -/
  members : ∀ name, name ∈ missing ↔
    ∃ v ∈ hosts, nodeName v = name ∧ ∀ e ∈ trace, ¬ SameNode (spelling v) (spelling e.source)
  /-- Order, repetition and notation make no difference, neither to the nodes nor to the report. -/
  rearranged : ∀ hosts' trace', Rearranged hosts hosts' →
    Rearranged (trace.map (·.source)) (trace'.map (·.source)) →
      Snapshot.ofNodes? (nodeNames hosts') = some snapshot
      ∧ missingNodes? (some trace') snapshot = some missing
      ∧ ∀ rows decision latency, (Check.verdict snapshot ⟨.ok ⟨rows, some trace'⟩, decision, latency⟩).1
          = (Check.verdict snapshot ⟨.ok ⟨rows, some trace⟩, decision, latency⟩).1
  /-- Events that come from no host make no difference. -/
  outside : ∀ before e after, trace = before ++ after →
    (∀ v ∈ hosts, ¬ SameNode (spelling v) (spelling e.source)) →
      missingNodes? (some (before ++ e :: after)) snapshot = some missing
  /-- With more events no more nodes are missing. -/
  fewer : ∀ more missing', (∀ e ∈ trace, e ∈ more) → missingNodes? (some more) snapshot = some missing' →
    ∀ name ∈ missing', name ∈ missing
  untraced : missingNodes? none snapshot = none

namespace Trace

open ClusterHealth.Topology

theorem exact_of_hosts {hosts : List Value} (h : hosts ≠ []) (trace : List Event) :
    ∃ snapshot missing, Exact hosts trace snapshot missing := by
  obtain ⟨snapshot, hsnapshot⟩ : ∃ snapshot, Snapshot.ofNodes? (nodeNames hosts) = some snapshot := by
    obtain ⟨v, rest, rfl⟩ := List.exists_cons_of_ne_nil h
    have hne : (nodeNames (v :: rest)).toList ≠ [] :=
      List.ne_nil_of_mem (mem_nodeNames.2 ⟨v, List.mem_cons_self, rfl⟩)
    exact ⟨⟨_, hne⟩, dif_neg hne⟩
  have hnodes := Check.nodes_of_ofNodes? hsnapshot
  obtain ⟨distinct, hdistinct⟩ := exists_representatives hosts
  obtain ⟨missing, hfound⟩ : ∃ missing, missingNodes? (some trace) snapshot = some missing :=
    ⟨_, missingNodes?_some trace snapshot⟩
  refine ⟨snapshot, missing, ?_⟩
  exact
    { named := hsnapshot
      taken := by
        rintro c m hc rfl
        rw [Check.takeSnapshot_apply hc, Check.snapshotOf?, hsnapshot]
      found := hfound
      passedOn := by
        rw [missingNodes?_some, Client.passedOn_nodeNames, ← missingNodes?_some]
        exact hfound
      size := ⟨distinct, hdistinct, by rw [Snapshot.size, hnodes, hdistinct.length_eq]⟩
      members := fun name => mem_missingNodes? hfound hnodes
      rearranged := by
        intro hosts' trace' hhosts htrace
        have hsources : SameNodes trace trace' := htrace.sameNodes
        refine ⟨?_, ?_, fun rows decision latency => ?_⟩
        · rw [← hhosts.sameNodes]
          exact hsnapshot
        · rw [← missingNodes?_sameNodes (.some hsources)]
          exact hfound
        · have halike : Outcome.Alike ⟨.ok ⟨rows, some trace⟩, decision, latency⟩
              ⟨.ok ⟨rows, some trace'⟩, decision, latency⟩ :=
            ⟨.ok ⟨rfl, .some hsources⟩, rfl, rfl⟩
          exact Check.verdict_alike halike snapshot
      outside := by
        rintro before e after rfl he
        rw [missingNodes?_outside hnodes he]
        exact hfound
      fewer := fun more missing' hmore hmissing' => missingNodes?_anti hfound hmissing' hmore
      untraced := rfl }

end Trace

/-- **Only the nodes count.** For hosts of which there is one at least, and any events, the snapshot and the
nodes that are missing are exact. White space around an address, and all notations of it, stand for the same
node, and so does the address itself. And runs and commands on machines whose clusters tell the same nodes, in
another order or notation, end with the same report and the same line. -/
theorem missing_exact :
    (∀ hosts : List Value, hosts ≠ [] → ∀ trace, ∃ snapshot missing, Trace.Exact hosts trace snapshot missing)
    ∧ (∀ before s after : String, (∀ c ∈ before.toList, Text.isBlank c = true) →
        (∀ c ∈ after.toList, Text.isBlank c = true) →
          Topology.spelling (.text (before ++ s ++ after)) = Topology.spelling (.text s))
    ∧ (∀ (s t : String) (a : Address), Spells s.toList a → Spells t.toList a → Topology.SameNode s t)
    ∧ (∀ (s : String) (a : Address), Spells (Topology.spelling (.text s)).toList a →
        Topology.SameNode (Topology.spelling (.text s)) (Topology.spelling (.address a)))
    ∧ ∀ (m : Machine) (hosts : List Value) (reads : List Cluster.ReadScript),
        Topology.Rearranged m.cluster.hosts hosts →
        List.Forall₂ Cluster.ReadScript.Alike m.cluster.reads reads →
          (∀ s lock, (Run.run s lock (m.toldAs hosts reads)).1 = (Run.run s lock m).1)
          ∧ ∀ words environment process user,
            (Command.run words environment process user (m.toldAs hosts reads)).1
              = (Command.run words environment process user m).1 := by
  refine ⟨fun hosts h trace => Trace.exact_of_hosts h trace, fun _ _ _ => Topology.spelling_padded,
    fun _ _ _ => Topology.sameNode_spellings, fun _ _ => Topology.sameNode_address, ?_⟩
  intro m hosts reads hhosts hreads
  have halike : m.SameNodes (m.toldAs hosts reads) :=
    ⟨hosts, reads, m.journal, rfl, hhosts.sameNodes, hreads⟩
  constructor
  · intro s lock
    exact ((Run.run_coupled SameNodes.congruence Check.check_alike s lock m _ halike).1).symm
  · intro words environment process user
    exact ((Command.run_coupled SameNodes.congruence Check.check_alike words environment process user m _
      halike).1).symm

/-- Two hosts, one of them told twice, and an event from that one in a third notation. -/
theorem missing_exact_twoHosts : ∃ snapshot missing,
    Trace.Exact [.text "FE80::1", .text " fe80:0::1 ", .address (.v4 ⟨[10, 0, 0, 1], rfl, by decide⟩)]
      [⟨.text "fe80:0:0:0:0:0:0:1", none, none, none⟩] snapshot missing
    ∧ snapshot.size = 2 ∧ missing.toList = ["10.0.0.1"] := by
  obtain ⟨snapshot, missing, h⟩ := missing_exact.1
    [.text "FE80::1", .text " fe80:0::1 ", .address (.v4 ⟨[10, 0, 0, 1], rfl, by decide⟩)] (List.cons_ne_nil _ _)
    [⟨.text "fe80:0:0:0:0:0:0:1", none, none, none⟩]
  have hvalues : (Topology.Snapshot.ofNodes? (Topology.nodeNames
      [.text "FE80::1", .text " fe80:0::1 ", .address (.v4 ⟨[10, 0, 0, 1], rfl, by decide⟩)])).bind (fun snapshot =>
        (Trace.missingNodes? (some [⟨.text "fe80:0:0:0:0:0:0:1", none, none, none⟩]) snapshot).map fun missing =>
          (snapshot.size, missing.toList)) = some (2, ["10.0.0.1"]) := by
    decide +kernel
  rw [h.named, Option.bind_some, h.found, Option.map_some] at hvalues
  obtain ⟨hsize, hmissing⟩ := Prod.mk.inj (Option.some.inj hvalues)
  exact ⟨snapshot, missing, h, hsize, hmissing⟩

end ClusterHealth
