import ClusterHealth.Proofs.Moves
import ClusterHealth.Proofs.Topology

/-!
# `ClusterHealth.Proofs.Verdict` — the verdict is what happened

The verdict of a check is computed from what the retry policy wrote into its recorder. Here it is compared
with the attempts of the read that were really issued, as the journal of the machine has them.

## Contents
- `Course`: a check up to the answer to its read, and `Course.servedAt?`, the level that the rows came at.
- `Quiet`: no attempt is issued but by the read (`store_quiet`, `moves_trace`).
- `verdict_sound`: the status of the report, told by the attempts.
-/

namespace ClusterHealth

open ClusterHealth.Cql ClusterHealth.Retry ClusterHealth.Machine

namespace Check

/-! ## The course of a check -/

/-- How far a check came that made its read: what it knew, and the answer of the session to the read. -/
structure Course where
  snapshot : Topology.Snapshot
  /-- The number of copies that the keyspace had, if there was one. -/
  found : Option Int
  /-- The machine when the read was begun. -/
  before : Machine
  answer : Except Failure (List Value × Cluster.TraceScript)
  /-- The machine when the answer came. -/
  after : Machine

/-- The course of a check from a machine; `none` if it does not come to its read. -/
def course? (c : Client) (names : Schema.Names) (m : Machine) : Option Course :=
  match takeSnapshot c.store m with
  | (.error _, _) => none
  | (.ok snapshot, m₁) =>
    match Schema.describe c.store names.folded m₁, Schema.reconcile c.store names.folded snapshot m₁ with
    | (.ok found, _), (.ok _, m₂) =>
      let before := (c.store.clock m₂).2
      let ((_, answer), after) := Cluster.read (Probe.ofNames names).query .fresh before
      some ⟨snapshot, found, before, answer, after⟩
    | _, _ => none

/-- The levels at which the attempts of the read were issued. -/
def Course.attempts (k : Course) : List Level :=
  attemptLevels (k.before.since k.after)

/-- The level of the attempt that returned the rows, if one did. -/
def Course.servedAt? (k : Course) : Option Level :=
  match k.answer with
  | .ok _ => k.attempts.getLast?
  | .error _ => none

/-- The level of the attempt of a check that returned the rows, if one did. -/
def servedAt? (c : Client) (names : Schema.Names) (m : Machine) : Option Level :=
  (course? c names m).bind Course.servedAt?

/-! ## No other attempts -/

/-- An event that begins no attempt of a read. -/
def Idle (e : Event) : Prop :=
  e.attempt? = none

theorem idle_notice (n : Notice) : Idle (.notice n) := rfl

theorem idle_statement (r : Request) : Idle (.statement r) := rfl

theorem attemptLevels_idle_append {xs : List Event} (h : ∀ e ∈ xs, Idle e) (ys : List Event) :
    attemptLevels (xs ++ ys) = attemptLevels ys := by
  rw [attemptLevels_append, attemptLevels_eq_nil h, List.nil_append]

theorem attemptLevels_append_idle (xs : List Event) {ys : List Event} (h : ∀ e ∈ ys, Idle e) :
    attemptLevels (xs ++ ys) = attemptLevels xs := by
  rw [attemptLevels_append, attemptLevels_eq_nil h, List.append_nil]

/-- No attempt of a read was issued. -/
abbrev Quiet : Machine → Machine → Prop :=
  Continues Idle

variable {c : Client} {names : Schema.Names} {m m' : Machine}

/-- The calls of a client, the read apart, issue no attempt. -/
theorem store_quiet (c : Client) : c.store.Moves Quiet :=
  Client.store_moves (fun n _ => idle_notice n) idle_statement c

theorem moves_reportAll (c : Client) (notices : List Notice) :
    Action.Moves Quiet (c.store.reportAll notices) :=
  Action.Moves.forM (fun n => moves_report (idle_notice n)) notices

theorem moves_trace (c : Client) (script : Cluster.TraceScript) : Action.Moves Quiet (c.trace script) :=
  Client.moves_trace (fun n _ => idle_notice n) (fun _ => rfl) c script

/-! ## The stages of a check -/

theorem nodes_of_ofNodes? {nodes : Network.NodeSet} {snapshot : Topology.Snapshot}
    (h : Topology.Snapshot.ofNodes? nodes = some snapshot) : snapshot.nodes = nodes := by
  unfold Topology.Snapshot.ofNodes? at h
  split at h
  · exact nomatch h
  · rw [← Option.some.inj h]

/-- A snapshot is the set of the names of all hosts. -/
theorem takeSnapshot_spec {snapshot : Topology.Snapshot}
    (h : takeSnapshot c.store m = (.ok snapshot, m')) :
    c.connected = true ∧ snapshot.nodes = Topology.nodeNames m.cluster.hosts := by
  obtain ⟨hosts, m₁, hhosts, h⟩ := Action.bind_eq_ok h
  rw [Client.hosts_apply] at hhosts
  by_cases hc : c.connected = true
  · rw [if_pos hc] at hhosts
    obtain ⟨hnames, rfl⟩ := Prod.mk.inj hhosts
    rw [← Except.ok.inj hnames, Topology.nodeNames_nodeNames] at h
    refine ⟨hc, ?_⟩
    cases hn : Topology.Snapshot.ofNodes? (Topology.nodeNames m.cluster.hosts) with
    | none =>
      rw [hn] at h
      exact nomatch (congrArg Prod.fst h)
    | some taken =>
      rw [hn] at h
      rw [← Except.ok.inj (congrArg Prod.fst h), nodes_of_ofNodes? hn]
  · rw [if_neg hc] at hhosts
    exact nomatch (congrArg Prod.fst hhosts)

/-- A reconciliation that went well found as many copies as there are nodes, or made the keyspace anew
with so many. -/
theorem reconcile_spec {snapshot : Topology.Snapshot} {size : Int} (hc : c.connected = true)
    (h : Schema.reconcile c.store names snapshot m = (.ok size, m')) :
    ∃ found m₁ events, Schema.describe c.store names m = (.ok found, m₁)
      ∧ m'.journal = m.journal ++ events
      ∧ (found = some (snapshot.size : Int)
        ∨ .statement (Statement.createKeyspace names.keyspace snapshot.size).request ∈ events) := by
  obtain ⟨-, found, m₁, hfound, hexecute⟩ := Schema.reconcile_eq_ok h
  have hquiet : Quiet m m₁ := (Schema.describe_moves (store_quiet c) names).of_eq hfound
  obtain ⟨events, hj, -⟩ := hquiet.journal
  have hexecuted := Client.executeAll_journal hc hexecute
  refine ⟨found, m₁, events ++ (.notice (Schema.planNotice names found snapshot.size) ::
    (Schema.plan names found snapshot.size).flatMap fun s =>
      [.notice (.executing s.text), .statement s.request]), hfound, ?_, ?_⟩
  · rw [hexecuted]
    show (m₁.journal ++ [_]) ++ _ = _
    rw [hj]
    simp only [List.append_assoc, List.singleton_append]
  · by_cases hsame : found = some (snapshot.size : Int)
    · exact .inl hsame
    · refine .inr (List.mem_append_right _ (List.mem_cons_of_mem _ ?_))
      exact List.mem_flatMap.2 ⟨_, Schema.createKeyspace_mem_plan hsame, by simp⟩

/-- A trace is lost to a failure just if its script says so. -/
theorem trace_eq_error {script : Cluster.TraceScript} {e : Failure}
    (h : c.trace script m = (.error e, m')) : script = .failing e := by
  rw [Client.trace_apply] at h
  rcases hf : Cluster.fetchTrace c.settings.traceWait script m with ⟨e' | events, m₁⟩
  · rw [hf] at h
    have hscript := Cluster.fetchTrace_eq_error hf
    cases hn : Client.traceNotice? e' with
    | none =>
      simp only [hn] at h
      rw [hscript, Except.error.inj (congrArg Prod.fst h)]
    | some notice =>
      simp only [hn] at h
      exact nomatch (congrArg Prod.fst h)
  · rw [hf] at h
    exact nomatch (congrArg Prod.fst h)

/-- What a read leads to that did not end the check: the answer was a failure and the report says so, or
rows came and the verdict is that on the recorder. -/
theorem probe_spec {snapshot : Topology.Snapshot} {r : Report} (hc : c.connected = true)
    (hf : ∀ s ∈ m.cluster.reads, s.Faithful) (h : probe c.store names snapshot m = (.ok r, m')) :
    ∃ recorder answer after,
      Cluster.read (Probe.ofNames names).query .fresh (c.store.clock m).2 = ((recorder, answer), after)
      ∧ Quiet after m'
      ∧ ((∃ e e' latency, answer = .error e ∧ r = unreachableReport e' (some snapshot) latency)
        ∨ ∃ rows script reading latency, answer = .ok (rows, script)
          ∧ r = (verdict snapshot ⟨.ok reading, recorder.last, latency⟩).1) := by
  have hfclock : ∀ s ∈ (c.store.clock m).2.cluster.reads, s.Faithful := by
    rw [((store_quiet c).clock m).reads]
    exact hf
  obtain ⟨recorder, result, m₁, latency, notices, hread, hstore, hr, rfl⟩ := probe_eq_ok h
  have hreported : Quiet m₁ (c.store.reportAll notices (c.store.clock m₁).2).2 :=
    trans_of Quiet ((store_quiet c).clock m₁) (moves_reportAll c notices _)
  rw [Client.read_apply hc rfl] at hread
  rcases hanswer : Cluster.read (Probe.ofNames names).query .fresh (c.store.clock m).2
    with ⟨⟨recorder', e | ⟨rows, script⟩⟩, after⟩
  · rw [hanswer] at hread
    obtain ⟨hrr, rfl⟩ := Prod.mk.inj hread
    obtain ⟨rfl, rfl⟩ := Prod.mk.inj hrr
    exact ⟨recorder', .error e, after, rfl, hreported, .inl ⟨e, e.wrapTransport, latency, rfl, hr⟩⟩
  · rw [hanswer] at hread
    obtain ⟨hrr, rfl⟩ := Prod.mk.inj hread
    obtain ⟨rfl, rfl⟩ := Prod.mk.inj hrr
    refine ⟨recorder', .ok (rows, script), after, rfl, trans_of Quiet (moves_trace c script after) hreported,
      .inr ?_⟩
    rcases htrace : c.trace script after with ⟨e | trace, m₂⟩
    · -- a failure to fetch the trace is ignored, or is none of the store and ends the check
      rw [htrace] at hstore
      have hfail := trace_eq_error htrace
      obtain ⟨_, _, -, -, -, hspec⟩ := Cluster.read_spec hfclock hanswer
      exact absurd (hstore e rfl) (by rw [(hspec rows script rfl).2 e hfail]; simp)
    · rw [htrace] at hr
      exact ⟨rows, script, ⟨rows, trace⟩, latency, rfl, hr⟩

/-! ## Reports and attempts -/

/-- A report says what happened: at which level the rows came, if any did. -/
structure Told (r : Report) (served : Option Level) : Prop where
  healthy : r.status = .healthy ↔ served = some .all
  degraded : r.status = .degraded ↔ ∃ level, level ≠ .all ∧ served = some level
  decision : r.status = .degraded →
    ∃ d, r.decision = some d ∧ d.requested = .all ∧ served = some d.granted
  unreachable : r.status = .unreachable ↔ served = none

theorem Told.of_unreachable {r : Report} (h : r.status = .unreachable) : Told r none where
  healthy := by rw [h]; simp
  degraded := by rw [h]; simp
  decision := fun hd => absurd (h.symm.trans hd) (by simp)
  unreachable := by rw [h]; simp

/-- The verdict on rows that came at a level, if the recorder tells it. -/
theorem Told.of_tells {snapshot : Topology.Snapshot} {recorder : Recorder} {level : Level}
    {reading : Reading} {latency : Number.Binary64} (ht : recorder.Tells .all level) :
    Told (verdict snapshot ⟨.ok reading, recorder.last, latency⟩).1 (some level) := by
  unfold Recorder.Tells at ht
  cases hl : recorder.last with
  | none =>
    -- Nothing is told, so the rows came at the level that was asked for.
    rw [hl] at ht
    have hstatus : (verdict snapshot ⟨.ok reading, none, latency⟩).1.status = .healthy := rfl
    obtain rfl : level = .all := ht
    exact ⟨by simp [hstatus], by rw [hstatus]; simp, fun hd => absurd (hstatus.symm.trans hd) (by simp),
      by rw [hstatus]; simp⟩
  | some d =>
    rw [hl] at ht
    obtain ⟨hrequested, hgranted, hne⟩ := ht
    have hstatus : (verdict snapshot ⟨.ok reading, some d, latency⟩).1.status = .degraded := rfl
    refine ⟨by rw [hstatus]; simpa using hne, ?_, ?_, by rw [hstatus]; simp⟩
    · exact ⟨fun _ => ⟨level, hne, rfl⟩, fun _ => hstatus⟩
    · exact fun _ => ⟨d, rfl, hrequested, by rw [hgranted]⟩

/-! ## Soundness

A journal is cut at the stages of the check, and each stage but the read is quiet. -/

/-- A check that comes to its read follows its course. -/
theorem course?_eq_some {snapshot : Topology.Snapshot} {found : Option Int} {size : Int}
    {m₁ m₂ m₃ after : Machine} {recorder : Recorder}
    {answer : Except Failure (List Value × Cluster.TraceScript)}
    (hsnap : takeSnapshot c.store m = (.ok snapshot, m₁))
    (hfound : Schema.describe c.store names.folded m₁ = (.ok found, m₂))
    (hrec : Schema.reconcile c.store names.folded snapshot m₁ = (.ok size, m₃))
    (hread : Cluster.read (Probe.ofNames names).query .fresh (c.store.clock m₃).2
      = ((recorder, answer), after)) :
    course? c names m = some ⟨snapshot, found, (c.store.clock m₃).2, answer, after⟩ := by
  unfold course?
  simp only [hsnap, hfound, hrec, hread]

theorem course?_of_takeSnapshot {e : Failure} {m₁ : Machine}
    (hsnap : takeSnapshot c.store m = (.error e, m₁)) : course? c names m = none := by
  unfold course?
  rw [hsnap]

theorem course?_of_reconcile {snapshot : Topology.Snapshot} {e : Failure} {m₁ m₂ : Machine}
    (hsnap : takeSnapshot c.store m = (.ok snapshot, m₁))
    (hrec : Schema.reconcile c.store names.folded snapshot m₁ = (.error e, m₂)) :
    course? c names m = none := by
  unfold course?
  simp only [hsnap, hrec]
  split <;> simp_all

/-- A check that did not come to its read issued no attempt. -/
theorem sound_of_quiet {r : Report} (hcourse : course? c names m = none) (hquiet : Quiet m m')
    (hr : r.status = .unreachable) :
    ∃ events, m'.journal = m.journal ++ events
      ∧ attemptLevels events = ((course? c names m).map Course.attempts).getD []
      ∧ (attemptLevels events).length ≤ 2 ∧ Told r (servedAt? c names m) := by
  obtain ⟨events, hj, hidle⟩ := hquiet.journal
  have hnone : attemptLevels events = [] := attemptLevels_eq_nil hidle
  refine ⟨events, hj, ?_, ?_, ?_⟩
  · rw [hcourse, hnone]
    rfl
  · rw [hnone]
    exact Nat.zero_le 2
  · unfold servedAt?
    rw [hcourse]
    exact Told.of_unreachable hr

/-- A check that came to its read, and what the report makes of the attempts. -/
theorem probe_sound {snapshot : Topology.Snapshot} {r : Report} (hc : c.connected = true)
    (hf : ∀ s ∈ m.cluster.reads, s.Faithful) (h : probe c.store names snapshot m = (.ok r, m')) :
    ∃ recorder answer after events,
      Cluster.read (Probe.ofNames names).query .fresh (c.store.clock m).2 = ((recorder, answer), after)
      ∧ m'.journal = m.journal ++ events
      ∧ attemptLevels events = attemptLevels ((c.store.clock m).2.since after)
      ∧ (attemptLevels events).length ≤ 2
      ∧ ∀ found, Told r (Course.servedAt? ⟨snapshot, found, (c.store.clock m).2, answer, after⟩) := by
  obtain ⟨recorder, answer, after, hread, hquiet, hr⟩ := probe_spec hc hf h
  have hfclock : ∀ s ∈ (c.store.clock m).2.cluster.reads, s.Faithful := by
    rw [((store_quiet c).clock m).reads]
    exact hf
  obtain ⟨events, levels, hj, hlevels, hfew, htells⟩ := Cluster.read_spec hfclock hread
  obtain ⟨earlier, hearlier, hidle⟩ := ((store_quiet c).clock m).journal
  obtain ⟨later, hlater, hidle'⟩ := hquiet.journal
  have hall : attemptLevels (earlier ++ events ++ later) = attemptLevels events := by
    rw [attemptLevels_append_idle _ hidle', attemptLevels_idle_append hidle]
  -- The clock before the read and all that comes after it are quiet.
  refine ⟨recorder, answer, after, earlier ++ events ++ later, hread, ?_, ?_, ?_, ?_⟩
  · rw [hlater, hj, hearlier]
    simp only [List.append_assoc]
  · rw [hall, since_of_append hj]
  · rw [hall, hlevels]
    exact Nat.succ_le_succ hfew
  · intro found
    rcases hr with ⟨e, e', latency, rfl, rfl⟩ | ⟨rows, script, reading, latency, rfl, rfl⟩
    · exact Told.of_unreachable rfl
    · show Told _ (attemptLevels ((c.store.clock m).2.since after)).getLast?
      rw [since_of_append hj, hlevels, List.getLast?_cons]
      exact Told.of_tells (htells rows script rfl).1

/-- A check that came to its read: the attempts are those of its course, and the keyspace was in its place
or was made. -/
theorem sound_of_read {snapshot : Topology.Snapshot} {size : Int} {m₁ m₂ : Machine} {r : Report}
    (hf : ∀ s ∈ m.cluster.reads, s.Faithful) (hsnap : takeSnapshot c.store m = (.ok snapshot, m₁))
    (hrec : Schema.reconcile c.store names.folded snapshot m₁ = (.ok size, m₂))
    (hprobe : probe c.store names snapshot m₂ = (.ok r, m')) :
    ∃ events, m'.journal = m.journal ++ events
      ∧ attemptLevels events = ((course? c names m).map Course.attempts).getD []
      ∧ (attemptLevels events).length ≤ 2 ∧ Told r (servedAt? c names m)
      ∧ ((course? c names m).bind (·.found) = some (snapshot.size : Int)
        ∨ .statement (Statement.createKeyspace names.folded.keyspace snapshot.size).request ∈ events) := by
  have hquiet : Quiet m m₁ := (takeSnapshot_moves (store_quiet c)).of_eq hsnap
  have hquiet' : Quiet m₁ m₂ := (Schema.reconcile_moves (store_quiet c) names.folded snapshot).of_eq hrec
  have hreads : m₂.cluster.reads = m.cluster.reads := hquiet'.reads.trans hquiet.reads
  have hc : c.connected = true := (takeSnapshot_spec hsnap).1
  obtain ⟨found, m₃, schema, hfound, hschema, hfactor⟩ := reconcile_spec hc hrec
  obtain ⟨recorder, answer, after, events, hread, hj, ha, hfew, ht⟩ :=
    probe_sound hc (by rw [hreads]; exact hf) hprobe
  have hcourse := course?_eq_some hsnap hfound hrec hread
  -- The journal is what the snapshot, the reconciliation and the probe left; only the last has attempts.
  obtain ⟨taken, htaken, hidle⟩ := hquiet.journal
  have hidle' : ∀ e ∈ schema, Idle e := by
    obtain ⟨schema', hschema', hall⟩ := hquiet'.journal
    rw [List.append_cancel_left (hschema.symm.trans hschema')]
    exact hall
  have hall : attemptLevels (taken ++ schema ++ events) = attemptLevels events := by
    rw [List.append_assoc, attemptLevels_idle_append hidle, attemptLevels_idle_append hidle']
  refine ⟨taken ++ schema ++ events, ?_, ?_, ?_, ?_, ?_⟩
  · rw [hj, hschema, htaken]
    simp only [List.append_assoc]
  · rw [hall, ha, hcourse]
    rfl
  · rw [hall]
    exact hfew
  · unfold servedAt?
    rw [hcourse]
    exact ht found
  · rcases hfactor with rfl | hmem
    · exact .inl (by rw [hcourse]; rfl)
    · exact .inr (List.mem_append_left _ (List.mem_append_right _ hmem))

/-- **The verdict is what happened.** For every check that returns a report, with a driver that hands each
failed attempt to the retry policy as it was made: the journal has at most two attempts of a read, those of
its course; the report is healthy just if the attempt that returned the rows was issued at level ALL, and
then the keyspace had, or was given in this run, one copy for each distinct name of a host; it is degraded
just if that attempt was issued at another level, which is the one that the decision grants; and it tells
of an unreachable cluster just if no attempt returned rows. -/
theorem verdict_sound {r : Report} (hf : ∀ s ∈ m.cluster.reads, s.Faithful)
    (h : run c.store names m = (.ok r, m')) :
    ∃ events, m'.journal = m.journal ++ events
      ∧ attemptLevels events = ((course? c names m).map Course.attempts).getD []
      ∧ (attemptLevels events).length ≤ 2
      ∧ (r.status = .healthy ↔ servedAt? c names m = some .all)
      ∧ (r.status = .healthy → ∃ size : Nat, size = (m.cluster.hosts.map Topology.nodeName).dedup.length
          ∧ ((course? c names m).bind (·.found) = some (size : Int)
            ∨ .statement (Statement.createKeyspace names.folded.keyspace size).request ∈ events))
      ∧ (r.status = .degraded ↔ ∃ level, level ≠ .all ∧ servedAt? c names m = some level)
      ∧ (r.status = .degraded →
          ∃ d, r.decision = some d ∧ d.requested = .all ∧ servedAt? c names m = some d.granted)
      ∧ (r.status = .unreachable ↔ servedAt? c names m = none) := by
  rcases run_eq_ok h with ⟨e, m₁, hsnap, -, rfl, rfl⟩ | ⟨snapshot, m₁, hsnap, hway⟩
  · have hquiet : Quiet m m₁ := (takeSnapshot_moves (store_quiet c)).of_eq hsnap
    obtain ⟨events, hj, ha, hfew, ht⟩ := sound_of_quiet (r := unreachableReport e none .zero)
      (course?_of_takeSnapshot hsnap : course? c names m = none)
      (trans_of Quiet hquiet (moves_report (idle_notice _) m₁)) rfl
    exact ⟨events, hj, ha, hfew, ht.healthy, fun hh => (nomatch hh), ht.degraded, ht.decision, ht.unreachable⟩
  · rcases hway with ⟨e, m₂, hrec, -, rfl, rfl⟩ | ⟨size, m₂, hrec, hprobe⟩
    · have hquiet : Quiet m m₂ := trans_of Quiet ((takeSnapshot_moves (store_quiet c)).of_eq hsnap)
        ((Schema.reconcile_moves (store_quiet c) names.folded snapshot).of_eq hrec)
      obtain ⟨events, hj, ha, hfew, ht⟩ := sound_of_quiet (r := unreachableReport e (some snapshot) .zero)
        (course?_of_reconcile hsnap hrec)
        (trans_of Quiet hquiet (moves_report (idle_notice _) m₂)) rfl
      exact ⟨events, hj, ha, hfew, ht.healthy, fun hh => (nomatch hh), ht.degraded, ht.decision,
        ht.unreachable⟩
    · obtain ⟨events, hj, ha, hfew, ht, hplace⟩ := sound_of_read hf hsnap hrec hprobe
      obtain ⟨-, hnodes⟩ := takeSnapshot_spec hsnap
      have hsize : snapshot.size = (m.cluster.hosts.map Topology.nodeName).dedup.length := by
        show snapshot.nodes.size = _
        rw [hnodes]
        exact Network.NodeSet.size_ofList _
      exact ⟨events, hj, ha, hfew, ht.healthy, fun _ => ⟨snapshot.size, hsize, hplace⟩, ht.degraded,
        ht.decision, ht.unreachable⟩

/-- Two nodes, of which one is alive, and a keyspace that is still to be made. -/
def halfAlive : Machine :=
  .ofParts .initial
    { Cluster.empty with
      hosts := [.text "10.0.0.1", .text "10.0.0.2"]
      reads := [⟨[⟨.unavailable, none, none, 1, 2, false⟩], false, none, none, none, .absent⟩] }

/-- A client with a session. -/
def inSession : Client :=
  ⟨⟨"10.0.0.1", 9042, none, none, .zero, .zero, .zero, "health", "check", ⟨.single, ["lock"]⟩, false⟩,
    true, true⟩

/-- A cluster of which one half answers is degraded, to the level that this half can satisfy. -/
theorem verdict_sound_halfAlive : ∃ r m', run inSession.store ⟨"health", "check"⟩ halfAlive = (.ok r, m')
    ∧ r.status = .degraded
    ∧ ∃ d, r.decision = some d ∧ d.requested = .all
      ∧ servedAt? inSession ⟨"health", "check"⟩ halfAlive = some d.granted := by
  have hstatus : (run inSession.store ⟨"health", "check"⟩ halfAlive).1.toOption.map (·.status)
      = some .degraded := by decide +kernel
  have hfaithful : ∀ s ∈ halfAlive.cluster.reads, s.Faithful := by
    intro s hs
    rw [List.mem_singleton.1 hs]
    refine ⟨?_, fun _ he => nomatch he⟩
    intro a ha
    rw [List.mem_singleton.1 ha]
    exact ⟨rfl, rfl⟩
  rcases hrun : run inSession.store ⟨"health", "check"⟩ halfAlive with ⟨e | r, m'⟩
  · rw [hrun] at hstatus
    exact absurd hstatus (by simp [Except.toOption])
  · rw [hrun] at hstatus
    have hdegraded : r.status = .degraded := Option.some.inj hstatus
    obtain ⟨-, -, -, -, -, -, -, hdecision, -⟩ := verdict_sound hfaithful hrun
    exact ⟨r, m', rfl, hdegraded, hdecision hdegraded⟩

end Check

end ClusterHealth
