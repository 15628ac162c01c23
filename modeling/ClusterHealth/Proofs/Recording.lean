import ClusterHealth.Proofs.Attempts
import ClusterHealth.Proofs.Check
import ClusterHealth.Proofs.Client
import ClusterHealth.Proofs.Session

/-!
# `ClusterHealth.Proofs.Recording` — what a recorder remembers

A recorder is told of failed attempts by any number of retry policies, which have nothing of their own but
the recorder that they share. It keeps the first downgrade since it was last reset, and what it keeps has no
part in the answers. A probe resets its recorder before each of its reads, so what is known after a read
comes from the failed attempts of that read, whatever the reads before it met with.

## Contents
- `Operation`, `Recorder.performAll`: the life of a recorder.
- `Remembers`: the downgrade that some failed attempts leave behind; `Remembers.unique`: there is only one.
- `Exchange`: a question to the retry policy or its answer, as the journal shows it.
- `Client.read_exchanges`: what a read asks, and what is recorded of it.
- `Probe.runAll`, `Recorder.performAll_recalls`: any life of a recorder, and any sequence of reads.
-/

namespace ClusterHealth

open ClusterHealth.Cql ClusterHealth.Retry ClusterHealth.Machine

namespace Retry

/-! ## The life of a recorder -/

/-- What is done to a recorder: it is reset, or a retry policy that shares it is asked about a failed
attempt. -/
inductive Operation where
  | reset
  | failed (a : FailedAttempt)
  deriving DecidableEq, Repr

/-- A recorder after an operation, and what is reported. -/
def Recorder.perform (r : Recorder) : Operation → Recorder × List Notice
  | .reset => (.fresh, [])
  | .failed a => r.handle a

/-- A recorder after some operations, and what is reported by each. -/
def Recorder.performAll (r : Recorder) : List Operation → Recorder × List (List Notice)
  | [] => (r, [])
  | op :: ops =>
    let (r₁, notices) := r.perform op
    let (r₂, rest) := r₁.performAll ops
    (r₂, notices :: rest)

/-- The answer that a notice tells of. -/
def answer? : Notice → Option Verdict
  | .retrying _ level => some (.retry level)
  | .rethrowing _ => some .rethrow
  | _ => none

/-- The answers to an operation, from its own arguments alone. -/
def Operation.answers : Operation → List Verdict
  | .reset => []
  | .failed a => [a.verdict]

/-- The failed attempts since the last reset, once one more operation was performed. -/
def Operation.after (attempts : List FailedAttempt) : Operation → List FailedAttempt
  | .reset => []
  | .failed a => attempts ++ [a]

/-- The failed attempts since the last reset. -/
def sinceReset (ops : List Operation) : List FailedAttempt :=
  ops.foldl Operation.after []

/-! ## The downgrade that is remembered -/

/-- A failed attempt whose answer is to retry at another level. -/
def FailedAttempt.Granted (a : FailedAttempt) (level : Level) : Prop :=
  a.verdict = .retry level ∧ level ≠ a.level

/-- What is left of some failed attempts: the downgrade made of the first whose answer is to retry at
another level, or nothing if no answer is. -/
def Remembers (last : Option Downgrade) (attempts : List FailedAttempt) : Prop :=
  match last with
  | none => ∀ a ∈ attempts, ∀ level, ¬ a.Granted level
  | some d => ∃ before a later level, attempts = before ++ a :: later
      ∧ (∀ b ∈ before, ∀ level, ¬ b.Granted level)
      ∧ a.Granted level ∧ d = ⟨a.kind, a.level, level, a.responses, a.required⟩

theorem FailedAttempt.downgrade?_eq_some {a : FailedAttempt} {d : Downgrade} : a.downgrade? = some d ↔
    ∃ level, a.Granted level ∧ d = ⟨a.kind, a.level, level, a.responses, a.required⟩ := by
  unfold downgrade? Granted
  cases a.verdict with
  | rethrow => simp
  | retry level =>
    by_cases h : level = a.level
    · simp only [if_pos h]
      constructor
      · exact fun hd => nomatch hd
      · rintro ⟨_, ⟨hv, hne⟩, -⟩
        exact absurd (Verdict.retry.inj hv ▸ h) hne
    · simp only [if_neg h]
      constructor
      · exact fun hd => ⟨level, ⟨rfl, h⟩, (Option.some.inj hd).symm⟩
      · rintro ⟨_, ⟨hv, -⟩, rfl⟩
        rw [Verdict.retry.inj hv]

theorem FailedAttempt.downgrade?_eq_none {a : FailedAttempt} :
    a.downgrade? = none ↔ ∀ level, ¬ a.Granted level := by
  rw [Option.eq_none_iff_forall_ne_some]
  constructor
  · intro h level hg
    exact h _ (downgrade?_eq_some.2 ⟨level, hg, rfl⟩)
  · intro h d hd
    obtain ⟨level, hg, -⟩ := downgrade?_eq_some.1 hd
    exact h level hg

theorem remembers_iff {last : Option Downgrade} {attempts : List FailedAttempt} :
    Remembers last attempts ↔ attempts.findSome? FailedAttempt.downgrade? = last := by
  cases last with
  | none => simp only [Remembers, List.findSome?_eq_none_iff, FailedAttempt.downgrade?_eq_none]
  | some d =>
    simp only [Remembers, List.findSome?_eq_some_iff, FailedAttempt.downgrade?_eq_none,
      FailedAttempt.downgrade?_eq_some]
    constructor
    · rintro ⟨before, a, later, level, hsplit, hbefore, hg, hd⟩
      exact ⟨before, a, later, hsplit, ⟨level, hg, hd⟩, hbefore⟩
    · rintro ⟨before, a, later, hsplit, ⟨level, hg, hd⟩, hbefore⟩
      exact ⟨before, a, later, level, hsplit, hbefore, hg, hd⟩

theorem Remembers.unique {last last' : Option Downgrade} {attempts : List FailedAttempt}
    (h : Remembers last attempts) (h' : Remembers last' attempts) : last = last' :=
  (remembers_iff.1 h).symm.trans (remembers_iff.1 h')

/-- A downgrade that is remembered was to another level. -/
theorem Remembers.granted_ne {d : Downgrade} {attempts : List FailedAttempt}
    (h : Remembers (some d) attempts) : d.granted ≠ d.requested := by
  obtain ⟨_, a, _, level, -, -, ⟨-, hne⟩, rfl⟩ := h
  exact hne

/-- One more failed attempt. -/
theorem Remembers.handle {r : Recorder} {attempts : List FailedAttempt} (h : Remembers r.last attempts)
    (a : FailedAttempt) : Remembers (r.handle a).1.last (attempts ++ [a]) := by
  rw [remembers_iff] at h ⊢
  rw [Recorder.handle_last, List.findSome?_append, h, List.findSome?_singleton]

/-- One more operation. -/
theorem Remembers.perform {r : Recorder} {attempts : List FailedAttempt}
    (h : Remembers r.last attempts) (op : Operation) :
    Remembers (r.perform op).1.last (op.after attempts) := by
  cases op with
  | reset => exact fun a ha => absurd ha List.not_mem_nil
  | failed a => exact h.handle a

/-- All operations, one after the other. -/
theorem Remembers.performAll {r : Recorder} {attempts : List FailedAttempt}
    (h : Remembers r.last attempts) (ops : List Operation) :
    Remembers (r.performAll ops).1.last (ops.foldl Operation.after attempts) := by
  induction ops generalizing r attempts with
  | nil => exact h
  | cons op ops ih => exact ih (h.perform op)

/-! ## Answers -/

/-- A failed attempt is answered once, and nothing else that is reported is an answer. -/
theorem Recorder.handle_notices (r : Recorder) (a : FailedAttempt) : ∃ ignored,
    (r.handle a).2 = a.verdict.notice a :: ignored
      ∧ ∀ n ∈ ignored, ∃ d first, n = .downgradeIgnored d first := by
  unfold Recorder.handle
  cases a.downgrade? with
  | none => exact ⟨[], rfl, fun n hn => absurd hn List.not_mem_nil⟩
  | some d =>
    refine ⟨(r.record d).2, rfl, ?_⟩
    unfold Recorder.record
    cases r.last with
    | none => exact fun n hn => absurd hn List.not_mem_nil
    | some first =>
      intro n hn
      exact ⟨d, first, List.mem_singleton.1 hn⟩

theorem answer?_notice (v : Verdict) (a : FailedAttempt) : answer? (v.notice a) = some v := by
  cases v <;> rfl

theorem Recorder.perform_answers (r : Recorder) (op : Operation) :
    (r.perform op).2.filterMap answer? = op.answers := by
  cases op with
  | reset => rfl
  | failed a =>
    obtain ⟨ignored, hnotices, hignored⟩ := r.handle_notices a
    have hnone : ignored.filterMap answer? = [] := by
      rw [List.filterMap_eq_nil_iff]
      intro n hn
      obtain ⟨d, first, rfl⟩ := hignored n hn
      rfl
    show (r.handle a).2.filterMap answer? = [a.verdict]
    rw [hnotices, List.filterMap_cons_some (answer?_notice _ a), hnone]

/-- What was recorded before has no part in the answers. -/
theorem Recorder.performAll_answers (r : Recorder) (ops : List Operation) :
    (r.performAll ops).2.map (·.filterMap answer?) = ops.map Operation.answers := by
  induction ops generalizing r with
  | nil => rfl
  | cons op ops ih =>
    show (r.perform op).2.filterMap answer? :: ((r.perform op).1.performAll ops).2.map _ = _
    rw [perform_answers, ih, List.map_cons]

end Retry

/-! ## Questions and answers in the journal -/

namespace Machine

/-- A question to a retry policy, or its answer. -/
inductive Exchange where
  | asked (a : FailedAttempt)
  | answered (v : Verdict)
  deriving DecidableEq, Repr

/-- The question or the answer that an event tells of. -/
def Event.exchange? : Event → Option Exchange
  | .notice (.retrying a _) | .notice (.rethrowing a) => some (.asked a)
  | .call (.retry level) => some (.answered (.retry level))
  | .call .rethrow => some (.answered .rethrow)
  | _ => none

/-- Every failed attempt is asked about and answered, one after the other. -/
def exchanges (attempts : List FailedAttempt) : List Exchange :=
  attempts.flatMap fun a => [.asked a, .answered a.verdict]

/-- The journal shows which attempts failed. -/
theorem exchanges_injective {attempts attempts' : List FailedAttempt}
    (h : exchanges attempts = exchanges attempts') : attempts = attempts' := by
  induction attempts generalizing attempts' with
  | nil => cases attempts' with
    | nil => rfl
    | cons a rest => exact nomatch h
  | cons a rest ih => cases attempts' with
    | nil => exact nomatch h
    | cons a' rest' =>
      obtain ⟨ha, h⟩ := List.cons.inj h
      obtain ⟨-, h⟩ := List.cons.inj h
      rw [Exchange.asked.inj ha, ih h]

end Machine

/-! ## What is asked during a read -/

/-- From one state to another some attempts failed: the journal shows the exchanges about them, and the
recorder was told of them and of nothing else. -/
structure Consulted (attempts : List FailedAttempt) (r r' : Recorder) (m m' : Machine) : Prop where
  journal : Adds Event.exchange? (exchanges attempts) m m'
  recorded : r'.last = r.last.or (attempts.findSome? FailedAttempt.downgrade?)

namespace Consulted

variable {attempts : List FailedAttempt} {r r' : Recorder} {m m₁ m' : Machine}

theorem nothing (h : Adds Event.exchange? [] m m') : Consulted [] r r m m' :=
  ⟨h, by simp⟩

/-- Before or after it no policy was asked. -/
theorem quietBefore (hq : Adds Event.exchange? [] m m₁) (h : Consulted attempts r r' m₁ m') :
    Consulted attempts r r' m m' :=
  ⟨hq.trans h.journal, h.recorded⟩

theorem quietAfter (h : Consulted attempts r r' m m₁) (hq : Adds Event.exchange? [] m₁ m') :
    Consulted attempts r r' m m' :=
  ⟨h.journal.andSilent hq, h.recorded⟩

/-- A recorder that was reset before remembers just these attempts. -/
theorem remembers (h : Consulted attempts .fresh r' m m') : Remembers r'.last attempts :=
  remembers_iff.2 (h.recorded.trans Option.none_or).symm

theorem trans {later : List FailedAttempt} {r₁ : Recorder} (h : Consulted attempts r r₁ m m₁)
    (h' : Consulted later r₁ r' m₁ m') : Consulted (attempts ++ later) r r' m m' := by
  refine ⟨?_, ?_⟩
  · rw [exchanges, List.flatMap_append]
    exact h.journal.trans h'.journal
  · rw [h'.recorded, h.recorded, Option.or_assoc, List.findSome?_append]

theorem since (h : Consulted attempts r r' m m') :
    (m.since m').filterMap Event.exchange? = exchanges attempts := by
  obtain ⟨events, hj, hseen⟩ := h.journal
  rw [since_of_append hj, hseen]

end Consulted

namespace Cluster

/-- A failed attempt is asked about and answered once. -/
theorem handled_exchanges (r : Recorder) (a : FailedAttempt) (m : Machine) :
    Consulted [a] r (r.handle a).1 m (handled r a m) := by
  obtain ⟨ignored, hnotices, hignored⟩ := r.handle_notices a
  have hnone : (ignored.map Event.notice).filterMap Event.exchange? = [] := by
    rw [List.filterMap_eq_nil_iff]
    intro e he
    obtain ⟨n, hn, rfl⟩ := List.mem_map.1 he
    obtain ⟨d, first, rfl⟩ := hignored n hn
    rfl
  refine ⟨⟨_, rfl, ?_⟩, ?_⟩
  · rw [hnotices, List.map_cons, List.filterMap_append]
    cases hv : a.verdict with
    | retry level =>
      rw [List.filterMap_cons_some (f := Event.exchange?) (b := .asked a) rfl, hnone]
      simp [exchanges, answerOf, Event.exchange?, hv]
    | rethrow =>
      rw [List.filterMap_cons_some (f := Event.exchange?) (b := .asked a) rfl, hnone]
      simp [exchanges, answerOf, Event.exchange?, hv]
  · rw [Recorder.handle_last, List.findSome?_singleton]

theorem attemptAll_exchanges (scripts : List AttemptScript) (level : Level) (retries : Nat) (r : Recorder)
    (m : Machine) : ∃ attempts, Consulted attempts r (attemptAll scripts level retries r m).1.1 m
      (attemptAll scripts level retries r m).2 := by
  induction scripts generalizing level retries r m with
  | nil => exact ⟨[], .nothing (.silent rfl)⟩
  | cons script rest ih =>
    have hfirst := handled_exchanges r (script.attempt level retries) m
    rw [attemptAll_cons]
    cases hv : (script.attempt level retries).verdict with
    | rethrow => exact ⟨_, hfirst⟩
    | retry next =>
      obtain ⟨attempts, hrest⟩ := ih next (retries + 1) (r.handle (script.attempt level retries)).1
        (handled r (script.attempt level retries) m)
      exact ⟨_, hfirst.trans hrest⟩

/-- Nothing else in a read has to do with a retry policy. -/
theorem read_exchanges (q : Query) (r : Recorder) (m : Machine) : ∃ attempts,
    Consulted attempts r (Cluster.read q r m).1.1 m (Cluster.read q r m).2 := by
  rw [read_apply]
  have hsent : Adds Event.exchange? [] m (sent q m) := ⟨[.query q], rfl, rfl⟩
  cases m.cluster.nextStatement.1 with
  | some e => exact ⟨[], .nothing hsent⟩
  | none =>
    have htaken : Adds Event.exchange? [] m (taken (sent q m)) := hsent.andSilent (.silent rfl)
    obtain ⟨attempts, h⟩ :=
      attemptAll_exchanges (sent q m).cluster.nextRead.1.attempts q.level 0 r (taken (sent q m))
    refine ⟨attempts, ?_⟩
    rcases hr : attemptAll (sent q m).cluster.nextRead.1.attempts q.level 0 r (taken (sent q m))
      with ⟨⟨r', e | ⟨⟩⟩, m'⟩
    · rw [hr] at h
      exact h.quietBefore htaken
    · rw [hr] at h
      exact h.quietBefore htaken

end Cluster

namespace Client

theorem traceNotice?_exchange {e : Failure} {n : Notice} (h : traceNotice? e = some n) :
    Event.exchange? (.notice n) = none := by
  unfold traceNotice? at h
  split at h
  · rw [← Option.some.inj h]
    rfl
  · split at h
    · rw [← Option.some.inj h]
      rfl
    · split at h
      · rw [← Option.some.inj h]
        rfl
      · exact nomatch h
  · exact nomatch h

/-- A trace is fetched without any retry policy. -/
theorem trace_exchanges (c : Client) (script : Cluster.TraceScript) (m : Machine) :
    Adds Event.exchange? [] m (c.trace script m).2 := by
  have hmoves : Action.Moves (Continues fun e => e.exchange? = none)
      (Cluster.fetchTrace c.settings.traceWait script) := Cluster.moves_fetchTrace script rfl
  have hfetch := Adds.of_extends (hmoves m).toExtends
  rw [trace_apply]
  rcases hf : Cluster.fetchTrace c.settings.traceWait script m with ⟨e | events, m₁⟩
  · rw [hf] at hfetch
    cases hn : traceNotice? e with
    | none =>
      simp only [hn]
      exact hfetch
    | some n =>
      simp only [hn]
      exact hfetch.andSilent ⟨[.notice n], rfl, List.filterMap_cons_none (traceNotice?_exchange hn)⟩
  · rw [hf] at hfetch
    exact hfetch

/-- **A read of a client.** Whether it returns rows or fails, its recorder was told of the failed attempts
that the journal shows. -/
theorem read_exchanges (c : Client) {q : Query} (ht : q.tracing = true) (r : Recorder) (m : Machine) :
    ∃ attempts, Consulted attempts r (c.store.read q r m).1.1 m (c.store.read q r m).2 := by
  by_cases hc : c.connected = true
  · obtain ⟨attempts, h⟩ := Cluster.read_exchanges q r m
    refine ⟨attempts, ?_⟩
    rw [read_apply hc ht]
    rcases hr : Cluster.read q r m with ⟨⟨r', e | ⟨rows, script⟩⟩, m₁⟩
    · rw [hr] at h
      exact h
    · rw [hr] at h
      exact h.quietAfter (c.trace_exchanges script m₁)
  · have hnone : c.store.read q r m = ((r, .error .notConnected), m) := by
      show read c q r m = _
      unfold read
      rw [if_pos (by simp [hc])]
      rfl
    rw [hnone]
    exact ⟨[], .nothing (.silent rfl)⟩

end Client

/-! ## Reads of one probe -/

namespace Probe

/-- The notices of a probe tell of no exchange. -/
theorem notices_exchange (p : Probe) (reading : Reading) (latency : Number.Binary64) :
    ((p.notices reading latency).map Event.notice).filterMap Event.exchange? = [] := by
  unfold notices
  split <;> rfl

/-- **One read of a probe.** It may have recorded anything before; what is known after the read comes from
the failed attempts that the journal shows of it. -/
theorem run_exchanges (c : Client) (p : Probe) (m : Machine) : ∃ attempts,
    (m.since (p.run c.store m).2).filterMap Event.exchange? = exchanges attempts
      ∧ ∀ o, (p.run c.store m).1.2 = .ok o → Remembers o.decision attempts := by
  have hclock : ∀ m₁, Adds Event.exchange? [] m₁ (c.store.clock m₁).2 := fun m₁ =>
    .of_extends (moves_nextReading m₁).toExtends
  obtain ⟨attempts, hread⟩ := c.read_exchanges (q := p.query) rfl .fresh (c.store.clock m).2
  have hbefore := hread.quietBefore (hclock m)
  refine ⟨attempts, ?_⟩
  rw [run_apply]
  rcases hr : c.store.read p.query .fresh (c.store.clock m).2 with ⟨⟨recorder, e | reading⟩, m₁⟩
  · rw [hr] at hbefore
    by_cases he : e.isStore = true
    · simp only [if_pos he]
      refine ⟨(hbefore.quietAfter (hclock m₁)).since, ?_⟩
      intro o ho
      rw [← Except.ok.inj ho]
      exact hbefore.remembers
    · simp only [if_neg he]
      exact ⟨hbefore.since, fun o ho => nomatch ho⟩
  · rw [hr] at hbefore
    have hnotices : Adds Event.exchange? [] (c.store.clock m₁).2
        (c.store.reportAll (p.notices reading (latency c.store m m₁)) (c.store.clock m₁).2).2 :=
      ⟨_, congrArg Machine.journal (forM_report_apply _ _), p.notices_exchange _ _⟩
    refine ⟨((hbefore.quietAfter (hclock m₁)).quietAfter hnotices).since, ?_⟩
    intro o ho
    rw [← Except.ok.inj ho]
    exact hbefore.remembers

/-- What is known of one read of a probe: what came of it, and what the journal shows of it. -/
structure Record where
  result : Except Failure Outcome
  events : List Event

/-- The reads of one probe, one after the other. Before each of them anything may happen to the machine, and
to the client that the read goes through. -/
def runAll (p : Probe) (m : Machine) : List (Client × (Machine → Machine)) → List Record
  | [] => []
  | (c, meanwhile) :: rest =>
    let ((probe, result), m₁) := p.run c.store (meanwhile m)
    ⟨result, (meanwhile m).since m₁⟩ :: probe.runAll m₁ rest

theorem runAll_exchanges {p : Probe} {m : Machine} {reads : List (Client × (Machine → Machine))}
    {record : Record} (h : record ∈ p.runAll m reads) : ∃ attempts,
      record.events.filterMap Event.exchange? = exchanges attempts
        ∧ ∀ o, record.result = .ok o → Remembers o.decision attempts := by
  induction reads generalizing p m with
  | nil => exact absurd h List.not_mem_nil
  | cons read rest ih =>
    obtain ⟨c, meanwhile⟩ := read
    rcases List.mem_cons.1 h with rfl | h
    · exact p.run_exchanges c (meanwhile m)
    · exact ih h

end Probe

/-- **What a recorder recalls.** Over any life of a recorder, every answer is the one that its own arguments
lead to, whatever was recorded before, and what is recorded is the first downgrade since the last reset.
Over any sequence of reads of one probe, what is known after a read is the first downgrade among the failed
attempts of that read: two reads that were asked the same know the same. -/
theorem Retry.Recorder.performAll_recalls (ops : List Operation) :
    (∀ r : Recorder, (r.performAll ops).2.map (·.filterMap answer?) = ops.map Operation.answers)
      ∧ Remembers (Recorder.fresh.performAll ops).1.last (sinceReset ops)
      ∧ (∀ (p : Probe) (m : Machine) reads, ∀ record ∈ p.runAll m reads, ∃ attempts,
          record.events.filterMap Event.exchange? = exchanges attempts
            ∧ ∀ o, record.result = .ok o → Remembers o.decision attempts)
      ∧ ∀ (p p' : Probe) (m m' : Machine) reads reads', ∀ record ∈ p.runAll m reads,
          ∀ record' ∈ p'.runAll m' reads',
          record.events.filterMap Event.exchange? = record'.events.filterMap Event.exchange? →
          ∀ o o', record.result = .ok o → record'.result = .ok o' → o.decision = o'.decision := by
  refine ⟨fun r => r.performAll_answers ops, ?_, fun p m reads record => Probe.runAll_exchanges, ?_⟩
  · have hfresh : Remembers Recorder.fresh.last [] := fun a ha => absurd ha List.not_mem_nil
    exact hfresh.performAll ops
  · intro p p' m m' reads reads' record hmem record' hmem' hsame o o' ho ho'
    obtain ⟨attempts, hseen, hdecision⟩ := Probe.runAll_exchanges hmem
    obtain ⟨attempts', hseen', hdecision'⟩ := Probe.runAll_exchanges hmem'
    have hattempts : attempts = attempts' :=
      exchanges_injective (hseen.symm.trans (hsame.trans hseen'))
    subst hattempts
    exact (hdecision o ho).unique (hdecision' o' ho')

/-- A node that fails a first read after its retry at level two, and answers a second one in full. -/
def recoveringNode : Machine :=
  { oneNode with cluster := { oneNode.cluster with
      reads := [{ Cluster.ReadScript.plain with
        attempts := [⟨.unavailable, none, none, 2, 3, false⟩]
        failure := some (.driver (.operationTimedOut none none)) }] } }

/-- Two reads of that node by one probe. -/
def recoveringReads : List Probe.Record :=
  (Probe.ofNames ⟨"health", "check"⟩).runAll recoveringNode
    [(⟨oneNodeSettings, true, true⟩, id), (⟨oneNodeSettings, true, true⟩, id)]

/-- The downgrade of a read that failed is known after it and not after the next. -/
theorem recoveringReads_recall :
    recoveringReads.map (fun record => record.result.toOption.map (·.decision))
        = [some (some ⟨.unavailable, 5, 2, 2, 3⟩), some none]
      ∧ (Recorder.fresh.performAll [.failed ⟨.unavailable, 0, 5, 2, 3, false⟩, .reset,
          .failed ⟨.readTimeout, 0, 5, 3, 3, false⟩, .failed ⟨.readTimeout, 0, 5, 1, 3, false⟩,
          .failed ⟨.unavailable, 0, 5, 2, 3, false⟩]).1.last = some ⟨.readTimeout, 5, 1, 1, 3⟩
      ∧ ∀ record ∈ recoveringReads, ∃ attempts,
          record.events.filterMap Event.exchange? = exchanges attempts
            ∧ ∀ o, record.result = .ok o → Remembers o.decision attempts :=
  ⟨by decide +kernel, by decide, (Recorder.performAll_recalls []).2.2.1 _ _ _⟩

end ClusterHealth
