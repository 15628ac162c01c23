import ClusterHealth.Proofs.Journal

/-!
# `ClusterHealth.Proofs.Attempts` — a read, attempt by attempt

A read is issued again after a failed attempt if its retry policy grants that. The verdict of a check is
read off the recorder of that policy, so the recorder has to tell at which level the attempt was issued
that returned the rows. It does, as long as every failed attempt is handed to the policy as it was made.

## Contents
- `AttemptScript.Faithful`, `ReadScript.Faithful`: attempts are reported as they were made.
- `Underway`: the invariant of a read between two attempts, kept by a retry (`Underway.retry`).
- `attemptAll_spec`, `read_spec`: at most two attempts, and what the recorder tells after them.
-/

namespace ClusterHealth

open ClusterHealth.Cql ClusterHealth.Retry ClusterHealth.Machine

/-! ## Faithful drivers -/

namespace Cluster

/-- A failed attempt that is reported with the level and the number of retries that it had. -/
structure AttemptScript.Faithful (s : AttemptScript) : Prop where
  level : s.level = none
  retries : s.retries = none

/-- A read of which each failed attempt is reported as it was made. Fetching its trace may fail, but not
with a failure that only the store itself can make. -/
structure ReadScript.Faithful (s : ReadScript) : Prop where
  attempts : ∀ a ∈ s.attempts, a.Faithful
  trace : ∀ e, s.trace = .failing e → e.isStore = false

theorem ReadScript.plain_faithful : ReadScript.plain.Faithful :=
  ⟨fun _ ha => absurd ha List.not_mem_nil, fun _ he => nomatch he⟩

end Cluster

/-! ## The recorder between two attempts -/

namespace Retry

/-- What a recorder tells about a read that was requested at one level and is under way at another: the
downgrade from the one to the other, or nothing if they are the same. -/
def Recorder.Tells (r : Recorder) (requested level : Level) : Prop :=
  match r.last with
  | none => level = requested
  | some d => d.requested = requested ∧ d.granted = level ∧ level ≠ requested

/-- The invariant of a read whose next attempt is issued at `level` after so many retries. -/
structure Underway (requested level : Level) (retries : Nat) (r : Recorder) : Prop where
  few : retries ≤ 1
  first : retries = 0 → level = requested ∧ r.last = none
  tells : r.Tells requested level

theorem Underway.start (requested : Level) : Underway requested requested 0 .fresh :=
  ⟨Nat.zero_le 1, fun _ => ⟨rfl, rfl⟩, rfl⟩

theorem FailedAttempt.verdict_of_retried {a : FailedAttempt} (h : 0 < a.retries) :
    a.verdict = .rethrow := by
  unfold FailedAttempt.verdict
  rw [if_pos h]

/-- **One retry.** Only a first attempt is retried, and then the recorder tells at which level. -/
theorem Underway.retry {requested level next : Level} {retries : Nat} {r : Recorder} {a : FailedAttempt}
    (h : Underway requested level retries r) (hl : a.level = level) (hr : a.retries = retries)
    (hv : a.verdict = .retry next) : retries = 0 ∧ Underway requested next 1 (r.handle a).1 := by
  -- A second attempt is never granted a third.
  have hzero : retries = 0 := by
    by_cases hpos : 0 < retries
    · have hrethrow := FailedAttempt.verdict_of_retried (a := a) (by rw [hr]; exact Int.natCast_pos.2 hpos)
      rw [hrethrow] at hv
      exact absurd hv (by simp)
    · exact Nat.eq_zero_of_not_pos hpos
  obtain ⟨hsame, hlast⟩ := h.first hzero
  refine ⟨hzero, Nat.le_refl 1, fun hone => absurd hone (by simp), ?_⟩
  unfold Recorder.Tells
  rw [Recorder.handle_last, hlast, Option.none_or]
  unfold FailedAttempt.downgrade?
  simp only [hv, hl]
  -- At the same level the recorder still has nothing to tell, at another it has its first downgrade.
  by_cases hnext : next = level
  · rw [if_pos hnext]
    exact hnext.trans hsame
  · rw [if_neg hnext]
    exact ⟨hsame, rfl, fun h => hnext (h.trans hsame.symm)⟩

end Retry

/-! ## All attempts of a read -/

namespace Machine

/-- Several reports go to the journal in order and change nothing else. -/
theorem forM_report_apply (notices : List Notice) (m : Machine) :
    (notices.forM report m).2 = { m with journal := m.journal ++ notices.map .notice } := by
  induction notices generalizing m with
  | nil => rw [List.map_nil, List.append_nil]; rfl
  | cons n rest ih =>
    show (rest.forM report { m with journal := m.journal ++ [.notice n] }).2 = _
    rw [ih, List.append_assoc]
    rfl

theorem attemptLevels_append (xs ys : List Event) :
    attemptLevels (xs ++ ys) = attemptLevels xs ++ attemptLevels ys :=
  List.filterMap_append

theorem attemptLevels_eq_nil {events : List Event} (h : ∀ e ∈ events, e.attempt? = none) :
    attemptLevels events = [] :=
  List.filterMap_eq_nil_iff.2 h

theorem attemptLevels_notices (notices : List Notice) : attemptLevels (notices.map .notice) = [] := by
  apply attemptLevels_eq_nil
  intro e he
  obtain ⟨n, -, rfl⟩ := List.mem_map.1 he
  rfl

end Machine

namespace Cluster

variable {scripts rest : List AttemptScript} {script : AttemptScript} {requested level : Level}
  {retries : Nat} {r r' : Recorder} {m m' : Machine}

/-- The machine after a failed attempt was handed to the recorder. -/
def handled (r : Recorder) (a : FailedAttempt) (m : Machine) : Machine :=
  { m with journal := m.journal ++ ((r.handle a).2.map .notice ++ [.call (answerOf a.verdict)]) }

theorem attemptAll_cons : attemptAll (script :: rest) level retries r m =
    match (script.attempt level retries).verdict with
    | .retry next =>
      attemptAll rest next (retries + 1) (r.handle (script.attempt level retries)).1
        (handled r (script.attempt level retries) m)
    | .rethrow =>
      (((r.handle (script.attempt level retries)).1,
        .error (.reported (failureOf (script.attempt level retries)))),
        handled r (script.attempt level retries) m) := by
  -- The verdict decides between two actions, here moved to where they are run.
  have hmatch : ∀ (v : Verdict) (m₁ : Machine),
      (match v with
        | .retry next => attemptAll rest next (retries + 1) (r.handle (script.attempt level retries)).1
        | .rethrow => pure ((r.handle (script.attempt level retries)).1,
            .error (.reported (failureOf (script.attempt level retries))))) m₁
      = match v with
        | .retry next => attemptAll rest next (retries + 1) (r.handle (script.attempt level retries)).1 m₁
        | .rethrow => (((r.handle (script.attempt level retries)).1,
            .error (.reported (failureOf (script.attempt level retries)))), m₁) := by
    intro v m₁
    cases v <;> rfl
  have hreports : (observe (.call (answerOf (script.attempt level retries).verdict))
      (((r.handle (script.attempt level retries)).2.forM report m).2)).2
      = handled r (script.attempt level retries) m := by
    rw [forM_report_apply, handled, ← List.append_assoc]
    rfl
  rw [← hreports, ← hmatch]
  rfl

/-- **The attempts of a read.** Not more than one is issued again, and if the read goes through them all,
the recorder tells the level of the last. -/
theorem attemptAll_spec {result : Except Failure Unit} (hs : ∀ s ∈ scripts, s.Faithful)
    (hu : Underway requested level retries r)
    (h : attemptAll scripts level retries r m = ((r', result), m')) :
    ∃ events, m'.journal = m.journal ++ events ∧ retries + (attemptLevels events).length ≤ 1
      ∧ (result = .ok () → r'.Tells requested ((attemptLevels events).getLast?.getD level)) := by
  induction scripts generalizing level retries r m with
  | nil =>
    obtain ⟨hrr, rfl⟩ := Prod.mk.inj h
    obtain ⟨rfl, rfl⟩ := Prod.mk.inj hrr
    exact ⟨[], (List.append_nil _).symm, hu.few, fun _ => hu.tells⟩
  | cons script rest ih =>
    obtain ⟨hlevel, hretries⟩ := hs script List.mem_cons_self
    generalize ha : script.attempt level retries = a at *
    have hal : a.level = level := by rw [← ha]; unfold AttemptScript.attempt; rw [hlevel]; rfl
    have har : a.retries = retries := by rw [← ha]; unfold AttemptScript.attempt; rw [hretries]; rfl
    rw [attemptAll_cons, ha] at h
    cases hv : a.verdict with
    | retry next =>
      rw [hv] at h
      obtain ⟨rfl, hu'⟩ := hu.retry hal har hv
      obtain ⟨events, hj, hfew, htells⟩ :=
        ih (fun s hm => hs s (List.mem_cons_of_mem script hm)) hu' h
      -- The retry was the only one that is allowed, so the rest of the read has no attempt of its own.
      have hnone : attemptLevels events = [] := List.eq_nil_of_length_eq_zero (by omega)
      refine ⟨((r.handle a).2.map .notice ++ [.call (answerOf a.verdict)]) ++ events, ?_, ?_, ?_⟩
      · rw [hj]
        exact List.append_assoc _ _ _
      all_goals rw [attemptLevels_append, attemptLevels_append, attemptLevels_notices, hnone, hv]
      · exact Nat.le_refl 1
      · rw [hnone] at htells
        exact htells
    | rethrow =>
      rw [hv] at h
      obtain ⟨hrr, rfl⟩ := Prod.mk.inj h
      obtain ⟨rfl, rfl⟩ := Prod.mk.inj hrr
      refine ⟨_, rfl, ?_, fun h => nomatch h⟩
      rw [attemptLevels_append, attemptLevels_notices, hv]
      exact hu.few

/-! ## A whole read -/

/-- What a read gives whose attempts are over, when so many keys are found. -/
def ReadScript.answer (script : ReadScript) (found : List Value) : Except Failure (List Value) :=
  if script.terminated then .error (.terminated 15)
  else
    match script.failure, script.lateFailure with
    | some e, _ => .error e
    | none, some e => .error e
    | none, none => .ok ((script.rows.getD found).map row)

theorem rowsOfScript_apply (q : Query) (script : ReadScript) (m : Machine) :
    rowsOfScript q script m = (script.answer (m.cluster.rowsOf q), m) := by
  unfold rowsOfScript ReadScript.answer
  split
  · rfl
  · cases script.failure with
    | some e => rfl
    | none => cases script.lateFailure <;> rfl

/-- The machine when a query was sent. -/
def sent (q : Query) (m : Machine) : Machine :=
  { m with journal := m.journal ++ [.query q], cluster := m.cluster.nextStatement.2 }

/-- The machine when the script of a read was taken. -/
def taken (m : Machine) : Machine :=
  { m with cluster := m.cluster.nextRead.2 }

/-- What comes of a read after its attempts. -/
def afterAttempts (q : Query) (script : ReadScript) :
    (Recorder × Except Failure Unit) × Machine →
      (Recorder × Except Failure (List Value × TraceScript)) × Machine
  | ((r, .error e), m) => ((r, .error e), m)
  | ((r, .ok ()), m) => ((r, (script.answer (m.cluster.rowsOf q)).map (·, script.trace)), m)

/-- A read fails at once, or goes through the attempts of its script. -/
theorem read_apply (q : Query) (r : Recorder) (m : Machine) : Cluster.read q r m =
    match m.cluster.nextStatement.1 with
    | some e => ((r, .error e), sent q m)
    | none =>
      afterAttempts q (sent q m).cluster.nextRead.1
        (attemptAll (sent q m).cluster.nextRead.1.attempts q.level 0 r (taken (sent q m))) := by
  unfold Cluster.read
  rw [Action.step_bind_apply, Action.step_bind_apply]
  have hnext : onCluster Cluster.nextStatement (observe (.query q) m).2
    = (m.cluster.nextStatement.1, sent q m) := rfl
  rw [hnext]
  cases m.cluster.nextStatement.1 with
  | some e => rfl
  | none =>
    have hread : onCluster Cluster.nextRead (sent q m)
      = ((sent q m).cluster.nextRead.1, taken (sent q m)) := rfl
    simp only
    rw [Action.step_bind_apply, hread, Action.step_bind_apply]
    rcases attemptAll (sent q m).cluster.nextRead.1.attempts q.level 0 r (taken (sent q m))
      with ⟨⟨r', e | _⟩, m'⟩
    · rfl
    · have hrows := rowsOfScript_apply q (sent q m).cluster.nextRead.1 m'
      simp only
      rw [Action.step_bind_apply]
      show ((r', (rowsOfScript q (sent q m).cluster.nextRead.1 m').1.map (·, _)),
        (rowsOfScript q (sent q m).cluster.nextRead.1 m').2) = _
      rw [hrows]
      rfl

theorem nextRead_faithful {c : Cluster} (hf : ∀ s ∈ c.reads, s.Faithful) : c.nextRead.1.Faithful := by
  unfold nextRead
  split
  · exact ReadScript.plain_faithful
  · next script rest hreads =>
    rw [hreads] at hf
    exact hf script List.mem_cons_self

/-- **A read.** The first attempt is issued at the level of the query, and at most one more; the recorder
of a read that returns rows tells the level of the last attempt. -/
theorem read_spec {q : Query} {answer : Except Failure (List Value × TraceScript)}
    (hf : ∀ s ∈ m.cluster.reads, s.Faithful) (h : Cluster.read q .fresh m = ((r', answer), m')) :
    ∃ events levels, m'.journal = m.journal ++ events ∧ attemptLevels events = q.level :: levels
      ∧ levels.length ≤ 1
      ∧ ∀ rows trace, answer = .ok (rows, trace) →
          r'.Tells q.level (levels.getLast?.getD q.level) ∧ ∀ e, trace = .failing e → e.isStore = false := by
  rw [read_apply] at h
  split at h
  · -- the query itself failed, and with it the only attempt
    obtain ⟨hra, rfl⟩ := Prod.mk.inj h
    obtain ⟨-, rfl⟩ := Prod.mk.inj hra
    exact ⟨[.query q], [], rfl, rfl, Nat.zero_le 1, fun _ _ h => nomatch h⟩
  · have hscript : (sent q m).cluster.nextRead.1.Faithful := nextRead_faithful hf
    rcases ha : attemptAll (sent q m).cluster.nextRead.1.attempts q.level 0 .fresh (taken (sent q m))
      with ⟨⟨r₁, result⟩, m₁⟩
    obtain ⟨events, hj, hfew, htells⟩ :=
      attemptAll_spec hscript.attempts (Underway.start q.level) ha
    have hj' : m₁.journal = m.journal ++ (.query q :: events) := hj.trans (List.append_assoc _ _ _)
    rw [ha] at h
    refine ⟨.query q :: events, attemptLevels events, ?_, rfl, by omega, ?_⟩
    · cases result with
      | error e =>
        obtain ⟨-, rfl⟩ := Prod.mk.inj h
        exact hj'
      | ok u =>
        obtain ⟨-, rfl⟩ := Prod.mk.inj h
        exact hj'
    · intro rows trace hok
      cases result with
      | error e =>
        obtain ⟨hra, -⟩ := Prod.mk.inj h
        obtain ⟨-, rfl⟩ := Prod.mk.inj hra
        exact absurd hok (by simp)
      | ok u =>
        obtain ⟨hra, -⟩ := Prod.mk.inj h
        obtain ⟨rfl, hanswer⟩ := Prod.mk.inj hra
        rw [hok] at hanswer
        refine ⟨htells rfl, ?_⟩
        intro e he
        rcases hrows : (sent q m).cluster.nextRead.1.answer (m₁.cluster.rowsOf q) with e' | keys
        · rw [hrows] at hanswer
          exact absurd hanswer (by simp [Except.map])
        · rw [hrows] at hanswer
          have htrace : (sent q m).cluster.nextRead.1.trace = trace :=
            congrArg Prod.snd (Except.ok.inj hanswer)
          exact hscript.trace e (htrace.trans he)

end Cluster

end ClusterHealth
