import ClusterHealth.Check
import ClusterHealth.Proofs.Action

/-!
# `ClusterHealth.Proofs.Check` — the ways through a check

A check that returns a report came one of three ways: it got no snapshot, it could not bring the keyspace
into its place, or it made its read. These are stated once here, over any store, with all that is known on
each of them.

## Contents
- `describe_apply`, `reconcile_apply`: what is found, and the plan carried out.
- `reconcile_eq_ok`: a reconciliation that went well found the keyspace and carried out the plan.
- `Probe.run_apply`, `probe_apply`: what a read leaves for the verdict.
- `run_apply`, `run_eq_ok`: the three ways.
-/

namespace ClusterHealth

open ClusterHealth.Retry

variable {σ : Type} {store : Store σ} {names : Schema.Names} {snapshot : Topology.Snapshot} {s s' : σ}

namespace Schema

/-- The number of copies that the answer to a lookup tells of, if it tells of a keyspace. -/
def copiesIn : Option Replication.Options → Except Failure (Option Int)
  | none => .ok none
  | some options =>
    match Replication.ofOptions options with
    | .ok replication => .ok (some replication.factor)
    | .error issues => .error (.invalid issues)

/-- Metadata that are found may be not valid, and nothing else can be wrong with them. -/
theorem copiesIn_eq_error {options : Option Replication.Options} {e : Failure}
    (h : copiesIn options = .error e) :
    ∃ found issues, options = some found ∧ Replication.ofOptions found = .error issues ∧ e = .invalid issues := by
  unfold copiesIn at h
  split at h
  · cases h
  · next found =>
    split at h
    · cases h
    · next issues hissues => exact ⟨found, issues, rfl, hissues, (Except.error.inj h).symm⟩

theorem describe_apply (store : Store σ) (n : Names) (s : σ) : describe store n s =
    match store.replication n.keyspace s with
    | (.error e, s₁) => (.error e, s₁)
    | (.ok options, s₁) => (copiesIn options, s₁) := by
  unfold describe
  rcases h : store.replication n.keyspace s with ⟨e | options, s₁⟩
  · rw [Action.bind_of_error h]
  · rw [Action.bind_of_ok h]
    cases options with
    | none => rfl
    | some options =>
      cases ho : Replication.ofOptions options with
      | ok replication =>
        simp only [copiesIn, ho]
        rfl
      | error issues =>
        simp only [copiesIn, ho]
        rfl

theorem reconcile_apply (store : Store σ) (n : Names) (snapshot : Topology.Snapshot) (s : σ) :
    reconcile store n snapshot s =
      match describe store n s with
      | (.error e, s₁) => (.error e, s₁)
      | (.ok found, s₁) =>
        match executeAll store (plan n found snapshot.size)
          (store.report (planNotice n found snapshot.size) s₁).2 with
        | (.error e, s₂) => (.error e, s₂)
        | (.ok (), s₂) => (.ok snapshot.size, s₂) := by
  unfold reconcile
  rcases h : describe store n s with ⟨e | found, s₁⟩
  · rw [Action.bind_of_error h]
  · rw [Action.bind_of_ok h]
    show (executeAll store (plan n found snapshot.size) >>= fun _ => pure (snapshot.size : Int))
      (store.report (planNotice n found snapshot.size) s₁).2 = _
    rcases hx : executeAll store (plan n found snapshot.size)
      (store.report (planNotice n found snapshot.size) s₁).2 with ⟨e | ⟨⟩, s₂⟩
    · rw [Action.bind_of_error hx]
      simp only [hx]
    · rw [Action.bind_of_ok hx]
      simp only [hx]
      rfl

/-- A keyspace that does not have as many copies as wanted is made. -/
theorem createKeyspace_mem_plan {found : Option Int} {wanted : Int} (h : found ≠ some wanted) :
    .createKeyspace names.keyspace wanted ∈ plan names found wanted := by
  cases found with
  | none => exact List.mem_cons_self
  | some factor =>
    have hne : factor ≠ wanted := fun hf => h (congrArg some hf)
    rw [show plan names (some factor) wanted = .dropKeyspace names.keyspace :: creation names wanted from
      if_neg hne]
    exact List.mem_cons_of_mem _ List.mem_cons_self

theorem reconcile_eq_ok {size : Int} (h : reconcile store names snapshot s = (.ok size, s')) :
    size = snapshot.size ∧ ∃ found s₁, describe store names s = (.ok found, s₁) ∧
      executeAll store (plan names found snapshot.size)
        (store.report (planNotice names found snapshot.size) s₁).2 = (.ok (), s') := by
  obtain ⟨found, s₁, hfound, h⟩ := Action.bind_eq_ok h
  have h : (executeAll store (plan names found snapshot.size) >>= fun _ => pure (snapshot.size : Int))
      (store.report (planNotice names found snapshot.size) s₁).2 = (.ok size, s') := h
  obtain ⟨⟨⟩, s₂, hexecute, h⟩ := Action.bind_eq_ok h
  obtain ⟨hsize, rfl⟩ := Prod.mk.inj h
  exact ⟨(Except.ok.inj hsize).symm, found, s₁, hfound, hexecute⟩

end Schema

namespace Probe

/-- The time from one state to another, by the clock of the store. -/
def latency (store : Store σ) (s s' : σ) : Number.Binary64 :=
  elapsed (store.clock s).1 (store.clock s').1

/-- A read is served, fails in the store, or fails otherwise. -/
theorem run_apply (store : Store σ) (p : Probe) (s : σ) : p.run store s =
    match store.read p.query .fresh (store.clock s).2 with
    | ((recorder, .ok reading), s₁) =>
      ((⟨p.names, recorder⟩, .ok ⟨.ok reading, recorder.last, latency store s s₁⟩),
        (store.reportAll (p.notices reading (latency store s s₁)) (store.clock s₁).2).2)
    | ((recorder, .error e), s₁) =>
      if e.isStore then
        ((⟨p.names, recorder⟩, .ok ⟨.error e, recorder.last, latency store s s₁⟩), (store.clock s₁).2)
      else ((⟨p.names, recorder⟩, .error e), s₁) := by
  unfold run
  rw [Action.step_bind_apply, Action.step_bind_apply]
  rcases store.read p.query .fresh (store.clock s).2 with ⟨⟨recorder, e | reading⟩, s₁⟩
  · by_cases he : e.isStore = true
    · simp only [if_pos he]
      rfl
    · simp only [if_neg he]
      rfl
  · rfl

end Probe

namespace Check

/-- What is left of a check when its read led to an outcome. -/
theorem probe_apply (store : Store σ) (names : Schema.Names) (snapshot : Topology.Snapshot) (s : σ) :
    probe store names snapshot s =
      match (Probe.ofNames names).run store s with
      | ((_, .ok o), s₁) =>
        (.ok (verdict snapshot o).1, (store.reportAll (verdict snapshot o).2 s₁).2)
      | ((_, .error e), s₁) => (.error e, s₁) := by
  unfold probe
  rw [Action.lift_bind_apply]
  rcases (Probe.ofNames names).run store s with ⟨⟨p, e | o⟩, s₁⟩ <;> rfl

theorem reportAll_append (store : Store σ) (xs ys : List Notice) (s : σ) :
    (store.reportAll (xs ++ ys) s).2 = (store.reportAll ys (store.reportAll xs s).2).2 := by
  induction xs generalizing s with
  | nil => rfl
  | cons n xs ih => exact ih (store.report n s).2

/-- What is made of a failure before the read: a report of an unreachable cluster, or the end of the check. -/
def givenUp (store : Store σ) (e : Failure) (snapshot : Option Topology.Snapshot) (s : σ) :
    Except Failure Report × σ :=
  if e.isStore then
    (.ok (unreachableReport e snapshot .zero), (store.report (unreachableNotice e) s).2)
  else (.error e, s)

theorem givenUp_eq_ok {e : Failure} {snapshot : Option Topology.Snapshot} {r : Report}
    (h : givenUp store e snapshot s = (.ok r, s')) : e.isStore = true
      ∧ r = unreachableReport e snapshot .zero ∧ s' = (store.report (unreachableNotice e) s).2 := by
  unfold givenUp at h
  split at h
  · next he =>
    obtain ⟨hr, rfl⟩ := Prod.mk.inj h
    exact ⟨he, (Except.ok.inj hr).symm, rfl⟩
  · exact nomatch (congrArg Prod.fst h)

theorem run_apply (store : Store σ) (names : Schema.Names) (s : σ) : run store names s =
    match takeSnapshot store s with
    | (.error e, s₁) => givenUp store e none s₁
    | (.ok snapshot, s₁) =>
      match Schema.reconcile store names.folded snapshot s₁ with
      | (.error e, s₂) => givenUp store e (some snapshot) s₂
      | (.ok _, s₂) => probe store names snapshot s₂ := by
  have hfailed : ∀ e snapshot s₁,
      (if e.isStore then unreachable store e snapshot else throw e) s₁ = givenUp store e snapshot s₁ := by
    intro e snapshot s₁
    unfold givenUp
    by_cases he : e.isStore = true
    · rw [if_pos he, if_pos he]
      rfl
    · rw [if_neg he, if_neg he]
      rfl
  unfold run
  rw [Action.bind_of_ok (Action.outcome_apply _ s)]
  rcases takeSnapshot store s with ⟨e | snapshot, s₁⟩
  · exact hfailed e none s₁
  · simp only
    rw [Action.bind_of_ok (Action.outcome_apply _ s₁)]
    rcases Schema.reconcile store names.folded snapshot s₁ with ⟨e | size, s₂⟩
    · exact hfailed e (some snapshot) s₂
    · rfl

/-- A check whose read led to a report: the verdict on what the read returned and what was recorded. -/
theorem probe_eq_ok {r : Report} (h : probe store names snapshot s = (.ok r, s')) :
    ∃ recorder result s₁ latency notices,
      store.read (Probe.ofNames names).query .fresh (store.clock s).2 = ((recorder, result), s₁)
      ∧ (∀ e, result = .error e → e.isStore = true)
      ∧ r = (verdict snapshot ⟨result, recorder.last, latency⟩).1
      ∧ s' = (store.reportAll notices (store.clock s₁).2).2 := by
  rw [probe_apply, Probe.run_apply] at h
  rcases hread : store.read (Probe.ofNames names).query .fresh (store.clock s).2
    with ⟨⟨recorder, e | reading⟩, s₁⟩
  · rw [hread] at h
    -- Only a failure of the store becomes a report.
    by_cases he : e.isStore = true
    · simp only [if_pos he] at h
      obtain ⟨hr, rfl⟩ := Prod.mk.inj h
      refine ⟨recorder, .error e, s₁, _, _, rfl, ?_, (Except.ok.inj hr).symm, rfl⟩
      intro e' he'
      rw [← Except.error.inj he']
      exact he
    · simp only [if_neg he] at h
      exact nomatch (congrArg Prod.fst h)
  · rw [hread] at h
    obtain ⟨hr, rfl⟩ := Prod.mk.inj h
    refine ⟨recorder, .ok reading, s₁, Probe.latency store s s₁, _, rfl, ?_, (Except.ok.inj hr).symm,
      (reportAll_append store _ _ _).symm⟩
    exact fun e he => nomatch he

/-- **The ways through a check.** A report was made without a snapshot, without a keyspace in place, or
after the read. -/
theorem run_eq_ok {r : Report} (h : run store names s = (.ok r, s')) :
    (∃ e s₁, takeSnapshot store s = (.error e, s₁) ∧ e.isStore = true
        ∧ r = unreachableReport e none .zero ∧ s' = (store.report (unreachableNotice e) s₁).2)
      ∨ ∃ snapshot s₁, takeSnapshot store s = (.ok snapshot, s₁)
        ∧ ((∃ e s₂, Schema.reconcile store names.folded snapshot s₁ = (.error e, s₂) ∧ e.isStore = true
              ∧ r = unreachableReport e (some snapshot) .zero
              ∧ s' = (store.report (unreachableNotice e) s₂).2)
          ∨ ∃ size s₂, Schema.reconcile store names.folded snapshot s₁ = (.ok size, s₂)
              ∧ probe store names snapshot s₂ = (.ok r, s')) := by
  rw [run_apply] at h
  rcases hsnap : takeSnapshot store s with ⟨e | snapshot, s₁⟩
  · rw [hsnap] at h
    exact .inl ⟨e, s₁, rfl, givenUp_eq_ok h⟩
  · rw [hsnap] at h
    refine .inr ⟨snapshot, s₁, rfl, ?_⟩
    simp only at h
    rcases hrec : Schema.reconcile store names.folded snapshot s₁ with ⟨e | size, s₂⟩
    · rw [hrec] at h
      exact .inl ⟨e, s₂, rfl, givenUp_eq_ok h⟩
    · rw [hrec] at h
      exact .inr ⟨size, s₂, rfl, h⟩

end Check

end ClusterHealth
