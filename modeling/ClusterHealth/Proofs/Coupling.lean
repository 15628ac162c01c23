import ClusterHealth.Check
import ClusterHealth.Proofs.Action

/-!
# `ClusterHealth.Proofs.Coupling` — two runs side by side

To show that something makes no difference to a run, the run is made twice, once with it and once without.
Two actions are *coupled* if they give the same result in states that are related, and leave related states
behind. Coupling is passed on by every combinator, so a whole check is coupled if the calls of its store are.

## Contents
- `Coupled R`: its rules, one for each way to combine actions.
- `Agree R`, `CoupledUpTo S R`: the same for results that are related.
- `Store.Coupled R`: the calls of two stores are coupled.
- `Check.run_coupled_of_probe`, `Check.run_coupled`: so are the checks over them.
-/

namespace ClusterHealth

open ClusterHealth.Retry

/-! ## Coupled actions -/

/-- Two actions that give the same result in related states, and leave related states behind. -/
def Coupled {σ τ α : Type} (R : σ → τ → Prop) (x : StateM σ α) (y : StateM τ α) : Prop :=
  ∀ s t, R s t → (x s).1 = (y t).1 ∧ R (x s).2 (y t).2

namespace Coupled

variable {σ τ α β : Type} {R : σ → τ → Prop}

theorem pure (a : α) : Coupled R (Pure.pure a : StateM σ α) (Pure.pure a : StateM τ α) :=
  fun _ _ h => ⟨rfl, h⟩

theorem throw (e : Failure) :
    Coupled R (MonadExcept.throw e : Action σ α) (MonadExcept.throw e : Action τ α) :=
  fun _ _ h => ⟨rfl, h⟩

theorem bind {x : StateM σ α} {y : StateM τ α} {f : α → StateM σ β} {g : α → StateM τ β}
    (hx : Coupled R x y) (hf : ∀ a, Coupled R (f a) (g a)) : Coupled R (x >>= f) (y >>= g) := by
  intro s t h
  obtain ⟨hsame, hR⟩ := hx s t h
  rw [Action.step_bind_apply, Action.step_bind_apply, hsame]
  exact hf _ _ _ hR

/-- Actions after coupled ones; neither is begun if the first fail. -/
theorem andThen {x : Action σ α} {y : Action τ α} {f : α → Action σ β} {g : α → Action τ β}
    (hx : Coupled R x y) (hf : ∀ a, Coupled R (f a) (g a)) :
    Coupled R (x >>= f : Action σ β) (y >>= g : Action τ β) := by
  intro s t h
  obtain ⟨hsame, hR⟩ := hx s t h
  -- Both fail or neither does, since their results are the same.
  rcases hxs : x s with ⟨e | a, s₁⟩
  · rcases hyt : y t with ⟨e' | b, t₁⟩
    · rw [hxs, hyt] at hsame hR
      rw [Action.bind_of_error hxs, Action.bind_of_error hyt]
      exact ⟨congrArg Except.error (Except.error.inj hsame), hR⟩
    · rw [hxs, hyt] at hsame
      exact nomatch hsame
  · rcases hyt : y t with ⟨e' | b, t₁⟩
    · rw [hxs, hyt] at hsame
      exact nomatch hsame
    · rw [hxs, hyt] at hsame hR
      obtain rfl : a = b := Except.ok.inj hsame
      rw [Action.bind_of_ok hxs, Action.bind_of_ok hyt]
      exact hf a s₁ t₁ hR

theorem lift {x : StateM σ α} {y : StateM τ α} (h : Coupled R x y) :
    Coupled R (ExceptT.lift x : Action σ α) (ExceptT.lift y : Action τ α) := by
  intro s t hR
  obtain ⟨hsame, hR'⟩ := h s t hR
  exact ⟨congrArg Except.ok hsame, hR'⟩

theorem outcome {x : Action σ α} {y : Action τ α} (h : Coupled R x y) : Coupled R x.outcome y.outcome := by
  intro s t hR
  obtain ⟨hsame, hR'⟩ := h s t hR
  exact ⟨congrArg Except.ok hsame, hR'⟩

theorem handle {x : Action σ α} {y : Action τ α} {caught : Failure → Bool} {f : Failure → Action σ α}
    {g : Failure → Action τ α} (hx : Coupled R x y) (hf : ∀ e, Coupled R (f e) (g e)) :
    Coupled R (x.handle caught f) (y.handle caught g) := by
  unfold Action.handle
  refine andThen (outcome hx) fun result => ?_
  cases result with
  | ok a => exact pure _
  | error e =>
    by_cases he : caught e = true
    · simp only [if_pos he]
      exact hf e
    · simp only [if_neg he]
      exact throw e

theorem wrappingTransport {x : Action σ α} {y : Action τ α} (h : Coupled R x y) :
    Coupled R x.wrappingTransport y.wrappingTransport := by
  unfold Action.wrappingTransport
  refine andThen (outcome h) fun result => ?_
  cases result with
  | ok a => exact pure _
  | error e => exact throw _

theorem forM {f : α → StateM σ PUnit} {g : α → StateM τ PUnit} (hf : ∀ a, Coupled R (f a) (g a))
    (xs : List α) : Coupled R (xs.forM f) (xs.forM g) := by
  induction xs with
  | nil => exact pure _
  | cons a xs ih => exact bind (hf a) fun _ => ih

/-- Coupled actions one after the other, up to the first that fails. -/
theorem forEach {f : α → Action σ PUnit} {g : α → Action τ PUnit} (hf : ∀ a, Coupled R (f a) (g a))
    (xs : List α) : Coupled R (xs.forM f : Action σ PUnit) (xs.forM g : Action τ PUnit) := by
  induction xs with
  | nil => exact fun _ _ h => ⟨rfl, h⟩
  | cons a xs ih => exact andThen (hf a) fun _ => ih

end Coupled

/-- Results that are the same failure, or results that are related. -/
inductive Agree {ε α β : Type} (R : α → β → Prop) : Except ε α → Except ε β → Prop
  | error (e : ε) : Agree R (.error e) (.error e)
  | ok {a : α} {b : β} (related : R a b) : Agree R (.ok a) (.ok b)

/-- Two steps that give related results in related states, and leave related states behind. -/
def CoupledUpTo {σ τ α β : Type} (S : α → β → Prop) (R : σ → τ → Prop) (x : StateM σ α) (y : StateM τ β) :
    Prop :=
  ∀ s t, R s t → S (x s).1 (y t).1 ∧ R (x s).2 (y t).2

namespace CoupledUpTo

variable {σ τ α β γ δ : Type} {R : σ → τ → Prop} {S : α → β → Prop} {T : γ → δ → Prop}

theorem pure {a : α} {b : β} (h : S a b) : CoupledUpTo S R (Pure.pure a : StateM σ α) (Pure.pure b : StateM τ β) :=
  fun _ _ hR => ⟨h, hR⟩

theorem bind {x : StateM σ α} {y : StateM τ β} {f : α → StateM σ γ} {g : β → StateM τ δ}
    (hx : CoupledUpTo S R x y) (hf : ∀ a b, S a b → CoupledUpTo T R (f a) (g b)) :
    CoupledUpTo T R (x >>= f) (y >>= g) := by
  intro s t h
  obtain ⟨hS, hR⟩ := hx s t h
  rw [Action.step_bind_apply, Action.step_bind_apply]
  exact hf _ _ hS _ _ hR

theorem of_coupled {x : StateM σ α} {y : StateM τ α} (h : Coupled R x y) : CoupledUpTo Eq R x y :=
  h

/-- What follows steps that give the same. -/
theorem after {x : StateM σ α} {y : StateM τ α} {f : α → StateM σ γ} {g : α → StateM τ δ}
    (hx : Coupled R x y) (hf : ∀ a, CoupledUpTo T R (f a) (g a)) : CoupledUpTo T R (x >>= f) (y >>= g) := by
  refine bind (of_coupled hx) ?_
  rintro a _ rfl
  exact hf a

end CoupledUpTo

/-! ## Coupled stores -/

/-- Each call of one store is coupled with that of another, the read apart. -/
structure Store.Coupled {σ τ : Type} (R : σ → τ → Prop) (store : Store σ) (other : Store τ) : Prop where
  hosts : ClusterHealth.Coupled R store.hosts other.hosts
  replication : ∀ keyspace, ClusterHealth.Coupled R (store.replication keyspace) (other.replication keyspace)
  execute : ∀ r, ClusterHealth.Coupled R (store.execute r) (other.execute r)
  report : ∀ n, ClusterHealth.Coupled R (store.report n) (other.report n)
  clock : ClusterHealth.Coupled R store.clock other.clock

section Checks

variable {σ τ : Type} {R : σ → τ → Prop} {store : Store σ} {other : Store τ}

theorem Store.Coupled.reportAll (h : store.Coupled R other) (notices : List Notice) :
    ClusterHealth.Coupled R (store.reportAll notices) (other.reportAll notices) :=
  ClusterHealth.Coupled.forM h.report notices

theorem Schema.describe_coupled (h : store.Coupled R other) (names : Names) :
    Coupled R (describe store names) (describe other names) := by
  unfold describe
  refine Coupled.andThen (h.replication names.keyspace) fun options => ?_
  cases options with
  | none => exact Coupled.pure _
  | some options =>
    cases hr : Replication.ofOptions options with
    | ok replication => simp only [hr]; exact Coupled.pure _
    | error issues => simp only [hr]; exact Coupled.throw _

theorem Schema.executeAll_coupled (h : store.Coupled R other) (statements : List Cql.Statement) :
    Coupled R (executeAll store statements) (executeAll other statements) :=
  Coupled.forEach (f := fun s => store.execute s.request) (g := fun s => other.execute s.request)
    (fun s => h.execute s.request) statements

theorem Schema.reconcile_coupled (h : store.Coupled R other) (names : Names)
    (snapshot : Topology.Snapshot) :
    Coupled R (reconcile store names snapshot) (reconcile other names snapshot) := by
  unfold reconcile
  refine Coupled.andThen (describe_coupled h names) fun found => ?_
  refine Coupled.andThen (Coupled.lift (h.report _)) fun _ => ?_
  exact Coupled.andThen (executeAll_coupled h _) fun _ => Coupled.pure _

theorem Probe.run_coupled (h : store.Coupled R other)
    (hread : ∀ q r, Coupled R (store.read q r) (other.read q r)) (p : Probe) :
    Coupled R (p.run store) (p.run other) := by
  unfold run
  refine Coupled.bind h.clock fun started => ?_
  refine Coupled.bind (hread p.query .fresh) fun answer => ?_
  obtain ⟨recorder, e | reading⟩ := answer
  · by_cases he : e.isStore = true
    · simp only [if_pos he]
      exact Coupled.bind h.clock fun _ => Coupled.pure _
    · simp only [if_neg he]
      exact Coupled.pure _
  · refine Coupled.bind h.clock fun ended => ?_
    exact Coupled.bind (h.reportAll _) fun _ => Coupled.pure _

namespace Check

theorem takeSnapshot_coupled (h : store.Coupled R other) :
    Coupled R (takeSnapshot store) (takeSnapshot other) := by
  unfold takeSnapshot
  refine Coupled.andThen h.hosts fun hosts => ?_
  cases Topology.Snapshot.ofNodes? (Topology.nodeNames hosts) with
  | none => exact Coupled.throw _
  | some snapshot => exact Coupled.andThen (Coupled.lift (h.report _)) fun _ => Coupled.pure _

theorem unreachable_coupled (h : store.Coupled R other) (e : Failure)
    (snapshot : Option Topology.Snapshot) :
    Coupled R (unreachable store e snapshot) (unreachable other e snapshot) :=
  Coupled.andThen (Coupled.lift (h.report _)) fun _ => Coupled.pure _

theorem probe_coupled (h : store.Coupled R other)
    (hread : ∀ q r, Coupled R (store.read q r) (other.read q r)) (names : Schema.Names)
    (snapshot : Topology.Snapshot) :
    Coupled R (probe store names snapshot) (probe other names snapshot) := by
  unfold probe
  refine Coupled.andThen (Coupled.lift (Probe.run_coupled h hread _)) fun answer => ?_
  obtain ⟨p, result⟩ := answer
  refine Coupled.andThen (fun _ _ hR => ⟨rfl, hR⟩) fun o => ?_
  obtain ⟨report, notices⟩ := verdict snapshot o
  exact Coupled.andThen (Coupled.lift (h.reportAll notices)) fun _ => Coupled.pure _

/-- Checks are coupled if what comes before the probe is, and the probe too. -/
theorem run_coupled_of_probe (h : store.Coupled R other) {names : Schema.Names}
    (hprobe : ∀ snapshot, Coupled R (probe store names snapshot) (probe other names snapshot)) :
    Coupled R (run store names) (run other names) := by
  unfold run
  refine Coupled.andThen (Coupled.outcome (takeSnapshot_coupled h)) fun taken => ?_
  cases taken with
  | error e =>
    by_cases he : e.isStore = true
    · simp only [if_pos he]
      exact unreachable_coupled h e none
    · simp only [if_neg he]
      exact Coupled.throw e
  | ok snapshot =>
    refine Coupled.andThen (Coupled.outcome (Schema.reconcile_coupled h names.folded snapshot)) fun made => ?_
    cases made with
    | error e =>
      by_cases he : e.isStore = true
      · simp only [if_pos he]
        exact unreachable_coupled h e (some snapshot)
      · simp only [if_neg he]
        exact Coupled.throw e
    | ok size => exact hprobe snapshot

/-- **Checks over coupled stores are coupled.** -/
theorem run_coupled (h : store.Coupled R other)
    (hread : ∀ q r, Coupled R (store.read q r) (other.read q r)) (names : Schema.Names) :
    Coupled R (run store names) (run other names) :=
  run_coupled_of_probe h fun snapshot => probe_coupled h hread names snapshot

end Check

end Checks

end ClusterHealth
