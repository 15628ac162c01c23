import ClusterHealth.Proofs.Check
import Mathlib.Control.Monad.Basic
import Mathlib.Logic.Function.Basic

/-!
# `ClusterHealth.Proofs.Turns` — two reconciliations that take turns

The lock of a run is that of one host, so checks of two hosts may work on one cluster at the same time. Each
of them looks the keyspace up and then sends the statements of its plan, and between any two of its calls the
other may make some of its own. Here a reconciliation is cut into its calls, and two of them are run turn by
turn, in whatever order. What comes of each side is what `Schema.reconcile` returns on a store whose state
is changed between the calls.

## Contents
- `Progress`, `Progress.step`: how far a reconciliation has come, and its next call.
- `Progress.finish`, `Progress.finish_step`: what is left of it is its next call and what is left then.
- `Side`, `Race`, `Race.run`: two sides that take turns.
- `Race.ended_of_turns`: a side that gets five turns has ended.
- `Store.amid`, `Race.run_reconcile`: a side alone, among the changes that the other makes.
-/

namespace ClusterHealth

open ClusterHealth.Cql ClusterHealth.Topology

variable {σ : Type}

namespace Schema

/-! ## One call after the other -/

/-- How far a reconciliation has come. -/
inductive Progress where
  /-- It is about to look the keyspace up. -/
  | looking
  /-- It is about to send a statement, and has others behind it. -/
  | sending (statement : Statement) (rest : List Statement)
  | ended (result : Except Failure Int)
  deriving DecidableEq

namespace Progress

/-- Before what is left of a plan for so many copies. -/
def next (wanted : Nat) : List Statement → Progress
  | [] => .ended (.ok wanted)
  | statement :: rest => .sending statement rest

/-- The next call of a reconciliation: the lookup, with the report on what was found, or a statement. -/
def step (store : Store σ) (n : Names) (wanted : Nat) : Progress → σ → Progress × σ
  | .looking, s =>
    match describe store n s with
    | (.error e, s₁) => (.ended (.error e), s₁)
    | (.ok found, s₁) =>
      (next wanted (plan n found wanted), (store.report (planNotice n found wanted) s₁).2)
  | .sending statement rest, s =>
    match store.execute statement.request s with
    | (.error e, s₁) => (.ended (.error e), s₁)
    | (.ok (), s₁) => (next wanted rest, s₁)
  | .ended result, s => (.ended result, s)

theorem step_looking (store : Store σ) (n : Names) (wanted : Nat) (s : σ) :
    looking.step store n wanted s =
      match describe store n s with
      | (.error e, s₁) => (.ended (.error e), s₁)
      | (.ok found, s₁) =>
        (next wanted (plan n found wanted), (store.report (planNotice n found wanted) s₁).2) := rfl

theorem step_sending (store : Store σ) (n : Names) (wanted : Nat) (statement : Statement)
    (rest : List Statement) (s : σ) : (sending statement rest).step store n wanted s =
      match store.execute statement.request s with
      | (.error e, s₁) => (.ended (.error e), s₁)
      | (.ok (), s₁) => (next wanted rest, s₁) := rfl

/-- What is left of a reconciliation. -/
def finish (store : Store σ) (n : Names) (snapshot : Snapshot) : Progress → Action σ Int
  | .looking => reconcile store n snapshot
  | .sending statement rest => do
    executeAll store (statement :: rest)
    return snapshot.size
  | .ended result => liftM result

theorem finish_next (store : Store σ) (n : Names) (snapshot : Snapshot) (statements : List Statement) :
    (next snapshot.size statements).finish store n snapshot = (do
      executeAll store statements
      return (snapshot.size : Int)) := by
  cases statements with
  | nil => rfl
  | cons statement rest => rfl

/-- **One call.** What is left of a reconciliation is its next call, and what is left then. -/
theorem finish_step (store : Store σ) (n : Names) (snapshot : Snapshot) (p : Progress) (s : σ) :
    p.finish store n snapshot s =
      (p.step store n snapshot.size s).1.finish store n snapshot (p.step store n snapshot.size s).2 := by
  cases p with
  | looking =>
    show reconcile store n snapshot s = _
    rw [step_looking]
    unfold reconcile
    rcases hd : describe store n s with ⟨e | found, s₁⟩
    · rw [Action.bind_of_error hd]
      rfl
    · rw [Action.bind_of_ok hd]
      simp only [finish_next]
      rfl
  | sending statement rest =>
    have hcons : finish store n snapshot (.sending statement rest) =
        (store.execute statement.request >>= fun _ => (next snapshot.size rest).finish store n snapshot) := by
      rw [finish_next]
      show (executeAll store (statement :: rest) >>= fun _ => pure (snapshot.size : Int)) = _
      rw [show executeAll store (statement :: rest)
        = (store.execute statement.request >>= fun _ => executeAll store rest) from rfl, bind_assoc]
    rw [step_sending, hcons]
    rcases hx : store.execute statement.request s with ⟨e | ⟨⟩, s₁⟩
    · rw [Action.bind_of_error hx]
      rfl
    · rw [Action.bind_of_ok hx]
  | ended result => rfl

/-- How many calls there are at most. -/
def callsLeft : Progress → Nat
  | .looking => 5
  | .sending _ rest => rest.length + 1
  | .ended _ => 0

theorem callsLeft_next (wanted : Nat) (statements : List Statement) :
    (next wanted statements).callsLeft = statements.length := by
  cases statements <;> rfl

theorem length_plan_le (n : Names) (found : Option Int) (wanted : Int) : (plan n found wanted).length ≤ 4 := by
  unfold plan
  cases found with
  | none => exact Nat.le_succ 3
  | some factor =>
    simp only
    split
    · exact Nat.zero_le 4
    · exact Nat.le_refl 4

/-- A call that was made is not left. -/
theorem callsLeft_step (store : Store σ) (n : Names) (wanted : Nat) (p : Progress) (s : σ) :
    (p.step store n wanted s).1.callsLeft ≤ p.callsLeft - 1 := by
  cases p with
  | looking =>
    rw [step_looking]
    rcases describe store n s with ⟨e | found, s₁⟩
    · exact Nat.zero_le _
    · simp only [callsLeft_next]
      exact length_plan_le n found wanted
  | sending statement rest =>
    rw [step_sending]
    rcases store.execute statement.request s with ⟨e | ⟨⟩, s₁⟩
    · exact Nat.zero_le _
    · simp only [callsLeft_next]
      exact Nat.le_refl _
  | ended result => exact Nat.le_refl _

theorem eq_ended_of_callsLeft {p : Progress} (h : p.callsLeft = 0) : ∃ result, p = .ended result := by
  cases p with
  | ended result => exact ⟨result, rfl⟩
  | looking => exact nomatch h
  | sending statement rest => exact nomatch h

end Progress

/-! ## Taking turns -/

/-- One of two hosts. -/
inductive Side where
  | left
  | right
  deriving DecidableEq, Repr

/-- The other one. -/
def Side.other : Side → Side
  | .left => .right
  | .right => .left

/-- Two reconciliations under way, and the state that they share. -/
structure Race (σ : Type) where
  state : σ
  progress : Side → Progress

namespace Race

/-- Neither has made a call. -/
def start (s : σ) : Race σ := ⟨s, fun _ => .looking⟩

variable (store : Side → Store σ) (n : Names) (wanted : Nat)

/-- The next call of one side. -/
def turn (race : Race σ) (side : Side) : Race σ :=
  let (p, s) := (race.progress side).step (store side) n wanted race.state
  ⟨s, Function.update race.progress side p⟩

/-- Call after call, each by the side whose turn it is. -/
def run (race : Race σ) (turns : List Side) : Race σ :=
  turns.foldl (turn store n wanted) race

variable {store n wanted}

theorem turn_progress_self (race : Race σ) (side : Side) : (race.turn store n wanted side).progress side =
    ((race.progress side).step (store side) n wanted race.state).1 :=
  Function.update_self side _ _

theorem turn_progress_other {side x : Side} (h : x ≠ side) (race : Race σ) :
    (race.turn store n wanted side).progress x = race.progress x :=
  Function.update_of_ne h _ _

/-- A side has as many calls less before it as it had turns. -/
theorem run_callsLeft (side : Side) (race : Race σ) (turns : List Side) :
    ((race.run store n wanted turns).progress side).callsLeft
      ≤ (race.progress side).callsLeft - turns.count side := by
  induction turns generalizing race with
  | nil => exact Nat.le_refl _
  | cons first rest ih =>
    have hrest := ih (race.turn store n wanted first)
    show ((run store n wanted (race.turn store n wanted first) rest).progress side).callsLeft ≤ _
    by_cases hside : first = side
    · subst hside
      have hfirst := (race.progress first).callsLeft_step (store first) n wanted race.state
      rw [turn_progress_self] at hrest
      rw [List.count_cons_self]
      omega
    · rw [turn_progress_other (Ne.symm hside)] at hrest
      rw [List.count_cons_of_ne hside]
      exact hrest

/-- **Reconciliations end.** Five turns are enough for each side, whatever the other does. -/
theorem ended_of_turns {side : Side} {turns : List Side} (h : 5 ≤ turns.count side) (s : σ) :
    ∃ result, ((start s).run store n wanted turns).progress side = .ended result := by
  apply Progress.eq_ended_of_callsLeft
  have hleft : (((start s).run store n wanted turns).progress side).callsLeft ≤ 5 - turns.count side :=
    run_callsLeft side (start s) turns
  omega

end Race

end Schema

/-! ## One side among the changes of the other -/

/-- A step before which the state is changed, by the first of the changes that are to come. -/
def disturbed {α : Type} (x : StateM σ α) : StateM (σ × List (σ → σ)) α := fun (s, changes) =>
  let (a, s₁) := x (changes.headD id s)
  (a, (s₁, changes.tail))

/-- A store whose state is changed before each call. What is reported goes nowhere near the cluster. -/
def Store.amid (store : Store σ) : Store (σ × List (σ → σ)) where
  hosts := disturbed store.hosts
  replication keyspace := disturbed (store.replication keyspace)
  execute r := disturbed (store.execute r)
  read q recorder := disturbed (store.read q recorder)
  report notice := fun (s, changes) => ((), ((store.report notice s).2, changes))
  clock := disturbed store.clock

namespace Schema

theorem describe_amid (store : Store σ) (n : Names) (s : σ) (changes : List (σ → σ)) :
    describe store.amid n (s, changes) =
      ((describe store n (changes.headD id s)).1, ((describe store n (changes.headD id s)).2, changes.tail)) := by
  have hamid : store.amid.replication n.keyspace (s, changes) =
    ((store.replication n.keyspace (changes.headD id s)).1,
      ((store.replication n.keyspace (changes.headD id s)).2, changes.tail)) := rfl
  rw [describe_apply, describe_apply, hamid]
  rcases store.replication n.keyspace (changes.headD id s) with ⟨e | options, s₁⟩ <;> rfl

/-- The next call on a store whose state is changed is that call on the changed state. -/
theorem Progress.step_amid (store : Store σ) (n : Names) (wanted : Nat) {p : Progress}
    (hp : ∀ result, p ≠ .ended result) (s : σ) (changes : List (σ → σ)) :
    p.step store.amid n wanted (s, changes) =
      ((p.step store n wanted (changes.headD id s)).1,
        ((p.step store n wanted (changes.headD id s)).2, changes.tail)) := by
  cases p with
  | looking =>
    rw [step_looking, step_looking, describe_amid]
    rcases describe store n (changes.headD id s) with ⟨e | found, s₁⟩ <;> rfl
  | sending statement rest =>
    have hamid : store.amid.execute statement.request (s, changes) =
      ((store.execute statement.request (changes.headD id s)).1,
        ((store.execute statement.request (changes.headD id s)).2, changes.tail)) := rfl
    rw [step_sending, step_sending, hamid]
    rcases store.execute statement.request (changes.headD id s) with ⟨e | ⟨⟩, s₁⟩ <;> rfl
  | ended result => exact absurd rfl (hp result)

namespace Race

variable {store : Side → Store σ} {n : Names}

/-- What comes of one side is what is left of it, among changes to the state. -/
theorem run_finish {side : Side} {snapshot : Snapshot} {result : Except Failure Int} {race : Race σ}
    {turns : List Side}
    (h : (race.run store n snapshot.size turns).progress side = .ended result) :
    ∃ changes, ((race.progress side).finish (store side).amid n snapshot (race.state, changes)).1 = result := by
  -- By induction on the turns: what the other side does before the next call is a change to the state.
  induction turns generalizing race with
  | nil =>
    have h : race.progress side = .ended result := h
    exact ⟨[], by rw [h]; rfl⟩
  | cons first rest ih =>
    have h : ((race.turn store n snapshot.size first).run store n snapshot.size rest).progress side
      = .ended result := h
    obtain ⟨changes, hrest⟩ := ih h
    by_cases hended : ∃ r, race.progress side = .ended r
    · -- A side that has ended stays as it is.
      obtain ⟨r, hr⟩ := hended
      have hstays : (race.turn store n snapshot.size first).progress side = .ended r := by
        by_cases hside : side = first
        · subst hside
          rw [turn_progress_self, hr]
          rfl
        · rw [turn_progress_other hside, hr]
      rw [hstays] at hrest
      exact ⟨changes, by rw [hr]; exact hrest⟩
    · have hp : ∀ r, race.progress side ≠ .ended r := fun r hr => hended ⟨r, hr⟩
      by_cases hside : side = first
      · subst hside
        refine ⟨id :: changes, ?_⟩
        rw [turn_progress_self] at hrest
        rw [Progress.finish_step, Progress.step_amid _ _ _ hp]
        exact hrest
      · rw [turn_progress_other hside] at hrest
        refine ⟨(changes.headD id ∘ fun s => ((race.progress first).step (store first) n snapshot.size s).2)
          :: changes.tail, ?_⟩
        rw [Progress.finish_step, Progress.step_amid _ _ _ hp] at hrest ⊢
        exact hrest

/-- **What comes of each side** is what its reconciliation returns on a store whose state is changed between
the calls. -/
theorem run_reconcile {side : Side} {snapshot : Snapshot} {result : Except Failure Int} {s : σ}
    {turns : List Side}
    (h : ((start s).run store n snapshot.size turns).progress side = .ended result) :
    ∃ changes, (reconcile (store side).amid n snapshot (s, changes)).1 = result :=
  run_finish h

end Race

end Schema

end ClusterHealth
