import ClusterHealth.Proofs.Check
import ClusterHealth.Proofs.Coupling

/-!
# `ClusterHealth.Proofs.Watch` — what a check asks of its store

A store can be watched: its calls are made as before, and each request is put down once it has been made,
whether it was served or not. A check does not notice. So what is put down is what any check asks of any
store, and how far it gets depends on the answers only.

## Contents
- `Access`, `Store.watched`: requests, and a store that puts them down.
- `watched_coupled`: a watched store does what the store does.
- `Schema.describe_watched`, `Schema.executeAll_watched`, `Schema.reconcile_watched`: what each part of a
  check puts down.
- `Check.Inquiry`, `Check.run_watched`: what a whole check puts down, by how far it came.
-/

namespace ClusterHealth

open ClusterHealth.Cql ClusterHealth.Retry

/-! ## Watched stores -/

/-- A request to a store. -/
inductive Access where
  /-- The metadata of a keyspace were looked up, with this answer. -/
  | lookedUp (keyspace : String) (answer : Except Failure (Option Replication.Options))
  | executed (request : Request)
  | read (query : Query)

namespace Access

/-- The metadata that were looked up, with the answers. -/
def lookUps (log : List Access) : List (String × Except Failure (Option Replication.Options)) :=
  log.filterMap fun
    | .lookedUp keyspace answer => some (keyspace, answer)
    | _ => none

/-- The statements that were sent to be executed. -/
def statements (log : List Access) : List Request :=
  log.filterMap fun
    | .executed r => some r
    | _ => none

/-- The requests that send statements. -/
def sending (statements : List Statement) : List Access :=
  statements.map fun s => .executed s.request

theorem lookUps_append (xs ys : List Access) : lookUps (xs ++ ys) = lookUps xs ++ lookUps ys :=
  List.filterMap_append

theorem statements_append (xs ys : List Access) : statements (xs ++ ys) = statements xs ++ statements ys :=
  List.filterMap_append

theorem lookUps_sending (xs : List Statement) : lookUps (sending xs) = [] := by
  induction xs with
  | nil => rfl
  | cons s xs ih => exact ih

theorem statements_sending (xs : List Statement) : statements (sending xs) = xs.map Statement.request := by
  induction xs with
  | nil => rfl
  | cons s xs ih => exact congrArg (s.request :: ·) ih

end Access

variable {σ α : Type}

/-- A call, with what is put down of it. -/
def noting (x : StateM σ α) (note : α → List Access) : StateM (σ × List Access) α :=
  fun (s, log) => ((x s).1, (x s).2, log ++ note (x s).1)

/-- The store, with every request put down. -/
def Store.watched (store : Store σ) : Store (σ × List Access) where
  hosts := noting store.hosts fun _ => []
  replication keyspace := noting (store.replication keyspace) fun answer => [.lookedUp keyspace answer]
  execute r := noting (store.execute r) fun _ => [.executed r]
  read q recorder := noting (store.read q recorder) fun _ => [.read q]
  report n := noting (store.report n) fun _ => []
  clock := noting store.clock fun _ => []

/-- **Watching changes nothing.** -/
theorem watched_coupled (store : Store σ) :
    store.watched.Coupled (fun p s => p.1 = s) store
      ∧ ∀ q r, Coupled (fun p s => p.1 = s) (store.watched.read q r) (store.read q r) := by
  have hnoting : ∀ {β : Type} (x : StateM σ β) (note : β → List Access),
      Coupled (fun p s => p.1 = s) (noting x note) x := by
    rintro β x note ⟨s, log⟩ _ rfl
    exact ⟨rfl, rfl⟩
  exact ⟨⟨hnoting _ _, fun _ => hnoting _ _, fun _ => hnoting _ _, fun _ => hnoting _ _, hnoting _ _⟩,
    fun _ _ => hnoting _ _⟩

/-! ## Parts of a check -/

section Parts

variable {store : Store σ} {log : List Access}

/-- A watched store with this log, beside the store. -/
def Noted (log : List Access) (p : σ × List Access) (s : σ) : Prop := p = (s, log)

/-- Where the log stays as it is, the result and the state are those of the store. -/
theorem apply_of_noted {x : StateM (σ × List Access) α} {y : StateM σ α} (h : Coupled (Noted log) x y)
    (s : σ) : x (s, log) = ((y s).1, (y s).2, log) := by
  obtain ⟨hsame, hlog⟩ := h (s, log) s rfl
  exact Prod.ext hsame hlog

theorem noted_of_silent (x : StateM σ α) : Coupled (Noted log) (noting x fun _ => []) x := by
  rintro _ s rfl
  exact ⟨rfl, Prod.ext rfl (List.append_nil log)⟩

theorem report_watched (store : Store σ) (n : Notice) (s : σ) (log : List Access) :
    store.watched.report n (s, log) = ((store.report n s).1, (store.report n s).2, log) :=
  apply_of_noted (noted_of_silent (store.report n)) s

theorem reportAll_watched (store : Store σ) (notices : List Notice) :
    Coupled (Noted log) (store.watched.reportAll notices) (store.reportAll notices) :=
  Coupled.forM (fun n => noted_of_silent (store.report n)) notices

/-- Taking the nodes sends nothing. -/
theorem Check.takeSnapshot_watched (store : Store σ) :
    Coupled (Noted log) (takeSnapshot store.watched) (takeSnapshot store) := by
  unfold takeSnapshot
  refine Coupled.andThen (noted_of_silent store.hosts) fun hosts => ?_
  cases Topology.Snapshot.ofNodes? (Topology.nodeNames hosts) with
  | none => exact Coupled.throw _
  | some snapshot =>
    exact Coupled.andThen (Coupled.lift (noted_of_silent (store.report _))) fun _ => Coupled.pure _

namespace Schema

/-- Finding the number of copies looks up the metadata once. -/
theorem describe_watched (store : Store σ) (n : Names) (s : σ) (log : List Access) :
    describe store.watched n (s, log) = ((describe store n s).1, (describe store n s).2,
      log ++ [.lookedUp n.keyspace (store.replication n.keyspace s).1]) := by
  rw [describe_apply, describe_apply]
  have hcall : store.watched.replication n.keyspace (s, log) = ((store.replication n.keyspace s).1,
      (store.replication n.keyspace s).2, log ++ [.lookedUp n.keyspace (store.replication n.keyspace s).1]) :=
    rfl
  rw [hcall]
  rcases store.replication n.keyspace s with ⟨e | options, s₁⟩ <;> rfl

/-- Of several statements a first part is sent: not none of them, and all of them if none fails. -/
theorem executeAll_watched (store : Store σ) (statements : List Statement) (s : σ) (log : List Access) :
    ∃ done, done <+: statements ∧ (statements ≠ [] → done ≠ [])
      ∧ ((executeAll store statements s).1 = .ok () → done = statements)
      ∧ executeAll store.watched statements (s, log) = ((executeAll store statements s).1,
          (executeAll store statements s).2, log ++ Access.sending done) := by
  -- By induction on the statements: after one that fails there are no others.
  induction statements generalizing s log with
  | nil => exact ⟨[], List.prefix_rfl, fun h => h, fun _ => rfl,
      Prod.ext rfl (Prod.ext rfl (List.append_nil log).symm)⟩
  | cons statement rest ih =>
    have hcons : ∀ {τ : Type} (other : Store τ), executeAll other (statement :: rest) =
        (other.execute statement.request >>= fun _ => executeAll other rest) := fun _ => rfl
    have hcall : store.watched.execute statement.request (s, log) =
        ((store.execute statement.request s).1, (store.execute statement.request s).2,
          log ++ [.executed statement.request]) := rfl
    rw [hcons, hcons]
    rcases hx : store.execute statement.request s with ⟨e | ⟨⟩, s₁⟩
    · rw [hx] at hcall
      rw [Action.bind_of_error hx, Action.bind_of_error hcall]
      exact ⟨[statement], List.prefix_append _ _, fun _ => List.cons_ne_nil _ _, nofun, rfl⟩
    · rw [hx] at hcall
      rw [Action.bind_of_ok hx, Action.bind_of_ok hcall]
      obtain ⟨done, hdone, -, hall, hrest⟩ := ih s₁ (log ++ [.executed statement.request])
      refine ⟨statement :: done, List.cons_prefix_cons.2 ⟨rfl, hdone⟩, fun _ => List.cons_ne_nil _ _,
        fun h => congrArg _ (hall h), ?_⟩
      rw [hrest, List.append_assoc]
      rfl

/-- The statements that a reconciliation has to send: a plan, if it can be told what there is. -/
def due (store : Store σ) (n : Names) (snapshot : Topology.Snapshot) (s : σ) : List Statement :=
  match (describe store n s).1 with
  | .ok found => plan n found snapshot.size
  | .error _ => []

/-- A reconciliation looks up the metadata and sends a first part of what is due. -/
theorem reconcile_watched (store : Store σ) (n : Names) (snapshot : Topology.Snapshot) (s : σ)
    (log : List Access) : ∃ done, done <+: due store n snapshot s
      ∧ (due store n snapshot s ≠ [] → done ≠ [])
      ∧ (∀ size, (reconcile store n snapshot s).1 = .ok size → done = due store n snapshot s)
      ∧ reconcile store.watched n snapshot (s, log) = ((reconcile store n snapshot s).1,
          (reconcile store n snapshot s).2,
          log ++ .lookedUp n.keyspace (store.replication n.keyspace s).1 :: Access.sending done) := by
  rw [reconcile_apply, reconcile_apply, describe_watched]
  unfold due
  rcases describe store n s with ⟨e | found, s₁⟩
  · exact ⟨[], List.prefix_rfl, fun h => h, fun _ h => (nomatch h), rfl⟩
  · simp only
    rw [report_watched]
    obtain ⟨done, hdone, hsome, hall, hlog⟩ := executeAll_watched store (plan n found snapshot.size)
      (store.report (planNotice n found snapshot.size) s₁).2
      (log ++ [.lookedUp n.keyspace (store.replication n.keyspace s).1])
    refine ⟨done, hdone, hsome, ?_, ?_⟩
    · intro size hsize
      apply hall
      rcases hx : executeAll store (plan n found snapshot.size)
        (store.report (planNotice n found snapshot.size) s₁).2 with ⟨e | ⟨⟩, s₂⟩
      · rw [hx] at hsize
        exact nomatch hsize
      · rfl
    · simp only [hlog]
      rw [List.append_assoc]
      rcases executeAll store (plan n found snapshot.size)
        (store.report (planNotice n found snapshot.size) s₁).2 with ⟨e | ⟨⟩, s₂⟩ <;> rfl

end Schema

/-- A probe issues one read. -/
theorem Check.probe_watched (store : Store σ) (names : Schema.Names) (snapshot : Topology.Snapshot) (s : σ)
    (log : List Access) : probe store.watched names snapshot (s, log) =
      ((probe store names snapshot s).1, (probe store names snapshot s).2,
        log ++ [.read (Probe.ofNames names).query]) := by
  have hrun : (Probe.ofNames names).run store.watched (s, log) =
      (((Probe.ofNames names).run store s).1, ((Probe.ofNames names).run store s).2,
        log ++ [.read (Probe.ofNames names).query]) := by
    have hclock : ∀ s log, store.watched.clock (s, log) = ((store.clock s).1, (store.clock s).2, log) :=
      fun s log => apply_of_noted (noted_of_silent store.clock) s
    have hread : store.watched.read (Probe.ofNames names).query .fresh ((store.clock s).2, log) =
        ((store.read (Probe.ofNames names).query .fresh (store.clock s).2).1,
          (store.read (Probe.ofNames names).query .fresh (store.clock s).2).2,
          log ++ [.read (Probe.ofNames names).query]) := rfl
    rw [Probe.run_apply, Probe.run_apply, hclock, hread]
    rcases store.read (Probe.ofNames names).query .fresh (store.clock s).2 with ⟨⟨recorder, e | reading⟩, s₁⟩
    · simp only [hclock]
      split <;> rfl
    · simp only [Probe.latency, hclock, apply_of_noted (reportAll_watched store _)]
  rw [probe_apply, probe_apply, hrun]
  rcases (Probe.ofNames names).run store s with ⟨⟨p, e | o⟩, s₁⟩
  · rfl
  · simp only [apply_of_noted (reportAll_watched store _)]

end Parts

/-! ## Whole checks -/

namespace Check

/-- What a check has asked of its store, by how far it came. -/
inductive Inquiry (store : Store σ) (names : Schema.Names) (s : σ) : List Access → Prop
  /-- There was no snapshot. -/
  | unseen {e : Failure} {s₁ : σ} (taken : takeSnapshot store s = (.error e, s₁)) : Inquiry store names s []
  /-- The keyspace could not be brought into its place. -/
  | stopped {snapshot : Topology.Snapshot} {e : Failure} {s₁ s₂ : σ} {done : List Statement}
      (taken : takeSnapshot store s = (.ok snapshot, s₁))
      (failed : Schema.reconcile store names.folded snapshot s₁ = (.error e, s₂))
      (part : done <+: Schema.due store names.folded snapshot s₁)
      (some : Schema.due store names.folded snapshot s₁ ≠ [] → done ≠ []) :
      Inquiry store names s
        (.lookedUp names.folded.keyspace (store.replication names.folded.keyspace s₁).1
          :: Access.sending done)
  /-- The read was made. -/
  | probed {snapshot : Topology.Snapshot} {size : Int} {s₁ s₂ : σ}
      (taken : takeSnapshot store s = (.ok snapshot, s₁))
      (returned : Schema.reconcile store names.folded snapshot s₁ = (.ok size, s₂)) :
      Inquiry store names s
        (.lookedUp names.folded.keyspace (store.replication names.folded.keyspace s₁).1
          :: (Access.sending (Schema.due store names.folded snapshot s₁)
            ++ [.read (Probe.ofNames names).query]))

theorem givenUp_watched (store : Store σ) (e : Failure) (snapshot : Option Topology.Snapshot) (s : σ)
    (log : List Access) : givenUp store.watched e snapshot (s, log) =
      ((givenUp store e snapshot s).1, (givenUp store e snapshot s).2, log) := by
  unfold givenUp
  split
  · rw [report_watched]
  · rfl

/-- **What a check asks of its store**: nothing, or the metadata once; then some of the statements that are
due; and the read, if the keyspace is in its place. -/
theorem run_watched (store : Store σ) (names : Schema.Names) (s : σ) : ∃ log,
    run store.watched names (s, []) = ((run store names s).1, (run store names s).2, log)
      ∧ Inquiry store names s log := by
  rw [run_apply, run_apply, apply_of_noted (takeSnapshot_watched store)]
  rcases htaken : takeSnapshot store s with ⟨e | snapshot, s₁⟩
  · exact ⟨[], givenUp_watched store e none s₁ [], .unseen htaken⟩
  · obtain ⟨done, hdone, hsome, hall, hlog⟩ := Schema.reconcile_watched store names.folded snapshot s₁ []
    simp only [hlog, List.nil_append]
    rcases hreconcile : Schema.reconcile store names.folded snapshot s₁ with ⟨e | size, s₂⟩
    · exact ⟨_, givenUp_watched store e (some snapshot) s₂ _, .stopped htaken hreconcile hdone hsome⟩
    · rw [hall size (congrArg Prod.fst hreconcile)]
      exact ⟨_, probe_watched store names snapshot s₂ _, .probed htaken hreconcile⟩

end Check

end ClusterHealth
