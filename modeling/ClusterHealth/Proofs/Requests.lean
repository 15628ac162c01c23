import ClusterHealth.Proofs.Moves

/-!
# `ClusterHealth.Proofs.Requests` — requests that are served, and requests that fail

The script of a cluster fixes for each request to come whether it fails, and with what. A client passes a
failure on as a failure of the store if it is one of transport, and as it is if it is not. Here is what each
request of a client does to the script and to the journal, and where a row of statements stops.

## Contents
- `Failure.isTransport`: the failures that a client passes on as failures of the store.
- `Cluster.trouble?`, `Cluster.FirstTrouble`: failures of requests, by how many others come before.
- `ReadScript.raised?`, `Cluster.raised?`, `Cluster.read_fails`: failures of reads.
- `Passes sent`: requests were sent, and the script goes on behind them.
- `Client.execute_passes`, `Client.executeAll_passes`, `Client.lookUp_passes`: statements of a client.
- `Client.read_adds`, `Client.read_fails`: a read of a client.
-/

namespace ClusterHealth

open ClusterHealth.Cql ClusterHealth.Retry ClusterHealth.Machine

/-! ## Failures of transport -/

namespace Failure

/-- Whether a failure is one of the way to the cluster or within it, as a session reports it. -/
def isTransport : Failure → Bool
  | .driver f => f.isTransport
  | _ => false

theorem wrapTransport_isStore {e : Failure} (h : e.isTransport = true) :
    e.wrapTransport.isStore = true := by
  cases e with
  | driver f =>
    have hf : f.isTransport = true := h
    cases f with
    | noHostAvailable message errors => rfl
    | _ => simp only [wrapTransport, if_pos hf, isStore]
  | _ => exact nomatch h

theorem wrapTransport_of_not {e : Failure} (h : e.isTransport = false) : e.wrapTransport = e := by
  cases e with
  | driver f =>
    have hf : ¬ f.isTransport = true := Bool.eq_false_iff.1 h
    cases f with
    | noHostAvailable message errors => exact absurd rfl hf
    | _ => simp only [wrapTransport, if_neg hf]
  | _ => rfl

end Failure

/-! ## Failures in a script -/

namespace Cluster

/-- With what the request fails that comes after so many others, if it fails at once. -/
def trouble? (c : Cluster) (k : Nat) : Option Failure :=
  Pairs.get? (c.executed + k) c.failures

/-- The first request that fails at once. -/
structure FirstTrouble (c : Cluster) (k : Nat) (e : Failure) : Prop where
  fails : c.trouble? k = some e
  before : ∀ j < k, c.trouble? j = none

theorem FirstTrouble.zero {c : Cluster} {e : Failure} (h : c.trouble? 0 = some e) : c.FirstTrouble 0 e :=
  ⟨h, fun j hj => absurd hj (Nat.not_lt_zero j)⟩

theorem FirstTrouble.unique {c : Cluster} {k k' : Nat} {e e' : Failure} (h : c.FirstTrouble k e)
    (h' : c.FirstTrouble k' e') : k = k' ∧ e = e' := by
  have hk : k = k' := by
    rcases Nat.lt_trichotomy k k' with hlt | heq | hgt
    · exact nomatch (h'.before k hlt).symm.trans h.fails
    · exact heq
    · exact nomatch (h.before k' hgt).symm.trans h'.fails
  subst hk
  exact ⟨rfl, Option.some.inj (h.fails.symm.trans h'.fails)⟩

theorem trouble?_eq_none_of_lt_one {c : Cluster} (h : c.trouble? 0 = none) : ∀ j < 1, c.trouble? j = none := by
  intro j hj
  rw [Nat.lt_one_iff.1 hj]
  exact h

/-- With what the last attempt of a read fails, if it fails. -/
def lastFailure? : List AttemptScript → Level → Nat → Option Failure
  | [], _, _ => none
  | script :: rest, level, retries =>
    match (script.attempt level retries).verdict with
    | .retry next => lastFailure? rest next (retries + 1)
    | .rethrow => some (.reported (failureOf (script.attempt level retries)))

/-- With what a read fails that does not fail at once: its last attempt, or its rows. -/
def ReadScript.raised? (script : ReadScript) (level : Level) : Option Failure :=
  (lastFailure? script.attempts level 0).or
    (if script.terminated then some (.terminated 15) else script.failure.or script.lateFailure)

/-- With what a request fails that comes after so many others, if it fails. -/
def raised? (c : Cluster) (k : Nat) : Event → Option Failure
  | .query q => (c.trouble? k).or (c.nextRead.1.raised? q.level)
  | _ => c.trouble? k

theorem nextRead_of_reads {c c' : Cluster} (h : c'.reads = c.reads) : c'.nextRead.1 = c.nextRead.1 := by
  unfold nextRead
  rw [h]
  cases c.reads <;> rfl

theorem attemptAll_result (scripts : List AttemptScript) (level : Level) (retries : Nat) (r : Recorder)
    (m : Machine) : (attemptAll scripts level retries r m).1.2 =
      match lastFailure? scripts level retries with
      | some e => .error e
      | none => .ok () := by
  -- By induction on the attempts: each decides whether there is another one, and at which level.
  induction scripts generalizing level retries r m with
  | nil => rfl
  | cons script rest ih =>
    rw [attemptAll_cons]
    unfold lastFailure?
    cases (script.attempt level retries).verdict with
    | retry next => exact ih _ _ _ _
    | rethrow => rfl

theorem ReadScript.answer_eq_error {script : ReadScript} {e : Failure} (found : List Value)
    (h : (if script.terminated then some (.terminated 15) else script.failure.or script.lateFailure) = some e) :
    script.answer found = .error e := by
  unfold answer
  by_cases ht : script.terminated = true
  · rw [if_pos ht] at h ⊢
    rw [Option.some.inj h]
  · rw [if_neg ht] at h ⊢
    cases hf : script.failure with
    | some e' =>
      rw [hf] at h
      rw [show e' = e from Option.some.inj h]
    | none =>
      rw [hf, Option.none_or] at h
      rw [h]

/-- A read fails with what the script says, if the script says so. -/
theorem read_fails {q : Query} {m : Machine} {e : Failure} (r : Recorder)
    (h : (m.cluster.trouble? 0).or (m.cluster.nextRead.1.raised? q.level) = some e) :
    (Cluster.read q r m).1.2 = .error e := by
  rw [read_apply]
  have hnow : m.cluster.trouble? 0 = m.cluster.nextStatement.1 := rfl
  -- A failure at once hides the script of the read, and one of an attempt hides the rows.
  cases ht : m.cluster.nextStatement.1 with
  | some e' =>
    rw [hnow, ht] at h
    rw [show e' = e from Option.some.inj h]
  | none =>
    rw [hnow, ht, Option.none_or] at h
    have hscript : (sent q m).cluster.nextRead.1 = m.cluster.nextRead.1 := nextRead_of_reads rfl
    rw [hscript]
    have hresult := attemptAll_result m.cluster.nextRead.1.attempts q.level 0 r (taken (sent q m))
    rcases ha : attemptAll m.cluster.nextRead.1.attempts q.level 0 r (taken (sent q m))
      with ⟨⟨r', result⟩, m'⟩
    rw [ha] at hresult
    simp only at hresult
    unfold ReadScript.raised? at h
    cases hl : lastFailure? m.cluster.nextRead.1.attempts q.level 0 with
    | some e' =>
      rw [hl] at hresult h
      subst hresult
      rw [show e' = e from Option.some.inj h]
      rfl
    | none =>
      rw [hl] at hresult h
      subst hresult
      show (m.cluster.nextRead.1.answer (m'.cluster.rowsOf q)).map _ = _
      rw [ReadScript.answer_eq_error _ (Option.none_or.symm.trans h)]
      rfl

end Cluster

/-! ## Requests of a client -/

namespace Machine

/-- The request that an event is, if it is one. -/
def Event.request? : Event → Option Event
  | .statement r => some (.statement r)
  | .query q => some (.query q)
  | _ => none

/-- These requests were sent, and behind them the script goes on. -/
structure Passes (sent : List Event) (m m' : Machine) : Prop where
  journal : Adds Event.request? sent m m'
  trouble : ∀ k, m'.cluster.trouble? k = m.cluster.trouble? (sent.length + k)
  reads : m'.cluster.reads = m.cluster.reads

variable {m m₁ m₂ : Machine} {xs ys : List Event} {k : Nat} {e : Failure}

theorem Passes.refl (m : Machine) : Passes [] m m :=
  ⟨Adds.silent rfl, fun k => by rw [List.length_nil, Nat.zero_add], rfl⟩

theorem Passes.trans (h : Passes xs m m₁) (h' : Passes ys m₁ m₂) : Passes (xs ++ ys) m m₂ where
  journal := h.journal.trans h'.journal
  trouble := fun k => by rw [h'.trouble, h.trouble, List.length_append, Nat.add_assoc]
  reads := h'.reads.trans h.reads

/-- If neither these requests nor so many behind them fail, none of all of them does. -/
theorem Passes.served (h : Passes xs m m₁) (hserved : ∀ j < xs.length, m.cluster.trouble? j = none)
    {n : Nat} (hserved' : ∀ j < n, m₁.cluster.trouble? j = none) :
    ∀ j < xs.length + n, m.cluster.trouble? j = none := by
  intro j hj
  by_cases hjx : j < xs.length
  · exact hserved j hjx
  · obtain ⟨i, rfl⟩ := Nat.exists_eq_add_of_le (Nat.le_of_not_lt hjx)
    rw [← h.trouble]
    exact hserved' i (by omega)

/-- The first failure behind requests that did not fail. -/
theorem Passes.firstTrouble (h : Passes xs m m₁) (hserved : ∀ j < xs.length, m.cluster.trouble? j = none)
    (hfirst : m₁.cluster.FirstTrouble k e) : m.cluster.FirstTrouble (xs.length + k) e where
  fails := (h.trouble k).symm.trans hfirst.fails
  before := h.served hserved hfirst.before

theorem Passes.raised (h : Passes xs m m₁) (request : Event) :
    m₁.cluster.raised? k request = m.cluster.raised? (xs.length + k) request := by
  unfold Cluster.raised?
  rw [h.trouble, Cluster.nextRead_of_reads h.reads]

theorem Passes.report (n : Notice) (m : Machine) : Passes [] m (report n m).2 :=
  ⟨⟨[.notice n], rfl, rfl⟩, (Passes.refl m).trouble, rfl⟩

end Machine

theorem Cluster.stated_passes (r : Request) (m : Machine) : Passes [.statement r] m (stated r m) where
  journal := ⟨[.statement r], rfl, rfl⟩
  trouble := fun _ => congrArg (Pairs.get? · m.cluster.failures) (Nat.add_assoc _ _ _)
  reads := rfl

theorem Cluster.carriedOut_passes (r : Request) (m : Machine) :
    Passes [.statement r] m (carriedOut r m) := by
  have hstated := stated_passes r m
  obtain ⟨keyspaces, rows, hafter⟩ := after_eq m.cluster.nextStatement.2 r
  refine ⟨hstated.journal, fun k => ?_, ?_⟩
  · rw [← hstated.trouble]
    show (m.cluster.nextStatement.2.after r).trouble? k = _
    rw [hafter]
    rfl
  · show (m.cluster.nextStatement.2.after r).reads = _
    rw [hafter]
    rfl

namespace Client

/-- With what a request of a client ends that meets a failure, or none. -/
def ended : Option Failure → Except Failure Unit
  | some e => .error e.wrapTransport
  | none => .ok ()

variable {c : Client}

theorem execute_passes (hc : c.connected = true) (r : Request) (m : Machine) :
    ∃ m', c.store.execute r m = (ended (m.cluster.trouble? 0), m') ∧ Passes [.statement r] m m' := by
  have hnow : m.cluster.trouble? 0 = m.cluster.nextStatement.1 := rfl
  rw [execute_apply hc, hnow]
  cases m.cluster.nextStatement.1 with
  | some e => exact ⟨_, rfl, (Passes.report _ m).trans (Cluster.stated_passes r _)⟩
  | none => exact ⟨_, rfl, (Passes.report _ m).trans (Cluster.carriedOut_passes r _)⟩

/-- Several statements: they all go through, or the first that fails is the last that is sent. -/
theorem executeAll_passes (hc : c.connected = true) (statements : List Statement) (m : Machine) :
    ∃ m', ((∀ j < statements.length, m.cluster.trouble? j = none)
        ∧ Schema.executeAll c.store statements m = (.ok (), m')
        ∧ Passes (statements.map fun s => .statement s.request) m m')
      ∨ ∃ k e, k < statements.length ∧ m.cluster.FirstTrouble k e
        ∧ Schema.executeAll c.store statements m = (.error e.wrapTransport, m')
        ∧ Adds Event.request? ((statements.map fun s => .statement s.request).take (k + 1)) m m' := by
  -- By induction on the statements. Failures are counted from the first one, so each that is served shifts
  -- the count of those behind it by one.
  induction statements generalizing m with
  | nil => exact ⟨m, .inl ⟨fun j hj => absurd hj (Nat.not_lt_zero j), rfl, Passes.refl m⟩⟩
  | cons s rest ih =>
    have hcons : Schema.executeAll c.store (s :: rest) =
        (c.store.execute s.request >>= fun _ => Schema.executeAll c.store rest) := rfl
    obtain ⟨m₁, hs, hp⟩ := execute_passes hc s.request m
    rw [hcons]
    cases ht : m.cluster.trouble? 0 with
    | some e =>
      rw [ht] at hs
      exact ⟨m₁, .inr ⟨0, e, Nat.zero_lt_succ _, .zero ht, Action.bind_of_error hs, hp.journal⟩⟩
    | none =>
      rw [ht] at hs
      have hserved := Cluster.trouble?_eq_none_of_lt_one ht
      rw [Action.bind_of_ok hs]
      obtain ⟨m₂, ⟨hrest, hx, hp'⟩ | ⟨k, e, hk, hfirst, hx, hadds⟩⟩ := ih m₁
      · refine ⟨m₂, .inl ⟨?_, hx, hp.trans hp'⟩⟩
        rw [List.length_cons, Nat.add_comm]
        exact hp.served hserved hrest
      · refine ⟨m₂, .inr ⟨k + 1, e, Nat.succ_lt_succ hk, ?_, hx, hp.journal.trans hadds⟩⟩
        rw [Nat.add_comm]
        exact hp.firstTrouble hserved hfirst

/-- The lookup changes no keyspace, and answers with what there is. -/
theorem lookUp_passes (hc : c.connected = true) (keyspace : String) (m : Machine) :
    ∃ m', c.store.replication keyspace m =
        ((ended (m.cluster.trouble? 0)).map fun _ => m.cluster.replication? keyspace, m')
      ∧ Passes [.statement (Statement.lookUp keyspace).request] m m' := by
  have hnow : m.cluster.trouble? 0 = m.cluster.nextStatement.1 := rfl
  -- A lookup is a request like the others, but its text has no effect.
  have hnothing : Effect.ofText (Statement.lookUp keyspace).text = .nothing := by
    show Effect.ofText "SELECT replication FROM system_schema.keyspaces WHERE keyspace_name = %s" = .nothing
    decide +kernel
  have hexecute := Cluster.execute_apply (Statement.lookUp keyspace).request m
  have hstated := Cluster.stated_passes (Statement.lookUp keyspace).request m
  show ∃ m', (c.requireSession >>= fun _ => (Cluster.lookUp keyspace).wrappingTransport) m = _ ∧ _
  rw [Action.bind_of_ok (requireSession_apply hc m), hnow]
  cases hn : m.cluster.nextStatement.1 with
  | some e =>
    rw [hn] at hexecute
    exact ⟨_, Action.wrappingTransport_of_error (Action.bind_of_error hexecute), hstated⟩
  | none =>
    rw [hn] at hexecute
    have hafter : m.cluster.nextStatement.2.after (Statement.lookUp keyspace).request
        = m.cluster.nextStatement.2 := by
      unfold Cluster.after
      rw [show (Statement.lookUp keyspace).request.text = (Statement.lookUp keyspace).text from rfl, hnothing]
    refine ⟨_, Action.wrappingTransport_of_ok ((Action.bind_of_ok hexecute).trans ?_), hstated⟩
    unfold Cluster.carriedOut
    rw [hafter]
    rfl

/-- A read fails with what the script says, if the script says so. -/
theorem read_fails (hc : c.connected = true) {q : Query} (hq : q.tracing = true) {m : Machine} {e : Failure}
    (r : Recorder) (h : m.cluster.raised? 0 (.query q) = some e) :
    (c.store.read q r m).1.2 = .error e.wrapTransport := by
  have hfails := Cluster.read_fails r h
  rw [read_apply hc hq]
  rcases hr : Cluster.read q r m with ⟨⟨r', result⟩, m₁⟩
  rw [hr] at hfails
  obtain rfl : result = .error e := hfails
  rfl

end Client

end ClusterHealth
