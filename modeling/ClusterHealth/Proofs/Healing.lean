import ClusterHealth.Proofs.Check
import ClusterHealth.Proofs.Database
import Mathlib.Data.List.Induction

/-!
# `ClusterHealth.Proofs.Healing` — reconciliations that fail half way

A reconciliation is up to four statements, and each of them may fail. What is left then is the start of the
next one. Whether a keyspace is in its place is decided by its number of copies alone, so a keyspace without
its table or its row is made anew for another number of nodes, and is taken as it is for the same number.

## Contents
- `Schema.Names.complete`, `Schema.HalfMade`: keyspaces as they should be, and as a failure leaves them.
- `Schema.plan_whole`, `Schema.plan_part`: what a plan leads to, carried out in full and in part.
- `Schema.reconcile_spec`: one call.
- `Schema.Inv`: what a history of calls can leave, kept by every call (`Schema.Inv.call`).
- `Schema.reconcile_heals`: what a call that returns leaves after any history.
-/

namespace ClusterHealth.Schema

open ClusterHealth.Cql ClusterHealth.Topology

variable {σ : Type} {store : Store σ} {n : Names} {db : σ → Database}

/-! ## Plans -/

/-- The keyspace of a check as it should be: one table, and in it one row. -/
def Names.complete (n : Names) (factor : Nat) : Keyspace :=
  ⟨factor, [(n.table, [seedKey])]⟩

/-- A keyspace that lacks its table or its row. -/
inductive HalfMade (n : Names) (factor : Nat) : Keyspace → Prop
  | bare : HalfMade n factor ⟨factor, []⟩
  | unseeded : HalfMade n factor ⟨factor, [(n.table, [])]⟩

theorem HalfMade.factor_eq {k : Keyspace} {factor : Nat} (h : HalfMade n factor k) : k.factor = factor := by
  cases h <;> rfl

section Plans

variable {d d' : Database} {found : Option Int} {wanted : Nat} {done rest : List Statement}
  {next : Statement}

theorem bare_of_createKeyspace
    (h : (Statement.createKeyspace n.keyspace wanted).carriedOut d = .ok d') :
    Pairs.get? n.keyspace d' = some ⟨wanted, []⟩ := by
  obtain ⟨-, rfl⟩ := carriedOut_createKeyspace h
  exact Pairs.get?_put_self _ _ _

theorem unseeded_of_createTable {factor : Nat} (hbare : Pairs.get? n.keyspace d = some ⟨factor, []⟩)
    (h : (Statement.createTable n.keyspace n.table).carriedOut d = .ok d') :
    Pairs.get? n.keyspace d' = some ⟨factor, [(n.table, [])]⟩ := by
  obtain ⟨k, hk, -, rfl⟩ := carriedOut_createTable h
  obtain rfl : ⟨factor, []⟩ = k := Option.some.inj (hbare.symm.trans hk)
  exact Pairs.get?_put_self _ _ _

theorem complete_of_insertSeed {factor : Nat}
    (hunseeded : Pairs.get? n.keyspace d = some ⟨factor, [(n.table, [])]⟩)
    (h : (Statement.insertSeed n.keyspace n.table).carriedOut d = .ok d') :
    Pairs.get? n.keyspace d' = some (n.complete factor) := by
  obtain ⟨k, keys, hk, hkeys, rfl⟩ := carriedOut_insertSeed h
  obtain rfl : ⟨factor, [(n.table, [])]⟩ = k := Option.some.inj (hunseeded.symm.trans hk)
  have hnone : Pairs.get? n.table [(n.table, ([] : List String))] = some [] := by simp [Pairs.get?]
  obtain rfl : [] = keys := Option.some.inj (hnone.symm.trans hkeys)
  rw [Pairs.get?_put_self]
  simp [Keyspace.withTable, Pairs.put, Names.complete]

/-- The statements that make a keyspace, all of them carried out. -/
theorem creation_whole (h : carryOut d (creation n wanted) = .ok d') :
    Pairs.get? n.keyspace d' = some (n.complete wanted) := by
  obtain ⟨d₁, hmade, h⟩ := carryOut_cons h
  obtain ⟨d₂, htabled, h⟩ := carryOut_cons h
  obtain ⟨d₃, hseeded, h⟩ := carryOut_cons h
  obtain rfl := carryOut_nil h
  exact complete_of_insertSeed (unseeded_of_createTable (bare_of_createKeyspace hmade) htabled) hseeded

/-- The statements that make a keyspace, up to one of them. -/
theorem creation_part (hsplit : creation n wanted = done ++ next :: rest)
    (h : carryOut d done = .ok d') :
    d' = d ∨ ∃ k, HalfMade n wanted k ∧ Pairs.get? n.keyspace d' = some k := by
  have hdone : done = (creation n wanted).take done.length := by rw [hsplit, List.take_left']; rfl
  have hlength : done.length < 3 := by
    have hthree : (creation n wanted).length = 3 := rfl
    rw [hsplit, List.length_append, List.length_cons] at hthree
    omega
  rw [hdone] at h
  generalize done.length = reached at h hlength
  -- One case for each of the three statements that may have failed.
  match reached, hlength, h with
  | 0, _, h => exact .inl (carryOut_nil h)
  | 1, _, h =>
    obtain ⟨d₁, hmade, h⟩ := carryOut_cons h
    obtain rfl := carryOut_nil h
    exact .inr ⟨_, .bare, bare_of_createKeyspace hmade⟩
  | 2, _, h =>
    obtain ⟨d₁, hmade, h⟩ := carryOut_cons h
    obtain ⟨d₂, htabled, h⟩ := carryOut_cons h
    obtain rfl := carryOut_nil h
    exact .inr ⟨_, .unseeded, unseeded_of_createTable (bare_of_createKeyspace hmade) htabled⟩

/-- A plan carried out in full: the keyspace was in place, or it is complete. -/
theorem plan_whole (h : carryOut d (plan n found wanted) = .ok d') :
    (found = some (wanted : Int) ∧ d' = d)
      ∨ (found ≠ some (wanted : Int) ∧ Pairs.get? n.keyspace d' = some (n.complete wanted)) := by
  cases found with
  | none => exact .inr ⟨nofun, creation_whole h⟩
  | some factor =>
    by_cases hf : factor = wanted
    · rw [show plan n (some factor) wanted = [] from if_pos hf] at h
      exact .inl ⟨congrArg some hf, carryOut_nil h⟩
    · rw [show plan n (some factor) wanted = .dropKeyspace n.keyspace :: creation n wanted from
        if_neg hf] at h
      obtain ⟨d₁, -, h⟩ := carryOut_cons h
      exact .inr ⟨fun heq => hf (Option.some.inj heq), creation_whole h⟩

/-- A plan carried out up to one of its statements: nothing was done, or the keyspace is gone or half made. -/
theorem plan_part (hsplit : plan n found wanted = done ++ next :: rest) (h : carryOut d done = .ok d') :
    d' = d ∨ Pairs.get? n.keyspace d' = none
      ∨ ∃ k, HalfMade n wanted k ∧ Pairs.get? n.keyspace d' = some k := by
  cases found with
  | none => exact (creation_part hsplit h).imp_right .inr
  | some factor =>
    by_cases hf : factor = wanted
    · rw [show plan n (some factor) wanted = [] from if_pos hf] at hsplit
      exact absurd hsplit (by simp)
    · rw [show plan n (some factor) wanted = .dropKeyspace n.keyspace :: creation n wanted from
        if_neg hf] at hsplit
      cases done with
      | nil => exact .inl (carryOut_nil h)
      | cons first done =>
        obtain ⟨rfl, hcreation⟩ := List.cons.inj hsplit
        obtain ⟨d₁, hdropped, h⟩ := carryOut_cons h
        obtain rfl := carriedOut_dropKeyspace hdropped
        -- The old keyspace is gone already when the new one cannot be made.
        rcases creation_part hcreation h with rfl | hhalf
        · exact .inr (.inl (Pairs.get?_erase_self _ _))
        · exact .inr (.inr hhalf)

end Plans

/-! ## One call -/

section Calls

variable {snapshot : Snapshot} {s s' : σ}

/-- **A call that returns.** The keyspace had the right number of copies and is left as it was, or it had
not, and is complete. -/
theorem reconcile_returned (h : Backed store n db) {size : Int}
    (hrun : reconcile store n snapshot s = (.ok size, s')) :
    (∃ k, Pairs.get? n.keyspace (db s) = some k ∧ k.factor = snapshot.size ∧ db s' = db s)
      ∨ ((∀ k, Pairs.get? n.keyspace (db s) = some k → k.factor ≠ snapshot.size)
        ∧ Pairs.get? n.keyspace (db s') = some (n.complete snapshot.size)) := by
  obtain ⟨-, found, s₁, hd, hexecute⟩ := reconcile_eq_ok hrun
  obtain ⟨hsame, hfound⟩ := describe_spec h s
  rw [hd] at hsame hfound
  have hfound := hfound found rfl
  have hstart : db (store.report (planNotice n found snapshot.size) s₁).2 = db s :=
    (h.reported _ _).trans hsame
  generalize (store.report (planNotice n found snapshot.size) s₁).2 = s₂ at hstart hexecute
  rcases executeAll_spec h (fun _ hm => hm) s₂ with ⟨-, hall⟩ | ⟨e, _, _, _, he, -, -⟩
  · rw [hexecute, hstart] at hall
    rcases plan_whole hall with ⟨hplace, hdb⟩ | ⟨hother, hcomplete⟩
    · obtain ⟨k, hk, hfactor⟩ := Option.map_eq_some_iff.1 (hfound.symm.trans hplace)
      exact .inl ⟨k, hk, Int.ofNat.inj hfactor, hdb⟩
    · refine .inr ⟨?_, hcomplete⟩
      intro k hk hfactor
      rw [hfound, hk, ← hfactor] at hother
      exact hother rfl
  · rw [hexecute] at he
    exact nomatch he

/-- **A call that fails.** Nothing was done, or the keyspace is gone or half made. -/
theorem reconcile_failed (h : Backed store n db) {e : Failure}
    (hrun : reconcile store n snapshot s = (.error e, s')) :
    db s' = db s ∨ Pairs.get? n.keyspace (db s') = none
      ∨ ∃ k, HalfMade n snapshot.size k ∧ Pairs.get? n.keyspace (db s') = some k := by
  obtain ⟨hsame, -⟩ := describe_spec h s
  rcases hd : describe store n s with ⟨e₁ | found, s₁⟩
  · rw [hd] at hsame
    have hfail : reconcile store n snapshot s = (.error e₁, s₁) := Action.bind_of_error hd
    rw [hfail] at hrun
    obtain ⟨-, rfl⟩ := Prod.mk.inj hrun
    exact .inl hsame
  · rw [hd] at hsame
    have hgo : reconcile store n snapshot s =
        (executeAll store (plan n found snapshot.size) >>= fun _ => pure (snapshot.size : Int))
          (store.report (planNotice n found snapshot.size) s₁).2 := Action.bind_of_ok hd
    have hstart : db (store.report (planNotice n found snapshot.size) s₁).2 = db s :=
      (h.reported _ _).trans hsame
    rw [hgo] at hrun
    generalize (store.report (planNotice n found snapshot.size) s₁).2 = s₂ at hstart hrun
    rcases executeAll_spec h (fun _ hm => hm) s₂ with ⟨hok, -⟩ | ⟨e₁, done, next, rest, he, hsplit, hdone⟩
    · -- A call whose statements were all carried out would have returned.
      rw [Action.bind_of_ok (Prod.ext hok rfl)] at hrun
      exact nomatch (congrArg Prod.fst hrun)
    · rw [Action.bind_of_error (Prod.ext he rfl)] at hrun
      obtain ⟨-, rfl⟩ := Prod.mk.inj hrun
      rw [hstart] at hdone
      exact plan_part hsplit hdone

end Calls

/-! ## Histories of calls -/

/-- The state after calls with these snapshots, whether they returned or failed. -/
def afterCalls (store : Store σ) (n : Names) (calls : List Snapshot) (s : σ) : σ :=
  calls.foldl (fun s snapshot => (reconcile store n snapshot s).2) s

theorem afterCalls_append (calls more : List Snapshot) (s : σ) :
    afterCalls store n (calls ++ more) s = afterCalls store n more (afterCalls store n calls s) :=
  List.foldl_append

/-- A call for so many nodes failed, and nothing has changed since. -/
def Abandoned (store : Store σ) (n : Names) (db : σ → Database) (s : σ) (calls : List Snapshot)
    (size : Nat) : Prop :=
  ∃ earlier failed later e s₁, calls = earlier ++ failed :: later ∧ failed.size = size
    ∧ reconcile store n failed (afterCalls store n earlier s) = (.error e, s₁)
    ∧ db (afterCalls store n calls s) = db s₁

/-- What calls can leave: no keyspace, a complete one, or one that a failed call left half made. -/
def Inv (store : Store σ) (n : Names) (db : σ → Database) (s : σ) (calls : List Snapshot) : Prop :=
  ∀ k, Pairs.get? n.keyspace (db (afterCalls store n calls s)) = some k →
    k = n.complete k.factor ∨ (HalfMade n k.factor k ∧ Abandoned store n db s calls k.factor)

/-- What was abandoned stays so while nothing changes. -/
theorem Abandoned.call {s : σ} {calls : List Snapshot} {size : Nat} {snapshot : Snapshot}
    (h : Abandoned store n db s calls size)
    (hsame : db (afterCalls store n (calls ++ [snapshot]) s) = db (afterCalls store n calls s)) :
    Abandoned store n db s (calls ++ [snapshot]) size := by
  obtain ⟨earlier, failed, later, e, s₁, rfl, hsize, hrun, hdb⟩ := h
  refine ⟨earlier, failed, later ++ [snapshot], e, s₁, ?_, hsize, hrun, hsame.trans hdb⟩
  rw [List.append_assoc, List.cons_append]

/-- **The invariant is kept by every call.** -/
theorem Inv.call (hb : Backed store n db) {s : σ} {calls : List Snapshot} (snapshot : Snapshot)
    (h : Inv store n db s calls) : Inv store n db s (calls ++ [snapshot]) := by
  intro k hk
  have hafter : afterCalls store n (calls ++ [snapshot]) s
      = (reconcile store n snapshot (afterCalls store n calls s)).2 := afterCalls_append _ _ _
  -- A call that changed nothing leaves what was abandoned abandoned.
  have hunchanged : db (afterCalls store n (calls ++ [snapshot]) s) = db (afterCalls store n calls s) →
      k = n.complete k.factor
        ∨ (HalfMade n k.factor k ∧ Abandoned store n db s (calls ++ [snapshot]) k.factor) := by
    intro hsame
    rw [hsame] at hk
    exact (h k hk).imp_right fun ⟨hhalf, habandoned⟩ => ⟨hhalf, habandoned.call hsame⟩
  rcases hrun : reconcile store n snapshot (afterCalls store n calls s) with ⟨e | size, s₁⟩
  · rw [hrun] at hafter
    -- A call that failed half way is itself the one that abandoned the keyspace.
    rcases reconcile_failed hb hrun with hsame | hgone | ⟨k', hhalf, hk'⟩
    · exact hunchanged (hafter ▸ hsame)
    · rw [hafter, hgone] at hk
      exact nomatch hk
    · rw [hafter, hk'] at hk
      obtain rfl : k' = k := Option.some.inj hk
      rw [hhalf.factor_eq]
      exact .inr ⟨hhalf, calls, snapshot, [], e, s₁, rfl, rfl, hrun, by rw [hafter]⟩
  · rw [hrun] at hafter
    rcases reconcile_returned hb hrun with ⟨_, -, -, hsame⟩ | ⟨-, hcomplete⟩
    · exact hunchanged (hafter ▸ hsame)
    · rw [hafter, hcomplete] at hk
      obtain rfl : n.complete snapshot.size = k := Option.some.inj hk
      exact .inl rfl

theorem Inv.calls (hb : Backed store n db) {s : σ}
    (habsent : Pairs.get? n.keyspace (db s) = none) (calls : List Snapshot) :
    Inv store n db s calls := by
  induction calls using List.reverseRecOn with
  | nil =>
    intro k hk
    have hk : Pairs.get? n.keyspace (db s) = some k := hk
    rw [habsent] at hk
    exact nomatch hk
  | append_singleton calls snapshot ih => exact ih.call hb snapshot

/-- **Reconciliation heals what failed half way.** A call that returns, after any calls that returned or
failed, leaves the keyspace with one copy for each node, and complete — unless a call for as many nodes
failed half way and nothing has changed since: that keyspace is taken as it is. -/
theorem reconcile_heals (hb : Backed store n db) {s s' : σ}
    (habsent : Pairs.get? n.keyspace (db s) = none) (calls : List Snapshot) (snapshot : Snapshot)
    (size : Int) (hrun : reconcile store n snapshot (afterCalls store n calls s) = (.ok size, s')) :
    size = snapshot.size
      ∧ ∃ k, Pairs.get? n.keyspace (db s') = some k ∧ k.factor = snapshot.size
        ∧ (k.tables = [(n.table, [seedKey])]
          ∨ (HalfMade n snapshot.size k ∧ db s' = db (afterCalls store n calls s)
            ∧ Abandoned store n db s calls snapshot.size)) := by
  refine ⟨(reconcile_eq_ok hrun).1, ?_⟩
  rcases reconcile_returned hb hrun with ⟨k, hk, hfactor, hsame⟩ | ⟨-, hcomplete⟩
  · refine ⟨k, hsame ▸ hk, hfactor, ?_⟩
    rw [← hfactor]
    rcases Inv.calls hb habsent calls k hk with hcomplete | ⟨hhalf, habandoned⟩
    · rw [hcomplete]
      exact .inl rfl
    · exact .inr ⟨hhalf, hsame, habandoned⟩
  · exact ⟨n.complete snapshot.size, hcomplete, rfl, .inl rfl⟩

/-- The names that a check uses by default. -/
def defaultNames : Names := ⟨"healthcheck", "healthcheck"⟩

/-- A snapshot of two nodes. -/
def twoNodes : Snapshot := ⟨.ofList ["10.0.0.1", "10.0.0.2"], by decide⟩

/-- A snapshot of three nodes. -/
def threeNodes : Snapshot := ⟨.ofList ["10.0.0.1", "10.0.0.2", "10.0.0.3"], by decide⟩

/-- An empty database that fails to make the first table. -/
def withoutTable : Server :=
  ⟨[], [none, none, some (.store "OperationTimedOut: errors=None, last_host=None")]⟩

/-- After a call for two nodes that failed half way, a call for three nodes makes the keyspace anew. -/
theorem reconcile_heals_threeNodes : ∃ s',
    reconcile Server.store defaultNames threeNodes
        (afterCalls Server.store defaultNames [twoNodes] withoutTable) = (.ok 3, s')
      ∧ ∃ k, Pairs.get? defaultNames.keyspace s'.database = some k ∧ k.factor = 3 := by
  have hb : Backed Server.store defaultNames Server.database :=
    Server.backed ⟨by decide, by decide⟩ ⟨by decide, by decide⟩
  have hsize : (reconcile Server.store defaultNames threeNodes
      (afterCalls Server.store defaultNames [twoNodes] withoutTable)).1.toOption = some 3 := by
    decide +kernel
  rcases hrun : reconcile Server.store defaultNames threeNodes
      (afterCalls Server.store defaultNames [twoNodes] withoutTable) with ⟨e | size, s'⟩
  · rw [hrun] at hsize
    exact nomatch hsize
  · rw [hrun] at hsize
    obtain rfl : size = 3 := Option.some.inj hsize
    obtain ⟨-, k, hk, hfactor, -⟩ := reconcile_heals hb rfl [twoNodes] threeNodes 3 hrun
    have hthree : threeNodes.size = 3 := by decide
    exact ⟨s', rfl, k, hk, hfactor.trans hthree⟩

/-- After a call for three nodes that failed half way, a call for three nodes returns and leaves the keyspace
without its table. -/
theorem half_made_stays :
    Pairs.get? defaultNames.keyspace withoutTable.database = none
    ∧ (reconcile Server.store defaultNames threeNodes withoutTable).1.toOption = none
    ∧ (reconcile Server.store defaultNames threeNodes
        (afterCalls Server.store defaultNames [threeNodes] withoutTable)).1.toOption = some 3
    ∧ Pairs.get? defaultNames.keyspace (reconcile Server.store defaultNames threeNodes
        (afterCalls Server.store defaultNames [threeNodes] withoutTable)).2.database = some ⟨3, []⟩ := by
  refine ⟨rfl, ?_, ?_, ?_⟩
  all_goals decide +kernel

end ClusterHealth.Schema
