import ClusterHealth.Proofs.Healing
import ClusterHealth.Proofs.Watch
import Mathlib.Algebra.Group.Nat.Defs

/-!
# `ClusterHealth.Proofs.Convergence` — one reconciliation is enough

Where nothing fails, a single reconciliation gives the keyspace as many copies as there are nodes, and the
next one finds nothing to do. The number goes out as part of a statement and comes back as text in the
metadata; if what is read differed from what was written, every check would drop the keyspace again.

## Contents
- `Keyspace.ofOptions_valid`: the number of copies is read back from the metadata.
- `Schema.Reliable store n db calm`: a store that does what its database does, and does not fail.
- `Schema.carryOut_plan`: no statement of a plan is refused that fits what there is.
- `Schema.carryOut_other`: a plan leaves all other keyspaces alone.
- `Schema.reconcile_converges`: one reconciliation, and the next.
-/

namespace ClusterHealth

open ClusterHealth.Text ClusterHealth.Number ClusterHealth.Cql ClusterHealth.Topology
  ClusterHealth.Validation

/-! ## Reading back the number of copies -/

/-- **The number of copies is read back**, as long as it has no more digits than are read. -/
theorem Cql.Keyspace.ofOptions_valid {k : Keyspace} (hpos : 1 ≤ k.factor)
    (hshort : k.factor < 10 ^ maxIntegerLength) :
    Replication.ofOptions k.options = .ok ⟨"org.apache.cassandra.locator.SimpleStrategy", k.factor, []⟩ := by
  have hlength : (decimalChars k.factor).length ≤ maxIntegerLength := by
    unfold decimalChars
    rw [List.length_map]
    exact length_digits_le (by decide) (by rw [Nat.pow_eq]; exact hshort)
  have hread : atLeast 1 integer (.text (decimal k.factor)) = .ok (k.factor : Int) := by
    have hpos : (1 : Int) ≤ k.factor := Int.ofNat_le.2 hpos
    unfold atLeast Rule.such
    rw [integer_decimal, if_neg (Nat.not_lt.2 hlength)]
    simp [bind, Except.bind, hpos, pure, Except.pure]
  rw [ofOptions_options, hread]

/-- There is no snapshot without nodes. -/
theorem Topology.Snapshot.one_le_size (snapshot : Snapshot) : 1 ≤ snapshot.size :=
  List.length_pos_iff.2 snapshot.nonempty

namespace Schema

variable {σ : Type} {store : Store σ} {n : Names} {db : σ → Database} {calm : σ → Prop} {s : σ}

/-! ## Plans that fit -/

section Plans

variable {d d' : Database} {found : Option Int} {wanted : Nat} {statement : Statement} {keyspace : String}

/-- Where there is no keyspace, one can be made. -/
theorem carryOut_creation (habsent : Pairs.get? n.keyspace d = none) :
    ∃ d', carryOut d (creation n wanted) = .ok d' := by
  -- Each of the three statements makes just what the next one needs.
  have hmade : (Statement.createKeyspace n.keyspace wanted).carriedOut d
      = .ok (Pairs.put n.keyspace ⟨wanted, []⟩ d) := by
    simp [Statement.carriedOut, habsent]
  have hbare := bare_of_createKeyspace hmade
  generalize Pairs.put n.keyspace ⟨wanted, []⟩ d = d₁ at hmade hbare
  have hnoTable : Pairs.get? n.table ([] : List (String × List String)) = none := rfl
  obtain ⟨d₂, htabled⟩ : ∃ d₂, (Statement.createTable n.keyspace n.table).carriedOut d₁ = .ok d₂ := by
    simp [Statement.carriedOut, hbare, hnoTable]
  have hunseeded := unseeded_of_createTable hbare htabled
  have hnoRow : Pairs.get? n.table [(n.table, ([] : List String))] = some [] := by simp [Pairs.get?]
  obtain ⟨d₃, hseeded⟩ : ∃ d₃, (Statement.insertSeed n.keyspace n.table).carriedOut d₂ = .ok d₃ := by
    simp [Statement.carriedOut, hunseeded, hnoRow]
  refine ⟨d₃, ?_⟩
  unfold carryOut creation
  rw [List.foldlM_cons, hmade]
  show List.foldlM _ d₁ _ = _
  rw [List.foldlM_cons, htabled]
  show List.foldlM _ d₂ _ = _
  rw [List.foldlM_cons, hseeded]
  rfl

/-- A plan that fits what there is can be carried out in full. -/
theorem carryOut_plan (d : Database) (wanted : Nat) :
    ∃ d', carryOut d (plan n ((Pairs.get? n.keyspace d).map fun k => (k.factor : Int)) wanted) = .ok d' := by
  cases hk : Pairs.get? n.keyspace d with
  | none => exact carryOut_creation hk
  | some k =>
    by_cases hfactor : (k.factor : Int) = wanted
    · exact ⟨d, congrArg (carryOut d) (if_pos hfactor)⟩
    · have hdropped : (Statement.dropKeyspace n.keyspace).carriedOut d = .ok (Pairs.erase n.keyspace d) := by
        simp [Statement.carriedOut, hk]
      obtain ⟨d', hmade⟩ : ∃ d', carryOut (Pairs.erase n.keyspace d) (creation n wanted) = .ok d' :=
        carryOut_creation (Pairs.get?_erase_self n.keyspace d)
      refine ⟨d', ?_⟩
      have hplan : plan n (some (k.factor : Int)) wanted = .dropKeyspace n.keyspace :: creation n wanted :=
        if_neg hfactor
      show carryOut d (plan n (some (k.factor : Int)) wanted) = _
      rw [hplan]
      unfold carryOut
      rw [List.foldlM_cons, hdropped]
      exact hmade

/-- A statement of a plan changes no other keyspace. -/
theorem carriedOut_other (hmem : statement ∈ plan n found wanted)
    (h : statement.carriedOut d = .ok d') (hother : keyspace ≠ n.keyspace) :
    Pairs.get? keyspace d' = Pairs.get? keyspace d := by
  have hcases : statement = .dropKeyspace n.keyspace ∨ statement ∈ creation n wanted := by
    cases found with
    | none => exact .inr hmem
    | some factor =>
      unfold plan at hmem
      simp only at hmem
      split at hmem
      · exact absurd hmem List.not_mem_nil
      · exact List.mem_cons.1 hmem
  simp only [creation, List.mem_cons, List.not_mem_nil, or_false] at hcases
  rcases hcases with rfl | rfl | rfl | rfl
  · obtain rfl := carriedOut_dropKeyspace h
    exact Pairs.get?_erase_ne hother d
  · obtain ⟨-, rfl⟩ := carriedOut_createKeyspace h
    exact Pairs.get?_put_ne hother _ d
  · obtain ⟨k, -, -, rfl⟩ := carriedOut_createTable h
    exact Pairs.get?_put_ne hother _ d
  · obtain ⟨k, keys, -, -, rfl⟩ := carriedOut_insertSeed h
    exact Pairs.get?_put_ne hother _ d

/-- A plan changes no other keyspace. -/
theorem carryOut_other {statements : List Statement}
    (hmem : ∀ statement ∈ statements, statement ∈ plan n found wanted)
    (h : carryOut d statements = .ok d') (hother : keyspace ≠ n.keyspace) :
    Pairs.get? keyspace d' = Pairs.get? keyspace d := by
  induction statements generalizing d with
  | nil => rw [carryOut_nil h]
  | cons statement rest ih =>
    obtain ⟨d₁, hfirst, hrest⟩ := carryOut_cons h
    rw [ih (fun x hx => hmem x (List.mem_cons_of_mem statement hx)) hrest]
    exact carriedOut_other (hmem statement List.mem_cons_self) hfirst hother

end Plans

/-! ## Stores that do not fail -/

/-- A store that does what its database does, and that does not fail in a state that is calm: metadata are
answered, and a statement that the database does not refuse is carried out. It stays calm. -/
structure Reliable (store : Store σ) (n : Names) (db : σ → Database) (calm : σ → Prop) : Prop
    extends Backed store n db where
  answered : ∀ {s}, calm s → ∃ options s', store.replication n.keyspace s = (.ok options, s') ∧ calm s'
  obeyed : ∀ {found} {wanted : Nat} {statement s d}, calm s → statement ∈ plan n found wanted →
    statement.carriedOut (db s) = .ok d → ∃ s', store.execute statement.request s = (.ok (), s') ∧ calm s'
  unmoved : ∀ {s} notice, calm s → calm (store.report notice s).2

/-- What is there is found, if its metadata are valid. -/
theorem describe_calm (h : Reliable store n db calm) (hs : calm s)
    (hvalid : ∀ k, Pairs.get? n.keyspace (db s) = some k → ∃ r, Replication.ofOptions k.options = .ok r) :
    ∃ s', describe store n s = (.ok ((Pairs.get? n.keyspace (db s)).map fun k => (k.factor : Int)), s')
      ∧ db s' = db s ∧ calm s' := by
  obtain ⟨options, s', hanswer, hs'⟩ := h.answered hs
  have hsame := h.looked s
  rw [hanswer] at hsame
  refine ⟨s', ?_, hsame, hs'⟩
  rw [describe_apply, hanswer, h.found hanswer]
  cases hk : Pairs.get? n.keyspace (db s) with
  | none => rfl
  | some k =>
    obtain ⟨r, hr⟩ := hvalid k hk
    simp only [Option.map_some, copiesIn, hr, Keyspace.factor_of_options hr]

/-- Statements that the database does not refuse are all carried out. -/
theorem executeAll_calm (h : Reliable store n db calm) {found : Option Int} {wanted : Nat}
    {statements : List Statement} (hmem : ∀ statement ∈ statements, statement ∈ plan n found wanted)
    (hs : calm s) {d : Database} (hd : carryOut (db s) statements = .ok d) :
    ∃ s', executeAll store statements s = (.ok (), s') ∧ db s' = d ∧ calm s' := by
  -- By induction on the statements: the store is calm again behind each of them.
  induction statements generalizing s with
  | nil => exact ⟨s, rfl, (carryOut_nil hd).symm, hs⟩
  | cons statement rest ih =>
    obtain ⟨d₁, hfirst, hrest⟩ := carryOut_cons hd
    obtain ⟨s₁, hexecute, hs₁⟩ := h.obeyed hs (hmem statement List.mem_cons_self) hfirst
    have hcarried := h.executed (hmem statement List.mem_cons_self) hexecute
    obtain rfl : d₁ = db s₁ := Except.ok.inj (hfirst.symm.trans hcarried)
    obtain ⟨s', hall, hdb, hs'⟩ := ih (fun x hx => hmem x (List.mem_cons_of_mem statement hx)) hs₁ hrest
    refine ⟨s', ?_, hdb, hs'⟩
    show (store.execute statement.request >>= fun _ => executeAll store rest) s = _
    rw [Action.bind_of_ok hexecute]
    exact hall

/-- A reconciliation returns, and does nothing to other keyspaces. -/
theorem reconcile_calm (h : Reliable store n db calm) (hs : calm s)
    (hvalid : ∀ k, Pairs.get? n.keyspace (db s) = some k → ∃ r, Replication.ofOptions k.options = .ok r)
    (snapshot : Snapshot) : ∃ s', reconcile store n snapshot s = (.ok snapshot.size, s') ∧ calm s'
      ∧ ∀ keyspace, keyspace ≠ n.keyspace →
        Pairs.get? keyspace (db s') = Pairs.get? keyspace (db s) := by
  obtain ⟨s₁, hdescribe, hdb₁, hs₁⟩ := describe_calm h hs hvalid
  generalize hfound : (Pairs.get? n.keyspace (db s)).map (fun k => (k.factor : Int)) = found at hdescribe
  have hs₂ := h.unmoved (planNotice n found snapshot.size) hs₁
  have hdb₂ := (h.reported (planNotice n found snapshot.size) s₁).trans hdb₁
  generalize hreport : (store.report (planNotice n found snapshot.size) s₁).2 = s₂ at hs₂ hdb₂
  obtain ⟨d, hd⟩ := carryOut_plan (n := n) (db s) snapshot.size
  rw [hfound, ← hdb₂] at hd
  obtain ⟨s', hexecute, hdb', hs'⟩ := executeAll_calm h (fun _ hm => hm) hs₂ hd
  refine ⟨s', ?_, hs', ?_⟩
  · rw [reconcile_apply, hdescribe]
    simp only [hreport, hexecute]
  · intro keyspace hother
    rw [hdb', ← hdb₂]
    exact carryOut_other (fun _ hm => hm) hd hother

/-! ## One reconciliation, and the next -/

/-- Where the keyspace has as many copies as there are nodes, nothing is due. -/
theorem due_of_inPlace (h : Backed store n db) {k : Keyspace} {snapshot : Snapshot}
    (hk : Pairs.get? n.keyspace (db s) = some k) (hfactor : k.factor = snapshot.size) :
    due store n snapshot s = [] := by
  obtain ⟨-, hfound⟩ := describe_spec h s
  unfold due
  cases hd : (describe store n s).1 with
  | error e => rfl
  | ok found =>
    rw [hfound found hd, hk]
    exact if_pos (congrArg Int.ofNat hfactor)

/-- Then a reconciliation changes nothing, be its metadata valid or not. -/
theorem reconcile_inPlace (h : Backed store n db) {k : Keyspace} {snapshot : Snapshot}
    (hk : Pairs.get? n.keyspace (db s) = some k) (hfactor : k.factor = snapshot.size) :
    db (reconcile store n snapshot s).2 = db s := by
  obtain ⟨hsame, hfound⟩ := describe_spec h s
  rw [reconcile_apply]
  rcases hd : describe store n s with ⟨e | found, s₁⟩
  · rw [hd] at hsame
    exact hsame
  · rw [hd] at hsame hfound
    have hplan : plan n found snapshot.size = [] := by
      rw [hfound found rfl, hk]
      exact if_pos (congrArg Int.ofNat hfactor)
    simp only [hplan]
    exact (h.reported _ s₁).trans hsame

/-- **Reconciliation reaches the number of nodes and then stays put.** Let the keyspace be absent, or be
there with valid metadata. A reconciliation returns the number of nodes. If that was the number of copies,
nothing has changed; else the keyspace is complete, with its table and the one row and nothing else. All
other keyspaces are as they were. A second reconciliation for as many nodes sends no statement and changes
nothing. What is described and returned then is the number of nodes, as long as that has no more digits than
are read; all numbers that a machine word can hold have far fewer. -/
theorem reconcile_converges (h : Reliable store n db calm) (hs : calm s)
    (hvalid : ∀ k, Pairs.get? n.keyspace (db s) = some k → ∃ r, Replication.ofOptions k.options = .ok r)
    (snapshot : Snapshot) : ∃ s', reconcile store n snapshot s = (.ok snapshot.size, s')
      ∧ ((∀ k, Pairs.get? n.keyspace (db s) = some k → k.factor ≠ snapshot.size) →
          Pairs.get? n.keyspace (db s') = some ⟨snapshot.size, [(n.table, [seedKey])]⟩)
      ∧ ((∃ k, Pairs.get? n.keyspace (db s) = some k ∧ k.factor = snapshot.size) → db s' = db s)
      ∧ (∀ keyspace, keyspace ≠ n.keyspace → Pairs.get? keyspace (db s') = Pairs.get? keyspace (db s))
      ∧ (snapshot.size < 10 ^ maxIntegerLength → (describe store n s').1 = .ok (some snapshot.size))
      ∧ ∀ again : Snapshot, again.size = snapshot.size →
        Access.statements (reconcile store.watched n again (s', [])).2.2 = []
          ∧ db (reconcile store n again s').2 = db s'
          ∧ (snapshot.size < 10 ^ maxIntegerLength →
            (reconcile store n again s').1 = .ok snapshot.size) := by
  obtain ⟨s', hreconcile, hs', hothers⟩ := reconcile_calm h hs hvalid snapshot
  have hreturned := reconcile_returned h.toBacked hreconcile
  obtain ⟨k', hk', hfactor'⟩ : ∃ k', Pairs.get? n.keyspace (db s') = some k' ∧ k'.factor = snapshot.size := by
    rcases hreturned with ⟨k, hk, hfactor, hsame⟩ | ⟨-, hcomplete⟩
    · exact ⟨k, hsame ▸ hk, hfactor⟩
    · exact ⟨_, hcomplete, rfl⟩
  -- What was written is valid, unless the number is too long to be read.
  have hvalid' : snapshot.size < 10 ^ maxIntegerLength → ∀ k, Pairs.get? n.keyspace (db s') = some k →
      ∃ r, Replication.ofOptions k.options = .ok r := by
    intro hshort k hk
    obtain rfl : k' = k := Option.some.inj (hk'.symm.trans hk)
    exact ⟨_, Keyspace.ofOptions_valid (hfactor' ▸ snapshot.one_le_size) (hfactor' ▸ hshort)⟩
  refine ⟨s', hreconcile, ?_, ?_, hothers, ?_, ?_⟩
  · intro hother
    rcases hreturned with ⟨k, hk, hfactor, -⟩ | ⟨-, hcomplete⟩
    · exact absurd hfactor (hother k hk)
    · exact hcomplete
  · rintro ⟨k, hk, hfactor⟩
    rcases hreturned with ⟨-, -, -, hsame⟩ | ⟨hother, -⟩
    · exact hsame
    · exact absurd hfactor (hother k hk)
  · intro hshort
    obtain ⟨s₁, hdescribe, -, -⟩ := describe_calm h hs' (hvalid' hshort)
    rw [hdescribe, hk', ← hfactor']
    rfl
  · intro again hsize
    have hplace := hfactor'.trans hsize.symm
    refine ⟨?_, ?_, ?_⟩
    · obtain ⟨done, hdone, -, -, hlog⟩ := reconcile_watched store n again s' []
      rw [due_of_inPlace h.toBacked hk' hplace] at hdone
      rw [hlog, List.prefix_nil.1 hdone]
      rfl
    · exact reconcile_inPlace h.toBacked hk' hplace
    · intro hshort
      obtain ⟨s₁, hagain, -⟩ := reconcile_calm h hs' (hvalid' hshort) again
      rw [hagain, hsize]

/-- A server that holds back no failures is reliable. -/
theorem server_reliable (hk : Statement.PlainName n.keyspace) (ht : Statement.PlainName n.table) :
    Reliable Server.store n Server.database (fun server => server.failures = []) where
  toBacked := Server.backed hk ht
  answered := by
    rintro ⟨d, failures⟩ rfl
    exact ⟨_, _, rfl, rfl⟩
  obeyed := by
    rintro found wanted statement ⟨d, failures⟩ d' rfl hmem hcarried
    refine ⟨⟨d', []⟩, ?_, rfl⟩
    show Server.call.go (Server.obey statement.request) [] d = _
    unfold Server.call.go
    rw [Server.obey_request (Server.plain_of_mem_plan hk ht hmem)]
    have hcarried : statement.carriedOut d = .ok d' := hcarried
    rw [hcarried]
    rfl
  unmoved := fun _ hs => hs

/-- A keyspace with two copies and an old table, beside another keyspace. -/
def twoCopies : Server :=
  ⟨[("healthcheck", ⟨2, [("old", ["key"])]⟩), ("other", ⟨5, [("t", ["a", "b"])]⟩)], []⟩

/-- What there is has two copies, and valid metadata. -/
theorem twoCopies_found {k : Keyspace} (h : Pairs.get? defaultNames.keyspace twoCopies.database = some k) :
    k.factor = 2 ∧ ∃ r, Replication.ofOptions k.options = .ok r := by
  have hkeyspace : Pairs.get? defaultNames.keyspace twoCopies.database = some ⟨2, [("old", ["key"])]⟩ := rfl
  obtain rfl := Option.some.inj (hkeyspace.symm.trans h)
  have hshort : 2 < 10 ^ maxIntegerLength := by
    refine Nat.lt_of_lt_of_le (by decide : 2 < 10 ^ 1) ?_
    exact Nat.pow_le_pow_right (by decide) (by decide)
  exact ⟨rfl, _, Keyspace.ofOptions_valid (by decide) hshort⟩

/-- For three nodes, a keyspace with two copies is made anew and complete; the other one stays. -/
theorem reconcile_converges_twoCopies : ∃ s',
    reconcile Server.store defaultNames threeNodes twoCopies = (.ok 3, s')
      ∧ Pairs.get? "healthcheck" s'.database = some ⟨3, [("healthcheck", ["healthy"])]⟩
      ∧ Pairs.get? "other" s'.database = some ⟨5, [("t", ["a", "b"])]⟩
      ∧ (describe Server.store defaultNames s').1 = .ok (some 3)
      ∧ Access.statements (reconcile Server.store.watched defaultNames threeNodes (s', [])).2.2 = [] := by
  have hshort : 3 < 10 ^ maxIntegerLength := by
    refine Nat.lt_of_lt_of_le (by decide : 3 < 10 ^ 1) ?_
    exact Nat.pow_le_pow_right (by decide) (by decide)
  have hthree : threeNodes.size = 3 := by decide
  have hother : ∀ k, Pairs.get? defaultNames.keyspace twoCopies.database = some k →
      k.factor ≠ threeNodes.size := by
    intro k hk
    rw [(twoCopies_found hk).1]
    decide
  obtain ⟨s', hreconcile, hcomplete, -, hothers, hdescribe, hagain⟩ :=
    reconcile_converges (server_reliable ⟨by decide, by decide⟩ ⟨by decide, by decide⟩)
      (rfl : twoCopies.failures = []) (fun _ hk => (twoCopies_found hk).2) threeNodes
  rw [hthree] at hreconcile hcomplete hdescribe
  refine ⟨s', hreconcile, hcomplete (hthree ▸ hother), ?_, ?_, (hagain threeNodes rfl).1⟩
  · exact hothers "other" (by decide)
  · exact hdescribe hshort

end Schema

end ClusterHealth
