import ClusterHealth.Proofs.Replication
import ClusterHealth.Proofs.Topology
import ClusterHealth.Proofs.Verdict
import ClusterHealth.Proofs.Watch

/-!
# `ClusterHealth.Proofs.Dropping` — when a keyspace is dropped

Dropping a keyspace destroys what is in it, so it must not happen by mistake. Whatever a store has, and
whatever goes wrong with it, a check drops a keyspace only if valid metadata, looked up by the same check,
tell of another number of copies than there are nodes.

## Contents
- `Schema.due_cases`: what is due is settled by the answer to the lookup and the number of nodes; how it
  begins is `due_dropKeyspace_iff` and `due_createKeyspace_iff`.
- `Check.Inquiry.of_taken`: what a check has asked once it knows the nodes.
- `Check.drop_justified`: the statements of a check, told by that answer.
-/

namespace ClusterHealth

open ClusterHealth.Cql

variable {σ : Type} {store : Store σ} {s s' : σ}

namespace Cql.Statement

/-- A statement that drops a keyspace is none that makes one. -/
theorem dropKeyspace_request_ne (dropped made : String) (factor : Int) :
    (dropKeyspace dropped).request ≠ (createKeyspace made factor).request := by
  intro h
  have hchars : ("DROP KEYSPACE " ++ dropped).toList = ("CREATE KEYSPACE " ++ made
      ++ " WITH REPLICATION = \x7b 'class': 'SimpleStrategy', 'replication_factor': "
      ++ Text.decimalInt factor ++ " \x7d").toList := congrArg String.toList (Request.mk.inj h).1
  -- Already the first characters differ.
  have hdrop : "DROP KEYSPACE ".toList = 'D' :: "ROP KEYSPACE ".toList := by decide
  have hcreate : "CREATE KEYSPACE ".toList = 'C' :: "REATE KEYSPACE ".toList := by decide
  have hhead := congrArg List.head? hchars
  rw [String.toList_append, String.toList_append, String.toList_append, String.toList_append,
    String.toList_append, hdrop, hcreate] at hhead
  simp only [List.cons_append, List.head?_cons, Option.some.injEq] at hhead
  exact absurd hhead (by decide)

end Cql.Statement

/-! ## What is due -/

namespace Schema

variable {n : Names} {snapshot : Topology.Snapshot}

/-- **What is due is settled by the answer to the lookup.** The keyspace is made if there is none, dropped
first if valid metadata tell of another number of copies than wanted, and else nothing is sent. -/
theorem due_cases (store : Store σ) (n : Names) (snapshot : Topology.Snapshot) (s : σ) :
    ((store.replication n.keyspace s).1 = .ok none ∧ due store n snapshot s = creation n snapshot.size)
      ∨ (∃ options r, (store.replication n.keyspace s).1 = .ok (some options)
          ∧ Replication.ofOptions options = .ok r ∧ r.factor ≠ snapshot.size
          ∧ due store n snapshot s = .dropKeyspace n.keyspace :: creation n snapshot.size)
      ∨ ((store.replication n.keyspace s).1 ≠ .ok none
          ∧ (∀ options r, (store.replication n.keyspace s).1 = .ok (some options) →
              Replication.ofOptions options = .ok r → r.factor = snapshot.size)
          ∧ due store n snapshot s = []) := by
  unfold due
  rw [describe_apply]
  -- The answer is a failure, that there is no keyspace, or metadata, which may be malformed.
  rcases store.replication n.keyspace s with ⟨e | ⟨_ | options⟩, s₁⟩
  · exact .inr (.inr ⟨nofun, fun _ _ h => (nomatch h), rfl⟩)
  · exact .inl ⟨rfl, rfl⟩
  · cases ho : Replication.ofOptions options with
    | error issues =>
      refine .inr (.inr ⟨nofun, ?_, ?_⟩)
      · intro options' r heq hvalid
        obtain rfl : options = options' := Option.some.inj (Except.ok.inj heq)
        rw [ho] at hvalid
        exact nomatch hvalid
      · simp only [copiesIn, ho]
    | ok r =>
      simp only [copiesIn, ho]
      by_cases hfactor : r.factor = snapshot.size
      · refine .inr (.inr ⟨?_, ?_, if_pos hfactor⟩)
        · intro h
          cases h
        · intro options' r' heq hvalid
          obtain rfl : options = options' := Option.some.inj (Except.ok.inj heq)
          rw [ho] at hvalid
          rw [← Except.ok.inj hvalid]
          exact hfactor
      · exact .inr (.inl ⟨options, r, rfl, ho, hfactor, if_neg hfactor⟩)

/-- What is due is to make the keyspace, to drop it and make it, or nothing. -/
theorem due_prefix : due store n snapshot s <+: creation n snapshot.size
    ∨ due store n snapshot s <+: .dropKeyspace n.keyspace :: creation n snapshot.size := by
  rcases due_cases store n snapshot s with ⟨-, hdue⟩ | ⟨_, _, -, -, -, hdue⟩ | ⟨-, -, hdue⟩
  · exact .inl (hdue ▸ List.prefix_rfl)
  · exact .inr (hdue ▸ List.prefix_rfl)
  · exact .inl (hdue ▸ List.nil_prefix)

/-- To drop the keyspace is due first just if valid metadata tell of another number of copies. -/
theorem due_dropKeyspace_iff :
    (due store n snapshot s).head?.map Statement.request = some (Statement.dropKeyspace n.keyspace).request ↔
      ∃ options r, (store.replication n.keyspace s).1 = .ok (some options)
        ∧ Replication.ofOptions options = .ok r ∧ r.factor ≠ snapshot.size := by
  rcases due_cases store n snapshot s
    with ⟨hanswer, hdue⟩ | ⟨options, r, hanswer, hvalid, hother, hdue⟩ | ⟨-, hplace, hdue⟩
  · rw [hdue, hanswer]
    constructor
    · intro h
      exact absurd (Option.some.inj h).symm (Statement.dropKeyspace_request_ne _ _ _)
    · rintro ⟨options, r, h, -, -⟩
      exact nomatch h
  · rw [hdue]
    exact ⟨fun _ => ⟨options, r, hanswer, hvalid, hother⟩, fun _ => rfl⟩
  · rw [hdue]
    constructor
    · intro h
      exact nomatch h
    · rintro ⟨options, r, hanswer, hvalid, hother⟩
      exact absurd (hplace options r hanswer hvalid) hother

/-- To make the keyspace is due first just if there is none. -/
theorem due_createKeyspace_iff :
    (due store n snapshot s).head?.map Statement.request
        = some (Statement.createKeyspace n.keyspace snapshot.size).request ↔
      (store.replication n.keyspace s).1 = .ok none := by
  rcases due_cases store n snapshot s with ⟨hanswer, hdue⟩ | ⟨_, _, hanswer, -, -, hdue⟩ | ⟨hthere, -, hdue⟩
  · rw [hdue]
    exact ⟨fun _ => hanswer, fun _ => rfl⟩
  · rw [hdue, hanswer]
    constructor
    · intro h
      exact absurd (Option.some.inj h) (Statement.dropKeyspace_request_ne _ _ _)
    · intro h
      exact nomatch h
  · rw [hdue]
    constructor
    · intro h
      exact nomatch h
    · intro h
      exact absurd h hthere

/-- Metadata that are not valid are not described. -/
theorem describe_of_invalid {options : Replication.Options} {issues : List Validation.Issue}
    (hanswer : (store.replication n.keyspace s).1 = .ok (some options))
    (hinvalid : Replication.ofOptions options = .error issues) :
    (describe store n s).1 = .error (.invalid issues) := by
  rw [describe_apply]
  rcases hr : store.replication n.keyspace s with ⟨answer, s₁⟩
  rw [hr] at hanswer
  obtain rfl : answer = .ok (some options) := hanswer
  simp only [copiesIn, hinvalid]

theorem due_of_undescribed {e : Failure} (h : (describe store n s).1 = .error e) :
    due store n snapshot s = [] := by
  unfold due
  rw [h]

/-- What is not described ends a reconciliation. -/
theorem reconcile_of_undescribed {e : Failure} (h : (describe store n s).1 = .error e) :
    (reconcile store n snapshot s).1 = .error e := by
  rw [reconcile_apply]
  rcases hd : describe store n s with ⟨e' | found, s₁⟩
  · rw [hd] at h
    simp only
    exact congrArg Except.error (Except.error.inj h)
  · rw [hd] at h
    exact nomatch h

end Schema

/-! ## Checks -/

namespace Check

variable {names : Schema.Names} {snapshot : Topology.Snapshot} {log : List Access}

/-- A list that is a first part of another begins alike, if it begins where the other does. -/
theorem head?_eq_of_prefix {α : Type} {xs ys : List α} (h : xs <+: ys) (hne : ys ≠ [] → xs ≠ []) :
    xs.head? = ys.head? := by
  obtain ⟨zs, rfl⟩ := h
  cases xs with
  | cons x xs => rfl
  | nil =>
    cases zs with
    | nil => rfl
    | cons z zs => exact absurd rfl (hne (List.cons_ne_nil z zs))

/-- Once the nodes are known, a check has looked up the metadata and sent a first part of what is due. -/
theorem Inquiry.of_taken (h : Inquiry store names s log)
    (taken : takeSnapshot store s = (.ok snapshot, s')) :
    Access.lookUps log
        = [(names.folded.keyspace, (store.replication names.folded.keyspace s').1)]
      ∧ ∃ done, done <+: Schema.due store names.folded snapshot s'
        ∧ (Schema.due store names.folded snapshot s' ≠ [] → done ≠ [])
        ∧ Access.statements log = done.map Statement.request := by
  cases h with
  | unseen unseen =>
    rw [taken] at unseen
    exact nomatch (congrArg Prod.fst unseen)
  | stopped taken' failed part some =>
    rw [taken] at taken'
    obtain ⟨hsnapshot, rfl⟩ := Prod.mk.inj taken'
    obtain rfl := Except.ok.inj hsnapshot
    exact ⟨congrArg (_ :: ·) (Access.lookUps_sending _), _, part, some, Access.statements_sending _⟩
  | probed taken' returned =>
    rw [taken] at taken'
    obtain ⟨hsnapshot, rfl⟩ := Prod.mk.inj taken'
    obtain rfl := Except.ok.inj hsnapshot
    refine ⟨?_, _, List.prefix_rfl, fun h => h, ?_⟩
    · show _ :: Access.lookUps (Access.sending _ ++ _) = _
      rw [Access.lookUps_append, Access.lookUps_sending]
      rfl
    · show Access.statements (Access.sending _ ++ _) = _
      rw [Access.statements_append, Access.statements_sending]
      exact List.append_nil _

/-- The nodes of a snapshot are the distinct names of the hosts. -/
theorem size_of_takeSnapshot (taken : takeSnapshot store s = (.ok snapshot, s')) :
    ∃ hosts, (store.hosts s).1 = .ok hosts
      ∧ snapshot.size = (hosts.map Topology.nodeName).dedup.length := by
  obtain ⟨hosts, s₁, hhosts, h⟩ := Action.bind_eq_ok taken
  refine ⟨hosts, congrArg Prod.fst hhosts, ?_⟩
  cases hn : Topology.Snapshot.ofNodes? (Topology.nodeNames hosts) with
  | none =>
    rw [hn] at h
    exact nomatch (congrArg Prod.fst h)
  | some found =>
    rw [hn] at h
    have hsame : found = snapshot := Except.ok.inj (congrArg Prod.fst h)
    rw [← hsame]
    show found.nodes.size = _
    rw [nodes_of_ofNodes? hn]
    exact Network.NodeSet.size_ofList _

/-- A check whose reconciliation fails otherwise than in the store ends with that failure. -/
theorem run_of_reconcile_error {e : Failure} (taken : takeSnapshot store s = (.ok snapshot, s'))
    (failed : (Schema.reconcile store names.folded snapshot s').1 = .error e) (he : e.isStore = false) :
    (run store names s).1 = .error e := by
  rw [run_apply, taken]
  rcases hr : Schema.reconcile store names.folded snapshot s' with ⟨e' | size, s₂⟩
  · rw [hr] at failed
    obtain rfl : e' = e := Except.error.inj failed
    simp only [hr, givenUp, he, Bool.false_eq_true, if_false]
  · rw [hr] at failed
    exact nomatch failed

/-- **A keyspace is dropped only with good reason.** Whatever a store has and whatever fails, a check that
does not know the nodes asks nothing more. One that does looks up the metadata of its keyspace once. What it
sends then is a first part of making the keyspace with one copy for each node, or of dropping it and making
it. It begins with dropping just if the answer was valid metadata with another number of copies, and with
making just if the answer was that there is no keyspace. With malformed metadata nothing is sent, and the
check ends with what is wrong with them. -/
theorem drop_justified (store : Store σ) (names : Schema.Names) (s : σ) : ∃ log,
    run store.watched names (s, []) = ((run store names s).1, (run store names s).2, log)
      ∧ (∀ e, (takeSnapshot store s).1 = .error e → log = [])
      ∧ ∀ snapshot, (takeSnapshot store s).1 = .ok snapshot →
        (∃ hosts, (store.hosts s).1 = .ok hosts
          ∧ snapshot.size = (hosts.map Topology.nodeName).dedup.length)
        ∧ ∃ answer, Access.lookUps log = [(names.folded.keyspace, answer)]
          ∧ (Access.statements log <+: (Schema.creation names.folded snapshot.size).map Statement.request
            ∨ Access.statements log <+: (.dropKeyspace names.folded.keyspace
                :: Schema.creation names.folded snapshot.size).map Statement.request)
          ∧ ((Access.statements log).head? = some (Statement.dropKeyspace names.folded.keyspace).request ↔
              ∃ options r, answer = .ok (some options) ∧ Replication.ofOptions options = .ok r
                ∧ r.factor ≠ snapshot.size)
          ∧ ((Access.statements log).head?
                = some (Statement.createKeyspace names.folded.keyspace snapshot.size).request ↔
              answer = .ok none)
          ∧ ∀ options, answer = .ok (some options) → Replication.Malformed options →
              Access.statements log = []
                ∧ ∃ issues, Replication.ofOptions options = .error issues
                  ∧ (run store names s).1 = .error (.invalid issues) := by
  obtain ⟨log, hrun, hinquiry⟩ := run_watched store names s
  refine ⟨log, hrun, ?_, ?_⟩
  · intro e he
    cases hinquiry with
    | unseen taken => rfl
    | stopped taken failed part some =>
      rw [taken] at he
      exact nomatch he
    | probed taken returned =>
      rw [taken] at he
      exact nomatch he
  · intro snapshot hsnapshot
    have taken : takeSnapshot store s = (.ok snapshot, (takeSnapshot store s).2) := Prod.ext hsnapshot rfl
    generalize (takeSnapshot store s).2 = s₁ at taken
    obtain ⟨hlookUps, done, hpart, hsome, hsent⟩ := hinquiry.of_taken taken
    have hhead : (Access.statements log).head?
        = (Schema.due store names.folded snapshot s₁).head?.map Statement.request := by
      rw [hsent, List.head?_map, head?_eq_of_prefix hpart hsome]
    have hfirst : Access.statements log
        <+: (Schema.due store names.folded snapshot s₁).map Statement.request := by
      rw [hsent]
      exact hpart.map _
    refine ⟨size_of_takeSnapshot taken, _, hlookUps, ?_, ?_, ?_, ?_⟩
    · exact Schema.due_prefix.imp (fun h => hfirst.trans (h.map _)) (fun h => hfirst.trans (h.map _))
    · rw [hhead]
      exact Schema.due_dropKeyspace_iff
    · rw [hhead]
      exact Schema.due_createKeyspace_iff
    · intro options hanswer hbad
      obtain ⟨issues, hissues⟩ := Replication.malformed_iff.1 hbad
      have hdescribe := Schema.describe_of_invalid hanswer hissues
      refine ⟨?_, issues, hissues, ?_⟩
      · rw [Schema.due_of_undescribed hdescribe] at hfirst
        exact List.prefix_nil.1 hfirst
      · exact run_of_reconcile_error taken (Schema.reconcile_of_undescribed hdescribe) rfl

/-- Two nodes, and a keyspace with three copies. -/
def threeCopies : Machine :=
  .ofParts .initial
    { Cluster.empty with
      hosts := [.text "10.0.0.1", .text "10.0.0.2"]
      keyspaces := [("health", Cluster.simpleOptions "3")] }

/-- A keyspace with three copies on two nodes is dropped. -/
theorem drop_justified_threeCopies : ∃ log,
    (run inSession.store.watched ⟨"health", "check"⟩ (threeCopies, [])).2.2 = log
      ∧ (Access.statements log).head? = some (Statement.dropKeyspace "health").request := by
  have hsize : (takeSnapshot inSession.store threeCopies).1.toOption.map (·.size) = some 2 := by
    decide +kernel
  have hfactor : (Access.lookUps (run inSession.store.watched ⟨"health", "check"⟩ (threeCopies, [])).2.2).map
      (fun x => x.2.toOption.join.bind fun o => (Replication.ofOptions o).toOption.map (·.factor))
      = [some 3] := by decide +kernel
  have hname : (Schema.Names.folded ⟨"health", "check"⟩).keyspace = "health" := by decide +kernel
  obtain ⟨log, hrun, -, htaken⟩ := drop_justified inSession.store ⟨"health", "check"⟩ threeCopies
  rw [hrun] at hfactor
  refine ⟨log, congrArg (·.2.2) hrun, ?_⟩
  cases hsnapshot : (takeSnapshot inSession.store threeCopies).1 with
  | error e =>
    rw [hsnapshot] at hsize
    exact nomatch hsize
  | ok snapshot =>
    rw [hsnapshot] at hsize
    have htwo : snapshot.size = 2 := Option.some.inj hsize
    obtain ⟨-, answer, hlookUps, -, hdropped, -⟩ := htaken snapshot hsnapshot
    rw [hname] at hdropped
    rw [hlookUps] at hfactor
    -- The answer was of three copies, and there are two nodes.
    apply hdropped.2
    rcases answer with e | ⟨_ | options⟩
    · exact absurd hfactor (by simp [Except.toOption])
    · exact absurd hfactor (by simp [Except.toOption])
    · cases hvalid : Replication.ofOptions options with
      | error issues => exact absurd hfactor (by simp [Except.toOption, hvalid])
      | ok r =>
        have hthree : r.factor = 3 := by simpa [Except.toOption, hvalid] using hfactor
        exact ⟨options, r, rfl, hvalid, by rw [hthree, htwo]; decide⟩

end Check

end ClusterHealth
