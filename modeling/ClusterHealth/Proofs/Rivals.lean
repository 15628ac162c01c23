import ClusterHealth.Proofs.Convergence
import ClusterHealth.Proofs.Turns

/-!
# `ClusterHealth.Proofs.Rivals` — two hosts, one keyspace

Nothing coordinates the checks of two hosts. If both find that the keyspace has to be made, each statement is
carried out for one of them and refused for the other, and a refusal ends the call. But not both of them can
be refused: the side whose statement was carried out last has in front of it just the statement that comes
next, so it is refused nothing, and brings the keyspace to its end whatever the other side does.

## Contents
- `Truthful store n db calm`: a store that fails with what its database refuses, and with nothing else.
- `Move`, `Stage`, `Position`: the statements of a plan, what they make of a keyspace, and where a side stands.
- `Stage.carriedOut_spec`: which statement is carried out at which stage.
- `Waiting`, `Led`: before the first statement, and the side that leads.
- `Race.Inv`, `Race.Inv.turn`, `Race.Inv.run`: the invariant of two sides.
- `rivals_end`: how two reconciliations for as many nodes end, whoever makes its calls when.
-/

namespace ClusterHealth.Schema

open ClusterHealth.Number ClusterHealth.Cql ClusterHealth.Topology ClusterHealth.Validation

variable {σ : Type} {n : Names} {db : σ → Database} {calm : σ → Prop} {wanted : Nat}

/-! ## What the slower side meets -/

/-- What ends a call that came too late: what it was to make is there already, or what it needs is not there
any more; or the number of copies that the other side wrote has more digits than are read. -/
inductive Rebuffed (wanted : Nat) : Failure → Prop
  | exists (keyspace table : Option String) : Rebuffed wanted (.driver (.alreadyExists keyspace table))
  | missing (message : String) : Rebuffed wanted (invalidRequest message)
  | unread (issues : List Issue) (h : 10 ^ maxIntegerLength ≤ wanted) : Rebuffed wanted (.invalid issues)

/-- A reliable store that fails with what its database refuses. -/
structure Truthful (store : Store σ) (n : Names) (db : σ → Database) (calm : σ → Prop) : Prop
    extends Reliable store n db calm where
  refused : ∀ {found} {wanted : Nat} {statement s e}, calm s → statement ∈ plan n found wanted →
    statement.carriedOut (db s) = .error e → ∃ s', store.execute statement.request s = (.error e, s') ∧ calm s'

/-! ## Statements and what they make -/

/-- A statement of a plan. -/
inductive Move where
  | drop
  | create
  | table
  | seed
  deriving DecidableEq, Repr

/-- How much there is of a keyspace that is being made. -/
inductive Stage where
  | gone
  | bare
  | unseeded
  | complete
  deriving DecidableEq, Repr

/-- Where a side stands. -/
inductive Position (wanted : Nat) where
  | looking
  | before (move : Move)
  | returned
  | failed (e : Failure) (h : Rebuffed wanted e)

/-- A statement of the plan for so many copies. -/
def Move.statement (n : Names) (wanted : Nat) : Move → Statement
  | .drop => .dropKeyspace n.keyspace
  | .create => .createKeyspace n.keyspace wanted
  | .table => .createTable n.keyspace n.table
  | .seed => .insertSeed n.keyspace n.table

/-- What a plan has behind a statement. -/
def Move.rest : Move → List Move
  | .drop => [.create, .table, .seed]
  | .create => [.table, .seed]
  | .table => [.seed]
  | .seed => []

/-- Where a side stands whose statement was carried out. -/
def Move.next : Move → Position wanted
  | .drop => .before .create
  | .create => .before .table
  | .table => .before .seed
  | .seed => .returned

/-- The keyspace at a stage. -/
def Stage.keyspace (n : Names) (wanted : Nat) : Stage → Option Keyspace
  | .gone => none
  | .bare => some ⟨wanted, []⟩
  | .unseeded => some ⟨wanted, [(n.table, [])]⟩
  | .complete => some (n.complete wanted)

/-- The stage after a statement; `none` if the statement is refused. -/
def Stage.after? : Stage → Move → Option Stage
  | .gone, .create => some .bare
  | .bare, .table => some .unseeded
  | .unseeded, .seed | .complete, .seed => some .complete
  | .bare, .drop | .unseeded, .drop | .complete, .drop => some .gone
  | _, _ => none

/-- Where the side stands whose statement led to a stage. -/
def Stage.leader : Stage → Position wanted
  | .gone => .before .create
  | .bare => .before .table
  | .unseeded => .before .seed
  | .complete => .returned

/-- How far a reconciliation has come that stands at a position. -/
def Position.progress (n : Names) : Position wanted → Progress
  | .looking => .looking
  | .before move => .sending (move.statement n wanted) (move.rest.map (·.statement n wanted))
  | .returned => .ended (.ok wanted)
  | .failed e _ => .ended (.error e)

theorem Move.next_progress (n : Names) (wanted : Nat) (move : Move) :
    Progress.next wanted (move.rest.map (·.statement n wanted)) = (move.next : Position wanted).progress n := by
  cases move <;> rfl

theorem Stage.factor_of_keyspace {stage : Stage} {k : Keyspace} (h : stage.keyspace n wanted = some k) :
    k.factor = wanted := by
  cases stage <;> cases h <;> rfl

/-- A side whose statement is carried out leads. -/
theorem Stage.leader_of_after {stage stage' : Stage} {move : Move} (h : stage.after? move = some stage') :
    (stage'.leader : Position wanted) = move.next := by
  cases stage <;> cases move <;> cases h <;> rfl

/-- The statement of the side that leads is not refused. -/
theorem Stage.after_leader {stage : Stage} {move : Move}
    (h : (stage.leader : Position wanted) = .before move) : ∃ stage', stage.after? move = some stage' := by
  cases stage <;> cases h <;> exact ⟨_, rfl⟩

/-- A side that leads has returned just if the keyspace is complete. -/
theorem Stage.complete_of_leader {stage : Stage} {result : Except Failure Int}
    (h : (stage.leader : Position wanted).progress n = .ended result) :
    stage = .complete ∧ result = .ok wanted := by
  cases stage <;> cases h
  exact ⟨rfl, rfl⟩

theorem Move.mem_plan (n : Names) (wanted : Nat) (move : Move) :
    ∃ found, move.statement n wanted ∈ plan n found wanted := by
  have hother : plan n (some (wanted + 1 : Int)) wanted
      = .dropKeyspace n.keyspace :: creation n wanted := if_neg (by omega)
  refine ⟨some (wanted + 1), ?_⟩
  rw [hother]
  cases move <;> simp [statement, creation]

/-- **Statements at a stage.** A statement leads to the next stage, or it is refused. -/
theorem Stage.carriedOut_spec {d : Database} {stage : Stage}
    (hd : Pairs.get? n.keyspace d = stage.keyspace n wanted) (move : Move) :
    (∃ stage' d', stage.after? move = some stage' ∧ (move.statement n wanted).carriedOut d = .ok d'
        ∧ Pairs.get? n.keyspace d' = stage'.keyspace n wanted)
      ∨ ∃ e, stage.after? move = none ∧ (move.statement n wanted).carriedOut d = .error e
        ∧ Rebuffed wanted e := by
  have hsome : ∀ keys : List String, Pairs.get? n.table [(n.table, keys)] = some keys := by simp [Pairs.get?]
  cases move with
  | drop =>
    -- Whatever there is of a keyspace can be dropped.
    simp only [Move.statement, Statement.carriedOut, hd]
    cases stage with
    | gone => exact .inr ⟨_, rfl, rfl, .missing _⟩
    | bare => exact .inl ⟨.gone, _, rfl, rfl, Pairs.get?_erase_self _ _⟩
    | unseeded => exact .inl ⟨.gone, _, rfl, rfl, Pairs.get?_erase_self _ _⟩
    | complete => exact .inl ⟨.gone, _, rfl, rfl, Pairs.get?_erase_self _ _⟩
  | create =>
    simp only [Move.statement, Statement.carriedOut, hd]
    cases stage with
    | gone => exact .inl ⟨.bare, _, rfl, if_neg (by omega), Pairs.get?_put_self _ _ _⟩
    | bare => exact .inr ⟨_, rfl, rfl, .exists _ _⟩
    | unseeded => exact .inr ⟨_, rfl, rfl, .exists _ _⟩
    | complete => exact .inr ⟨_, rfl, rfl, .exists _ _⟩
  | table =>
    simp only [Move.statement, Statement.carriedOut, hd]
    cases stage with
    | gone => exact .inr ⟨_, rfl, rfl, .missing _⟩
    | bare => exact .inl ⟨.unseeded, _, rfl, rfl, Pairs.get?_put_self _ _ _⟩
    | unseeded =>
      simp only [keyspace, hsome]
      exact .inr ⟨_, rfl, rfl, .exists _ _⟩
    | complete =>
      simp only [keyspace, Names.complete, hsome]
      exact .inr ⟨_, rfl, rfl, .exists _ _⟩
  | seed =>
    simp only [Move.statement, Statement.carriedOut, hd]
    cases stage with
    | gone => exact .inr ⟨_, rfl, rfl, .missing _⟩
    | bare => exact .inr ⟨_, rfl, rfl, .missing _⟩
    | unseeded =>
      simp only [keyspace, hsome]
      refine .inl ⟨.complete, _, rfl, rfl, ?_⟩
      rw [Pairs.get?_put_self]
      simp [Names.complete, Keyspace.withTable, Pairs.put]
    | complete =>
      -- A row that is there already is not put in again.
      simp only [keyspace, Names.complete, hsome]
      refine .inl ⟨.complete, _, rfl, rfl, ?_⟩
      rw [Pairs.get?_put_self]
      simp [Keyspace.withTable, Pairs.put]

/-! ## One call of one side -/

/-- Where a side stands that has found so many copies. -/
def Position.planned (wanted : Nat) : Option Int → Position wanted
  | none => .before .create
  | some factor => if factor = wanted then .returned else .before .drop

theorem Position.next_plan (n : Names) (wanted : Nat) (found : Option Int) :
    Progress.next wanted (plan n found wanted) = (planned wanted found).progress n := by
  cases found with
  | none => rfl
  | some factor =>
    unfold plan planned
    by_cases hfactor : factor = wanted
    · simp only [if_pos hfactor]
      rfl
    · simp only [if_neg hfactor]
      rfl

section Calls

variable {store : Store σ} {s : σ} {stage : Stage} {move : Move}

/-- A statement that is carried out. -/
theorem Truthful.sends (h : Truthful store n db calm) (hs : calm s) {d : Database}
    (hd : (move.statement n wanted).carriedOut (db s) = .ok d) :
    ∃ s', ((.before move : Position wanted).progress n).step store n wanted s
        = ((move.next : Position wanted).progress n, s') ∧ calm s' ∧ db s' = d := by
  obtain ⟨found, hmem⟩ := Move.mem_plan n wanted move
  obtain ⟨s', hexecute, hs'⟩ := h.obeyed hs hmem hd
  have hcarried := h.executed hmem hexecute
  refine ⟨s', ?_, hs', Except.ok.inj (hcarried.symm.trans hd)⟩
  show (Progress.sending _ _).step store n wanted s = _
  rw [Progress.step_sending, hexecute, ← Move.next_progress]

/-- A statement at a stage. -/
theorem Truthful.sends_at (h : Truthful store n db calm) (hs : calm s)
    (hstage : Pairs.get? n.keyspace (db s) = stage.keyspace n wanted) (move : Move) :
    (∃ stage' s', stage.after? move = some stage'
        ∧ ((.before move : Position wanted).progress n).step store n wanted s
          = ((move.next : Position wanted).progress n, s')
        ∧ calm s' ∧ Pairs.get? n.keyspace (db s') = stage'.keyspace n wanted)
      ∨ ∃ (position : Position wanted) (s' : σ), stage.after? move = none
        ∧ ((.before move : Position wanted).progress n).step store n wanted s = (position.progress n, s')
        ∧ calm s' ∧ db s' = db s := by
  rcases stage.carriedOut_spec hstage move with ⟨stage', d, hafter, hd, hstage'⟩ | ⟨e, hafter, he, hrebuffed⟩
  · obtain ⟨s', hstep, hs', rfl⟩ := h.sends hs hd
    exact .inl ⟨stage', s', hafter, hstep, hs', hstage'⟩
  · obtain ⟨found, hmem⟩ := Move.mem_plan n wanted move
    obtain ⟨s', hexecute, hs'⟩ := h.refused hs hmem he
    refine .inr ⟨.failed e hrebuffed, s', hafter, ?_, hs', h.failed hmem hexecute⟩
    show (Progress.sending _ _).step store n wanted s = _
    rw [Progress.step_sending, hexecute]
    rfl

/-- A lookup changes nothing, and what is read has been written by one of the sides. -/
theorem Truthful.looks_at (h : Truthful store n db calm) (hs : calm s) (hpos : 1 ≤ wanted)
    (hstage : Pairs.get? n.keyspace (db s) = stage.keyspace n wanted) :
    ∃ (position : Position wanted) (s' : σ),
      ((.looking : Position wanted).progress n).step store n wanted s = (position.progress n, s')
        ∧ calm s' ∧ db s' = db s := by
  obtain ⟨options, s₁, hanswer, hs₁⟩ := h.answered hs
  have hdb : db s₁ = db s := by
    have hlooked := h.looked s
    rw [hanswer] at hlooked
    exact hlooked
  have hdescribe : describe store n s = (copiesIn options, s₁) := by
    rw [describe_apply, hanswer]
  show ∃ (position : Position wanted) (s' : σ), Progress.looking.step store n wanted s = _ ∧ _
  rw [Progress.step_looking, hdescribe]
  cases hcopies : copiesIn options with
  | ok found =>
    simp only [Position.next_plan]
    exact ⟨_, _, rfl, h.unmoved _ hs₁, (h.reported _ s₁).trans hdb⟩
  | error e =>
    -- Metadata that one of the sides wrote are valid, unless their number is too long.
    obtain ⟨found, issues, rfl, hinvalid, rfl⟩ := copiesIn_eq_error hcopies
    have hfound := h.found hanswer
    rw [hstage] at hfound
    obtain ⟨k, hk, rfl⟩ := Option.map_eq_some_iff.1 hfound.symm
    have hlong : 10 ^ maxIntegerLength ≤ wanted := by
      by_contra hshort
      rw [← Stage.factor_of_keyspace hk] at hpos hshort
      rw [Keyspace.ofOptions_valid hpos (Nat.lt_of_not_le hshort)] at hinvalid
      cases hinvalid
    exact ⟨.failed _ (.unread issues hlong), s₁, rfl, hs₁, hdb⟩

end Calls

/-! ## The side that leads -/

variable {store : Side → Store σ} {race : Race σ} {d₀ : Database}

/-- Neither side has sent a statement: the database is as it was, and each side is about to look, or goes by
what is found there. -/
structure Waiting (n : Names) (db : σ → Database) (calm : σ → Prop) (wanted : Nat) (d₀ : Database)
    (race : Race σ) : Prop where
  calm : calm race.state
  unmoved : db race.state = d₀
  stands : ∀ side, race.progress side = .looking ∨ race.progress side =
    (Position.planned wanted ((Pairs.get? n.keyspace d₀).map fun k => (k.factor : Int))).progress n

/-- One side leads: the keyspace is at the stage to which its last statement led, and the other side stands
somewhere. -/
structure Led (n : Names) (db : σ → Database) (calm : σ → Prop) (wanted : Nat) (race : Race σ)
    (side : Side) (stage : Stage) : Prop where
  calm : calm race.state
  keyspace : Pairs.get? n.keyspace (db race.state) = stage.keyspace n wanted
  leads : race.progress side = (stage.leader : Position wanted).progress n
  stands : ∀ x, ∃ position : Position wanted, race.progress x = position.progress n

/-- The invariant of two sides: they wait, or the keyspace did not have as many copies as wanted, and one of
them leads. -/
inductive Race.Inv (n : Names) (db : σ → Database) (calm : σ → Prop) (wanted : Nat) (d₀ : Database)
    (race : Race σ) : Prop
  | waiting (h : Waiting n db calm wanted d₀ race)
  | led (hother : ∀ k, Pairs.get? n.keyspace d₀ = some k → k.factor ≠ wanted) (side : Side) (stage : Stage)
    (h : Led n db calm wanted race side stage)

/-- A side that has ended does nothing more. -/
theorem Race.turn_of_ended {x : Side} {result : Except Failure Int} (h : race.progress x = .ended result) :
    race.turn store n wanted x = race := by
  unfold turn
  rw [h]
  show (⟨race.state, Function.update race.progress x (.ended result)⟩ : Race σ) = race
  rw [← h, Function.update_eq_self]

/-- A turn that leads from a position to another, in a calm state. -/
theorem Race.turn_of_step {x : Side} {p : Progress} {s : σ}
    (h : (race.progress x).step (store x) n wanted race.state = (p, s)) :
    race.turn store n wanted x = ⟨s, Function.update race.progress x p⟩ := by
  unfold turn
  rw [h]

theorem stands_update {progress : Side → Progress} {x : Side} {position : Position wanted}
    (h : ∀ y, ∃ position : Position wanted, progress y = position.progress n) (y : Side) :
    ∃ position' : Position wanted, Function.update progress x (position.progress n) y = position'.progress n := by
  by_cases hy : y = x
  · subst hy
    exact ⟨position, Function.update_self _ _ _⟩
  · obtain ⟨position', hposition'⟩ := h y
    exact ⟨position', (Function.update_of_ne hy _ _).trans hposition'⟩

/-- The side that leads is not about to look. -/
theorem Stage.leader_ne_looking (n : Names) (wanted : Nat) (stage : Stage) :
    (stage.leader : Position wanted).progress n ≠ .looking := by
  cases stage <;> exact nofun

theorem Stage.leader_eq_before {stage : Stage} {move : Move}
    (h : (stage.leader : Position wanted).progress n = (.before move : Position wanted).progress n) :
    (stage.leader : Position wanted) = .before move := by
  cases stage <;> cases move <;> first | rfl | exact nomatch h

/-- **A turn while one side leads.** Whoever's statement is carried out leads behind it; a refusal ends the
side that does not lead. -/
theorem Led.turn {side : Side} {stage : Stage} (hstore : ∀ x, Truthful (store x) n db calm)
    (hpos : 1 ≤ wanted) (h : Led n db calm wanted race side stage) (x : Side) :
    ∃ side' stage', Led n db calm wanted (race.turn store n wanted x) side' stage' := by
  obtain ⟨position, hx⟩ := h.stands x
  -- The side that leads keeps its place while the other one does anything but have a statement carried out.
  have hkeeps : ∀ {p : Position wanted} {s : σ}, x ≠ side → (race.progress x).step (store x) n wanted race.state
      = (p.progress n, s) → calm s → db s = db race.state →
      Led n db calm wanted (race.turn store n wanted x) side stage := by
    intro p s hne hstep hs hdb
    rw [Race.turn_of_step hstep]
    exact ⟨hs, (congrArg _ hdb).trans h.keyspace, (Function.update_of_ne hne.symm _ _).trans h.leads,
      stands_update h.stands⟩
  cases position with
  | looking =>
    have hne : x ≠ side := by
      rintro rfl
      exact Stage.leader_ne_looking n wanted stage (h.leads.symm.trans hx)
    obtain ⟨p, s, hstep, hs, hdb⟩ := (hstore x).looks_at h.calm hpos h.keyspace
    rw [← hx] at hstep
    exact ⟨side, stage, hkeeps hne hstep hs hdb⟩
  | before move =>
    rcases (hstore x).sends_at h.calm h.keyspace move with ⟨stage', s, hafter, hstep, hs, hstage'⟩
      | ⟨p, s, hafter, hstep, hs, hdb⟩
    · refine ⟨x, stage', ?_⟩
      rw [← hx] at hstep
      rw [Race.turn_of_step hstep]
      refine ⟨hs, hstage', ?_, stands_update h.stands⟩
      rw [Stage.leader_of_after hafter]
      exact Function.update_self _ _ _
    · have hne : x ≠ side := by
        rintro rfl
        obtain ⟨stage', hcarried⟩ := Stage.after_leader (Stage.leader_eq_before (h.leads.symm.trans hx))
        exact nomatch hafter.symm.trans hcarried
      rw [← hx] at hstep
      exact ⟨side, stage, hkeeps hne hstep hs hdb⟩
  | returned =>
    rw [Race.turn_of_ended hx]
    exact ⟨side, stage, h⟩
  | failed e he =>
    rw [Race.turn_of_ended hx]
    exact ⟨side, stage, h⟩

/-- A side that waits stands somewhere. -/
theorem Waiting.stands_at (h : Waiting n db calm wanted d₀ race) (x : Side) :
    ∃ position : Position wanted, race.progress x = position.progress n := by
  rcases h.stands x with hx | hx
  · exact ⟨.looking, hx⟩
  · exact ⟨_, hx⟩

/-- A lookup finds what was there at the start. -/
theorem Waiting.looks (hstore : ∀ x, Truthful (store x) n db calm)
    (hvalid : ∀ k, Pairs.get? n.keyspace d₀ = some k → ∃ r, Replication.ofOptions k.options = .ok r)
    (h : Waiting n db calm wanted d₀ race) {x : Side} (hx : race.progress x = .looking) :
    Waiting n db calm wanted d₀ (race.turn store n wanted x) := by
  rw [← h.unmoved] at hvalid
  obtain ⟨s₁, hdescribe, hdb, hs₁⟩ := describe_calm (hstore x).toReliable h.calm hvalid
  rw [h.unmoved] at hdescribe hdb
  generalize hfound : (Pairs.get? n.keyspace d₀).map (fun k => (k.factor : Int)) = found at hdescribe
  have hstep : (race.progress x).step (store x) n wanted race.state
      = ((Position.planned wanted found).progress n, ((store x).report (planNotice n found wanted) s₁).2) := by
    rw [hx, Progress.step_looking, hdescribe]
    simp only [Position.next_plan]
  rw [Race.turn_of_step hstep]
  refine ⟨(hstore x).unmoved _ hs₁, ((hstore x).reported _ s₁).trans hdb, fun y => ?_⟩
  rw [hfound]
  by_cases hy : y = x
  · subst hy
    exact .inr (Function.update_self _ _ _)
  · have hy' := h.stands y
    rw [hfound] at hy'
    simpa only [Function.update_of_ne hy] using hy'

/-- The first statement that is carried out decides who leads. -/
theorem Waiting.sends (hstore : ∀ x, Truthful (store x) n db calm) (h : Waiting n db calm wanted d₀ race)
    {x : Side} {move : Move} {stage : Stage} {d : Database}
    (hx : race.progress x = (.before move : Position wanted).progress n)
    (hd : (move.statement n wanted).carriedOut d₀ = .ok d)
    (hstage : Pairs.get? n.keyspace d = stage.keyspace n wanted)
    (hleader : (stage.leader : Position wanted) = move.next) :
    Led n db calm wanted (race.turn store n wanted x) x stage := by
  rw [← h.unmoved] at hd
  obtain ⟨s, hstep, hs, rfl⟩ := (hstore x).sends h.calm hd
  rw [← hx] at hstep
  rw [Race.turn_of_step hstep]
  refine ⟨hs, hstage, ?_, stands_update h.stands_at⟩
  rw [hleader]
  exact Function.update_self _ _ _

/-- **A turn while both wait.** Who has looked and found as many copies as wanted has ended; anyone else sends
the first statement of the plan, and leads. -/
theorem Waiting.turn (hstore : ∀ x, Truthful (store x) n db calm)
    (hvalid : ∀ k, Pairs.get? n.keyspace d₀ = some k → ∃ r, Replication.ofOptions k.options = .ok r)
    (h : Waiting n db calm wanted d₀ race) (x : Side) :
    (race.turn store n wanted x).Inv n db calm wanted d₀ := by
  rcases h.stands x with hx | hx
  · exact .waiting (h.looks hstore hvalid hx)
  · cases hk : Pairs.get? n.keyspace d₀ with
    | none =>
      rw [hk] at hx
      have hgone : Pairs.get? n.keyspace d₀ = Stage.gone.keyspace n wanted := hk
      rcases Stage.carriedOut_spec hgone .create with ⟨stage, d, hafter, hd, hstage⟩ | ⟨e, hafter, -, -⟩
      · have hled := h.sends hstore hx hd hstage (Stage.leader_of_after hafter)
        exact .led (fun k' hk' => nomatch hk.symm.trans hk') x stage hled
      · exact nomatch hafter
    | some k =>
      rw [hk, Option.map_some, Position.planned] at hx
      by_cases hfactor : (k.factor : Int) = wanted
      · rw [if_pos hfactor] at hx
        rw [Race.turn_of_ended hx]
        exact .waiting h
      · rw [if_neg hfactor] at hx
        have hdropped : (Move.drop.statement n wanted).carriedOut d₀ = .ok (Pairs.erase n.keyspace d₀) := by
          simp only [Move.statement, Statement.carriedOut, hk]
        have hgone : Pairs.get? n.keyspace (Pairs.erase n.keyspace d₀) = Stage.gone.keyspace n wanted :=
          Pairs.get?_erase_self _ _
        have hled := h.sends hstore hx hdropped hgone rfl
        refine .led (fun k' hk' hsame => hfactor ?_) x .gone hled
        obtain rfl := Option.some.inj (hk.symm.trans hk')
        exact congrArg Int.ofNat hsame

theorem Race.Inv.turn (hstore : ∀ x, Truthful (store x) n db calm) (hpos : 1 ≤ wanted)
    (hvalid : ∀ k, Pairs.get? n.keyspace d₀ = some k → ∃ r, Replication.ofOptions k.options = .ok r)
    (h : race.Inv n db calm wanted d₀) (x : Side) : (race.turn store n wanted x).Inv n db calm wanted d₀ := by
  cases h with
  | waiting h => exact h.turn hstore hvalid x
  | led hother side stage h =>
    obtain ⟨side', stage', h'⟩ := h.turn hstore hpos x
    exact .led hother side' stage' h'

/-- All turns, one after the other. -/
theorem Race.Inv.run (hstore : ∀ x, Truthful (store x) n db calm) (hpos : 1 ≤ wanted)
    (hvalid : ∀ k, Pairs.get? n.keyspace d₀ = some k → ∃ r, Replication.ofOptions k.options = .ok r)
    (h : race.Inv n db calm wanted d₀) (turns : List Side) :
    (race.run store n wanted turns).Inv n db calm wanted d₀ := by
  induction turns generalizing race with
  | nil => exact h
  | cons x rest ih => exact ih (h.turn hstore hpos hvalid x)

/-! ## How both sides end -/

/-- Two sides that have waited to the end found as many copies as wanted. -/
theorem Waiting.returned {result : Side → Except Failure Int} (h : Waiting n db calm wanted d₀ race)
    (hended : ∀ side, race.progress side = .ended (result side)) :
    (∃ k, Pairs.get? n.keyspace d₀ = some k ∧ k.factor = wanted) ∧ ∀ side, result side = .ok wanted := by
  have hplanned : ∀ side, (Position.planned wanted
      ((Pairs.get? n.keyspace d₀).map fun k => (k.factor : Int))).progress n = .ended (result side) := by
    intro side
    rcases h.stands side with hlooking | hplanned
    · exact nomatch (hended side).symm.trans hlooking
    · exact hplanned.symm.trans (hended side)
  cases hk : Pairs.get? n.keyspace d₀ with
  | none =>
    rw [hk] at hplanned
    exact nomatch hplanned .left
  | some k =>
    rw [hk] at hplanned
    simp only [Option.map_some, Position.planned] at hplanned
    by_cases hfactor : (k.factor : Int) = wanted
    · simp only [if_pos hfactor] at hplanned
      exact ⟨⟨k, rfl, Int.ofNat.inj hfactor⟩, fun side => (Progress.ended.inj (hplanned side)).symm⟩
    · simp only [if_neg hfactor] at hplanned
      exact nomatch hplanned .left

/-- The side that leads has returned at the end, and the other one has too or was rebuffed. -/
theorem Led.returned {side : Side} {stage : Stage} {result : Side → Except Failure Int}
    (h : Led n db calm wanted race side stage) (hended : ∀ x, race.progress x = .ended (result x)) :
    Pairs.get? n.keyspace (db race.state) = some (n.complete wanted) ∧ result side = .ok wanted
      ∧ (result side.other = .ok wanted ∨ ∃ e, result side.other = .error e ∧ Rebuffed wanted e) := by
  obtain ⟨rfl, hside⟩ := Stage.complete_of_leader (h.leads.symm.trans (hended side))
  refine ⟨h.keyspace, hside, ?_⟩
  obtain ⟨position, hposition⟩ := h.stands side.other
  rw [hended side.other] at hposition
  cases position with
  | looking => exact nomatch hposition
  | before move => exact nomatch hposition
  | returned => exact .inl (Progress.ended.inj hposition)
  | failed e he => exact .inr ⟨e, Progress.ended.inj hposition, he⟩

/-- **Two hosts on one keyspace.** Let the keyspace be absent, or be there with valid metadata, and let two
reconciliations for as many nodes make their calls in any order. Each of them ends within five calls, and
what comes of it is what it returns on a store whose state changes between its calls. When both have ended:
if the keyspace had as many copies as wanted, both have returned and nothing has changed; if not, the
keyspace is complete, with its table and the row, at least one side has returned, and the other one has
returned as well or was told that what it was to make is there or that what it needs is not. -/
theorem rivals_end (hstore : ∀ side, Truthful (store side) n db calm) {s : σ} (hs : calm s)
    (hvalid : ∀ k, Pairs.get? n.keyspace (db s) = some k → ∃ r, Replication.ofOptions k.options = .ok r)
    {snapshot : Side → Snapshot} (hsize : ∀ side, (snapshot side).size = wanted) (turns : List Side) :
    (∀ side, 5 ≤ turns.count side →
        ∃ result, ((Race.start s).run store n wanted turns).progress side = .ended result)
      ∧ ∀ result : Side → Except Failure Int,
        (∀ side, ((Race.start s).run store n wanted turns).progress side = .ended (result side)) →
        (∀ side, ∃ changes, (reconcile (store side).amid n (snapshot side) (s, changes)).1 = result side)
        ∧ ((∃ k, Pairs.get? n.keyspace (db s) = some k ∧ k.factor = wanted) →
            (∀ side, result side = .ok wanted) ∧ db ((Race.start s).run store n wanted turns).state = db s)
        ∧ ((∀ k, Pairs.get? n.keyspace (db s) = some k → k.factor ≠ wanted) →
            Pairs.get? n.keyspace (db ((Race.start s).run store n wanted turns).state)
                = some ⟨wanted, [(n.table, [seedKey])]⟩
            ∧ ∃ side, result side = .ok wanted ∧ (result side.other = .ok wanted
                ∨ ∃ e, result side.other = .error e ∧ Rebuffed wanted e)) := by
  refine ⟨fun side hturns => Race.ended_of_turns hturns s, fun result hended => ?_⟩
  have hpos : 1 ≤ wanted := hsize .left ▸ (snapshot .left).one_le_size
  have hstart : (Race.start s).Inv n db calm wanted (db s) := .waiting ⟨hs, rfl, fun _ => .inl rfl⟩
  refine ⟨?_, ?_⟩
  · intro side
    have hside := hended side
    rw [← hsize side] at hside
    exact Race.run_reconcile hside
  · cases hstart.run hstore hpos hvalid turns with
    | waiting h =>
      obtain ⟨⟨k, hk, hfactor⟩, hreturned⟩ := h.returned hended
      exact ⟨fun _ => ⟨hreturned, h.unmoved⟩, fun hother => absurd hfactor (hother k hk)⟩
    | led hother side stage h =>
      obtain ⟨hcomplete, hside, hrival⟩ := h.returned hended
      exact ⟨fun ⟨k, hk, hfactor⟩ => absurd hfactor (hother k hk), fun _ => ⟨hcomplete, side, hside, hrival⟩⟩

/-! ## Two clients of one server -/

/-- A server that holds back no failures fails with what its database refuses. -/
theorem server_truthful (hk : Statement.PlainName n.keyspace) (ht : Statement.PlainName n.table) :
    Truthful Server.store n Server.database (fun server => server.failures = []) where
  toReliable := server_reliable hk ht
  refused := by
    rintro found wanted statement ⟨d, failures⟩ e rfl hmem hrefused
    refine ⟨⟨d, []⟩, ?_, rfl⟩
    show Server.call.go (Server.obey statement.request) [] d = _
    unfold Server.call.go
    rw [Server.obey_request (Server.plain_of_mem_plan hk ht hmem)]
    have hrefused : statement.carriedOut d = .error e := hrefused
    rw [hrefused]
    rfl

/-- A server with nothing on it. -/
def emptyServer : Server := ⟨[], []⟩

/-- Two sides that both look before either of them makes the keyspace: the slower one is told that it exists
already. -/
theorem rivals_rebuffed :
    ((Race.start emptyServer).run (fun _ => Server.store) defaultNames 3
        [.left, .right, .right, .right, .right, .left]).progress .left
      = .ended (.error (.driver (.alreadyExists (some "healthcheck") none)))
    ∧ ((Race.start emptyServer).run (fun _ => Server.store) defaultNames 3
        [.left, .right, .right, .right, .right, .left]).progress .right = .ended (.ok 3) := by
  refine ⟨?_, ?_⟩
  · decide +kernel
  · decide +kernel

/-- Both sides see three nodes. -/
def threeAndThree : Side → Snapshot := fun _ => threeNodes

/-- Turn and turn about. -/
def alternating : List Side :=
  (List.replicate 5 [Side.left, .right]).flatten

/-- Two sides that give a keyspace with two copies one for each of three nodes. -/
theorem rivals_end_twoCopies : ∃ result : Side → Except Failure Int,
    (∀ side, ((Race.start twoCopies).run (fun _ => Server.store) defaultNames 3 alternating).progress side
      = .ended (result side))
    ∧ Pairs.get? "healthcheck"
        ((Race.start twoCopies).run (fun _ => Server.store) defaultNames 3 alternating).state.database
      = some ⟨3, [("healthcheck", ["healthy"])]⟩
    ∧ ∃ side, result side = .ok 3 := by
  have hsize : ∀ side, (threeAndThree side).size = 3 := by
    intro side
    show threeNodes.size = 3
    decide
  have hother : ∀ k, Pairs.get? defaultNames.keyspace twoCopies.database = some k → k.factor ≠ 3 := by
    intro k hk
    rw [(twoCopies_found hk).1]
    decide
  obtain ⟨hends, hended⟩ := rivals_end
    (fun _ => server_truthful (n := defaultNames) ⟨by decide, by decide⟩ ⟨by decide, by decide⟩)
    (rfl : twoCopies.failures = []) (fun _ hk => (twoCopies_found hk).2)
    (hsize : ∀ side, (threeAndThree side).size = 3) alternating
  have hfive : ∀ side, 5 ≤ alternating.count side := by
    intro side
    cases side <;> decide
  obtain ⟨result, hresult⟩ := Classical.skolem.1 fun side => hends side (hfive side)
  obtain ⟨-, -, hmade⟩ := hended result hresult
  obtain ⟨hcomplete, side, hside, -⟩ := hmade hother
  exact ⟨result, hresult, hcomplete, side, hside⟩

end ClusterHealth.Schema
