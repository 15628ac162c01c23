import ClusterHealth.Proofs.Recording

/-!
# `ClusterHealth.Proofs.Downgrade` — what a recorded downgrade is

A downgrade is recorded of a first attempt only, and of one that failed because too few replicas answered in
time or are alive. Its level is the best that the replicas at hand can satisfy: of the levels that need one, two
and three replicas, the one that needs most among those that need no more than there are.

So the retry needs fewer replicas than the failed attempt did, provided that these were not there. For a read
that timed out that is looked at. For one that was refused it is not: a coordinator that reports enough replicas
alive, and refuses the read all the same, makes a downgrade be recorded to a level that needs more than the
requested one (`refused_strengthened`).

## Contents
- `Level.Needs`, `Level.Best`: the levels that need a fixed number of replicas, and the best of them.
- `downgradedLevel?_eq_some`, `downgradedLevel?_eq_none`: the level that is chosen.
- `FailedAttempt.granted_iff`: the attempts that are retried at another level.
- `Genuine`, `FailedAttempt.genuine_iff`: what the downgrades are that are recorded.
- `recorded_genuine`: the same for any life of a recorder.
-/

namespace ClusterHealth

/-- How many replicas a level needs, for the levels that need a fixed number. -/
inductive Level.Needs : Level → Nat → Prop
  | one : Needs .one 1
  | two : Needs .two 2
  | three : Needs .three 3

/-- The best level that so many replicas satisfy, which needs `n` of them. -/
structure Level.Best (responses : Int) (level : Level) (n : Nat) : Prop where
  needs : level.Needs n
  enough : (n : Int) ≤ responses
  most : ∀ other k, Level.Needs other k → (k : Int) ≤ responses → k ≤ n

namespace Level

variable {level other : Level} {responses : Int} {n k : Nat}

theorem Needs.bounds (h : level.Needs n) : 1 ≤ n ∧ n ≤ 3 := by
  cases h <;> decide

/-- No two levels need the same number of replicas. -/
theorem Needs.injective (h : level.Needs n) (h' : other.Needs n) : level = other := by
  cases h <;> cases h' <;> rfl

theorem Best.unique (h : Best responses level n) (h' : Best responses other k) : level = other := by
  have hle : n ≤ k := h'.most level n h.needs h.enough
  have hge : k ≤ n := h.most other k h'.needs h'.enough
  obtain rfl : n = k := Nat.le_antisymm hle hge
  exact h.needs.injective h'.needs

theorem best_three (h : 3 ≤ responses) : Best responses .three 3 :=
  ⟨.three, h, fun _ _ hk _ => hk.bounds.2⟩

theorem best_two : Best 2 .two 2 := by
  refine ⟨.two, Int.le_refl 2, fun other k _ hk => ?_⟩
  omega

theorem best_one : Best 1 .one 1 := by
  refine ⟨.one, Int.le_refl 1, fun other k _ hk => ?_⟩
  omega

/-- Where no replica is at hand, no level will do. -/
theorem Best.pos (h : Best responses level n) : 0 < responses := by
  have hn := h.needs.bounds.1
  have henough := h.enough
  omega

end Level

namespace Retry

variable {a : FailedAttempt} {d : Downgrade} {level : Level} {responses : Int} {n : Nat}

/-! ## The level that is chosen -/

theorem downgradedLevel?_eq_none : downgradedLevel? responses = none ↔ responses ≤ 0 := by
  unfold downgradedLevel?
  split
  · next h => exact iff_of_false (by simp) (by omega)
  · split
    · next h => exact iff_of_false (by simp) (by omega)
    · split
      · next h => exact iff_of_false (by simp) (by omega)
      · exact iff_of_true rfl (by omega)

theorem best_of_downgradedLevel? (h : downgradedLevel? responses = some level) :
    ∃ n, Level.Best responses level n := by
  unfold downgradedLevel? at h
  split at h
  · next hthree =>
    rw [← Option.some.inj h]
    exact ⟨3, Level.best_three hthree⟩
  · split at h
    · next htwo =>
      rw [← Option.some.inj h, htwo]
      exact ⟨2, Level.best_two⟩
    · split at h
      · next hone =>
        rw [← Option.some.inj h, hone]
        exact ⟨1, Level.best_one⟩
      · cases h

/-- **The best level is chosen** that the replicas at hand satisfy. -/
theorem downgradedLevel?_eq_some :
    downgradedLevel? responses = some level ↔ ∃ n, Level.Best responses level n := by
  constructor
  · exact best_of_downgradedLevel?
  · rintro ⟨n, hbest⟩
    cases hchosen : downgradedLevel? responses with
    | none =>
      have hpos := hbest.pos
      have hnone := downgradedLevel?_eq_none.1 hchosen
      omega
    | some chosen =>
      obtain ⟨k, hk⟩ := best_of_downgradedLevel? hchosen
      rw [hk.unique hbest]

/-! ## The attempts that are retried at another level -/

/-- Too few replicas, as the coordinator says: fewer answered in time than are needed, or are said to be alive. -/
def FailedAttempt.Starved (a : FailedAttempt) : Prop :=
  a.kind = .readTimeout ∧ a.responses < a.required ∨ a.kind = .unavailable

/-- Where there were too few replicas, a first attempt is retried at the level that is chosen. -/
theorem FailedAttempt.verdict_of_starved (hfirst : a.retries ≤ 0) (h : a.Starved) :
    a.verdict = .retry level ↔ downgradedLevel? a.responses = some level := by
  have hkind : ¬ (a.kind ≠ .readTimeout ∧ a.kind ≠ .unavailable) := by
    rintro ⟨htimeout, hunavailable⟩
    rcases h with ⟨hkind, -⟩ | hkind
    · exact htimeout hkind
    · exact hunavailable hkind
  have hfew : ¬ (a.kind = .readTimeout ∧ a.required ≤ a.responses) := by
    rintro ⟨htimeout, henough⟩
    rcases h with ⟨-, hfew⟩ | hkind
    · omega
    · cases htimeout.symm.trans hkind
  unfold verdict
  rw [if_neg (by omega), if_neg hkind, if_neg hfew]
  cases downgradedLevel? a.responses with
  | none => simp
  | some chosen => simp

/-- Every other attempt is given up, or retried at its own level. -/
theorem FailedAttempt.verdict_of_not_starved (h : ¬ (a.retries ≤ 0 ∧ a.Starved)) :
    a.verdict = .rethrow ∨ a.verdict = .retry a.level := by
  unfold verdict
  split
  · exact .inl rfl
  · next hfirst =>
    split
    · exact .inl rfl
    · next hkind =>
      split
      · split
        · exact .inl rfl
        · exact .inr rfl
      · next hfew =>
        -- A first attempt of these kinds without enough replicas had too few.
        refine absurd ⟨by omega, ?_⟩ h
        by_cases htimeout : a.kind = .readTimeout
        · exact .inl ⟨htimeout, Int.not_le.1 fun henough => hfew ⟨htimeout, henough⟩⟩
        · exact .inr (Decidable.byContradiction fun hunavailable => hkind ⟨htimeout, hunavailable⟩)

/-- **What is retried at another level**: a first attempt for which there were too few replicas, at the best level
that these satisfy. -/
theorem FailedAttempt.granted_iff : a.Granted level ↔
    (a.retries ≤ 0 ∧ a.Starved) ∧ (∃ n, Level.Best a.responses level n) ∧ level ≠ a.level := by
  unfold Granted
  rw [← downgradedLevel?_eq_some]
  by_cases h : a.retries ≤ 0 ∧ a.Starved
  · rw [verdict_of_starved h.1 h.2]
    exact (and_iff_right h).symm
  · refine iff_of_false ?_ fun hgranted => h hgranted.1
    rintro ⟨hretry, hne⟩
    rcases verdict_of_not_starved h with hverdict | hverdict
    · cases hretry.symm.trans hverdict
    · exact hne (Verdict.retry.inj (hretry.symm.trans hverdict))

/-! ## The downgrades that are recorded -/

/-- What a downgrade is that is recorded of a failed attempt; its level needs `n` replicas. -/
structure Genuine (a : FailedAttempt) (d : Downgrade) (n : Nat) : Prop where
  /-- It tells of the attempt. -/
  about : d = ⟨a.kind, a.level, d.granted, a.responses, a.required⟩
  first : a.retries ≤ 0
  starved : a.Starved
  best : Level.Best a.responses d.granted n
  other : d.granted ≠ a.level

/-- The retry needs fewer replicas than the attempt did, where these were not there. -/
theorem Genuine.fewer (h : Genuine a d n) (hfew : a.responses < a.required) : (n : Int) < a.required :=
  Int.lt_of_le_of_lt h.best.enough hfew

/-- For a read that timed out they were not there. -/
theorem Genuine.few_of_timeout (h : Genuine a d n) (htimeout : a.kind = .readTimeout) :
    a.responses < a.required := by
  rcases h.starved with ⟨-, hfew⟩ | hunavailable
  · exact hfew
  · cases htimeout.symm.trans hunavailable

/-- **The downgrades that are recorded** are these and no others. -/
theorem FailedAttempt.genuine_iff : a.downgrade? = some d ↔ ∃ n, Genuine a d n := by
  rw [downgrade?_eq_some]
  simp only [granted_iff]
  constructor
  · rintro ⟨level, ⟨⟨hfirst, hstarved⟩, ⟨n, hbest⟩, hother⟩, rfl⟩
    exact ⟨n, rfl, hfirst, hstarved, hbest, hother⟩
  · rintro ⟨n, habout, hfirst, hstarved, hbest, hother⟩
    exact ⟨d.granted, ⟨⟨hfirst, hstarved⟩, ⟨n, hbest⟩, hother⟩, habout⟩

/-- Nothing is recorded where no replica is at hand, nor of a read that timed out with enough of them. -/
theorem FailedAttempt.downgrade?_of_not (h : a.responses ≤ 0 ∨ a.kind = .readTimeout ∧ a.required ≤ a.responses) :
    a.downgrade? = none := by
  cases hd : a.downgrade? with
  | none => rfl
  | some d =>
    obtain ⟨n, hgenuine⟩ := genuine_iff.1 hd
    rcases h with hnone | ⟨htimeout, henough⟩
    · have hpos := hgenuine.best.pos
      omega
    · have hfew := hgenuine.few_of_timeout htimeout
      omega

/-- What a recorder holds, it holds of an attempt since its last reset. -/
theorem exists_genuine {ops : List Operation} (h : (Recorder.fresh.performAll ops).1.last = some d) :
    ∃ a ∈ sinceReset ops, ∃ n, Genuine a d n := by
  have hfresh : Remembers Recorder.fresh.last [] := fun a ha => absurd ha List.not_mem_nil
  have hremembers := hfresh.performAll ops
  rw [h] at hremembers
  obtain ⟨before, a, later, level, hsplit, -, hgranted, hd⟩ := hremembers
  refine ⟨a, ?_, FailedAttempt.genuine_iff.1 (FailedAttempt.downgrade?_eq_some.2 ⟨level, hgranted, hd⟩)⟩
  unfold sinceReset
  rw [hsplit]
  exact List.mem_append_right before List.mem_cons_self

/-- **What is recorded is genuine**: over any life of a recorder, what it holds was made of a first attempt since
its last reset, a read that timed out with too few replicas or was refused, and is at the best level that the
replicas at hand satisfy. That level needs fewer of them than the attempt did, if these were not there, as they
never are for a read that timed out. -/
theorem recorded_genuine (ops : List Operation) :
    (∀ d, (Recorder.fresh.performAll ops).1.last = some d → ∃ a ∈ sinceReset ops, ∃ n, Genuine a d n)
      ∧ (∀ (r : Recorder) (a : FailedAttempt), (r.handle a).1.last = r.last.or a.downgrade?)
      ∧ (∀ (a : FailedAttempt) d, a.downgrade? = some d ↔ ∃ n, Genuine a d n)
      ∧ (∀ a d n, Genuine a d n → a.kind = .readTimeout ∨ a.responses < a.required → (n : Int) < a.required)
      ∧ ∀ a : FailedAttempt, a.responses ≤ 0 ∨ a.kind = .readTimeout ∧ a.required ≤ a.responses →
          a.downgrade? = none := by
  refine ⟨fun d => exists_genuine, Recorder.handle_last, fun a d => FailedAttempt.genuine_iff, ?_,
    fun a => FailedAttempt.downgrade?_of_not⟩
  rintro a d n hgenuine (htimeout | hfew)
  · exact hgenuine.fewer (hgenuine.few_of_timeout htimeout)
  · exact hgenuine.fewer hfew

/-- A read that was refused with two replicas of three is recorded at level two. -/
theorem recorded_genuine_two : ∃ n,
    Genuine ⟨.unavailable, 0, .all, 2, 3, false⟩ ⟨.unavailable, .all, .two, 2, 3⟩ n ∧ (n : Int) < 3 := by
  obtain ⟨-, -, hiff, hfewer, -⟩ := recorded_genuine []
  have hrecorded : FailedAttempt.downgrade? ⟨.unavailable, 0, .all, 2, 3, false⟩
      = some ⟨.unavailable, .all, .two, 2, 3⟩ := by decide
  obtain ⟨n, hgenuine⟩ := (hiff _ _).1 hrecorded
  exact ⟨n, hgenuine, hfewer _ _ n hgenuine (.inr (by decide))⟩

/-- **A read that was refused with enough replicas** is recorded at a level that needs more of them: three instead of
the two of a quorum. -/
theorem refused_strengthened :
    (Recorder.fresh.handle ⟨.unavailable, 0, 4, 3, 2, false⟩).1.last = some ⟨.unavailable, 4, .three, 3, 2⟩
      ∧ Level.text 4 = "QUORUM" ∧ Level.Needs .three 3 ∧ ¬ (3 : Int) < 2 ∧ (2 : Int) ≤ 3 :=
  ⟨by decide, by decide, .three, by decide, by decide⟩

end Retry

end ClusterHealth
