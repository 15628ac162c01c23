import ClusterHealth.Proofs.Rounding
import ClusterHealth.Trace

/-!
# `ClusterHealth.Proofs.Durations` — which durations come back from seconds

A duration in microseconds is turned into seconds and back again, with a rounding on the way there and one on the
way back, and its fraction is cut off at the end. What becomes of it is decided by its mantissa alone, its first 53
binary digits. The lowest of the mantissas all come back: a step of the seconds is less than a step of theirs. For the
others it is nearly two, and those come back that a million divides well enough. A mantissa that comes back too large
may still do no harm, as what is too much goes with the fraction; one that comes back too small makes the duration a
microsecond short (`micros_shortened`).

## Contents
- `throughSeconds`: what becomes of a mantissa.
- `Survives`, `throughSeconds_eq_self_iff`: the mantissas that come back.
- `micros_of_fits`: a duration and its mantissa.
- `Recovered`, `micros_exact`: the durations that come back.
-/

namespace ClusterHealth.Trace

open ClusterHealth.Number

variable {m n : Nat} {duration : Int}

/-! ## Mantissas -/

/-- How many steps of the seconds there are to one of a mantissa, so that the seconds have a full mantissa too. -/
def steps (m : Nat) : Nat :=
  if m < 15625 * 2 ^ 39 then 2 ^ 20 else 2 ^ 19

/-- A millionth of a mantissa, rounded. -/
def millionth (m : Nat) : Nat :=
  roundRatio (m * steps m) 1000000

/-- What becomes of a mantissa on the way to seconds and back. -/
def throughSeconds (m : Nat) : Nat :=
  roundRatio (millionth m * 1000000) (steps m)

/-- What a division by a million leaves of a mantissa that is not among the lower ones. -/
def leftOver (m : Nat) : Nat :=
  m * 2 ^ 19 % 1000000

/-- A mantissa that comes back: a lower one, or one that is at most half a step away from a multiple. -/
def Survives (m : Nat) : Prop :=
  m < 15625 * 2 ^ 39 ∨ leftOver m < 2 ^ 18 ∨ 1000000 < leftOver m + 2 ^ 18
    ∨ m % 2 = 0 ∧ (leftOver m = 2 ^ 18 ∨ leftOver m + 2 ^ 18 = 1000000)

instance (m : Nat) : Decidable (Survives m) :=
  inferInstanceAs (Decidable (_ ∨ _ ∨ _ ∨ _))

theorem steps_of_low (h : m < 15625 * 2 ^ 39) : steps m = 2 ^ 20 :=
  if_pos h

theorem steps_of_not_low (h : ¬ m < 15625 * 2 ^ 39) : steps m = 2 ^ 19 :=
  if_neg h

/-- A million times the millionth is the mantissa but for a rounding. -/
theorem millionth_near (m : Nat) : 2 * (m * steps m) ≤ 2 * (millionth m * 1000000) + 1000000
    ∧ 2 * (millionth m * 1000000) ≤ 2 * (m * steps m) + 1000000 := by
  have hnearest : Nearest (m * steps m) 1000000 (millionth m) := nearest_roundRatio (Nat.succ_pos _)
  have hbelow := hnearest.notBelow
  have habove := hnearest.notAbove
  omega

/-- The millionth of a mantissa that is not among the lower ones, by what is left over. There is no tie: the remainder
is a multiple of 64. -/
theorem millionth_of_not_low (h : ¬ m < 15625 * 2 ^ 39) :
    leftOver m < 500000 ∧ millionth m * 1000000 + leftOver m = m * 2 ^ 19
      ∨ (500000 < leftOver m ∧ leftOver m < 1000000)
        ∧ millionth m * 1000000 + leftOver m = m * 2 ^ 19 + 1000000 := by
  have hnear := millionth_near m
  rw [steps_of_not_low h] at hnear
  unfold leftOver
  omega

theorem throughSeconds_of_low (h : m < 15625 * 2 ^ 39) : throughSeconds m = m := by
  have hnear := millionth_near m
  unfold throughSeconds
  rw [steps_of_low h] at hnear ⊢
  refine (roundRatio_eq_iff (Nat.two_pow_pos 20)).2 ⟨?_, ?_, ?_⟩
  all_goals omega

/-- A number that is `r` short of a mantissa, or more by what `r` lacks of a million, in steps of seconds. -/
theorem roundRatio_near_iff {s r : Nat} (h : r < 500000 ∧ s + r = m * 2 ^ 19
      ∨ (500000 < r ∧ r < 1000000) ∧ s + r = m * 2 ^ 19 + 1000000) :
    roundRatio s (2 ^ 19) = m ↔ r < 2 ^ 18 ∨ 1000000 < r + 2 ^ 18
      ∨ m % 2 = 0 ∧ (r = 2 ^ 18 ∨ r + 2 ^ 18 = 1000000) := by
  rcases h with ⟨hr, hs⟩ | ⟨hr, hs⟩
  · rw [roundRatio_eq_iff_of_short (Nat.two_pow_pos 19) hs]
    omega
  · have hover : s = m * 2 ^ 19 + (1000000 - r) := by
      omega
    rw [roundRatio_eq_iff_of_over (Nat.two_pow_pos 19) hover]
    omega

/-- Where it is not rounded to the mantissa, it is rounded to the neighbour on its side. -/
theorem roundRatio_of_not_near {s r : Nat} (h : r < 500000 ∧ s + r = m * 2 ^ 19
      ∨ (500000 < r ∧ r < 1000000) ∧ s + r = m * 2 ^ 19 + 1000000) (hne : roundRatio s (2 ^ 19) ≠ m) :
    r < 500000 ∧ roundRatio s (2 ^ 19) = m - 1 ∨ 500000 < r ∧ roundRatio s (2 ^ 19) = m + 1 := by
  rw [Ne, roundRatio_near_iff h] at hne
  rcases h with ⟨hr, hs⟩ | ⟨hr, hs⟩
  · have hover : s = (m - 1) * 2 ^ 19 + (2 ^ 19 - r) := by
      omega
    refine .inl ⟨hr, (roundRatio_eq_iff_of_over (Nat.two_pow_pos 19) hover).2 ?_⟩
    omega
  · have hshort : s + (r + 2 ^ 19 - 1000000) = (m + 1) * 2 ^ 19 := by
      omega
    refine .inr ⟨hr.1, (roundRatio_eq_iff_of_short (Nat.two_pow_pos 19) hshort).2 ?_⟩
    omega

theorem throughSeconds_of_not_low (h : ¬ m < 15625 * 2 ^ 39) :
    throughSeconds m = roundRatio (millionth m * 1000000) (2 ^ 19) :=
  congrArg (roundRatio _) (steps_of_not_low h)

/-- **The mantissas that come back.** -/
theorem throughSeconds_eq_self_iff : throughSeconds m = m ↔ Survives m := by
  by_cases h : m < 15625 * 2 ^ 39
  · exact iff_of_true (throughSeconds_of_low h) (.inl h)
  · rw [throughSeconds_of_not_low h, roundRatio_near_iff (millionth_of_not_low h)]
    exact (or_iff_right h).symm

/-- The others become the neighbour on the side on which the multiple is. -/
theorem throughSeconds_of_not (h : ¬ Survives m) :
    leftOver m < 500000 ∧ throughSeconds m = m - 1 ∨ 500000 < leftOver m ∧ throughSeconds m = m + 1 := by
  have hhigh : ¬ m < 15625 * 2 ^ 39 := fun hlow => h (.inl hlow)
  have hne : throughSeconds m ≠ m := fun heq => h (throughSeconds_eq_self_iff.1 heq)
  rw [throughSeconds_of_not_low hhigh] at hne ⊢
  exact roundRatio_of_not_near (millionth_of_not_low hhigh) hne

/-! ## From a duration to its mantissa -/

theorem exists_steps (hlow : 2 ^ 52 ≤ m) (hhigh : m < 2 ^ 53) :
    ∃ k ≤ 20, 19 ≤ k ∧ steps m = 2 ^ k ∧ 2 ^ 52 * 1000000 ≤ m * 2 ^ k ∧ m * 2 ^ k < 2 ^ 53 * 1000000 := by
  by_cases h : m < 15625 * 2 ^ 39
  · refine ⟨20, by decide, by decide, steps_of_low h, ?_⟩
    omega
  · refine ⟨19, by decide, by decide, steps_of_not_low h, ?_⟩
    omega

/-- The seconds of a duration whose mantissa is that of a million times as many. -/
theorem units_seconds (negative : Bool) {k j : Nat} (hsize : n * unitsPerOne = m * 2 ^ k * 2 ^ j)
    (hlow : 2 ^ 52 * 1000000 ≤ m * 2 ^ k) (hhigh : m * 2 ^ k < 2 ^ 53 * 1000000) (hj : j ≤ 2044) :
    ∃ x, Binary64.ofRatio negative n 1000000 = .finite negative x
      ∧ x.units = roundRatio (m * 2 ^ k) 1000000 * 2 ^ j := by
  have hpos : 0 < 2 ^ j := Nat.two_pow_pos j
  have hlow' : 2 ^ (52 + j) * 1000000 ≤ n * unitsPerOne := by
    have hleast : 2 ^ (52 + j) * 1000000 = 2 ^ 52 * 1000000 * 2 ^ j := by ring
    rw [hsize, hleast]
    exact Nat.mul_le_mul_right _ hlow
  have hhigh' : n * unitsPerOne < 2 ^ (53 + j) * 1000000 := by
    have hmost : 2 ^ (53 + j) * 1000000 = 2 ^ 53 * 1000000 * 2 ^ j := by ring
    rw [hsize, hmost]
    exact Nat.mul_lt_mul_of_pos_right hhigh hpos
  obtain ⟨x, hx, hunits⟩ := Binary64.units_ofRatio negative (Nat.succ_pos _) hlow' hhigh' hj
  refine ⟨x, hx, ?_⟩
  rw [hunits, hsize, Nat.mul_comm (m * 2 ^ k), Nat.mul_comm 1000000, roundRatio_mul_left hpos]

/-- A million times some seconds. -/
theorem units_mul_million (negative : Bool) {x : Magnitude} {s e j : Nat} (hx : x.units = s * 2 ^ j)
    (hlow : 2 ^ (52 + e) ≤ s * 1000000) (hhigh : s * 1000000 < 2 ^ (53 + e)) (he : j + e ≤ 2044) :
    ∃ z, Binary64.mul (.finite negative x) (.ofInt 1000000) = .finite negative z
      ∧ z.units = roundRatio (s * 1000000) (2 ^ e) * 2 ^ (j + e) := by
  have hU := unitsPerOne_pos
  have hpos : 0 < 2 ^ j := Nat.two_pow_pos j
  obtain ⟨y, hy, hmillion⟩ : ∃ y, Binary64.ofInt 1000000 = .finite false y ∧ y.units = 1000000 * unitsPerOne :=
    Binary64.units_ofRatio_one false (by decide) (fitsMantissa_of_lt (by decide)) (by decide)
  have hproduct : x.units * y.units = unitsPerOne * 2 ^ j * (s * 1000000) := by
    rw [hx, hmillion]
    ring
  have hlow' : 2 ^ (52 + (j + e)) * unitsPerOne ≤ x.units * y.units := by
    have hleast : 2 ^ (52 + (j + e)) * unitsPerOne = unitsPerOne * 2 ^ j * 2 ^ (52 + e) := by ring
    rw [hproduct, hleast]
    exact Nat.mul_le_mul_left _ hlow
  have hhigh' : x.units * y.units < 2 ^ (53 + (j + e)) * unitsPerOne := by
    have hmost : 2 ^ (53 + (j + e)) * unitsPerOne = unitsPerOne * 2 ^ j * 2 ^ (53 + e) := by ring
    rw [hproduct, hmost]
    exact Nat.mul_lt_mul_of_pos_left hhigh (Nat.mul_pos hU hpos)
  obtain ⟨z, hz, hunits⟩ := Binary64.units_mul negative false hlow' hhigh' he
  refine ⟨z, ?_, ?_⟩
  · rw [hy, hz, Bool.bne_false]
  · have hstep : unitsPerOne * 2 ^ (j + e) = unitsPerOne * 2 ^ j * 2 ^ e := by ring
    rw [hunits, hproduct, hstep, roundRatio_mul_left (Nat.mul_pos hU hpos)]

/-- **What becomes of a duration** that a mantissa can hold is what becomes of its mantissa. -/
theorem units_throughSeconds (negative : Bool) (hn : n ≠ 0) (hfits : FitsMantissa n) (hlog : n.log2 ≤ 1000) :
    ∃ z, (Binary64.ofRatio negative n 1000000).mul (.ofInt 1000000) = .finite negative z
      ∧ z.units = throughSeconds (mantissaOf n) * 2 ^ (scaleOfOne + n.log2 - 52) := by
  have hone : scaleOfOne = 1074 := rfl
  have hsize := hfits.mul_unitsPerOne
  have hleast := le_mantissaOf hn
  obtain ⟨k, hk, hk', hsteps, hlow, hhigh⟩ := exists_steps hleast (mantissaOf_lt (n := n))
  have hscale : scaleOfOne + n.log2 - 52 = k + (scaleOfOne + n.log2 - 52 - k) := by
    omega
  have hj : scaleOfOne + n.log2 - 52 - k ≤ 2024 := by
    omega
  generalize scaleOfOne + n.log2 - 52 - k = j at hscale hj
  rw [hscale, Nat.pow_add, ← Nat.mul_assoc] at hsize
  obtain ⟨x, hx, hunits⟩ := units_seconds negative hsize hlow hhigh (by omega)
  rw [hx, hscale, Nat.add_comm k j]
  rw [← hsteps] at hunits
  change x.units = millionth (mantissaOf n) * 2 ^ j at hunits
  have hmost := mantissaOf_lt (n := n)
  generalize mantissaOf n = m at *
  by_cases hm : m = 2 ^ 52
  · -- The product is below the mantissa, and with it below the range of its scale.
    subst hm
    obtain rfl : k = 20 :=
      Nat.pow_right_injective (Nat.le_refl 2) (hsteps.symm.trans (steps_of_low (by decide)))
    obtain ⟨z, hz, hproduct⟩ := units_mul_million negative (e := 19) hunits (by decide) (by decide) (by omega)
    refine ⟨z, hz, hproduct.trans ?_⟩
    have hback : roundRatio (millionth (2 ^ 52) * 1000000) (2 ^ 19) = 2 ^ 52 * 2 := by decide
    have hthrough : throughSeconds (2 ^ 52) = 2 ^ 52 := by decide
    rw [hback, hthrough]
    ring
  · have hnear := millionth_near m
    have hbig : (2 ^ 52 + 1) * 2 ^ k ≤ m * 2 ^ k := Nat.mul_le_mul_right _ (by omega)
    have hsmall : m * 2 ^ k ≤ (2 ^ 53 - 1) * 2 ^ k := Nat.mul_le_mul_right _ (by omega)
    have hstep : 2 ^ 19 ≤ 2 ^ k := Nat.pow_le_pow_right (by decide) hk'
    rw [hsteps] at hnear
    obtain ⟨z, hz, hproduct⟩ := units_mul_million negative (e := k) hunits (by rw [Nat.pow_add]; omega)
      (by rw [Nat.pow_add]; omega) (by omega)
    refine ⟨z, hz, hproduct.trans ?_⟩
    rw [throughSeconds, hsteps]

/-! ## Whole microseconds -/

/-- What is left of a mantissa without the digits behind the point of a number. -/
theorem whole_of_short (h : n.log2 ≤ 52) (mantissa : Nat) :
    mantissa * 2 ^ (scaleOfOne + n.log2 - 52) / unitsPerOne = mantissa / 2 ^ (52 - n.log2) := by
  have hone : scaleOfOne = 1074 := rfl
  have hscale : scaleOfOne = 52 - n.log2 + (scaleOfOne + n.log2 - 52) := by
    omega
  have hunits : unitsPerOne = 2 ^ (52 - n.log2) * 2 ^ (scaleOfOne + n.log2 - 52) := by
    rw [unitsPerOne_eq, ← Nat.pow_add, ← hscale]
  rw [hunits, Nat.mul_div_mul_right _ _ (Nat.two_pow_pos _)]

theorem whole_of_long (h : 52 ≤ n.log2) (mantissa : Nat) :
    mantissa * 2 ^ (scaleOfOne + n.log2 - 52) / unitsPerOne = mantissa * 2 ^ (n.log2 - 52) := by
  have hscale : scaleOfOne + n.log2 - 52 = n.log2 - 52 + scaleOfOne := by
    omega
  rw [hscale, Nat.pow_add, ← unitsPerOne_eq, ← Nat.mul_assoc, Nat.mul_div_cancel _ unitsPerOne_pos]

theorem mantissaOf_of_short (h : n.log2 ≤ 52) : mantissaOf n = n * 2 ^ (52 - n.log2) := by
  have hpow : n * 2 ^ 52 = n * 2 ^ (52 - n.log2) * 2 ^ n.log2 := by
    rw [Nat.mul_assoc, ← Nat.pow_add, Nat.sub_add_cancel h]
  rw [mantissaOf, hpow, Nat.mul_div_cancel _ (Nat.two_pow_pos _)]

theorem mantissaOf_of_long (h : 52 ≤ n.log2) (hfits : FitsMantissa n) :
    mantissaOf n * 2 ^ (n.log2 - 52) = n := by
  have hsame := hfits.mantissaOf_mul
  rw [show n.log2 = n.log2 - 52 + 52 by omega, Nat.pow_add, ← Nat.mul_assoc] at hsame
  exact Nat.eq_of_mul_eq_mul_right (Nat.two_pow_pos 52) hsame

/-- The size of what comes back of a duration that a mantissa can hold. -/
def returned (n : Nat) : Nat :=
  throughSeconds (mantissaOf n) * 2 ^ (scaleOfOne + n.log2 - 52) / unitsPerOne

/-- Below `2 ^ 52` there are digits behind the point, and with them goes what is too much. -/
theorem returned_of_lt (hn : n ≠ 0) (hlt : n < 2 ^ 52) :
    returned n = if Survives (mantissaOf n) ∨ 500000 < leftOver (mantissaOf n) then n else n - 1 := by
  have hlog : n.log2 < 52 := (Nat.log2_lt hn).2 hlt
  have hD : 2 ^ 1 ≤ 2 ^ (52 - n.log2) := Nat.pow_le_pow_right (by decide) (by omega)
  unfold returned
  rw [whole_of_short (Nat.le_of_lt hlog)]
  have hm := mantissaOf_of_short (Nat.le_of_lt hlog)
  generalize mantissaOf n = m at hm ⊢
  generalize 2 ^ (52 - n.log2) = D at hD hm ⊢
  have hsucc : (n + 1) * D = n * D + D := Nat.succ_mul n D
  have hpred : (n - 1) * D + D = n * D := by
    rw [← Nat.succ_mul, Nat.succ_eq_add_one, Nat.sub_add_cancel (Nat.pos_of_ne_zero hn)]
  by_cases hs : Survives m
  · rw [if_pos (.inl hs), throughSeconds_eq_self_iff.2 hs]
    apply Nat.div_eq_of_lt_le
    all_goals omega
  · rcases throughSeconds_of_not hs with ⟨hleft, hthrough⟩ | ⟨hleft, hthrough⟩
    · rw [if_neg (by rintro (hs' | hleft'); exacts [hs hs', by omega]), hthrough]
      apply Nat.div_eq_of_lt_le
      · omega
      · rw [Nat.sub_add_cancel (Nat.pos_of_ne_zero hn)]
        omega
    · rw [if_pos (.inr hleft), hthrough]
      apply Nat.div_eq_of_lt_le
      all_goals omega

/-- From there on there are none, and it is as it is with the mantissa. -/
theorem returned_of_le (hfits : FitsMantissa n) (hle : 2 ^ 52 ≤ n) :
    returned n = n ↔ Survives (mantissaOf n) := by
  have hlog : 52 ≤ n.log2 := (Nat.le_log2 (by omega)).2 hle
  have hm := mantissaOf_of_long hlog hfits
  unfold returned
  rw [whole_of_long hlog, ← throughSeconds_eq_self_iff]
  constructor
  · intro h
    exact Nat.eq_of_mul_eq_mul_right (Nat.two_pow_pos _) (h.trans hm.symm)
  · intro h
    rw [h, hm]

/-! ## Durations -/

/-- The longest duration in microseconds: a thousand million days, less one. -/
def longest : Nat := 86399999999999999999

/-- The microseconds that come back from seconds: they fit into a mantissa, and that survives; or what is too much is
behind the point. -/
def Recovered (n : Nat) : Prop :=
  n = 0 ∨ FitsMantissa n ∧ (Survives (mantissaOf n) ∨ n < 2 ^ 52 ∧ 500000 < leftOver (mantissaOf n))

instance (n : Nat) : Decidable (Recovered n) :=
  inferInstanceAs (Decidable (n = 0 ∨ _ ∧ (_ ∨ _ ∧ _)))

theorem returned_eq_self_iff (hn : n ≠ 0) (hfits : FitsMantissa n) : returned n = n ↔ Recovered n := by
  unfold Recovered
  rw [or_iff_right hn, and_iff_right hfits]
  rcases Nat.lt_or_ge n (2 ^ 52) with hlt | hge
  · rw [and_iff_right hlt, returned_of_lt hn hlt]
    split
    · next h => exact iff_of_true rfl h
    · next h => exact iff_of_false (by omega) h
  · rw [returned_of_le hfits hge]
    exact (or_iff_left fun h => absurd h.1 (Nat.not_lt.2 hge)).symm

/-- What comes back of a duration that a mantissa can hold; the sign stays. -/
theorem micros_of_fits (hzero : duration ≠ 0) (hfits : FitsMantissa duration.natAbs)
    (hlog : duration.natAbs.log2 ≤ 1000) : micros duration = duration.sign * returned duration.natAbs := by
  obtain ⟨z, hz, hunits⟩ := units_throughSeconds (decide (duration < 0)) (Int.natAbs_ne_zero.2 hzero) hfits hlog
  unfold micros returned
  simp only
  rw [hz, Binary64.truncate?_finite, Option.getD_some, hunits]
  rcases Int.lt_or_gt_of_ne hzero with hneg | hpos
  · rw [if_pos (decide_eq_true hneg), Int.sign_eq_neg_one_of_neg hneg, Int.neg_mul, Int.one_mul]
  · rw [if_neg (by simpa using Int.le_of_lt hpos), Int.sign_eq_one_of_pos hpos, Int.one_mul]

/-- What comes back always fits into a mantissa. -/
theorem fitsMantissa_micros (duration : Int) : FitsMantissa (micros duration).natAbs := by
  unfold micros
  simp only
  generalize (Binary64.ofRatio (decide (duration < 0)) duration.natAbs 1000000).mul (.ofInt 1000000) = product
  cases h : product.truncate? with
  | none => exact fitsMantissa_of_lt (by decide)
  | some whole => exact Binary64.fitsMantissa_truncate? h

theorem micros_zero : micros 0 = 0 := by
  decide +kernel

/-- A number with the sign of a duration, against that duration. -/
theorem sign_mul_sub (hzero : duration ≠ 0) (k : Nat) :
    (duration.sign * k = duration ↔ k = duration.natAbs)
      ∧ (k + 1 = duration.natAbs → duration.sign * k = duration - duration.sign) := by
  rcases Int.lt_or_gt_of_ne hzero with hneg | hpos
  · rw [Int.sign_eq_neg_one_of_neg hneg]
    omega
  · rw [Int.sign_eq_one_of_pos hpos]
    omega

/-- **The durations that come back** from seconds are these. Of the others every one below `2 ^ 52` microseconds is a
microsecond short, on the side of zero. -/
theorem micros_exact (h : duration.natAbs ≤ longest) :
    (micros duration = duration ↔ Recovered duration.natAbs)
      ∧ (duration.natAbs < 2 ^ 52 → ¬ Recovered duration.natAbs → micros duration = duration - duration.sign) := by
  by_cases hzero : duration = 0
  · subst hzero
    exact ⟨iff_of_true micros_zero (.inl rfl), fun _ hnot => absurd (.inl rfl) hnot⟩
  have hn : duration.natAbs ≠ 0 := Int.natAbs_ne_zero.2 hzero
  have hlog : duration.natAbs.log2 ≤ 1000 := by
    have hlt : duration.natAbs < 2 ^ 67 := Nat.lt_of_le_of_lt h (by decide)
    exact Nat.le_trans (log2_le_of_lt hlt) (by decide)
  by_cases hfits : FitsMantissa duration.natAbs
  · obtain ⟨hsame, hless⟩ := sign_mul_sub hzero (returned duration.natAbs)
    rw [micros_of_fits hzero hfits hlog, hsame, returned_eq_self_iff hn hfits]
    refine ⟨Iff.rfl, fun hlt hnot => hless ?_⟩
    have hreturned := returned_of_lt hn hlt
    split at hreturned
    · exact absurd ((returned_eq_self_iff hn hfits).1 hreturned) hnot
    · omega
  · constructor
    · refine iff_of_false (fun hsame => hfits ?_) fun hrecovered => ?_
      · have hback := fitsMantissa_micros duration
        rwa [hsame] at hback
      · rcases hrecovered with hnone | ⟨hfits', -⟩
        · exact hn hnone
        · exact hfits hfits'
    · exact fun hlt _ => absurd (fitsMantissa_of_lt (Nat.lt_trans hlt (by decide))) hfits

/-- One duration comes back although its mantissa does not, and another does not come back. -/
theorem micros_exact_smallest : micros 123 = 123 ∧ micros (-249) = -248 := by
  obtain ⟨hlong, -⟩ := micros_exact (by decide : (123 : Int).natAbs ≤ longest)
  obtain ⟨-, hshort⟩ := micros_exact (by decide : (-249 : Int).natAbs ≤ longest)
  exact ⟨hlong.2 (by decide), hshort (by decide) (by decide)⟩

/-- **A duration that is a microsecond short**: one microsecond less than a quarter of a millisecond. -/
theorem micros_shortened : (249 : Int).natAbs ≤ longest ∧ micros 249 = 248 := by
  decide +kernel

end ClusterHealth.Trace
