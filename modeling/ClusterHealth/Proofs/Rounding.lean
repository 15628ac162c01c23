import ClusterHealth.Number.Binary64
import Mathlib.Algebra.Order.Ring.Nat
import Mathlib.Tactic.Linarith
import Mathlib.Tactic.Ring

/-!
# `ClusterHealth.Proofs.Rounding` — quotients and the nearest number

What rounding a quotient means is said here without computing it: nothing is nearer, and of two whole numbers that
are equally near the even one is taken. A quotient that lies in the range of a scale is rounded to a whole number
of its steps, and that number comes out even where it is one more than a mantissa can be.

## Contents
- `Nearest`, `roundRatio_eq_iff`: rounding to a whole number.
- `units_ofRatio`, `units_mul`: the size of a rounded quotient, and of a product.
- `FitsMantissa`, `fitsMantissa_truncate?`: the whole numbers that come back from a double-precision number.
-/

namespace ClusterHealth.Number

variable {num den k q q' : Nat}

/-! ## Whole numbers -/

/-- `q` is the whole number nearest to `num / den`, and even if there are two of them. -/
structure Nearest (num den q : Nat) : Prop where
  notBelow : 2 * num ≤ (2 * q + 1) * den
  notAbove : 2 * q * den ≤ 2 * num + den
  even : 2 * num = (2 * q + 1) * den ∨ 2 * q * den = 2 * num + den → q % 2 = 0

theorem nearest_roundRatio (hden : 0 < den) : Nearest num den (roundRatio num den) := by
  have hdiv := Nat.div_add_mod num den
  have hmod := Nat.mod_lt num hden
  unfold roundRatio
  simp only
  generalize num / den = d at hdiv ⊢
  generalize num % den = r at hdiv hmod ⊢
  have hnum : num = d * den + r := by
    rw [Nat.mul_comm, hdiv]
  subst hnum
  split
  · next hlow => constructor <;> grind
  · next hlow =>
    split
    · next hhigh => constructor <;> grind
    · next hhigh =>
      -- A tie: the even one of the two neighbours.
      split
      · next heven => constructor <;> grind
      · next hodd => constructor <;> grind

theorem Nearest.le (hden : 0 < den) (h : Nearest num den q) (h' : Nearest num den q') : q ≤ q' := by
  refine Nat.not_lt.1 fun hlt => ?_
  have hstep : (q' + 1) * den ≤ q * den := Nat.mul_le_mul_right den hlt
  have hbelow := h'.notBelow
  have habove := h.notAbove
  -- Both are ties, so that both numbers are even and nevertheless neighbours.
  have htie : q * den = (q' + 1) * den := by grind
  have hq : q = q' + 1 := Nat.eq_of_mul_eq_mul_right hden htie
  have heven := h.even (.inr (by grind))
  have heven' := h'.even (.inl (by grind))
  omega

theorem roundRatio_eq_iff (hden : 0 < den) : roundRatio num den = q ↔ Nearest num den q := by
  constructor
  · rintro rfl
    exact nearest_roundRatio hden
  · intro h
    exact Nat.le_antisymm ((nearest_roundRatio hden).le hden h) (h.le hden (nearest_roundRatio hden))

/-- A number that is `k` short of a multiple is rounded to it just if `k` is at most a half, and less than a half
where the multiple is an odd one. -/
theorem roundRatio_eq_iff_of_short (hden : 0 < den) (h : num + k = q * den) :
    roundRatio num den = q ↔ 2 * k < den ∨ 2 * k = den ∧ q % 2 = 0 := by
  have hdouble : 2 * q * den = 2 * (q * den) := Nat.mul_assoc 2 q den
  have hsucc : (2 * q + 1) * den = 2 * (q * den) + den := by
    rw [Nat.add_mul, hdouble, Nat.one_mul]
  rw [roundRatio_eq_iff hden]
  constructor
  · rintro ⟨-, habove, heven⟩
    rw [hdouble] at habove heven
    omega
  · intro hnear
    refine ⟨?_, ?_, fun htie => ?_⟩
    all_goals omega

/-- The same for a number that is `k` more than a multiple. -/
theorem roundRatio_eq_iff_of_over (hden : 0 < den) (h : num = q * den + k) :
    roundRatio num den = q ↔ 2 * k < den ∨ 2 * k = den ∧ q % 2 = 0 := by
  have hdouble : 2 * q * den = 2 * (q * den) := Nat.mul_assoc 2 q den
  have hsucc : (2 * q + 1) * den = 2 * (q * den) + den := by
    rw [Nat.add_mul, hdouble, Nat.one_mul]
  rw [roundRatio_eq_iff hden]
  constructor
  · rintro ⟨hbelow, -, heven⟩
    rw [hsucc] at hbelow heven
    omega
  · intro hnear
    refine ⟨?_, ?_, fun htie => ?_⟩
    all_goals omega

theorem roundRatio_mul_left (hk : 0 < k) (num den : Nat) :
    roundRatio (k * num) (k * den) = roundRatio num den := by
  unfold roundRatio
  simp only [Nat.mul_div_mul_left num den hk, Nat.mul_mod_mul_left, Nat.mul_left_comm 2 k,
    Nat.mul_lt_mul_left hk]

theorem roundRatio_one (num : Nat) : roundRatio num 1 = num := by
  refine (roundRatio_eq_iff Nat.one_pos).2 ⟨by omega, by omega, fun htie => ?_⟩
  omega

theorem le_roundRatio (hden : 0 < den) (h : q * den ≤ num) : q ≤ roundRatio num den := by
  have hnearest : 2 * num ≤ (2 * roundRatio num den + 1) * den := (nearest_roundRatio hden).notBelow
  have hle : 2 * q * den ≤ (2 * roundRatio num den + 1) * den := by
    rw [Nat.mul_assoc]
    omega
  have := Nat.le_of_mul_le_mul_right hle hden
  omega

theorem roundRatio_le (hden : 0 < den) (h : num ≤ q * den) : roundRatio num den ≤ q := by
  have hnearest : 2 * roundRatio num den * den ≤ 2 * num + den := (nearest_roundRatio hden).notAbove
  have hle : 2 * roundRatio num den * den ≤ (2 * q + 1) * den := by
    rw [Nat.add_mul, Nat.mul_assoc 2 q]
    omega
  have := Nat.le_of_mul_le_mul_right hle hden
  omega

/-! ## Double-precision numbers -/

/-- How often a unit has to be doubled to make one. -/
def scaleOfOne : Nat := 1074

theorem unitsPerOne_eq : unitsPerOne = 2 ^ scaleOfOne :=
  Nat.one_shiftLeft scaleOfOne

theorem unitsPerOne_pos : 0 < unitsPerOne :=
  unitsPerOne_eq ▸ Nat.two_pow_pos scaleOfOne

theorem Magnitude.units_eq (x : Magnitude) : x.units = x.mantissa * 2 ^ x.scale :=
  Nat.shiftLeft_eq x.mantissa x.scale

namespace Binary64

variable {scale : Nat} {x y : Magnitude}

theorem ofParts_of_full (negative : Bool) {mantissa : Nat} (hlow : 2 ^ 52 ≤ mantissa) (hhigh : mantissa < 2 ^ 53)
    (hscale : scale ≤ 2045) :
    ∃ x, ofParts negative mantissa scale = .finite negative x ∧ x.units = mantissa * 2 ^ scale := by
  unfold ofParts
  rw [dif_pos ⟨hhigh, .inr hlow, hscale⟩]
  exact ⟨_, rfl, Magnitude.units_eq _⟩

/-- A quotient in the range of a scale is rounded to a whole number of the steps of that scale. -/
theorem units_ofRatio (negative : Bool) (hden : 0 < den) (hlow : 2 ^ (52 + scale) * den ≤ num * unitsPerOne)
    (hhigh : num * unitsPerOne < 2 ^ (53 + scale) * den) (hscale : scale ≤ 2044) :
    ∃ x, ofRatio negative num den = .finite negative x
      ∧ x.units = roundRatio (num * unitsPerOne) (den * 2 ^ scale) * 2 ^ scale := by
  unfold ofRatio
  generalize num * unitsPerOne = size at hlow hhigh ⊢
  have hstep : 0 < den * 2 ^ scale := Nat.mul_pos hden (Nat.two_pow_pos scale)
  have hlog : (size / den).log2 = 52 + scale := by
    have hquotient : 2 ^ (52 + scale) ≤ size / den := (Nat.le_div_iff_mul_le hden).2 hlow
    have hne : size / den ≠ 0 := Nat.ne_of_gt (Nat.lt_of_lt_of_le (Nat.two_pow_pos _) hquotient)
    refine (Nat.log2_eq_iff hne).2 ⟨hquotient, (Nat.div_lt_iff_lt_mul hden).2 ?_⟩
    rwa [show 52 + scale + 1 = 53 + scale by omega]
  have hleast : 2 ^ 52 ≤ roundRatio size (den * 2 ^ scale) := by
    apply le_roundRatio hstep
    rwa [Nat.mul_left_comm, ← Nat.pow_add, Nat.mul_comm den]
  have hmost : roundRatio size (den * 2 ^ scale) ≤ 2 ^ 53 := by
    apply roundRatio_le hstep
    rw [Nat.mul_left_comm, ← Nat.pow_add, Nat.mul_comm den]
    exact Nat.le_of_lt hhigh
  simp only [hlog, Nat.add_sub_cancel_left, Nat.shiftLeft_eq]
  split
  · next hcarry =>
    have hscale' : scale + 1 ≤ 2045 := Nat.succ_le_succ hscale
    obtain ⟨x, hx, hunits⟩ := ofParts_of_full negative (Nat.le_refl (2 ^ 52)) (by decide) hscale'
    refine ⟨x, hx, ?_⟩
    have hbound : mantissaBound = 2 ^ 52 * 2 := rfl
    rw [hunits, hcarry, hbound, Nat.mul_assoc, pow_succ' 2 scale]
  · next hcarry =>
    exact ofParts_of_full negative hleast (Nat.lt_of_le_of_ne hmost hcarry) (by omega)

/-- The product of two numbers, where it lies in the range of a scale. -/
theorem units_mul (negative other : Bool) (hlow : 2 ^ (52 + scale) * unitsPerOne ≤ x.units * y.units)
    (hhigh : x.units * y.units < 2 ^ (53 + scale) * unitsPerOne) (hscale : scale ≤ 2044) :
    ∃ z, mul (.finite negative x) (.finite other y) = .finite (negative != other) z
      ∧ z.units = roundRatio (x.units * y.units) (unitsPerOne * 2 ^ scale) * 2 ^ scale := by
  have hU := unitsPerOne_pos
  have hlow' := Nat.mul_le_mul_right unitsPerOne hlow
  have hhigh' := Nat.mul_lt_mul_of_pos_right hhigh hU
  rw [Nat.mul_assoc _ unitsPerOne] at hlow' hhigh'
  obtain ⟨z, hz, hunits⟩ := units_ofRatio (negative != other) (Nat.mul_pos hU hU) hlow' hhigh' hscale
  refine ⟨z, hz, ?_⟩
  rw [hunits, Nat.mul_comm _ unitsPerOne, Nat.mul_assoc unitsPerOne, roundRatio_mul_left hU]

end Binary64

/-! ## Whole numbers of 53 binary digits -/

/-- The first 53 binary digits of a positive number, as a number. -/
def mantissaOf (n : Nat) : Nat :=
  n * 2 ^ 52 / 2 ^ n.log2

/-- A number that has no other digits than these, apart from zeros at its end. -/
def FitsMantissa (n : Nat) : Prop :=
  2 ^ n.log2 ∣ n * 2 ^ 52

instance (n : Nat) : Decidable (FitsMantissa n) :=
  inferInstanceAs (Decidable (2 ^ n.log2 ∣ n * 2 ^ 52))

variable {n m j : Nat}

theorem log2_le_of_lt (h : n < 2 ^ (j + 1)) : n.log2 ≤ j := by
  by_cases hn : n = 0
  · subst hn
    exact Nat.zero_le j
  · exact Nat.lt_succ_iff.1 ((Nat.log2_lt hn).2 h)

/-- A number below `2 ^ 53`, with any count of zeros behind it. -/
theorem fitsMantissa_mul_two_pow (h : m < 2 ^ 53) (j : Nat) : FitsMantissa (m * 2 ^ j) := by
  have hlog : (m * 2 ^ j).log2 ≤ 52 + j := by
    apply log2_le_of_lt
    rw [show 52 + j + 1 = 53 + j by omega, Nat.pow_add]
    exact Nat.mul_lt_mul_of_pos_right h (Nat.two_pow_pos j)
  have hpower : 2 ^ (52 + j) ∣ m * 2 ^ j * 2 ^ 52 := by
    rw [Nat.mul_assoc, ← Nat.pow_add, Nat.add_comm j]
    exact Nat.dvd_mul_left _ m
  exact Nat.dvd_trans (Nat.pow_dvd_pow 2 hlog) hpower

theorem fitsMantissa_of_lt (h : n < 2 ^ 53) : FitsMantissa n := by
  have hfits := fitsMantissa_mul_two_pow h 0
  rwa [Nat.pow_zero, Nat.mul_one] at hfits

theorem FitsMantissa.mantissaOf_mul (h : FitsMantissa n) : mantissaOf n * 2 ^ n.log2 = n * 2 ^ 52 :=
  Nat.div_mul_cancel h

/-- Its size is its mantissa in steps of the scale that it has. -/
theorem FitsMantissa.mul_unitsPerOne (h : FitsMantissa n) :
    n * unitsPerOne = mantissaOf n * 2 ^ (scaleOfOne + n.log2 - 52) := by
  have hone : scaleOfOne = 52 + (scaleOfOne - 52) := rfl
  rw [unitsPerOne_eq, hone, Nat.pow_add, ← Nat.mul_assoc, ← h.mantissaOf_mul, Nat.mul_assoc, ← Nat.pow_add]
  congr 2
  omega

theorem le_mantissaOf (hn : n ≠ 0) : 2 ^ 52 ≤ mantissaOf n := by
  rw [mantissaOf, Nat.le_div_iff_mul_le (Nat.two_pow_pos _), Nat.mul_comm]
  exact Nat.mul_le_mul_right _ (Nat.log2_self_le hn)

theorem mantissaOf_lt : mantissaOf n < 2 ^ 53 := by
  have hlt := Nat.mul_lt_mul_of_pos_right (Nat.lt_log2_self (n := n)) (Nat.two_pow_pos 52)
  rw [mantissaOf, Nat.div_lt_iff_lt_mul (Nat.two_pow_pos _)]
  rwa [← Nat.pow_add, show n.log2 + 1 + 52 = 53 + n.log2 by omega, Nat.pow_add] at hlt

/-- The whole part of a double-precision number has no more digits than that. -/
theorem fitsMantissa_units_div (x : Magnitude) : FitsMantissa (x.units / unitsPerOne) := by
  rw [Magnitude.units_eq, unitsPerOne_eq]
  rcases Nat.le_total scaleOfOne x.scale with hle | hle
  · obtain ⟨j, hj⟩ := Nat.exists_eq_add_of_le hle
    rw [hj, Nat.pow_add, Nat.mul_left_comm, Nat.mul_div_cancel_left _ (Nat.two_pow_pos _)]
    exact fitsMantissa_mul_two_pow x.mantissa_lt j
  · apply fitsMantissa_of_lt
    rw [Nat.div_lt_iff_lt_mul (Nat.two_pow_pos _)]
    exact Nat.mul_lt_mul_of_lt_of_le x.mantissa_lt (Nat.pow_le_pow_right (by decide) hle) (Nat.two_pow_pos _)

namespace Binary64

theorem truncate?_finite (negative : Bool) (x : Magnitude) : truncate? (.finite negative x)
    = some (if negative then -((x.units / unitsPerOne : Nat) : Int) else (x.units / unitsPerOne : Nat)) := by
  unfold truncate? units?
  rw [Option.map_some]
  cases negative with
  | false => exact congrArg some (Int.ofNat_tdiv _ _).symm
  | true => exact congrArg some ((Int.neg_tdiv _ _).trans (congrArg Neg.neg (Int.ofNat_tdiv _ _).symm))

theorem fitsMantissa_truncate? {x : Binary64} {z : Int} (h : x.truncate? = some z) : FitsMantissa z.natAbs := by
  cases x with
  | nan => exact nomatch h
  | infinity => exact nomatch h
  | finite negative x =>
    rw [truncate?_finite] at h
    have hz : z.natAbs = x.units / unitsPerOne := by
      rw [← Option.some.inj h]
      cases negative with
      | false => exact Int.natAbs_natCast _
      | true => exact (Int.natAbs_neg _).trans (Int.natAbs_natCast _)
    rw [hz]
    exact fitsMantissa_units_div x

/-- A whole number that has no more digits is a double-precision number as it stands. -/
theorem units_ofRatio_one (negative : Bool) (hn : n ≠ 0) (hfits : FitsMantissa n) (hlog : n.log2 ≤ 1000) :
    ∃ x, ofRatio negative n 1 = .finite negative x ∧ x.units = n * unitsPerOne := by
  have hsize := hfits.mul_unitsPerOne
  have hscale : scaleOfOne + n.log2 - 52 ≤ 2044 := by
    have hone : scaleOfOne = 1074 := rfl
    omega
  generalize scaleOfOne + n.log2 - 52 = scale at hsize hscale
  have hlow : 2 ^ (52 + scale) * 1 ≤ n * unitsPerOne := by
    rw [hsize, Nat.mul_one, Nat.pow_add]
    exact Nat.mul_le_mul_right _ (le_mantissaOf hn)
  have hhigh : n * unitsPerOne < 2 ^ (53 + scale) * 1 := by
    rw [hsize, Nat.mul_one, Nat.pow_add]
    exact Nat.mul_lt_mul_of_pos_right mantissaOf_lt (Nat.two_pow_pos _)
  obtain ⟨x, hx, hunits⟩ := units_ofRatio negative Nat.one_pos hlow hhigh hscale
  refine ⟨x, hx, ?_⟩
  rw [hunits, hsize, Nat.mul_comm 1, Nat.mul_comm (mantissaOf n), roundRatio_mul_left (Nat.two_pow_pos _),
    roundRatio_one, Nat.mul_comm]

end Binary64

end ClusterHealth.Number
