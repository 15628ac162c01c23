import ClusterHealth.Proofs.Text
import Mathlib.Data.List.Basic
import Mathlib.Data.List.Induction
import Mathlib.Data.Nat.Digits.Defs

/-!
# `ClusterHealth.Proofs.Digits` — numbers and their digits in a base

So many digits below a base are the same thing as a number below a power of it, and digits without a zero in
front are the same thing as the number that they spell.

## Contents
- `ofDigits_lt`, `ofDigits_injective`, `exists_ofDigits`: numbers and digits of a fixed count.
- `digits_ofDigits`: digits without a zero in front are those of their number.
-/

namespace ClusterHealth.Text

variable {base : Nat} {ds es : List Nat}

/-! ## Digits of a fixed count -/

/-- The library has the digits in the other order. -/
theorem ofDigits_eq_reverse (base : Nat) (ds : List Nat) :
    ofDigits base ds = Nat.ofDigits base ds.reverse := by
  induction ds using List.reverseRecOn with
  | nil => rfl
  | append_singleton ds d ih =>
    rw [ofDigits_append, List.reverse_append, ih]
    show _ = Nat.ofDigits base (d :: ds.reverse)
    rw [Nat.ofDigits_cons, Nat.add_comm]

theorem ofDigits_lt (hbase : 1 < base) (h : ∀ d ∈ ds, d < base) :
    ofDigits base ds < base ^ ds.length := by
  have hlt := Nat.ofDigits_lt_base_pow_length hbase fun d hd => h d (List.mem_reverse.1 hd)
  rw [ofDigits_eq_reverse]
  rw [List.length_reverse] at hlt
  exact hlt

/-- As many digits that spell the same number are the same digits. -/
theorem ofDigits_injective (hbase : 1 < base) (hlength : ds.length = es.length) (hds : ∀ d ∈ ds, d < base)
    (hes : ∀ d ∈ es, d < base) (h : ofDigits base ds = ofDigits base es) : ds = es := by
  rw [ofDigits_eq_reverse, ofDigits_eq_reverse] at h
  have hreverse : ds.reverse = es.reverse := by
    apply Nat.ofDigits_inj_of_len_eq hbase
    · rw [List.length_reverse, List.length_reverse, hlength]
    · exact fun d hd => hds d (List.mem_reverse.1 hd)
    · exact fun d hd => hes d (List.mem_reverse.1 hd)
    · exact h
  exact List.reverse_inj.1 hreverse

/-- Every number below a power of the base is spelled by that many digits. -/
theorem exists_ofDigits {k n : Nat} (hbase : 1 < base) (h : n < base ^ k) :
    ∃ ds : List Nat, ds.length = k ∧ (∀ d ∈ ds, d < base) ∧ ofDigits base ds = n := by
  -- By induction on the number of digits: the last one is the remainder.
  induction k generalizing n with
  | zero =>
    have hzero : n = 0 := by
      rw [Nat.pow_zero] at h
      omega
    exact ⟨[], rfl, nofun, hzero.symm⟩
  | succ k ih =>
    have hdiv : n / base < base ^ k := by
      rw [Nat.div_lt_iff_lt_mul (by omega), ← Nat.pow_succ]
      exact h
    obtain ⟨ds, hlength, hds, hvalue⟩ := ih hdiv
    refine ⟨ds ++ [n % base], ?_, ?_, ?_⟩
    · rw [List.length_append, hlength]
      rfl
    · intro d hd
      rcases List.mem_append.1 hd with hd | hd
      · exact hds d hd
      · rw [List.mem_singleton.1 hd]
        exact Nat.mod_lt n (by omega)
    · rw [ofDigits_append, hvalue]
      exact Nat.div_add_mod n base

/-! ## Digits of a number -/

/-- Digits without a zero in front are the digits of the number that they spell. -/
theorem digits_ofDigits (hbase : 2 ≤ base) (hds : ∀ d ∈ ds, d < base) (hne : ds ≠ [])
    (hhead : ds.length = 1 ∨ ds.head? ≠ some 0) : digits base (ofDigits base ds) = ds := by
  -- By induction from the last digit on, which is the remainder.
  induction ds using List.reverseRecOn with
  | nil => exact absurd rfl hne
  | append_singleton ds d ih =>
    have hd : d < base := hds d (by simp)
    rw [ofDigits_append]
    by_cases hnil : ds = []
    · subst hnil
      rw [digits, dif_pos (.inr (by simpa [ofDigits] using hd))]
      simp [ofDigits]
    · have hhead' : ds.head? ≠ some 0 := by
        rcases hhead with hlength | hhead
        · have hpos := List.length_pos_iff.2 hnil
          rw [List.length_append, List.length_singleton] at hlength
          omega
        · rwa [List.head?_append_of_ne_nil _ hnil] at hhead
      have hrest := ih (fun e he => hds e (List.mem_append_left [d] he)) hnil (.inr hhead')
      -- The number in front is not zero, or zero would be its only digit.
      have hpos : 0 < ofDigits base ds := by
        apply Nat.pos_of_ne_zero
        intro hzero
        rw [hzero, digits, dif_pos (.inr (by omega))] at hrest
        rw [← hrest] at hhead'
        exact hhead' rfl
      have hle : base ≤ base * ofDigits base ds := Nat.le_mul_of_pos_right base hpos
      have hdiv : (base * ofDigits base ds + d) / base = ofDigits base ds := by
        rw [Nat.mul_add_div (by omega), Nat.div_eq_of_lt hd, Nat.add_zero]
      have hmod : (base * ofDigits base ds + d) % base = d := by
        rw [Nat.mul_add_mod, Nat.mod_eq_of_lt hd]
      rw [digits, dif_neg (by omega)]
      show digits base (_ / base) ++ [_ % base] = _
      rw [hdiv, hmod, hrest]

end ClusterHealth.Text
