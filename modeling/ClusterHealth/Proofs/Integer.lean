import ClusterHealth.Number.Reading
import ClusterHealth.Proofs.Text
import Mathlib.Data.List.TakeWhile

/-!
# `ClusterHealth.Proofs.Integer` — integers read back

An integer is written in decimal without zeros in front, and reading it gives it back, unless it has more
digits than are read.

## Contents
- `head?_digits_ne_zero`, `digitsValue_decimalChars`: the digits of a number.
- `readInteger_decimal`: what is read from a number that was written.
-/

namespace ClusterHealth.Number

open ClusterHealth.Text

variable {n : Nat} {c : Char}

/-! ## Digits -/

/-- A number has no zero in front, unless it is zero. -/
theorem head?_digits_ne_zero {base : Nat} (hn : n ≠ 0) : (digits base n).head? ≠ some 0 := by
  -- The first digit of a number is that of its quotient by the base, or the number itself.
  induction n using Nat.strongRecOn with
  | ind n ih =>
    rw [digits]
    split
    · exact fun h => hn (Option.some.inj h)
    · next h =>
      have hdiv : n / base ≠ 0 := by
        intro hzero
        rcases (Nat.div_eq_zero_iff).1 hzero with h' | h' <;> omega
      have hrest := ih (n / base) (Nat.div_lt_self (by omega) (by omega)) hdiv
      cases hds : digits base (n / base) with
      | nil => exact absurd hds (digits_ne_nil base (n / base))
      | cons d ds =>
        rw [hds] at hrest
        exact hrest

/-- What is known of the characters of a decimal number. -/
structure IsDigitChar (c : Char) : Prop where
  digit : isAsciiDigit c = true
  notPoint : c ≠ '.'
  notUnderscore : c ≠ '_'
  notPlus : c ≠ '+'
  notMinus : c ≠ '-'
  notWhite : isWhite c = false

theorem isDigitChar_digitChar {d : Nat} (hd : d < 10) : IsDigitChar (digitChar d) := by
  have hall : ∀ d < 10, isAsciiDigit (digitChar d) = true ∧ digitChar d ≠ '.' ∧ digitChar d ≠ '_'
      ∧ digitChar d ≠ '+' ∧ digitChar d ≠ '-' ∧ isWhite (digitChar d) = false := by decide
  obtain ⟨h1, h2, h3, h4, h5, h6⟩ := hall d hd
  exact ⟨h1, h2, h3, h4, h5, h6⟩

theorem digitChar_sub {d : Nat} (hd : d < 10) : (digitChar d).toNat - '0'.toNat = d := by
  have hall : ∀ d < 10, (digitChar d).toNat - '0'.toNat = d := by decide
  exact hall d hd

theorem isDigitChar_of_mem (h : c ∈ decimalChars n) : IsDigitChar c := by
  obtain ⟨d, hd, rfl⟩ := List.mem_map.1 h
  exact isDigitChar_digitChar (digits_lt (by decide) d hd)

theorem decimalChars_ne_nil (n : Nat) : decimalChars n ≠ [] :=
  fun h => digits_ne_nil 10 n (List.map_eq_nil_iff.1 h)

theorem all_decimalChars (n : Nat) : (decimalChars n).all isAsciiDigit = true :=
  List.all_eq_true.2 fun _ hc => (isDigitChar_of_mem hc).digit

/-- Digits that were written spell the number. -/
theorem digitsValue_decimalChars (n : Nat) : digitsValue (decimalChars n) = n := by
  have hmap : (decimalChars n).map (fun c => c.toNat - '0'.toNat) = digits 10 n := by
    unfold decimalChars
    rw [List.map_map]
    conv => rhs; rw [← List.map_id (digits 10 n)]
    apply List.map_congr_left
    intro d hd
    exact digitChar_sub (digits_lt (by decide) d hd)
  unfold digitsValue
  rw [hmap, ofDigits_digits]

theorem decimalChars_zero : decimalChars 0 = ['0'] := by
  unfold decimalChars
  rw [digits, dif_pos (.inr (by decide))]
  rfl

/-- A positive number opens with a digit other than zero. -/
theorem decimalChars_eq_cons (hn : n ≠ 0) : ∃ c cs, decimalChars n = c :: cs ∧ c ≠ '0' := by
  have hhead : (digits 10 n).head? ≠ some 0 := head?_digits_ne_zero hn
  have hlt : ∀ d ∈ digits 10 n, d < 10 := digits_lt (by decide)
  unfold decimalChars
  cases hds : digits 10 n with
  | nil => exact absurd hds (digits_ne_nil 10 n)
  | cons d ds =>
    rw [hds] at hhead hlt
    refine ⟨digitChar d, ds.map digitChar, rfl, ?_⟩
    intro hzero
    have hall : ∀ d < 10, digitChar d = '0' → d = 0 := by decide
    exact hhead (congrArg some (hall d (hlt d List.mem_cons_self) hzero))

/-! ## Reading -/

variable {cs : List Char}

theorem afterMinus_of_digits (h : ∀ c ∈ cs, IsDigitChar c) : afterMinus cs = cs := by
  cases cs with
  | nil => rfl
  | cons c cs =>
    unfold afterMinus
    split
    · next heq => exact absurd (List.cons.inj heq).1 (h c List.mem_cons_self).notMinus
    · rfl

theorem takeSign_of_digits (h : ∀ c ∈ cs, IsDigitChar c) : takeSign cs = (false, cs) := by
  cases cs with
  | nil => rfl
  | cons c cs =>
    unfold takeSign
    split
    · next heq => exact absurd (List.cons.inj heq).1 (h c List.mem_cons_self).notPlus
    · next heq => exact absurd (List.cons.inj heq).1 (h c List.mem_cons_self).notMinus
    · rfl

theorem withoutFraction_of_digits (h : ∀ c ∈ cs, IsDigitChar c) : withoutFraction cs = cs := by
  unfold withoutFraction
  rw [cutAt_of_not_mem fun hm => (h _ hm).notPoint rfl]

theorem dropUnderscores?_of_digits (h : ∀ c ∈ cs, IsDigitChar c) : dropUnderscores? cs = some cs := by
  induction cs with
  | nil => rfl
  | cons c cs ih =>
    have hc : c ≠ '_' := (h c List.mem_cons_self).notUnderscore
    have hcs : ∀ d ∈ cs, IsDigitChar d := fun d hd => h d (List.mem_cons_of_mem c hd)
    have hhead : ∀ d ds, cs = d :: ds → d ≠ '_' := by
      intro d ds heq
      exact (hcs d (heq ▸ List.mem_cons_self)).notUnderscore
    have hrest := ih hcs
    cases cs with
    | nil => simp [dropUnderscores?]
    | cons d ds =>
      have hd : d ≠ '_' := hhead d ds rfl
      rw [dropUnderscores?]
      · rw [hrest]
        rfl
      all_goals simp_all

theorem trim_of_digits (h : ∀ c ∈ cs, IsDigitChar c) : trim isWhite cs = cs :=
  trim_eq_self (fun c hc => (h c (List.mem_of_mem_head? hc)).notWhite)
    (fun c hc => (h c (List.mem_of_mem_getLast? hc)).notWhite)

theorem withoutZeros?_decimalChars (n : Nat) : withoutZeros? (decimalChars n) = some (decimalChars n) := by
  by_cases hn : n = 0
  · rw [hn, decimalChars_zero]
    rfl
  · obtain ⟨c, cs, hcs, hzero⟩ := decimalChars_eq_cons hn
    have hdigit : isAsciiDigit c = true :=
      (isDigitChar_of_mem (n := n) (hcs ▸ List.mem_cons_self)).digit
    rw [hcs]
    show (if c = '0' then afterZeros? c cs else if isAsciiDigit c then some (c :: cs) else none) = _
    rw [if_neg hzero, if_pos hdigit]

theorem normalized?_decimalChars (n : Nat) : normalized? (decimalChars n) = some (decimalChars n) := by
  have hdigits : ∀ c ∈ decimalChars n, IsDigitChar c := fun _ hc => isDigitChar_of_mem hc
  unfold normalized?
  rw [takeSign_of_digits hdigits]
  simp only [withoutZeros?_decimalChars, Option.bind_eq_bind, Option.bind_some]
  rw [withoutFraction_of_digits hdigits, dropUnderscores?_of_digits hdigits]
  rfl

/-- What opens with a number that was written is too long if the number has too many digits. -/
theorem opensTooLong_decimalChars (n : Nat) :
    opensTooLong (decimalChars n) = decide (maxIntegerLength < (decimalChars n).length) := by
  have htake : (decimalChars n).takeWhile isAsciiDigit = decimalChars n :=
    List.takeWhile_eq_self_iff.2 fun c hc => (isDigitChar_of_mem hc).digit
  unfold opensTooLong
  rw [afterMinus_of_digits fun _ hc => isDigitChar_of_mem hc, htake]
  by_cases hn : n = 0
  · rw [hn, decimalChars_zero]
    rfl
  · obtain ⟨c, cs, hcs, hzero⟩ := decimalChars_eq_cons hn
    rw [hcs]
    simp [hzero]

theorem normalInteger?_decimalChars (h : ¬ maxIntegerLength < (decimalChars n).length) :
    normalInteger? (decimalChars n) = some (n : Int) := by
  have hhead : ((decimalChars n).head? == some '0' && decimalChars n != ['0']) = false := by
    by_cases hn : n = 0
    · rw [hn, decimalChars_zero]
      rfl
    · obtain ⟨c, cs, hcs, hzero⟩ := decimalChars_eq_cons hn
      rw [hcs]
      simp [hzero]
  unfold normalInteger?
  rw [afterMinus_of_digits fun _ hc => isDigitChar_of_mem hc]
  simp only [all_decimalChars, hhead, List.isEmpty_eq_false_iff.2 (decimalChars_ne_nil n), h]
  simp [digitsValue_decimalChars]

/-- **A number that was written is read back**, unless it is too long to be read. -/
theorem readInteger_decimal (n : Nat) : readInteger (decimal n) =
    if maxIntegerLength < (decimalChars n).length then .error .tooLong else .ok (n : Int) := by
  have hlist : (decimal n).toList = decimalChars n := String.toList_ofList
  unfold readInteger
  rw [hlist, opensTooLong_decimalChars, trim_of_digits fun _ hc => isDigitChar_of_mem hc,
    normalized?_decimalChars]
  by_cases h : maxIntegerLength < (decimalChars n).length
  · rw [if_pos (decide_eq_true h), if_pos h]
  · rw [if_neg (by simp [h]), if_neg h, Option.bind_some, normalInteger?_decimalChars h]

end ClusterHealth.Number
