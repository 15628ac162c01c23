import ClusterHealth.Text.Blank
import ClusterHealth.Text.Positional
import ClusterHealth.Text.Split
import Mathlib.Data.List.TakeWhile

/-!
# `ClusterHealth.Proofs.Text` — cutting and joining, digits, and blanks at the ends

The laws of texts as lists of characters that reading back what was written comes down to.

## Contents
- `splitOn_append`, `splitOn_joinWith`, `cutAt_append`: pieces that hold no separator come back.
- `digits_lt`, `length_digits_le`, `digits_ne_nil`: the digits of a number.
- `ascii_forall`: characters of ASCII, one by one.
- `trim_trim`, `getLast?_trim`: a trimmed text has no blanks at its ends.
- `trim_append`, `exists_trim`: a text is what is left of it between blanks.
-/

namespace ClusterHealth.Text

/-! ## Cutting and joining -/

section Split

variable {sep c : Char} {xs ys : List Char} {p : List Char} {ps qs : List (List Char)}

theorem splitOn_append (xs ys : List Char) :
    splitOn sep (xs ++ sep :: ys) = splitOn sep xs ++ splitOn sep ys := by
  induction xs with
  | nil => simp [splitOn]
  | cons x xs ih =>
    rw [List.cons_append]
    simp only [splitOn, ih]
    by_cases hx : x = sep
    · rw [if_pos hx, if_pos hx, List.cons_append]
    · rw [if_neg hx, if_neg hx]
      cases hs : splitOn sep xs with
      | nil => exact absurd hs (splitOn_ne_nil sep xs)
      | cons p ps => rfl

/-- A text without a separator is one piece. -/
theorem splitOn_of_not_mem (h : sep ∉ xs) : splitOn sep xs = [xs] := by
  induction xs with
  | nil => rfl
  | cons x xs ih =>
    have hx : x ≠ sep := fun hx => h (hx ▸ List.mem_cons_self)
    simp only [splitOn, if_neg hx, ih (fun hm => h (List.mem_cons_of_mem x hm))]

/-- Cutting gives back the pieces that were joined. -/
theorem splitOn_joinWith (hne : ps ≠ []) (h : ∀ p ∈ ps, sep ∉ p) : splitOn sep (joinWith sep ps) = ps := by
  induction ps with
  | nil => exact absurd rfl hne
  | cons p ps ih =>
    have hp : splitOn sep p = [p] := splitOn_of_not_mem (h p List.mem_cons_self)
    cases ps with
    | nil => exact hp
    | cons q qs =>
      show splitOn sep (p ++ sep :: joinWith sep (q :: qs)) = _
      rw [splitOn_append, hp, ih (by simp) (fun r hr => h r (List.mem_cons_of_mem p hr))]
      rfl

theorem joinWith_append (hps : ps ≠ []) (hqs : qs ≠ []) :
    joinWith sep (ps ++ qs) = joinWith sep ps ++ sep :: joinWith sep qs := by
  induction ps with
  | nil => exact absurd rfl hps
  | cons p ps ih =>
    cases ps with
    | nil =>
      cases qs with
      | nil => exact absurd rfl hqs
      | cons q qs => rfl
    | cons p' ps =>
      show p ++ sep :: joinWith sep (p' :: ps ++ qs) = _
      rw [ih (by simp), ← List.cons_append, ← List.append_assoc]
      rfl

/-- An empty piece between others leaves two separators. -/
theorem joinWith_append_nil_cons (hps : ps ≠ []) (hqs : qs ≠ []) :
    joinWith sep (ps ++ [] :: qs) = joinWith sep ps ++ sep :: sep :: joinWith sep qs := by
  rw [joinWith_append hps (by simp)]
  cases qs with
  | nil => exact absurd rfl hqs
  | cons q qs => rfl

theorem mem_joinWith (h : c ∈ joinWith sep ps) : c = sep ∨ ∃ p ∈ ps, c ∈ p := by
  induction ps with
  | nil => exact absurd h List.not_mem_nil
  | cons p ps ih =>
    cases ps with
    | nil => exact .inr ⟨p, List.mem_cons_self, h⟩
    | cons q qs =>
      rcases List.mem_append.1 (h : c ∈ p ++ sep :: joinWith sep (q :: qs)) with h | h
      · exact .inr ⟨p, List.mem_cons_self, h⟩
      · rcases List.mem_cons.1 h with h | h
        · exact .inl h
        · rcases ih h with h | ⟨r, hr, hc⟩
          · exact .inl h
          · exact .inr ⟨r, List.mem_cons_of_mem p hr, hc⟩

theorem sep_mem_joinWith (h : 2 ≤ ps.length) : sep ∈ joinWith sep ps := by
  match ps, h with
  | p :: q :: qs, _ =>
    show sep ∈ p ++ sep :: joinWith sep (q :: qs)
    exact List.mem_append_right p List.mem_cons_self

theorem cutAt_append (h : sep ∉ xs) : cutAt sep (xs ++ sep :: ys) = (xs, some ys) := by
  induction xs with
  | nil => simp [cutAt]
  | cons x xs ih =>
    have hx : x ≠ sep := fun hx => h (hx ▸ List.mem_cons_self)
    rw [List.cons_append]
    simp only [cutAt, if_neg hx, ih (fun hm => h (List.mem_cons_of_mem x hm))]

theorem cutAt_of_not_mem (h : sep ∉ xs) : cutAt sep xs = (xs, none) := by
  induction xs with
  | nil => rfl
  | cons x xs ih =>
    have hx : x ≠ sep := fun hx => h (hx ▸ List.mem_cons_self)
    simp only [cutAt, if_neg hx, ih (fun hm => h (List.mem_cons_of_mem x hm))]

/-- What was cut off stood behind the separator. -/
theorem eq_of_cutAt (h : cutAt sep xs = (p, some ys)) : xs = p ++ sep :: ys := by
  induction xs generalizing p with
  | nil => exact nomatch (congrArg Prod.snd h)
  | cons x xs ih =>
    simp only [cutAt] at h
    split at h
    · next hx =>
      obtain ⟨rfl, hys⟩ := Prod.mk.inj h
      rw [hx, Option.some.inj hys]
      rfl
    · obtain ⟨rfl, hys⟩ := Prod.mk.inj h
      rw [List.cons_append, ← ih (Prod.ext rfl hys)]

theorem eq_of_cutAt_none (h : cutAt sep xs = (p, none)) : xs = p := by
  induction xs generalizing p with
  | nil => exact congrArg Prod.fst h
  | cons x xs ih =>
    simp only [cutAt] at h
    split at h
    · exact nomatch congrArg Prod.snd h
    · obtain ⟨rfl, hnone⟩ := Prod.mk.inj h
      exact congrArg (x :: ·) (ih (Prod.ext rfl hnone))

end Split

/-! ## Digits -/

section Digits

variable {base n k : Nat}

theorem digits_ne_nil (base n : Nat) : digits base n ≠ [] := by
  rw [digits]
  split <;> simp

theorem digits_lt (hbase : 2 ≤ base) : ∀ d ∈ digits base n, d < base := by
  induction n using Nat.strongRecOn with
  | ind n ih =>
    intro d hd
    rw [digits] at hd
    split at hd
    · next h =>
      rw [List.mem_singleton.1 hd]
      omega
    · next h =>
      rcases List.mem_append.1 hd with hd | hd
      · exact ih (n / base) (Nat.div_lt_self (by omega) (by omega)) d hd
      · rw [List.mem_singleton.1 hd]
        exact Nat.mod_lt n (by omega)

/-- A number below a power of the base has no more digits than that. -/
theorem length_digits_le (hk : k ≠ 0) (h : n < Nat.pow base k) : (digits base n).length ≤ k := by
  induction k generalizing n with
  | zero => exact absurd rfl hk
  | succ k ih =>
    rw [digits]
    split
    · exact Nat.succ_le_succ (Nat.zero_le k)
    · next hn =>
      have hk' : k ≠ 0 := by
        intro hk
        rw [hk] at h
        have h : n < 1 * base := h
        omega
      have hdiv : n / base < Nat.pow base k := by
        rw [Nat.div_lt_iff_lt_mul (by omega)]
        exact h
      rw [List.length_append]
      exact Nat.succ_le_succ (ih hk' hdiv)

end Digits

/-! ## ASCII -/

/-- What holds of the characters of ASCII one by one holds of every character below 128. -/
theorem ascii_forall {P : Char → Prop} (h : ∀ n < 128, P (Char.ofNat n)) {c : Char} (hc : c.toNat < 128) :
    P c := by
  have hchar := h c.toNat hc
  rw [Char.ofNat_toNat] at hchar
  exact hchar

/-! ## Ends -/

section Trim

variable {p : Char → Bool} {c : Char} {cs lead core tail : List Char}

theorem head?_dropWhile (h : c ∈ (cs.dropWhile p).head?) : p c = false := by
  induction cs with
  | nil => exact nomatch h
  | cons x xs ih =>
    by_cases hx : p x = true
    · rw [List.dropWhile_cons_of_pos hx] at h
      exact ih h
    · rw [List.dropWhile_cons_of_neg hx] at h
      obtain rfl : x = c := Option.some.inj h
      simpa using hx

theorem getLast?_trim (h : c ∈ (trim p cs).getLast?) : p c = false := by
  unfold trim at h
  rw [List.getLast?_reverse] at h
  exact head?_dropWhile h

theorem trim_prefix_dropWhile : trim p cs <+: cs.dropWhile p := by
  have hsuffix := List.dropWhile_suffix (l := (cs.dropWhile p).reverse) p
  rw [← List.reverse_prefix, List.reverse_reverse] at hsuffix
  exact hsuffix

theorem head?_trim (h : c ∈ (trim p cs).head?) : p c = false := by
  obtain ⟨rest, hrest⟩ := trim_prefix_dropWhile (p := p)
  apply head?_dropWhile
  rw [← hrest, List.head?_append, Option.mem_def.1 h]
  rfl

/-- Trimming again changes nothing. -/
theorem trim_trim : trim p (trim p cs) = trim p cs :=
  trim_eq_self (fun _ => head?_trim) (fun _ => getLast?_trim)

/-- What is left between blanks is what neither starts nor ends in one. -/
theorem trim_append (hlead : ∀ c ∈ lead, p c = true) (htail : ∀ c ∈ tail, p c = true)
    (hcore : ∀ c ∈ core, p c = false) : trim p (lead ++ core ++ tail) = core := by
  have hright : core.reverse.dropWhile p = core.reverse := by
    cases h : core.reverse with
    | nil => rfl
    | cons c cs =>
      have hc : c ∈ core := List.mem_reverse.1 (h ▸ List.mem_cons_self)
      exact List.dropWhile_cons_of_neg (Bool.eq_false_iff.1 (hcore c hc))
  unfold trim
  rw [List.append_assoc, List.dropWhile_append_of_pos hlead]
  cases core with
  | nil =>
    have hnone : tail.dropWhile p = [] := List.dropWhile_eq_nil_iff.2 htail
    rw [List.nil_append, hnone]
    rfl
  | cons c cs =>
    rw [List.cons_append, List.dropWhile_cons_of_neg (Bool.eq_false_iff.1 (hcore c List.mem_cons_self)),
      ← List.cons_append, List.reverse_append,
      List.dropWhile_append_of_pos fun d hd => htail d (List.mem_reverse.1 hd), hright, List.reverse_reverse]

/-- A text is what is left of it between what was trimmed. -/
theorem exists_trim (p : Char → Bool) (cs : List Char) : ∃ lead tail, cs = lead ++ trim p cs ++ tail
    ∧ (∀ c ∈ lead, p c = true) ∧ ∀ c ∈ tail, p c = true := by
  refine ⟨cs.takeWhile p, ((cs.dropWhile p).reverse.takeWhile p).reverse, ?_, fun c hc => ?_, fun c hc => ?_⟩
  · unfold trim
    rw [List.append_assoc, ← List.reverse_append, List.takeWhile_append_dropWhile, List.reverse_reverse,
      List.takeWhile_append_dropWhile]
  · exact List.mem_takeWhile_imp hc
  · exact List.mem_takeWhile_imp (List.mem_reverse.1 hc)

end Trim

end ClusterHealth.Text
