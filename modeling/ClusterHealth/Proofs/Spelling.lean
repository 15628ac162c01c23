import ClusterHealth.Network.Address
import ClusterHealth.Proofs.Digits
import Mathlib.Data.List.Forall2

/-!
# `ClusterHealth.Proofs.Spelling` — the spellings of an address

Which texts denote an address is said here as a grammar, without a word on how they are read. An address of
version 4 has one spelling, four decimal octets. One of version 6 has many: digits of either case, zeros in
front of a group, a gap `::` for any run of zero groups, and the last two groups in the notation of version
4. `Address.parse?` reads exactly these.

## Contents
- `SpellsGroup`, `SpellsTail`, `SpellsV6`, `Spells`: the grammar.
- `V4.parse?_eq_some`, `V6.parse?_eq_some`, `Address.parse?_eq_some`: reading is what the grammar says.
-/

namespace ClusterHealth.Network

open Text

/-! ## The grammar -/

/-- A hexadecimal digit, as a small letter or a capital one. -/
def SpellsDigit (c : Char) (d : Nat) : Prop :=
  d < 16 ∧ (c = digitChar d ∨ c = (digitChar d).toUpper)

/-- A group is one to four hexadecimal digits. -/
def SpellsGroup (p : List Char) (g : Nat) : Prop :=
  ∃ ds, List.Forall₂ SpellsDigit p ds ∧ 1 ≤ p.length ∧ p.length ≤ 4 ∧ ofDigits 16 ds = g

/-- Groups, of which the last two may be written as an address of version 4. -/
inductive SpellsTail : List (List Char) → List Nat → Prop
  | groups {parts gs} (h : List.Forall₂ SpellsGroup parts gs) : SpellsTail parts gs
  | dotted {parts gs} (h : List.Forall₂ SpellsGroup parts gs) (a : V4) :
      SpellsTail (parts ++ [a.chars]) (gs ++ [a.toNat / 65536, a.toNat % 65536])

/-- Eight groups with colons between them, or fewer around a gap, which stands for the zero groups that are
missing. -/
inductive SpellsV6 : List Char → List Nat → Prop
  | full {parts gs} (h : SpellsTail parts gs) (hlength : gs.length = 8) : SpellsV6 (joinWith ':' parts) gs
  | gap {before after high low} (hhigh : List.Forall₂ SpellsGroup before high) (hlow : SpellsTail after low)
      (hlength : high.length + low.length ≤ 7) :
      SpellsV6 (joinWith ':' before ++ ':' :: ':' :: joinWith ':' after)
        (high ++ List.replicate (8 - (high.length + low.length)) 0 ++ low)

/-- An address; a scope follows a percent sign, is not empty, and holds no percent sign and no slash. -/
inductive Spells : List Char → Address → Prop
  | v4 (a : V4) : Spells a.chars (.v4 a)
  | v6 {cs} {a : V6} (h : SpellsV6 cs a.groups) : Spells cs (.v6 a none)
  | inScope {cs} {a : V6} {scope : String} (h : SpellsV6 cs a.groups) (hscope : isScope scope.toList = true)
      (hslash : '/' ∉ scope.toList) : Spells (cs ++ '%' :: scope.toList) (.v6 a (some scope))

variable {c : Char} {cs p : List Char} {parts parts' before after : List (List Char)} {g : Nat} {gs : List Nat}

/-! ## Digits -/

/-- A list is read just if its members are, one by one. -/
theorem mapM_eq_some_iff {α β : Type} {f : α → Option β} {xs : List α} {ys : List β} :
    xs.mapM f = some ys ↔ List.Forall₂ (fun x y => f x = some y) xs ys := by
  induction xs generalizing ys with
  | nil =>
    rw [List.mapM_nil, List.forall₂_nil_left_iff]
    exact ⟨fun h => (Option.some.inj h).symm, fun h => congrArg some h.symm⟩
  | cons x xs ih =>
    rw [List.mapM_cons, List.forall₂_cons_left_iff]
    constructor
    · intro h
      obtain ⟨y, hy, hrest⟩ := Option.bind_eq_some_iff.1 h
      obtain ⟨ys', hys, hcons⟩ := Option.bind_eq_some_iff.1 hrest
      exact ⟨y, ys', hy, ih.1 hys, (Option.some.inj hcons).symm⟩
    · rintro ⟨y, ys', hy, hys, rfl⟩
      rw [hy, ih.2 hys]
      rfl

/-- The digits are none of the characters that stand for anything else in an address. -/
theorem SpellsDigit.plain {d : Nat} (h : SpellsDigit c d) :
    c ≠ '.' ∧ c ≠ ':' ∧ c ≠ '/' ∧ c ≠ '%' ∧ isBlank c = false := by
  obtain ⟨hd, rfl | rfl⟩ := h
  · have hall : ∀ d < 16, digitChar d ≠ '.' ∧ digitChar d ≠ ':' ∧ digitChar d ≠ '/' ∧ digitChar d ≠ '%'
        ∧ isBlank (digitChar d) = false := by decide
    exact hall d hd
  · have hall : ∀ d < 16, (digitChar d).toUpper ≠ '.' ∧ (digitChar d).toUpper ≠ ':'
        ∧ (digitChar d).toUpper ≠ '/' ∧ (digitChar d).toUpper ≠ '%'
        ∧ isBlank (digitChar d).toUpper = false := by decide
    exact hall d hd

theorem spellsDigit_digitChar {d : Nat} (h : d < 16) : SpellsDigit (digitChar d) d :=
  ⟨h, .inl rfl⟩

theorem hexValue?_eq_some {d : Nat} : hexValue? c = some d ↔ SpellsDigit c d := by
  constructor
  · intro h
    have hascii : c.toNat < 128 := by
      unfold hexValue? at h
      have hle : c ≤ '9' ∨ c ≤ 'f' ∨ c ≤ 'F' := by
        split at h
        · next hc => exact .inl hc.2
        · split at h
          · next hc => exact .inr (.inl hc.2)
          · split at h
            · next hc => exact .inr (.inr hc.2)
            · exact nomatch h
      rcases hle with hle | hle | hle <;> exact Nat.lt_of_le_of_lt hle (by decide)
    have hall : ∀ n < 128, ∀ d ∈ hexValue? (Char.ofNat n),
        d < 16 ∧ (Char.ofNat n = digitChar d ∨ Char.ofNat n = (digitChar d).toUpper) := by decide
    exact ascii_forall (P := fun c => ∀ d ∈ hexValue? c, SpellsDigit c d) hall hascii d h
  · rintro ⟨hd, hc⟩
    have hall : ∀ d < 16,
        hexValue? (digitChar d) = some d ∧ hexValue? (digitChar d).toUpper = some d := by decide
    rcases hc with rfl | rfl
    · exact (hall d hd).1
    · exact (hall d hd).2

theorem digitChar_value (h : c.isDigit = true) :
    c.toNat - '0'.toNat < 10 ∧ digitChar (c.toNat - '0'.toNat) = c := by
  have hascii : c.toNat < 128 := by
    have hle : c.val ≤ '9'.val := by
      simp only [Char.isDigit, Bool.and_eq_true, decide_eq_true_eq] at h
      exact h.2
    exact Nat.lt_of_le_of_lt hle (by decide)
  have hall : ∀ n < 128, (Char.ofNat n).isDigit = true →
      (Char.ofNat n).toNat - '0'.toNat < 10
        ∧ digitChar ((Char.ofNat n).toNat - '0'.toNat) = Char.ofNat n := by decide
  exact ascii_forall (P := fun c => c.isDigit = true →
    c.toNat - '0'.toNat < 10 ∧ digitChar (c.toNat - '0'.toNat) = c) hall hascii h

theorem hexChars_ne_nil (n : Nat) : hexChars n ≠ [] :=
  fun h => digits_ne_nil 16 n (List.map_eq_nil_iff.1 h)

theorem mem_decimalChars {n : Nat} (h : c ∈ decimalChars n) : ∃ d, SpellsDigit c d := by
  obtain ⟨d, hd, rfl⟩ := List.mem_map.1 h
  exact ⟨d, spellsDigit_digitChar (Nat.lt_trans (digits_lt (by decide) d hd) (by decide))⟩

/-! ## Version 4 -/

/-- An octet is written in one way. -/
theorem readOctet?_eq_some {o : Nat} : readOctet? p = some o ↔ o < 256 ∧ p = decimalChars o := by
  constructor
  · intro h
    unfold readOctet? at h
    simp only [Option.ite_none_right_eq_some, Option.some.injEq, Bool.and_eq_true, Bool.or_eq_true,
      decide_eq_true_eq, beq_iff_eq, bne_iff_ne, Bool.not_eq_true', List.isEmpty_eq_false_iff,
      List.all_eq_true] at h
    obtain ⟨⟨⟨⟨⟨hdigits, hne⟩, -⟩, hhead⟩, hlt⟩, rfl⟩ := h
    have hvalues : (p.map fun c => c.toNat - '0'.toNat).map digitChar = p := by
      rw [List.map_map]
      exact (List.map_congr_left fun c hc => (digitChar_value (hdigits c hc)).2).trans (List.map_id p)
    refine ⟨hlt, ?_⟩
    unfold decimalChars
    rw [digits_ofDigits (by decide), hvalues]
    · intro d hd
      obtain ⟨c, hc, rfl⟩ := List.mem_map.1 hd
      exact (digitChar_value (hdigits c hc)).1
    · exact fun hnil => hne (List.map_eq_nil_iff.1 hnil)
    · rcases hhead with rfl | hhead
      · exact .inl rfl
      · refine .inr fun hzero => hhead ?_
        rw [List.head?_map] at hzero
        obtain ⟨c, hc, hvalue⟩ := Option.map_eq_some_iff.1 hzero
        rw [hc, ← (digitChar_value (hdigits c (List.mem_of_mem_head? hc))).2, hvalue]
        rfl
  · rintro ⟨hlt, rfl⟩
    have hall : ∀ o < 256, readOctet? (decimalChars o) = some o := by decide +kernel
    exact hall o hlt

theorem V4.ofOctets?_eq_some {os : List Nat} {a : V4} : V4.ofOctets? os = some a ↔ os = a.octets := by
  unfold V4.ofOctets?
  constructor
  · intro h
    obtain ⟨hos, h⟩ := Option.dite_none_right_eq_some.1 h
    rw [← Option.some.inj h]
  · rintro rfl
    rw [dif_pos ⟨a.length_eq, a.octet_lt⟩]

theorem V4.mem_chars {a : V4} (h : c ∈ a.chars) : c = '.' ∨ ∃ d, SpellsDigit c d := by
  rcases mem_joinWith h with rfl | ⟨p, hp, hc⟩
  · exact .inl rfl
  · obtain ⟨o, -, rfl⟩ := List.mem_map.1 hp
    exact .inr (mem_decimalChars hc)

theorem V4.point_mem_chars (a : V4) : '.' ∈ a.chars := by
  apply sep_mem_joinWith
  rw [List.length_map, a.length_eq]
  decide

theorem V4.splitOn_chars (a : V4) : splitOn '.' a.chars = a.octets.map decimalChars := by
  apply splitOn_joinWith
  · intro h
    have hlength := a.length_eq
    rw [List.map_eq_nil_iff.1 h] at hlength
    exact absurd hlength (by decide)
  · intro p hp hc
    obtain ⟨o, -, rfl⟩ := List.mem_map.1 hp
    obtain ⟨d, hd⟩ := mem_decimalChars hc
    exact hd.plain.1 rfl

/-- An address of version 4 has one spelling. -/
theorem V4.parse?_eq_some {a : V4} : V4.parse? cs = some a ↔ cs = a.chars := by
  constructor
  · intro h
    obtain ⟨os, hread, haddress⟩ := Option.bind_eq_some_iff.1 h
    have hpieces : List.Forall₂ (· = ·) (splitOn '.' cs) (a.octets.map decimalChars) := by
      rw [← V4.ofOctets?_eq_some.1 haddress, List.forall₂_map_right_iff]
      exact (mapM_eq_some_iff.1 hread).imp fun _ _ h => (readOctet?_eq_some.1 h).2
    rw [List.forall₂_eq_eq_eq] at hpieces
    unfold V4.chars
    rw [← hpieces, joinWith_splitOn]
  · rintro rfl
    have hread : (splitOn '.' a.chars).mapM readOctet? = some a.octets := by
      rw [a.splitOn_chars, mapM_eq_some_iff, List.forall₂_map_left_iff, List.forall₂_same]
      exact fun o ho => readOctet?_eq_some.2 ⟨a.octet_lt o ho, rfl⟩
    unfold V4.parse?
    rw [hread]
    exact V4.ofOctets?_eq_some.2 rfl

/-- A text with a colon is no address of version 4. -/
theorem V4.parse?_eq_none (h : ':' ∈ cs) : V4.parse? cs = none := by
  rw [Option.eq_none_iff_forall_ne_some]
  intro a ha
  rw [V4.parse?_eq_some.1 ha] at h
  rcases V4.mem_chars h with h | ⟨d, hd⟩
  · exact absurd h (by decide)
  · exact hd.plain.2.1 rfl

theorem V4.toNat_lt (a : V4) : a.toNat < 2 ^ 32 := by
  have hlt := ofDigits_lt (by decide) a.octet_lt
  rw [a.length_eq] at hlt
  exact hlt

/-! ## Groups -/

theorem readGroup?_eq_some : readGroup? p = some g ↔ SpellsGroup p g := by
  unfold readGroup? SpellsGroup
  constructor
  · intro h
    obtain ⟨ds, hread, h⟩ := Option.bind_eq_some_iff.1 h
    rw [Option.ite_none_left_eq_some] at h
    obtain ⟨hlength, hvalue⟩ := h
    have hdigits := (mapM_eq_some_iff.1 hread).imp fun _ _ h => hexValue?_eq_some.1 h
    simp only [Bool.or_eq_true, List.isEmpty_iff, decide_eq_true_eq, not_or, Nat.not_lt] at hlength
    refine ⟨ds, hdigits, ?_, ?_, Option.some.inj hvalue⟩
    · rw [hdigits.length_eq]
      exact List.length_pos_iff.2 hlength.1
    · rw [hdigits.length_eq]
      exact hlength.2
  · rintro ⟨ds, hdigits, hpos, hlength, rfl⟩
    have hread := mapM_eq_some_iff.2 (hdigits.imp fun _ _ h => hexValue?_eq_some.2 h)
    rw [hdigits.length_eq] at hpos hlength
    rw [hread]
    show (if _ then _ else _) = _
    rw [if_neg]
    simp only [Bool.or_eq_true, List.isEmpty_iff, decide_eq_true_eq, not_or, Nat.not_lt]
    exact ⟨List.length_pos_iff.1 hpos, hlength⟩

theorem readGroups_iff : parts.mapM readGroup? = some gs ↔ List.Forall₂ SpellsGroup parts gs := by
  rw [mapM_eq_some_iff]
  exact ⟨fun h => h.imp fun _ _ => readGroup?_eq_some.1, fun h => h.imp fun _ _ => readGroup?_eq_some.2⟩

theorem SpellsGroup.ne_nil (h : SpellsGroup p g) : p ≠ [] := by
  obtain ⟨ds, -, hpos, -⟩ := h
  exact List.length_pos_iff.1 hpos

theorem SpellsGroup.digit_of_mem (h : SpellsGroup p g) (hc : c ∈ p) : ∃ d, SpellsDigit c d := by
  obtain ⟨ds, hdigits, -⟩ := h
  obtain ⟨i, hi, rfl⟩ := List.getElem_of_mem hc
  exact ⟨_, hdigits.get hi (hdigits.length_eq ▸ hi)⟩

/-- The shortest spelling of a group in small letters. -/
theorem spellsGroup_hexChars (h : g < 65536) : SpellsGroup (hexChars g) g := by
  refine ⟨digits 16 g, ?_, ?_, ?_, ofDigits_digits 16 g⟩
  · unfold hexChars
    rw [List.forall₂_map_left_iff, List.forall₂_same]
    exact fun d hd => spellsDigit_digitChar (digits_lt (by decide) d hd)
  · unfold hexChars
    rw [List.length_map]
    exact List.length_pos_iff.2 (digits_ne_nil 16 g)
  · unfold hexChars
    rw [List.length_map]
    exact length_digits_le (by decide) h

/-- Each of some groups that are spelled is spelled by a part. -/
theorem exists_spellsGroup (h : List.Forall₂ SpellsGroup parts gs) (hp : p ∈ parts) :
    ∃ g, SpellsGroup p g := by
  obtain ⟨i, hi, rfl⟩ := List.getElem_of_mem hp
  exact ⟨_, h.get hi (h.length_eq ▸ hi)⟩

/-! ## Tails in the notation of version 4 -/

/-- Parts and the parts that are read for them: a last part in the notation of version 4 gives two groups. -/
inductive Expands : List (List Char) → List (List Char) → Prop
  | same {parts : List (List Char)} (h : ∀ last ∈ parts.getLast?, '.' ∉ last) : Expands parts parts
  | dotted (front : List (List Char)) (a : V4) :
      Expands (front ++ [a.chars]) (front ++ [hexChars (a.toNat / 65536), hexChars (a.toNat % 65536)])

theorem expandTail?_eq_some : expandTail? parts = some parts' ↔ Expands parts parts' := by
  constructor
  · intro h
    unfold expandTail? at h
    split at h
    · next last hlast =>
      split at h
      · obtain ⟨a, ha, h⟩ := Option.bind_eq_some_iff.1 h
        have hparts : parts = parts.dropLast ++ [a.chars] := by
          rw [← V4.parse?_eq_some.1 ha, List.dropLast_append_getLast? last hlast]
        rw [← Option.some.inj h]
        generalize parts.dropLast = front at hparts
        subst hparts
        exact .dotted front a
      · next hpoint =>
        rw [← Option.some.inj h]
        apply Expands.same
        intro last' hlast'
        rw [← Option.some.inj (hlast.symm.trans hlast')]
        simpa using hpoint
    · next hnone =>
      rw [← Option.some.inj h]
      exact .same fun last hlast => nomatch hnone.symm.trans hlast
  · intro h
    cases h with
    | same h =>
      unfold expandTail?
      split
      · next last hlast =>
        rw [if_neg]
        simpa using h last hlast
      · rfl
    | dotted front a =>
      have hlast : (front ++ [a.chars]).getLast? = some a.chars := List.getLast?_concat
      unfold expandTail?
      simp only [hlast, V4.parse?_eq_some.2 rfl, List.dropLast_concat]
      rw [if_pos (by simpa using a.point_mem_chars)]
      rfl

/-- The two groups that an address of version 4 stands for. -/
theorem mapM_readGroup?_halves {a : V4} :
    [hexChars (a.toNat / 65536), hexChars (a.toNat % 65536)].mapM readGroup?
      = some [a.toNat / 65536, a.toNat % 65536] := by
  have hlt := a.toNat_lt
  rw [readGroups_iff]
  exact .cons (spellsGroup_hexChars (by omega)) (.cons (spellsGroup_hexChars (by omega)) .nil)

/-- A tail is spelled just if the parts that are read for it are groups. -/
theorem spellsTail_iff :
    SpellsTail parts gs ↔ ∃ parts', Expands parts parts' ∧ parts'.mapM readGroup? = some gs := by
  constructor
  · rintro (⟨h⟩ | ⟨h, a⟩)
    · refine ⟨parts, .same ?_, readGroups_iff.2 h⟩
      intro last hlast hpoint
      obtain ⟨g, hg⟩ := exists_spellsGroup h (List.mem_of_getLast? hlast)
      obtain ⟨d, hd⟩ := hg.digit_of_mem hpoint
      exact hd.plain.1 rfl
    · refine ⟨_, .dotted _ a, ?_⟩
      rw [List.mapM_append, readGroups_iff.2 h, mapM_readGroup?_halves]
      rfl
  · rintro ⟨parts', hexpands, hread⟩
    cases hexpands with
    | same => exact .groups (readGroups_iff.1 hread)
    | dotted front a =>
      rw [List.mapM_append, mapM_readGroup?_halves] at hread
      obtain ⟨gs', hfront, hread⟩ := Option.bind_eq_some_iff.1 hread
      rw [← Option.some.inj hread]
      exact .dotted (readGroups_iff.1 hfront) a

/-! ## Gaps -/

theorem forall_getLast?_gap : (∀ last ∈ (before ++ [] :: after).getLast?, '.' ∉ last)
    ↔ ∀ last ∈ after.getLast?, '.' ∉ last := by
  rw [List.getLast?_append_of_ne_nil _ (by simp), List.getLast?_cons]
  cases after.getLast? <;> simp

/-- A gap stays, and only what follows it can end in the notation of version 4. -/
theorem expands_gap_iff : Expands parts (before ++ [] :: after)
    ↔ ∃ after', parts = before ++ [] :: after' ∧ Expands after' after := by
  constructor
  · intro h
    generalize hparts : before ++ [] :: after = parts' at h
    cases h with
    | same h =>
      subst hparts
      exact ⟨after, rfl, .same (forall_getLast?_gap.1 h)⟩
    | dotted front a =>
      -- The two groups at the end are not empty, so the gap stands before them.
      rcases List.append_eq_append_iff.1 hparts with ⟨between, rfl, hend⟩ | ⟨between, -, hend⟩
      · cases between with
        | nil => exact absurd (List.cons.inj hend).1.symm (hexChars_ne_nil _)
        | cons q between =>
          obtain ⟨rfl, rfl⟩ := List.cons.inj hend
          exact ⟨between ++ [a.chars], by simp, .dotted between a⟩
      · have hmem : [] ∈ [hexChars (a.toNat / 65536), hexChars (a.toNat % 65536)] := by
          rw [hend]
          simp
        simp [hexChars_ne_nil] at hmem
  · rintro ⟨after', rfl, h⟩
    cases h with
    | same h => exact .same (forall_getLast?_gap.2 h)
    | dotted front a =>
      have hdotted := Expands.dotted (before ++ [] :: front) a
      simpa using hdotted

theorem eq_of_splitAtGap (h : splitAtGap parts = some (before, after)) :
    parts = before ++ [] :: after ∧ after ≠ [] := by
  induction parts generalizing before with
  | nil => exact nomatch h
  | cons p parts ih =>
    cases parts with
    | nil => exact nomatch h
    | cons q rest =>
      simp only [splitAtGap] at h
      split at h
      · next hp =>
        obtain ⟨rfl, rfl⟩ := Prod.mk.inj (Option.some.inj h)
        rw [hp]
        exact ⟨rfl, List.cons_ne_nil q rest⟩
      · obtain ⟨⟨front, back⟩, hrest, h⟩ := Option.map_eq_some_iff.1 h
        obtain ⟨rfl, rfl⟩ := Prod.mk.inj h
        obtain ⟨hparts, hne⟩ := ih hrest
        rw [hparts]
        exact ⟨rfl, hne⟩

theorem splitAtGap_append (h : ∀ p ∈ before, p ≠ []) (hafter : after ≠ []) :
    splitAtGap (before ++ [] :: after) = some (before, after) := by
  induction before with
  | nil =>
    cases after with
    | nil => exact absurd rfl hafter
    | cons q rest => rfl
  | cons p before ih =>
    have hp : p ≠ [] := h p List.mem_cons_self
    have hrest := ih fun q hq => h q (List.mem_cons_of_mem p hq)
    rw [List.cons_append]
    cases htail : before ++ [] :: after with
    | nil => exact absurd htail (by simp)
    | cons q rest =>
      rw [htail] at hrest
      simp only [splitAtGap, if_neg hp, hrest]
      rfl

theorem splitAtGap_eq_none (h : ∀ p ∈ parts, p ≠ []) : splitAtGap parts = none := by
  induction parts with
  | nil => rfl
  | cons p parts ih =>
    cases parts with
    | nil => rfl
    | cons q rest =>
      simp only [splitAtGap, if_neg (h p List.mem_cons_self), ih fun r hr => h r (List.mem_cons_of_mem p hr)]
      rfl

/-! ## The two sides of a gap -/

theorem Expands.eq_nil_iff (h : Expands parts parts') : parts' = [] ↔ parts = [] := by
  cases h <;> simp

theorem SpellsTail.mem_part (h : SpellsTail parts gs) (hp : p ∈ parts) (hc : c ∈ p) :
    c = '.' ∨ ∃ d, SpellsDigit c d := by
  cases h with
  | groups h =>
    obtain ⟨g, hg⟩ := exists_spellsGroup h hp
    exact .inr (hg.digit_of_mem hc)
  | dotted h a =>
    rcases List.mem_append.1 hp with hp | hp
    · obtain ⟨g, hg⟩ := exists_spellsGroup h hp
      exact .inr (hg.digit_of_mem hc)
    · rw [List.mem_singleton.1 hp] at hc
      exact V4.mem_chars hc

theorem SpellsTail.splitOn_joinWith (h : SpellsTail parts gs) (hne : parts ≠ []) :
    splitOn ':' (joinWith ':' parts) = parts := by
  apply Text.splitOn_joinWith hne
  intro p hp hc
  rcases h.mem_part hp hc with hpoint | ⟨d, hd⟩
  · exact absurd hpoint (by decide)
  · exact hd.plain.2.1 rfl

theorem readSide?_eq_some : readSide? parts = some gs
    ↔ (parts = [[]] ∧ gs = []) ∨ List.Forall₂ SpellsGroup parts gs := by
  unfold readSide?
  split
  · next hparts =>
    subst hparts
    constructor
    · exact fun h => .inl ⟨rfl, (Option.some.inj h).symm⟩
    · rintro (⟨-, rfl⟩ | h)
      · rfl
      · obtain ⟨g, hg⟩ := exists_spellsGroup h (List.mem_singleton_self [])
        exact absurd rfl hg.ne_nil
  · next hparts =>
    rw [readGroups_iff]
    exact ⟨.inr, fun h => h.resolve_left fun hnil => hparts hnil.1⟩

/-- What is read before a gap was spelled there. -/
theorem exists_spellsGroups (h : readSide? parts = some gs) :
    ∃ qs, joinWith ':' qs = joinWith ':' parts ∧ List.Forall₂ SpellsGroup qs gs := by
  rcases readSide?_eq_some.1 h with ⟨rfl, rfl⟩ | h
  · exact ⟨[], rfl, .nil⟩
  · exact ⟨parts, rfl, h⟩

/-- What is read after a gap was spelled there. -/
theorem exists_spellsTail (hexpands : Expands parts parts') (h : readSide? parts' = some gs) :
    ∃ qs, joinWith ':' qs = joinWith ':' parts ∧ SpellsTail qs gs := by
  rcases readSide?_eq_some.1 h with ⟨rfl, rfl⟩ | h
  · have hgap : Expands parts ([] ++ [] :: []) := hexpands
    obtain ⟨after, rfl, hafter⟩ := expands_gap_iff.1 hgap
    rw [hafter.eq_nil_iff.1 rfl]
    exact ⟨[], rfl, .groups .nil⟩
  · exact ⟨parts, rfl, spellsTail_iff.2 ⟨parts', hexpands, readGroups_iff.2 h⟩⟩

/-- What is spelled before a gap is read there, and of its parts only the first can be empty. -/
theorem readSide?_of_spellsGroups (h : List.Forall₂ SpellsGroup parts gs) :
    ∃ first rest, splitOn ':' (joinWith ':' parts) = first :: rest ∧ (∀ p ∈ rest, p ≠ [])
      ∧ readSide? (first :: rest) = some gs := by
  cases parts with
  | nil =>
    rw [List.forall₂_nil_left_iff.1 h]
    exact ⟨[], [], rfl, nofun, rfl⟩
  | cons p ps =>
    refine ⟨p, ps, (SpellsTail.groups h).splitOn_joinWith (by simp), ?_, readSide?_eq_some.2 (.inr h)⟩
    intro q hq
    obtain ⟨g, hg⟩ := exists_spellsGroup h (List.mem_cons_of_mem p hq)
    exact hg.ne_nil

/-- What is spelled after a gap is read there. -/
theorem readSide?_of_spellsTail (h : SpellsTail parts gs) :
    ∃ parts', parts' ≠ [] ∧ Expands (splitOn ':' (joinWith ':' parts)) parts'
      ∧ readSide? parts' = some gs := by
  by_cases hne : parts = []
  · subst hne
    obtain ⟨parts', hexpands, hread⟩ := spellsTail_iff.1 h
    rw [hexpands.eq_nil_iff.2 rfl] at hread
    rw [← Option.some.inj hread]
    have hempty : Expands [[]] [[]] := .same (by simp)
    exact ⟨[[]], by simp, hempty, rfl⟩
  · obtain ⟨parts', hexpands, hread⟩ := spellsTail_iff.1 h
    rw [h.splitOn_joinWith hne]
    exact ⟨parts', fun hnil => hne (hexpands.eq_nil_iff.1 hnil), hexpands,
      readSide?_eq_some.2 (.inr (readGroups_iff.1 hread))⟩

/-! ## Version 6 -/

theorem V6.ofGroups?_eq_some {a : V6} : V6.ofGroups? gs = some a ↔ gs = a.groups := by
  unfold V6.ofGroups?
  constructor
  · intro h
    obtain ⟨hgs, h⟩ := Option.dite_none_right_eq_some.1 h
    rw [← Option.some.inj h]
  · rintro rfl
    rw [dif_pos ⟨a.length_eq, a.group_lt⟩]

/-- Eight groups that are read were spelled. -/
theorem spellsV6_of_readGroups? (hexpands : Expands (splitOn ':' cs) parts) (h : readGroups? parts = some gs)
    (hlength : gs.length = 8) : SpellsV6 cs gs := by
  rw [← joinWith_splitOn ':' cs]
  cases parts with
  | nil => exact nomatch h
  | cons first rest =>
    unfold readGroups? at h
    simp only at h
    split at h
    · next before after hgap =>
      obtain ⟨high, hhigh, h⟩ := Option.bind_eq_some_iff.1 h
      obtain ⟨low, hlow, h⟩ := Option.bind_eq_some_iff.1 h
      rw [Option.ite_none_right_eq_some] at h
      obtain ⟨hcount, h⟩ := h
      obtain ⟨rfl, hne⟩ := eq_of_splitAtGap hgap
      have hexpands' : Expands (splitOn ':' cs) (first :: before ++ [] :: after) := hexpands
      obtain ⟨after', hparts, hafter⟩ := expands_gap_iff.1 hexpands'
      obtain ⟨ps, hps, hbefore⟩ := exists_spellsGroups hhigh
      obtain ⟨qs, hqs, htail⟩ := exists_spellsTail hafter hlow
      have hne' : after' ≠ [] := fun hnil => hne (hafter.eq_nil_iff.2 hnil)
      rw [hparts, joinWith_append_nil_cons (by simp) hne', ← hps, ← hqs, ← Option.some.inj h]
      exact .gap hbefore htail hcount
    · exact .full (spellsTail_iff.2 ⟨_, hexpands, h⟩) hlength

/-- What is spelled is read. -/
theorem readGroups?_of_spellsV6 (h : SpellsV6 cs gs) :
    ∃ parts, Expands (splitOn ':' cs) parts ∧ readGroups? parts = some gs := by
  cases h with
  | full h hlength =>
    obtain ⟨parts', hexpands, hread⟩ := spellsTail_iff.1 h
    have hgroups := readGroups_iff.1 hread
    cases parts' with
    | nil =>
      rw [List.forall₂_nil_left_iff.1 hgroups] at hlength
      exact absurd hlength (by decide)
    | cons first rest =>
      have hne := mt hexpands.eq_nil_iff.2 (List.cons_ne_nil first rest)
      have hgap : splitAtGap rest = none := by
        apply splitAtGap_eq_none
        intro p hp
        obtain ⟨g, hg⟩ := exists_spellsGroup hgroups (List.mem_cons_of_mem first hp)
        exact hg.ne_nil
      refine ⟨first :: rest, ?_, ?_⟩
      · rw [h.splitOn_joinWith hne]
        exact hexpands
      · simp only [readGroups?, hgap]
        exact hread
  | @gap before after high low hhigh hlow hlength =>
    obtain ⟨first, rest, hsplit, hrest, hread⟩ := readSide?_of_spellsGroups hhigh
    obtain ⟨parts', hne, hexpands, hread'⟩ := readSide?_of_spellsTail hlow
    -- The two colons leave one empty part between those of the two sides.
    have hparts : splitOn ':' (joinWith ':' before ++ ':' :: ':' :: joinWith ':' after)
        = first :: rest ++ [] :: splitOn ':' (joinWith ':' after) := by
      rw [splitOn_append, hsplit]
      simp [splitOn]
    refine ⟨first :: rest ++ [] :: parts', ?_, ?_⟩
    · rw [hparts]
      exact expands_gap_iff.2 ⟨_, rfl, hexpands⟩
    · simp only [List.cons_append, readGroups?, splitAtGap_append hrest hne, hread, hread']
      show (if _ then _ else none) = _
      rw [if_pos hlength]

/-- **The texts of an address of version 6** are the spellings of its groups. -/
theorem V6.parse?_eq_some {a : V6} : V6.parse? cs = some a ↔ SpellsV6 cs a.groups := by
  unfold V6.parse?
  constructor
  · intro h
    obtain ⟨parts, hexpand, h⟩ := Option.bind_eq_some_iff.1 h
    obtain ⟨gs, hread, h⟩ := Option.bind_eq_some_iff.1 h
    obtain rfl := V6.ofGroups?_eq_some.1 h
    exact spellsV6_of_readGroups? (expandTail?_eq_some.1 hexpand) hread a.length_eq
  · intro h
    obtain ⟨parts, hexpands, hread⟩ := readGroups?_of_spellsV6 h
    rw [expandTail?_eq_some.2 hexpands]
    show (readGroups? parts).bind V6.ofGroups? = _
    rw [hread]
    exact V6.ofGroups?_eq_some.2 rfl

/-! ## Addresses -/

/-- A character of an address without its scope. -/
def IsAddressChar (c : Char) : Prop :=
  c = ':' ∨ c = '.' ∨ ∃ d, SpellsDigit c d

theorem IsAddressChar.plain (h : IsAddressChar c) : c ≠ '/' ∧ c ≠ '%' ∧ isBlank c = false := by
  rcases h with rfl | rfl | ⟨d, hd⟩
  · decide
  · decide
  · exact hd.plain.2.2

theorem V4.isAddressChar {a : V4} (h : c ∈ a.chars) : IsAddressChar c :=
  .inr (V4.mem_chars h)

theorem SpellsTail.isAddressChar (h : SpellsTail parts gs) (hc : c ∈ joinWith ':' parts) :
    IsAddressChar c := by
  rcases mem_joinWith hc with rfl | ⟨p, hp, hc⟩
  · exact .inl rfl
  · exact .inr (h.mem_part hp hc)

theorem SpellsV6.isAddressChar (h : SpellsV6 cs gs) (hc : c ∈ cs) : IsAddressChar c := by
  cases h with
  | full h => exact h.isAddressChar hc
  | gap hhigh hlow =>
    rcases List.mem_append.1 hc with hc | hc
    · exact (SpellsTail.groups hhigh).isAddressChar hc
    · rcases List.mem_cons.1 hc with hc | hc
      · exact .inl hc
      · rcases List.mem_cons.1 hc with hc | hc
        · exact .inl hc
        · exact hlow.isAddressChar hc

theorem SpellsV6.colon_mem (h : SpellsV6 cs gs) : ':' ∈ cs := by
  cases h with
  | full h hlength =>
    apply sep_mem_joinWith
    -- One part at most stands for two groups.
    cases h with
    | groups h =>
      rw [h.length_eq, hlength]
      decide
    | dotted h a =>
      rw [List.length_append] at hlength ⊢
      rw [← h.length_eq] at hlength
      simp only [List.length_cons, List.length_nil] at hlength ⊢
      omega
  | gap => exact List.mem_append_right _ List.mem_cons_self

/-- **The texts of an address** are its spellings. -/
theorem Address.parse?_eq_some {s : String} {a : Address} :
    Address.parse? s = some a ↔ Spells s.toList a := by
  unfold Address.parse?
  constructor
  · intro h
    simp only at h
    split at h
    · next address haddress =>
      rw [← Option.some.inj h, V4.parse?_eq_some.1 haddress]
      exact .v4 address
    · split at h
      · exact nomatch h
      · next hslash =>
        split at h
        · next digits hcut =>
          obtain ⟨address, haddress, rfl⟩ := Option.map_eq_some_iff.1 h
          rw [eq_of_cutAt_none hcut]
          exact .v6 (V6.parse?_eq_some.1 haddress)
        · next digits scope hcut =>
          have heq := eq_of_cutAt hcut
          split at h
          · next hscope =>
            obtain ⟨address, haddress, rfl⟩ := Option.map_eq_some_iff.1 h
            have hnot : '/' ∉ scope := by
              intro hmem
              apply hslash
              rw [heq]
              simp [hmem]
            generalize hz : String.ofList scope = z
            obtain rfl : scope = z.toList := by rw [← hz, String.toList_ofList]
            rw [heq]
            exact .inScope (V6.parse?_eq_some.1 haddress) hscope hnot
          · exact nomatch h
  · intro h
    generalize s.toList = cs at h
    cases h with
    | v4 address => simp only [V4.parse?_eq_some.2 rfl]
    | @v6 _ address h =>
      have hslash : '/' ∉ cs := fun hmem => (h.isAddressChar hmem).plain.1 rfl
      have hpercent : '%' ∉ cs := fun hmem => (h.isAddressChar hmem).plain.2.1 rfl
      simp only [V4.parse?_eq_none h.colon_mem, cutAt_of_not_mem hpercent, V6.parse?_eq_some.2 h]
      rw [if_neg (by simpa using hslash)]
      rfl
    | @inScope digits address scope h hscope hslash =>
      have hslash' : '/' ∉ digits ++ '%' :: scope.toList := by
        intro hmem
        rcases List.mem_append.1 hmem with hmem | hmem
        · exact (h.isAddressChar hmem).plain.1 rfl
        · rcases List.mem_cons.1 hmem with hmem | hmem
          · exact absurd hmem (by decide)
          · exact hslash hmem
      have hpercent : '%' ∉ digits := fun hmem => (h.isAddressChar hmem).plain.2.1 rfl
      simp only [V4.parse?_eq_none (List.mem_append_left ('%' :: scope.toList) h.colon_mem),
        cutAt_append hpercent, V6.parse?_eq_some.2 h, String.ofList_toList]
      rw [if_neg (by simpa using hslash'), if_pos hscope]
      rfl

end ClusterHealth.Network
