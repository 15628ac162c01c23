import ClusterHealth.Text.Utf8

/-!
# `ClusterHealth.Proofs.Utf8` — a text and its bytes

A text is written as one sequence of bytes, and read from no other: the reader takes each character from just
the bytes that the writer makes of it. So whatever the bytes of a file are, either they are those of one text,
which is read, or they are those of none.

## Contents
- `tail?_eq_some`, `scalar?_eq_some`: the parts of a character.
- `decodeChars?_encodeChar`: a character that was written is read.
- `eq_of_decodeChars?`: what is read was written.
- `decode?_eq_some_iff`: both together.
-/

namespace ClusterHealth.Text.Utf8

variable {a b c d : UInt8} {bs rest : List UInt8} {cs : List Char} {n least x y z : Nat} {ch : Char}

/-! ## Parts of a character -/

theorem toNat_ofNat (h : n.isValidChar) : (Char.ofNat n).toNat = n := by
  unfold Char.ofNat
  rw [dif_pos h]
  rfl

theorem tail?_eq_some : tail? b = some n ↔ b.toNat = 0x80 + n ∧ n < 0x40 := by
  unfold tail?
  split
  · next h =>
    rw [Option.some.injEq]
    omega
  · next h =>
    constructor
    · nofun
    · intro hn
      omega

theorem scalar?_eq_some : scalar? least n = some ch ↔ ch.toNat = n ∧ least ≤ n := by
  unfold scalar?
  split
  · next h =>
    rw [Option.some.injEq]
    constructor
    · rintro rfl
      exact ⟨toNat_ofNat h.2, h.1⟩
    · rintro ⟨rfl, -⟩
      exact Char.ofNat_toNat ch
  · next h =>
    constructor
    · nofun
    · rintro ⟨rfl, hle⟩
      exact absurd ⟨hle, ch.valid⟩ h

theorem toNat_lt (ch : Char) : ch.toNat < 0x110000 := by
  rcases ch.valid with h | ⟨-, h⟩
  · exact Nat.lt_trans h (by decide)
  · exact h

theorem toNat_toUInt8 (h : n < 0x100) : n.toUInt8.toNat = n :=
  UInt8.toNat_ofNat_of_lt' h

/-- The byte that carries six bits is read as a continuation byte. -/
theorem tail?_toUInt8 (h : n < 0x40) : tail? (0x80 + n).toUInt8 = some n :=
  tail?_eq_some.2 ⟨toNat_toUInt8 (by omega), h⟩

/-! ## Reading what was written -/

theorem encodeChar_ascii (h : ch.toNat < 0x80) : encodeChar ch = [ch.toNat.toUInt8] := by
  unfold encodeChar
  exact if_pos h

/-- A byte of ASCII is a character by itself. -/
theorem decodeChars?_cons (h : a.toNat < 0x80) :
    decodeChars? (a :: rest) = (decodeChars? rest).map (Char.ofNat a.toNat :: ·) := by
  rw [decodeChars?.eq_def]
  simp only [if_pos h]
  cases decodeChars? rest <;> rfl

theorem decodeChars?_two (ha : 0xC0 ≤ a.toNat) (ha' : a.toNat < 0xE0) (hb : tail? b = some y)
    (hc : scalar? 0x80 ((a.toNat - 0xC0) * 0x40 + y) = some ch) :
    decodeChars? (a :: b :: rest) = (decodeChars? rest).map (ch :: ·) := by
  rw [decodeChars?.eq_def]
  simp only [if_neg (show ¬ a.toNat < 0x80 by omega), if_neg (show ¬ a.toNat < 0xC0 by omega), if_pos ha',
    hb]
  cases decodeChars? rest <;> simp [hc]

theorem decodeChars?_three (ha : 0xE0 ≤ a.toNat) (ha' : a.toNat < 0xF0) (hb : tail? b = some x)
    (hc : tail? c = some y) (hch : scalar? 0x800 (((a.toNat - 0xE0) * 0x40 + x) * 0x40 + y) = some ch) :
    decodeChars? (a :: b :: c :: rest) = (decodeChars? rest).map (ch :: ·) := by
  rw [decodeChars?.eq_def]
  simp only [if_neg (show ¬ a.toNat < 0x80 by omega), if_neg (show ¬ a.toNat < 0xC0 by omega),
    if_neg (show ¬ a.toNat < 0xE0 by omega), if_pos ha', hb, hc]
  cases decodeChars? rest <;> simp [hch]

theorem decodeChars?_four (ha : 0xF0 ≤ a.toNat) (hb : tail? b = some x) (hc : tail? c = some y)
    (hd : tail? d = some z)
    (hch : scalar? 0x10000 ((((a.toNat - 0xF0) * 0x40 + x) * 0x40 + y) * 0x40 + z) = some ch) :
    decodeChars? (a :: b :: c :: d :: rest) = (decodeChars? rest).map (ch :: ·) := by
  rw [decodeChars?.eq_def]
  simp only [if_neg (show ¬ a.toNat < 0x80 by omega), if_neg (show ¬ a.toNat < 0xC0 by omega),
    if_neg (show ¬ a.toNat < 0xE0 by omega), if_neg (show ¬ a.toNat < 0xF0 by omega), hb, hc, hd]
  cases decodeChars? rest <;> simp [hch]

/-- **A character that was written is read**, and what follows it is read by itself. -/
theorem decodeChars?_encodeChar (ch : Char) (rest : List UInt8) :
    decodeChars? (encodeChar ch ++ rest) = (decodeChars? rest).map (ch :: ·) := by
  have hlt := toNat_lt ch
  unfold encodeChar
  dsimp only
  split
  · next h1 =>
    have hbyte : ch.toNat.toUInt8.toNat = ch.toNat := toNat_toUInt8 (by omega)
    rw [List.cons_append, List.nil_append, decodeChars?_cons (by omega), hbyte, Char.ofNat_toNat]
  split
  · next h1 h2 =>
    have ha : (0xC0 + ch.toNat / 0x40).toUInt8.toNat = 0xC0 + ch.toNat / 0x40 := toNat_toUInt8 (by omega)
    apply decodeChars?_two (y := ch.toNat % 0x40)
    · omega
    · omega
    · exact tail?_toUInt8 (Nat.mod_lt _ (by decide))
    · rw [scalar?_eq_some, ha]
      omega
  split
  · next h1 h2 h3 =>
    have ha : (0xE0 + ch.toNat / 0x1000).toUInt8.toNat = 0xE0 + ch.toNat / 0x1000 := toNat_toUInt8 (by omega)
    apply decodeChars?_three (x := ch.toNat / 0x40 % 0x40) (y := ch.toNat % 0x40)
    · omega
    · omega
    · exact tail?_toUInt8 (Nat.mod_lt _ (by decide))
    · exact tail?_toUInt8 (Nat.mod_lt _ (by decide))
    · rw [scalar?_eq_some, ha]
      omega
  · next h1 h2 h3 =>
    have ha : (0xF0 + ch.toNat / 0x40000).toUInt8.toNat = 0xF0 + ch.toNat / 0x40000 := toNat_toUInt8 (by omega)
    apply decodeChars?_four (x := ch.toNat / 0x1000 % 0x40) (y := ch.toNat / 0x40 % 0x40) (z := ch.toNat % 0x40)
    · omega
    · exact tail?_toUInt8 (Nat.mod_lt _ (by decide))
    · exact tail?_toUInt8 (Nat.mod_lt _ (by decide))
    · exact tail?_toUInt8 (Nat.mod_lt _ (by decide))
    · rw [scalar?_eq_some, ha]
      omega

theorem decodeChars?_flatMap (cs : List Char) : decodeChars? (cs.flatMap encodeChar) = some cs := by
  induction cs with
  | nil => rfl
  | cons ch cs ih =>
    rw [List.flatMap_cons, decodeChars?_encodeChar, ih]
    rfl

/-! ## Only what was written is read -/

theorem toUInt8_eq (h : a.toNat = n) : n.toUInt8 = a := by
  rw [← h]
  exact UInt8.ofNat_toNat

/-- **Bytes that are read are the ones that are written.** -/
theorem eq_of_decodeChars? (h : decodeChars? bs = some cs) : bs = cs.flatMap encodeChar := by
  -- By induction along the reader: a first byte and those that it asks for are one character.
  fun_induction decodeChars? bs generalizing cs with
  | case1 =>
    rw [← Option.some.inj h]
    rfl
  | case2 a rest ha ih =>
    simp only [Option.bind_eq_bind, Option.bind_eq_some_iff, Option.pure_def, Option.some.injEq] at h
    obtain ⟨cs, hrest, rfl⟩ := h
    have hvalid : (Char.ofNat a.toNat).toNat = a.toNat := toNat_ofNat (.inl (by omega))
    rw [List.flatMap_cons, ← ih hrest, encodeChar_ascii (by omega), hvalid, toUInt8_eq rfl]
    rfl
  | case4 a ha1 ha2 ha3 b rest ih =>
    simp only [Option.bind_eq_bind, Option.bind_eq_some_iff, Option.pure_def, Option.some.injEq,
      tail?_eq_some, scalar?_eq_some] at h
    obtain ⟨y, hb, ch, hch, cs, hrest, rfl⟩ := h
    have hchar : encodeChar ch = [a, b] := by
      unfold encodeChar
      dsimp only
      rw [if_neg (by omega), if_pos (by omega), toUInt8_eq (a := a) (by omega), toUInt8_eq (a := b) (by omega)]
    rw [List.flatMap_cons, ← ih hrest, hchar]
    rfl
  | case6 a ha1 ha2 ha3 ha4 b c rest ih =>
    simp only [Option.bind_eq_bind, Option.bind_eq_some_iff, Option.pure_def, Option.some.injEq,
      tail?_eq_some, scalar?_eq_some] at h
    obtain ⟨x, hb, y, hc, ch, hch, cs, hrest, rfl⟩ := h
    have hchar : encodeChar ch = [a, b, c] := by
      unfold encodeChar
      dsimp only
      rw [if_neg (by omega), if_neg (by omega), if_pos (by omega), toUInt8_eq (a := a) (by omega),
        toUInt8_eq (a := b) (by omega), toUInt8_eq (a := c) (by omega)]
    rw [List.flatMap_cons, ← ih hrest, hchar]
    rfl
  | case8 a ha1 ha2 ha3 ha4 b c d rest ih =>
    simp only [Option.bind_eq_bind, Option.bind_eq_some_iff, Option.pure_def, Option.some.injEq,
      tail?_eq_some, scalar?_eq_some] at h
    obtain ⟨x, hb, y, hc, z, hd, ch, hch, cs, hrest, rfl⟩ := h
    have hchar : encodeChar ch = [a, b, c, d] := by
      have hlt := toNat_lt ch
      unfold encodeChar
      dsimp only
      rw [if_neg (by omega), if_neg (by omega), if_neg (by omega), toUInt8_eq (a := a) (by omega),
        toUInt8_eq (a := b) (by omega), toUInt8_eq (a := c) (by omega), toUInt8_eq (a := d) (by omega)]
    rw [List.flatMap_cons, ← ih hrest, hchar]
    rfl
  | _ => exact nomatch h

/-- **A text is read from just the bytes that it is written as.** -/
theorem decode?_eq_some_iff {s : String} : decode? bs = some s ↔ bs = encode s := by
  unfold decode? encode
  rw [Option.map_eq_some_iff]
  constructor
  · rintro ⟨cs, hcs, rfl⟩
    rw [String.toList_ofList]
    exact eq_of_decodeChars? hcs
  · rintro rfl
    exact ⟨s.toList, decodeChars?_flatMap s.toList, String.ofList_toList⟩

end ClusterHealth.Text.Utf8
