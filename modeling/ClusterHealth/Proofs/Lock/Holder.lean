import ClusterHealth.Lock.Acquire
import ClusterHealth.Proofs.Integer
import ClusterHealth.Proofs.Utf8
import Mathlib.Algebra.Group.Nat.Defs

/-!
# `ClusterHealth.Proofs.Lock.Holder` — whose lock it is

A lock file holds the number of a process in decimal. Whoever does not get the lock reads it from the first
bytes of the file, as text in UTF-8, and gets the number that was written.

Whatever else is in the file, its bytes spell a number in decimal, with digits of whatever scripts and blanks
around them, or they say nothing. What they say is told here of texts and digits, without the way in which it is
read. There are bytes that make no sense to the reader instead of saying nothing: those of no text, and digits
that stand outside positional notation, such as `²`.

## Contents
- `length_encode_ascii`: text in ASCII has as many bytes as characters.
- `readDecimal?_eq_some_iff`, `readDecimal?_eq_none_iff`: digits spell one number or none.
- `isBlank_of_isDigit`: no digit of any script is blank.
- `SpellsNumber`, `Valueless`: numbers in decimal, and digits that make none.
- `Tells`, `Senseless`: what the bytes of a lock file say, and those that make no sense.
- `holderOf_eq_ok_iff`: the reader reads what is said.
- `holderOf_signature`: the number of a process is read back.
-/

namespace ClusterHealth

open ClusterHealth.Text ClusterHealth.Number

variable {n k : Nat} {c : Char} {cs : List Char}

namespace Text

/-! ## UTF-8 -/

/-- A text in ASCII has as many bytes as characters. -/
theorem Utf8.length_encode_ascii {s : String} (h : ∀ c ∈ s.toList, c.toNat < 128) :
    (encode s).length = s.toList.length := by
  unfold encode
  have hone : s.toList.map (fun c => (encodeChar c).length) = s.toList.map fun _ => 1 := by
    apply List.map_congr_left
    intro c hc
    rw [encodeChar_ascii (h c hc)]
    rfl
  rw [List.length_flatMap, hone, List.map_const', List.sum_replicate_nat, Nat.mul_one]

/-! ## Digits -/

theorem isDigit_of_decimalValue? {d : Nat} (h : decimalValue? c = some d) : isDigit c = true := by
  unfold isDigit isDecimal
  rw [h]
  rfl

theorem foldlM_decimalValue? : cs.foldlM (fun n c => (decimalValue? c).map (10 * n + ·)) k = some n ↔
    ∃ ds : List Nat, cs.map decimalValue? = ds.map some ∧ n = ds.foldl (fun n d => 10 * n + d) k := by
  induction cs generalizing k with
  | nil =>
    rw [List.foldlM_nil]
    constructor
    · intro h
      exact ⟨[], rfl, (Option.some.inj h).symm⟩
    · rintro ⟨ds, hds, rfl⟩
      rw [List.map_eq_nil_iff.1 hds.symm]
      rfl
  | cons c cs ih =>
    rw [List.foldlM_cons]
    simp only [Option.bind_eq_bind, Option.bind_eq_some_iff, Option.map_eq_some_iff, ih]
    constructor
    · rintro ⟨_, ⟨d, hd, rfl⟩, ds, hds, rfl⟩
      refine ⟨d :: ds, ?_, rfl⟩
      rw [List.map_cons, List.map_cons, hd, hds]
    · rintro ⟨ds, hds, rfl⟩
      obtain ⟨d, ds, rfl, hd, hds⟩ := List.map_eq_cons_iff.1 hds.symm
      exact ⟨10 * k + d, ⟨d, hd.symm, rfl⟩, ds, hds.symm, rfl⟩

/-- A number is read from just the digits that spell it. -/
theorem readDecimal?_eq_some_iff :
    readDecimal? cs = some n ↔ ∃ ds : List Nat, cs.map decimalValue? = ds.map some ∧ n = ofDigits 10 ds :=
  foldlM_decimalValue?

/-- No number is read just if some character has no value. -/
theorem readDecimal?_eq_none_iff : readDecimal? cs = none ↔ ∃ c ∈ cs, decimalValue? c = none := by
  unfold readDecimal?
  generalize 0 = k
  induction cs generalizing k with
  | nil =>
    constructor
    · nofun
    · rintro ⟨c, hc, -⟩
      exact nomatch hc
  | cons c cs ih =>
    rw [List.foldlM_cons]
    simp only [List.mem_cons, exists_eq_or_imp]
    cases hc : decimalValue? c with
    | none => exact iff_of_true rfl (.inl rfl)
    | some d =>
      constructor
      · intro h
        exact .inr ((ih (10 * k + d)).1 h)
      · rintro (h | h)
        · exact nomatch h
        · exact (ih (10 * k + d)).2 h

/-- No decimal digit of any script is blank. -/
theorem not_isBlank_decimal : ∀ start ∈ decimalZeros, ∀ k < 10, isBlank (Char.ofNat (start + k)) = false := by
  decide +kernel

theorem not_isBlank_special : ∀ r ∈ specialDigitRanges, ∀ k < r.2 + 1 - r.1,
    isBlank (Char.ofNat (r.1 + k)) = false := by
  decide +kernel

theorem isBlank_of_isDigit (h : isDigit c = true) : isBlank c = false := by
  unfold isDigit isDecimal decimalValue? inRanges at h
  rw [Bool.or_eq_true] at h
  rcases h with h | h
  · rw [Option.isSome_map, List.find?_isSome] at h
    obtain ⟨start, hstart, hin⟩ := h
    simp only [Bool.and_eq_true, decide_eq_true_eq] at hin
    have hblank := not_isBlank_decimal start hstart (c.toNat - start) (by omega)
    rw [Nat.add_sub_cancel' hin.1, Char.ofNat_toNat] at hblank
    exact hblank
  · obtain ⟨r, hr, hin⟩ := List.any_eq_true.1 h
    simp only [Bool.and_eq_true, decide_eq_true_eq] at hin
    have hblank := not_isBlank_special r hr (c.toNat - r.1) (by omega)
    rw [Nat.add_sub_cancel' hin.1, Char.ofNat_toNat] at hblank
    exact hblank

/-- The characters of decimal numbers are digits of ASCII, with the values that they were written for. -/
theorem digitChar_read {d : Nat} (h : d < 10) :
    (digitChar d).toNat < 128 ∧ decimalValue? (digitChar d) = some d := by
  have hall : ∀ d < 10, (digitChar d).toNat < 128 ∧ decimalValue? (digitChar d) = some d := by decide
  exact hall d h

theorem decimalValues_decimalChars (n : Nat) : (decimalChars n).map decimalValue? = (digits 10 n).map some := by
  unfold decimalChars
  rw [List.map_map]
  exact List.map_congr_left fun d hd => (digitChar_read (digits_lt (by decide) d hd)).2

end Text

/-! ## Lock files -/

namespace Lock

/-! ### What is said -/

/-- Some characters with blanks around them. -/
def Padded (core cs : List Char) : Prop :=
  ∃ lead tail, cs = lead ++ core ++ tail ∧ (∀ c ∈ lead, isBlank c = true) ∧ ∀ c ∈ tail, isBlank c = true

/-- A number in decimal, with blanks around it; each digit is one of whatever script. -/
def SpellsNumber (s : String) (n : Nat) : Prop :=
  ∃ (core : List Char) (ds : List Nat), Padded core s.toList ∧ core ≠ []
    ∧ core.map decimalValue? = ds.map some ∧ n = ofDigits 10 ds

/-- Digits with blanks around them, which are not all those of numbers in decimal. -/
def Valueless (s : String) : Prop :=
  ∃ core, Padded core s.toList ∧ (∀ c ∈ core, isDigit c = true) ∧ ∃ c ∈ core, decimalValue? c = none

/-- What bytes say of the holder of a lock: the number that they spell, and nothing if they spell none. -/
def Tells (bs : List UInt8) : Option Nat → Prop
  | some n => ∃ s, bs = Utf8.encode s ∧ SpellsNumber s n
  | none => ∀ s n, bs = Utf8.encode s → ¬ SpellsNumber s n

/-- Bytes that are those of no text. -/
def NoText (bs : List UInt8) : Prop := ∀ s, bs ≠ Utf8.encode s

/-- Bytes that the reader fails on. -/
def Senseless (bs : List UInt8) : Prop := NoText bs ∨ ∃ s, bs = Utf8.encode s ∧ Valueless s

variable {bs : List UInt8} {s : String} {core : List Char} {holder : Option Nat}

theorem padded_trim (cs : List Char) : Padded (trim isBlank cs) cs := exists_trim isBlank cs

theorem Padded.trim (h : Padded core cs) (hcore : ∀ c ∈ core, isBlank c = false) : trim isBlank cs = core := by
  obtain ⟨lead, tail, rfl, hlead, htail⟩ := h
  exact trim_append hlead htail hcore

/-- Every character of a number is a digit. -/
theorem isDigit_of_values {ds : List Nat} (h : core.map decimalValue? = ds.map some) (hc : c ∈ core) :
    isDigit c = true := by
  have hmem : decimalValue? c ∈ ds.map some := h ▸ List.mem_map_of_mem hc
  obtain ⟨d, -, hd⟩ := List.mem_map.1 hmem
  exact isDigit_of_decimalValue? hd.symm

/-! ### What is read -/

/-- The reader trims a text; what is left is read if it is digits. -/
theorem holderOf_encode (s : String) : holderOf (Utf8.encode s) =
    if (trim isBlank s.toList).isEmpty || !(trim isBlank s.toList).all isDigit then .ok none
    else
      match readDecimal? (trim isBlank s.toList) with
      | some n => .ok (some n)
      | none => .error (.badValue ("invalid literal for int() with base 10: "
          ++ quoted (String.ofList (trim isBlank s.toList)))) := by
  have htext : Utf8.decode? (Utf8.encode s) = some s := Utf8.decode?_eq_some_iff.2 rfl
  unfold holderOf
  split
  · next hnone => exact nomatch hnone.symm.trans htext
  · next t hsome =>
    obtain rfl : t = s := Option.some.inj (hsome.symm.trans htext)
    rfl

theorem holderOf_noText (h : NoText bs) : holderOf bs = .error .undecodable := by
  have hnone : Utf8.decode? bs = none := by
    cases hread : Utf8.decode? bs with
    | none => rfl
    | some s => exact absurd (Utf8.decode?_eq_some_iff.1 hread) (h s)
  unfold holderOf
  rw [hnone]

theorem holderOf_encode_digits (hne : core ≠ []) (hpadded : Padded core s.toList)
    (hdigits : ∀ c ∈ core, isDigit c = true) : holderOf (Utf8.encode s) =
    match readDecimal? core with
    | some n => .ok (some n)
    | none => .error (.badValue ("invalid literal for int() with base 10: " ++ quoted (String.ofList core))) := by
  have htrim := hpadded.trim fun c hc => isBlank_of_isDigit (hdigits c hc)
  have hsome : core.isEmpty = false := List.isEmpty_eq_false_iff.2 hne
  have hall : core.all isDigit = true := List.all_eq_true.2 hdigits
  rw [holderOf_encode, htrim, hsome, hall]
  rfl

/-- **A number is read** as it is spelled. -/
theorem holderOf_encode_number (h : SpellsNumber s n) : holderOf (Utf8.encode s) = .ok (some n) := by
  obtain ⟨core, ds, hpadded, hne, hvalues, rfl⟩ := h
  have hread : readDecimal? core = some (ofDigits 10 ds) := readDecimal?_eq_some_iff.2 ⟨ds, hvalues, rfl⟩
  rw [holderOf_encode_digits hne hpadded fun c => isDigit_of_values hvalues, hread]

/-- **Digits that make no number** are refused. -/
theorem holderOf_encode_valueless (h : Valueless s) :
    ∃ message, holderOf (Utf8.encode s) = .error (.badValue message) := by
  obtain ⟨core, hpadded, hdigits, c, hc, hvalue⟩ := h
  have hread : readDecimal? core = none := readDecimal?_eq_none_iff.2 ⟨c, hc, hvalue⟩
  rw [holderOf_encode_digits (List.ne_nil_of_mem hc) hpadded hdigits, hread]
  exact ⟨_, rfl⟩

/-- What is read is what the file says. -/
theorem tells_of_holderOf (h : holderOf bs = .ok holder) : Tells bs holder ∧ ¬ Senseless bs := by
  have htext : ∃ s, bs = Utf8.encode s := by
    by_contra hnone
    have hno : NoText bs := fun s hs => hnone ⟨s, hs⟩
    exact nomatch h.symm.trans (holderOf_noText hno)
  obtain ⟨s, rfl⟩ := htext
  have hsense : ¬ Senseless (Utf8.encode s) := by
    rintro (hno | ⟨t, ht, hvalueless⟩)
    · exact hno s rfl
    · obtain ⟨message, hmessage⟩ := holderOf_encode_valueless hvalueless
      exact nomatch (ht ▸ h).symm.trans hmessage
  refine ⟨?_, hsense⟩
  cases holder with
  | none =>
    intro t n ht hnumber
    have hread := holderOf_encode_number hnumber
    rw [← ht, h] at hread
    exact nomatch hread
  | some n =>
    rw [holderOf_encode] at h
    split at h
    · exact nomatch h
    · next hcond =>
      split at h
      · next m hread =>
        obtain ⟨ds, hvalues, hvalue⟩ := readDecimal?_eq_some_iff.1 hread
        have hne : trim isBlank s.toList ≠ [] := by
          intro hnil
          rw [hnil] at hcond
          exact hcond rfl
        obtain rfl : m = n := Option.some.inj (Except.ok.inj h)
        exact ⟨s, rfl, _, ds, padded_trim s.toList, hne, hvalues, hvalue⟩
      · exact nomatch h

/-- What is not read makes no sense. -/
theorem senseless_of_holderOf {e : Failure} (h : holderOf bs = .error e) : Senseless bs := by
  cases htext : Utf8.decode? bs with
  | none =>
    refine .inl fun s hs => ?_
    exact nomatch htext.symm.trans (Utf8.decode?_eq_some_iff.2 hs)
  | some s =>
    obtain rfl : bs = Utf8.encode s := Utf8.decode?_eq_some_iff.1 htext
    rw [holderOf_encode] at h
    split at h
    · exact nomatch h
    · next hcond =>
      split at h
      · exact nomatch h
      · next hread =>
        have hdigits : (trim isBlank s.toList).all isDigit = true := by
          simp only [Bool.or_eq_true, Bool.not_eq_true', not_or, Bool.not_eq_false] at hcond
          exact hcond.2
        exact .inr ⟨s, rfl, _, padded_trim s.toList, List.all_eq_true.1 hdigits, readDecimal?_eq_none_iff.1 hread⟩

/-- The bytes of a lock file say one thing about its holder. -/
theorem Tells.unique {holder' : Option Nat} (h : Tells bs holder) (h' : Tells bs holder') : holder = holder' := by
  cases holder with
  | none =>
    cases holder' with
    | none => rfl
    | some n =>
      obtain ⟨s, hs, hnumber⟩ := h'
      exact absurd hnumber (h s n hs)
  | some n =>
    obtain ⟨s, rfl, hnumber⟩ := h
    cases holder' with
    | none => exact absurd hnumber (h' s n rfl)
    | some m =>
      obtain ⟨t, ht, hnumber'⟩ := h'
      have hread := holderOf_encode_number hnumber
      rw [ht, holderOf_encode_number hnumber'] at hread
      exact (Except.ok.inj hread).symm

/-- **The reader reads what is said**, unless it makes no sense. -/
theorem holderOf_eq_ok_iff : holderOf bs = .ok holder ↔ Tells bs holder ∧ ¬ Senseless bs := by
  constructor
  · exact tells_of_holderOf
  · rintro ⟨htells, hsense⟩
    cases hread : holderOf bs with
    | error e => exact absurd (senseless_of_holderOf hread) hsense
    | ok holder' => rw [(tells_of_holderOf hread).1.unique htells]

/-- Bytes say a number or nothing. -/
theorem exists_tells (bs : List UInt8) : ∃ holder, Tells bs holder := by
  by_cases h : ∃ n s, bs = Utf8.encode s ∧ SpellsNumber s n
  · obtain ⟨n, hn⟩ := h
    exact ⟨some n, hn⟩
  · exact ⟨none, fun s n hs hnumber => h ⟨n, s, hs, hnumber⟩⟩

/-! ### What a process writes -/

/-- What a process writes into its lock file. -/
def signature (process : Nat) : List UInt8 :=
  Utf8.encode (decimal process)

theorem toList_decimal (n : Nat) : (decimal n).toList = decimalChars n := String.toList_ofList

theorem ascii_of_mem_decimal (h : c ∈ (decimal n).toList) : c.toNat < 128 := by
  rw [toList_decimal] at h
  obtain ⟨d, hd, rfl⟩ := List.mem_map.1 h
  exact (digitChar_read (digits_lt (by decide) d hd)).1

/-- A signature is not longer than what is read of a lock file. -/
theorem length_signature_le (h : n < 10 ^ holderBytes) : (signature n).length ≤ holderBytes := by
  unfold signature
  rw [Utf8.length_encode_ascii fun _ => ascii_of_mem_decimal, toList_decimal]
  unfold decimalChars
  rw [List.length_map]
  exact length_digits_le (by decide) h

/-- The number of a process is spelled without blanks. -/
theorem spellsNumber_decimal (n : Nat) : SpellsNumber (decimal n) n := by
  have hpadded : Padded (decimalChars n) (decimal n).toList := by
    refine ⟨[], [], ?_, List.forall_mem_nil _, List.forall_mem_nil _⟩
    rw [toList_decimal, List.nil_append, List.append_nil]
  exact ⟨decimalChars n, digits 10 n, hpadded, decimalChars_ne_nil n, decimalValues_decimalChars n,
    (ofDigits_digits 10 n).symm⟩

/-- **The number of a process is read back** from its lock file. -/
theorem holderOf_signature (h : n < 10 ^ holderBytes) :
    holderOf ((signature n).take holderBytes) = .ok (some n) := by
  rw [List.take_of_length_le (length_signature_le h)]
  exact holderOf_encode_number (spellsNumber_decimal n)

end Lock

end ClusterHealth
