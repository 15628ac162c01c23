import ClusterHealth.Proofs.Spelling

/-!
# `ClusterHealth.Proofs.Address` — the canonical text of an address is read back

Every spelling of an address is brought to its canonical text, so the text of an address has to be a spelling
of that address again. For version 6 the difficulty is the gap: the run of zero groups that is left out is
found by a search (`longestZeroRun`), and the gap has to stand for exactly as many.

## Contents
- `groups_eq_around_run`: the run that is left out is one of zero groups.
- `V6.spells_chars`, `Address.spells_text`: a canonical text is a spelling.
- `Address.Readable`, `Address.parse?_text`: the round trip of addresses with their scopes.
-/

namespace ClusterHealth.Network

open ClusterHealth.Text

/-! ## The run that is left out -/

/-- The search only ever has a run of zero groups in hand. -/
theorem longestZeroRun_le (gs : List Nat) :
    (longestZeroRun gs).2 ≤ zeroRun (gs.drop (longestZeroRun gs).1) := by
  unfold longestZeroRun
  generalize List.range gs.length = is
  -- The bound holds of the best run so far, which starts as an empty one.
  suffices hfold : ∀ best : Nat × Nat, best.2 ≤ zeroRun (gs.drop best.1) →
      (is.foldl (fun best i => if best.2 < zeroRun (gs.drop i) then (i, zeroRun (gs.drop i)) else best)
        best).2 ≤ zeroRun (gs.drop (is.foldl (fun best i =>
          if best.2 < zeroRun (gs.drop i) then (i, zeroRun (gs.drop i)) else best) best).1) from
    hfold (0, 0) (Nat.zero_le _)
  induction is with
  | nil => exact fun _ h => h
  | cons i is ih =>
    intro best h
    rw [List.foldl_cons]
    apply ih
    split
    · exact Nat.le_refl _
    · exact h

theorem drop_eq_replicate_of_le_zeroRun {gs : List Nat} {n : Nat} (h : n ≤ zeroRun gs) :
    gs = List.replicate n 0 ++ gs.drop n := by
  induction n generalizing gs with
  | zero => simp
  | succ n ih =>
    cases gs with
    | nil => exact absurd h (by simp [zeroRun])
    | cons g gs =>
      by_cases hg : g = 0
      · subst hg
        have hn : n ≤ zeroRun gs := by simpa [zeroRun] using h
        rw [List.replicate_succ, List.cons_append, List.drop_succ_cons, ← ih hn]
      · exact absurd h (by simp [zeroRun, hg])

/-- The groups of an address around the run that is left out. -/
theorem groups_eq_around_run (gs : List Nat) :
    gs = gs.take (longestZeroRun gs).1 ++ List.replicate (longestZeroRun gs).2 0
      ++ gs.drop ((longestZeroRun gs).1 + (longestZeroRun gs).2) := by
  rw [List.append_assoc, ← List.drop_drop, ← drop_eq_replicate_of_le_zeroRun (longestZeroRun_le gs),
    List.take_append_drop]

/-! ## Canonical texts -/

theorem spellsGroups_hexChars {gs : List Nat} (h : ∀ g ∈ gs, g < 65536) :
    List.Forall₂ SpellsGroup (gs.map hexChars) gs := by
  rw [List.forall₂_map_left_iff, List.forall₂_same]
  exact fun g hg => spellsGroup_hexChars (h g hg)

/-- The canonical text of an address of version 6 spells its groups. -/
theorem V6.spells_chars (a : V6) : SpellsV6 a.chars a.groups := by
  unfold V6.chars
  generalize hrun : longestZeroRun a.groups = run
  obtain ⟨start, length⟩ := run
  have hgroups := groups_eq_around_run a.groups
  rw [hrun] at hgroups
  simp only
  split
  · next hlength =>
    -- What is left of eight groups around a run of at least two.
    have hcount := congrArg List.length hgroups
    simp only [List.length_append, List.length_replicate, a.length_eq] at hcount
    have hhigh := spellsGroups_hexChars fun g hg => a.group_lt g (List.mem_of_mem_take (i := start) hg)
    have hlow := spellsGroups_hexChars fun g hg =>
      a.group_lt g (List.mem_of_mem_drop (i := start + length) hg)
    have hspells := SpellsV6.gap hhigh (.groups hlow) (by omega)
    have hgap : 8 - ((a.groups.take start).length + (a.groups.drop (start + length)).length) = length := by
      omega
    rw [hgap, ← hgroups] at hspells
    exact hspells
  · exact .full (.groups (spellsGroups_hexChars a.group_lt)) a.length_eq

/-! ## Addresses -/

/-- An address whose scope, if it has one, can stand in a text. -/
def Address.Readable : Address → Prop
  | .v6 _ (some scope) => isScope scope.toList = true ∧ '/' ∉ scope.toList
  | _ => True

/-- The canonical text of an address spells it. -/
theorem Address.spells_text {a : Address} (ha : a.Readable) : Spells a.text.toList a := by
  cases a with
  | v4 a =>
    unfold Address.text
    rw [String.toList_ofList]
    exact .v4 a
  | v6 a scope =>
    cases scope with
    | none =>
      unfold Address.text
      rw [String.toList_ofList]
      exact .v6 a.spells_chars
    | some scope =>
      unfold Address.text
      rw [String.toList_ofList]
      exact .inScope a.spells_chars ha.1 ha.2

/-- **The text of an address is read back.** -/
theorem Address.parse?_text {a : Address} (ha : a.Readable) : Address.parse? a.text = some a :=
  Address.parse?_eq_some.2 (Address.spells_text ha)

/-- What is spelled can be read, and its text ends in the scope if it has one. -/
theorem Spells.readable {cs : List Char} {a : Address} (h : Spells cs a) :
    a.Readable ∧ ∀ address scope, a = .v6 address (some scope) →
      ∃ digits, cs = digits ++ '%' :: scope.toList := by
  cases h with
  | v4 | v6 => exact ⟨trivial, nofun⟩
  | @inScope digits address scope _ hscope hslash =>
    refine ⟨⟨hscope, hslash⟩, ?_⟩
    intro address' scope' hsame
    injection hsame with _ hsame
    rw [Option.some.inj hsame]
    exact ⟨digits, rfl⟩

end ClusterHealth.Network
