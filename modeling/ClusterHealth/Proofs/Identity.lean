import ClusterHealth.Proofs.Topology

/-!
# `ClusterHealth.Proofs.Identity` — one name for one node

Two texts give a node the same name just if they denote the same address: the same version, the same number
and the same scope. A text that denotes no address names nothing but itself.

## Contents
- `V4.toNat_injective`, `V6.toNat_injective`, `V4.exists_toNat`, `V6.exists_toNat`: addresses are the numbers
  of 32 and 128 bits.
- `Denotes`: what a text denotes.
- `Topology.nodeName_eq_iff`: when two values name the same node.
-/

namespace ClusterHealth

/-! ## Addresses as numbers -/

namespace Network

open Text

theorem V4.toNat_injective {a b : V4} (h : a.toNat = b.toNat) : a = b := by
  have hoctets : a.octets = b.octets :=
    ofDigits_injective (by decide) (a.length_eq.trans b.length_eq.symm) a.octet_lt b.octet_lt h
  cases a
  cases b
  cases hoctets
  rfl

theorem V6.toNat_injective {a b : V6} (h : a.toNat = b.toNat) : a = b := by
  have hgroups : a.groups = b.groups :=
    ofDigits_injective (by decide) (a.length_eq.trans b.length_eq.symm) a.group_lt b.group_lt h
  cases a
  cases b
  cases hgroups
  rfl

theorem V4.exists_toNat {n : Nat} (h : n < 2 ^ 32) : ∃ a : V4, a.toNat = n := by
  have hbytes : n < 256 ^ 4 := by omega
  obtain ⟨os, hlength, hos, hvalue⟩ := exists_ofDigits (by decide) hbytes
  exact ⟨⟨os, hlength, hos⟩, hvalue⟩

theorem V6.exists_toNat {n : Nat} (h : n < 2 ^ 128) : ∃ a : V6, a.toNat = n := by
  have hgroups : n < 65536 ^ 8 := by omega
  obtain ⟨gs, hlength, hgs, hvalue⟩ := exists_ofDigits (by decide) hgroups
  exact ⟨⟨gs, hlength, hgs⟩, hvalue⟩

/-- The version of an address. -/
def Address.version : Address → Nat
  | .v4 _ => 4
  | .v6 .. => 6

/-- The scope of an address, if it has one. -/
def Address.scope? : Address → Option String
  | .v4 _ => none
  | .v6 _ scope => scope

/-- An address is its version, its number and its scope. -/
theorem Address.eq_of_same {a b : Address} (hversion : a.version = b.version) (hnumber : a.toNat = b.toNat)
    (hscope : a.scope? = b.scope?) : a = b := by
  cases a with
  | v4 x =>
    cases b with
    | v4 y => exact congrArg _ (V4.toNat_injective hnumber)
    | v6 y scope => exact absurd (show (4 : Nat) = 6 from hversion) (by decide)
  | v6 x scope =>
    cases b with
    | v4 y => exact absurd (show (6 : Nat) = 4 from hversion) (by decide)
    | v6 y scope' =>
      have hsame : x = y := V6.toNat_injective hnumber
      have hscope : scope = scope' := hscope
      rw [hsame, hscope]

/-! ## What a text denotes -/

/-- A text denotes a number of a version, in a scope if it has one: it spells the address that has these. -/
def Denotes (s : String) (version number : Nat) (scope : Option String) : Prop :=
  ∃ a, Spells s.toList a ∧ a.version = version ∧ a.toNat = number ∧ a.scope? = scope

/-- A text that denotes an address. -/
def IsLiteral (s : String) : Prop :=
  ∃ version number scope, Denotes s version number scope

/-- A scope that can stand in a text. -/
def Admissible (scope : Option String) : Prop :=
  ∀ z ∈ scope, isScope z.toList = true ∧ '/' ∉ z.toList

theorem isLiteral_iff {s : String} : IsLiteral s ↔ ∃ a, Spells s.toList a := by
  constructor
  · rintro ⟨version, number, scope, a, ha, -⟩
    exact ⟨a, ha⟩
  · rintro ⟨a, ha⟩
    exact ⟨a.version, a.toNat, a.scope?, a, ha, rfl, rfl, rfl⟩

theorem not_isLiteral_iff {s : String} : ¬ IsLiteral s ↔ Address.parse? s = none := by
  simp only [isLiteral_iff, ← Address.parse?_eq_some]
  rw [← Option.isSome_iff_exists, Option.not_isSome_iff_eq_none]

/-- A text spells one address at most. -/
theorem Spells.unique {s : String} {a b : Address} (ha : Spells s.toList a) (hb : Spells s.toList b) :
    a = b :=
  Option.some.inj ((Address.parse?_eq_some.2 ha).symm.trans (Address.parse?_eq_some.2 hb))

/-- A text denotes one address at most. -/
theorem Denotes.unique {s : String} {version version' number number' : Nat} {scope scope' : Option String}
    (h : Denotes s version number scope) (h' : Denotes s version' number' scope') :
    version = version' ∧ number = number' ∧ scope = scope' := by
  obtain ⟨a, ha, rfl, rfl, rfl⟩ := h
  obtain ⟨b, hb, rfl, rfl, rfl⟩ := h'
  rw [ha.unique hb]
  exact ⟨rfl, rfl, rfl⟩

/-- Texts that denote the same spell the same address. -/
theorem Denotes.eq_of_spells {s t : String} {version number : Nat} {scope : Option String} {a b : Address}
    (hs : Denotes s version number scope) (ht : Denotes t version number scope) (ha : Spells s.toList a)
    (hb : Spells t.toList b) : a = b := by
  obtain ⟨a', ha', hversion, hnumber, hscope⟩ := hs
  obtain ⟨b', hb', hversion', hnumber', hscope'⟩ := ht
  rw [ha.unique ha', hb.unique hb']
  exact Address.eq_of_same (hversion.trans hversion'.symm) (hnumber.trans hnumber'.symm)
    (hscope.trans hscope'.symm)

/-- The canonical text of an address that is spelled somewhere spells it too. -/
theorem Spells.text {s : String} {a : Address} (h : Spells s.toList a) : Spells a.text.toList a :=
  Address.spells_text h.readable.1

/-- The canonical texts of different addresses differ. -/
theorem Spells.eq_of_text {s t : String} {a b : Address} (ha : Spells s.toList a) (hb : Spells t.toList b)
    (h : a.text = b.text) : a = b :=
  ha.text.unique (h ▸ hb.text)

/-- Every number of 32 bits is denoted by the canonical text of an address of version 4. -/
theorem exists_denotes_v4 {n : Nat} (h : n < 2 ^ 32) :
    ∃ a : V4, a.toNat = n ∧ Denotes (Address.v4 a).text 4 n none := by
  obtain ⟨a, rfl⟩ := V4.exists_toNat h
  exact ⟨a, rfl, .v4 a, Address.spells_text trivial, rfl, rfl, rfl⟩

/-- Every number of 128 bits is denoted, in every scope, by the canonical text of an address of version
6. -/
theorem exists_denotes_v6 {n : Nat} {scope : Option String} (h : n < 2 ^ 128) (hscope : Admissible scope) :
    ∃ a : V6, a.toNat = n ∧ Denotes (Address.v6 a scope).text 6 n scope := by
  obtain ⟨a, rfl⟩ := V6.exists_toNat h
  have hreadable : (Address.v6 a scope).Readable := by
    cases scope with
    | none => trivial
    | some z => exact hscope z rfl
  exact ⟨a, rfl, .v6 a scope, Address.spells_text hreadable, rfl, rfl, rfl⟩

end Network

namespace Topology

open Network Text

/-! ## Names of nodes -/

/-- What is stripped of a value's text, of which its name is made. -/
def spelling (v : Value) : String := strip v.display

theorem nodeName_of_spells {v : Value} {a : Address} (h : Spells (spelling v).toList a) :
    nodeName v = a.text := by
  have hparse := Address.parse?_eq_some.2 h
  unfold spelling at hparse
  unfold nodeName canonicalText
  simp only [hparse]

theorem nodeName_of_not_isLiteral {v : Value} (h : ¬ IsLiteral (spelling v)) : nodeName v = spelling v := by
  have hparse := not_isLiteral_iff.1 h
  unfold spelling at hparse
  unfold nodeName canonicalText
  simp only [hparse]
  rfl

/-- Texts that denote the same address, or denote none and are the same. -/
def SameNode (s t : String) : Prop :=
  (∃ version number scope, Denotes s version number scope ∧ Denotes t version number scope)
    ∨ (¬ IsLiteral s ∧ ¬ IsLiteral t ∧ s = t)

/-- **Two values name the same node** just if their texts, without blanks at the ends, denote the same
address, or denote none and are the same. -/
theorem nodeName_eq_iff (v w : Value) :
    nodeName v = nodeName w ↔ SameNode (spelling v) (spelling w) := by
  by_cases hv : IsLiteral (spelling v)
  · obtain ⟨a, ha⟩ := isLiteral_iff.1 hv
    rw [nodeName_of_spells ha]
    by_cases hw : IsLiteral (spelling w)
    · obtain ⟨b, hb⟩ := isLiteral_iff.1 hw
      rw [nodeName_of_spells hb]
      constructor
      · intro h
        obtain rfl := ha.eq_of_text hb h
        exact .inl ⟨a.version, a.toNat, a.scope?, ⟨a, ha, rfl, rfl, rfl⟩, ⟨a, hb, rfl, rfl, rfl⟩⟩
      · rintro (⟨version, number, scope, hdv, hdw⟩ | ⟨hnot, -⟩)
        · rw [hdv.eq_of_spells hdw ha hb]
        · exact absurd hv hnot
    · rw [nodeName_of_not_isLiteral hw]
      constructor
      · intro h
        -- The canonical text of an address is a literal, and this text is none.
        exact absurd (h ▸ isLiteral_iff.2 ⟨a, ha.text⟩) hw
      · rintro (⟨version, number, scope, -, hdw⟩ | ⟨hnot, -⟩)
        · exact absurd ⟨version, number, scope, hdw⟩ hw
        · exact absurd hv hnot
  · rw [nodeName_of_not_isLiteral hv]
    by_cases hw : IsLiteral (spelling w)
    · obtain ⟨b, hb⟩ := isLiteral_iff.1 hw
      rw [nodeName_of_spells hb]
      constructor
      · intro h
        exact absurd (h ▸ isLiteral_iff.2 ⟨b, hb.text⟩) hv
      · rintro (⟨version, number, scope, hdv, -⟩ | ⟨-, hnot, -⟩)
        · exact absurd ⟨version, number, scope, hdv⟩ hv
        · exact absurd hw hnot
    · rw [nodeName_of_not_isLiteral hw]
      constructor
      · exact fun h => .inr ⟨hv, hw, h⟩
      · rintro (⟨version, number, scope, hdv, -⟩ | ⟨-, -, h⟩)
        · exact absurd ⟨version, number, scope, hdv⟩ hv
        · exact h

/-- **Naming is a canonical form of node identity**: names agree just for the same node, naming a name
changes nothing, and from the canonical text of every number, in every scope, the number is read back. -/
theorem nodeName_canonical :
    (∀ v w : Value, nodeName v = nodeName w ↔ SameNode (spelling v) (spelling w))
    ∧ (∀ v : Value, nodeName (.text (nodeName v)) = nodeName v)
    ∧ (∀ n < 2 ^ 32, ∃ a : V4, a.toNat = n ∧ Denotes (Address.v4 a).text 4 n none)
    ∧ ∀ n < 2 ^ 128, ∀ scope, Admissible scope →
        ∃ a : V6, a.toNat = n ∧ Denotes (Address.v6 a scope).text 6 n scope :=
  ⟨nodeName_eq_iff, nodeName_nodeName, fun _ => exists_denotes_v4, fun _ h _ => exists_denotes_v6 h⟩

end Topology

end ClusterHealth
