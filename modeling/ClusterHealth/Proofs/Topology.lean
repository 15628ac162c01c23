import ClusterHealth.Proofs.Address
import ClusterHealth.Topology
import Mathlib.Data.List.Dedup
import Mathlib.Data.List.Perm.Lattice

/-!
# `ClusterHealth.Proofs.Topology` — names of nodes

A node goes by the canonical text of its address, and naming it again changes nothing. So the names that a
client gives to the hosts are the names of the snapshot, and a snapshot has as many nodes as there are
distinct names.

## Contents
- `NodeSet.ext_mem`, `NodeSet.size_ofList`: sets are known by their members.
- `canonicalText_canonicalText`, `nodeNames_nodeNames`: naming is idempotent.
-/

namespace ClusterHealth

namespace Network.NodeSet

/-- A set has as many members as there are distinct texts in a list of them. -/
theorem size_ofList (xs : List String) : (ofList xs).size = xs.dedup.length := by
  have hnodup : (ofList xs).toList.Nodup := (ofList xs).increasing.imp fun h => String.ne_of_lt h
  have hperm : (ofList xs).toList.Perm xs.dedup := by
    refine (List.perm_ext_iff_of_nodup hnodup xs.nodup_dedup).2 ?_
    intro x
    rw [List.mem_dedup]
    exact mem_ofList
  exact hperm.length_eq

/-- Sets are determined by their members. -/
theorem ext_mem {s t : NodeSet} (h : ∀ x, x ∈ s ↔ x ∈ t) : s = t := by
  have hlist : s.toList = t.toList := by
    have hs : s.toList.Nodup := s.increasing.imp fun h => String.ne_of_lt h
    have ht : t.toList.Nodup := t.increasing.imp fun h => String.ne_of_lt h
    have hperm : s.toList.Perm t.toList := (List.perm_ext_iff_of_nodup hs ht).2 h
    exact hperm.eq_of_pairwise (fun a b _ _ hab hba => absurd hba (String.lt_asymm hab)) s.increasing
      t.increasing
  cases s
  cases t
  cases hlist
  rfl

end Network.NodeSet

namespace Topology

open Network Text

/-! ## Canonical texts -/

theorem strip_strip (s : String) : strip (strip s) = strip s := by
  unfold strip
  rw [String.toList_ofList, trim_trim]

/-- The text of an address that was read has no blanks at its ends. -/
theorem strip_text {s : String} {a : Address} (h : Spells (strip s).toList a) : strip a.text = a.text := by
  have hall : ∀ cs : List Char, (∀ c ∈ cs, isBlank c = false) → strip (String.ofList cs) = String.ofList cs := by
    intro cs hcs
    unfold strip
    rw [String.toList_ofList, trim_eq_self]
    · exact fun c hc => hcs c (List.mem_of_mem_head? hc)
    · exact fun c hc => hcs c (List.mem_of_getLast? hc)
  obtain ⟨hreadable, hend⟩ := h.readable
  match a, hreadable, hend with
  | .v4 a, _, _ => exact hall _ fun _ hc => (V4.isAddressChar hc).plain.2.2
  | .v6 a none, _, _ => exact hall _ fun _ hc => (a.spells_chars.isAddressChar hc).plain.2.2
  | .v6 a (some scope), hreadable, hend =>
    -- the scope ends as the text did that was read, which was stripped
    obtain ⟨digits, hdigits⟩ := hend a scope rfl
    have hscope : scope.toList ≠ [] := by
      intro hnil
      have := hreadable.1
      rw [hnil] at this
      exact absurd this (by decide)
    unfold Address.text strip
    rw [String.toList_ofList, trim_eq_self]
    · intro c hc
      rw [List.head?_append_of_ne_nil _ (List.ne_nil_of_mem a.spells_chars.colon_mem)] at hc
      exact (a.spells_chars.isAddressChar (List.mem_of_mem_head? hc)).plain.2.2
    · intro c hc
      have hstripped : (strip s).toList = trim isBlank s.toList := String.toList_ofList
      have hlast : c ∈ (trim isBlank s.toList).getLast? := by
        rw [← hstripped, hdigits]
        rw [List.getLast?_append_of_ne_nil _ (by simp), List.getLast?_cons_of_ne_nil hscope] at hc ⊢
        exact hc
      exact getLast?_trim hlast

/-- **A canonical text is its own canonical text.** -/
theorem canonicalText_canonicalText (s : String) : canonicalText (canonicalText s) = canonicalText s := by
  unfold canonicalText
  simp only
  cases hp : Address.parse? (strip s) with
  | none =>
    simp only [strip_strip, hp]
  | some a =>
    have hspells := Address.parse?_eq_some.1 hp
    simp only [strip_text hspells, Address.parse?_text hspells.readable.1]

theorem nodeName_nodeName (v : Value) : nodeName (.text (nodeName v)) = nodeName v :=
  canonicalText_canonicalText v.display

theorem mem_nodeNames {name : String} {hosts : List Value} :
    name ∈ nodeNames hosts ↔ ∃ v ∈ hosts, nodeName v = name := by
  unfold nodeNames
  rw [NodeSet.mem_ofList, List.mem_map]

/-- The names of nodes that go by their names already. -/
theorem nodeNames_nodeNames (hosts : List Value) :
    nodeNames ((nodeNames hosts).toList.map .text) = nodeNames hosts := by
  apply NodeSet.ext_mem
  intro name
  rw [mem_nodeNames, mem_nodeNames]
  constructor
  · rintro ⟨v, hv, rfl⟩
    obtain ⟨n, hn, rfl⟩ := List.mem_map.1 hv
    obtain ⟨host, hhost, rfl⟩ := mem_nodeNames.1 hn
    exact ⟨host, hhost, (nodeName_nodeName host).symm⟩
  · rintro ⟨host, hhost, rfl⟩
    refine ⟨.text (nodeName host), List.mem_map.2 ⟨nodeName host, ?_, rfl⟩, nodeName_nodeName host⟩
    exact mem_nodeNames.2 ⟨host, hhost, rfl⟩

end Topology

end ClusterHealth
