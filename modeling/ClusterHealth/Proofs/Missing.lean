import ClusterHealth.Proofs.Identity
import ClusterHealth.Trace
import Mathlib.Data.List.TakeWhile

/-!
# `ClusterHealth.Proofs.Missing` — the nodes that left no event

A node is missing if it is a node of the snapshot and no event comes from it. In whichever order hosts and
events are told, how often, and in which notation, makes no difference: only the nodes count.

## Contents
- `spelling_padded`, `sameNode_spellings`, `sameNode_address`: the notations of one address.
- `SameNodes`, `Rearranged`, `Rearranged.sameNodes`: values that name the same nodes.
- `Representatives`: hosts of which each node has one; there are as many as the snapshot has nodes.
- `mem_missingNodes?`: which nodes are missing.
-/

namespace ClusterHealth

open ClusterHealth.Text ClusterHealth.Network

theorem Text.trim_padded {p : Char → Bool} {before cs after : List Char} (hbefore : ∀ c ∈ before, p c = true)
    (hafter : ∀ c ∈ after, p c = true) : trim p (before ++ cs ++ after) = trim p cs := by
  have hnone : after.dropWhile p = [] := by
    rw [List.dropWhile_eq_nil_iff]
    exact hafter
  unfold trim
  rw [List.append_assoc, List.dropWhile_append_of_pos hbefore, List.dropWhile_append]
  cases hcs : cs.dropWhile p with
  | nil => rw [List.isEmpty_nil, if_pos rfl, hnone]
  | cons c rest =>
    rw [List.isEmpty_cons, if_neg Bool.false_ne_true, List.reverse_append, List.dropWhile_append_of_pos]
    exact fun c hc => hafter c (List.mem_reverse.1 hc)

namespace Topology

variable {v w : Value} {xs ys zs hosts distinct : List Value} {name : String}

/-! ## One address, many notations -/

/-- White space around a text does not show. -/
theorem spelling_padded {before s after : String} (hbefore : ∀ c ∈ before.toList, isBlank c = true)
    (hafter : ∀ c ∈ after.toList, isBlank c = true) :
    spelling (.text (before ++ s ++ after)) = spelling (.text s) := by
  unfold spelling Value.display strip
  rw [String.toList_append, String.toList_append, trim_padded hbefore hafter]

theorem sameNode_of_nodeName (h : nodeName v = nodeName w) : SameNode (spelling v) (spelling w) :=
  (nodeName_eq_iff v w).1 h

/-- All notations of an address denote the same node. -/
theorem sameNode_spellings {s t : String} {a : Address} (hs : Spells s.toList a) (ht : Spells t.toList a) :
    SameNode s t :=
  .inl ⟨a.version, a.toNat, a.scope?, ⟨a, hs, rfl, rfl, rfl⟩, ⟨a, ht, rfl, rfl, rfl⟩⟩

/-- An address denotes the node that any text for it denotes. -/
theorem sameNode_address {s : String} {a : Address} (h : Spells (spelling (.text s)).toList a) :
    SameNode (spelling (.text s)) (spelling (.address a)) := by
  refine sameNode_spellings h ?_
  have hstripped : spelling (.address a) = a.text := strip_text h
  rw [hstripped]
  exact h.text

/-! ## Values that name the same nodes -/

/-- Values that name the same nodes. -/
def SameNodes (xs ys : List Value) : Prop := nodeNames xs = nodeNames ys

/-- Values in another order, some of them repeated or not repeated any more, and some in another notation. -/
inductive Rearranged : List Value → List Value → Prop
  | permuted {xs ys : List Value} (h : xs.Perm ys) : Rearranged xs ys
  | repeated {x : Value} {xs : List Value} (h : x ∈ xs) : Rearranged xs (x :: xs)
  | respelled (before after : List Value) {x y : Value} (h : SameNode (spelling x) (spelling y)) :
    Rearranged (before ++ x :: after) (before ++ y :: after)
  | symm {xs ys : List Value} (h : Rearranged xs ys) : Rearranged ys xs
  | trans {xs ys zs : List Value} (h : Rearranged xs ys) (h' : Rearranged ys zs) : Rearranged xs zs

theorem Rearranged.named_iff (h : Rearranged xs ys) :
    (∃ v ∈ xs, nodeName v = name) ↔ ∃ v ∈ ys, nodeName v = name := by
  induction h with
  | permuted h => simp only [h.mem_iff]
  | repeated h =>
    simp only [List.mem_cons]
    constructor
    · rintro ⟨v, hv, hname⟩
      exact ⟨v, .inr hv, hname⟩
    · rintro ⟨v, rfl | hv, hname⟩
      · exact ⟨v, h, hname⟩
      · exact ⟨v, hv, hname⟩
  | @respelled before after x y h =>
    have hxy : nodeName x = nodeName y := (nodeName_eq_iff x y).2 h
    simp only [List.mem_append, List.mem_cons, or_and_right, exists_or, exists_eq_left, hxy]
  | symm _ ih => exact ih.symm
  | trans _ _ ih ih' => exact ih.trans ih'

/-- **Values that were rearranged name the same nodes.** -/
theorem Rearranged.sameNodes (h : Rearranged xs ys) : SameNodes xs ys :=
  NodeSet.ext_mem fun _ => by rw [mem_nodeNames, mem_nodeNames, h.named_iff]

/-! ## The number of nodes -/

/-- Hosts of which each node has one. -/
structure Representatives (hosts distinct : List Value) : Prop where
  subset : ∀ v ∈ distinct, v ∈ hosts
  apart : distinct.Pairwise fun v w => ¬ SameNode (spelling v) (spelling w)
  covers : ∀ v ∈ hosts, ∃ w ∈ distinct, SameNode (spelling v) (spelling w)

theorem exists_representatives (hosts : List Value) : ∃ distinct, Representatives hosts distinct := by
  induction hosts with
  | nil => exact ⟨[], nofun, .nil, nofun⟩
  | cons v rest ih =>
    obtain ⟨distinct, h⟩ := ih
    -- The first host is taken if no host that was taken is the same node.
    by_cases hv : ∃ w ∈ distinct, SameNode (spelling v) (spelling w)
    · refine ⟨distinct, fun w hw => List.mem_cons_of_mem _ (h.subset w hw), h.apart, fun w hw => ?_⟩
      rcases List.mem_cons.1 hw with rfl | hw
      · exact hv
      · exact h.covers w hw
    · refine ⟨v :: distinct, fun w hw => ?_, ?_, fun w hw => ?_⟩
      · exact (List.mem_cons.1 hw).elim (fun he => he ▸ List.mem_cons_self)
          fun hw => List.mem_cons_of_mem _ (h.subset w hw)
      · exact List.pairwise_cons.2 ⟨fun w hw hsame => hv ⟨w, hw, hsame⟩, h.apart⟩
      · rcases List.mem_cons.1 hw with rfl | hw
        · exact ⟨w, List.mem_cons_self, sameNode_of_nodeName rfl⟩
        · obtain ⟨u, hu, hsame⟩ := h.covers w hw
          exact ⟨u, List.mem_cons_of_mem _ hu, hsame⟩

/-- **There are as many nodes as hosts that are not the same node.** -/
theorem Representatives.length_eq (h : Representatives hosts distinct) :
    (nodeNames hosts).size = distinct.length := by
  have hnodup : (distinct.map nodeName).Nodup := by
    refine List.pairwise_map.2 (h.apart.imp fun hne heq => hne (sameNode_of_nodeName heq))
  have hsame : nodeNames hosts = .ofList (distinct.map nodeName) := by
    refine NodeSet.ext_mem fun name => ?_
    rw [mem_nodeNames, NodeSet.mem_ofList, List.mem_map]
    constructor
    · rintro ⟨v, hv, rfl⟩
      obtain ⟨w, hw, hvw⟩ := h.covers v hv
      exact ⟨w, hw, ((nodeName_eq_iff v w).2 hvw).symm⟩
    · rintro ⟨w, hw, rfl⟩
      exact ⟨w, h.subset w hw, rfl⟩
  rw [hsame, NodeSet.size_ofList, hnodup.dedup, List.length_map]

end Topology

/-! ## Nodes without events -/

namespace Trace

open ClusterHealth.Topology

/-- Events that come from the same nodes. -/
def SameNodes (events events' : List Event) : Prop :=
  Topology.SameNodes (events.map (·.source)) (events'.map (·.source))

variable {trace more : List Event} {snapshot : Snapshot} {missing : NodeSet} {name : String} {hosts : List Value}

theorem missingNodes?_some (trace : List Event) (snapshot : Snapshot) : missingNodes? (some trace) snapshot
    = some (snapshot.nodes.diff (nodeNames (trace.map (·.source)))) := by
  unfold missingNodes? nodeNames Event.node
  rw [List.map_map, Option.map_some, Function.comp_def]

/-- Events from the same nodes leave the same nodes missing. -/
theorem missingNodes?_sameNodes {events events' : Option (List Event)} (h : Option.Rel SameNodes events events')
    (snapshot : Snapshot) : missingNodes? events snapshot = missingNodes? events' snapshot := by
  cases h with
  | none => rfl
  | some hsame => rw [missingNodes?_some, missingNodes?_some, hsame]

/-- **The nodes that are missing** are those of which no event comes. -/
theorem mem_missingNodes? (h : missingNodes? (some trace) snapshot = some missing)
    (hsnapshot : snapshot.nodes = nodeNames hosts) : name ∈ missing ↔
      ∃ v ∈ hosts, nodeName v = name ∧ ∀ e ∈ trace, ¬ SameNode (spelling v) (spelling e.source) := by
  rw [missingNodes?_some, hsnapshot] at h
  rw [← Option.some.inj h, NodeSet.mem_diff, mem_nodeNames, mem_nodeNames]
  constructor
  · rintro ⟨⟨v, hv, rfl⟩, hnone⟩
    refine ⟨v, hv, rfl, fun e he hsame => hnone ⟨e.source, List.mem_map_of_mem he, ?_⟩⟩
    exact ((nodeName_eq_iff v e.source).2 hsame).symm
  · rintro ⟨v, hv, rfl, hnone⟩
    refine ⟨⟨v, hv, rfl⟩, ?_⟩
    rintro ⟨w, hw, hname⟩
    obtain ⟨e, he, rfl⟩ := List.mem_map.1 hw
    exact hnone e he (sameNode_of_nodeName hname.symm)

/-- Events from elsewhere make no difference. -/
theorem missingNodes?_outside {before after : List Event} {e : Event} (hsnapshot : snapshot.nodes = nodeNames hosts)
    (he : ∀ v ∈ hosts, ¬ SameNode (spelling v) (spelling e.source)) :
    missingNodes? (some (before ++ e :: after)) snapshot = missingNodes? (some (before ++ after)) snapshot := by
  rw [missingNodes?_some, missingNodes?_some]
  refine congrArg some (NodeSet.ext_mem fun name => ?_)
  rw [NodeSet.mem_diff, NodeSet.mem_diff, hsnapshot, mem_nodeNames, mem_nodeNames, mem_nodeNames]
  refine and_congr_right ?_
  rintro ⟨v, hv, rfl⟩
  have helse : nodeName e.source ≠ nodeName v := fun hname => he v hv (sameNode_of_nodeName hname.symm)
  simp only [List.map_append, List.map_cons, List.mem_append, List.mem_cons, or_and_right, exists_or,
    exists_eq_left, helse, false_or]

/-- More events can only leave fewer nodes missing. -/
theorem missingNodes?_anti {missing' : NodeSet} (h : missingNodes? (some trace) snapshot = some missing)
    (h' : missingNodes? (some more) snapshot = some missing') (hmore : ∀ e ∈ trace, e ∈ more) (name : String)
    (hname : name ∈ missing') : name ∈ missing := by
  rw [missingNodes?_some] at h h'
  rw [← Option.some.inj h', NodeSet.mem_diff] at hname
  rw [← Option.some.inj h, NodeSet.mem_diff]
  refine ⟨hname.1, fun hnamed => hname.2 ?_⟩
  obtain ⟨v, hv, rfl⟩ := mem_nodeNames.1 hnamed
  obtain ⟨e, he, rfl⟩ := List.mem_map.1 hv
  exact mem_nodeNames.2 ⟨e.source, List.mem_map_of_mem (hmore e he), rfl⟩

end Trace

end ClusterHealth
