/-!
# `ClusterHealth.Network.NodeSet` — finite sets of node names

A set of texts, kept as its members in increasing order of code points, so that equal sets are equal
values and printing a set prints it sorted.
-/

namespace ClusterHealth.Network

/-- A finite set of texts. -/
structure NodeSet where
  /-- The members, in increasing order. -/
  toList : List String
  increasing : toList.Pairwise (· < ·)
  deriving DecidableEq

namespace NodeSet

/-- A member put into its place among others. -/
def insertInto (x : String) : List String → List String
  | [] => [x]
  | y :: rest =>
    if x < y then x :: y :: rest
    else if x = y then y :: rest
    else y :: insertInto x rest

theorem mem_insertInto {x z : String} {xs : List String} : z ∈ insertInto x xs ↔ z = x ∨ z ∈ xs := by
  induction xs with
  | nil => simp [insertInto]
  | cons y rest ih =>
    simp only [insertInto]
    split
    · simp
    · split
      · next h => subst h; simp
      · simp only [List.mem_cons, ih]
        constructor
        · rintro (h | h | h)
          · exact .inr (.inl h)
          · exact .inl h
          · exact .inr (.inr h)
        · rintro (h | h | h)
          · exact .inr (.inl h)
          · exact .inl h
          · exact .inr (.inr h)

theorem increasing_insertInto {x : String} {xs : List String} (h : xs.Pairwise (· < ·)) :
    (insertInto x xs).Pairwise (· < ·) := by
  induction xs with
  | nil => simp [insertInto]
  | cons y rest ih =>
    have hy : ∀ z ∈ rest, y < z := (List.pairwise_cons.1 h).1
    have hr := (List.pairwise_cons.1 h).2
    simp only [insertInto]
    split
    · next hxy =>
      refine List.pairwise_cons.2 ⟨?_, h⟩
      intro z hz
      rcases List.mem_cons.1 hz with rfl | hz
      · exact hxy
      · exact String.lt_trans hxy (hy z hz)
    · split
      · exact h
      · next hxy hne =>
        refine List.pairwise_cons.2 ⟨?_, ih hr⟩
        intro z hz
        rcases mem_insertInto.1 hz with rfl | hz
        · exact Std.lt_of_le_of_ne (String.not_lt.1 hxy) (fun h => hne h.symm)
        · exact hy z hz

/-- No members. -/
def empty : NodeSet := ⟨[], .nil⟩

/-- One more member. -/
def insert (x : String) (s : NodeSet) : NodeSet :=
  ⟨insertInto x s.toList, increasing_insertInto s.increasing⟩

/-- The set of the texts in a list. -/
def ofList (xs : List String) : NodeSet :=
  xs.foldr insert empty

instance : Membership String NodeSet := ⟨fun s x => x ∈ s.toList⟩

instance (x : String) (s : NodeSet) : Decidable (x ∈ s) :=
  inferInstanceAs (Decidable (x ∈ s.toList))

/-- The number of members. -/
def size (s : NodeSet) : Nat := s.toList.length

/-- The members that another set lacks. -/
def diff (s t : NodeSet) : NodeSet :=
  ⟨s.toList.filter fun x => !t.toList.contains x, s.increasing.filter _⟩

theorem mem_insert {x z : String} {s : NodeSet} : z ∈ s.insert x ↔ z = x ∨ z ∈ s :=
  mem_insertInto

theorem mem_ofList {z : String} {xs : List String} : z ∈ ofList xs ↔ z ∈ xs := by
  induction xs with
  | nil => simp [ofList, empty, Membership.mem]
  | cons x rest ih =>
    show z ∈ insert x (ofList rest) ↔ _
    rw [mem_insert, ih, List.mem_cons]

theorem mem_diff {z : String} {s t : NodeSet} : z ∈ s.diff t ↔ z ∈ s ∧ z ∉ t := by
  show z ∈ s.toList.filter _ ↔ z ∈ s.toList ∧ z ∉ t.toList
  simp

end NodeSet

end ClusterHealth.Network
