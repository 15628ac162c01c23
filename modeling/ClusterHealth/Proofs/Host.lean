import ClusterHealth.Host
import Mathlib.Data.List.Basic

/-!
# `ClusterHealth.Proofs.Host` — where the temporary files of a command go

They go to the first candidate that can be used, and a command that starts has found one. Which candidates there
are depends on the working directory and on three variables; whatever else is in the environment, it makes no
difference.

## Contents
- `FirstUsable`: the first candidate that can be used.
- `owner?_eq_some`, `owner?_eq_none`: the directory that is found, and that there is none.
- `owner?_congr`: the same directory in another environment.
-/

namespace ClusterHealth.Host

variable {host : Host} {fs : FileSystem} {environment environment' : List (String × String)}
  {owner : Settings.Owner}

/-- A directory can be used for temporary files, and none of those that are tried before it. -/
def FirstUsable (host : Host) (fs : FileSystem) (environment : List (String × String)) (directory : Path) : Prop :=
  ∃ before after, candidates fs.working environment = before ++ directory :: after
    ∧ host.usable fs directory = true ∧ ∀ other ∈ before, host.usable fs other = false

theorem owner?_eq_some : host.owner? fs environment = some owner
    ↔ owner.user = host.user ∧ host.FirstUsable fs environment owner.temporary := by
  unfold owner? FirstUsable
  simp only [Option.map_eq_some_iff, List.find?_eq_some_iff_append, Bool.not_eq_true']
  constructor
  · rintro ⟨directory, ⟨husable, before, after, hsplit, hfirst⟩, rfl⟩
    exact ⟨rfl, before, after, hsplit, husable, hfirst⟩
  · rintro ⟨huser, before, after, hsplit, husable, hfirst⟩
    exact ⟨owner.temporary, ⟨husable, before, after, hsplit, hfirst⟩, by rw [← huser]⟩

theorem owner?_eq_none : host.owner? fs environment = none
    ↔ ∀ directory ∈ candidates fs.working environment, host.usable fs directory = false := by
  unfold owner?
  simp only [Option.map_eq_none_iff, List.find?_eq_none, Bool.not_eq_true]

/-- **Only three variables count** for where temporary files go. -/
theorem owner?_congr
    (h : ∀ name ∈ temporaryVariables, inEnvironment? environment' name = inEnvironment? environment name) :
    host.owner? fs environment' = host.owner? fs environment := by
  have hnamed : temporaryVariables.filterMap (inEnvironment? environment')
      = temporaryVariables.filterMap (inEnvironment? environment) := List.filterMap_congr h
  unfold owner? candidates
  rw [hnamed]

end ClusterHealth.Host
