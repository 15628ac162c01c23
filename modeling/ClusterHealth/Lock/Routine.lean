import ClusterHealth.FileSystem.Open

/-!
# `ClusterHealth.Lock.Routine` — work that is done in several calls to the system

A routine goes through stages. Each stage is one call: it looks at the file system, may change it, and
either goes on to another stage or ends. Between two calls others may act, so a routine can be run alone,
with others at work (`Routine.run`), or stage by stage among other routines.
-/

namespace ClusterHealth.Lock

/-- What one call leads to: another stage, or the end. -/
abbrev Progress (σ α : Type) := σ ⊕ Except Failure α

/-- A routine with stages `σ` that ends with an `α` or fails. -/
structure Routine (σ α : Type) where
  step : σ → FileSystem → Progress σ α × FileSystem
  /-- How many stages may still follow. -/
  remaining : σ → Nat
  /-- Every stage brings the end closer. -/
  closer : ∀ {s fs s' fs'}, step s fs = (.inl s', fs') → remaining s' < remaining s

/-- What others do to the file system before a stage. -/
abbrev Others (σ : Type) := σ → FileSystem → FileSystem

/-- Nobody else touches the file system. -/
def alone {σ : Type} : Others σ := fun _ fs => fs

namespace Routine

variable {σ α : Type}

/-- A routine run from a stage to its end. -/
def run (r : Routine σ α) (others : Others σ) (s : σ) (fs : FileSystem) : Except Failure α × FileSystem :=
  match _h : r.step s (others s fs) with
  | (.inr result, fs) => (result, fs)
  | (.inl next, fs) => r.run others next fs
termination_by r.remaining s
decreasing_by exact r.closer _h

theorem run_of_end {r : Routine σ α} {others : Others σ} {s : σ} {fs fs' : FileSystem}
    {result : Except Failure α} (h : r.step s (others s fs) = (.inr result, fs')) :
    r.run others s fs = (result, fs') := by
  rw [run]; split <;> simp_all

theorem run_of_next {r : Routine σ α} {others : Others σ} {s s' : σ} {fs fs' : FileSystem}
    (h : r.step s (others s fs) = (.inl s', fs')) :
    r.run others s fs = r.run others s' fs' := by
  rw [run]; split <;> simp_all

end Routine

end ClusterHealth.Lock
