import ClusterHealth.Store
import Mathlib.Order.Defs.Unbundled

/-!
# `ClusterHealth.Proofs.Action` — how actions are taken apart

An `Action` is a function from a state to a result and a state. The first half of this module says what
each way to combine actions does in a given state; the second half is about what an action can do to the
state at all, whatever its result is.

## Contents
- `bind_of_ok`, `bind_of_error`, `bind_eq_ok`: one action after another.
- `Moves R`: every state goes to one that is related to it by `R`; it is passed on by every combinator.
-/

namespace ClusterHealth.Action

variable {σ α β : Type}

/-! ## One action after another -/

section Bind

variable {x : Action σ α} {f : α → Action σ β} {s s' : σ}

theorem bind_of_ok {a : α} (h : x s = (.ok a, s')) : (x >>= f) s = f a s' := by
  show ExceptT.bindCont f (x s).1 (x s).2 = f a s'
  rw [h]
  rfl

theorem bind_of_error {e : Failure} (h : x s = (.error e, s')) : (x >>= f) s = (.error e, s') := by
  show ExceptT.bindCont f (x s).1 (x s).2 = (.error e, s')
  rw [h]
  rfl

/-- If two actions in a row end well, so does the first. -/
theorem bind_eq_ok {b : β} (h : (x >>= f) s = (.ok b, s')) :
    ∃ a s₁, x s = (.ok a, s₁) ∧ f a s₁ = (.ok b, s') := by
  rcases hx : x s with ⟨e | a, s₁⟩
  · rw [bind_of_error hx] at h
    exact absurd (congrArg Prod.fst h) (by simp)
  · rw [bind_of_ok hx] at h
    exact ⟨a, s₁, rfl, h⟩

end Bind

/-- A step that cannot fail, before another. -/
theorem step_bind_apply (x : StateM σ α) (f : α → StateM σ β) (s : σ) :
    (x >>= f) s = f (x s).1 (x s).2 := rfl

/-- A step that cannot fail, before an action. -/
theorem lift_bind_apply (x : StateM σ α) (f : α → Action σ β) (s : σ) :
    ((liftM x : Action σ α) >>= f) s = f (x s).1 (x s).2 := rfl

theorem outcome_apply (x : Action σ α) (s : σ) : x.outcome s = (.ok (x s).1, (x s).2) := rfl

theorem wrappingTransport_of_ok {x : Action σ α} {s s' : σ} {a : α} (h : x s = (.ok a, s')) :
    x.wrappingTransport s = (.ok a, s') := by
  unfold wrappingTransport
  rw [bind_of_ok (outcome_apply x s), h]
  rfl

theorem wrappingTransport_of_error {x : Action σ α} {s s' : σ} {e : Failure}
    (h : x s = (.error e, s')) : x.wrappingTransport s = (.error e.wrapTransport, s') := by
  unfold wrappingTransport
  rw [bind_of_ok (outcome_apply x s), h]
  rfl

/-! ## What an action can do to the state -/

/-- Every state goes to one that is related to it. -/
def Moves (R : σ → σ → Prop) (x : StateM σ α) : Prop :=
  ∀ s, R s (x s).2

namespace Moves

variable {R : σ → σ → Prop}

theorem mono {Q : σ → σ → Prop} {x : StateM σ α} (h : ∀ s s', R s s' → Q s s') (hx : Moves R x) :
    Moves Q x :=
  fun s => h _ _ (hx s)

/-- What is related to a state by an action that is known to end in it. -/
theorem of_eq {x : StateM σ α} {s s' : σ} {a : α} (hx : Moves R x) (h : x s = (a, s')) : R s s' := by
  have hs := hx s
  rw [h] at hs
  exact hs

theorem lift {x : StateM σ α} (hx : Moves R x) : Moves R (ExceptT.lift x : Action σ α) :=
  fun s => hx s

theorem outcome {x : Action σ α} (hx : Moves R x) : Moves R x.outcome :=
  fun s => hx s

theorem wrappingTransport {x : Action σ α} (hx : Moves R x) : Moves R x.wrappingTransport := by
  intro s
  rcases h : x s with ⟨e | a, s₁⟩
  · rw [wrappingTransport_of_error h]
    exact hx.of_eq h
  · rw [wrappingTransport_of_ok h]
    exact hx.of_eq h

theorem bind [IsTrans σ R] {x : StateM σ α} {f : α → StateM σ β} (hx : Moves R x)
    (hf : ∀ a, Moves R (f a)) : Moves R (x >>= f) :=
  fun s => trans_of R (hx s) (hf _ _)

/-- An action after another one, which may not be begun. -/
theorem andThen [IsTrans σ R] {x : Action σ α} {f : α → Action σ β} (hx : Moves R x)
    (hf : ∀ a, Moves R (f a)) : Moves R (x >>= f : Action σ β) := by
  intro s
  rcases h : x s with ⟨e | a, s₁⟩
  · rw [bind_of_error h]
    exact hx.of_eq h
  · rw [bind_of_ok h]
    exact trans_of R (hx.of_eq h) (hf a s₁)

theorem pure [Std.Refl R] (a : α) : Moves R (Pure.pure a : StateM σ α) :=
  fun s => refl s

theorem throw [Std.Refl R] (e : Failure) : Moves R (MonadExcept.throw e : Action σ α) :=
  fun s => refl s

/-- Steps that cannot fail, one after the other. -/
theorem forM [Std.Refl R] [IsTrans σ R] {f : α → StateM σ PUnit} (hf : ∀ a, Moves R (f a))
    (xs : List α) : Moves R (xs.forM f) := by
  induction xs with
  | nil => exact Moves.pure _
  | cons a xs ih => exact Moves.bind (hf a) fun _ => ih

/-- Actions one after the other, up to the first that fails. -/
theorem forEach [Std.Refl R] [IsTrans σ R] {f : α → Action σ PUnit} (hf : ∀ a, Moves R (f a))
    (xs : List α) : Moves R (xs.forM f : Action σ PUnit) := by
  induction xs with
  | nil => exact fun s => refl s
  | cons a xs ih => exact Moves.andThen (hf a) fun _ => ih

end Moves

end ClusterHealth.Action
