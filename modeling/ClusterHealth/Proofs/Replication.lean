import ClusterHealth.Replication

/-!
# `ClusterHealth.Proofs.Replication` — which metadata are valid

The metadata of a keyspace come from outside and may be anything. They are valid if the option that tells
the strategy is text and the one that tells the number of copies is an integer from one on; what else they
hold does not matter.

## Contents
- `atLeast_eq_error`, `required_eq_error`: how a bounded integer, and an option that must be there, fail.
- `Malformed`: what makes metadata invalid, one case for each rule.
- `malformed_iff`: these are just the metadata that are refused.
- `factor_pos`: the number of copies in valid metadata.
-/

namespace ClusterHealth

open ClusterHealth.Validation

namespace Validation

variable {α : Type}

theorem atLeast_eq_error {least : Nat} {rule : Rule Int} {v : Value} :
    (∃ fault, atLeast least rule v = .error fault)
      ↔ (∃ fault, rule v = .error fault) ∨ ∃ n, rule v = .ok n ∧ n < least := by
  unfold atLeast Rule.such
  cases hv : rule v with
  | error fault => exact ⟨fun _ => .inl ⟨fault, rfl⟩, fun _ => ⟨fault, rfl⟩⟩
  | ok n =>
    by_cases hn : (least : Int) ≤ n
    · simp [bind, Except.bind, hn, pure, Except.pure]
    · simpa [bind, Except.bind, hn, throw, throwThe, MonadExceptOf.throw] using Int.not_le.1 hn

theorem atLeast_eq_ok {least : Nat} {rule : Rule Int} {v : Value} {n : Int}
    (h : atLeast least rule v = .ok n) : rule v = .ok n ∧ (least : Int) ≤ n := by
  unfold atLeast Rule.such at h
  cases hv : rule v with
  | error fault =>
    rw [hv] at h
    exact nomatch h
  | ok k =>
    rw [hv] at h
    by_cases hk : (least : Int) ≤ k
    · simp [bind, Except.bind, hk, pure, Except.pure] at h
      exact ⟨congrArg Except.ok h, h ▸ hk⟩
    · simp [bind, Except.bind, hk, throw, throwThe, MonadExceptOf.throw] at h

/-- A record lacks a part if it lacked one before, or lacks this one. -/
theorem Checked.withPart_eq_error {β : Type} {record : Checked (α → β)} {a : Checked α} :
    (∃ issues, Checked.withPart record a = .error issues)
      ↔ (∃ issues, record = .error issues) ∨ ∃ issues, a = .error issues := by
  cases record <;> cases a <;> simp [Checked.withPart]

end Validation

namespace Replication

variable {α : Type} {options : Options} {rule : Rule α} {name : String}

/-- An option that must be there is not there, or its value breaks the rule. -/
theorem required_eq_error : (∃ issues, required rule name options = .error issues)
    ↔ Pairs.get? name options = none
      ∨ ∃ v, Pairs.get? name options = some v ∧ ∃ fault, rule v = .error fault := by
  unfold required
  cases hv : Pairs.get? name options with
  | none => exact ⟨fun _ => .inl rfl, fun _ => ⟨_, rfl⟩⟩
  | some v =>
    cases hr : rule v with
    | error fault => simp [Checked.part, hr]
    | ok a => simp [Checked.part, hr]

theorem required_eq_ok {a : α} (h : required rule name options = .ok a) :
    ∃ v, Pairs.get? name options = some v ∧ rule v = .ok a := by
  unfold required at h
  cases hv : Pairs.get? name options with
  | none =>
    rw [hv] at h
    exact nomatch h
  | some v =>
    rw [hv] at h
    cases hr : rule v with
    | error fault =>
      simp only [hr] at h
      exact nomatch h
    | ok b =>
      simp only [hr] at h
      exact ⟨v, rfl, by rw [hr, Except.ok.inj h]⟩

/-- What makes metadata invalid. -/
inductive Malformed (options : Options) : Prop
  | factorMissing (h : Pairs.get? factorName options = none)
  /-- The number of copies is not an integer, or is one of more digits than are read. -/
  | factorUnread {v : Value} {fault : Fault} (h : Pairs.get? factorName options = some v)
      (hv : integer v = .error fault)
  | factorBelow {v : Value} {factor : Int} (h : Pairs.get? factorName options = some v)
      (hv : integer v = .ok factor) (hb : factor < 1)
  | strategyMissing (h : Pairs.get? (strategyName options) options = none)
  /-- The strategy is not text. -/
  | strategyUnread {v : Value} {fault : Fault} (h : Pairs.get? (strategyName options) options = some v)
      (hv : text v = .error fault)

/-- Metadata are refused for their strategy or for their number of copies. -/
theorem ofOptions_eq_error : (∃ issues, ofOptions options = .error issues)
    ↔ (∃ issues, required text (strategyName options) options = .error issues)
      ∨ ∃ issues, required (atLeast 1 integer) factorName options = .error issues := by
  unfold ofOptions
  rw [Checked.withPart_eq_error, Checked.withPart_eq_error]
  simp

/-- **Malformed metadata are just those that are refused.** -/
theorem malformed_iff : Malformed options ↔ ∃ issues, ofOptions options = .error issues := by
  rw [ofOptions_eq_error, required_eq_error, required_eq_error]
  constructor
  · intro h
    cases h with
    | factorMissing h => exact .inr (.inl h)
    | factorUnread h hv => exact .inr (.inr ⟨_, h, atLeast_eq_error.2 (.inl ⟨_, hv⟩)⟩)
    | factorBelow h hv hb => exact .inr (.inr ⟨_, h, atLeast_eq_error.2 (.inr ⟨_, hv, hb⟩)⟩)
    | strategyMissing h => exact .inl (.inl h)
    | strategyUnread h hv => exact .inl (.inr ⟨_, h, _, hv⟩)
  · rintro ((h | ⟨v, h, fault, hv⟩) | (h | ⟨v, h, hv⟩))
    · exact .strategyMissing h
    · exact .strategyUnread h hv
    · exact .factorMissing h
    · rcases atLeast_eq_error.1 hv with ⟨fault, hv⟩ | ⟨factor, hv, hb⟩
      · exact .factorUnread h hv
      · exact .factorBelow h hv hb

/-- Valid metadata tell of at least one copy. -/
theorem factor_pos {r : Replication} (h : ofOptions options = .ok r) : 1 ≤ r.factor := by
  unfold ofOptions at h
  cases hs : required text (strategyName options) options with
  | error issues =>
    rw [hs] at h
    cases hf : required (atLeast 1 integer) factorName options <;> rw [hf] at h <;> exact nomatch h
  | ok strategy =>
    cases hf : required (atLeast 1 integer) factorName options with
    | error issues =>
      rw [hs, hf] at h
      exact nomatch h
    | ok factor =>
      rw [hs, hf] at h
      obtain ⟨v, -, hv⟩ := required_eq_ok hf
      rw [← Except.ok.inj h]
      exact (atLeast_eq_ok hv).2

end Replication

end ClusterHealth
