import ClusterHealth.Notice

/-!
# `ClusterHealth.Retry.Recorder` — remembering the downgrade of a query

A recorder holds the first downgrade since it was last reset. `Recorder.handle` is the retry policy of
the probe: it answers a failed attempt with its verdict, which does not depend on what was recorded,
and records the downgrade if there is one.
-/

namespace ClusterHealth.Retry

/-- The first downgrade since the last reset. -/
structure Recorder where
  last : Option Downgrade
  deriving DecidableEq, Repr

/-- Nothing recorded. -/
def Recorder.fresh : Recorder := ⟨none⟩

/-- A downgrade offered to a recorder; only the first is kept. -/
def Recorder.record (r : Recorder) (d : Downgrade) : Recorder × List Notice :=
  match r.last with
  | none => (⟨some d⟩, [])
  | some first => (r, [.downgradeIgnored d first])

/-- What is reported about a verdict. -/
def Verdict.notice (a : FailedAttempt) : Verdict → Notice
  | .retry level => .retrying a level
  | .rethrow => .rethrowing a

/-- The recorder after a failed attempt, and what is reported. -/
def Recorder.handle (r : Recorder) (a : FailedAttempt) : Recorder × List Notice :=
  match a.downgrade? with
  | none => (r, [a.verdict.notice a])
  | some d =>
    let (r, ignored) := r.record d
    (r, a.verdict.notice a :: ignored)

theorem Recorder.handle_last (r : Recorder) (a : FailedAttempt) :
    (r.handle a).1.last = r.last.or a.downgrade? := by
  cases hd : a.downgrade? <;> cases hr : r.last <;> simp [handle, record, hd, hr]

end ClusterHealth.Retry
