import ClusterHealth.Lock.Routine

/-!
# `ClusterHealth.Lock.Release` — giving a lock file back

The file is removed while it is still locked, so that whoever has opened it meanwhile finds it gone and
starts again with a new file. It is removed only if the path still names it. Whatever goes wrong on the
way, the lock is dropped and the file is closed.
-/

namespace ClusterHealth.Lock

/-- How far a release has come, and what went wrong on the way. -/
inductive Release where
  | comparing (d : Descriptor)
  | removing (d : Descriptor)
  | unlocking (d : Descriptor) (failed : Option SystemFailure)
  | closing (d : Descriptor) (failed : Option SystemFailure)
  deriving DecidableEq, Repr

namespace Release

/-- One call. -/
def step (path : Path) : Release → FileSystem → Progress Release Unit × FileSystem
  | .comparing d, fs =>
    match fs.names path d with
    | .ok true => (.inl (.removing d), fs)
    | .ok false => (.inl (.unlocking d none), fs)
    | .error e => (.inl (.unlocking d (some e)), fs)
  | .removing d, fs =>
    match fs.remove path with
    | .ok fs => (.inl (.unlocking d none), fs)
    | .error .notFound => (.inl (.unlocking d none), fs)
    | .error e => (.inl (.unlocking d (some e)), fs)
  | .unlocking d failed, fs => (.inl (.closing d failed), fs.unlock d)
  | .closing d none, fs => (.inr (.ok ()), fs.close d)
  | .closing d (some e), fs => (.inr (.error (.system e)), fs.close d)

/-- How many calls may still follow. -/
def remaining : Release → Nat
  | .comparing _ => 3
  | .removing _ => 2
  | .unlocking .. => 1
  | .closing .. => 0

theorem remaining_step {path : Path} {s s' : Release} {fs fs' : FileSystem}
    (h : step path s fs = (.inl s', fs')) : s'.remaining < s.remaining := by
  cases s with
  | comparing d => simp only [step] at h; split at h <;> grind [remaining]
  | removing d => simp only [step] at h; split at h <;> grind [remaining]
  | unlocking d failed => simp only [step] at h; grind [remaining]
  | closing d failed => cases failed <;> simp [step] at h

/-- Giving a lock file back, call by call. -/
def routine (path : Path) : Routine Release Unit :=
  ⟨step path, remaining, remaining_step⟩

end Release

end ClusterHealth.Lock
