import ClusterHealth.Lock.Routine

/-!
# `ClusterHealth.Lock.Ask` — asking whether a lock file is held

The file is opened for reading and locked together with other readers, which fails just if somebody has
it locked alone. The answer changes nothing: the lock is dropped at once.
-/

namespace ClusterHealth.Lock

/-- How far the question has come. -/
inductive Ask where
  | opening
  | locking (d : Descriptor)
  | unlocking (d : Descriptor)
  | closing (d : Descriptor) (held : Bool)
  deriving DecidableEq, Repr

namespace Ask

/-- One call. -/
def step (path : Path) : Ask → FileSystem → Progress Ask Bool × FileSystem
  | .opening, fs =>
    match fs.openExisting path with
    | .ok (d, fs) => (.inl (.locking d), fs)
    | .error .notFound => (.inr (.ok false), fs)
    | .error e => (.inr (.error (.system e)), fs)
  | .locking d, fs =>
    match fs.tryLock d .shared with
    | some fs => (.inl (.unlocking d), fs)
    | none => (.inl (.closing d true), fs)
  | .unlocking d, fs => (.inl (.closing d false), fs.unlock d)
  | .closing d held, fs => (.inr (.ok held), fs.close d)

/-- How many calls may still follow. -/
def remaining : Ask → Nat
  | .opening => 3
  | .locking _ => 2
  | .unlocking _ => 1
  | .closing .. => 0

theorem remaining_step {path : Path} {s s' : Ask} {fs fs' : FileSystem}
    (h : step path s fs = (.inl s', fs')) : s'.remaining < s.remaining := by
  cases s with
  | opening => simp only [step] at h; split at h <;> grind [remaining]
  | locking d => simp only [step] at h; split at h <;> grind [remaining]
  | unlocking d => simp only [step] at h; grind [remaining]
  | closing d held => simp [step] at h

/-- The question, call by call. -/
def routine (path : Path) : Routine Ask Bool :=
  ⟨step path, remaining, remaining_step⟩

end Ask

end ClusterHealth.Lock
