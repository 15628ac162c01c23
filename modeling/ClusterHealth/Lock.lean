import ClusterHealth.Lock.Acquire
import ClusterHealth.Lock.Ask
import ClusterHealth.Lock.Release
import ClusterHealth.Machine

/-!
# `ClusterHealth.Lock` — one run at a time

A run holds a lock file for as long as it lasts. Taking the lock never waits: if another run has it, that
is a failure. The lock is given back on every way out of the work that it protects (`Lock.hold`).
-/

namespace ClusterHealth.Lock

open ClusterHealth.Machine

/-- A lock that was taken; without a descriptor once it is given back. -/
structure Handle where
  path : Path
  descriptor : Option Descriptor
  deriving DecidableEq, Repr

/-- Whether the lock was given back. -/
def Handle.released (h : Handle) : Bool := h.descriptor.isNone

/-- Takes a lock; the directories above its file are made if need be. -/
def acquire (lock : LockFile) (others : Others Acquire) : Action Machine Handle := do
  match ← ExceptT.lift (onFiles (·.makeDirectories lock.path.parent)) with
  | .error e => throw (.system e)
  | .ok () =>
    let taken ← ExceptT.lift (onFiles ((Acquire.routine lock).run others .start))
    let d ← taken
    report (.lockAcquired lock.path)
    return ⟨lock.path, some d⟩

/-- Gives a lock back: the handle afterwards, and whether all went well. Even if it did not, the lock is
dropped. A lock that was given back before stays as it is. -/
def release (h : Handle) (others : Others Release) : StateM Machine (Handle × Except Failure Unit) := do
  match h.descriptor with
  | none => return (h, .ok ())
  | some d =>
    let result ← onFiles ((Release.routine h.path).run others (.comparing d))
    observe (.unlocked h.path)
    if let .ok () := result then report (.lockReleased h.path)
    return ({ h with descriptor := none }, result)

/-- Whether somebody holds a lock. -/
def isHeld (path : Path) : Action Machine Bool :=
  onFiles ((Ask.routine path).run alone .opening)

/-- Some work under a lock, which is given back whatever happens; the handle is returned with what the
work gives. -/
def hold {α : Type} (lock : LockFile) (work : Handle → Action Machine α) : Action Machine (α × Handle) := do
  let h ← acquire lock alone
  let result ← (work h).outcome
  let (h, released) ← ExceptT.lift (release h alone)
  released
  return (← result, h)

end ClusterHealth.Lock
