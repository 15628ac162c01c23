import ClusterHealth.Lock.Acquire
import ClusterHealth.Lock.Release

/-!
# `ClusterHealth.Lock.Interference` — outsiders at the lock file

Nobody but the program should touch a lock file. These outsiders do, at the worst moment: when the file is
open and not locked yet, or when it is just about to be removed.
-/

namespace ClusterHealth.Lock

/-- The file at a path gone, and perhaps another one in its place. -/
def replaced (path : Path) (replacement : Option (List UInt8)) (fs : FileSystem) : FileSystem :=
  let gone := (fs.remove path).toOption.getD fs
  match replacement with
  | none => gone
  | some bs => (gone.writeFile path bs).toOption.getD gone

/-- In the first `count` attempts to take a lock, its file is removed between opening and locking, and
perhaps replaced. -/
def Acquire.replacedBeforeLocking (path : Path) (count : Nat) (replacement : Option (List UInt8)) :
    Others Acquire
  | .locking left _, fs => if attempts - 1 - left < count then replaced path replacement fs else fs
  | _, fs => fs

/-- When a lock is given back, its file is removed right before it would be. -/
def Release.removedBeforeRemoving (path : Path) : Others Release
  | .removing _, fs => replaced path none fs
  | _, fs => fs

end ClusterHealth.Lock
