import ClusterHealth.FileSystem.Basic

/-!
# `ClusterHealth.FileSystem.Open` — what is done with open files

Opening, locking, reading, writing and closing. Each of these is one call to the system: nobody else acts
while it lasts.
-/

namespace ClusterHealth

namespace FileSystem

/-- A new open file. -/
def openInode (fs : FileSystem) (i : Inode) : Descriptor × FileSystem :=
  (fs.fresh,
    { fs with openFiles := Pairs.put fs.fresh ⟨i, none⟩ fs.openFiles, fresh := fs.fresh + 1 })

/-- Opens what is at a path for reading. -/
def openExisting (fs : FileSystem) (p : Path) : Except SystemFailure (Descriptor × FileSystem) :=
  match fs.refusal with
  | some reason => .error (.denied reason)
  | none =>
    match fs.status p with
    | .error e => .error e
    | .ok entry => .ok (fs.openInode entry.inode)

/-- Opens the file at a path for writing; makes it if there is none. -/
def openOrCreate (fs : FileSystem) (p : Path) : Except SystemFailure (Descriptor × FileSystem) :=
  match fs.refusal with
  | some reason => .error (.denied reason)
  | none =>
    match fs.locate p with
    | .error e => .error e
    | .ok l =>
      match fs.entry? l with
      | some ⟨i, .file⟩ => .ok (fs.openInode i)
      | some ⟨_, .directory⟩ => .error .isDirectory
      | none => .ok ((fs.create l .file).openInode fs.fresh)

/-- Whether two ways to lock a file exclude each other. -/
def LockMode.excludes : LockMode → LockMode → Bool
  | .shared, .shared => false
  | _, _ => true

/-- Whether another open file of the same inode stands in the way of a lock. -/
def blocked (fs : FileSystem) (d : Descriptor) (i : Inode) (mode : LockMode) : Bool :=
  fs.openFiles.any fun (other, file) =>
    other ≠ d && file.inode = i && (file.lock.map mode.excludes).getD false

/-- An open file with its lock set or dropped. -/
def setLock (fs : FileSystem) (d : Descriptor) (lock : Option LockMode) : FileSystem :=
  match fs.openFile? d with
  | none => fs
  | some file => { fs with openFiles := Pairs.put d { file with lock := lock } fs.openFiles }

/-- Locks an open file without waiting; `none` if another lock is in the way. -/
def tryLock (fs : FileSystem) (d : Descriptor) (mode : LockMode) : Option FileSystem :=
  match fs.openFile? d with
  | none => none
  | some file => if fs.blocked d file.inode mode then none else some (fs.setLock d (some mode))

/-- Drops the lock of an open file. -/
def unlock (fs : FileSystem) (d : Descriptor) : FileSystem :=
  fs.setLock d none

/-- Closes an open file, which drops its lock. -/
def close (fs : FileSystem) (d : Descriptor) : FileSystem :=
  { fs with openFiles := Pairs.erase d fs.openFiles }

/-- Whether a path names the file that is open; it does not if nothing is there. -/
def names (fs : FileSystem) (p : Path) (d : Descriptor) : Except SystemFailure Bool :=
  match fs.status p with
  | .error .notFound => .ok false
  | .error e => .error e
  | .ok entry => .ok ((fs.openFile? d).map (·.inode) = some entry.inode)

/-- The first bytes of an open file; `none` if it cannot be read. -/
def readStart (fs : FileSystem) (d : Descriptor) (count : Nat) : Option (List UInt8) :=
  if fs.unreadable then none
  else some (((fs.openFile? d).map fun file => (fs.bytes file.inode).take count).getD [])

/-- An open file without its bytes. -/
def truncate (fs : FileSystem) (d : Descriptor) : FileSystem :=
  match fs.openFile? d with
  | none => fs
  | some file => fs.setBytes file.inode []

/-- An open file with bytes written over its first ones. -/
def writeStart (fs : FileSystem) (d : Descriptor) (bs : List UInt8) : FileSystem :=
  match fs.openFile? d with
  | none => fs
  | some file => fs.setBytes file.inode (bs ++ (fs.bytes file.inode).drop bs.length)

end FileSystem

end ClusterHealth
