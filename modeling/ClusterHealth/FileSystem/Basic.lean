import ClusterHealth.Failure

/-!
# `ClusterHealth.FileSystem.Basic` — directories, files and what is open

A file system maps locations to entries. A file has an identity of its own, its inode, which outlives
its entry: a removed file stays what it is for whoever has it open. Numbers are never used twice, so an
inode that was seen once is never that of another file.

Advisory locks belong to the open file, not to the process: two open files of one process exclude each
other like those of two processes.
-/

namespace ClusterHealth

open ClusterHealth.Text

/-- A place in the tree of directories: the names on the way from the root, without `.` and `..`. -/
abbrev Location := List String

/-- The identity of a file or a directory. -/
abbrev Inode := Nat

/-- The number of an open file. -/
abbrev Descriptor := Nat

namespace FileSystem

/-- What an entry stands for. -/
inductive Kind where
  | file
  | directory
  deriving DecidableEq, Repr

/-- What is found at a location. -/
structure Entry where
  inode : Inode
  kind : Kind
  deriving DecidableEq, Repr

/-- How an open file is locked: together with other readers, or alone. -/
inductive LockMode where
  | shared
  | exclusive
  deriving DecidableEq, Repr

/-- An open file. -/
structure OpenFile where
  inode : Inode
  lock : Option LockMode
  deriving DecidableEq, Repr

end FileSystem

/-- A file system, with the files that are open in it. -/
structure FileSystem where
  /-- Where relative paths start. -/
  working : Location
  entries : List (Location × FileSystem.Entry)
  contents : List (Inode × List UInt8)
  openFiles : List (Descriptor × FileSystem.OpenFile)
  /-- Above every inode and every descriptor that was ever used. -/
  fresh : Nat
  /-- Set where files may not be opened; with the reason, if one is given. -/
  refusal : Option (Option String)
  /-- Set where directories may not be made; with the reason, if one is given. -/
  barred : Option (Option String)
  /-- Set where what is open cannot be read. -/
  unreadable : Bool
  /-- The places from which nothing may be removed; with the reason, if one is given. -/
  fixed : List (Location × Option String)
  deriving DecidableEq, Repr

namespace FileSystem

/-- Only the root, which is the working directory. -/
def initial : FileSystem :=
  ⟨[], [([], ⟨0, .directory⟩)], [], [], 1, none, none, false, []⟩

/-! ## Looking up -/

/-- The entry at a location. -/
def entry? (fs : FileSystem) (l : Location) : Option Entry :=
  Pairs.get? l fs.entries

/-- The open file of a descriptor. -/
def openFile? (fs : FileSystem) (d : Descriptor) : Option OpenFile :=
  Pairs.get? d fs.openFiles

/-- The bytes of a file. -/
def bytes (fs : FileSystem) (i : Inode) : List UInt8 :=
  (Pairs.get? i fs.contents).getD []

/-- The most bytes of a name. -/
def maxNameBytes : Nat := 255

/-- The most bytes of a path. -/
def maxPathBytes : Nat := 4095

/-- The location that names lead to from a directory. All but the last one must be directories; the last
one need not exist. -/
def descend (fs : FileSystem) : Location → List String → Except SystemFailure Location
  | here, [] => .ok here
  | here, name :: rest =>
    match fs.entry? here with
    | none => .error .notFound
    | some ⟨_, .file⟩ => .error .notDirectory
    | some ⟨_, .directory⟩ =>
      if maxNameBytes < name.utf8ByteSize then .error .nameTooLong
      else fs.descend (if name = ".." then here.dropLast else here ++ [name]) rest

/-- Whether no path can be this one: names hold no null character. -/
def holdsNull (p : Path) : Bool :=
  p.text.toList.contains '\x00'

/-- The location that a path names. -/
def locate (fs : FileSystem) (p : Path) : Except SystemFailure Location :=
  if holdsNull p then .error .nullCharacter
  else if maxPathBytes < p.text.utf8ByteSize then .error .nameTooLong
  else fs.descend (if p.root = .working then fs.working else []) p.parts

/-- What a path names. -/
def status (fs : FileSystem) (p : Path) : Except SystemFailure Entry :=
  match fs.locate p with
  | .error e => .error e
  | .ok l =>
    match fs.entry? l with
    | none => .error .notFound
    | some entry => .ok entry

/-- Whether a path names a directory. -/
def isDirectory (fs : FileSystem) (p : Path) : Bool :=
  match fs.status p with
  | .ok entry => entry.kind = .directory
  | .error _ => false

/-- Whether a path names anything. -/
def present (fs : FileSystem) (p : Path) : Bool :=
  match fs.status p with
  | .ok _ => true
  | .error _ => false

/-- What lies below a location: where, seen from there, and its bytes if it is a file. -/
def below (fs : FileSystem) (l : Location) : List (Location × Option (List UInt8)) :=
  fs.entries.filterMap fun (place, entry) =>
    if l.isPrefixOf place && place ≠ l then
      some (place.drop l.length,
        match entry.kind with
        | .file => some (fs.bytes entry.inode)
        | .directory => none)
    else none

/-! ## Making and removing entries -/

/-- A new entry at a location. -/
def create (fs : FileSystem) (l : Location) (kind : Kind) : FileSystem :=
  { fs with
    entries := Pairs.put l ⟨fs.fresh, kind⟩ fs.entries
    contents := Pairs.put fs.fresh [] fs.contents
    fresh := fs.fresh + 1 }

/-- A file with other bytes. -/
def setBytes (fs : FileSystem) (i : Inode) (bs : List UInt8) : FileSystem :=
  { fs with contents := Pairs.put i bs fs.contents }

/-- One directory made, if nothing is at its path. -/
def makeDirectory (fs : FileSystem) (p : Path) : Except SystemFailure FileSystem :=
  match fs.locate p with
  | .error e => .error e
  | .ok l =>
    if (fs.entry? l).isSome then .error .exists
    else
      match fs.barred with
      | some reason => .error (.denied reason)
      | none => .ok (fs.create l .directory)

/-- A directory made, unless there is one already. -/
def ensureDirectory (fs : FileSystem) (p : Path) : Except SystemFailure FileSystem :=
  match fs.makeDirectory p with
  | .ok fs => .ok fs
  | .error .notFound => .error .notFound
  | .error e => if fs.isDirectory p then .ok fs else .error e

/-- A directory made with those above it; the names are given from the last one on. What was made stays
where a later step fails. -/
def ensureDirectories (root : Path.Root) :
    List String → FileSystem → Except SystemFailure Unit × FileSystem
  | [], fs =>
    match fs.ensureDirectory ⟨root, []⟩ with
    | .ok fs => (.ok (), fs)
    | .error e => (.error e, fs)
  | name :: above, fs =>
    let p : Path := ⟨root, (name :: above).reverse⟩
    match fs.ensureDirectory p with
    | .ok fs => (.ok (), fs)
    | .error .notFound =>
      match ensureDirectories root above fs with
      | (.error e, fs) => (.error e, fs)
      | (.ok (), fs) =>
        match fs.ensureDirectory p with
        | .ok fs => (.ok (), fs)
        | .error e => (.error e, fs)
    | .error e => (.error e, fs)

/-- The directory at a path made with those above it. -/
def makeDirectories (fs : FileSystem) (p : Path) : Except SystemFailure Unit × FileSystem :=
  ensureDirectories p.root p.parts.reverse fs

/-- A directory made where nothing was, with those above it. What was made stays where a later step
fails. -/
def makeNewDirectory (fs : FileSystem) (p : Path) : Except SystemFailure Unit × FileSystem :=
  match fs.makeDirectory p with
  | .ok fs => (.ok (), fs)
  | .error .notFound =>
    match fs.makeDirectories p.parent with
    | (.error e, fs) => (.error e, fs)
    | (.ok (), fs) =>
      match fs.makeDirectory p with
      | .ok fs => (.ok (), fs)
      | .error e => (.error e, fs)
  | .error e => (.error e, fs)

/-- The file at a path with the given bytes; a file that is there keeps its identity. -/
def writeFile (fs : FileSystem) (p : Path) (bs : List UInt8) : Except SystemFailure FileSystem :=
  match fs.locate p with
  | .error e => .error e
  | .ok l =>
    match fs.entry? l with
    | some ⟨i, .file⟩ => .ok (fs.setBytes i bs)
    | some ⟨_, .directory⟩ => .error .isDirectory
    | none => .ok ((fs.create l .file).setBytes fs.fresh bs)

/-- Why nothing may be removed from the place that a path names. -/
def fixed? (fs : FileSystem) (p : Path) : Option (Option String) :=
  match fs.locate p with
  | .error _ => none
  | .ok l => Pairs.get? l fs.fixed

/-- The file system without the file at a path. Whether anything may be removed is looked at before what it is. -/
def remove (fs : FileSystem) (p : Path) : Except SystemFailure FileSystem :=
  match fs.locate p with
  | .error e => .error e
  | .ok l =>
    match fs.entry? l, Pairs.get? l fs.fixed with
    | none, _ => .error .notFound
    | some _, some reason => .error (.denied reason)
    | some ⟨_, .directory⟩, none => .error .isDirectory
    | some ⟨_, .file⟩, none => .ok { fs with entries := Pairs.erase l fs.entries }

/-- An entry at or below one location, moved to another. -/
def relocated (source target : Location) (place : Location) : Location :=
  if source.isPrefixOf place then target ++ place.drop source.length else place

/-- Why an entry of a kind cannot take the place of what is at a location. -/
def obstacle? (fs : FileSystem) (kind : Kind) (target : Location) : Option SystemFailure :=
  match kind, fs.entry? target with
  | _, none => none
  | .file, some ⟨_, .file⟩ => none
  | .file, some ⟨_, .directory⟩ => some .isDirectory
  | .directory, some ⟨_, .file⟩ => some .notDirectory
  | .directory, some ⟨_, .directory⟩ => if (fs.below target).isEmpty then none else some .notEmpty

/-- The entry at one location moved to another, with all that lies below it; what was there is replaced.
Nothing can be moved below itself, nor to a directory that it lies in. -/
def relocate (fs : FileSystem) (old new : Location) : Except SystemFailure FileSystem :=
  match fs.entry? old with
  | none => .error .notFound
  | some entry =>
    if old = new then .ok fs
    else if old.isPrefixOf new then .error .invalid
    else if new.isPrefixOf old then .error .notEmpty
    else
      match fs.obstacle? entry.kind new with
      | some e => .error e
      | none =>
        .ok { fs with
          entries := (Pairs.erase new fs.entries).map fun (place, e) => (relocated old new place, e) }

/-- Why there is no directory in which the last name of a path could stand. -/
def unreachable? (fs : FileSystem) (p : Path) : Option SystemFailure :=
  if maxPathBytes < p.text.utf8ByteSize then some .nameTooLong
  else
    match fs.status p.parent with
    | .error e => some e
    | .ok ⟨_, .file⟩ => some .notDirectory
    | .ok ⟨_, .directory⟩ => none

/-- What one path names, moved to another path. Neither may end in `..`. Both ways are gone before what
stands at their ends is looked at. -/
def rename (fs : FileSystem) (source target : Path) : Except SystemFailure FileSystem :=
  if holdsNull source || holdsNull target then .error .nullCharacter
  else
    match fs.unreachable? source <|> fs.unreachable? target with
    | some e => .error e
    | none =>
      if source.endsUpwards || target.endsUpwards then .error .busy
      else do
        let _ ← fs.status source
        let old ← fs.locate source
        let new ← fs.locate target
        fs.relocate old new

end FileSystem

end ClusterHealth
