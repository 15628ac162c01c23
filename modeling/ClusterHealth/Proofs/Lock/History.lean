import ClusterHealth.Proofs.Lock.Exclusion
import ClusterHealth.Proofs.Lock.Ledger

/-!
# `ClusterHealth.Proofs.Lock.History` — locks over a whole history

Locks are taken, given back and asked about, one after the other, for any paths and any processes. Over
every such history the lock files behave like a table of locks, one for each file: a lock is given out just
if no other lock on the same file is out, and the file of a lock that is out holds the number of its process
and nothing else. A lock file that cannot be removed stays when its lock is given back, and is locked no more.

## Contents
- `Request`, `perform`, `run`: a history.
- `live`: the locks that are out, with their descriptors.
- `CanOpen`, `SameFile`: lock files that can be opened, and paths of one file.
- `Sound.acquire_cases`: what comes of taking a lock.
- `sound_perform`, `sound_run`: the files fit the locks that are out, after every request.
- `Table`, `lock_table`: the behaviour after every history.
-/

namespace ClusterHealth.Lock

open FileSystem ClusterHealth.Machine

/-! ## Histories -/

/-- A lock that was given out, and the process that has it. -/
structure Grant where
  handle : Handle
  process : Nat
  deriving DecidableEq, Repr

/-- A machine, and all locks that were ever given out on it, in that order. -/
structure Site where
  machine : Machine
  grants : List Grant

/-- What is asked of the locks. -/
inductive Request where
  | acquire (lock : LockFile)
  /-- The lock that was given out at this place is given back. -/
  | release (place : Nat)
  | ask (path : Path)

/-- What comes of a request. -/
inductive Reply where
  | granted
  | refused (e : Failure)
  | released (result : Except Failure Unit)
  | answered (result : Except Failure Bool)
  /-- No lock was given out at that place. -/
  | unknown
  deriving DecidableEq

/-- A lock that was given out, after it was given back. -/
def Grant.ended (g : Grant) : Grant :=
  ⟨⟨g.handle.path, none⟩, g.process⟩

/-- What becomes of a site when a process has tried to take a lock. -/
def Site.afterAcquire (s : Site) (lock : LockFile) : Except Failure Handle × Machine → Reply × Site
  | (.ok h, m) => (.granted, ⟨m, s.grants ++ [⟨h, lock.process⟩]⟩)
  | (.error e, m) => (.refused e, ⟨m, s.grants⟩)

/-- One request, with nobody else at work. -/
def perform : Request → Site → Reply × Site
  | .acquire lock, s => s.afterAcquire lock (Lock.acquire lock alone s.machine)
  | .release place, s =>
    match s.grants[place]? with
    | none => (.unknown, s)
    | some g =>
      match Lock.release g.handle alone s.machine with
      | ((h, result), m) => (.released result, ⟨m, s.grants.set place ⟨h, g.process⟩⟩)
  | .ask path, s =>
    match isHeld path s.machine with
    | (result, m) => (.answered result, ⟨m, s.grants⟩)

/-- Requests one after the other. -/
def run (requests : List Request) (s : Site) : Site :=
  requests.foldl (fun s r => (perform r s).2) s

/-! ## Locks that are out -/

/-- The descriptor of a lock that is out, and its file and process. -/
def Grant.live? (g : Grant) : Option (Descriptor × LockFile) :=
  g.handle.descriptor.map fun d => (d, ⟨g.handle.path, g.process⟩)

/-- The locks that are out. -/
def live (grants : List Grant) : List (Descriptor × LockFile) :=
  grants.filterMap Grant.live?

theorem mem_live {grants : List Grant} {x : Descriptor × LockFile} :
    x ∈ live grants ↔ ∃ g ∈ grants, g.live? = some x :=
  List.mem_filterMap

theorem live_append (gs hs : List Grant) : live (gs ++ hs) = live gs ++ live hs :=
  List.filterMap_append

theorem live?_ended (g : Grant) : g.ended.live? = none := rfl

theorem live?_of_descriptor {g : Grant} {d : Descriptor} (h : g.handle.descriptor = some d) :
    g.live? = some (d, ⟨g.handle.path, g.process⟩) := by
  unfold Grant.live?
  rw [h]
  rfl

/-- When a lock is given back, the others stay out. -/
theorem live_set {grants : List Grant} {place : Nat} {g : Grant} {d : Descriptor}
    (hdistinct : ((live grants).map Prod.fst).Nodup) (hg : grants[place]? = some g)
    (hd : g.handle.descriptor = some d) :
    live (grants.set place g.ended) = (live grants).filter fun x => x.1 ≠ d := by
  -- The table around the place; all other descriptors differ from the one at it.
  obtain ⟨before, after, rfl, hlength⟩ : ∃ before after, grants = before ++ g :: after
      ∧ before.length = place := by
    have hlt : place < grants.length := (List.getElem?_eq_some_iff.1 hg).1
    refine ⟨grants.take place, grants.drop (place + 1), ?_, List.length_take_of_le (Nat.le_of_lt hlt)⟩
    have hget : grants[place] = g := (List.getElem?_eq_some_iff.1 hg).2
    rw [← hget, List.getElem_cons_drop, List.take_append_drop]
  have hset : (before ++ g :: after).set place g.ended = before ++ g.ended :: after := by
    rw [← hlength, List.set_append_right _ _ (Nat.le_refl _), Nat.sub_self, List.set_cons_zero]
  have hlive : ∀ g' : Grant, live (before ++ g' :: after) = live before ++ (g'.live?.toList ++ live after) := by
    intro g'
    rw [live_append]
    unfold live
    cases hg' : g'.live? with
    | none => rw [List.filterMap_cons_none hg']; rfl
    | some x => rw [List.filterMap_cons_some hg']; rfl
  rw [hset, hlive, hlive, live?_ended, live?_of_descriptor hd]
  rw [hlive, live?_of_descriptor hd] at hdistinct
  have hother : ∀ x ∈ live before ++ live after, x.1 ≠ d := by
    intro x hx heq
    simp only [Option.toList_some, List.map_append, List.map_cons, List.singleton_append] at hdistinct
    have hnotin := (List.nodup_cons.1 (List.nodup_middle.1 hdistinct)).1
    apply hnotin
    rw [← List.map_append, ← heq]
    exact List.mem_map_of_mem hx
  have hkeep : ∀ xs : List (Descriptor × LockFile), (∀ x ∈ xs, x.1 ≠ d) →
      (xs.filter fun x => x.1 ≠ d) = xs :=
    fun xs hxs => List.filter_eq_self.2 fun x hx => decide_eq_true (hxs x hx)
  have hself : ([(d, ⟨g.handle.path, g.process⟩)] : List (Descriptor × LockFile)).filter
      (fun x => x.1 ≠ d) = [] := by
    simp
  simp only [Option.toList_none, Option.toList_some, List.filter_append, hself,
    hkeep _ fun x hx => hother x (List.mem_append_left _ hx),
    hkeep _ fun x hx => hother x (List.mem_append_right _ hx)]

/-! ## Taking a lock -/

/-- Whether a lock file can be opened: the directories above it can be made, and then the file can be opened
or made. -/
def CanOpen (fs : FileSystem) (path : Path) : Prop :=
  ∃ fs₁ d fs₂, fs.makeDirectories path.parent = (.ok (), fs₁) ∧ fs₁.openOrCreate path = .ok (d, fs₂)

/-- The files once the directories above a path are made. -/
def directoriesMade (fs : FileSystem) (path : Path) : FileSystem :=
  (fs.makeDirectories path.parent).2

theorem canOpen_iff {fs : FileSystem} {path : Path} : CanOpen fs path ↔
    (fs.makeDirectories path.parent).1.isOk = true ∧ ((directoriesMade fs path).openOrCreate path).isOk = true := by
  unfold CanOpen directoriesMade
  rcases fs.makeDirectories path.parent with ⟨e | ⟨⟩, fs₁⟩
  · exact iff_of_false (fun ⟨_, _, _, hmade, _⟩ => nomatch congrArg Prod.fst hmade) fun h => nomatch h.1
  · cases hopen : fs₁.openOrCreate path with
    | error e =>
      refine iff_of_false ?_ fun h => nomatch h.2
      rintro ⟨fs, d, fs₂, hmade, hok⟩
      obtain rfl : fs₁ = fs := congrArg Prod.snd hmade
      exact nomatch hopen.symm.trans hok
    | ok opened => exact iff_of_true ⟨fs₁, opened.1, opened.2, rfl, hopen⟩ ⟨rfl, rfl⟩

instance (fs : FileSystem) (path : Path) : Decidable (CanOpen fs path) :=
  decidable_of_iff _ canOpen_iff.symm

/-- Two paths of one file. -/
def SameFile (fs : FileSystem) (p q : Path) : Prop :=
  ∃ x y, fs.status p = .ok x ∧ fs.status q = .ok y ∧ x.inode = y.inode

section Acquire

variable {m : Machine} {out : List (Descriptor × LockFile)} {lock : LockFile}

/-- How taking a lock ends. -/
inductive Taking (m : Machine) (out : List (Descriptor × LockFile)) (lock : LockFile) :
    Except Failure Handle × Machine → Prop
  /-- The lock file cannot be opened. -/
  | unopened {e : Failure} (cannot : ¬ CanOpen m.files lock.path) :
      Taking m out lock (.error e, { m with files := directoriesMade m.files lock.path })
  /-- No lock on the file is out. -/
  | granted {d : Descriptor} {i : Inode} {fs : FileSystem}
      (opened : Opened (directoriesMade m.files lock.path) lock.path d i fs)
      (free : ¬ (directoriesMade m.files lock.path).Taken i .exclusive) :
      Taking m out lock (.ok ⟨lock.path, some d⟩,
        { m with
          files := fs.signed d i (signature lock.process)
          journal := m.journal ++ [.notice (.lockAcquired lock.path)] })
  /-- A lock on the file is out. -/
  | refused {i : Inode} {x : Descriptor × LockFile}
      (named : (directoriesMade m.files lock.path).status lock.path = .ok ⟨i, .file⟩)
      (mem : x ∈ out) (kept : Kept (directoriesMade m.files lock.path) x.1 x.2 i) :
      Taking m out lock (.error (.alreadyRunning lock.path
          (if m.files.unreadable then none else some (Int.ofNat x.2.process))),
        { m with files := (directoriesMade m.files lock.path).spent })

/-- **What comes of taking a lock**, told by the locks that are out. -/
theorem Sound.acquire_cases (h : Sound m.files out) (lock : LockFile) :
    Taking m out lock (acquire lock alone m) := by
  have hgrown : m.files.Grown (directoriesMade m.files lock.path) := grown_makeDirectories _ _
  have hsound := h.grown hgrown
  rw [acquire_apply]
  rcases hmade : m.files.makeDirectories lock.path.parent with ⟨e | ⟨⟩, fs₁⟩
  · have hfs : directoriesMade m.files lock.path = fs₁ := congrArg Prod.snd hmade
    have hcannot : ¬ CanOpen m.files lock.path := by
      rintro ⟨fs, d, fs₂, hok, -⟩
      exact nomatch (congrArg Prod.fst (hmade.symm.trans hok))
    rw [← hfs]
    exact .unopened hcannot
  · have hfs : directoriesMade m.files lock.path = fs₁ := congrArg Prod.snd hmade
    rw [← hfs]
    simp only
    cases hopen : (directoriesMade m.files lock.path).openOrCreate lock.path with
    | error e =>
      obtain ⟨failure, hrun⟩ := Acquire.run_unopened hopen
      have hcannot : ¬ CanOpen m.files lock.path := by
        rintro ⟨fs, d, fs₂, hok, hopened⟩
        have hsame : fs = directoriesMade m.files lock.path := (congrArg Prod.snd hok).symm
        rw [hsame, hopen] at hopened
        exact nomatch hopened
      rw [hrun]
      exact .unopened hcannot
    | ok opened =>
      obtain ⟨d, fs₂⟩ := opened
      obtain ⟨i, o⟩ := opened_of_openOrCreate hopen
      by_cases htaken : (directoriesMade m.files lock.path).Taken i .exclusive
      · obtain ⟨x, hx, hkept⟩ := hsound.taken_iff.1 htaken
        have hlt := hsound.numbered.status_lt hkept.named
        -- The inode is an old one, so the file was there and nothing was made.
        obtain ⟨hstatus, hsame⟩ : (directoriesMade m.files lock.path).status lock.path = .ok ⟨i, .file⟩
            ∧ (d, fs₂) = (directoriesMade m.files lock.path).openInode i := by
          rcases o.origin with horigin | ⟨-, hge, -⟩
          · exact horigin
          · exact absurd (Nat.lt_of_lt_of_le hlt hge) (Nat.lt_irrefl i)
        have hholder : holderOf ((fs₂.bytes i).take holderBytes) = .ok (some x.2.process) := by
          rw [o.bytes i hlt, hkept.signed]
          exact holderOf_signature (h.short x hx)
        have hclose : fs₂.close d = (directoriesMade m.files lock.path).spent := by
          obtain ⟨hd, hfs₂⟩ := Prod.mk.inj hsame
          rw [hd, hfs₂]
          exact close_openInode hsound.numbered
        rw [Acquire.run_taken hopen o hsound.numbered htaken hholder, hclose, hgrown.unreadable]
        exact .refused hstatus hx hkept
      · rw [Acquire.run_free hopen o hsound.numbered htaken]
        exact .granted o htaken

end Acquire

/-! ## Giving a lock back, and asking -/

section Release

variable {m : Machine} {out : List (Descriptor × LockFile)} {lock : LockFile} {d : Descriptor} {path : Path}

/-- A lock that is out is given back, and the other locks stay out. -/
theorem Sound.release (h : Sound m.files out) (hmem : (d, lock) ∈ out) :
    Has lock.path d (some .exclusive) m.files
      ∧ Lock.release ⟨lock.path, some d⟩ alone m = ((⟨lock.path, none⟩, removal m.files lock.path), { m with
          files := givenBack m.files lock.path d
          journal := m.journal ++ farewell m.files lock.path })
      ∧ Sound (givenBack m.files lock.path d) (out.filter fun x => x.1 ≠ d) := by
  obtain ⟨i, hkept⟩ := h.kept _ hmem
  have hhas : Has lock.path d (some .exclusive) m.files := ⟨i, hkept.named, hkept.locked⟩
  exact ⟨hhas, release_of_has hhas, h.released hmem⟩

theorem isHeld_apply (path : Path) (m : Machine) : isHeld path m
    = (((Ask.routine path).run alone .opening m.files).1,
      { m with files := ((Ask.routine path).run alone .opening m.files).2 }) := rfl

/-- A lock file that can be opened is there, or nothing is. -/
theorem status_of_canOpen {fs : FileSystem} (h : CanOpen fs path) : fs.refusal = none
    ∧ ((∃ e, fs.status path = .ok e) ∨ fs.status path = .error .notFound) := by
  obtain ⟨fs₁, d, fs₂, hmade, hopen⟩ := h
  have hgrown : fs.Grown fs₁ := by
    have hall := grown_makeDirectories fs path.parent
    rw [hmade] at hall
    exact hall
  constructor
  · rw [← hgrown.refusal]
    unfold FileSystem.openOrCreate at hopen
    split at hopen
    · exact nomatch hopen
    · next hnone => exact hnone
  · obtain ⟨l, hl, -⟩ := openOrCreate_eq_ok hopen
    unfold FileSystem.status
    rcases hgrown.locate_back hl with hback | hback
    · rw [hback]
      simp only
      cases fs.entry? l with
      | none => exact .inr rfl
      | some e => exact .inl ⟨e, rfl⟩
    · rw [hback]
      exact .inr rfl

end Release

/-! ## Every request -/

section Requests

variable {s : Site}

/-- The files of a site fit the locks that are out on it. -/
def Site.Sound (s : Site) : Prop := Lock.Sound s.machine.files (live s.grants)

/-- A lock that was taken is out. -/
theorem live_granted (grants : List Grant) (lock : LockFile) (d : Descriptor) :
    live (grants ++ [⟨⟨lock.path, some d⟩, lock.process⟩]) = live grants ++ [(d, lock)] := by
  rw [live_append]
  rfl

/-- A lock that was given back before stays as it is, and so does all else. -/
theorem perform_release_ended {place : Nat} {g : Grant} (hg : s.grants[place]? = some g)
    (hd : g.handle.descriptor = none) : perform (.release place) s = (.released (.ok ()), s) := by
  have hsame := release_released hd alone s.machine
  obtain ⟨hlt, hget⟩ := List.getElem?_eq_some_iff.1 hg
  have hset : s.grants.set place ⟨g.handle, g.process⟩ = s.grants := by
    show s.grants.set place g = s.grants
    rw [← hget, List.set_getElem_self]
  simp only [perform, hg, hsame, hset]

/-- A lock that is out is given back. -/
theorem perform_release_live (h : s.Sound) {place : Nat} {g : Grant} {d : Descriptor}
    (hg : s.grants[place]? = some g) (hd : g.handle.descriptor = some d) :
    Has g.handle.path d (some .exclusive) s.machine.files
      ∧ ∃ m, perform (.release place) s
          = (.released (removal s.machine.files g.handle.path), ⟨m, s.grants.set place g.ended⟩)
        ∧ m.files = givenBack s.machine.files g.handle.path d
        ∧ Site.Sound ⟨m, s.grants.set place g.ended⟩ := by
  have hmem : (d, ⟨g.handle.path, g.process⟩) ∈ live s.grants :=
    mem_live.2 ⟨g, List.mem_of_getElem? hg, live?_of_descriptor hd⟩
  have hhandle : g.handle = ⟨g.handle.path, some d⟩ := by rw [← hd]
  obtain ⟨hhas, hrelease, hsound⟩ := Lock.Sound.release h hmem
  rw [← hhandle] at hrelease
  refine ⟨hhas, { s.machine with
    files := givenBack s.machine.files g.handle.path d
    journal := s.machine.journal ++ farewell s.machine.files g.handle.path }, ?_, rfl, ?_⟩
  · simp only [perform, hg, hrelease]
    rfl
  · show Lock.Sound _ (live (s.grants.set place g.ended))
    rw [live_set h.distinct hg hd]
    exact hsound

/-- **Every request keeps the files in line with the locks that are out.** -/
theorem sound_perform (h : s.Sound) {r : Request}
    (hshort : ∀ lock, r = .acquire lock → lock.process < 10 ^ holderBytes) : (perform r s).2.Sound := by
  cases r with
  | acquire lock =>
    have hmade : Lock.Sound (directoriesMade s.machine.files lock.path) (live s.grants) :=
      Lock.Sound.grown h (grown_makeDirectories _ _)
    have hcases := Lock.Sound.acquire_cases h lock
    show Site.Sound (s.afterAcquire lock (Lock.acquire lock alone s.machine)).2
    generalize Lock.acquire lock alone s.machine = result at hcases
    cases hcases with
    | unopened cannot => exact hmade
    | granted opened free =>
      show Lock.Sound _ (live (s.grants ++ _))
      rw [live_granted]
      exact hmade.signed opened free (hshort lock rfl)
    | refused named mem kept => exact hmade.spent
  | release place =>
    cases hg : s.grants[place]? with
    | none =>
      simp only [perform, hg]
      exact h
    | some g =>
      cases hd : g.handle.descriptor with
      | none =>
        rw [perform_release_ended hg hd]
        exact h
      | some d =>
        obtain ⟨-, m, hperform, -, hsound⟩ := perform_release_live h hg hd
        rw [hperform]
        exact hsound
  | ask path =>
    show Lock.Sound ((Ask.routine path).run alone .opening s.machine.files).2 (live s.grants)
    rcases Ask.run_files h.numbered with hfs | hfs
    · rw [hfs]
      exact h
    · rw [hfs]
      exact Lock.Sound.spent h

/-- The files are in line with the locks that are out after every history. -/
theorem sound_run {requests : List Request} (h : s.Sound)
    (hshort : ∀ lock, .acquire lock ∈ requests → lock.process < 10 ^ holderBytes) :
    (run requests s).Sound := by
  induction requests generalizing s with
  | nil => exact h
  | cons r rest ih =>
    have hfirst : (perform r s).2.Sound := by
      apply sound_perform h
      rintro lock rfl
      exact hshort lock List.mem_cons_self
    exact ih hfirst fun lock hlock => hshort lock (List.mem_cons_of_mem r hlock)

end Requests

/-! ## A table of locks -/

/-- A lock on the file of a path is out, and this process has it. -/
def Site.HeldBy (s : Site) (fs : FileSystem) (path : Path) (process : Nat) : Prop :=
  ∃ g ∈ s.grants, g.handle.released = false ∧ SameFile fs g.handle.path path ∧ g.process = process

/-- Files that are left alone: what is open stays, and so do all files with their bytes; at most directories
are added. -/
structure Undisturbed (fs fs' : FileSystem) : Prop where
  openFiles : fs'.openFiles = fs.openFiles
  kept : fs.Preserved fs'
  added : ∀ l e, fs'.entry? l = some e → fs.entry? l = some e ∨ e.kind = .directory

/-- The lock files of a site behave like a table of locks, one for each file. -/
structure Table (s : Site) : Prop where
  /-- The file of a lock that is out is there, and holds the number of the process and nothing else. -/
  contents : ∀ g ∈ s.grants, g.handle.released = false → ∃ i,
    s.machine.files.status g.handle.path = .ok ⟨i, .file⟩ ∧ s.machine.files.bytes i = signature g.process
  /-- A lock is given out if no lock on the file is out. -/
  free : ∀ lock, CanOpen s.machine.files lock.path →
    (¬ ∃ process, s.HeldBy (directoriesMade s.machine.files lock.path) lock.path process) →
    ∃ d m, perform (.acquire lock) s
      = (.granted, ⟨m, s.grants ++ [⟨⟨lock.path, some d⟩, lock.process⟩]⟩)
  /-- A lock is refused if one is, and its process is told, if the file can be read; nothing is touched. -/
  held : ∀ lock process, CanOpen s.machine.files lock.path →
    s.HeldBy (directoriesMade s.machine.files lock.path) lock.path process →
    ∃ m, perform (.acquire lock) s
        = (.refused (.alreadyRunning lock.path
            (if s.machine.files.unreadable then none else some (Int.ofNat process))), ⟨m, s.grants⟩)
      ∧ Undisturbed s.machine.files m.files ∧ m.journal = s.machine.journal
      ∧ m.cluster = s.machine.cluster
  /-- A lock that is out is given back, and then its file is gone, if it can be removed. -/
  release : ∀ place g, s.grants[place]? = some g → g.handle.released = false →
    s.machine.files.fixed? g.handle.path = none →
    ∃ m, perform (.release place) s = (.released (.ok ()), ⟨m, s.grants.set place g.ended⟩)
      ∧ m.files.status g.handle.path = .error .notFound
  /-- If it cannot, that is reported; the lock is given back, and all that becomes of its file is that it is
  closed. -/
  fixed : ∀ place g reason, s.grants[place]? = some g → g.handle.released = false →
    s.machine.files.fixed? g.handle.path = some reason →
    ∃ m d, g.handle.descriptor = some d ∧ m.files = s.machine.files.close d
      ∧ perform (.release place) s
        = (.released (.error (.system (.denied reason))), ⟨m, s.grants.set place g.ended⟩)
  /-- A lock that was given back is given back again without any effect. -/
  again : ∀ place g, s.grants[place]? = some g → g.handle.released = true →
    perform (.release place) s = (.released (.ok ()), s)
  /-- A question tells whether a lock on the file is out; at most a number is used up by it. -/
  ask : ∀ path, CanOpen s.machine.files path → ∃ held fresh,
    perform (.ask path) s = (.answered (.ok held),
        ⟨{ s.machine with files := { s.machine.files with fresh := fresh } }, s.grants⟩)
      ∧ (held = true ↔ ∃ process, s.HeldBy s.machine.files path process)

section Table

variable {s : Site} {fs : FileSystem} {path : Path}

theorem descriptor_of_not_released {h : Handle} (hr : h.released = false) :
    ∃ d, h.descriptor = some d := by
  unfold Handle.released at hr
  cases hd : h.descriptor with
  | none =>
    rw [hd] at hr
    exact nomatch hr
  | some d => exact ⟨d, rfl⟩

/-- A lock on the file of a path is out, told by the files. -/
theorem heldBy_iff (h : Sound fs (live s.grants)) {process : Nat} : s.HeldBy fs path process
    ↔ ∃ x ∈ live s.grants, x.2.process = process ∧ ∃ e, fs.status path = .ok e ∧ Kept fs x.1 x.2 e.inode := by
  constructor
  · rintro ⟨g, hg, hreleased, ⟨x, y, hx, hy, hsame⟩, rfl⟩
    obtain ⟨d, hd⟩ := descriptor_of_not_released hreleased
    have hmem : (d, ⟨g.handle.path, g.process⟩) ∈ live s.grants :=
      mem_live.2 ⟨g, hg, live?_of_descriptor hd⟩
    obtain ⟨i, hkept⟩ := h.kept _ hmem
    have hi : i = y.inode := by
      have hentry : x = ⟨i, .file⟩ := Except.ok.inj (hx.symm.trans hkept.named)
      rw [← hsame, hentry]
    exact ⟨_, hmem, rfl, y, hy, hi ▸ hkept⟩
  · rintro ⟨x, hx, hprocess, e, he, hkept⟩
    obtain ⟨g, hg, hlive⟩ := mem_live.1 hx
    obtain ⟨d, hd, hpair⟩ := Option.map_eq_some_iff.1 hlive
    have hreleased : g.handle.released = false := by
      unfold Handle.released
      rw [hd]
      rfl
    have hnamed : fs.status g.handle.path = .ok ⟨e.inode, .file⟩ := by
      have hpath : g.handle.path = x.2.path := by rw [← hpair]
      rw [hpath]
      exact hkept.named
    refine ⟨g, hg, hreleased, ⟨_, e, hnamed, he, rfl⟩, ?_⟩
    rw [← hprocess, ← hpair]

theorem undisturbed_of_grown {fs' : FileSystem} (h : fs.Grown fs') (hn : fs.Numbered) :
    Undisturbed fs fs'.spent := by
  refine ⟨h.openFiles, (h.preserved hn).trans (Preserved.of_entries rfl rfl rfl), ?_⟩
  intro l e hl
  rcases h.added l e hl with hold | ⟨hkind, -⟩
  · exact .inl hold
  · exact .inr hkind

/-- A site whose files fit the locks that are out behaves like a table of locks. -/
theorem table_of_sound (h : s.Sound) : Table s := by
  have hgrown : ∀ p, s.machine.files.Grown (directoriesMade s.machine.files p) :=
    fun p => grown_makeDirectories _ _
  refine ⟨?_, ?_, ?_, ?_, ?_, ?_, ?_⟩
  · intro g hg hreleased
    obtain ⟨d, hd⟩ := descriptor_of_not_released hreleased
    obtain ⟨i, hkept⟩ := h.kept _ (mem_live.2 ⟨g, hg, live?_of_descriptor hd⟩)
    exact ⟨i, hkept.named, hkept.signed⟩
  · intro lock hcan hfree
    have hcases := Sound.acquire_cases h lock
    show ∃ d m, s.afterAcquire lock (Lock.acquire lock alone s.machine) = _
    generalize Lock.acquire lock alone s.machine = result at hcases
    cases hcases with
    | unopened cannot => exact absurd hcan cannot
    | granted opened free => exact ⟨_, _, rfl⟩
    | @refused i x named mem kept =>
      exact absurd ⟨x.2.process, (heldBy_iff (h.grown (hgrown lock.path))).2
        ⟨x, mem, rfl, _, named, kept⟩⟩ hfree
  · intro lock process hcan hheld
    have hmade := h.grown (hgrown lock.path)
    obtain ⟨x, hx, hprocess, e, he, hkept⟩ := (heldBy_iff hmade).1 hheld
    have hcases := Sound.acquire_cases h lock
    show ∃ m, s.afterAcquire lock (Lock.acquire lock alone s.machine) = _ ∧ _
    generalize Lock.acquire lock alone s.machine = result at hcases
    cases hcases with
    | unopened cannot => exact absurd hcan cannot
    | @granted d i fs opened free =>
      -- The file is there already, and the lock that is out would have been in the way.
      rcases opened.origin with ⟨hstatus, -⟩ | ⟨hmissing, -⟩
      · have hentry : e = ⟨i, .file⟩ := Except.ok.inj (he.symm.trans hstatus)
        rw [hentry] at hkept
        exact absurd (hmade.taken_iff.2 ⟨x, hx, hkept⟩) free
      · exact nomatch he.symm.trans hmissing
    | @refused i y named mem kept =>
      have hentry : e = ⟨i, .file⟩ := Except.ok.inj (he.symm.trans named)
      rw [hentry] at hkept
      have hsame : y = x := hmade.eq_of_kept mem hx kept hkept
      refine ⟨{ s.machine with files := (directoriesMade s.machine.files lock.path).spent }, ?_,
        undisturbed_of_grown (hgrown lock.path) h.numbered, rfl, rfl⟩
      rw [← hprocess, ← hsame]
      rfl
  · intro place g hg hreleased hfixed
    obtain ⟨d, hd⟩ := descriptor_of_not_released hreleased
    obtain ⟨hhas, m, hperform, hfiles, -⟩ := perform_release_live h hg hd
    rw [removal_eq_ok.2 hfixed] at hperform
    exact ⟨m, hperform, hfiles ▸ status_givenBack hhas hfixed⟩
  · intro place g reason hg hreleased hfixed
    obtain ⟨d, hd⟩ := descriptor_of_not_released hreleased
    obtain ⟨hhas, m, hperform, hfiles, -⟩ := perform_release_live h hg hd
    rw [removal_eq_error.2 ⟨reason, hfixed, rfl⟩] at hperform
    exact ⟨m, d, hd, hfiles.trans (givenBack_of_fixed hhas hfixed), hperform⟩
  · intro place g hg hreleased
    exact perform_release_ended hg (Option.isNone_iff_eq_none.1 hreleased)
  · intro path hcan
    obtain ⟨hrefusal, ⟨e, he⟩ | hmissing⟩ := status_of_canOpen hcan
    · obtain ⟨held, hrun, hheld⟩ := Ask.run_opened h.numbered hrefusal he
      refine ⟨held, s.machine.files.fresh + 1, ?_, ?_⟩
      · simp only [perform, isHeld_apply, hrun]
        rfl
      · rw [hheld, h.taken_iff]
        constructor
        · rintro ⟨x, hx, hkept⟩
          exact ⟨_, (heldBy_iff h).2 ⟨x, hx, rfl, e, he, hkept⟩⟩
        · rintro ⟨process, hheldBy⟩
          obtain ⟨x, hx, -, e', he', hkept⟩ := (heldBy_iff h).1 hheldBy
          have hentry : e' = e := Except.ok.inj (he'.symm.trans he)
          exact ⟨x, hx, hentry ▸ hkept⟩
    · refine ⟨false, s.machine.files.fresh, ?_, fun hfalse => (nomatch hfalse), ?_⟩
      · simp only [perform, isHeld_apply, Ask.run_missing hrefusal hmissing]
      · rintro ⟨process, g, -, -, ⟨x, y, -, hy, -⟩, -⟩
        exact nomatch hy.symm.trans hmissing

end Table

/-- **Locks over a whole history.** Start with any files of which none is locked, and let any locks be taken,
given back and asked about, by processes whose numbers are not longer than what is read of a lock file. Then
the lock files behave like a table of locks, one for each file, at every point. -/
theorem lock_table {m : Machine} (hnumbered : m.files.Numbered)
    (hunlocked : ∀ x ∈ m.files.openFiles, x.2.lock = none) (history : List Request)
    (hshort : ∀ lock, .acquire lock ∈ history → lock.process < 10 ^ holderBytes) :
    Table (run history ⟨m, []⟩) :=
  table_of_sound (sound_run (Sound.start hnumbered hunlocked) hshort)

/-- A file that was left behind is taken over, and again once it is given back; the first lock given back for
a second time takes nothing away from the second one. -/
theorem lock_table_inherited :
    let path : Path := ⟨.working, ["lock"]⟩
    let s := run [.acquire ⟨path, 7⟩, .acquire ⟨path, 8⟩, .release 0, .acquire ⟨path, 8⟩]
      ⟨.ofParts abandoned .empty, []⟩
    s.grants = [⟨⟨path, none⟩, 7⟩, ⟨⟨path, some 5⟩, 8⟩]
      ∧ perform (.release 0) s = (.released (.ok ()), s)
      ∧ ∃ i, s.machine.files.status path = .ok ⟨i, .file⟩ ∧ s.machine.files.bytes i = signature 8 := by
  intro path s
  have hnumbered : abandoned.Numbered := by
    refine ⟨fun l e he => ?_, fun x hx => absurd hx List.not_mem_nil⟩
    have hmem : (l, e) ∈ abandoned.entries := Pairs.mem_of_get? he
    have hall : ∀ x ∈ abandoned.entries, x.2.inode < abandoned.fresh := by decide +kernel
    exact hall _ hmem
  have htable : Table s := by
    apply lock_table
    · exact hnumbered
    · exact fun x hx => absurd hx List.not_mem_nil
    · intro lock hlock
      simp only [List.mem_cons, Request.acquire.injEq, reduceCtorEq, List.not_mem_nil, or_false,
        false_or] at hlock
      rcases hlock with rfl | rfl | rfl <;> simp [holderBytes]
  have hgrants : s.grants = [⟨⟨path, none⟩, 7⟩, ⟨⟨path, some 5⟩, 8⟩] := by decide +kernel
  refine ⟨hgrants, ?_, ?_⟩
  · exact htable.again 0 ⟨⟨path, none⟩, 7⟩ (by rw [hgrants]; rfl) rfl
  · exact htable.contents ⟨⟨path, some 5⟩, 8⟩ (by rw [hgrants]; exact .tail _ (.head _)) rfl

/-- A lock file that was left behind at a place from which nothing may be removed. -/
def immovable : FileSystem :=
  { abandoned with fixed := [(["lock"], some "Permission denied")] }

/-- A lock file that cannot be removed is still there when its lock was given back; and who asks for it on a
way round, through a directory that is not there, does not find the lock that is out. -/
theorem lock_table_immovable :
    let path : Path := ⟨.working, ["lock"]⟩
    let round : Path := ⟨.working, ["missing", "..", "lock"]⟩
    let s := run [.acquire ⟨path, 7⟩] ⟨.ofParts immovable .empty, []⟩
    CanOpen immovable path ∧ s.grants = [⟨⟨path, some 2⟩, 7⟩]
      ∧ (perform (.release 0) s).1 = .released (.error (.system (.denied (some "Permission denied"))))
      ∧ (perform (.release 0) s).2.machine.files.status path = .ok ⟨1, .file⟩
      ∧ CanOpen s.machine.files round ∧ SameFile (directoriesMade s.machine.files round) path round
      ∧ (perform (.ask round) s).1 = .answered (.ok false) := by
  intro path round s
  have hpath : (directoriesMade s.machine.files round).status path = .ok ⟨1, .file⟩ := by decide +kernel
  have hround : (directoriesMade s.machine.files round).status round = .ok ⟨1, .file⟩ := by decide +kernel
  exact ⟨by decide +kernel, by decide +kernel, by decide +kernel, by decide +kernel, by decide +kernel,
    ⟨_, _, hpath, hround, rfl⟩, by decide +kernel⟩

end ClusterHealth.Lock
