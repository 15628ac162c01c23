import ClusterHealth.Lock
import ClusterHealth.Proofs.Action
import ClusterHealth.Proofs.FileSystem

/-!
# `ClusterHealth.Proofs.Lock.Alone` — a lock that nobody else is after

A process that is alone with its lock file either gets the lock or fails; if it got the lock, it can give it
back. Whatever the file system is like, the path of a lock that was taken names a file that is locked alone,
and as long as nobody touches that, giving the lock back removes the file and closes it. It fails just if
nothing may be removed from that place; then the file is closed as well, and stays.

## Contents
- `Routine.run_of_invariant`: an invariant of the stages of a routine, and what it ends with.
- `Has path d lock`: the path names the file that is open at a descriptor.
- `Acquire.run_alone`: taking a lock.
- `removal`, `givenBack`: how giving one back ends, and the files that it leaves.
- `Release.run_alone`: giving one back.
- `acquire_ok`, `acquire_error`, `release_of_has`: the same with what is put down in the journal.
-/

namespace ClusterHealth.Lock

open FileSystem ClusterHealth.Machine

/-! ## Invariants of routines -/

/-- **An invariant of the stages.** What every stage passes on to the next is there when the last one ends. -/
theorem Routine.run_of_invariant {σ α : Type} {r : Routine σ α} {others : Others σ}
    {I : σ → FileSystem → Prop} {Q : Except Failure α → FileSystem → Prop}
    (hstep : ∀ s fs s' fs', I s fs → r.step s (others s fs) = (.inl s', fs') → I s' fs')
    (hend : ∀ s fs result fs', I s fs → r.step s (others s fs) = (.inr result, fs') → Q result fs')
    {s : σ} {fs : FileSystem} (h : I s fs) : Q (r.run others s fs).1 (r.run others s fs).2 := by
  -- By induction on the stages that may still follow.
  generalize hn : r.remaining s = n
  induction n using Nat.strongRecOn generalizing s fs with
  | ind n ih =>
    rcases hs : r.step s (others s fs) with ⟨s' | result, fs'⟩
    · rw [run_of_next hs]
      exact ih (r.remaining s') (hn ▸ r.closer hs) (hstep s fs s' fs' h hs) rfl
    · rw [run_of_end hs]
      exact hend s fs result fs' h hs

/-! ## The file of a lock -/

/-- The path names the file that is open at a descriptor, with its lock. -/
def Has (path : Path) (d : Descriptor) (lock : Option LockMode) (fs : FileSystem) : Prop :=
  ∃ i, fs.status path = .ok ⟨i, .file⟩ ∧ fs.openFile? d = some ⟨i, lock⟩

variable {path : Path} {d : Descriptor} {mode : Option LockMode} {fs fs' : FileSystem}

/-- What the path names, and what is open, stay the same when bytes are written. -/
theorem Has.setBytes (h : Has path d mode fs) (i : Inode) (bs : List UInt8) :
    Has path d mode (fs.setBytes i bs) := by
  obtain ⟨j, hstatus, hopen⟩ := h
  have hsame : (fs.setBytes i bs).status path = fs.status path := status_of_entries rfl rfl
  exact ⟨j, hsame.trans hstatus, hopen⟩

theorem Has.truncate (h : Has path d mode fs) : Has path d mode (fs.truncate d) := by
  unfold FileSystem.truncate
  split
  · exact h
  · exact h.setBytes _ _

theorem Has.writeStart (h : Has path d mode fs) (bs : List UInt8) : Has path d mode (fs.writeStart d bs) := by
  unfold FileSystem.writeStart
  split
  · exact h
  · exact h.setBytes _ _

/-- A file that is opened, or made, is the one that the path names. -/
theorem Has.openOrCreate (h : fs.openOrCreate path = .ok (d, fs')) : Has path d none fs' := by
  obtain ⟨l, hl, ⟨i, hentry, hopened⟩ | ⟨hentry, hopened⟩⟩ := openOrCreate_eq_ok h
  · obtain ⟨rfl, rfl⟩ := Prod.mk.inj hopened
    have hsame : (fs.openInode i).2.status path = fs.status path := status_of_entries rfl rfl
    exact ⟨i, hsame.trans ((status_eq_ok_iff hl).2 hentry), Pairs.get?_put_self _ _ _⟩
  · obtain ⟨rfl, rfl⟩ := Prod.mk.inj hopened
    -- Only files come and go on the way, so the path leads to the new one.
    have hleads : (fs.create l .file).locate path = .ok l := by
      refine locate_of_directories hl rfl ?_
      intro m j hm
      have hne : m ≠ l := by
        rintro rfl
        rw [hentry] at hm
        exact nomatch hm
      exact ⟨j, by rw [entry?_create_ne hne, hm]⟩
    have hsame : ((fs.create l .file).openInode fs.fresh).2.status path = (fs.create l .file).status path :=
      status_of_entries rfl rfl
    exact ⟨fs.fresh, hsame.trans ((status_eq_ok_iff hleads).2 entry?_create_self),
      Pairs.get?_put_self _ _ _⟩

theorem Has.tryLock {wanted : LockMode} (h : Has path d mode fs)
    (hlock : fs.tryLock d wanted = some fs') : Has path d (some wanted) fs' := by
  obtain ⟨i, hstatus, hopen⟩ := h
  obtain ⟨file, hfile, -, rfl⟩ := tryLock_eq_some hlock
  obtain rfl : file = ⟨i, mode⟩ := Option.some.inj (hfile.symm.trans hopen)
  refine ⟨i, ?_, openFile?_setLock_self hfile⟩
  rw [status_of_entries entries_setLock working_setLock]
  exact hstatus

theorem Has.names (h : Has path d mode fs) : fs.names path d = .ok true := by
  obtain ⟨i, hstatus, hopen⟩ := h
  simp [FileSystem.names, hstatus, hopen]

/-- The path leads to the file. -/
theorem Has.locate (h : Has path d mode fs) : ∃ l i, fs.locate path = .ok l ∧ fs.entry? l = some ⟨i, .file⟩ := by
  obtain ⟨i, hstatus, -⟩ := h
  cases hl : fs.locate path with
  | ok l => exact ⟨l, i, rfl, (status_eq_ok_iff hl).1 hstatus⟩
  | error e =>
    simp only [status, hl] at hstatus
    cases hstatus

/-! ## Taking the lock -/

/-- What a stage relies on: the path names the file that is open, and once that is locked, it is locked
alone. -/
def Acquire.Sure (path : Path) : Acquire → FileSystem → Prop
  | .locking _ d, fs => Has path d none fs
  | .comparing _ d, fs | .clearing d, fs | .signing d, fs => Has path d (some .exclusive) fs
  | _, _ => True

theorem Acquire.step_sure {lock : LockFile} {s s' : Acquire} (h : s.Sure lock.path fs)
    (hstep : step lock s fs = (.inl s', fs')) : s'.Sure lock.path fs' := by
  -- Opening and locking bring about what the next stage relies on, and the others pass it on.
  cases s with
  | opening left =>
    simp only [step] at hstep
    split at hstep
    · next d fs₁ ho =>
      obtain ⟨hs, rfl⟩ := Prod.mk.inj hstep
      rw [← Sum.inl.inj hs]
      exact Has.openOrCreate ho
    all_goals cases hstep
  | locking left d =>
    simp only [step] at hstep
    split at hstep
    · next fs₁ ht =>
      obtain ⟨hs, rfl⟩ := Prod.mk.inj hstep
      rw [← Sum.inl.inj hs]
      exact Has.tryLock h ht
    · obtain ⟨hs, rfl⟩ := Prod.mk.inj hstep
      rw [← Sum.inl.inj hs]
      exact trivial
  | comparing left d =>
    simp only [step, Has.names h] at hstep
    obtain ⟨hs, rfl⟩ := Prod.mk.inj hstep
    rw [← Sum.inl.inj hs]
    exact h
  | unlocking left d =>
    obtain ⟨hs, rfl⟩ := Prod.mk.inj hstep
    rw [← Sum.inl.inj hs]
    exact trivial
  | closing left d =>
    cases left with
    | zero => cases hstep
    | succ left =>
      obtain ⟨hs, rfl⟩ := Prod.mk.inj hstep
      rw [← Sum.inl.inj hs]
      exact trivial
  | clearing d =>
    obtain ⟨hs, rfl⟩ := Prod.mk.inj hstep
    rw [← Sum.inl.inj hs]
    exact Has.truncate h
  | signing d => cases hstep
  | asking d =>
    simp only [step] at hstep
    split at hstep
    · obtain ⟨hs, rfl⟩ := Prod.mk.inj hstep
      rw [← Sum.inl.inj hs]
      exact trivial
    · split at hstep
      · obtain ⟨hs, rfl⟩ := Prod.mk.inj hstep
        rw [← Sum.inl.inj hs]
        exact trivial
      · cases hstep
  | refusing d holder => cases hstep

/-- The only way out that is no failure is behind the last stage. -/
theorem Acquire.step_gives {lock : LockFile} {s : Acquire} (h : s.Sure lock.path fs)
    (hstep : step lock s fs = (.inr (.ok d), fs')) : Has lock.path d (some .exclusive) fs' := by
  -- Every stage but signing goes on to another one, or ends with a failure.
  cases s with
  | opening left =>
    simp only [step] at hstep
    split at hstep <;> cases hstep
  | locking left d =>
    simp only [step] at hstep
    split at hstep <;> cases hstep
  | comparing left d =>
    simp only [step, Has.names h] at hstep
    cases hstep
  | unlocking left d => cases hstep
  | closing left d => cases left <;> cases hstep
  | clearing d => cases hstep
  | signing d₁ =>
    obtain ⟨hs, rfl⟩ := Prod.mk.inj hstep
    obtain rfl : d₁ = d := Except.ok.inj (Sum.inr.inj hs)
    exact Has.writeStart h _
  | asking d =>
    simp only [step] at hstep
    split at hstep
    · cases hstep
    · split at hstep <;> cases hstep
  | refusing d holder => cases hstep

/-- **A lock that was taken** is an exclusive lock on the file that the path names. -/
theorem Acquire.run_alone {lock : LockFile}
    (h : (routine lock).run alone .start fs = (.ok d, fs')) : Has lock.path d (some .exclusive) fs' := by
  have hrun : ∀ d, ((routine lock).run alone .start fs).1 = .ok d →
      Has lock.path d (some .exclusive) ((routine lock).run alone .start fs).2 :=
    Routine.run_of_invariant (I := fun s fs => s.Sure lock.path fs)
      (Q := fun result fs => ∀ d, result = .ok d → Has lock.path d (some .exclusive) fs)
      (fun s fs s' fs' hs hstep => step_sure hs hstep)
      (fun s fs result fs' hs hstep d hd => step_gives hs (hd ▸ hstep)) trivial
  rw [h] at hrun
  exact hrun d rfl

/-! ## Giving it back -/

/-- How giving a lock back ends, by what went wrong on the way. -/
def Release.resultOf : Option SystemFailure → Except Failure Unit
  | none => .ok ()
  | some e => .error (.system e)

/-- **Whatever went wrong**, the lock is dropped and the file is closed. -/
theorem Release.run_unlocking (path : Path) (d : Descriptor) (failed : Option SystemFailure) (fs : FileSystem) :
    (routine path).run alone (.unlocking d failed) fs = (resultOf failed, fs.close d) := by
  have hclosing : step path (.closing d failed) (fs.unlock d) = (.inr (resultOf failed), (fs.unlock d).close d) := by
    cases failed <;> rfl
  calc (routine path).run alone (.unlocking d failed) fs
    _ = (routine path).run alone (.closing d failed) (fs.unlock d) := Routine.run_of_next rfl
    _ = (resultOf failed, (fs.unlock d).close d) := Routine.run_of_end hclosing
    _ = (resultOf failed, fs.close d) := by rw [FileSystem.unlock, close_setLock]

/-- Whether the file of a lock can be removed when the lock is given back. -/
def removal (fs : FileSystem) (path : Path) : Except Failure Unit :=
  Release.resultOf ((fs.fixed? path).map .denied)

/-- The files once a lock was given back: its file is removed, if it can be, and closed. -/
def givenBack (fs : FileSystem) (path : Path) (d : Descriptor) : FileSystem :=
  ((fs.remove path).toOption.getD fs).close d

theorem openFile?_givenBack : (givenBack fs path d).openFile? d = none :=
  Pairs.get?_erase_self _ _

theorem removal_eq_ok : removal fs path = .ok () ↔ fs.fixed? path = none := by
  unfold removal
  cases fs.fixed? path with
  | none => exact iff_of_true rfl rfl
  | some reason => exact iff_of_false nofun nofun

theorem removal_eq_error {e : Failure} :
    removal fs path = .error e ↔ ∃ reason, fs.fixed? path = some reason ∧ e = .system (.denied reason) := by
  unfold removal
  cases fs.fixed? path with
  | none => exact iff_of_false nofun fun ⟨_, h, _⟩ => nomatch h
  | some reason =>
    constructor
    · intro h
      exact ⟨reason, rfl, (Except.error.inj h).symm⟩
    · rintro ⟨reason', h, rfl⟩
      cases h
      rfl

theorem givenBack_of_free {l : Location} (h : Has path d mode fs) (hl : fs.locate path = .ok l)
    (hfixed : fs.fixed? path = none) :
    givenBack fs path d = { fs with
      entries := Pairs.erase l fs.entries
      openFiles := Pairs.erase d fs.openFiles } := by
  obtain ⟨l', i, hl', hi⟩ := h.locate
  obtain rfl : l' = l := Except.ok.inj (hl'.symm.trans hl)
  unfold givenBack
  rw [remove_of_file hl hi hfixed]
  rfl

theorem givenBack_of_fixed {reason : Option String} (h : Has path d mode fs)
    (hfixed : fs.fixed? path = some reason) : givenBack fs path d = fs.close d := by
  obtain ⟨l, i, hl, hi⟩ := h.locate
  unfold givenBack
  rw [remove_of_fixed hl hi hfixed]
  rfl

/-- The path of a file that was removed names nothing. -/
theorem status_givenBack (h : Has path d mode fs) (hfixed : fs.fixed? path = none) :
    (givenBack fs path d).status path = .error .notFound := by
  obtain ⟨l, i, hl, hi⟩ := h.locate
  rw [givenBack_of_free h hl hfixed]
  -- Only a file went, so the path still leads to its place.
  have hleads : ({ fs with
      entries := Pairs.erase l fs.entries
      openFiles := Pairs.erase d fs.openFiles } : FileSystem).locate path = .ok l := by
    refine locate_of_directories hl rfl ?_
    intro m j hm
    have hne : m ≠ l := by
      rintro rfl
      rw [hi] at hm
      cases congrArg Entry.kind (Option.some.inj hm)
    exact ⟨j, (Pairs.get?_erase_ne hne _).trans hm⟩
  have hgone : Pairs.get? l (Pairs.erase l fs.entries) = none := Pairs.get?_erase_self _ _
  simp only [status, hleads, FileSystem.entry?, hgone]

/-- **A lock whose path names its file** is given back: the file is removed, if it can be, and closed. -/
theorem Release.run_alone (h : Has path d mode fs) :
    (routine path).run alone (.comparing d) fs = (removal fs path, givenBack fs path d) := by
  obtain ⟨l, i, hl, hi⟩ := h.locate
  have hcomparing : step path (.comparing d) fs = (.inl (.removing d), fs) := by
    simp only [step, h.names]
  have hremoving : step path (.removing d) fs = (.inl (.unlocking d ((fs.fixed? path).map .denied)),
      (fs.remove path).toOption.getD fs) := by
    cases hfixed : fs.fixed? path with
    | none =>
      simp only [step, remove_of_file hl hi hfixed]
      rfl
    | some reason =>
      simp only [step, remove_of_fixed hl hi hfixed]
      rfl
  calc (routine path).run alone (.comparing d) fs
    _ = (routine path).run alone (.removing d) fs := Routine.run_of_next hcomparing
    _ = (routine path).run alone (.unlocking d ((fs.fixed? path).map .denied)) ((fs.remove path).toOption.getD fs) :=
      Routine.run_of_next hremoving
    _ = (removal fs path, givenBack fs path d) := run_unlocking path d _ _

/-! ## On a machine -/

section Machines

variable {lock : LockFile} {m m' : Machine}

theorem acquire_apply (lock : LockFile) (others : Others Acquire) (m : Machine) : acquire lock others m =
    match m.files.makeDirectories lock.path.parent with
    | (.error e, fs) => (.error (.system e), { m with files := fs })
    | (.ok (), fs) =>
      match (Acquire.routine lock).run others .start fs with
      | (.error e, fs) => (.error e, { m with files := fs })
      | (.ok d, fs) =>
        (.ok ⟨lock.path, some d⟩,
          { m with files := fs, journal := m.journal ++ [.notice (.lockAcquired lock.path)] }) := by
  unfold acquire
  have hmade : (ExceptT.lift (onFiles (·.makeDirectories lock.path.parent)) : Action Machine _) m =
      (.ok (m.files.makeDirectories lock.path.parent).1,
        { m with files := (m.files.makeDirectories lock.path.parent).2 }) := rfl
  rw [Action.bind_of_ok hmade]
  rcases m.files.makeDirectories lock.path.parent with ⟨e | ⟨⟩, fs⟩
  · rfl
  · simp only
    have htaken : (ExceptT.lift (onFiles ((Acquire.routine lock).run others .start)) : Action Machine _)
        { m with files := fs } = (.ok ((Acquire.routine lock).run others .start fs).1,
          { m with files := ((Acquire.routine lock).run others .start fs).2 }) := rfl
    rw [Action.bind_of_ok htaken]
    rcases (Acquire.routine lock).run others .start fs with ⟨e | d, fs'⟩ <;> rfl

/-- A lock that is not taken leaves the cluster alone and says nothing. -/
theorem acquire_error {others : Others Acquire} {e : Failure}
    (h : acquire lock others m = (.error e, m')) : m'.journal = m.journal ∧ m'.cluster = m.cluster := by
  rw [acquire_apply] at h
  split at h
  · obtain ⟨-, rfl⟩ := Prod.mk.inj h
    exact ⟨rfl, rfl⟩
  · split at h
    · obtain ⟨-, rfl⟩ := Prod.mk.inj h
      exact ⟨rfl, rfl⟩
    · exact nomatch (congrArg Prod.fst h)

/-- **A lock that is taken** is put down in the journal, and its file is locked alone. -/
theorem acquire_ok {handle : Handle} (h : acquire lock alone m = (.ok handle, m')) :
    ∃ d, handle = ⟨lock.path, some d⟩ ∧ Has lock.path d (some .exclusive) m'.files
      ∧ m'.cluster = m.cluster ∧ m'.journal = m.journal ++ [.notice (.lockAcquired lock.path)] := by
  rw [acquire_apply] at h
  split at h
  · exact nomatch (congrArg Prod.fst h)
  · split at h
    · exact nomatch (congrArg Prod.fst h)
    · next d fs hrun =>
      obtain ⟨hhandle, rfl⟩ := Prod.mk.inj h
      exact ⟨d, (Except.ok.inj hhandle).symm, Acquire.run_alone hrun, rfl, rfl⟩

theorem release_apply {h : Handle} {d : Descriptor} (hd : h.descriptor = some d) (others : Others Release)
    (m : Machine) : release h others m =
      match (Release.routine h.path).run others (.comparing d) m.files with
      | (.ok (), fs) => ((⟨h.path, none⟩, .ok ()), { m with
          files := fs
          journal := m.journal ++ [.unlocked h.path, .notice (.lockReleased h.path)] })
      | (.error e, fs) => ((⟨h.path, none⟩, .error e), { m with
          files := fs
          journal := m.journal ++ [.unlocked h.path] }) := by
  have hgiven : onFiles ((Release.routine h.path).run others (.comparing d)) m
      = (((Release.routine h.path).run others (.comparing d) m.files).1,
        { m with files := ((Release.routine h.path).run others (.comparing d) m.files).2 }) := rfl
  have hjournal : m.journal ++ [.unlocked h.path, .notice (.lockReleased h.path)]
      = m.journal ++ [.unlocked h.path] ++ [.notice (.lockReleased h.path)] := by
    rw [List.append_assoc]
    rfl
  unfold release
  rw [hd]
  simp only
  rw [Action.step_bind_apply, hgiven]
  rcases (Release.routine h.path).run others (.comparing d) m.files with ⟨e | ⟨⟩, fs⟩
  · rfl
  · rw [hjournal]
    rfl

/-- A lock that was given back before stays as it is. -/
theorem release_released {h : Handle} (hd : h.descriptor = none) (others : Others Release) (m : Machine) :
    release h others m = ((h, .ok ()), m) := by
  unfold release
  rw [hd]
  rfl

/-- What is put down in the journal when a lock is given back. -/
def farewell (fs : FileSystem) (path : Path) : List Event :=
  match fs.fixed? path with
  | none => [.unlocked path, .notice (.lockReleased path)]
  | some _ => [.unlocked path]

/-- **A lock that is given back** while its path names its file. -/
theorem release_of_has {path : Path} {d : Descriptor} {mode : Option LockMode} (h : Has path d mode m.files) :
    release ⟨path, some d⟩ alone m = ((⟨path, none⟩, removal m.files path), { m with
      files := givenBack m.files path d
      journal := m.journal ++ farewell m.files path }) := by
  rw [release_apply rfl, Release.run_alone h]
  unfold removal farewell
  cases m.files.fixed? path <;> rfl

end Machines

end ClusterHealth.Lock
