import ClusterHealth.Proofs.Directories
import ClusterHealth.Proofs.Lock.Alone
import ClusterHealth.Proofs.Lock.Holder

/-!
# `ClusterHealth.Proofs.Lock.Results` — what comes of taking a lock, and of asking

While nobody else is at work, both routines end in a file system that can be told in full: a lock that is
free is taken at the first attempt, one that is taken leaves nothing behind but a number that was used up,
and so does a question.

## Contents
- `FileSystem.spent`, `FileSystem.signed`: the file systems that routines end in.
- `FileSystem.Taken`: another open file stands in the way of a lock.
- `FileSystem.Opened`: a file that was opened, or made.
- `holderIn`: what a lock file tells of its holder.
- `Acquire.run_free`, `Acquire.run_told`, `Acquire.run_illegible`: taking a lock whose file can be opened.
- `Acquire.run_denied`, `Acquire.run_unopenable`: taking one whose file cannot.
- `Ask.run_opened`, `Ask.run_missing`, `Ask.run_files`: asking.
-/

namespace ClusterHealth

namespace FileSystem

variable {fs fs₁ : FileSystem} {path : Path} {d : Descriptor} {i : Inode} {mode : LockMode}

/-! ## File systems -/

/-- A file system in which one more number is used up. -/
def spent (fs : FileSystem) : FileSystem :=
  { fs with fresh := fs.fresh + 1 }

/-- An open file locked alone, with new bytes. -/
def signed (fs : FileSystem) (d : Descriptor) (i : Inode) (bs : List UInt8) : FileSystem :=
  { fs with
    openFiles := Pairs.put d ⟨i, some .exclusive⟩ fs.openFiles
    contents := Pairs.put i bs fs.contents }

/-- An open file of the inode is locked in a way that excludes a lock of this mode. -/
def Taken (fs : FileSystem) (i : Inode) (mode : LockMode) : Prop :=
  ∃ x ∈ fs.openFiles, x.2.inode = i ∧ ∃ held, x.2.lock = some held ∧ mode.excludes held = true

theorem bytes_setBytes_self {bs : List UInt8} : (fs.setBytes i bs).bytes i = bs := by
  show (Pairs.get? i (Pairs.put i bs fs.contents)).getD [] = bs
  rw [Pairs.get?_put_self]
  rfl

theorem bytes_signed_self {bs : List UInt8} : (fs.signed d i bs).bytes i = bs := by
  show (Pairs.get? i (Pairs.put i bs fs.contents)).getD [] = bs
  rw [Pairs.get?_put_self]
  rfl

theorem bytes_signed_ne {bs : List UInt8} {j : Inode} (h : j ≠ i) :
    (fs.signed d i bs).bytes j = fs.bytes j := by
  show (Pairs.get? j (Pairs.put i bs fs.contents)).getD [] = _
  rw [Pairs.get?_put_ne h]
  rfl

/-! ## Opening -/

/-- A file that was opened, or made: `d` is a new descriptor of the inode that the path now names. -/
structure Opened (fs : FileSystem) (path : Path) (d : Descriptor) (i : Inode) (fs₁ : FileSystem) : Prop where
  status : fs₁.status path = .ok ⟨i, .file⟩
  openFiles : fs₁.openFiles = Pairs.put d ⟨i, none⟩ fs.openFiles
  descriptor_ge : fs.fresh ≤ d
  descriptor_lt : d < fs₁.fresh
  unreadable : fs₁.unreadable = fs.unreadable
  /-- What paths named, they still name. -/
  kept : ∀ q e, fs.status q = .ok e → fs₁.status q = .ok e
  added : ∀ l e, fs₁.entry? l = some e → fs.entry? l = some e ∨ e.inode < fs₁.fresh
  bytes : ∀ j < fs.fresh, fs₁.bytes j = fs.bytes j
  /-- The file was there, or it is a new one. -/
  origin : (fs.status path = .ok ⟨i, .file⟩ ∧ (d, fs₁) = fs.openInode i)
    ∨ (fs.status path = .error .notFound ∧ fs.fresh ≤ i ∧ i < fs₁.fresh)

/-- A file that was there. -/
theorem opened_openInode {l : Location} (hl : fs.locate path = .ok l) (hentry : fs.entry? l = some ⟨i, .file⟩) :
    Opened fs path fs.fresh i (fs.openInode i).2 := by
  have hsame : ∀ q, (fs.openInode i).2.status q = fs.status q := fun q => status_of_entries rfl rfl
  have hstatus : fs.status path = .ok ⟨i, .file⟩ := (status_eq_ok_iff hl).2 hentry
  exact ⟨(hsame path).trans hstatus, rfl, Nat.le_refl _, Nat.lt_succ_self _, rfl,
    fun q e hq => (hsame q).trans hq, fun m e hm => .inl hm, fun _ _ => rfl, .inl ⟨hstatus, rfl⟩⟩

/-- A file that was made. -/
theorem opened_create {l : Location} (hl : fs.locate path = .ok l) (hentry : fs.entry? l = none) :
    Opened fs path (fs.fresh + 1) fs.fresh ((fs.create l .file).openInode fs.fresh).2 := by
  have hsame : ∀ q, ((fs.create l .file).openInode fs.fresh).2.status q = (fs.create l .file).status q :=
    fun q => status_of_entries rfl rfl
  -- Only the new file was added, so that paths still lead where they led.
  have hkept : ∀ m e, fs.entry? m = some e → FileSystem.entry? (fs.create l .file) m = some e := by
    intro m e hm
    have hne : m ≠ l := by
      rintro rfl
      rw [hentry] at hm
      exact nomatch hm
    rw [entry?_create_ne hne, hm]
  have hleads : ∀ q m, fs.locate q = .ok m → (fs.create l .file).locate q = .ok m :=
    fun q m hq => locate_of_directories hq rfl fun n j hn => ⟨j, hkept n _ hn⟩
  have hlt : fs.fresh < fs.fresh + 1 + 1 := Nat.lt_trans (Nat.lt_succ_self _) (Nat.lt_succ_self _)
  refine ⟨?_, rfl, Nat.le_succ _, Nat.lt_succ_self _, rfl, ?_, ?_, ?_, .inr ⟨?_, Nat.le_refl _, hlt⟩⟩
  · refine (hsame path).trans ?_
    rw [status_eq_ok_iff (hleads path l hl)]
    exact entry?_create_self
  · intro q e hq
    refine (hsame q).trans ?_
    obtain ⟨m, hm⟩ := locate_of_status hq
    rw [status_eq_ok_iff (hleads q m hm)]
    exact hkept m e ((status_eq_ok_iff hm).1 hq)
  · intro m e hm
    by_cases hml : m = l
    · have hself : FileSystem.entry? (fs.create l .file) m = some ⟨fs.fresh, .file⟩ := hml ▸ entry?_create_self
      rw [← Option.some.inj (hself.symm.trans hm)]
      exact .inr hlt
    · have hother : FileSystem.entry? (fs.create l .file) m = fs.entry? m := entry?_create_ne hml
      exact .inl (hother.symm.trans hm)
  · intro j hj
    show (Pairs.get? j (Pairs.put fs.fresh [] fs.contents)).getD [] = _
    rw [Pairs.get?_put_ne (Nat.ne_of_lt hj)]
    rfl
  · simp only [FileSystem.status, hl, hentry]

theorem opened_of_openOrCreate (h : fs.openOrCreate path = .ok (d, fs₁)) : ∃ i, Opened fs path d i fs₁ := by
  obtain ⟨l, hl, ⟨i, hentry, hopened⟩ | ⟨hentry, hopened⟩⟩ := openOrCreate_eq_ok h
  · obtain ⟨rfl, rfl⟩ := Prod.mk.inj hopened
    exact ⟨i, opened_openInode hl hentry⟩
  · obtain ⟨rfl, rfl⟩ := Prod.mk.inj hopened
    exact ⟨fs.fresh, opened_create hl hentry⟩

namespace Opened

theorem openFile?_self (h : Opened fs path d i fs₁) : fs₁.openFile? d = some ⟨i, none⟩ := by
  unfold FileSystem.openFile?
  rw [h.openFiles]
  exact Pairs.get?_put_self _ _ _

theorem has (h : Opened fs path d i fs₁) : Lock.Has path d none fs₁ :=
  ⟨i, h.status, h.openFile?_self⟩

/-- Nothing was open at the new descriptor. -/
theorem descriptor_new (h : Opened fs path d i fs₁) (hn : fs.Numbered) :
    ∀ x ∈ fs.openFiles, x.1 ≠ d :=
  fun x hx => Nat.ne_of_lt (Nat.lt_of_lt_of_le (hn.open_lt x hx).1 h.descriptor_ge)

theorem fresh_le (h : Opened fs path d i fs₁) : fs.fresh ≤ fs₁.fresh :=
  Nat.le_trans h.descriptor_ge (Nat.le_of_lt h.descriptor_lt)

theorem preserved (h : Opened fs path d i fs₁) (hn : fs.Numbered) : fs.Preserved fs₁ :=
  fun q e hq => ⟨h.kept q e hq, h.bytes _ (hn.status_lt hq)⟩

theorem inode_lt (h : Opened fs path d i fs₁) (hn : fs.Numbered) : i < fs₁.fresh := by
  rcases h.origin with ⟨hstatus, -⟩ | ⟨-, -, hlt⟩
  · exact Nat.lt_of_lt_of_le (hn.status_lt hstatus) h.fresh_le
  · exact hlt

end Opened

/-- A new open file waits for the locks that were there before. -/
theorem blocked_iff (hfiles : fs₁.openFiles = Pairs.put d ⟨i, none⟩ fs.openFiles)
    (hnew : ∀ x ∈ fs.openFiles, x.1 ≠ d) : fs₁.blocked d i mode = true ↔ fs.Taken i mode := by
  unfold blocked
  rw [List.any_eq_true, hfiles]
  constructor
  · rintro ⟨x, hx, hblocks⟩
    simp only [Bool.and_eq_true, decide_eq_true_eq] at hblocks
    obtain ⟨⟨hne, hi⟩, hlock⟩ := hblocks
    rcases Pairs.mem_of_mem_put hx with rfl | hx
    · exact absurd rfl hne
    · cases hheld : x.2.lock with
      | none =>
        rw [hheld] at hlock
        exact nomatch hlock
      | some held =>
        rw [hheld] at hlock
        exact ⟨x, hx, hi, held, hheld, hlock⟩
  · rintro ⟨x, hx, hi, held, hheld, hexcludes⟩
    have hne := hnew x hx
    refine ⟨x, Pairs.mem_put_of_ne hx hne, ?_⟩
    simp [hne, hi, hheld, hexcludes]

/-- An open file closed at once leaves nothing behind but its number. -/
theorem close_openInode (hn : fs.Numbered) : (fs.openInode i).2.close fs.fresh = fs.spent := by
  have herase : Pairs.erase fs.fresh (Pairs.put fs.fresh ⟨i, none⟩ fs.openFiles) = fs.openFiles :=
    Pairs.erase_put fun x hx => Nat.ne_of_lt (hn.open_lt x hx).1
  show { fs with
    openFiles := Pairs.erase fs.fresh (Pairs.put fs.fresh ⟨i, none⟩ fs.openFiles)
    fresh := fs.fresh + 1 } = fs.spent
  rw [herase]
  rfl

end FileSystem

namespace Lock

open FileSystem

variable {fs fs₁ : FileSystem} {path : Path} {d : Descriptor} {i : Inode}

/-! ## Taking the lock -/

/-- The number that a file tells of its holder; none is told by a file that cannot be read. -/
def holderIn (fs : FileSystem) (i : Inode) : Except Failure (Option Nat) :=
  if fs.unreadable then .ok none else holderOf ((fs.bytes i).take holderBytes)

section Acquire

variable {lock : LockFile}

/-- A lock file that may not be opened. -/
theorem Acquire.run_denied {reason : Option String} (h : fs.openOrCreate lock.path = .error (.denied reason)) :
    (routine lock).run alone .start fs = (.error (.lockFile lock.path (reasonText reason)), fs) := by
  have hopening : step lock .start fs = (.inr (.error (.lockFile lock.path (reasonText reason))), fs) := by
    simp only [start, step, h]
  exact Routine.run_of_end hopening

/-- A lock file that cannot be opened for any other reason. -/
theorem Acquire.run_unopenable {e : SystemFailure} (he : ∀ reason, e ≠ .denied reason)
    (h : fs.openOrCreate lock.path = .error e) :
    (routine lock).run alone .start fs = (.error (.system e), fs) := by
  have hopening : step lock .start fs = (.inr (.error (.system e)), fs) := by
    simp only [start, step, h]
  exact Routine.run_of_end hopening

/-- A lock file that cannot be opened leaves the files as they are. -/
theorem Acquire.run_unopened {e : SystemFailure} (h : fs.openOrCreate lock.path = .error e) :
    ∃ failure, (routine lock).run alone .start fs = (.error failure, fs) := by
  by_cases hdenied : ∃ reason, e = .denied reason
  · obtain ⟨reason, rfl⟩ := hdenied
    exact ⟨_, run_denied h⟩
  · exact ⟨_, run_unopenable (fun reason he => hdenied ⟨reason, he⟩) h⟩

theorem Acquire.step_start (h : fs.openOrCreate lock.path = .ok (d, fs₁)) :
    step lock .start fs = (.inl (.locking (attempts - 1) d), fs₁) := by
  simp only [start, step, h]

/-- **A lock that is free is taken**: the file is locked alone, and holds the number of the process and
nothing else. -/
theorem Acquire.run_free (hopen : fs.openOrCreate lock.path = .ok (d, fs₁))
    (o : Opened fs lock.path d i fs₁) (hn : fs.Numbered) (hfree : ¬ fs.Taken i .exclusive) :
    (routine lock).run alone .start fs = (.ok d, fs₁.signed d i (signature lock.process)) := by
  have hunblocked : fs₁.blocked d i .exclusive = false :=
    Bool.eq_false_iff.2 fun hblocked => hfree ((blocked_iff o.openFiles (o.descriptor_new hn)).1 hblocked)
  have hlocked : fs₁.setLock d (some .exclusive)
      = { fs₁ with openFiles := Pairs.put d ⟨i, some .exclusive⟩ fs₁.openFiles } := by
    unfold setLock
    rw [o.openFile?_self]
  have hfile : (fs₁.setLock d (some .exclusive)).openFile? d = some ⟨i, some .exclusive⟩ :=
    openFile?_setLock_self o.openFile?_self
  have hlocking : step lock (.locking (attempts - 1) d) fs₁
      = (.inl (.comparing (attempts - 1) d), fs₁.setLock d (some .exclusive)) := by
    simp only [step, tryLock, o.openFile?_self, hunblocked]
    rfl
  have hhas : Has lock.path d (some .exclusive) (fs₁.setLock d (some .exclusive)) := by
    refine ⟨i, ?_, hfile⟩
    rw [status_of_entries entries_setLock working_setLock]
    exact o.status
  have hcomparing : step lock (.comparing (attempts - 1) d) (fs₁.setLock d (some .exclusive))
      = (.inl (.clearing d), fs₁.setLock d (some .exclusive)) := by
    simp only [step, hhas.names]
  have hclear : (fs₁.setLock d (some .exclusive)).truncate d
      = (fs₁.setLock d (some .exclusive)).setBytes i [] := by
    unfold FileSystem.truncate
    rw [hfile]
  have hclearing : step lock (.clearing d) (fs₁.setLock d (some .exclusive))
      = (.inl (.signing d), (fs₁.setLock d (some .exclusive)).setBytes i []) := by
    simp only [step, hclear]
  have hopenFile : ((fs₁.setLock d (some .exclusive)).setBytes i []).openFile? d
      = some ⟨i, some .exclusive⟩ := hfile
  have hsign : ((fs₁.setLock d (some .exclusive)).setBytes i []).writeStart d (signature lock.process)
      = fs₁.signed d i (signature lock.process) := by
    unfold FileSystem.writeStart
    rw [hopenFile]
    simp only
    rw [bytes_setBytes_self, List.drop_nil, List.append_nil, hlocked]
    show { fs₁ with
      openFiles := Pairs.put d ⟨i, some .exclusive⟩ fs₁.openFiles
      contents := Pairs.put i (signature lock.process) (Pairs.put i [] fs₁.contents) } = _
    rw [Pairs.put_put]
    rfl
  have hsigning : step lock (.signing d) ((fs₁.setLock d (some .exclusive)).setBytes i [])
      = (.inr (.ok d), fs₁.signed d i (signature lock.process)) := by
    have hstep : step lock (.signing d) ((fs₁.setLock d (some .exclusive)).setBytes i [])
        = (.inr (.ok d),
          ((fs₁.setLock d (some .exclusive)).setBytes i []).writeStart d (signature lock.process)) := rfl
    rw [hstep, hsign]
  calc (routine lock).run alone .start fs
    _ = (routine lock).run alone (.locking (attempts - 1) d) fs₁ :=
      Routine.run_of_next (step_start hopen)
    _ = (routine lock).run alone (.comparing (attempts - 1) d) (fs₁.setLock d (some .exclusive)) :=
      Routine.run_of_next hlocking
    _ = (routine lock).run alone (.clearing d) (fs₁.setLock d (some .exclusive)) :=
      Routine.run_of_next hcomparing
    _ = (routine lock).run alone (.signing d) ((fs₁.setLock d (some .exclusive)).setBytes i []) :=
      Routine.run_of_next hclearing
    _ = (.ok d, fs₁.signed d i (signature lock.process)) := Routine.run_of_end hsigning

/-- A lock that is taken has its holder asked for. -/
theorem Acquire.run_blocked (hopen : fs.openOrCreate lock.path = .ok (d, fs₁))
    (o : Opened fs lock.path d i fs₁) (hn : fs.Numbered) (htaken : fs.Taken i .exclusive) :
    (routine lock).run alone .start fs = (routine lock).run alone (.asking d) fs₁ := by
  have hblocked : fs₁.blocked d i .exclusive = true := (blocked_iff o.openFiles (o.descriptor_new hn)).2 htaken
  have hlocking : step lock (.locking (attempts - 1) d) fs₁ = (.inl (.asking d), fs₁) := by
    simp only [step, tryLock, o.openFile?_self, hblocked]
    rfl
  calc (routine lock).run alone .start fs
    _ = (routine lock).run alone (.locking (attempts - 1) d) fs₁ :=
      Routine.run_of_next (step_start hopen)
    _ = (routine lock).run alone (.asking d) fs₁ := Routine.run_of_next hlocking

/-- What an open file tells of its holder decides how asking for it goes on. -/
theorem Acquire.step_asking {mode : Option LockMode} (h : fs.openFile? d = some ⟨i, mode⟩) :
    step lock (.asking d) fs =
      match holderIn fs i with
      | .ok holder => (.inl (.refusing d holder), fs)
      | .error e => (.inr (.error e), fs) := by
  unfold holderIn
  by_cases hread : fs.unreadable = true
  · simp only [step, readStart, if_pos hread]
  · have hstart : fs.readStart d holderBytes = some ((fs.bytes i).take holderBytes) := by
      unfold readStart
      rw [if_neg hread, h]
      rfl
    rw [if_neg hread]
    cases hholder : holderOf ((fs.bytes i).take holderBytes) with
    | ok holder => simp only [step, hstart, hholder]
    | error e => simp only [step, hstart, hholder]

/-- **A lock that is taken is refused** with the number that its file tells; the file is closed again. -/
theorem Acquire.run_told {holder : Option Nat} (hopen : fs.openOrCreate lock.path = .ok (d, fs₁))
    (o : Opened fs lock.path d i fs₁) (hn : fs.Numbered) (htaken : fs.Taken i .exclusive)
    (hholder : holderIn fs₁ i = .ok holder) :
    (routine lock).run alone .start fs
      = (.error (.alreadyRunning lock.path (holder.map Int.ofNat)), fs₁.close d) := by
  have hasking : step lock (.asking d) fs₁ = (.inl (.refusing d holder), fs₁) := by
    rw [step_asking o.openFile?_self, hholder]
  calc (routine lock).run alone .start fs
    _ = (routine lock).run alone (.asking d) fs₁ := run_blocked hopen o hn htaken
    _ = (routine lock).run alone (.refusing d holder) fs₁ := Routine.run_of_next hasking
    _ = (.error (.alreadyRunning lock.path (holder.map Int.ofNat)), fs₁.close d) := Routine.run_of_end rfl

/-- **A lock that is taken, and whose file makes no sense**, fails with what is wrong about the file, which
stays open. -/
theorem Acquire.run_illegible {e : Failure} (hopen : fs.openOrCreate lock.path = .ok (d, fs₁))
    (o : Opened fs lock.path d i fs₁) (hn : fs.Numbered) (htaken : fs.Taken i .exclusive)
    (hholder : holderIn fs₁ i = .error e) : (routine lock).run alone .start fs = (.error e, fs₁) := by
  have hasking : step lock (.asking d) fs₁ = (.inr (.error e), fs₁) := by
    rw [step_asking o.openFile?_self, hholder]
  exact (run_blocked hopen o hn htaken).trans (Routine.run_of_end hasking)

/-- A lock that is taken is refused with the number in the file, if that can be read. -/
theorem Acquire.run_taken {holder : Nat} (hopen : fs.openOrCreate lock.path = .ok (d, fs₁))
    (o : Opened fs lock.path d i fs₁) (hn : fs.Numbered) (htaken : fs.Taken i .exclusive)
    (hholder : holderOf ((fs₁.bytes i).take holderBytes) = .ok (some holder)) :
    (routine lock).run alone .start fs
      = (.error (.alreadyRunning lock.path (if fs.unreadable then none else some (Int.ofNat holder))),
        fs₁.close d) := by
  have htold : holderIn fs₁ i = .ok (if fs.unreadable then none else some holder) := by
    unfold holderIn
    rw [hholder, o.unreadable]
    cases fs.unreadable <;> rfl
  rw [run_told hopen o hn htaken htold]
  cases fs.unreadable <;> rfl

end Acquire

/-! ## Asking -/

/-- A question about a file that is there is answered by the locks on it. -/
theorem Ask.run_opened {e : Entry} (hn : fs.Numbered) (hrefusal : fs.refusal = none)
    (hstatus : fs.status path = .ok e) :
    ∃ held, (routine path).run alone .opening fs = (.ok held, fs.spent)
      ∧ (held = true ↔ fs.Taken e.inode .shared) := by
  have hopening : step path .opening fs = (.inl (.locking fs.fresh), (fs.openInode e.inode).2) := by
    simp only [step, openExisting, hrefusal, hstatus]
    rfl
  have hfile : (fs.openInode e.inode).2.openFile? fs.fresh = some ⟨e.inode, none⟩ :=
    Pairs.get?_put_self _ _ _
  have hblocked : (fs.openInode e.inode).2.blocked fs.fresh e.inode .shared = true
      ↔ fs.Taken e.inode .shared := blocked_iff rfl fun x hx => Nat.ne_of_lt (hn.open_lt x hx).1
  by_cases htaken : fs.Taken e.inode .shared
  · have hlocking : step path (.locking fs.fresh) (fs.openInode e.inode).2
        = (.inl (.closing fs.fresh true), (fs.openInode e.inode).2) := by
      simp only [step, tryLock, hfile, hblocked.2 htaken]
      rfl
    refine ⟨true, ?_, fun _ => htaken, fun _ => rfl⟩
    calc (routine path).run alone .opening fs
      _ = (routine path).run alone (.locking fs.fresh) (fs.openInode e.inode).2 :=
        Routine.run_of_next hopening
      _ = (routine path).run alone (.closing fs.fresh true) (fs.openInode e.inode).2 :=
        Routine.run_of_next hlocking
      _ = (.ok true, (fs.openInode e.inode).2.close fs.fresh) := Routine.run_of_end rfl
      _ = (.ok true, fs.spent) := by rw [close_openInode hn]
  · have hunblocked : (fs.openInode e.inode).2.blocked fs.fresh e.inode .shared = false :=
      Bool.eq_false_iff.2 fun h => htaken (hblocked.1 h)
    have hlocking : step path (.locking fs.fresh) (fs.openInode e.inode).2
        = (.inl (.unlocking fs.fresh), (fs.openInode e.inode).2.setLock fs.fresh (some .shared)) := by
      simp only [step, tryLock, hfile, hunblocked]
      rfl
    have hclosed : (((fs.openInode e.inode).2.setLock fs.fresh (some .shared)).unlock fs.fresh).close fs.fresh
        = (fs.openInode e.inode).2.close fs.fresh := by
      rw [FileSystem.unlock, close_setLock, close_setLock]
    refine ⟨false, ?_, fun h => absurd h Bool.false_ne_true, fun h => absurd h htaken⟩
    calc (routine path).run alone .opening fs
      _ = (routine path).run alone (.locking fs.fresh) (fs.openInode e.inode).2 :=
        Routine.run_of_next hopening
      _ = (routine path).run alone (.unlocking fs.fresh)
          ((fs.openInode e.inode).2.setLock fs.fresh (some .shared)) := Routine.run_of_next hlocking
      _ = (routine path).run alone (.closing fs.fresh false)
          (((fs.openInode e.inode).2.setLock fs.fresh (some .shared)).unlock fs.fresh) :=
        Routine.run_of_next rfl
      _ = (.ok false,
          (((fs.openInode e.inode).2.setLock fs.fresh (some .shared)).unlock fs.fresh).close fs.fresh) :=
        Routine.run_of_end rfl
      _ = (.ok false, fs.spent) := by rw [hclosed, close_openInode hn]

/-- A question about a file that is not there. -/
theorem Ask.run_missing (hrefusal : fs.refusal = none) (hstatus : fs.status path = .error .notFound) :
    (routine path).run alone .opening fs = (.ok false, fs) := by
  have hopening : step path .opening fs = (.inr (.ok false), fs) := by
    simp only [step, openExisting, hrefusal, hstatus]
  exact Routine.run_of_end hopening

/-- A question uses up a number at most. -/
theorem Ask.run_files (hn : fs.Numbered) :
    ((routine path).run alone .opening fs).2 = fs ∨ ((routine path).run alone .opening fs).2 = fs.spent := by
  have hfailed : ∀ e : SystemFailure, e ≠ .notFound → fs.openExisting path = .error e →
      ((routine path).run alone .opening fs).2 = fs := by
    intro e hne he
    have hopening : step path .opening fs = (.inr (.error (.system e)), fs) := by
      simp only [step, he]
    exact congrArg Prod.snd (Routine.run_of_end hopening)
  cases hrefusal : fs.refusal with
  | some reason =>
    left
    apply hfailed (.denied reason) (by simp)
    simp only [openExisting, hrefusal]
  | none =>
    cases hstatus : fs.status path with
    | ok e =>
      obtain ⟨held, hrun, -⟩ := Ask.run_opened hn hrefusal hstatus
      right
      rw [hrun]
    | error e =>
      left
      by_cases he : e = .notFound
      · rw [he] at hstatus
        rw [Ask.run_missing hrefusal hstatus]
      · apply hfailed e he
        simp only [openExisting, hrefusal, hstatus]

end Lock

end ClusterHealth
