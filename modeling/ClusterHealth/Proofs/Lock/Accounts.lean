import ClusterHealth.Proofs.Lock.Exclusion

/-!
# `ClusterHealth.Proofs.Lock.Accounts` — whose lock a lock is

Every lock on an open file is that of a process which is where its routine has one: it has taken the file for
itself and has not dropped it yet, or it was given the lock and has not begun to give it back, or it asks whether
the lock is held and has the file for a moment. None is left behind by a routine that ends, however it ends, nor
by a process that dies.

## Contents
- `Activity.lock?`: the lock that a stage of a routine has; `Process.Locks`: the locks of a process.
- `Settled`: the locks after a call; `Acquire.settled`, `Release.settled`, `Ask.settled`: each call of the three
  routines leaves the lock of the stage that it leads to.
- `Accounted`: every lock is somebody's; `Accounted.step`: every step keeps it so.
- `Accounted.of_blocked`: who is in the way of a lock.
-/

namespace ClusterHealth

namespace FileSystem

/-! ## Locked files -/

/-- Every descriptor is that of one open file. -/
def Keyed (fs : FileSystem) : Prop := (fs.openFiles.map Prod.fst).Nodup

/-- An open file is locked. -/
def Locked (fs : FileSystem) (d : Descriptor) (mode : LockMode) : Prop :=
  ∃ i, fs.openFile? d = some ⟨i, some mode⟩

end FileSystem

namespace Lock

open FileSystem

/-! ## The locks of a process -/

/-- The lock that a stage of taking a lock has. -/
def Acquire.lock? : Acquire → Option (Descriptor × LockMode)
  | .comparing _ d | .unlocking _ d | .clearing d | .signing d => some (d, .exclusive)
  | .opening _ | .locking .. | .closing .. | .asking _ | .refusing .. => none

/-- The lock that a stage of giving a lock back still has. -/
def Release.lock? : Release → Option (Descriptor × LockMode)
  | .comparing d | .removing d | .unlocking d _ => some (d, .exclusive)
  | .closing .. => none

/-- The lock that a stage of a question has. -/
def Ask.lock? : Ask → Option (Descriptor × LockMode)
  | .unlocking d => some (d, .shared)
  | .opening | .locking _ | .closing .. => none

/-- The lock that a routine has. -/
def Activity.lock? : Activity → Option (Descriptor × LockMode)
  | .idle => none
  | .acquiring stage => stage.lock?
  | .releasing stage => stage.lock?
  | .asking stage => stage.lock?

/-- A process has a lock: it was given it, or its routine has it. -/
def Process.Locks (p : Process) (d : Descriptor) (mode : LockMode) : Prop :=
  d ∈ p.held ∧ mode = .exclusive ∨ p.activity.lock? = some (d, mode)

variable {path : Path} {l : Location} {fs fs' : FileSystem} {d e : Descriptor} {mode : LockMode}
  {own : List Descriptor} {lock? : Option (Descriptor × LockMode)}

theorem Acquire.descriptor_of_lock {s : Acquire} (h : s.lock? = some (d, mode)) : s.descriptor? = some d := by
  cases s <;> simp_all [lock?, descriptor?]

theorem Release.descriptor_of_lock {s : Release} (h : s.lock? = some (d, mode)) : s.descriptor = d := by
  cases s <;> simp_all [lock?, descriptor]

theorem Ask.descriptor_of_lock {s : Ask} (h : s.lock? = some (d, mode)) : s.descriptor? = some d := by
  cases s <;> simp_all [lock?, descriptor?]

/-- A routine has the lock of its own descriptor. -/
theorem Activity.descriptor_of_lock {a : Activity} (h : a.lock? = some (d, mode)) : d ∈ a.descriptor?.toList := by
  rw [Option.mem_toList]
  cases a with
  | idle => cases h
  | acquiring s => exact Acquire.descriptor_of_lock h
  | releasing s => exact congrArg some (Release.descriptor_of_lock h)
  | asking s => exact Ask.descriptor_of_lock h

/-- Only a question has a lock that others may have as well. -/
theorem Activity.asking_of_shared {a : Activity} (h : a.lock? = some (d, .shared)) : a = .asking (.unlocking d) := by
  cases a with
  | idle => cases h
  | acquiring s => cases s <;> simp [Activity.lock?, Acquire.lock?] at h
  | releasing s => cases s <;> simp [Activity.lock?, Release.lock?] at h
  | asking s => cases s <;> simp_all [Activity.lock?, Ask.lock?]

theorem Process.Locks.mem_descriptors {p : Process} (h : p.Locks d mode) : d ∈ p.descriptors := by
  rcases h with ⟨h, -⟩ | h
  · exact mem_descriptors_of_mem_held h
  · exact List.mem_append_left _ (Activity.descriptor_of_lock h)

/-! ## The locks after a call -/

/-- After a call on some descriptors these have no lock but the given one, and no other descriptor has a lock that
it had not before. -/
structure Settled (own : List Descriptor) (lock? : Option (Descriptor × LockMode)) (fs fs' : FileSystem) :
    Prop where
  keyed : fs.Keyed → fs'.Keyed
  locks : ∀ d mode, fs'.Locked d mode → lock? = some (d, mode) ∨ d ∉ own ∧ fs.Locked d mode

/-- Some descriptors have no lock but the given one. -/
def Bounded (own : List Descriptor) (lock? : Option (Descriptor × LockMode)) (fs : FileSystem) : Prop :=
  ∀ d ∈ own, ∀ mode, fs.Locked d mode → lock? = some (d, mode)

/-- A call that leaves what is open. -/
theorem Settled.of_openFiles (hb : Bounded own lock? fs) (h : fs'.openFiles = fs.openFiles) :
    Settled own lock? fs fs' := by
  have hfile : ∀ d, fs'.openFile? d = fs.openFile? d := fun d => congrArg (Pairs.get? d) h
  refine ⟨fun hk => (congrArg (fun files => (files.map Prod.fst).Nodup) h).mpr hk, fun d mode hlocked => ?_⟩
  obtain ⟨i, hi⟩ := hlocked
  have hbefore : fs.Locked d mode := ⟨i, (hfile d).symm.trans hi⟩
  by_cases hd : d ∈ own
  · exact .inl (hb d hd mode hbefore)
  · exact .inr ⟨hd, hbefore⟩

theorem Settled.openInode (i : Inode) : Settled [] none fs (fs.openInode i).2 := by
  refine ⟨Pairs.nodup_put, fun d mode hlocked => .inr ⟨List.not_mem_nil, ?_⟩⟩
  obtain ⟨j, hj⟩ := hlocked
  by_cases hd : d = fs.fresh
  · rw [hd, show (fs.openInode i).2.openFile? fs.fresh = some ⟨i, none⟩ from Pairs.get?_put_self _ _ _] at hj
    cases hj
  · exact ⟨j, (openFile?_openInode_ne hd).symm.trans hj⟩

theorem Settled.openOrCreate (h : fs.openOrCreate path = .ok (d, fs')) : Settled [] none fs fs' := by
  obtain ⟨m, -, ⟨i, -, ho⟩ | ⟨-, ho⟩⟩ := openOrCreate_eq_ok h
  · obtain rfl : fs' = (fs.openInode i).2 := congrArg Prod.snd ho
    exact .openInode i
  · obtain rfl : fs' = ((fs.create m .file).openInode fs.fresh).2 := congrArg Prod.snd ho
    have hs : Settled [] none (fs.create m .file) ((fs.create m .file).openInode fs.fresh).2 := .openInode fs.fresh
    exact ⟨hs.keyed, hs.locks⟩

theorem Settled.setLock {lock : Option LockMode} (hlock : ∀ mode, lock = some mode → lock? = some (d, mode)) :
    Settled [d] lock? fs (fs.setLock d lock) := by
  constructor
  · intro hk
    unfold FileSystem.setLock
    split
    · exact hk
    · exact Pairs.nodup_put hk
  · intro e mode hlocked
    obtain ⟨i, hi⟩ := hlocked
    by_cases he : e = d
    · subst he
      cases hfile : fs.openFile? e with
      | none =>
        unfold FileSystem.setLock at hi
        rw [hfile] at hi
        cases hfile.symm.trans hi
      | some file =>
        rw [openFile?_setLock_self hfile] at hi
        cases hi
        exact .inl (hlock mode rfl)
    · exact .inr ⟨by simpa using he, i, (openFile?_setLock_ne he).symm.trans hi⟩

theorem Settled.tryLock (h : fs.tryLock d mode = some fs') : Settled [d] (some (d, mode)) fs fs' := by
  obtain ⟨file, -, -, rfl⟩ := tryLock_eq_some h
  exact .setLock fun mode' hmode => by rw [Option.some.inj hmode]

theorem Settled.unlock : Settled [d] none fs (fs.unlock d) := .setLock fun _ hnone => by cases hnone

theorem keyed_closeAll (hk : fs.Keyed) (ds : List Descriptor) : (fs.closeAll ds).Keyed := by
  induction ds generalizing fs with
  | nil => exact hk
  | cons d ds ih => exact ih (Pairs.nodup_erase hk)

/-- Whatever is closed is not locked any more. -/
theorem Settled.closeAll (ds : List Descriptor) : Settled ds lock? fs (fs.closeAll ds) := by
  refine ⟨fun hk => keyed_closeAll hk ds, fun d mode hlocked => .inr ?_⟩
  obtain ⟨i, hi⟩ := hlocked
  by_cases hd : d ∈ ds
  · cases (openFile?_closeAll_of_mem hd).symm.trans hi
  · exact ⟨hd, i, (openFile?_closeAll hd).symm.trans hi⟩

theorem Settled.close : Settled [d] lock? fs (fs.close d) := .closeAll [d]

/-- The lock that a call of `Acquire` leads to. -/
def Acquire.lockAfter? : Progress Acquire Descriptor → Option (Descriptor × LockMode)
  | .inl stage => stage.lock?
  | .inr (.ok d) => some (d, .exclusive)
  | .inr (.error _) => none

/-- **One call of `Acquire`.** -/
theorem Acquire.settled {lock : LockFile} {s : Acquire} {next : Progress Acquire Descriptor}
    (h : step lock s fs = (next, fs')) (hl : fs.locate lock.path = .ok l)
    (hb : Bounded s.descriptor?.toList s.lock? fs) : Settled s.descriptor?.toList (lockAfter? next) fs fs' := by
  cases s with
  | opening left =>
    simp only [step] at h
    split at h
    · next ho =>
      obtain ⟨rfl, rfl⟩ := Prod.mk.inj h
      exact .openOrCreate ho
    all_goals
      obtain ⟨rfl, rfl⟩ := Prod.mk.inj h
      exact .of_openFiles hb rfl
  | locking left d =>
    simp only [step] at h
    split at h
    · next ht =>
      obtain ⟨rfl, rfl⟩ := Prod.mk.inj h
      exact .tryLock ht
    · obtain ⟨rfl, rfl⟩ := Prod.mk.inj h
      exact .of_openFiles hb rfl
  | comparing left d =>
    simp only [step] at h
    split at h
    · obtain ⟨rfl, rfl⟩ := Prod.mk.inj h
      exact .of_openFiles hb rfl
    · obtain ⟨rfl, rfl⟩ := Prod.mk.inj h
      exact .of_openFiles hb rfl
    · next hnames => exact absurd hnames (names_ne_error hl)
  | unlocking left d =>
    obtain ⟨rfl, rfl⟩ := Prod.mk.inj h
    exact .unlock
  | closing left d =>
    cases left with
    | zero =>
      obtain ⟨rfl, rfl⟩ := Prod.mk.inj h
      exact .close
    | succ left =>
      obtain ⟨rfl, rfl⟩ := Prod.mk.inj h
      exact .close
  | clearing d =>
    obtain ⟨rfl, rfl⟩ := Prod.mk.inj h
    exact .of_openFiles hb openFiles_truncate
  | signing d =>
    obtain ⟨rfl, rfl⟩ := Prod.mk.inj h
    exact .of_openFiles hb openFiles_writeStart
  | asking d =>
    simp only [step] at h
    split at h
    · obtain ⟨rfl, rfl⟩ := Prod.mk.inj h
      exact .of_openFiles hb rfl
    · split at h
      · obtain ⟨rfl, rfl⟩ := Prod.mk.inj h
        exact .of_openFiles hb rfl
      · obtain ⟨rfl, rfl⟩ := Prod.mk.inj h
        exact .of_openFiles hb rfl
  | refusing d holder =>
    obtain ⟨rfl, rfl⟩ := Prod.mk.inj h
    exact .close

/-- The lock that a call of `Release` leads to. -/
def Release.lockAfter? : Progress Release Unit → Option (Descriptor × LockMode)
  | .inl stage => stage.lock?
  | .inr _ => none

/-- **One call of `Release`.** -/
theorem Release.settled {s : Release} {next : Progress Release Unit} (h : step path s fs = (next, fs'))
    (hb : Bounded [s.descriptor] s.lock? fs) : Settled [s.descriptor] (lockAfter? next) fs fs' := by
  cases s with
  | comparing d =>
    simp only [step] at h
    split at h
    all_goals
      obtain ⟨rfl, rfl⟩ := Prod.mk.inj h
      exact .of_openFiles hb rfl
  | removing d =>
    simp only [step] at h
    split at h
    · next hremove =>
      obtain ⟨rfl, rfl⟩ := Prod.mk.inj h
      obtain ⟨m, i, -, -, rfl⟩ := remove_eq_ok hremove
      exact .of_openFiles hb rfl
    all_goals
      obtain ⟨rfl, rfl⟩ := Prod.mk.inj h
      exact .of_openFiles hb rfl
  | unlocking d failed =>
    obtain ⟨rfl, rfl⟩ := Prod.mk.inj h
    exact .unlock
  | closing d failed =>
    cases failed
    all_goals
      obtain ⟨rfl, rfl⟩ := Prod.mk.inj h
      exact .close

/-- The lock that a call of `Ask` leads to. -/
def Ask.lockAfter? : Progress Ask Bool → Option (Descriptor × LockMode)
  | .inl stage => stage.lock?
  | .inr _ => none

/-- **One call of `Ask`.** -/
theorem Ask.settled {s : Ask} {next : Progress Ask Bool} (h : step path s fs = (next, fs'))
    (hb : Bounded s.descriptor?.toList s.lock? fs) : Settled s.descriptor?.toList (lockAfter? next) fs fs' := by
  cases s with
  | opening =>
    simp only [step] at h
    split at h
    · next ho =>
      obtain ⟨rfl, rfl⟩ := Prod.mk.inj h
      obtain ⟨i, hopened⟩ := openExisting_eq_ok ho
      obtain rfl := congrArg Prod.snd hopened
      exact .openInode i
    all_goals
      obtain ⟨rfl, rfl⟩ := Prod.mk.inj h
      exact .of_openFiles hb rfl
  | locking d =>
    simp only [step] at h
    split at h
    · next ht =>
      obtain ⟨rfl, rfl⟩ := Prod.mk.inj h
      exact .tryLock ht
    · obtain ⟨rfl, rfl⟩ := Prod.mk.inj h
      exact .of_openFiles hb rfl
  | unlocking d =>
    obtain ⟨rfl, rfl⟩ := Prod.mk.inj h
    exact .unlock
  | closing d held =>
    obtain ⟨rfl, rfl⟩ := Prod.mk.inj h
    exact .close

/-! ## Every lock is somebody's -/

/-- Every lock on an open file is that of a process. -/
structure Accounted (S : System) : Prop where
  keyed : S.files.Keyed
  owner : ∀ d mode, S.files.Locked d mode → ∃ m, (S.processes m).Locks d mode

variable {S S' : System} {n m : ProcessId} {p : Process}

/-- Where nothing is locked, and no process has begun. -/
theorem Accounted.start (hk : fs.Keyed) (hfree : ∀ x ∈ fs.openFiles, x.2.lock = none) :
    Accounted (.start fs) := by
  refine ⟨hk, fun d mode hlocked => ?_⟩
  obtain ⟨i, hi⟩ := hlocked
  cases hfree _ (Pairs.mem_of_get? hi)

/-- The descriptor of a routine has no other lock than the routine. -/
theorem Accounted.bounded {a : Activity} (acc : Accounted S) (inv : Inv path l S)
    (busy : (S.processes n).activity = a) : Bounded a.descriptor?.toList a.lock? S.files := by
  intro d hd mode hlocked
  obtain ⟨m, hm⟩ := acc.owner d mode hlocked
  have hmine : d ∈ (S.processes n).descriptors := List.mem_append_left _ (busy ▸ hd)
  have hnm : n = m := by
    by_contra hne
    exact inv.apart n m hne d hmine hm.mem_descriptors
  subst hnm
  rcases hm with ⟨hheld, -⟩ | hlock
  · exact absurd hd (inv.held_apart busy hheld)
  · exact busy ▸ hlock

/-- Every lock is somebody's again after the turn of a process that keeps the locks of the descriptors that it did
not work on. -/
theorem Accounted.put (acc : Accounted S) (hs : Settled own lock? S.files fs)
    (hlock : ∀ d mode, lock? = some (d, mode) → p.Locks d mode)
    (hkeep : ∀ d mode, (S.processes n).Locks d mode → d ∉ own → p.Locks d mode) : Accounted (S.put n p fs) := by
  refine ⟨hs.keyed acc.keyed, fun d mode hlocked => ?_⟩
  rcases hs.locks d mode hlocked with hnew | ⟨hown, hold⟩
  · exact ⟨n, System.processes_put_self ▸ hlock d mode hnew⟩
  · obtain ⟨m, hm⟩ := acc.owner d mode hold
    by_cases hmn : m = n
    · subst hmn
      exact ⟨m, System.processes_put_self ▸ hkeep d mode hm hown⟩
    · exact ⟨m, (System.processes_put_ne hmn).symm ▸ hm⟩

/-- A routine that goes on, or ends: the locks that the process was given stay. -/
theorem Accounted.put_routine {a : Activity} (acc : Accounted S) (busy : (S.processes n).activity = a)
    (hs : Settled a.descriptor?.toList lock? S.files fs)
    (hlock : ∀ d mode, lock? = some (d, mode) → p.Locks d mode)
    (hheld : ∀ d ∈ (S.processes n).held, d ∈ p.held) : Accounted (S.put n p fs) := by
  refine acc.put hs hlock fun d mode hlocks hown => ?_
  rcases hlocks with ⟨hd, hmode⟩ | hroutine
  · exact .inl ⟨hheld d hd, hmode⟩
  · exact absurd (Activity.descriptor_of_lock (busy ▸ hroutine)) hown

/-- A process that begins a routine. -/
theorem Accounted.put_begun (acc : Accounted S)
    (hkeep : ∀ d mode, (S.processes n).Locks d mode → p.Locks d mode) : Accounted (S.put n p S.files) := by
  have hsame : Settled [] none S.files S.files := .of_openFiles (fun d hd => absurd hd List.not_mem_nil) rfl
  exact acc.put hsame (fun _ _ hnone => by cases hnone) fun d mode hlocks _ => hkeep d mode hlocks

/-- The locks of a process that is idle are those that it was given. -/
theorem held_of_idle (idle : p.activity = .idle) (h : p.Locks d mode) : d ∈ p.held ∧ mode = .exclusive := by
  rcases h with h | h
  · exact h
  · rw [idle] at h
    cases h

/-- **Every step keeps it so** that every lock is somebody's. -/
theorem Accounted.step (acc : Accounted S) (inv : Inv path l S) (h : System.Step path n S S') :
    Accounted S' := by
  cases h with
  | beginAcquire idle =>
    refine acc.put_begun fun d mode hlocks => ?_
    have hheld := held_of_idle idle hlocks
    exact .inl hheld
  | @beginRelease d idle has =>
    refine acc.put_begun fun e mode hlocks => ?_
    obtain ⟨he, rfl⟩ := held_of_idle idle hlocks
    by_cases hed : e = d
    · subst hed
      exact .inr rfl
    · exact .inl ⟨(List.mem_erase_of_ne hed).2 he, rfl⟩
  | beginAsk idle =>
    refine acc.put_begun fun d mode hlocks => ?_
    have hheld := held_of_idle idle hlocks
    exact .inl hheld
  | acquire busy call =>
    have hs := Acquire.settled call inv.steady.leads (acc.bounded inv busy)
    exact acc.put_routine busy hs (fun d mode hlock => .inr hlock) fun d hd => hd
  | @acquired s d fs busy call =>
    have hs := Acquire.settled call inv.steady.leads (acc.bounded inv busy)
    refine acc.put_routine busy hs (fun e mode hlock => ?_) fun e he => List.mem_cons_of_mem d he
    cases hlock
    exact .inl ⟨List.mem_cons_self, rfl⟩
  | notAcquired busy call =>
    have hs := Acquire.settled call inv.steady.leads (acc.bounded inv busy)
    exact acc.put_routine busy hs (fun d mode hlock => by cases hlock) fun d hd => hd
  | release busy call =>
    have hs := Release.settled call (acc.bounded inv busy)
    exact acc.put_routine busy hs (fun d mode hlock => .inr hlock) fun d hd => hd
  | released busy call =>
    have hs := Release.settled call (acc.bounded inv busy)
    exact acc.put_routine busy hs (fun d mode hlock => by cases hlock) fun d hd => hd
  | ask busy call =>
    have hs := Ask.settled call (acc.bounded inv busy)
    exact acc.put_routine busy hs (fun d mode hlock => .inr hlock) fun d hd => hd
  | answered busy call =>
    have hs := Ask.settled call (acc.bounded inv busy)
    exact acc.put_routine busy hs (fun d mode hlock => by cases hlock) fun d hd => hd
  | die =>
    have hs : Settled (S.processes n).descriptors none S.files (S.files.closeAll (S.processes n).descriptors) :=
      .closeAll _
    exact acc.put hs (fun d mode hlock => by cases hlock)
      fun d mode hlocks hown => absurd hlocks.mem_descriptors hown

/-- **Who is in the way of a lock**: a process that has the file locked by another descriptor. -/
theorem Accounted.of_blocked {i : Inode} (acc : Accounted S) (h : S.files.blocked d i mode = true) :
    ∃ m e held, e ≠ d ∧ S.files.openFile? e = some ⟨i, some held⟩ ∧ mode.excludes held = true
      ∧ (S.processes m).Locks e held := by
  obtain ⟨⟨e, file⟩, hmem, hblocks⟩ := List.any_eq_true.1 h
  simp only [Bool.and_eq_true, decide_eq_true_eq] at hblocks
  obtain ⟨⟨hne, rfl⟩, hlock⟩ := hblocks
  obtain ⟨i, lock⟩ := file
  cases lock with
  | none => cases hlock
  | some held =>
    have hopen : S.files.openFile? e = some ⟨i, some held⟩ := Pairs.get?_of_mem acc.keyed hmem
    obtain ⟨m, hm⟩ := acc.owner e held ⟨i, hopen⟩
    exact ⟨m, e, held, hne, hopen, hlock, hm⟩

end Lock

end ClusterHealth
