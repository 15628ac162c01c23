import ClusterHealth.Proofs.Lock.Results
import ClusterHealth.Proofs.Raising

/-!
# `ClusterHealth.Proofs.Lock.Obstacles` — what stands in the way of a lock

A lock is not taken for one of six reasons, all of which can be told from the files as they are: the
directories above its file cannot be made, the file may not be opened, its path leads nowhere, or to a
directory, or another has the lock, and then the file tells whose it is, or makes no sense. The reason decides
the failure and what is left of the files.

Two of the six are foreseen and come with failures of their own: that the file may not be opened, and that
another has the lock. A file whose bytes make no sense is the only one that stays open.

## Contents
- `Held`: another has the lock.
- `Obstacle`: the six reasons, each with its failure and the files that are left.
- `acquire_eq_error_iff`, `Obstacle.unique`: a lock is not taken just if there is one of them, and there is one
  only.
- `Foreseen`, `Obstacle.ofLock_iff`: the reasons that have failures of their own.
- `Obstacle.leaves`: what is left behind.
- `Misshapen`: trees in which no lock is taken, and none of the two reasons is told.
- `NotTaken`, `acquire_notTaken`: all of it, for any lock.
- `acquire_error_cases`: what a lock fails with while others are at work.
-/

namespace ClusterHealth.Lock

open FileSystem ClusterHealth.Machine

/-! ## The reasons -/

/-- The directories above a path can be made, which leaves these files. -/
def Prepared (path : Path) (fs fs₁ : FileSystem) : Prop :=
  fs.makeDirectories path.parent = (.ok (), fs₁)

/-- There is a file to open at the end of a path, once the directories above are made, and another has it
locked. -/
structure Held (path : Path) (fs fs₁ : FileSystem) (i : Inode) : Prop where
  prepared : Prepared path fs fs₁
  allowed : fs₁.refusal = none
  status : fs₁.status path = .ok ⟨i, .file⟩
  taken : fs₁.Taken i .exclusive

/-- What stands in the way of a lock, with the failure that comes of it and the files that are left. -/
inductive Obstacle (lock : LockFile) (fs : FileSystem) : Failure → FileSystem → Prop
  /-- The directories above the file cannot be made. -/
  | above {e : SystemFailure} {fs₁ : FileSystem} (h : fs.makeDirectories lock.path.parent = (.error e, fs₁)) :
    Obstacle lock fs (.system e) fs₁
  | denied {reason : Option String} {fs₁ : FileSystem} (hp : Prepared lock.path fs fs₁)
    (h : fs₁.refusal = some reason) :
    Obstacle lock fs (.lockFile lock.path (Acquire.reasonText reason)) fs₁
  | nowhere {e : SystemFailure} {fs₁ : FileSystem} (hp : Prepared lock.path fs fs₁)
    (hallowed : fs₁.refusal = none) (h : fs₁.locate lock.path = .error e) : Obstacle lock fs (.system e) fs₁
  | directory {i : Inode} {fs₁ : FileSystem} (hp : Prepared lock.path fs fs₁) (hallowed : fs₁.refusal = none)
    (h : fs₁.status lock.path = .ok ⟨i, .directory⟩) : Obstacle lock fs (.system .isDirectory) fs₁
  | held {i : Inode} {holder : Option Nat} {fs₁ : FileSystem} (h : Held lock.path fs fs₁ i)
    (htold : holderIn fs₁ i = .ok holder) :
    Obstacle lock fs (.alreadyRunning lock.path (holder.map Int.ofNat)) fs₁.spent
  /-- What the file says of its holder is no text, or no number. -/
  | illegible {i : Inode} {e : Failure} {fs₁ : FileSystem} (h : Held lock.path fs fs₁ i)
    (htold : holderIn fs₁ i = .error e) : Obstacle lock fs e (fs₁.openInode i).2

variable {lock : LockFile} {fs fs₁ fs' : FileSystem} {i : Inode} {e : Failure} {m m' : Machine}

namespace Held

theorem openOrCreate (h : Held lock.path fs fs₁ i) : fs₁.openOrCreate lock.path = .ok (fs₁.openInode i) := by
  obtain ⟨l, hl⟩ := locate_of_status h.status
  simp only [FileSystem.openOrCreate, h.allowed, hl, (status_eq_ok_iff hl).1 h.status]

theorem opened (h : Held lock.path fs fs₁ i) : Opened fs₁ lock.path fs₁.fresh i (fs₁.openInode i).2 := by
  obtain ⟨l, hl⟩ := locate_of_status h.status
  exact opened_openInode hl ((status_eq_ok_iff hl).1 h.status)

end Held

theorem grown_of_prepared {path : Path} (h : Prepared path fs fs₁) : fs.Grown fs₁ := by
  have hgrown := grown_makeDirectories fs path.parent
  rw [h] at hgrown
  exact hgrown

/-- What comes of an attempt, once the directories above are made. -/
theorem acquire_of_prepared (hp : Prepared lock.path m.files fs₁)
    (h : (Acquire.routine lock).run alone .start fs₁ = (.error e, fs')) :
    acquire lock alone m = (.error e, { m with files := fs' }) := by
  rw [acquire_apply, hp]
  simp only [h]

/-- **Where something stands in the way**, the lock is not taken. -/
theorem Obstacle.acquire (hn : m.files.Numbered) (h : Obstacle lock m.files e fs') :
    acquire lock alone m = (.error e, { m with files := fs' }) := by
  cases h with
  | above h => rw [acquire_apply, h]
  | @denied reason _ hp h =>
    have hopen : fs'.openOrCreate lock.path = .error (.denied reason) := by
      simp only [openOrCreate, h]
    exact acquire_of_prepared hp (Acquire.run_denied hopen)
  | @nowhere e' _ hp hallowed h =>
    have hopen : fs'.openOrCreate lock.path = .error e' := by
      simp only [openOrCreate, hallowed, h]
    have hne : ∀ reason, e' ≠ .denied reason := by
      rintro reason rfl
      exact locate_ne_denied h
    exact acquire_of_prepared hp (Acquire.run_unopenable hne hopen)
  | directory hp hallowed h =>
    obtain ⟨l, hl⟩ := locate_of_status h
    have hopen : fs'.openOrCreate lock.path = .error .isDirectory := by
      simp only [openOrCreate, hallowed, hl, (status_eq_ok_iff hl).1 h]
    exact acquire_of_prepared hp (Acquire.run_unopenable nofun hopen)
  | @held i holder fs₁ h htold =>
    have hn₁ := (grown_of_prepared h.prepared).numbered hn
    have hclosed : (fs₁.openInode i).2.close fs₁.fresh = fs₁.spent := close_openInode hn₁
    rw [← hclosed]
    exact acquire_of_prepared h.prepared (Acquire.run_told h.openOrCreate h.opened hn₁ h.taken htold)
  | @illegible i _ fs₁ h htold =>
    have hn₁ := (grown_of_prepared h.prepared).numbered hn
    exact acquire_of_prepared h.prepared (Acquire.run_illegible h.openOrCreate h.opened hn₁ h.taken htold)

/-- A file that is made for the lock is nobody's, so that only one that was there can be held. -/
theorem held_of_opened {d : Descriptor} (hp : Prepared lock.path fs fs₁) (hn : fs₁.Numbered)
    (hopen : fs₁.openOrCreate lock.path = .ok (d, fs')) (o : Opened fs₁ lock.path d i fs')
    (htaken : fs₁.Taken i .exclusive) : Held lock.path fs fs₁ i := by
  have hallowed : fs₁.refusal = none := by
    cases hrefusal : fs₁.refusal with
    | none => rfl
    | some reason =>
      simp only [openOrCreate, hrefusal] at hopen
      cases hopen
  rcases o.origin with ⟨hstatus, -⟩ | ⟨-, hge, -⟩
  · exact ⟨hp, hallowed, hstatus, htaken⟩
  · obtain ⟨x, hx, rfl, -⟩ := htaken
    exact absurd (hn.open_lt x hx).2 (Nat.not_lt_of_le hge)

/-- **Either something stands in the way, or the lock is taken.** -/
theorem obstacle_or_taken (lock : LockFile) (hn : m.files.Numbered) :
    (∃ e fs', Obstacle lock m.files e fs') ∨ ∃ handle m', acquire lock alone m = (.ok handle, m') := by
  rcases hmade : m.files.makeDirectories lock.path.parent with ⟨e | ⟨⟩, fs₁⟩
  · exact .inl ⟨_, _, .above hmade⟩
  · have hn₁ := (grown_of_prepared hmade).numbered hn
    cases hopen : fs₁.openOrCreate lock.path with
    | error e =>
      left
      rcases openOrCreate_eq_error hopen with ⟨reason, hrefusal, -⟩ | ⟨hallowed, hl | ⟨i, hstatus, -⟩⟩
      · exact ⟨_, _, .denied hmade hrefusal⟩
      · exact ⟨_, _, .nowhere hmade hallowed hl⟩
      · exact ⟨_, _, .directory hmade hallowed hstatus⟩
    | ok opened =>
      obtain ⟨d, fs₂⟩ := opened
      obtain ⟨i, o⟩ := opened_of_openOrCreate hopen
      by_cases htaken : fs₁.Taken i .exclusive
      · have hheld := held_of_opened hmade hn₁ hopen o htaken
        left
        cases htold : holderIn fs₁ i with
        | ok holder => exact ⟨_, _, .held hheld htold⟩
        | error e => exact ⟨_, _, .illegible hheld htold⟩
      · right
        refine ⟨⟨lock.path, some d⟩, { m with
          files := fs₂.signed d i (signature lock.process)
          journal := m.journal ++ [.notice (.lockAcquired lock.path)] }, ?_⟩
        rw [acquire_apply, hmade]
        simp only [Acquire.run_free hopen o hn₁ htaken]

/-- **A lock is not taken** just if something stands in its way, which decides the failure and the files that
are left; nothing else changes. -/
theorem acquire_eq_error_iff (hn : m.files.Numbered) : acquire lock alone m = (.error e, m') ↔
    ∃ fs', Obstacle lock m.files e fs' ∧ m' = { m with files := fs' } := by
  constructor
  · intro h
    rcases obstacle_or_taken lock hn with ⟨e', fs', hobstacle⟩ | ⟨handle, m₁, htaken⟩
    · obtain ⟨he, hm⟩ := Prod.mk.inj ((hobstacle.acquire hn).symm.trans h)
      rw [← Except.error.inj he]
      exact ⟨fs', hobstacle, hm.symm⟩
    · exact nomatch congrArg Prod.fst (htaken.symm.trans h)
  · rintro ⟨fs', hobstacle, rfl⟩
    exact hobstacle.acquire hn

/-- Only one thing stands in the way, as there is only one outcome. -/
theorem Obstacle.unique {e' : Failure} {fs'' : FileSystem} (hn : m.files.Numbered)
    (h : Obstacle lock m.files e fs') (h' : Obstacle lock m.files e' fs'') : e = e' ∧ fs' = fs'' := by
  obtain ⟨he, hm⟩ := Prod.mk.inj ((h.acquire hn).symm.trans (h'.acquire hn))
  exact ⟨Except.error.inj he, congrArg Machine.files hm⟩

/-! ## Reasons that are foreseen -/

/-- The reasons that have failures of their own: the directories above can be made, and then the file may not
be opened, or another has the lock and its file makes sense. -/
def Foreseen (path : Path) (fs : FileSystem) : Prop :=
  ∃ fs₁, Prepared path fs fs₁
    ∧ ((∃ reason, fs₁.refusal = some reason) ∨ ∃ i holder, Held path fs fs₁ i ∧ holderIn fs₁ i = .ok holder)

theorem holderOf_eq_error {bs : List UInt8} (h : holderOf bs = .error e) :
    e = .undecodable ∨ ∃ message, e = .badValue message := by
  unfold holderOf at h
  split at h
  · exact .inl (Except.error.inj h).symm
  · simp only at h
    split at h
    · exact nomatch h
    · split at h
      · exact nomatch h
      · exact .inr ⟨_, (Except.error.inj h).symm⟩

/-- A file that makes no sense is not text in UTF-8, or has digits that make no number. -/
theorem holderIn_eq_error (h : holderIn fs i = .error e) : e = .undecodable ∨ ∃ message, e = .badValue message := by
  unfold holderIn at h
  split at h
  · exact nomatch h
  · exact holderOf_eq_error h

/-- Where the reason is foreseen, the failure is one of the lock. -/
theorem Foreseen.obstacle (h : Foreseen lock.path fs) : ∃ e fs', Obstacle lock fs e fs' ∧ e.ofLock = true := by
  obtain ⟨fs₁, hp, ⟨reason, hrefusal⟩ | ⟨i, holder, hheld, htold⟩⟩ := h
  · exact ⟨_, _, .denied hp hrefusal, rfl⟩
  · exact ⟨_, _, .held hheld htold, rfl⟩

/-- **The failure is one of the lock** just if the reason is foreseen. -/
theorem Obstacle.ofLock_iff (hn : m.files.Numbered) (h : Obstacle lock m.files e fs') :
    e.ofLock = true ↔ Foreseen lock.path m.files := by
  constructor
  · intro he
    cases h with
    | above h => exact nomatch he
    | denied hp h => exact ⟨_, hp, .inl ⟨_, h⟩⟩
    | nowhere hp hallowed h => exact nomatch he
    | directory hp hallowed h => exact nomatch he
    | held h htold => exact ⟨_, h.prepared, .inr ⟨_, _, h, htold⟩⟩
    | illegible h htold =>
      rcases holderIn_eq_error htold with rfl | ⟨message, rfl⟩
      · exact nomatch he
      · exact nomatch he
  · intro hforeseen
    obtain ⟨e', fs₁, hobstacle, he'⟩ := hforeseen.obstacle
    obtain ⟨rfl, -⟩ := h.unique hn hobstacle
    exact he'

/-! ## What is left behind -/

/-- What a lock that is not taken leaves behind: at most new directories, and open is what was open before,
but for a file that makes no sense. -/
structure Leaves (path : Path) (fs : FileSystem) (e : Failure) (fs' : FileSystem) : Prop where
  preserved : fs.Preserved fs'
  added : ∀ l entry, fs'.entry? l = some entry → fs.entry? l = some entry ∨ entry.kind = .directory
  openFiles : fs'.openFiles = fs.openFiles
    ∨ (e = .undecodable ∨ ∃ message, e = .badValue message)
      ∧ ∃ d i, fs'.openFiles = Pairs.put d ⟨i, none⟩ fs.openFiles ∧ fs'.status path = .ok ⟨i, .file⟩

theorem added_of_grown (h : fs.Grown fs₁) {l : Location} {entry : Entry} (hl : fs₁.entry? l = some entry) :
    fs.entry? l = some entry ∨ entry.kind = .directory := by
  rcases h.added l entry hl with hold | ⟨hkind, -⟩
  · exact .inl hold
  · exact .inr hkind

/-- Where the directories above were made, and no more. -/
theorem leaves_of_grown {path : Path} (hn : fs.Numbered) (h : fs.Grown fs') : Leaves path fs e fs' :=
  ⟨h.preserved hn, fun _ _ => added_of_grown h, .inl h.openFiles⟩

/-- **Nothing is lost, and nothing is left** where something stands in the way, but for a file that makes no
sense, which stays open. -/
theorem Obstacle.leaves (hn : fs.Numbered) (h : Obstacle lock fs e fs') : Leaves lock.path fs e fs' := by
  cases h with
  | above h =>
    have hgrown := grown_makeDirectories fs lock.path.parent
    rw [h] at hgrown
    exact leaves_of_grown hn hgrown
  | denied hp h => exact leaves_of_grown hn (grown_of_prepared hp)
  | nowhere hp hallowed h => exact leaves_of_grown hn (grown_of_prepared hp)
  | directory hp hallowed h => exact leaves_of_grown hn (grown_of_prepared hp)
  | held h htold =>
    have hgrown := grown_of_prepared h.prepared
    exact ⟨(hgrown.preserved hn).trans (Preserved.of_entries rfl rfl rfl), fun _ _ => added_of_grown hgrown,
      .inl hgrown.openFiles⟩
  | @illegible i _ fs₁ h htold =>
    have hgrown := grown_of_prepared h.prepared
    have hopened : (fs₁.openInode i).2.openFiles = Pairs.put fs₁.fresh ⟨i, none⟩ fs.openFiles := by
      rw [← hgrown.openFiles]
      rfl
    exact ⟨(hgrown.preserved hn).trans (Preserved.of_entries rfl rfl rfl), fun _ _ => added_of_grown hgrown,
      .inr ⟨holderIn_eq_error htold, fs₁.fresh, i, hopened, h.opened.status⟩⟩

/-- Where the reason is foreseen, open is what was open before. -/
theorem Obstacle.openFiles (hn : m.files.Numbered) (h : Obstacle lock m.files e fs')
    (hforeseen : Foreseen lock.path m.files) : fs'.openFiles = m.files.openFiles := by
  have he := (h.ofLock_iff hn).2 hforeseen
  rcases (h.leaves hn).openFiles with hsame | ⟨rfl | ⟨message, rfl⟩, -⟩
  · exact hsame
  · exact nomatch he
  · exact nomatch he

/-! ## Trees that are not foreseen -/

/-- Trees in which there can be no lock file, as far as they are not foreseen: a directory is in its place, or
a file in the place of a directory above, however far up, or a directory is missing and may not be made. -/
inductive Misshapen (path : Path) (fs : FileSystem) : Prop
  | directory {i : Inode} (hallowed : fs.refusal = none) (h : fs.status path = .ok ⟨i, .directory⟩)
  | file {q : Path} {i : Inode} (hq : OnTheWay q path.parent) (h : fs.status q = .ok ⟨i, .file⟩)
  | barred {reason : Option String} (hbarred : fs.barred = some reason)
    (hmissing : fs.isDirectory path.parent = false)

/-- In such a tree a failure of the system stands in the way. -/
theorem Misshapen.obstacle (h : Misshapen lock.path fs) : ∃ e fs', Obstacle lock fs (.system e) fs' := by
  cases h with
  | @directory i hallowed h =>
    rcases hmade : fs.makeDirectories lock.path.parent with ⟨e | ⟨⟩, fs₁⟩
    · exact ⟨e, fs₁, .above hmade⟩
    · have hgrown := grown_of_prepared hmade
      exact ⟨_, fs₁, .directory hmade (hgrown.refusal.trans hallowed) (hgrown.status h)⟩
  | file hq h =>
    obtain ⟨e, hmade⟩ := makeDirectories_of_file hq h
    exact ⟨e, fs, .above hmade⟩
  | barred hbarred hmissing =>
    obtain ⟨e, hmade⟩ := makeDirectories_of_barred hbarred hmissing
    exact ⟨e, fs, .above hmade⟩

/-! ## Locks that are not taken -/

/-- How a lock is not taken: what stands in the way, what that leaves behind, and whether the failure is one of
the lock. -/
structure NotTaken (lock : LockFile) (fs : FileSystem) (e : Failure) (fs' : FileSystem) : Prop where
  obstacle : Obstacle lock fs e fs'
  leaves : Leaves lock.path fs e fs'
  ofLock_iff : e.ofLock = true ↔ Foreseen lock.path fs
  openFiles : Foreseen lock.path fs → fs'.openFiles = fs.openFiles
  /-- In a tree that is not foreseen the failure is what the system reports. -/
  system : Misshapen lock.path fs → ∃ failure, e = .system failure

theorem notTaken_of_obstacle (hn : m.files.Numbered) (h : Obstacle lock m.files e fs') :
    NotTaken lock m.files e fs' := by
  refine ⟨h, h.leaves hn, h.ofLock_iff hn, h.openFiles hn, fun hmisshapen => ?_⟩
  obtain ⟨failure, fs₁, hsystem⟩ := hmisshapen.obstacle
  exact ⟨failure, (h.unique hn hsystem).1⟩

/-- **A lock that is not taken** is so for one of the six reasons, and no other failure comes of it. -/
theorem acquire_notTaken (hn : m.files.Numbered) (h : acquire lock alone m = (.error e, m')) :
    NotTaken lock m.files e m'.files := by
  obtain ⟨fs', hobstacle, rfl⟩ := (acquire_eq_error_iff hn).1 h
  exact notTaken_of_obstacle hn hobstacle

/-- In a tree that is not foreseen no lock is taken. -/
theorem Misshapen.acquire (lock : LockFile) (hn : m.files.Numbered) (h : Misshapen lock.path m.files) :
    ∃ failure m', acquire lock alone m = (.error (.system failure), m') := by
  obtain ⟨failure, fs', hobstacle⟩ := h.obstacle
  exact ⟨failure, _, hobstacle.acquire hn⟩

/-! ## In company -/

namespace Acquire

variable {stage : Acquire}

/-- The last call of an attempt, which fails, with what others have made of the files until then. -/
inductive Breaks (lock : LockFile) (fs : FileSystem) : Failure → FileSystem → Prop
  | denied {reason : Option String} (h : fs.openOrCreate lock.path = .error (.denied reason)) :
    Breaks lock fs (.lockFile lock.path (reasonText reason)) fs
  | unopenable {e : SystemFailure} (he : ∀ reason, e ≠ .denied reason)
    (h : fs.openOrCreate lock.path = .error e) : Breaks lock fs (.system e) fs
  /-- It cannot be told whether the path still names the file, which stays open, and locked. -/
  | uncompared {d : Descriptor} {e : SystemFailure} (h : fs.names lock.path d = .error e) :
    Breaks lock fs (.system e) fs
  | refused {d : Descriptor} {holder : Option Int} :
    Breaks lock fs (.alreadyRunning lock.path holder) (fs.close d)
  | illegible {d : Descriptor} {bs : List UInt8} {e : Failure} (hread : fs.readStart d holderBytes = some bs)
    (h : holderOf bs = .error e) : Breaks lock fs e fs

theorem step_error (h : step lock stage fs = (.inr (.error e), fs')) : Breaks lock fs e fs' := by
  cases stage with
  | opening left =>
    simp only [step] at h
    split at h
    · cases h
    · next reason hopen =>
      cases h
      exact .denied hopen
    · next failure hne hopen =>
      cases h
      exact .unopenable (fun reason he => hne reason (he ▸ rfl)) hopen
  | locking left d =>
    simp only [step] at h
    split at h <;> cases h
  | comparing left d =>
    simp only [step] at h
    split at h
    · cases h
    · cases h
    · next failure hnames =>
      cases h
      exact .uncompared hnames
  | unlocking left d => cases h
  | closing left d =>
    cases left with
    | zero =>
      cases h
      exact .refused
    | succ left => cases h
  | clearing d => cases h
  | signing d => cases h
  | asking d =>
    simp only [step] at h
    split at h
    · cases h
    · next bs hread =>
      split at h
      · cases h
      · next failure hholder =>
        cases h
        exact .illegible hread hholder
  | refusing d holder =>
    cases h
    exact .refused

/-- An attempt fails with its last call. -/
theorem run_breaks {others : Others Acquire} (h : (routine lock).run others stage fs = (.error e, fs')) :
    ∃ fs₀, Breaks lock fs₀ e fs' := by
  have hlast : ∀ e, ((routine lock).run others stage fs).1 = .error e →
      ∃ fs₀, Breaks lock fs₀ e ((routine lock).run others stage fs).2 :=
    Routine.run_of_invariant (I := fun _ _ => True)
      (Q := fun result fs' => ∀ e, result = .error e → ∃ fs₀, Breaks lock fs₀ e fs')
      (fun _ _ _ _ _ _ => trivial)
      (fun s fs result fs' _ hstep e he => ⟨others s fs, step_error (he ▸ hstep)⟩) trivial
  rw [h] at hlast
  exact hlast e rfl

end Acquire

/-- **Whatever others do meanwhile**, a lock is not taken for a failure of the lock, one of the system, or a
file that makes no sense. -/
theorem acquire_error_cases {others : Others Acquire} (h : acquire lock others m = (.error e, m')) :
    e.ofLock = true ∨ (∃ failure, e = .system failure) ∨ e = .undecodable ∨ ∃ message, e = .badValue message := by
  rw [acquire_apply] at h
  rcases hmade : m.files.makeDirectories lock.path.parent with ⟨failure | ⟨⟩, fs₁⟩
  · rw [hmade] at h
    exact .inr (.inl ⟨failure, (Except.error.inj (congrArg Prod.fst h)).symm⟩)
  · rw [hmade] at h
    simp only at h
    rcases hrun : (Acquire.routine lock).run others .start fs₁ with ⟨failure | d, fs₂⟩
    · rw [hrun] at h
      obtain rfl : failure = e := Except.error.inj (congrArg Prod.fst h)
      obtain ⟨fs₀, hbreaks⟩ := Acquire.run_breaks hrun
      cases hbreaks with
      | denied hopen => exact .inl rfl
      | unopenable hne hopen => exact .inr (.inl ⟨_, rfl⟩)
      | uncompared hnames => exact .inr (.inl ⟨_, rfl⟩)
      | refused => exact .inl rfl
      | illegible hread hholder => exact .inr (.inr (holderOf_eq_error hholder))
    · rw [hrun] at h
      exact nomatch congrArg Prod.fst h

end ClusterHealth.Lock
