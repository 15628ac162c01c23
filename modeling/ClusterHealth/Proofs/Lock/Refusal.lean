import ClusterHealth.Proofs.Lock.Accounts
import ClusterHealth.Proofs.Lock.GivingBack

/-!
# `ClusterHealth.Proofs.Lock.Refusal` — on whose account a lock is refused

An attempt to take the lock is refused if the file that it has opened is locked by another, or if in all of its
rounds the path did not name that file any more. Any number of processes may be at work meanwhile. Rounds are lost
only to somebody who had the lock and removed the file, and whoever has locked the file at the path either has the
lock or asks whether it is held. So a refusal has one of two causes: at some moment of the attempt somebody had the
lock, or, when it was about to lock the file, another had it locked for a question.

## Contents
- `Trying`: an attempt, with the moments that it has come through.
- `Occupied`, `Questioned`: the two causes.
- `Acquire.Excused`: what is known at a stage as long as nobody had the lock; kept by every step (`Excused.others`,
  `Excused.own`).
- `NoPlace`: paths at which there can be no lock file.
- `refused_cause`: every refusal has its cause. The second one occurs (`question_refuses`).
-/

namespace ClusterHealth.Lock

open FileSystem

variable {path : Path} {l : Location} {fs fs' : FileSystem} {d : Descriptor} {S S' : System}
  {n m : ProcessId} {past : List System} {stage stage' : Acquire}

/-! ## Attempts -/

/-- An attempt of a process to take the lock, as far as it has come: the moments that it has come through, the last
one first, and the present one. Whatever steps there are, of whatever processes, it is not over. -/
inductive Trying (path : Path) (fs : FileSystem) (n : ProcessId) : List System → System → Prop
  | begun {S : System} (reached : System.Reachable path (.start fs) S)
    (idle : (S.processes n).activity = .idle) :
    Trying path fs n [] (S.put n { S.processes n with activity := .acquiring .start } S.files)
  | goesOn {past : List System} {S S' : System} {m : ProcessId} {stage : Acquire}
    (sofar : Trying path fs n past S) (step : System.Step path m S S')
    (busy : (S'.processes n).activity = .acquiring stage) : Trying path fs n (S :: past) S'

namespace Trying

theorem reachable (h : Trying path fs n past S) : System.Reachable path (.start fs) S := by
  induction h with
  | begun reached idle => exact reached.tail ⟨n, .beginAcquire idle⟩
  | @goesOn past S S' m stage sofar step busy ih => exact ih.tail ⟨m, step⟩

theorem acquiring (h : Trying path fs n past S) : ∃ stage, (S.processes n).activity = .acquiring stage := by
  cases h with
  | begun reached idle => exact ⟨.start, by rw [System.processes_put_self]⟩
  | @goesOn past S S' m stage sofar step busy => exact ⟨stage, busy⟩

/-- The next call of the attempt. -/
theorem call (stage' : Acquire) (h : Trying path fs n past S) (busy : (S.processes n).activity = .acquiring stage)
    (hcall : (Acquire.step ⟨path, n⟩ stage S.files).1 = .inl stage') :
    Trying path fs n (S :: past) (S.put n { S.processes n with activity := .acquiring stage' }
      (Acquire.step ⟨path, n⟩ stage S.files).2) :=
  h.goesOn (.acquire_fst stage' busy hcall) (by rw [System.processes_put_self])

end Trying

/-- The step of a process that takes the lock before it and after it is a call of `Acquire`. -/
theorem step_acquiring (h : System.Step path n S S') (before : (S.processes n).activity = .acquiring stage)
    (after : (S'.processes n).activity = .acquiring stage') :
    Acquire.step ⟨path, n⟩ stage S.files = (.inl stage', S'.files) := by
  cases h with
  | acquire busy call =>
    rw [System.processes_put_self] at after
    cases before.symm.trans busy
    cases after
    exact call
  | beginAcquire idle => cases before.symm.trans idle
  | beginRelease idle has => cases before.symm.trans idle
  | beginAsk idle => cases before.symm.trans idle
  | release busy call => cases before.symm.trans busy
  | released busy call => cases before.symm.trans busy
  | ask busy call => cases before.symm.trans busy
  | answered busy call => cases before.symm.trans busy
  | acquired busy call =>
    rw [System.processes_put_self] at after
    cases after
  | notAcquired busy call =>
    rw [System.processes_put_self] at after
    cases after
  | die =>
    rw [System.processes_put_self] at after
    cases after

/-! ## Causes -/

/-- Somebody has the lock of the file at the path: another process, or this one by an earlier attempt. -/
def Occupied (path : Path) (n : ProcessId) (T : System) : Prop :=
  ∃ m d, (T.processes m).Locks d .exclusive ∧ Has path d (some .exclusive) T.files
    ∧ (m ≠ n ∨ d ∈ (T.processes n).held)

/-- A process is about to lock its file, and another, which asks whether the lock is held, has the file at the path
locked for its question. -/
def Questioned (path : Path) (n : ProcessId) (T : System) : Prop :=
  ∃ m d, m ≠ n ∧ (T.processes m).activity = .asking (.unlocking d) ∧ Has path d (some .shared) T.files
    ∧ ∃ left e, (T.processes n).activity = .acquiring (.locking left e)

/-- What is known at a stage as long as nobody had the lock: until the file is compared, the path names it, so that
no round is lost; and where it was found locked, somebody has asked. -/
def Acquire.Excused (path : Path) (fs : FileSystem) (asked : Prop) : Acquire → Prop
  | .locking _ d | .comparing _ d => StillNames path d fs
  | .unlocking .. | .closing .. => False
  | .asking _ | .refusing .. => asked
  | .opening _ | .clearing _ | .signing _ => True

/-- Whoever has the file at the path locked alone has the lock. -/
theorem Accounted.occupied (acc : Accounted S) (inv : Inv path l S) (hmine : d ∈ (S.processes m).descriptors)
    (hm : m ≠ n) (h : Holds S.files l d) : Occupied path n S := by
  obtain ⟨i, hopen, hentry⟩ := h
  obtain ⟨k, hk⟩ := acc.owner d .exclusive ⟨i, hopen⟩
  have hkm : k = m := by
    by_contra hne
    exact inv.apart k m hne d hk.mem_descriptors hmine
  subst hkm
  exact ⟨k, d, hk, ⟨i, (status_eq_ok_iff inv.steady.leads).2 hentry, hopen⟩, .inl hm⟩

/-- **A step of another process** leaves what is known, unless it is one that has the lock. -/
theorem Acquire.Excused.others {asked : Prop} (h : stage.Excused path S.files asked) (acc : Accounted S)
    (inv : Inv path l S) (busy : (S.processes n).activity = .acquiring stage) (hm : m ≠ n)
    (hstep : System.Step path m S S') : Occupied path n S ∨ stage.Excused path S'.files asked := by
  obtain ⟨own, p, fs, rfl, t⟩ := inv.turn hstep
  have hleads := t.call.steady.leads
  -- What the path names stays, unless somebody who has the lock removes it.
  have hnames : ∀ d, stage.descriptor? = some d → StillNames path d S.files →
      Occupied path n S ∨ StillNames path d fs := by
    rintro d hd ⟨mode, i, hstatus, hopen⟩
    have hentry := (status_eq_ok_iff inv.steady.leads).1 hstatus
    have hmine : d ∈ (S.processes n).descriptors := mem_descriptors_of_activity (by rw [busy]; exact hd)
    rcases t.call.entry with hsame | hnone | ⟨e, he, hholds⟩
    · refine .inr ⟨mode, i, (status_eq_ok_iff hleads).2 (hsame.trans hentry), ?_⟩
      exact (t.call.others d (inv.below n d hmine) fun hown => inv.apart n m hm.symm d hmine (t.mine d hown)).trans
        hopen
    · cases hnone.symm.trans hentry
    · exact .inl (acc.occupied inv (t.mine e he) hm hholds)
  cases stage with
  | locking left d => exact hnames d rfl h
  | comparing left d => exact hnames d rfl h
  | _ => exact .inr h

/-- A file that the path names is found locked: by one who has the lock, or by one who asks. -/
theorem Accounted.cause_of_locked {left : Nat} (acc : Accounted S) (h : StillNames path d S.files)
    (busy : (S.processes n).activity = .acquiring (.locking left d)) (hlocked : S.files.tryLock d .exclusive = none) :
    Occupied path n S ∨ Questioned path n S := by
  obtain ⟨mode, i, hstatus, hopen⟩ := h
  have hblocked : S.files.blocked d i .exclusive = true := by
    unfold tryLock at hlocked
    simp only [hopen] at hlocked
    split at hlocked
    · next hblocked => exact hblocked
    · cases hlocked
  obtain ⟨m, e, held, -, hother, -, hlocks⟩ := acc.of_blocked hblocked
  rcases hlocks with ⟨hgiven, rfl⟩ | hroutine
  · left
    refine ⟨m, e, .inl ⟨hgiven, rfl⟩, ⟨i, hstatus, hother⟩, ?_⟩
    by_cases hm : m = n
    · exact .inr (hm ▸ hgiven)
    · exact .inl hm
  · have hm : m ≠ n := by
      rintro rfl
      rw [busy] at hroutine
      cases hroutine
    cases held with
    | exclusive => exact .inl ⟨m, e, .inr hroutine, ⟨i, hstatus, hother⟩, .inl hm⟩
    | shared => exact .inr ⟨m, e, hm, Activity.asking_of_shared hroutine, ⟨i, hstatus, hother⟩, left, d, busy⟩

/-- **A call of the attempt itself**: no round is lost as long as nobody had the lock. -/
theorem Acquire.Excused.own {asked : Prop} (h : stage.Excused path S.files asked) (acc : Accounted S)
    (busy : (S.processes n).activity = .acquiring stage)
    (hcall : Acquire.step ⟨path, n⟩ stage S.files = (.inl stage', fs')) :
    Occupied path n S ∨ stage'.Excused path fs' (asked ∨ Questioned path n S) := by
  cases stage with
  | opening left =>
    simp only [step] at hcall
    split at hcall
    · next hopen =>
      cases hcall
      exact .inr ⟨none, Has.openOrCreate hopen⟩
    all_goals cases hcall
  | locking left d =>
    simp only [step] at hcall
    split at hcall
    · next hlock =>
      cases hcall
      obtain ⟨mode, hhas⟩ := h
      exact .inr ⟨some .exclusive, hhas.tryLock hlock⟩
    · next hlock =>
      cases hcall
      exact (acc.cause_of_locked h busy hlock).imp id .inr
  | comparing left d =>
    obtain ⟨mode, hhas⟩ := h
    simp only [step, hhas.names] at hcall
    cases hcall
    exact .inr trivial
  | unlocking left d => exact h.elim
  | closing left d => exact h.elim
  | clearing d =>
    cases hcall
    exact .inr trivial
  | signing d => cases hcall
  | asking d =>
    right
    simp only [step] at hcall
    split at hcall
    · cases hcall
      exact .inl h
    · split at hcall
      · cases hcall
        exact .inl h
      · cases hcall
  | refusing d holder => cases hcall

/-- What is known does not depend on how long ago somebody has asked. -/
theorem Acquire.Excused.mono {asked asked' : Prop} (h : stage.Excused path fs asked) (himp : asked → asked') :
    stage.Excused path fs asked' := by
  cases stage with
  | asking d => exact himp h
  | refusing d holder => exact himp h
  | _ => exact h

/-! ## Whole attempts -/

theorem Accounted.reachable (hs : Steady path l fs) (hkeyed : fs.Keyed)
    (hfree : ∀ x ∈ fs.openFiles, x.2.lock = none) (h : System.Reachable path (.start fs) S) : Accounted S := by
  induction h with
  | refl => exact .start hkeyed hfree
  | tail hreached hstep ih =>
    obtain ⟨n, hstep⟩ := hstep
    exact ih.step ((Inv.start hs).reachable hreached) hstep

/-- **All through an attempt**, either somebody has had the lock, or what is known at its stage holds. -/
theorem Trying.excused (h : Trying path fs n past S) (hs : Steady path l fs) (hkeyed : fs.Keyed)
    (hfree : ∀ x ∈ fs.openFiles, x.2.lock = none) (busy : (S.processes n).activity = .acquiring stage) :
    (∃ T ∈ S :: past, Occupied path n T)
      ∨ stage.Excused path S.files (∃ T ∈ S :: past, Questioned path n T) := by
  induction h generalizing stage with
  | begun reached idle =>
    rw [System.processes_put_self] at busy
    cases busy
    exact .inr trivial
  | @goesOn past S S' m last sofar step busy' ih =>
    have inv : Inv path l S := (Inv.start hs).reachable sofar.reachable
    have acc : Accounted S := Accounted.reachable hs hkeyed hfree sofar.reachable
    have hearlier : ∀ {P : System → Prop}, (∃ T ∈ S :: past, P T) → ∃ T ∈ S' :: S :: past, P T := by
      rintro P ⟨T, hT, hP⟩
      exact ⟨T, List.mem_cons_of_mem _ hT, hP⟩
    have hnow : ∀ {P : System → Prop}, P S → ∃ T ∈ S' :: S :: past, P T :=
      fun hP => ⟨S, List.mem_cons_of_mem _ List.mem_cons_self, hP⟩
    obtain ⟨before, hbefore⟩ := sofar.acquiring
    rcases ih hbefore with hoccupied | hexcused
    · exact .inl (hearlier hoccupied)
    · by_cases hm : m = n
      · subst hm
        rcases hexcused.own acc hbefore (step_acquiring step hbefore busy) with hoccupied | hexcused'
        · exact .inl (hnow hoccupied)
        · exact .inr (hexcused'.mono fun hasked => hasked.elim hearlier hnow)
      · -- the stage is what it was
        obtain ⟨own, p, fs', rfl, -⟩ := inv.turn step
        rw [System.processes_put_ne (Ne.symm hm)] at busy
        cases hbefore.symm.trans busy
        rcases hexcused.others acc inv hbefore hm step with hoccupied | hexcused'
        · exact .inl (hnow hoccupied)
        · exact .inr (hexcused'.mono hearlier)

/-- An attempt is refused after its last round, or because it has found the file locked. -/
theorem Acquire.step_refused (lock : LockFile) {holder : Option Int}
    (h : (step lock stage fs).1 = .inr (.error (.alreadyRunning lock.path holder))) :
    (∃ d, stage = .closing 0 d) ∨ ∃ d told, stage = .refusing d told := by
  cases stage with
  | opening left =>
    simp only [step] at h
    split at h <;> cases h
  | locking left d =>
    simp only [step] at h
    split at h <;> cases h
  | comparing left d =>
    simp only [step] at h
    split at h <;> cases h
  | unlocking left d => cases h
  | closing left d =>
    cases left with
    | zero => exact .inl ⟨d, rfl⟩
    | succ left => cases h
  | clearing d => cases h
  | signing d => cases h
  | asking d =>
    simp only [step] at h
    split at h
    · cases h
    · split at h
      · cases h
      · next hsenseless =>
        cases h
        rcases holderOf_eq_error hsenseless with hno | ⟨message, hno⟩
        · cases hno
        · cases hno
  | refusing d told => exact .inr ⟨d, told, rfl⟩

/-! ## Paths without a lock file -/

/-- There can be no lock file at a path that leads nowhere, or to a directory. -/
def NoPlace (path : Path) (fs : FileSystem) : Prop :=
  ∀ l, fs.locate path = .ok l → ∃ i, fs.entry? l = some ⟨i, .directory⟩

/-- A process that has no lock, and has no file open for one. -/
def Process.Outside (p : Process) : Prop :=
  p.held = [] ∧ match p.activity with
    | .acquiring stage => ∃ left, stage = .opening left
    | .releasing _ => False
    | .idle | .asking _ => True

/-- No lock file, and nobody who has one open for a lock. -/
structure Barren (path : Path) (S : System) : Prop where
  noPlace : NoPlace path S.files
  outside : ∀ m, (S.processes m).Outside

theorem NoPlace.of_entries (h : NoPlace path fs) (he : fs'.entries = fs.entries) (hw : fs'.working = fs.working) :
    NoPlace path fs' := by
  intro l hl
  rw [locate_of_entries he hw] at hl
  rw [entry?_of_entries he]
  exact h l hl

/-- An attempt fails there at once, for another reason than a lock. -/
theorem NoPlace.step_opening (lock : LockFile) (left : Nat) (h : NoPlace lock.path fs) :
    ∃ e, Acquire.step lock (.opening left) fs = (.inr (.error e), fs)
      ∧ ∀ holder, e ≠ .alreadyRunning lock.path holder := by
  simp only [Acquire.step]
  split
  · next hopen =>
    obtain ⟨l, hl, ⟨i, hentry, -⟩ | ⟨hentry, -⟩⟩ := openOrCreate_eq_ok hopen
    all_goals
      obtain ⟨j, hdirectory⟩ := h l hl
      cases hentry.symm.trans hdirectory
  · exact ⟨_, rfl, fun holder hne => by cases hne⟩
  · exact ⟨_, rfl, fun holder hne => by cases hne⟩

/-- A question changes no entry. -/
theorem Ask.step_entries {s : Ask} {next : Progress Ask Bool} (h : step path s fs = (next, fs')) :
    fs'.entries = fs.entries ∧ fs'.working = fs.working := by
  cases s with
  | opening =>
    simp only [step] at h
    split at h
    · next hopen =>
      obtain ⟨rfl, rfl⟩ := Prod.mk.inj h
      obtain ⟨i, hopened⟩ := openExisting_eq_ok hopen
      obtain rfl := congrArg Prod.snd hopened
      exact ⟨rfl, rfl⟩
    all_goals
      obtain ⟨rfl, rfl⟩ := Prod.mk.inj h
      exact ⟨rfl, rfl⟩
  | locking d =>
    simp only [step] at h
    split at h
    · next hlock =>
      obtain ⟨rfl, rfl⟩ := Prod.mk.inj h
      obtain ⟨file, -, -, rfl⟩ := tryLock_eq_some hlock
      exact ⟨entries_setLock, working_setLock⟩
    · obtain ⟨rfl, rfl⟩ := Prod.mk.inj h
      exact ⟨rfl, rfl⟩
  | unlocking d =>
    obtain ⟨rfl, rfl⟩ := Prod.mk.inj h
    exact ⟨entries_setLock, working_setLock⟩
  | closing d held =>
    obtain ⟨rfl, rfl⟩ := Prod.mk.inj h
    exact ⟨rfl, rfl⟩

/-- What a step leaves in order, as far as a process has no file open for a lock. -/
theorem Barren.put {p : Process} (h : Barren path S) (he : fs.entries = S.files.entries)
    (hw : fs.working = S.files.working) (hp : p.Outside) : Barren path (S.put n p fs) :=
  ⟨h.noPlace.of_entries he hw, System.forall_put (P := fun _ q => q.Outside) hp fun m _ => h.outside m⟩

/-- An attempt is about to open the file, and then it fails. -/
theorem Barren.fails (h : Barren path S) (busy : (S.processes n).activity = .acquiring stage) :
    ∃ e, Acquire.step ⟨path, n⟩ stage S.files = (.inr (.error e), S.files)
      ∧ ∀ holder, e ≠ .alreadyRunning path holder := by
  have houtside := (h.outside n).2
  rw [busy] at houtside
  obtain ⟨left, rfl⟩ := houtside
  exact NoPlace.step_opening ⟨path, n⟩ left h.noPlace

/-- **Every step leaves it so** that there is no lock file, and nobody has one open. -/
theorem Barren.step (h : Barren path S) (hstep : System.Step path n S S') : Barren path S' := by
  have hheld := (h.outside n).1
  have hactivity := (h.outside n).2
  cases hstep with
  | beginAcquire idle => exact h.put rfl rfl ⟨hheld, _, rfl⟩
  | beginRelease idle has =>
    rw [hheld] at has
    cases has
  | beginAsk idle => exact h.put rfl rfl ⟨hheld, trivial⟩
  | acquire busy call =>
    obtain ⟨e, hfails, -⟩ := h.fails busy
    cases hfails.symm.trans call
  | acquired busy call =>
    obtain ⟨e, hfails, -⟩ := h.fails busy
    cases hfails.symm.trans call
  | notAcquired busy call =>
    obtain ⟨e, hfails, -⟩ := h.fails busy
    obtain rfl := congrArg Prod.snd (hfails.symm.trans call)
    exact h.put rfl rfl ⟨hheld, trivial⟩
  | release busy call =>
    rw [busy] at hactivity
    exact hactivity.elim
  | released busy call =>
    rw [busy] at hactivity
    exact hactivity.elim
  | ask busy call =>
    obtain ⟨he, hw⟩ := Ask.step_entries call
    exact h.put he hw ⟨hheld, trivial⟩
  | answered busy call =>
    obtain ⟨he, hw⟩ := Ask.step_entries call
    exact h.put he hw ⟨hheld, trivial⟩
  | die => exact h.put (entries_closeAll _) (working_closeAll _) ⟨rfl, trivial⟩

theorem Barren.reachable (h : NoPlace path fs) (hreached : System.Reachable path (.start fs) S) : Barren path S := by
  induction hreached with
  | refl => exact ⟨h, fun _ => ⟨rfl, trivial⟩⟩
  | tail _ hstep ih =>
    obtain ⟨n, hstep⟩ := hstep
    exact ih.step hstep

/-! ## The cause of a refusal -/

/-- **A refusal has its cause.** Let any number of processes take the lock, give it back and ask whether it is held,
from a state in which nothing is locked, in whatever order their calls come. Whenever an attempt to take the lock is
refused, then at some moment of the attempt somebody had the lock of the file at the path; or the attempt found the
file locked just when another process had it locked for a question. Rounds are lost only to somebody who had the
lock. -/
theorem refused_cause {holder : Option Int} (hkeyed : fs.Keyed) (hfree : ∀ x ∈ fs.openFiles, x.2.lock = none)
    (h : Trying path fs n past S) (busy : (S.processes n).activity = .acquiring stage)
    (hrefused : (Acquire.step ⟨path, n⟩ stage S.files).1 = .inr (.error (.alreadyRunning path holder))) :
    (∃ T ∈ S :: past, Occupied path n T)
      ∨ (∃ d told, stage = .refusing d told) ∧ ∃ T ∈ S :: past, Questioned path n T := by
  by_cases hnoplace : NoPlace path fs
  · -- the attempt would fail when it opens the file
    obtain ⟨e, hfails, hother⟩ := (Barren.reachable hnoplace h.reachable).fails busy
    rw [hfails] at hrefused
    cases hrefused
    exact absurd rfl (hother holder)
  · have hs : ∃ l, Steady path l fs := by
      simp only [NoPlace, not_forall] at hnoplace
      obtain ⟨l, hl, hfile⟩ := hnoplace
      refine ⟨l, hl, fun entry hentry => ?_, fun x hx y hy _ hlocked => ?_⟩
      · obtain ⟨i, kind⟩ := entry
        cases kind with
        | file => rfl
        | directory => exact absurd ⟨i, hentry⟩ hfile
      · cases (hfree x hx).symm.trans hlocked
    obtain ⟨l, hs⟩ := hs
    rcases h.excused hs hkeyed hfree busy with hoccupied | hexcused
    · exact .inl hoccupied
    · rcases Acquire.step_refused ⟨path, n⟩ hrefused with ⟨d, rfl⟩ | ⟨d, told, rfl⟩
      · exact hexcused.elim
      · exact .inr ⟨⟨d, told, rfl⟩, hexcused⟩

/-- A process is refused the lock while another one has it. -/
theorem refused_cause_abandoned :
    ∃ past S, Trying ⟨.working, ["lock"]⟩ abandoned 1 past S
      ∧ (S.processes 1).activity = .acquiring (.refusing 3 (some 42))
      ∧ (Acquire.step ⟨⟨.working, ["lock"]⟩, 1⟩ (.refusing 3 (some 42)) S.files).1
          = .inr (.error (.alreadyRunning ⟨.working, ["lock"]⟩ (some 42)))
      ∧ ∃ T ∈ S :: past, Occupied ⟨.working, ["lock"]⟩ 1 T := by
  have h₁ := Relation.ReflTransGen.single (r := fun S S' => ∃ n, System.Step ⟨.working, ["lock"]⟩ n S S')
    ⟨0, .beginAcquire (S := .start abandoned) rfl⟩
  have h₂ := h₁.tail ⟨0, .acquire_fst (.locking 2 2) rfl (by decide +kernel)⟩
  have h₃ := h₂.tail ⟨0, .acquire_fst (.comparing 2 2) rfl (by decide +kernel)⟩
  have t₀ := Trying.begun (n := 1) h₃ rfl
  have t₁ := t₀.call (.locking 2 3) rfl (by decide +kernel)
  have t₂ := t₁.call (.asking 3) rfl (by decide +kernel)
  have t₃ := t₂.call (.refusing 3 (some 42)) rfl (by decide +kernel)
  refine ⟨_, _, t₃, rfl, rfl, ?_⟩
  have hkeyed : abandoned.Keyed := List.nodup_nil
  have hfree : ∀ x ∈ abandoned.openFiles, x.2.lock = none := List.forall_mem_nil _
  have hcause := refused_cause hkeyed hfree t₃ rfl rfl
  refine hcause.resolve_right ?_
  -- no file is ever locked for a question
  rintro ⟨-, T, hT, m, d, -, -, ⟨i, -, hopen⟩, -⟩
  have hshared : ∀ x ∈ T.files.openFiles, x.2.lock ≠ some .shared := by
    simp only [List.mem_cons, List.not_mem_nil, or_false] at hT
    rcases hT with rfl | rfl | rfl | rfl
    all_goals decide +kernel
  exact hshared _ (Pairs.mem_of_get? hopen) rfl

/-- A process that has no lock, and does nothing but ask. -/
def Process.OnlyAsks (p : Process) : Prop :=
  p.held = [] ∧ (p.activity = .idle ∨ ∃ stage, p.activity = .asking stage)

/-- **A question refuses a lock.** Nobody has an old lock file open. One process asks whether the lock is held, and
while it does, another one is refused the lock, as if the process whose number the file still has were running. -/
theorem question_refuses :
    ∃ past S stage, Trying ⟨.working, ["lock"]⟩ abandoned 0 past S
      ∧ (S.processes 0).activity = .acquiring stage
      ∧ (Acquire.step ⟨⟨.working, ["lock"]⟩, 0⟩ stage S.files).1
          = .inr (.error (.alreadyRunning ⟨.working, ["lock"]⟩ (some 42)))
      ∧ ∀ T ∈ S :: past, ∀ m, m ≠ 0 → (T.processes m).OnlyAsks := by
  have h₁ := Relation.ReflTransGen.single (r := fun S S' => ∃ n, System.Step ⟨.working, ["lock"]⟩ n S S')
    ⟨1, .beginAsk (S := .start abandoned) rfl⟩
  have h₂ := h₁.tail ⟨1, .ask_fst (.locking 2) rfl (by decide +kernel)⟩
  have h₃ := h₂.tail ⟨1, .ask_fst (.unlocking 2) rfl (by decide +kernel)⟩
  have t₀ := Trying.begun (n := 0) h₃ rfl
  have t₁ := t₀.call (.locking 2 3) rfl (by decide +kernel)
  have t₂ := t₁.call (.asking 3) rfl (by decide +kernel)
  have t₃ := t₂.call (.refusing 3 (some 42)) rfl (by decide +kernel)
  refine ⟨_, _, _, t₃, rfl, rfl, ?_⟩
  intro T hT m hm
  simp only [List.mem_cons, List.not_mem_nil, or_false] at hT
  by_cases h1 : m = 1
  · subst h1
    rcases hT with rfl | rfl | rfl | rfl
    all_goals exact ⟨rfl, .inr ⟨.unlocking 2, rfl⟩⟩
  · -- nobody else has begun anything
    rcases hT with rfl | rfl | rfl | rfl
    all_goals
      simp only [System.processes_put_ne hm, System.processes_put_ne h1]
      exact ⟨rfl, .inl rfl⟩

end ClusterHealth.Lock
