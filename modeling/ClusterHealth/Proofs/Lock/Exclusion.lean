import ClusterHealth.Proofs.Lock.Processes
import Mathlib.Data.List.Nodup
import Mathlib.Data.List.Perm.Basic

/-!
# `ClusterHealth.Proofs.Lock.Exclusion` — at most one process has the lock

Giving a lock back removes its file, so a process can lock a file that no longer has a name while another
one makes a new file. Two things keep the lock exclusive all the same: the file is removed before it is
unlocked, and whoever has locked a file looks again whether the path still names it.

## Contents
- `Holds`: the descriptor has the file at the path locked alone.
- `Call`: what a call on some descriptors leaves to all others. Every call of the three routines is one
  (`Acquire.call_step`, `Release.call_step`, `Ask.call_step`), and `Holds` survives the calls of others.
- `Inv`: the invariant of a system, kept by every step (`Inv.step`).
- `lock_exclusive`: what follows for every reachable system.
-/

namespace ClusterHealth.Lock

open FileSystem

variable {path : Path} {l : Location} {fs fs' : FileSystem} {d : Descriptor} {own : List Descriptor}

/-! ## What a call leaves to others -/

/-- The path leads to a place where there is a file or nothing, and locks exclude each other. -/
structure Steady (path : Path) (l : Location) (fs : FileSystem) : Prop where
  leads : fs.locate path = .ok l
  regular : ∀ e, fs.entry? l = some e → e.kind = .file
  exclusive : fs.LocksExclude

/-- The descriptor has the file at a location locked alone. -/
def Holds (fs : FileSystem) (l : Location) (d : Descriptor) : Prop :=
  ∃ i, fs.openFile? d = some ⟨i, some .exclusive⟩ ∧ fs.entry? l = some ⟨i, .file⟩

/-- What a call on the descriptors `own` may do: it leaves all other open files as they are, and changes
what is at the location only if there is nothing or if one of its own descriptors has the file there
locked alone. -/
structure Call (path : Path) (l : Location) (own : List Descriptor) (fs fs' : FileSystem) : Prop where
  steady : Steady path l fs'
  fresh_le : fs.fresh ≤ fs'.fresh
  others : ∀ d < fs.fresh, d ∉ own → fs'.openFile? d = fs.openFile? d
  entry : fs'.entry? l = fs.entry? l ∨ fs.entry? l = none ∨ ∃ d ∈ own, Holds fs l d

/-- Two descriptors that have the same place locked alone are one. -/
theorem Holds.unique {e : Descriptor} (hx : fs.LocksExclude) (hd : Holds fs l d) (he : Holds fs l e) :
    d = e := by
  obtain ⟨i, hdo, hdl⟩ := hd
  obtain ⟨j, heo, hel⟩ := he
  have hij : i = j := congrArg Entry.inode (Option.some.inj (hdl.symm.trans hel))
  exact hx _ (Pairs.mem_of_get? hdo) _ (Pairs.mem_of_get? heo) hij rfl (by simp)

/-- Whoever has the file at the path locked alone still has it after a call on other descriptors. -/
theorem Holds.call (hs : Steady path l fs) (hc : Call path l own fs fs') (hd : Holds fs l d)
    (hlt : d < fs.fresh) (hn : d ∉ own) : Holds fs' l d := by
  obtain ⟨i, ho, hl⟩ := hd
  have hentry : fs'.entry? l = fs.entry? l := by
    -- The entry was there, and only its holder may change it.
    rcases hc.entry with h | h | ⟨e, he, hh⟩
    · exact h
    · rw [hl] at h
      exact absurd h (by simp)
    · exact absurd (Holds.unique hs.exclusive ⟨i, ho, hl⟩ hh) (fun hde => hn (hde ▸ he))
  exact ⟨i, by rw [hc.others d hlt hn, ho], by rw [hentry, hl]⟩

theorem Call.refl (hs : Steady path l fs) : Call path l own fs fs :=
  ⟨hs, Nat.le_refl _, fun _ _ _ => rfl, .inl rfl⟩

/-- The way to the path and what is there stay the same as long as entries do. -/
theorem Steady.of_entries (hs : Steady path l fs) (he : fs'.entries = fs.entries)
    (hw : fs'.working = fs.working) (hx : fs'.LocksExclude) : Steady path l fs' := by
  refine ⟨locate_of_directories hs.leads hw ?_, ?_, hx⟩
  · intro m j h
    exact ⟨j, by rw [entry?_of_entries he, h]⟩
  · intro e h
    exact hs.regular e (by rw [← entry?_of_entries he, h])

theorem Call.openInode (hs : Steady path l fs) (i : Inode) : Call path l own fs (fs.openInode i).2 :=
  ⟨hs.of_entries rfl rfl hs.exclusive.openInode, Nat.le_succ _,
    fun _ hlt _ => openFile?_openInode_ne (Nat.ne_of_lt hlt), .inl rfl⟩

theorem Call.tryLock {mode : LockMode} (hs : Steady path l fs) (h : fs.tryLock d mode = some fs') :
    Call path l [d] fs fs' := by
  have hx := hs.exclusive.tryLock h
  obtain ⟨file, -, -, rfl⟩ := tryLock_eq_some h
  refine ⟨hs.of_entries entries_setLock working_setLock hx, ?_, ?_,
    .inl (entry?_of_entries entries_setLock)⟩
  · exact Nat.le_of_eq fresh_setLock.symm
  · intro e _ he
    exact openFile?_setLock_ne (fun hed => he (List.mem_singleton.2 hed))

theorem Call.unlock (hs : Steady path l fs) : Call path l [d] fs (fs.unlock d) := by
  refine ⟨hs.of_entries entries_setLock working_setLock hs.exclusive.unlock, ?_, ?_,
    .inl (entry?_of_entries entries_setLock)⟩
  · exact Nat.le_of_eq fresh_setLock.symm
  · intro e _ he
    exact openFile?_setLock_ne (fun hed => he (List.mem_singleton.2 hed))

theorem Call.closeAll (hs : Steady path l fs) : Call path l own fs (fs.closeAll own) := by
  refine ⟨hs.of_entries (entries_closeAll own) (working_closeAll own) (hs.exclusive.closeAll own), ?_, ?_,
    .inl (entry?_of_entries (entries_closeAll own))⟩
  · exact Nat.le_of_eq (fresh_closeAll own).symm
  · intro e _ he
    exact openFile?_closeAll he

theorem Call.close (hs : Steady path l fs) : Call path l [d] fs (fs.close d) :=
  Call.closeAll hs

theorem Call.truncate (hs : Steady path l fs) : Call path l own fs (fs.truncate d) := by
  unfold FileSystem.truncate
  split
  · exact Call.refl hs
  · exact ⟨hs.of_entries rfl rfl hs.exclusive, Nat.le_refl _, fun _ _ _ => rfl, .inl rfl⟩

theorem Call.writeStart {bs : List UInt8} (hs : Steady path l fs) :
    Call path l own fs (fs.writeStart d bs) := by
  unfold FileSystem.writeStart
  split
  · exact Call.refl hs
  · exact ⟨hs.of_entries rfl rfl hs.exclusive, Nat.le_refl _, fun _ _ _ => rfl, .inl rfl⟩

theorem Steady.create (hs : Steady path l fs) (hn : fs.entry? l = none) :
    Steady path l (fs.create l .file) := by
  refine ⟨locate_of_directories hs.leads rfl ?_, ?_, hs.exclusive⟩
  · intro m j h
    have hm : m ≠ l := by
      intro hml
      rw [hml, hn] at h
      exact absurd h (by simp)
    exact ⟨j, by rw [entry?_create_ne hm, h]⟩
  · intro e h
    rw [entry?_create_self] at h
    rw [← Option.some.inj h]

/-- Opening the file at the path, or making it. The descriptor is a new one. -/
theorem Call.openOrCreate (hs : Steady path l fs) (h : fs.openOrCreate path = .ok (d, fs')) :
    Call path l own fs fs' ∧ fs.fresh ≤ d ∧ d < fs'.fresh := by
  obtain ⟨m, hm, ⟨i, he, ho⟩ | ⟨he, ho⟩⟩ := openOrCreate_eq_ok h
  · have hd : d = fs.fresh := congrArg Prod.fst ho
    have hf : fs' = (fs.openInode i).2 := congrArg Prod.snd ho
    subst hd hf
    exact ⟨Call.openInode hs i, Nat.le_refl _, Nat.lt_succ_self _⟩
  · have hml : m = l := Except.ok.inj (hm.symm.trans hs.leads)
    subst hml
    have hd : d = fs.fresh + 1 := congrArg Prod.fst ho
    have hf : fs' = ((fs.create m .file).openInode fs.fresh).2 := congrArg Prod.snd ho
    subst hd hf
    have hc : Call path m own (fs.create m .file) _ := Call.openInode (hs.create he) fs.fresh
    refine ⟨⟨hc.steady, Nat.le_trans (Nat.le_succ _) hc.fresh_le, ?_, .inr (.inl he)⟩, Nat.le_succ _,
      Nat.lt_succ_self _⟩
    intro e hlt hn
    exact hc.others e (Nat.lt_succ_of_lt hlt) hn

theorem Call.openExisting (hs : Steady path l fs) (h : fs.openExisting path = .ok (d, fs')) :
    Call path l own fs fs' ∧ fs.fresh ≤ d ∧ d < fs'.fresh := by
  obtain ⟨i, ho⟩ := openExisting_eq_ok h
  have hd : d = fs.fresh := congrArg Prod.fst ho
  have hf : fs' = (fs.openInode i).2 := congrArg Prod.snd ho
  subst hd hf
  exact ⟨Call.openInode hs i, Nat.le_refl _, Nat.lt_succ_self _⟩

/-- Removing the file at the path, which only its holder may do. -/
theorem Call.remove (hs : Steady path l fs) (hd : Holds fs l d) (h : fs.remove path = .ok fs') :
    Call path l [d] fs fs' := by
  obtain ⟨m, i, hm, he, rfl⟩ := remove_eq_ok h
  have hml : m = l := Except.ok.inj (hm.symm.trans hs.leads)
  subst hml
  refine ⟨⟨locate_of_directories hs.leads rfl ?_, ?_, hs.exclusive⟩, Nat.le_refl _, fun _ _ _ => rfl,
    .inr (.inr ⟨d, List.mem_singleton.2 rfl, hd⟩)⟩
  · intro n j hn
    have hne : n ≠ m := by
      intro hnm
      rw [hnm, he] at hn
      exact absurd (congrArg Entry.kind (Option.some.inj hn)) (by simp)
    exact ⟨j, (Pairs.get?_erase_ne hne _).trans hn⟩
  · intro e hm'
    have hnone : Pairs.get? m (Pairs.erase m fs.entries) = none := Pairs.get?_erase_self m _
    exact absurd (hnone.symm.trans hm') (by simp)

/-! ## What the stages of a routine rely on -/

/-- What a stage of `Acquire` relies on: from the comparison on, the file is locked alone, and after it the
path still names it. -/
def Acquire.Sound (fs : FileSystem) (l : Location) : Acquire → Prop
  | .comparing _ d => ∃ i, fs.openFile? d = some ⟨i, some .exclusive⟩
  | .clearing d | .signing d => Holds fs l d
  | _ => True

/-- What a stage of `Release` relies on: until the file is removed, the lock is still there. -/
def Release.Sound (fs : FileSystem) (l : Location) : Release → Prop
  | .comparing d | .removing d => Holds fs l d
  | _ => True

/-- What the routine of a process relies on. -/
def Activity.Sound (fs : FileSystem) (l : Location) : Activity → Prop
  | .acquiring stage => stage.Sound fs l
  | .releasing stage => stage.Sound fs l
  | .idle | .asking _ => True

/-- A routine goes on with the descriptor that it had, with none, or with a new one. -/
def Keeps (fs fs' : FileSystem) (old new : Option Descriptor) : Prop :=
  new = old ∨ new = none ∨ ∃ d, new = some d ∧ fs.fresh ≤ d ∧ d < fs'.fresh

/-- What a routine relies on survives the calls of others. -/
theorem Activity.Sound.call {a : Activity} (hs : Steady path l fs) (hc : Call path l own fs fs')
    (ha : a.Sound fs l) (hlt : ∀ d ∈ a.descriptor?, d < fs.fresh) (hn : ∀ d ∈ a.descriptor?, d ∉ own) :
    a.Sound fs' l := by
  cases a with
  | idle => exact trivial
  | asking _ => exact trivial
  | acquiring s =>
    cases s with
    | comparing left d =>
      obtain ⟨i, hi⟩ := ha
      exact ⟨i, (hc.others d (hlt d rfl) (hn d rfl)).trans hi⟩
    | clearing d => exact Holds.call hs hc ha (hlt d rfl) (hn d rfl)
    | signing d => exact Holds.call hs hc ha (hlt d rfl) (hn d rfl)
    | _ => exact trivial
  | releasing s =>
    cases s with
    | comparing d => exact Holds.call hs hc ha (hlt d rfl) (hn d rfl)
    | removing d => exact Holds.call hs hc ha (hlt d rfl) (hn d rfl)
    | _ => exact trivial

/-- What is known after a call of `Acquire`: it works on its own descriptor only, and what the next stage
relies on is there; a descriptor that it returns has the file at the path locked alone. -/
structure Acquire.Stepped (path : Path) (l : Location) (s : Acquire) (fs : FileSystem)
    (next : Progress Acquire Descriptor) (fs' : FileSystem) : Prop where
  call : Call path l s.descriptor?.toList fs fs'
  goesOn : ∀ s', next = .inl s' → Keeps fs fs' s.descriptor? s'.descriptor? ∧ s'.Sound fs' l
  gives : ∀ d, next = .inr (.ok d) → s.descriptor? = some d ∧ Holds fs' l d

theorem Acquire.Stepped.of_stage {s s' : Acquire} (hc : Call path l s.descriptor?.toList fs fs')
    (hk : Keeps fs fs' s.descriptor? s'.descriptor?) (hs' : s'.Sound fs' l) :
    Stepped path l s fs (.inl s') fs' := by
  refine ⟨hc, ?_, by simp⟩
  rintro _ ⟨⟩
  exact ⟨hk, hs'⟩

theorem Acquire.Stepped.of_error {s : Acquire} {e : Failure} (hc : Call path l s.descriptor?.toList fs fs') :
    Stepped path l s fs (.inr (.error e)) fs' :=
  ⟨hc, by simp, by simp⟩

/-- **One call of `Acquire`.** -/
theorem Acquire.call_step {lock : LockFile} {s : Acquire} {next : Progress Acquire Descriptor}
    (hs : Steady lock.path l fs) (ha : s.Sound fs l) (hlt : ∀ d ∈ s.descriptor?, d < fs.fresh)
    (h : step lock s fs = (next, fs')) : Stepped lock.path l s fs next fs' := by
  cases s with
  | opening left =>
    simp only [step] at h
    split at h
    · next d fs₁ ho =>
      obtain ⟨rfl, rfl⟩ := Prod.mk.inj h
      obtain ⟨hc, hge, hlt'⟩ := Call.openOrCreate hs ho
      exact .of_stage hc (.inr (.inr ⟨d, rfl, hge, hlt'⟩)) trivial
    all_goals
      obtain ⟨rfl, rfl⟩ := Prod.mk.inj h
      exact .of_error (Call.refl hs)
  | locking left d =>
    simp only [step] at h
    split at h
    · next fs₁ ht =>
      obtain ⟨rfl, rfl⟩ := Prod.mk.inj h
      have hc : Call lock.path l [d] fs fs₁ := Call.tryLock hs ht
      obtain ⟨file, hfile, -, rfl⟩ := tryLock_eq_some ht
      exact .of_stage hc (.inl rfl) ⟨file.inode, openFile?_setLock_self hfile⟩
    · obtain ⟨rfl, rfl⟩ := Prod.mk.inj h
      exact .of_stage (Call.refl hs) (.inl rfl) trivial
  | comparing left d =>
    simp only [step] at h
    split at h
    · next hn =>
      obtain ⟨rfl, rfl⟩ := Prod.mk.inj h
      -- the file is locked, and now it is known to be the one at the path
      obtain ⟨i, hi⟩ := ha
      obtain ⟨entry, file, he, hfile, hie⟩ := names_eq_true hs.leads hn
      have hkind : entry.kind = .file := hs.regular entry he
      have hfi : file = ⟨i, some .exclusive⟩ := Option.some.inj (hfile.symm.trans hi)
      have hentry : entry = ⟨i, .file⟩ := by
        cases entry
        simp_all
      exact .of_stage (Call.refl hs) (.inl rfl) ⟨i, hi, he.trans (congrArg some hentry)⟩
    · obtain ⟨rfl, rfl⟩ := Prod.mk.inj h
      exact .of_stage (Call.refl hs) (.inl rfl) trivial
    · obtain ⟨rfl, rfl⟩ := Prod.mk.inj h
      exact .of_error (Call.refl hs)
  | unlocking left d =>
    obtain ⟨rfl, rfl⟩ := Prod.mk.inj h
    exact .of_stage (Call.unlock hs) (.inl rfl) trivial
  | closing left d =>
    cases left with
    | zero =>
      obtain ⟨rfl, rfl⟩ := Prod.mk.inj h
      exact .of_error (Call.close hs)
    | succ left =>
      obtain ⟨rfl, rfl⟩ := Prod.mk.inj h
      exact .of_stage (Call.close hs) (.inr (.inl rfl)) trivial
  | clearing d =>
    obtain ⟨rfl, rfl⟩ := Prod.mk.inj h
    have hholds : Holds (fs.truncate d) l d :=
      Holds.call hs (Call.truncate hs) ha (hlt d rfl) List.not_mem_nil
    exact .of_stage (Call.truncate hs) (.inl rfl) hholds
  | signing d =>
    obtain ⟨rfl, rfl⟩ := Prod.mk.inj h
    refine ⟨Call.writeStart hs, by simp, ?_⟩
    rintro d' ⟨⟩
    exact ⟨rfl, Holds.call hs (Call.writeStart hs) ha (hlt d rfl) List.not_mem_nil⟩
  | asking d =>
    simp only [step] at h
    split at h
    · obtain ⟨rfl, rfl⟩ := Prod.mk.inj h
      exact .of_stage (Call.refl hs) (.inl rfl) trivial
    · split at h
      · obtain ⟨rfl, rfl⟩ := Prod.mk.inj h
        exact .of_stage (Call.refl hs) (.inl rfl) trivial
      · obtain ⟨rfl, rfl⟩ := Prod.mk.inj h
        exact .of_error (Call.refl hs)
  | refusing d holder =>
    obtain ⟨rfl, rfl⟩ := Prod.mk.inj h
    exact .of_error (Call.close hs)

/-- **One call of `Release`.** -/
theorem Release.call_step {s : Release} {next : Progress Release Unit} (hs : Steady path l fs)
    (ha : s.Sound fs l) (h : step path s fs = (next, fs')) :
    Call path l [s.descriptor] fs fs'
      ∧ (∀ s', next = .inl s' → s'.descriptor = s.descriptor ∧ s'.Sound fs' l) := by
  cases s with
  | comparing d =>
    simp only [step] at h
    split at h
    all_goals
      obtain ⟨rfl, rfl⟩ := Prod.mk.inj h
      refine ⟨Call.refl hs, ?_⟩
      rintro s' ⟨⟩
    · exact ⟨rfl, ha⟩
    · exact ⟨rfl, trivial⟩
    · exact ⟨rfl, trivial⟩
  | removing d =>
    simp only [step] at h
    split at h
    · next fs₁ hr =>
      obtain ⟨rfl, rfl⟩ := Prod.mk.inj h
      refine ⟨Call.remove hs ha hr, ?_⟩
      rintro s' ⟨⟩
      exact ⟨rfl, trivial⟩
    all_goals
      obtain ⟨rfl, rfl⟩ := Prod.mk.inj h
      refine ⟨Call.refl hs, ?_⟩
      rintro s' ⟨⟩
      exact ⟨rfl, trivial⟩
  | unlocking d failed =>
    obtain ⟨rfl, rfl⟩ := Prod.mk.inj h
    refine ⟨Call.unlock hs, ?_⟩
    rintro s' ⟨⟩
    exact ⟨rfl, trivial⟩
  | closing d failed =>
    cases failed
    all_goals
      obtain ⟨rfl, rfl⟩ := Prod.mk.inj h
      exact ⟨Call.close hs, by simp⟩

/-- **One call of `Ask`.** -/
theorem Ask.call_step {s : Ask} {next : Progress Ask Bool} (hs : Steady path l fs)
    (h : step path s fs = (next, fs')) :
    Call path l s.descriptor?.toList fs fs'
      ∧ (∀ s', next = .inl s' → Keeps fs fs' s.descriptor? s'.descriptor?) := by
  cases s with
  | opening =>
    simp only [step] at h
    split at h
    · next d fs₁ ho =>
      obtain ⟨rfl, rfl⟩ := Prod.mk.inj h
      obtain ⟨hc, hge, hlt'⟩ := Call.openExisting hs ho
      refine ⟨hc, ?_⟩
      rintro s' ⟨⟩
      exact .inr (.inr ⟨d, rfl, hge, hlt'⟩)
    all_goals
      obtain ⟨rfl, rfl⟩ := Prod.mk.inj h
      exact ⟨Call.refl hs, by simp⟩
  | locking d =>
    simp only [step] at h
    split at h
    · next fs₁ ht =>
      obtain ⟨rfl, rfl⟩ := Prod.mk.inj h
      refine ⟨Call.tryLock hs ht, ?_⟩
      rintro s' ⟨⟩
      exact .inl rfl
    · obtain ⟨rfl, rfl⟩ := Prod.mk.inj h
      refine ⟨Call.refl hs, ?_⟩
      rintro s' ⟨⟩
      exact .inl rfl
  | unlocking d =>
    obtain ⟨rfl, rfl⟩ := Prod.mk.inj h
    refine ⟨Call.unlock hs, ?_⟩
    rintro s' ⟨⟩
    exact .inl rfl
  | closing d held =>
    obtain ⟨rfl, rfl⟩ := Prod.mk.inj h
    exact ⟨Call.close hs, by simp⟩

/-! ## The invariant -/

/-- The invariant of a system: descriptors belong to one process each, the locks that were given hold,
and every process is where its routine relies on it to be. -/
structure Inv (path : Path) (l : Location) (S : System) : Prop where
  steady : Steady path l S.files
  below : ∀ n, ∀ d ∈ (S.processes n).descriptors, d < S.files.fresh
  nodup : ∀ n, (S.processes n).descriptors.Nodup
  apart : ∀ n m, n ≠ m → ∀ d ∈ (S.processes n).descriptors, d ∉ (S.processes m).descriptors
  held : ∀ n, ∀ d ∈ (S.processes n).held, Holds S.files l d
  sound : ∀ n, (S.processes n).activity.Sound S.files l

variable {S S' : System} {n : ProcessId}

theorem Inv.start (hs : Steady path l fs) : Inv path l (.start fs) where
  steady := hs
  below := fun _ d hd => absurd hd (List.not_mem_nil (a := d))
  nodup := fun _ => List.nodup_nil
  apart := fun _ _ _ d hd => absurd hd (List.not_mem_nil (a := d))
  held := fun _ d hd => absurd hd (List.not_mem_nil (a := d))
  sound := fun _ => trivial

theorem mem_descriptors_of_mem_held {p : Process} (h : d ∈ p.held) : d ∈ p.descriptors :=
  List.mem_append_right _ (List.mem_append_left _ h)

theorem mem_descriptors_of_activity {p : Process} (h : d ∈ p.activity.descriptor?) : d ∈ p.descriptors :=
  List.mem_append_left _ (Option.mem_toList.2 h)

/-- The descriptor of a lock that is given back passes to the routine. -/
theorem descriptors_perm_of_release {p : Process} (idle : p.activity = .idle) (h : d ∈ p.held) :
    (Process.descriptors
      { p with activity := .releasing (.comparing d), held := p.held.erase d }).Perm p.descriptors := by
  show (d :: (p.held.erase d ++ p.stray)).Perm (p.activity.descriptor?.toList ++ (p.held ++ p.stray))
  rw [idle]
  exact ((List.perm_cons_erase h).symm.append_right _)

/-- The descriptor of a lock that was taken passes from the routine. -/
theorem descriptors_of_acquired {p : Process} {s : Acquire} (busy : p.activity = .acquiring s)
    (h : s.descriptor? = some d) :
    Process.descriptors { p with activity := .idle, held := d :: p.held } = p.descriptors := by
  show (d :: p.held) ++ p.stray = p.activity.descriptor?.toList ++ (p.held ++ p.stray)
  rw [busy, show (Activity.acquiring s).descriptor? = some d from h]
  rfl

/-- A routine that ends may leave its descriptor behind. -/
theorem descriptors_perm_of_stray {p : Process} {a : Activity} (h : p.activity = a) :
    (Process.descriptors
      { p with activity := .idle, stray := a.descriptor?.toList ++ p.stray }).Perm p.descriptors := by
  rw [← h]
  show (p.held ++ (p.activity.descriptor?.toList ++ p.stray)).Perm
    (p.activity.descriptor?.toList ++ (p.held ++ p.stray))
  exact List.perm_append_comm_assoc _ _ _

/-- The locks that a process was given are not what its routine works on. -/
theorem Inv.held_apart {a : Activity} (inv : Inv path l S) (busy : (S.processes n).activity = a)
    (h : d ∈ (S.processes n).held) : d ∉ a.descriptor?.toList := by
  intro ha
  rw [← busy] at ha
  exact (List.nodup_append.1 (inv.nodup n)).2.2 d ha d (List.mem_append_left _ h) rfl

/-- The locks that a process was given survive calls on other descriptors. -/
theorem Inv.held_call_ne (inv : Inv path l S) (hc : Call path l own S.files fs)
    (h : d ∈ (S.processes n).held) (hn : d ∉ own) : Holds fs l d :=
  Holds.call inv.steady hc (inv.held n d h) (inv.below n d (mem_descriptors_of_mem_held h)) hn

/-- The locks that a process was given survive the calls of its routine. -/
theorem Inv.held_call {a : Activity} (inv : Inv path l S) (busy : (S.processes n).activity = a)
    (hc : Call path l a.descriptor?.toList S.files fs) (h : d ∈ (S.processes n).held) : Holds fs l d :=
  inv.held_call_ne hc h (inv.held_apart busy h)

/-- What a process and the files may become when it is its turn: it makes a call on descriptors of its
own, and is in order afterwards. -/
structure Turn (path : Path) (l : Location) (S : System) (n : ProcessId) (own : List Descriptor)
    (p : Process) (fs : FileSystem) : Prop where
  call : Call path l own S.files fs
  mine : ∀ d ∈ own, d ∈ (S.processes n).descriptors
  descriptors : ∀ d ∈ p.descriptors,
    d ∈ (S.processes n).descriptors ∨ (S.files.fresh ≤ d ∧ d < fs.fresh)
  nodup : p.descriptors.Nodup
  held : ∀ d ∈ p.held, Holds fs l d
  sound : p.activity.Sound fs l

/-- The invariant holds again after the turn of a process; all others are in order since its call leaves
them alone. -/
theorem Inv.put {p : Process} (inv : Inv path l S) (t : Turn path l S n own p fs) :
    Inv path l (S.put n p fs) := by
  have hfresh : ∀ m, m ≠ n → ∀ d ∈ (S.processes m).descriptors, d ∉ p.descriptors := by
    intro m hm d hd hp
    rcases t.descriptors d hp with h | ⟨h, -⟩
    · exact inv.apart m n hm d hd h
    · exact absurd (inv.below m d hd) (Nat.not_lt.2 h)
  -- What the others have open is not what the call worked on.
  have hnotown : ∀ m, m ≠ n → ∀ d ∈ (S.processes m).descriptors, d ∉ own :=
    fun m hm d hd ho => inv.apart m n hm d hd (t.mine d ho)
  refine ⟨t.call.steady, ?_, ?_, ?_, ?_, ?_⟩
  · refine System.forall_put (P := fun _ q => ∀ d ∈ q.descriptors, d < fs.fresh) ?_ ?_
    · intro d hd
      rcases t.descriptors d hd with h | ⟨-, h⟩
      · exact Nat.lt_of_lt_of_le (inv.below n d h) t.call.fresh_le
      · exact h
    · intro m _ d hd
      exact Nat.lt_of_lt_of_le (inv.below m d hd) t.call.fresh_le
  · exact System.forall_put (P := fun _ q => q.descriptors.Nodup) t.nodup fun m _ => inv.nodup m
  · refine System.forall_put (P := fun m q => ∀ k, m ≠ k → ∀ d ∈ q.descriptors,
      d ∉ ((S.put n p fs).processes k).descriptors) ?_ ?_
    · -- the process whose turn it was, beside another one
      refine System.forall_put (P := fun k q => n ≠ k → ∀ d ∈ p.descriptors, d ∉ q.descriptors)
        (fun hne => absurd rfl hne) ?_
      intro k hk _ d hd hdk
      exact hfresh k hk d hdk hd
    · intro m hm
      refine System.forall_put (P := fun k q => m ≠ k → ∀ d ∈ (S.processes m).descriptors, d ∉ q.descriptors)
        (fun _ => hfresh m hm) ?_
      intro k _ hmk
      exact inv.apart m k hmk
  · refine System.forall_put (P := fun _ q => ∀ d ∈ q.held, Holds fs l d) t.held ?_
    intro m hm d hd
    exact inv.held_call_ne t.call hd (hnotown m hm d (mem_descriptors_of_mem_held hd))
  · refine System.forall_put (P := fun _ q => q.activity.Sound fs l) t.sound ?_
    intro m hm
    refine (inv.sound m).call inv.steady t.call ?_ ?_
    · exact fun d hd => inv.below m d (mem_descriptors_of_activity hd)
    · exact fun d hd => hnotown m hm d (mem_descriptors_of_activity hd)

/-- The descriptors of a process whose routine goes on are again its own, or new. -/
theorem Inv.descriptors_of_keeps {a : Activity} (inv : Inv path l S)
    (hk : Keeps S.files fs (S.processes n).activity.descriptor? a.descriptor?) :
    (∀ d ∈ Process.descriptors { S.processes n with activity := a },
        d ∈ (S.processes n).descriptors ∨ (S.files.fresh ≤ d ∧ d < fs.fresh))
      ∧ (Process.descriptors { S.processes n with activity := a }).Nodup := by
  have hnodup := inv.nodup n
  have hbelow := inv.below n
  unfold Process.descriptors at hnodup hbelow ⊢
  rcases hk with hk | hk | ⟨d, hk, hge, hlt⟩
  · rw [show a.descriptor? = _ from hk]
    exact ⟨fun d hd => .inl hd, hnodup⟩
  · rw [show a.descriptor? = none from hk]
    exact ⟨fun d hd => .inl (List.mem_append_right _ hd), (List.nodup_append.1 hnodup).2.1⟩
  · rw [show a.descriptor? = some d from hk]
    constructor
    · intro e he
      rcases List.mem_cons.1 he with rfl | he
      · exact .inr ⟨hge, hlt⟩
      · exact .inl (List.mem_append_right _ he)
    · refine List.nodup_cons.2 ⟨?_, (List.nodup_append.1 hnodup).2.1⟩
      intro hd
      exact absurd (hbelow d (List.mem_append_right _ hd)) (Nat.not_lt.2 hge)

/-- A routine that goes on, or ends with nothing open. -/
theorem Inv.turn_goesOn {a a' : Activity} (inv : Inv path l S) (busy : (S.processes n).activity = a)
    (hc : Call path l a.descriptor?.toList S.files fs) (hk : Keeps S.files fs a.descriptor? a'.descriptor?)
    (hs : a'.Sound fs l) :
    Turn path l S n a.descriptor?.toList { S.processes n with activity := a' } fs := by
  subst busy
  obtain ⟨hsub, hnodup⟩ := inv.descriptors_of_keeps hk
  refine ⟨hc, ?_, hsub, hnodup, ?_, hs⟩
  · exact fun d hd => List.mem_append_left _ hd
  · exact fun d hd => inv.held_call rfl hc hd

/-- A routine that ends and leaves open what it had. -/
theorem Inv.turn_stray {a : Activity} (inv : Inv path l S) (busy : (S.processes n).activity = a)
    (hc : Call path l a.descriptor?.toList S.files fs) :
    Turn path l S n a.descriptor?.toList
      { S.processes n with activity := .idle, stray := a.descriptor?.toList ++ (S.processes n).stray } fs := by
  have hperm := descriptors_perm_of_stray busy
  subst busy
  refine ⟨hc, ?_, ?_, hperm.nodup_iff.2 (inv.nodup n), ?_, trivial⟩
  · exact fun d hd => List.mem_append_left _ hd
  · exact fun d hd => .inl (hperm.mem_iff.1 hd)
  · exact fun d hd => inv.held_call rfl hc hd

/-- **Every step is the turn of its process.** -/
theorem Inv.turn (inv : Inv path l S) (h : System.Step path n S S') :
    ∃ own p fs, S' = S.put n p fs ∧ Turn path l S n own p fs := by
  have hbelow : ∀ d ∈ (S.processes n).activity.descriptor?, d < S.files.fresh :=
    fun d hd => inv.below n d (mem_descriptors_of_activity hd)
  have hsound := inv.sound n
  cases h with
  | beginAcquire idle =>
    exact ⟨_, _, _, rfl, inv.turn_goesOn idle (Call.refl inv.steady) (.inl rfl) trivial⟩
  | @beginRelease d idle has =>
    have hperm := descriptors_perm_of_release idle has
    refine ⟨[], _, _, rfl, Call.refl inv.steady, fun e he => absurd he List.not_mem_nil,
      fun e he => .inl (hperm.mem_iff.1 he), hperm.nodup_iff.2 (inv.nodup n), ?_, inv.held n d has⟩
    exact fun e he => inv.held n e (List.mem_of_mem_erase he)
  | beginAsk idle =>
    exact ⟨_, _, _, rfl, inv.turn_goesOn idle (Call.refl inv.steady) (.inl rfl) trivial⟩
  | @acquire s s' fs busy call =>
    rw [busy] at hbelow hsound
    have hstep := Acquire.call_step inv.steady hsound hbelow call
    obtain ⟨hk, hs'⟩ := hstep.goesOn s' rfl
    exact ⟨_, _, _, rfl, inv.turn_goesOn busy hstep.call hk hs'⟩
  | @acquired s d fs busy call =>
    rw [busy] at hbelow hsound
    have hstep := Acquire.call_step inv.steady hsound hbelow call
    obtain ⟨hd, hholds⟩ := hstep.gives d rfl
    have hsame := descriptors_of_acquired busy hd
    refine ⟨_, _, _, rfl, hstep.call, ?_, fun e he => .inl (hsame ▸ he), hsame ▸ inv.nodup n, ?_, trivial⟩
    · intro e he
      refine mem_descriptors_of_activity ?_
      rw [busy]
      exact Option.mem_toList.1 he
    · intro e he
      rcases List.mem_cons.1 he with rfl | he
      · exact hholds
      · exact inv.held_call busy hstep.call he
  | notAcquired busy call =>
    rw [busy] at hbelow hsound
    have hstep := Acquire.call_step inv.steady hsound hbelow call
    exact ⟨_, _, _, rfl, inv.turn_stray busy hstep.call⟩
  | @release s s' fs busy call =>
    rw [busy] at hsound
    obtain ⟨hc, hnext⟩ := Release.call_step inv.steady hsound call
    obtain ⟨hk, hs'⟩ := hnext s' rfl
    exact ⟨_, _, _, rfl, inv.turn_goesOn busy hc (.inl (congrArg some hk)) hs'⟩
  | released busy call =>
    rw [busy] at hsound
    obtain ⟨hc, -⟩ := Release.call_step inv.steady hsound call
    exact ⟨_, _, _, rfl, inv.turn_goesOn busy hc (.inr (.inl rfl)) trivial⟩
  | @ask s s' fs busy call =>
    obtain ⟨hc, hnext⟩ := Ask.call_step inv.steady call
    exact ⟨_, _, _, rfl, inv.turn_goesOn busy hc (hnext s' rfl) trivial⟩
  | answered busy call =>
    obtain ⟨hc, -⟩ := Ask.call_step inv.steady call
    exact ⟨_, _, _, rfl, inv.turn_stray busy hc⟩
  | die =>
    exact ⟨_, _, _, rfl, Call.closeAll inv.steady, fun d hd => hd,
      fun d hd => absurd hd List.not_mem_nil, List.nodup_nil, fun d hd => absurd hd List.not_mem_nil,
      trivial⟩

/-- **Every step keeps the invariant.** -/
theorem Inv.step (inv : Inv path l S) (h : System.Step path n S S') : Inv path l S' := by
  obtain ⟨own, p, fs, rfl, t⟩ := inv.turn h
  exact inv.put t

theorem Inv.reachable (inv : Inv path l S) (h : System.Reachable path S S') : Inv path l S' := by
  induction h with
  | refl => exact inv
  | tail _ hstep ih =>
    obtain ⟨n, hstep⟩ := hstep
    exact ih.step hstep

/-! ## Mutual exclusion -/

/-- The descriptor of a lock that a process has is its own, and has the file at the path locked alone. -/
theorem Inv.holds_of_owns (inv : Inv path l S) (h : (S.processes n).Owns d) :
    d ∈ (S.processes n).descriptors ∧ Holds S.files l d := by
  have hsound := inv.sound n
  rcases h with h | h | h
  · exact ⟨mem_descriptors_of_mem_held h, inv.held n d h⟩
  all_goals
    rw [h] at hsound
    exact ⟨mem_descriptors_of_activity (by rw [h]; rfl), hsound⟩

/-- Two descriptors that have the place locked alone belong to one process. -/
theorem Inv.eq_of_holds {m : ProcessId} {e : Descriptor} (inv : Inv path l S)
    (hdn : d ∈ (S.processes n).descriptors) (hd : Holds S.files l d)
    (hem : e ∈ (S.processes m).descriptors) (he : Holds S.files l e) : n = m ∧ d = e := by
  have hde : d = e := hd.unique inv.steady.exclusive he
  refine ⟨?_, hde⟩
  by_contra hnm
  exact inv.apart n m hnm d hdn (hde ▸ hem)

/-- A step after which the path does not name a file any more is that of its only holder. -/
theorem Inv.alone_of_removed {i : Inode} (inv : Inv path l S) (h : System.Step path n S S')
    (hi : S.files.entry? l = some ⟨i, .file⟩) (hgone : S'.files.entry? l ≠ some ⟨i, .file⟩)
    {m : ProcessId} (hm : (S.processes m).HasAlone S.files i) : n = m := by
  obtain ⟨own, p, fs, rfl, t⟩ := inv.turn h
  obtain ⟨e, hem, heo⟩ := hm
  -- Of the three things that can become of an entry, two do not take a file away.
  rcases t.call.entry with hsame | hnone | ⟨d, hd, hholds⟩
  · exact absurd (hsame.trans hi) hgone
  · exact absurd (hnone.symm.trans hi) (by simp)
  · exact (inv.eq_of_holds (t.mine d hd) hholds hem ⟨i, heo, hi⟩).1

/-- **Mutual exclusion.** Whatever processes do from a state in which the path is free or names a file, and
in whatever order: at most one of them has the lock, and by one descriptor; the path names exactly the file
that this descriptor has locked alone; and a step after which the path does not name a file any more is
never taken while another process has that file locked alone. -/
theorem lock_exclusive (hl : fs.locate path = .ok l) (hr : ∀ e, fs.entry? l = some e → e.kind = .file)
    (hx : fs.LocksExclude) (h : System.Reachable path (.start fs) S) :
    (∀ n m d e, (S.processes n).Owns d → (S.processes m).Owns e → n = m ∧ d = e)
      ∧ (∀ n d, (S.processes n).Owns d →
          ∃ i, S.files.status path = .ok ⟨i, .file⟩ ∧ S.files.openFile? d = some ⟨i, some .exclusive⟩)
      ∧ (∀ n S' i, System.Step path n S S' → S.files.status path = .ok ⟨i, .file⟩ →
          S'.files.status path ≠ .ok ⟨i, .file⟩ → ∀ m, (S.processes m).HasAlone S.files i → n = m) := by
  have inv : Inv path l S := (Inv.start ⟨hl, hr, hx⟩).reachable h
  refine ⟨?_, ?_, ?_⟩
  · intro n m d e hd he
    obtain ⟨hdn, hdh⟩ := inv.holds_of_owns hd
    obtain ⟨hem, heh⟩ := inv.holds_of_owns he
    exact inv.eq_of_holds hdn hdh hem heh
  · intro n d hd
    obtain ⟨-, i, ho, hentry⟩ := inv.holds_of_owns hd
    exact ⟨i, (status_eq_ok_iff inv.steady.leads).2 hentry, ho⟩
  · intro n S' i hstep hi hgone m hm
    have inv' : Inv path l S' := inv.step hstep
    refine inv.alone_of_removed hstep ((status_eq_ok_iff inv.steady.leads).1 hi) ?_ hm
    exact fun hentry => hgone ((status_eq_ok_iff inv'.steady.leads).2 hentry)

/-- A file system with an old lock file that nobody has open. -/
def abandoned : FileSystem :=
  { FileSystem.initial with
    entries := [([], ⟨0, .directory⟩), (["lock"], ⟨1, .file⟩)], contents := [(1, [0x34, 0x32])], fresh := 2 }

/-- Two processes open an old lock file before either has locked it; the one that locks it first has it. -/
theorem lock_exclusive_abandoned :
    ∃ S, System.Reachable ⟨.working, ["lock"]⟩ (.start abandoned) S
      ∧ (S.processes 0).Owns 2 ∧ (S.processes 1).activity = .acquiring (.asking 3)
      ∧ ∀ n d, (S.processes n).Owns d → n = 0 ∧ d = 2 := by
  have h₁ := Relation.ReflTransGen.single (r := fun S S' => ∃ n, System.Step ⟨.working, ["lock"]⟩ n S S')
    ⟨0, .beginAcquire (S := .start abandoned) rfl⟩
  have h₂ := h₁.tail ⟨0, .acquire_fst (.locking 2 2) rfl (by decide +kernel)⟩
  have h₃ := h₂.tail ⟨1, .beginAcquire rfl⟩
  have h₄ := h₃.tail ⟨1, .acquire_fst (.locking 2 3) rfl (by decide +kernel)⟩
  have h₅ := h₄.tail ⟨0, .acquire_fst (.comparing 2 2) rfl (by decide +kernel)⟩
  have h₆ := h₅.tail ⟨0, .acquire_fst (.clearing 2) rfl (by decide +kernel)⟩
  have h₇ := h₆.tail ⟨1, .acquire_fst (.asking 3) rfl (by decide +kernel)⟩
  refine ⟨_, h₇, .inr (.inl rfl), rfl, ?_⟩
  intro n d hd
  refine (lock_exclusive (l := ["lock"]) (by decide +kernel) ?_ ?_ h₇).1 n 0 d 2 hd (.inr (.inl rfl))
  · intro e he
    rw [← Option.some.inj he]
  · exact fun x hx => absurd hx List.not_mem_nil

end ClusterHealth.Lock
