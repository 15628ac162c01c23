import ClusterHealth.Proofs.Lock.Obstacles
import ClusterHealth.Proofs.Lock.Processes

/-!
# `ClusterHealth.Proofs.Lock.GivingBack` — a lock that is given back, whatever became of its file

While a lock is held, its file may be removed, or replaced by another, which somebody else may have locked, and
the directories above may go as well. However the files stand when the lock is given back, it is free
afterwards: the file is closed, also where giving it back fails. What the path names is removed just if it is
still the file of the lock, and may be removed; else nothing changes but that the file is closed, so that a newer
holder keeps its file and its lock, and is the one that the next attempt is told of.

## Contents
- `StillNames`: the path still names the file of the lock.
- `Release.Raises`: why giving a lock back fails.
- `Release.run_kept`: giving a lock back whose path does not name its file any more.
- `Release.run_closed`: whatever others do meanwhile, the file is closed.
- `Newer`: another has the file that the path names now.
- `Freed`, `release_freed`: all of it, for any lock and any files.
- `release_leaves_file`: files that stay though their path names them.
-/

namespace ClusterHealth.Lock

open FileSystem ClusterHealth.Machine

variable {path : Path} {d : Descriptor} {fs : FileSystem} {m : Machine} {h : Handle} {i : Inode}

/-- A path still names the file that is open at a descriptor. -/
def StillNames (path : Path) (d : Descriptor) (fs : FileSystem) : Prop := ∃ mode, Has path d mode fs

/-! ## Call by call -/

namespace Release

/-- Why giving a lock back fails: it cannot be told what the path names; nothing may be removed from there; or a
directory has taken the place of the file, inode and all. -/
inductive Raises (path : Path) (d : Descriptor) (fs : FileSystem) : SystemFailure → Prop
  | unreachable {e : SystemFailure} (h : fs.status path = .error e) (hne : e ≠ .notFound) : Raises path d fs e
  | fixed {entry : Entry} {mode : Option LockMode} {reason : Option String} (h : fs.status path = .ok entry)
    (hopen : fs.openFile? d = some ⟨entry.inode, mode⟩) (hfixed : fs.fixed? path = some reason) :
    Raises path d fs (.denied reason)
  | directory {i : Inode} {mode : Option LockMode} (h : fs.status path = .ok ⟨i, .directory⟩)
    (hopen : fs.openFile? d = some ⟨i, mode⟩) (hfixed : fs.fixed? path = none) : Raises path d fs .isDirectory

theorem raises_of_error {e failure : SystemFailure} (hstatus : fs.status path = .error failure) :
    Raises path d fs e ↔ e = failure ∧ e ≠ .notFound := by
  constructor
  · rintro (⟨he, hne⟩ | ⟨he, -, -⟩ | ⟨he, -, -⟩)
    · exact ⟨Except.error.inj (he.symm.trans hstatus), hne⟩
    · cases he.symm.trans hstatus
    · cases he.symm.trans hstatus
  · rintro ⟨rfl, hne⟩
    exact .unreachable hstatus hne

/-- What is raised where the path names something: only if it is open, and not just a file that can be removed. -/
theorem raises_of_ok {e : SystemFailure} {entry : Entry} (hstatus : fs.status path = .ok entry) :
    Raises path d fs e ↔ (fs.openFile? d).map (·.inode) = some entry.inode
      ∧ ((∃ reason, fs.fixed? path = some reason ∧ e = .denied reason)
        ∨ fs.fixed? path = none ∧ entry.kind = .directory ∧ e = .isDirectory) := by
  constructor
  · rintro (⟨he, -⟩ | ⟨he, hopen, hfixed⟩ | ⟨he, hopen, hfixed⟩)
    · cases he.symm.trans hstatus
    · obtain rfl := Except.ok.inj (he.symm.trans hstatus)
      exact ⟨congrArg (Option.map _) hopen, .inl ⟨_, hfixed, rfl⟩⟩
    · obtain rfl := Except.ok.inj (he.symm.trans hstatus)
      exact ⟨congrArg (Option.map _) hopen, .inr ⟨hfixed, rfl, rfl⟩⟩
  · rintro ⟨hsame, hwhy⟩
    obtain ⟨i, kind⟩ := entry
    obtain ⟨⟨i, mode⟩, hopen, rfl⟩ := Option.map_eq_some_iff.1 hsame
    rcases hwhy with ⟨reason, hfixed, rfl⟩ | ⟨hfixed, hkind, rfl⟩
    · exact .fixed hstatus hopen hfixed
    · obtain rfl : kind = .directory := hkind
      exact .directory hstatus hopen hfixed

theorem run_of_comparing {failed : Option SystemFailure}
    (h : step path (.comparing d) fs = (.inl (.unlocking d failed), fs)) :
    (routine path).run alone (.comparing d) fs = (resultOf failed, fs.close d) :=
  (Routine.run_of_next h).trans (run_unlocking path d failed fs)

/-- A directory with the inode of the file is not removed. -/
theorem run_of_directory {mode : Option LockMode} (hstatus : fs.status path = .ok ⟨i, .directory⟩)
    (hopen : fs.openFile? d = some ⟨i, mode⟩) : ∃ e, Raises path d fs e
      ∧ (routine path).run alone (.comparing d) fs = (resultOf (some e), fs.close d) := by
  obtain ⟨l, hl⟩ := locate_of_status hstatus
  have hentry := (status_eq_ok_iff hl).1 hstatus
  obtain ⟨e, hraises, hremove, hmissing⟩ : ∃ e, Raises path d fs e ∧ fs.remove path = .error e ∧ e ≠ .notFound := by
    cases hfixed : fs.fixed? path with
    | some reason => exact ⟨_, .fixed hstatus hopen hfixed, remove_of_fixed hl hentry hfixed, nofun⟩
    | none => exact ⟨_, .directory hstatus hopen hfixed, remove_of_directory hl hentry hfixed, nofun⟩
  have hcomparing : step path (.comparing d) fs = (.inl (.removing d), fs) := by
    simp only [step, names, hstatus, hopen, Option.map_some, decide_true]
  have hremoving : step path (.removing d) fs = (.inl (.unlocking d (some e)), fs) := by
    simp only [step, hremove]
  refine ⟨e, hraises, ?_⟩
  calc (routine path).run alone (.comparing d) fs
    _ = (routine path).run alone (.removing d) fs := Routine.run_of_next hcomparing
    _ = (routine path).run alone (.unlocking d (some e)) fs := Routine.run_of_next hremoving
    _ = (resultOf (some e), fs.close d) := run_unlocking path d _ fs

/-- There is one reason at most. -/
theorem Raises.unique {e e' : SystemFailure} (h : Raises path d fs e) (h' : Raises path d fs e') : e = e' := by
  cases hstatus : fs.status path with
  | error failure =>
    rw [((raises_of_error hstatus).1 h).1, ((raises_of_error hstatus).1 h').1]
  | ok entry =>
    rcases ((raises_of_ok hstatus).1 h).2 with ⟨reason, hfixed, rfl⟩ | ⟨hfixed, -, rfl⟩ <;>
      rcases ((raises_of_ok hstatus).1 h').2 with ⟨reason', hfixed', rfl⟩ | ⟨hfixed', -, rfl⟩
    · rw [Option.some.inj (hfixed.symm.trans hfixed')]
    · cases hfixed.symm.trans hfixed'
    · cases hfixed.symm.trans hfixed'
    · rfl

/-- **A path that names something else**, or nothing, keeps what it names; only the file is closed. -/
theorem run_kept (h : ¬ StillNames path d fs) : ∃ failed,
    (routine path).run alone (.comparing d) fs = (resultOf failed, fs.close d)
      ∧ ∀ e, failed = some e ↔ Raises path d fs e := by
  cases hstatus : fs.status path with
  | error failure =>
    simp only [raises_of_error hstatus]
    by_cases hmissing : failure = .notFound
    · subst hmissing
      have hcomparing : step path (.comparing d) fs = (.inl (.unlocking d none), fs) := by
        simp only [step, names, hstatus]
      exact ⟨none, run_of_comparing hcomparing, by simp⟩
    · have hcomparing : step path (.comparing d) fs = (.inl (.unlocking d (some failure)), fs) := by
        simp only [step, names, hstatus]
      refine ⟨some failure, run_of_comparing hcomparing, fun e => ?_⟩
      rw [Option.some.injEq]
      constructor
      · rintro rfl
        exact ⟨rfl, hmissing⟩
      · rintro ⟨rfl, -⟩
        rfl
  | ok entry =>
    by_cases hsame : (fs.openFile? d).map (·.inode) = some entry.inode
    · obtain ⟨⟨i, mode⟩, hopen, rfl⟩ := Option.map_eq_some_iff.1 hsame
      obtain ⟨i, kind⟩ := entry
      cases kind with
      | file => exact absurd ⟨mode, i, hstatus, hopen⟩ h
      | directory =>
        obtain ⟨e, hraises, hrun⟩ := run_of_directory hstatus hopen
        refine ⟨some e, hrun, fun e' => ?_⟩
        rw [Option.some.injEq]
        constructor
        · rintro rfl
          exact hraises
        · exact hraises.unique
    · have hcomparing : step path (.comparing d) fs = (.inl (.unlocking d none), fs) := by
        simp only [step, names, hstatus, hsame, decide_false]
      simp only [raises_of_ok hstatus]
      exact ⟨none, run_of_comparing hcomparing, by simp [hsame]⟩

theorem step_descriptor {s s' : Release} {fs' : FileSystem} (h : step path s fs = (.inl s', fs')) :
    s'.descriptor = s.descriptor := by
  cases s with
  | comparing d =>
    simp only [step] at h
    split at h <;> · cases h; rfl
  | removing d =>
    simp only [step] at h
    split at h <;> · cases h; rfl
  | unlocking d failed =>
    cases h
    rfl
  | closing d failed => cases failed <;> cases h

theorem step_end {s : Release} {result : Except Failure Unit} {fs' : FileSystem}
    (h : step path s fs = (.inr result, fs')) : fs' = fs.close s.descriptor := by
  cases s with
  | comparing d =>
    simp only [step] at h
    split at h <;> cases h
  | removing d =>
    simp only [step] at h
    split at h <;> cases h
  | unlocking d failed => cases h
  | closing d failed =>
    cases failed <;> · cases h; rfl

/-- **Whatever others do meanwhile**, the file is closed in the end. -/
theorem run_closed (path : Path) (d : Descriptor) (others : Others Release) (fs : FileSystem) :
    ((routine path).run others (.comparing d) fs).2.openFile? d = none := by
  -- Every stage is about the same descriptor, and the last one closes it.
  have hlast : ∃ before : FileSystem, ((routine path).run others (.comparing d) fs).2 = before.close d :=
    Routine.run_of_invariant (I := fun (s : Release) _ => s.descriptor = d)
      (Q := fun _ after => ∃ before : FileSystem, after = before.close d)
      (fun s fs s' fs' hs hstep => (step_descriptor hstep).trans hs)
      (fun s fs result fs' hs hstep => ⟨others s fs, hs ▸ step_end hstep⟩) rfl
  obtain ⟨before, hclosed⟩ := hlast
  rw [hclosed]
  exact Pairs.get?_erase_self _ _

end Release

/-! ## On a machine -/

/-- Another open file has the file locked that the path names now; the directory above is there. -/
structure Newer (path : Path) (d d' : Descriptor) (i : Inode) (fs : FileSystem) : Prop where
  inside : fs.isDirectory path.parent = true
  allowed : fs.refusal = none
  status : fs.status path = .ok ⟨i, .file⟩
  locked : fs.openFile? d' = some ⟨i, some .exclusive⟩
  other : d' ≠ d

/-- What comes of giving a lock back, whatever the files are like. -/
structure Freed (h : Handle) (d : Descriptor) (m : Machine) : Prop where
  /-- Whatever others do meanwhile, and also where it fails, the lock was given back and its file is closed. -/
  released : ∀ others, (release h others m).1.1 = ⟨h.path, none⟩
  closed : ∀ others, (release h others m).2.files.openFile? d = none
  /-- A path that still names the file is removed, if it may be. -/
  removed : ∀ l, StillNames h.path d m.files → m.files.locate h.path = .ok l → m.files.fixed? h.path = none →
    (release h alone m).2.files = { m.files with
      entries := Pairs.erase l m.files.entries
      openFiles := Pairs.erase d m.files.openFiles }
  gone : StillNames h.path d m.files → m.files.fixed? h.path = none →
    (release h alone m).2.files.status h.path = .error .notFound
  /-- Else nothing changes but that the file is closed. -/
  kept : ¬ (StillNames h.path d m.files ∧ m.files.fixed? h.path = none) →
    (release h alone m).2.files = m.files.close d
  raises : ∀ e, (release h alone m).1.2 = .error e ↔
    ∃ failure, e = .system failure ∧ Release.Raises h.path d m.files failure
  cluster : (release h alone m).2.cluster = m.cluster
  /-- A newer holder keeps the lock, and is the one that the next attempt is told of. -/
  newer : ∀ d' i process holder, ¬ StillNames h.path d m.files → Newer h.path d d' i m.files →
    m.files.Numbered → holderIn m.files i = .ok holder →
      (release h alone m).2.files.openFile? d' = some ⟨i, some .exclusive⟩
      ∧ acquire ⟨h.path, process⟩ alone (release h alone m).2
        = (.error (.alreadyRunning h.path (holder.map Int.ofNat)),
          { (release h alone m).2 with files := (m.files.close d).spent })

theorem isDirectory_close : (fs.close d).isDirectory path = fs.isDirectory path := by
  have hstatus : (fs.close d).status path = fs.status path := status_of_entries rfl rfl
  unfold FileSystem.isDirectory
  rw [hstatus]

theorem numbered_close (h : fs.Numbered) : (fs.close d).Numbered :=
  ⟨h.entry_lt, fun x hx => h.open_lt x (Pairs.mem_of_mem_erase hx)⟩

/-- A newer holder is in the way of the next attempt. -/
theorem Newer.held {d' : Descriptor} (h : Newer path d d' i fs) : Held path (fs.close d) (fs.close d) i := by
  have hstatus : (fs.close d).status path = fs.status path := status_of_entries rfl rfl
  have hmem : (d', (⟨i, some .exclusive⟩ : OpenFile)) ∈ (fs.close d).openFiles :=
    Pairs.mem_erase_iff.2 ⟨Pairs.mem_of_get? h.locked, h.other⟩
  exact ⟨makeDirectories_of_isDirectory (isDirectory_close.trans h.inside), h.allowed, hstatus.trans h.status, _,
    hmem, rfl, .exclusive, rfl, rfl⟩

/-- The files and the result of giving a lock back are those of its calls. -/
theorem release_files (hd : h.descriptor = some d) (others : Others Release) (m : Machine) :
    (release h others m).1.1 = ⟨h.path, none⟩
      ∧ (release h others m).1.2 = ((Release.routine h.path).run others (.comparing d) m.files).1
      ∧ (release h others m).2.files = ((Release.routine h.path).run others (.comparing d) m.files).2
      ∧ (release h others m).2.cluster = m.cluster := by
  rw [release_apply hd]
  rcases (Release.routine h.path).run others (.comparing d) m.files with ⟨e | ⟨⟩, fs⟩
  · exact ⟨rfl, rfl, rfl, rfl⟩
  · exact ⟨rfl, rfl, rfl, rfl⟩

/-- All that is raised where the path still names the file is that it may not be removed. -/
theorem Release.raises_of_stillNames (h : StillNames path d fs) (e : Failure) :
    removal fs path = .error e ↔ ∃ failure, e = .system failure ∧ Raises path d fs failure := by
  obtain ⟨mode, i, hstatus, hopen⟩ := h
  rw [removal_eq_error]
  constructor
  · rintro ⟨reason, hfixed, rfl⟩
    exact ⟨_, rfl, .fixed hstatus hopen hfixed⟩
  · rintro ⟨failure, rfl, hraises⟩
    rcases ((raises_of_ok hstatus).1 hraises).2 with ⟨reason, hfixed, rfl⟩ | ⟨-, hkind, -⟩
    · exact ⟨reason, hfixed, rfl⟩
    · cases hkind

theorem freed_of_descriptor (hd : h.descriptor = some d) (m : Machine) : Freed h d m := by
  obtain ⟨-, hresult, hfiles, hcluster⟩ := release_files hd alone m
  have hkept : ¬ (StillNames h.path d m.files ∧ m.files.fixed? h.path = none) →
      (release h alone m).2.files = m.files.close d := by
    intro hnot
    by_cases hstill : StillNames h.path d m.files
    · obtain ⟨mode, hhas⟩ := hstill
      obtain ⟨reason, hfixed⟩ := Option.ne_none_iff_exists'.1 fun hfixed => hnot ⟨⟨mode, hhas⟩, hfixed⟩
      rw [hfiles, Release.run_alone hhas]
      exact givenBack_of_fixed hhas hfixed
    · obtain ⟨failed, hrun, -⟩ := Release.run_kept hstill
      rw [hfiles, hrun]
  refine ⟨fun others => (release_files hd others m).1, fun others => ?_, fun l hstill hl hfixed => ?_,
    fun hstill hfixed => ?_, hkept, fun e => ?_, hcluster, fun d' i process holder hstill hnewer hn hholder => ?_⟩
  · rw [(release_files hd others m).2.2.1]
    exact Release.run_closed h.path d others m.files
  · obtain ⟨mode, hhas⟩ := hstill
    rw [hfiles, Release.run_alone hhas]
    exact givenBack_of_free hhas hl hfixed
  · obtain ⟨mode, hhas⟩ := hstill
    rw [hfiles, Release.run_alone hhas]
    exact status_givenBack hhas hfixed
  · by_cases hstill : StillNames h.path d m.files
    · rw [← Release.raises_of_stillNames hstill]
      obtain ⟨mode, hhas⟩ := hstill
      rw [hresult, Release.run_alone hhas]
    · obtain ⟨failed, hrun, hraises⟩ := Release.run_kept hstill
      rw [hresult, hrun]
      simp only [← hraises]
      cases failed with
      | none => exact iff_of_false nofun fun ⟨failure, _, hnone⟩ => nomatch hnone
      | some failure =>
        constructor
        · intro he
          exact ⟨failure, (Except.error.inj he).symm, rfl⟩
        · rintro ⟨failure', rfl, hsame⟩
          rw [Option.some.inj hsame]
          rfl
  · have hfiles' := hkept fun hboth => hstill hboth.1
    have htold : holderIn (m.files.close d) i = .ok holder := hholder
    have hobstacle : Obstacle ⟨h.path, process⟩ (release h alone m).2.files
        (.alreadyRunning h.path (holder.map Int.ofNat)) (m.files.close d).spent := by
      rw [hfiles']
      exact .held hnewer.held htold
    refine ⟨?_, hobstacle.acquire (hfiles' ▸ numbered_close hn)⟩
    rw [hfiles', openFile?_close_ne hnewer.other]
    exact hnewer.locked

/-- **A lock that is given back is free**, whatever became of its file, and however giving it back ends; what the
path names is removed just if it is still that file and may be removed, and a newer holder keeps file and lock. A
lock that was given back before stays as it is. -/
theorem release_freed (h : Handle) (m : Machine) : (∀ others, (release h others m).1.1.released = true)
    ∧ (h.descriptor = none → ∀ others, release h others m = ((h, .ok ()), m))
    ∧ ∀ d, h.descriptor = some d → Freed h d m := by
  refine ⟨fun others => ?_, fun hnone others => release_released hnone others m, fun d hd => freed_of_descriptor hd m⟩
  cases hd : h.descriptor with
  | none =>
    rw [release_released hd others m]
    unfold Handle.released
    rw [hd]
    rfl
  | some d =>
    rw [(release_files hd others m).1]
    rfl

/-- A lock file that was removed and made anew, and locked by another, while the first one was held. -/
def madeAnew : FileSystem :=
  { FileSystem.initial with
    entries := [([], ⟨0, .directory⟩), (["hc.lock"], ⟨3, .file⟩)]
    contents := [(1, signature 4242), (3, signature 77)]
    openFiles := [(2, ⟨1, some .exclusive⟩), (4, ⟨3, some .exclusive⟩)]
    fresh := 5 }

theorem numbered_madeAnew : madeAnew.Numbered := by
  constructor
  · intro l e hl
    have hall : ∀ x ∈ madeAnew.entries, x.2.inode < madeAnew.fresh := by decide
    exact hall (l, e) (Pairs.mem_of_get? hl)
  · decide

/-- The first holder leaves the new file alone, and whoever comes next is told of the new one. -/
theorem release_freed_madeAnew :
    (release ⟨.ofText "/hc.lock", some 2⟩ alone (.ofParts madeAnew .empty)).1.1.released = true
      ∧ (release ⟨.ofText "/hc.lock", some 2⟩ alone (.ofParts madeAnew .empty)).2.files = madeAnew.close 2
      ∧ (acquire ⟨.ofText "/hc.lock", 99⟩ alone
          (release ⟨.ofText "/hc.lock", some 2⟩ alone (.ofParts madeAnew .empty)).2).1
        = .error (.alreadyRunning (.ofText "/hc.lock") (some 77)) := by
  obtain ⟨hreleased, -, hfreed⟩ := release_freed ⟨.ofText "/hc.lock", some 2⟩ (.ofParts madeAnew .empty)
  have hstatus : madeAnew.status (.ofText "/hc.lock") = .ok ⟨3, .file⟩ := by decide +kernel
  have hstill : ¬ StillNames (.ofText "/hc.lock") 2 madeAnew := by
    rintro ⟨mode, i, hi, hopen⟩
    have hopen' : madeAnew.openFile? 2 = some ⟨1, some .exclusive⟩ := by rfl
    rw [hstatus] at hi
    rw [hopen'] at hopen
    cases hi
    cases hopen
  have hnewer : Newer (.ofText "/hc.lock") 2 4 3 madeAnew :=
    ⟨by decide +kernel, rfl, hstatus, by rfl, by decide⟩
  have hholder : holderIn madeAnew 3 = .ok (some 77) := by decide +kernel
  obtain ⟨-, hacquire⟩ := (hfreed 2 rfl).newer 4 3 99 (some 77) hstill hnewer numbered_madeAnew hholder
  exact ⟨hreleased alone, (hfreed 2 rfl).kept fun hboth => hstill hboth.1, congrArg Prod.fst hacquire⟩

/-- A lock that is out, at a place from which nothing may be removed if so said. -/
def lockedAt (fixed : List (Location × Option String)) : FileSystem :=
  { FileSystem.initial with
    entries := [([], ⟨0, .directory⟩), (["hc.lock"], ⟨1, .file⟩)]
    contents := [(1, signature 4242)]
    openFiles := [(2, ⟨1, some .exclusive⟩)]
    fresh := 3
    fixed := fixed }

/-- A file that may not be removed stays where it is, though the path names it. And so does one that was moved away
and back again, where its lock was given back in between. -/
theorem release_leaves_file :
    let path : Path := .ofText "/hc.lock"
    let aside : Path := .ofText "/x"
    (StillNames path 2 (lockedAt [(["hc.lock"], none)])
      ∧ (release ⟨path, some 2⟩ alone (.ofParts (lockedAt [(["hc.lock"], none)]) .empty)).1.2
        = .error (.system (.denied none))
      ∧ (release ⟨path, some 2⟩ alone (.ofParts (lockedAt [(["hc.lock"], none)]) .empty)).2.files.status path
        = .ok ⟨1, .file⟩)
    ∧ ∃ fs fs', (lockedAt []).rename path aside = .ok fs
      ∧ (release ⟨path, some 2⟩ alone (.ofParts fs .empty)).1 = (⟨path, none⟩, .ok ())
      ∧ (release ⟨path, some 2⟩ alone (.ofParts fs .empty)).2.files.rename aside path = .ok fs'
      ∧ fs'.status path = .ok ⟨1, .file⟩
      ∧ (release ⟨path, none⟩ alone (.ofParts fs' .empty)).2.files.status path = .ok ⟨1, .file⟩ := by
  intro path aside
  have hopen : (lockedAt [(["hc.lock"], none)]).openFile? 2 = some ⟨1, some .exclusive⟩ := by decide
  have hnames : (lockedAt [(["hc.lock"], none)]).status path = .ok ⟨1, .file⟩ := by decide +kernel
  refine ⟨⟨⟨_, 1, hnames, hopen⟩, by decide +kernel, by decide +kernel⟩, ?_⟩
  exact ⟨{ lockedAt [] with entries := [([], ⟨0, .directory⟩), (["x"], ⟨1, .file⟩)] },
    { lockedAt [] with openFiles := [] },
    by decide +kernel, by decide +kernel, by decide +kernel, by decide +kernel, by decide +kernel⟩

end ClusterHealth.Lock
