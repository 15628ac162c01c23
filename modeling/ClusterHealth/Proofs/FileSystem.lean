import ClusterHealth.FileSystem.Open
import Mathlib.Tactic.ByContra

/-!
# `ClusterHealth.Proofs.FileSystem` — what a call to the system leaves alone

The laws of open files, locks and entries that the lock needs: a call on one descriptor does not touch
the others, a lock that was granted excludes those of other descriptors, and the way to a path does not
change while only files come and go.

## Contents
- `FileSystem.LocksExclude`: whoever has a file locked alone is the only one who has it locked.
- `openInode`, `setLock`, `close`, `closeAll`: their effect on descriptors.
- `locate_of_directories`: a path still leads where it led if no directory was lost.
- `locate_of_entries`, `status_of_entries`: nothing about paths changes as long as the entries do not.
-/

namespace ClusterHealth.FileSystem

/-- Whoever has a file locked alone is the only one who has it locked. -/
def LocksExclude (fs : FileSystem) : Prop :=
  ∀ x ∈ fs.openFiles, ∀ y ∈ fs.openFiles, x.2.inode = y.2.inode → x.2.lock = some .exclusive →
    y.2.lock ≠ none → x.1 = y.1

/-- Several open files closed. -/
def closeAll (fs : FileSystem) (ds : List Descriptor) : FileSystem :=
  ds.foldl close fs

variable {fs fs' : FileSystem} {d e : Descriptor} {i : Inode} {l : Location} {p : Path}

/-! ## Open files -/

theorem openFile?_openInode_ne (h : e ≠ fs.fresh) : (fs.openInode i).2.openFile? e = fs.openFile? e :=
  Pairs.get?_put_ne h _ _

theorem openFile?_setLock_self {lock : Option LockMode} {file : OpenFile} (h : fs.openFile? d = some file) :
    (fs.setLock d lock).openFile? d = some ⟨file.inode, lock⟩ := by
  rw [setLock, h]
  exact Pairs.get?_put_self _ _ _

theorem openFile?_setLock_ne {lock : Option LockMode} (h : e ≠ d) :
    (fs.setLock d lock).openFile? e = fs.openFile? e := by
  unfold setLock
  split
  · rfl
  · exact Pairs.get?_put_ne h _ _

theorem openFile?_close_ne (h : e ≠ d) : (fs.close d).openFile? e = fs.openFile? e :=
  Pairs.get?_erase_ne h _

@[simp] theorem entries_setLock {lock : Option LockMode} : (fs.setLock d lock).entries = fs.entries := by
  unfold setLock
  split <;> rfl

@[simp] theorem fresh_setLock {lock : Option LockMode} : (fs.setLock d lock).fresh = fs.fresh := by
  unfold setLock
  split <;> rfl

@[simp] theorem working_setLock {lock : Option LockMode} : (fs.setLock d lock).working = fs.working := by
  unfold setLock
  split <;> rfl

/-- Closing drops the lock as well. -/
theorem close_setLock {lock : Option LockMode} : (fs.setLock d lock).close d = fs.close d := by
  unfold setLock
  split
  · rfl
  · unfold FileSystem.close
    simp only [Pairs.erase_put_self]

/-- An open file after a lock was set or dropped is the one whose lock it is, or was there before. -/
theorem mem_of_mem_setLock {lock : Option LockMode} {x : Descriptor × OpenFile}
    (h : x ∈ (fs.setLock d lock).openFiles) :
    (∃ file, fs.openFile? d = some file ∧ x = (d, ⟨file.inode, lock⟩)) ∨ x ∈ fs.openFiles := by
  unfold setLock at h
  split at h
  · exact .inr h
  · next file hfile =>
    rcases Pairs.mem_of_mem_put h with hx | hx
    · exact .inl ⟨file, hfile, hx⟩
    · exact .inr hx

theorem closeAll_cons (ds : List Descriptor) : fs.closeAll (d :: ds) = (fs.close d).closeAll ds := rfl

@[simp] theorem entries_closeAll (ds : List Descriptor) : (fs.closeAll ds).entries = fs.entries := by
  induction ds generalizing fs with
  | nil => rfl
  | cons d ds ih => rw [closeAll_cons, ih]; rfl

@[simp] theorem fresh_closeAll (ds : List Descriptor) : (fs.closeAll ds).fresh = fs.fresh := by
  induction ds generalizing fs with
  | nil => rfl
  | cons d ds ih => rw [closeAll_cons, ih]; rfl

@[simp] theorem working_closeAll (ds : List Descriptor) : (fs.closeAll ds).working = fs.working := by
  induction ds generalizing fs with
  | nil => rfl
  | cons d ds ih => rw [closeAll_cons, ih]; rfl

theorem openFile?_closeAll {ds : List Descriptor} (h : e ∉ ds) :
    (fs.closeAll ds).openFile? e = fs.openFile? e := by
  induction ds generalizing fs with
  | nil => rfl
  | cons d ds ih =>
    rw [closeAll_cons, ih (fun he => h (List.mem_cons_of_mem d he))]
    exact openFile?_close_ne (fun he => h (he ▸ List.mem_cons_self))

theorem openFile?_closeAll_of_mem {ds : List Descriptor} (h : d ∈ ds) : (fs.closeAll ds).openFile? d = none := by
  induction ds generalizing fs with
  | nil => exact absurd h List.not_mem_nil
  | cons e ds ih =>
    rw [closeAll_cons]
    by_cases hd : d ∈ ds
    · exact ih hd
    · obtain rfl : d = e := (List.mem_cons.1 h).resolve_right hd
      rw [openFile?_closeAll hd]
      exact Pairs.get?_erase_self _ _

theorem mem_of_mem_closeAll {ds : List Descriptor} {x : Descriptor × OpenFile}
    (h : x ∈ (fs.closeAll ds).openFiles) : x ∈ fs.openFiles := by
  induction ds generalizing fs with
  | nil => exact h
  | cons d ds ih => exact Pairs.mem_of_mem_erase (ih h)

theorem openFiles_truncate : (fs.truncate d).openFiles = fs.openFiles := by
  unfold FileSystem.truncate
  split <;> rfl

theorem openFiles_writeStart {bs : List UInt8} : (fs.writeStart d bs).openFiles = fs.openFiles := by
  unfold FileSystem.writeStart
  split <;> rfl

/-! ## Locks -/

/-- Locks exclude each other still if no locked file was added. -/
theorem LocksExclude.of_subset (hx : fs.LocksExclude)
    (h : ∀ x ∈ fs'.openFiles, x ∈ fs.openFiles ∨ x.2.lock = none) : fs'.LocksExclude := by
  intro x hxm y hym hi hl hn
  have hx' : x ∈ fs.openFiles := (h x hxm).resolve_right (by rw [hl]; simp)
  exact hx x hx' y ((h y hym).resolve_right hn) hi hl hn

theorem LocksExclude.openInode (hx : fs.LocksExclude) : (fs.openInode i).2.LocksExclude := by
  apply hx.of_subset
  intro x h
  rcases Pairs.mem_of_mem_put h with rfl | h
  · exact .inr rfl
  · exact .inl h

theorem LocksExclude.unlock (hx : fs.LocksExclude) : (fs.unlock d).LocksExclude := by
  apply hx.of_subset
  intro x h
  rcases mem_of_mem_setLock h with ⟨file, -, rfl⟩ | h
  · exact .inr rfl
  · exact .inl h

theorem LocksExclude.closeAll (hx : fs.LocksExclude) (ds : List Descriptor) :
    (fs.closeAll ds).LocksExclude :=
  hx.of_subset fun _ h => .inl (mem_of_mem_closeAll h)

/-- What a granted lock says: the file was open, nothing stood in the way, and now it is locked. -/
theorem tryLock_eq_some {mode : LockMode} (h : fs.tryLock d mode = some fs') :
    ∃ file, fs.openFile? d = some file ∧ fs.blocked d file.inode mode = false
      ∧ fs' = fs.setLock d (some mode) := by
  unfold tryLock at h
  split at h
  · exact absurd h (by simp)
  · next file hfile =>
    split at h
    · exact absurd h (by simp)
    · next hb => exact ⟨file, hfile, by simpa using hb, (Option.some.inj h).symm⟩

/-- Where nothing stands in the way, the locks of other descriptors go together with the new one. -/
theorem excludes_of_not_blocked {mode held : LockMode} {x : Descriptor × OpenFile}
    (hb : fs.blocked d i mode = false) (hx : x ∈ fs.openFiles) (hd : x.1 ≠ d) (hi : x.2.inode = i)
    (hl : x.2.lock = some held) : mode.excludes held = false := by
  have h := List.any_eq_false.1 hb x hx
  simpa [hd, hi, hl] using h

theorem LocksExclude.tryLock {mode : LockMode} (hx : fs.LocksExclude) (h : fs.tryLock d mode = some fs') :
    fs'.LocksExclude := by
  obtain ⟨file, hfile, hb, rfl⟩ := tryLock_eq_some h
  intro x hxm y hym hi hl hn
  obtain ⟨held, hheld⟩ := Option.ne_none_iff_exists'.1 hn
  rcases mem_of_mem_setLock hxm with ⟨file₁, hfile₁, rfl⟩ | hxo
  · rcases mem_of_mem_setLock hym with ⟨file₂, -, rfl⟩ | hyo
    · rfl
    · -- the new lock is exclusive, so an older one of the same file would have been in its way
      by_contra hne
      have hyi : y.2.inode = file.inode := by
        rw [← hi, Option.some.inj (hfile₁.symm.trans hfile)]
      have hm := excludes_of_not_blocked hb hyo (fun hd => hne hd.symm) hyi hheld
      rw [show mode = .exclusive from Option.some.inj hl] at hm
      cases held <;> exact absurd hm (by simp [LockMode.excludes])
  · rcases mem_of_mem_setLock hym with ⟨file₂, hfile₂, rfl⟩ | hyo
    · -- no lock is granted beside an exclusive one
      by_contra hne
      have hxi : x.2.inode = file.inode := by
        rw [hi, Option.some.inj (hfile₂.symm.trans hfile)]
      have hm := excludes_of_not_blocked hb hxo hne hxi hl
      cases mode <;> exact absurd hm (by simp [LockMode.excludes])
    · exact hx x hxo y hyo hi hl hn

/-! ## Entries -/

theorem entry?_of_entries (h : fs'.entries = fs.entries) : fs'.entry? l = fs.entry? l :=
  congrArg (Pairs.get? l) h

theorem entry?_create_self {kind : Kind} : entry? (fs.create l kind) l = some ⟨fs.fresh, kind⟩ :=
  Pairs.get?_put_self _ _ _

theorem entry?_create_ne {kind : Kind} {other : Location} (h : other ≠ l) :
    entry? (fs.create l kind) other = fs.entry? other :=
  Pairs.get?_put_ne h _ _

/-- What a path names is at the location that it leads to. -/
theorem status_eq_ok_iff {entry : Entry} (hl : fs.locate p = .ok l) :
    fs.status p = .ok entry ↔ fs.entry? l = some entry := by
  simp only [status, hl]
  cases fs.entry? l <;> simp

theorem descend_of_directories (hd : ∀ m j, fs.entry? m = some ⟨j, .directory⟩ →
    ∃ j', fs'.entry? m = some ⟨j', .directory⟩) {names : List String} {here : Location}
    (h : fs.descend here names = .ok l) : fs'.descend here names = .ok l := by
  induction names generalizing here with
  | nil => exact h
  | cons name rest ih =>
    simp only [descend] at h
    split at h
    · exact absurd h (by simp)
    · exact absurd h (by simp)
    · next j he =>
      obtain ⟨j', he'⟩ := hd here j he
      simp only [descend, he']
      split at h
      · exact absurd h (by simp)
      · next hs =>
        rw [if_neg hs]
        exact ih h

/-- A path leads where it led if no directory was lost. -/
theorem locate_of_directories (h : fs.locate p = .ok l) (hw : fs'.working = fs.working)
    (hd : ∀ m j, fs.entry? m = some ⟨j, .directory⟩ → ∃ j', fs'.entry? m = some ⟨j', .directory⟩) :
    fs'.locate p = .ok l := by
  unfold locate at h ⊢
  rw [hw]
  split
  · next hn => rw [if_pos hn] at h; exact absurd h (by simp)
  · next hn =>
    rw [if_neg hn] at h
    split
    · next hs => rw [if_pos hs] at h; exact absurd h (by simp)
    · next hs =>
      rw [if_neg hs] at h
      exact descend_of_directories hd h

/-- Paths lead where they led as long as the entries are the same. -/
theorem locate_of_entries (he : fs'.entries = fs.entries) (hw : fs'.working = fs.working) :
    fs'.locate p = fs.locate p := by
  have hdescend : ∀ (names : List String) (here : Location),
      fs'.descend here names = fs.descend here names := by
    intro names
    induction names with
    | nil => exact fun _ => rfl
    | cons name rest ih =>
      intro here
      simp only [descend, entry?_of_entries he, ih]
  unfold locate
  rw [hw]
  simp only [hdescend]

/-- No path is refused; that is left to what is done with the file. -/
theorem locate_ne_denied {reason : Option String} : fs.locate p ≠ .error (.denied reason) := by
  have hdescend : ∀ (names : List String) (here : Location),
      fs.descend here names ≠ .error (.denied reason) := by
    intro names
    induction names with
    | nil => exact fun _ => nofun
    | cons name rest ih =>
      intro here
      simp only [descend]
      split
      · exact nofun
      · exact nofun
      · split
        · exact nofun
        · exact ih _
  unfold locate
  split
  · exact nofun
  · split
    · exact nofun
    · exact hdescend _ _

/-- What a path names stays the same as long as the entries do. -/
theorem status_of_entries (he : fs'.entries = fs.entries) (hw : fs'.working = fs.working) :
    fs'.status p = fs.status p := by
  simp only [status, locate_of_entries he hw, entry?_of_entries he]

/-- A file that was opened was at the end of the path, or was made there. -/
theorem openOrCreate_eq_ok (h : fs.openOrCreate p = .ok (d, fs')) :
    ∃ l, fs.locate p = .ok l
      ∧ ((∃ i, fs.entry? l = some ⟨i, .file⟩ ∧ (d, fs') = fs.openInode i)
        ∨ (fs.entry? l = none ∧ (d, fs') = (fs.create l .file).openInode fs.fresh)) := by
  unfold openOrCreate at h
  split at h
  · exact absurd h (by simp)
  · split at h
    · exact absurd h (by simp)
    · next l hl =>
      refine ⟨l, hl, ?_⟩
      split at h
      · next i he => exact .inl ⟨i, he, (Except.ok.inj h).symm⟩
      · exact absurd h (by simp)
      · next he => exact .inr ⟨he, (Except.ok.inj h).symm⟩

/-- **Why there is no file to open**: files may not be opened, the path leads nowhere, or to a directory. -/
theorem openOrCreate_eq_error {e : SystemFailure} (h : fs.openOrCreate p = .error e) :
    (∃ reason, fs.refusal = some reason ∧ e = .denied reason)
      ∨ fs.refusal = none
        ∧ (fs.locate p = .error e ∨ ∃ i, fs.status p = .ok ⟨i, .directory⟩ ∧ e = .isDirectory) := by
  unfold openOrCreate at h
  split at h
  · next reason hrefusal => exact .inl ⟨reason, hrefusal, (Except.error.inj h).symm⟩
  · next hrefusal =>
    right
    refine ⟨hrefusal, ?_⟩
    split at h
    · next e' hl => exact .inl (hl.trans (congrArg Except.error (Except.error.inj h)))
    · next l hl =>
      split at h
      · exact nomatch h
      · next i he => exact .inr ⟨i, (status_eq_ok_iff hl).2 he, (Except.error.inj h).symm⟩
      · exact nomatch h

theorem openExisting_eq_ok (h : fs.openExisting p = .ok (d, fs')) :
    ∃ i, (d, fs') = fs.openInode i := by
  unfold openExisting at h
  split at h
  · exact absurd h (by simp)
  · split at h
    · exact absurd h (by simp)
    · next entry _ => exact ⟨entry.inode, (Except.ok.inj h).symm⟩

/-! ## Removing -/

theorem fixed?_of_locate (hl : fs.locate p = .ok l) : fs.fixed? p = Pairs.get? l fs.fixed := by
  simp only [fixed?, hl]

/-- A file is removed from its place, if that is not fixed. -/
theorem remove_of_file (hl : fs.locate p = .ok l) (hi : fs.entry? l = some ⟨i, .file⟩) (hfixed : fs.fixed? p = none) :
    fs.remove p = .ok { fs with entries := Pairs.erase l fs.entries } := by
  rw [fixed?_of_locate hl] at hfixed
  simp only [remove, hl, hi, hfixed]

/-- Nothing is removed from a place that is fixed. -/
theorem remove_of_fixed {entry : Entry} {reason : Option String} (hl : fs.locate p = .ok l)
    (hentry : fs.entry? l = some entry) (hfixed : fs.fixed? p = some reason) :
    fs.remove p = .error (.denied reason) := by
  rw [fixed?_of_locate hl] at hfixed
  simp only [remove, hl, hentry, hfixed]

theorem remove_of_directory (hl : fs.locate p = .ok l) (hi : fs.entry? l = some ⟨i, .directory⟩)
    (hfixed : fs.fixed? p = none) : fs.remove p = .error .isDirectory := by
  rw [fixed?_of_locate hl] at hfixed
  simp only [remove, hl, hi, hfixed]

/-- What was removed was a file at the end of the path. -/
theorem remove_eq_ok (h : fs.remove p = .ok fs') :
    ∃ l i, fs.locate p = .ok l ∧ fs.entry? l = some ⟨i, .file⟩
      ∧ fs' = { fs with entries := Pairs.erase l fs.entries } := by
  unfold remove at h
  split at h
  · exact absurd h (by simp)
  · next l hl =>
    split at h
    · exact absurd h (by simp)
    · exact absurd h (by simp)
    · exact absurd h (by simp)
    · next i he _ => exact ⟨l, i, hl, he, (Except.ok.inj h).symm⟩

/-! ## Naming -/

/-- A path names an open file just if the same inode is found at its end. -/
theorem names_eq_true (hl : fs.locate p = .ok l) (h : fs.names p d = .ok true) :
    ∃ entry file, fs.entry? l = some entry ∧ fs.openFile? d = some file ∧ file.inode = entry.inode := by
  unfold names at h
  split at h
  · exact absurd h (by simp)
  · exact absurd h (by simp)
  · next entry hs =>
    have hm : (fs.openFile? d).map (·.inode) = some entry.inode := by simpa using h
    obtain ⟨file, hfile, hi⟩ := Option.map_eq_some_iff.1 hm
    exact ⟨entry, file, (status_eq_ok_iff hl).1 hs, hfile, hi⟩

/-- Where the way to a path is clear, it can be told what the path names. -/
theorem names_ne_error (hl : fs.locate p = .ok l) {failure : SystemFailure} : fs.names p d ≠ .error failure := by
  have hstatus : fs.status p = .error .notFound ∨ ∃ entry, fs.status p = .ok entry := by
    simp only [status, hl]
    cases fs.entry? l with
    | none => exact .inl rfl
    | some entry => exact .inr ⟨entry, rfl⟩
  unfold names
  rcases hstatus with hstatus | ⟨entry, hstatus⟩
  · simp [hstatus]
  · simp [hstatus]

end ClusterHealth.FileSystem
