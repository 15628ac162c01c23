import ClusterHealth.Proofs.Lock.Results
import Mathlib.Data.List.Nodup

/-!
# `ClusterHealth.Proofs.Lock.Ledger` — lock files and the locks that are out

Whatever the files were like before, the locks that are out can be told from them: each has its file locked
alone, with the number of its process in it, and nothing else is locked. Taking a lock that is free, giving
one back and making directories keep this up.

## Contents
- `Kept`: the file of a lock that is out.
- `Sound`: what the files have to do with the locks that are out.
- `Sound.taken_iff`, `Sound.eq_of_kept`: a file is locked just if a lock on it is out, and only one is.
- `Sound.grown`, `Sound.spent`, `Sound.signed`, `Sound.released`: what keeps it.
-/

namespace ClusterHealth.Lock

open FileSystem

/-! ## Files and locks -/

/-- The file of a lock that is out: the path names it, the descriptor has it locked alone, and it holds the
number of the process. -/
structure Kept (fs : FileSystem) (d : Descriptor) (lock : LockFile) (i : Inode) : Prop where
  named : fs.status lock.path = .ok ⟨i, .file⟩
  locked : fs.openFile? d = some ⟨i, some .exclusive⟩
  signed : fs.bytes i = signature lock.process

/-- What the files have to do with the locks that are out. -/
structure Sound (fs : FileSystem) (out : List (Descriptor × LockFile)) : Prop where
  numbered : fs.Numbered
  exclusive : fs.LocksExclude
  distinct : (out.map Prod.fst).Nodup
  kept : ∀ x ∈ out, ∃ i, Kept fs x.1 x.2 i
  /-- Whatever is locked is locked by one of these locks. -/
  known : ∀ x ∈ fs.openFiles, x.2.lock ≠ none →
    (∃ lock, (x.1, lock) ∈ out) ∧ fs.openFile? x.1 = some x.2
  /-- The numbers of the processes are not longer than what is read of a lock file. -/
  short : ∀ x ∈ out, x.2.process < 10 ^ holderBytes

namespace Sound

variable {fs fs₁ : FileSystem} {out : List (Descriptor × LockFile)} {path : Path} {d : Descriptor}
  {i : Inode} {mode : LockMode}

/-- No lock is out, and nothing is locked. -/
theorem start (hn : fs.Numbered) (hunlocked : ∀ x ∈ fs.openFiles, x.2.lock = none) : Sound fs [] := by
  refine ⟨hn, ?_, List.nodup_nil, nofun, ?_, nofun⟩
  · intro x hx y _ _ hlock _
    rw [hunlocked x hx] at hlock
    exact nomatch hlock
  · intro x hx hlock
    exact absurd (hunlocked x hx) hlock

/-- A file that is locked at all is locked by a lock that is out. -/
theorem taken_iff (h : Sound fs out) : fs.Taken i mode ↔ ∃ x ∈ out, Kept fs x.1 x.2 i := by
  constructor
  · rintro ⟨x, hx, hi, held, hheld, -⟩
    obtain ⟨⟨lock, hout⟩, hopen⟩ := h.known x hx (by rw [hheld]; exact nofun)
    obtain ⟨j, hkept⟩ := h.kept _ hout
    have hj : j = i := by
      rw [← hi, ← Option.some.inj (hkept.locked.symm.trans hopen)]
    exact ⟨(x.1, lock), hout, hj ▸ hkept⟩
  · rintro ⟨x, -, hkept⟩
    have hexcludes : mode.excludes .exclusive = true := by cases mode <;> rfl
    exact ⟨_, Pairs.mem_of_get? hkept.locked, rfl, .exclusive, rfl, hexcludes⟩

/-- There is one lock for each file. -/
theorem eq_of_kept (h : Sound fs out) {x y : Descriptor × LockFile} (hx : x ∈ out) (hy : y ∈ out)
    (hkx : Kept fs x.1 x.2 i) (hky : Kept fs y.1 y.2 i) : x = y := by
  have hsame : x.1 = y.1 :=
    h.exclusive _ (Pairs.mem_of_get? hkx.locked) _ (Pairs.mem_of_get? hky.locked) rfl rfl nofun
  exact List.inj_on_of_nodup_map h.distinct hx hy hsame

/-- The descriptors of the locks that are out are open. -/
theorem descriptor_lt (h : Sound fs out) {x : Descriptor × LockFile} (hx : x ∈ out) : x.1 < fs.fresh := by
  obtain ⟨i, hkept⟩ := h.kept x hx
  exact (h.numbered.open_lt _ (Pairs.mem_of_get? hkept.locked)).1

/-! ### What keeps it -/

theorem grown (h : Sound fs out) (hg : fs.Grown fs₁) : Sound fs₁ out := by
  refine ⟨hg.numbered h.numbered, ?_, h.distinct, ?_, ?_, h.short⟩
  · apply h.exclusive.of_subset
    intro x hx
    rw [hg.openFiles] at hx
    exact .inl hx
  · intro x hx
    obtain ⟨i, hkept⟩ := h.kept x hx
    refine ⟨i, hg.status hkept.named, (hg.openFile? x.1).trans hkept.locked, ?_⟩
    exact (hg.bytes i (h.numbered.status_lt hkept.named)).trans hkept.signed
  · intro x hx hlock
    rw [hg.openFiles] at hx
    obtain ⟨hout, hopen⟩ := h.known x hx hlock
    exact ⟨hout, (hg.openFile? x.1).trans hopen⟩

theorem spent (h : Sound fs out) : Sound fs.spent out := by
  have hstatus : ∀ q, fs.spent.status q = fs.status q := fun q => status_of_entries rfl rfl
  refine ⟨⟨?_, ?_⟩, h.exclusive, h.distinct, ?_, h.known, h.short⟩
  · intro l e hl
    exact Nat.lt_succ_of_lt (h.numbered.entry_lt l e hl)
  · intro x hx
    obtain ⟨hd, hi⟩ := h.numbered.open_lt x hx
    exact ⟨Nat.lt_succ_of_lt hd, Nat.lt_succ_of_lt hi⟩
  · intro x hx
    obtain ⟨i, hkept⟩ := h.kept x hx
    exact ⟨i, (hstatus x.2.path).trans hkept.named, hkept.locked, hkept.signed⟩

/-- One more lock is out: that of a file that nobody had locked. -/
theorem signed {lock : LockFile} (h : Sound fs out) (o : Opened fs lock.path d i fs₁)
    (hfree : ¬ fs.Taken i .exclusive) (hshort : lock.process < 10 ^ holderBytes) :
    Sound (fs₁.signed d i (signature lock.process)) (out ++ [(d, lock)]) := by
  have hopenFiles : (fs₁.signed d i (signature lock.process)).openFiles
      = Pairs.put d ⟨i, some .exclusive⟩ fs.openFiles := by
    show Pairs.put d _ fs₁.openFiles = _
    rw [o.openFiles, Pairs.put_put]
  have hopen_self : (fs₁.signed d i (signature lock.process)).openFile? d = some ⟨i, some .exclusive⟩ :=
    Pairs.get?_put_self _ _ _
  have hopen_ne : ∀ e, e ≠ d → (fs₁.signed d i (signature lock.process)).openFile? e = fs.openFile? e := by
    intro e he
    unfold FileSystem.openFile?
    rw [hopenFiles, Pairs.get?_put_ne he]
  have hstatus : ∀ q, (fs₁.signed d i (signature lock.process)).status q = fs₁.status q :=
    fun q => status_of_entries rfl rfl
  have hnew := o.descriptor_new h.numbered
  -- A lock on the inode would have been in the way.
  have hunlocked : ∀ x ∈ fs.openFiles, x.2.inode = i → x.2.lock = none := by
    intro x hx hi
    by_contra hlock
    obtain ⟨held, hheld⟩ := Option.ne_none_iff_exists'.1 hlock
    exact hfree ⟨x, hx, hi, held, hheld, rfl⟩
  refine ⟨⟨?_, ?_⟩, ?_, ?_, ?_, ?_, ?_⟩
  · intro l e hl
    rcases o.added l e hl with hold | hlt
    · exact Nat.lt_of_lt_of_le (h.numbered.entry_lt l e hold) o.fresh_le
    · exact hlt
  · intro x hx
    rw [hopenFiles] at hx
    rcases Pairs.mem_of_mem_put hx with rfl | hx
    · exact ⟨o.descriptor_lt, o.inode_lt h.numbered⟩
    · obtain ⟨hd, hi⟩ := h.numbered.open_lt x hx
      exact ⟨Nat.lt_of_lt_of_le hd o.fresh_le, Nat.lt_of_lt_of_le hi o.fresh_le⟩
  · intro x hx y hy hi hlock hheld
    rw [hopenFiles] at hx hy
    rcases Pairs.mem_of_mem_put hx with rfl | hx
    · rcases Pairs.mem_of_mem_put hy with rfl | hy
      · rfl
      · exact absurd (hunlocked y hy hi.symm) hheld
    · rcases Pairs.mem_of_mem_put hy with rfl | hy
      · rw [hunlocked x hx hi] at hlock
        exact nomatch hlock
      · exact h.exclusive x hx y hy hi hlock hheld
  · rw [List.map_append, List.nodup_append]
    refine ⟨h.distinct, List.nodup_singleton d, ?_⟩
    intro e he e' he' heq
    obtain ⟨x, hx, rfl⟩ := List.mem_map.1 he
    rw [List.mem_singleton.1 he'] at heq
    have hlt := h.descriptor_lt hx
    rw [heq] at hlt
    exact absurd (Nat.lt_of_lt_of_le hlt o.descriptor_ge) (Nat.lt_irrefl d)
  · intro x hx
    rcases List.mem_append.1 hx with hx | hx
    · obtain ⟨j, hkept⟩ := h.kept x hx
      have hlt := h.numbered.status_lt hkept.named
      have hne : j ≠ i := by
        rintro rfl
        exact hfree (h.taken_iff.2 ⟨x, hx, hkept⟩)
      have hdne : x.1 ≠ d := hnew _ (Pairs.mem_of_get? hkept.locked)
      refine ⟨j, (hstatus _).trans (o.kept _ _ hkept.named), (hopen_ne x.1 hdne).trans hkept.locked, ?_⟩
      rw [bytes_signed_ne hne, o.bytes j hlt, hkept.signed]
    · rw [List.mem_singleton.1 hx]
      exact ⟨i, (hstatus _).trans o.status, hopen_self, bytes_signed_self⟩
  · intro x hx hlock
    rw [hopenFiles] at hx
    rcases Pairs.mem_of_mem_put hx with rfl | hx
    · exact ⟨⟨lock, List.mem_append_right _ List.mem_cons_self⟩, hopen_self⟩
    · obtain ⟨⟨other, hout⟩, hopen⟩ := h.known x hx hlock
      exact ⟨⟨other, List.mem_append_left _ hout⟩, (hopen_ne x.1 (hnew x hx)).trans hopen⟩
  · intro x hx
    rcases List.mem_append.1 hx with hx | hx
    · exact h.short x hx
    · rw [List.mem_singleton.1 hx]
      exact hshort

/-- One lock less is out: its file is closed. -/
theorem closed {lock : LockFile} (h : Sound fs out) (hmem : (d, lock) ∈ out) :
    Sound (fs.close d) (out.filter fun x => x.1 ≠ d)
      ∧ ∀ i, Kept fs d lock i → ∀ x ∈ out.filter (fun x => x.1 ≠ d), ¬ Kept (fs.close d) x.1 x.2 i := by
  have hopenFiles : ∀ x ∈ (fs.close d).openFiles, x ∈ fs.openFiles ∧ x.1 ≠ d :=
    fun x hx => Pairs.mem_erase_iff.1 hx
  have hstatus : ∀ q, (fs.close d).status q = fs.status q := fun q => status_of_entries rfl rfl
  have hout : ∀ x ∈ out.filter (fun x => x.1 ≠ d), x ∈ out ∧ x.1 ≠ d := by
    intro x hx
    obtain ⟨hx, hne⟩ := List.mem_filter.1 hx
    exact ⟨hx, of_decide_eq_true hne⟩
  refine ⟨⟨⟨h.numbered.entry_lt, ?_⟩, ?_, ?_, ?_, ?_, ?_⟩, ?_⟩
  · exact fun x hx => h.numbered.open_lt x (hopenFiles x hx).1
  · exact h.exclusive.of_subset fun x hx => .inl (hopenFiles x hx).1
  · exact h.distinct.sublist (List.filter_sublist.map _)
  · intro x hx
    obtain ⟨hx, hne⟩ := hout x hx
    obtain ⟨j, hkept⟩ := h.kept x hx
    exact ⟨j, (hstatus x.2.path).trans hkept.named, (openFile?_close_ne hne).trans hkept.locked, hkept.signed⟩
  · intro x hx hlock
    obtain ⟨hx, hne⟩ := hopenFiles x hx
    obtain ⟨⟨other, hother⟩, hopen⟩ := h.known x hx hlock
    exact ⟨⟨other, List.mem_filter.2 ⟨hother, decide_eq_true hne⟩⟩, (openFile?_close_ne hne).trans hopen⟩
  · exact fun x hx => h.short x (hout x hx).1
  · -- Another lock on the same file would be this one.
    intro i hkept x hx hkx
    obtain ⟨hx, hne⟩ := hout x hx
    have hkx' : Kept fs x.1 x.2 i :=
      ⟨(hstatus x.2.path).symm.trans hkx.named, (openFile?_close_ne hne).symm.trans hkx.locked, hkx.signed⟩
    exact hne (congrArg Prod.fst (h.eq_of_kept hx hmem hkx' hkept))

/-- A file goes on which no lock is out. -/
theorem removed {l : Location} (h : Sound fs out) (hentry : fs.entry? l = some ⟨i, .file⟩)
    (hfree : ∀ x ∈ out, ¬ Kept fs x.1 x.2 i) : Sound { fs with entries := Pairs.erase l fs.entries } out := by
  generalize hfs' : ({ fs with entries := Pairs.erase l fs.entries } : FileSystem) = fs'
  have hentry_ne : ∀ m, m ≠ l → fs'.entry? m = fs.entry? m := by
    intro m hm
    rw [← hfs']
    exact Pairs.get?_erase_ne hm _
  have hentry_self : fs'.entry? l = none := by
    rw [← hfs']
    exact Pairs.get?_erase_self _ _
  have hopenFiles : fs'.openFiles = fs.openFiles := by rw [← hfs']
  have hopen : ∀ e, fs'.openFile? e = fs.openFile? e := fun e => by rw [← hfs']; rfl
  have hbytes : fs'.bytes = fs.bytes := by rw [← hfs']; rfl
  have hworking : fs'.working = fs.working := by rw [← hfs']
  have hfresh : fs'.fresh = fs.fresh := by rw [← hfs']
  refine ⟨⟨?_, ?_⟩, ?_, h.distinct, ?_, ?_, h.short⟩
  · intro m e hm
    rw [hfresh]
    by_cases hml : m = l
    · rw [hml, hentry_self] at hm
      exact nomatch hm
    · exact h.numbered.entry_lt m e ((hentry_ne m hml).symm.trans hm)
  · intro x hx
    rw [hopenFiles] at hx
    rw [hfresh]
    exact h.numbered.open_lt x hx
  · exact h.exclusive.of_subset fun x hx => .inl (hopenFiles ▸ hx)
  · intro x hx
    obtain ⟨j, hkx⟩ := h.kept x hx
    have hji : j ≠ i := by
      rintro rfl
      exact hfree x hx hkx
    -- Only a file went, so the path of the lock leads where it led, which is not here.
    obtain ⟨m, hm⟩ := locate_of_status hkx.named
    have hmentry := (status_eq_ok_iff hm).1 hkx.named
    have hml : m ≠ l := by
      rintro rfl
      exact hji (congrArg Entry.inode (Option.some.inj (hmentry.symm.trans hentry)))
    have hleads : fs'.locate x.2.path = .ok m := by
      refine locate_of_directories hm hworking fun n k hn => ⟨k, ?_⟩
      have hnl : n ≠ l := by
        rintro rfl
        cases congrArg Entry.kind (Option.some.inj (hn.symm.trans hentry))
      rw [hentry_ne n hnl, hn]
    refine ⟨j, ?_, (hopen x.1).trans hkx.locked, (congrFun hbytes j).trans hkx.signed⟩
    rw [status_eq_ok_iff hleads, hentry_ne m hml, hmentry]
  · intro x hx hlock
    rw [hopenFiles] at hx
    rw [hopen]
    exact h.known x hx hlock

/-- **One lock less is out** once it is given back, whether or not its file can be removed. -/
theorem released {lock : LockFile} (h : Sound fs out) (hmem : (d, lock) ∈ out) :
    Sound (Lock.givenBack fs lock.path d) (out.filter fun x => x.1 ≠ d) := by
  obtain ⟨i, hkept⟩ := h.kept _ hmem
  obtain ⟨hclosed, hfree⟩ := h.closed hmem
  have hhas : Has lock.path d (some .exclusive) fs := ⟨i, hkept.named, hkept.locked⟩
  cases hfixed : fs.fixed? lock.path with
  | some reason =>
    rw [givenBack_of_fixed hhas hfixed]
    exact hclosed
  | none =>
    obtain ⟨l, hl⟩ := locate_of_status hkept.named
    have hentry : FileSystem.entry? (fs.close d) l = some ⟨i, .file⟩ := (status_eq_ok_iff hl).1 hkept.named
    rw [givenBack_of_free hhas hl hfixed]
    exact hclosed.removed hentry (hfree i hkept)

end Sound

end ClusterHealth.Lock
