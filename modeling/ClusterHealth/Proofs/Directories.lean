import ClusterHealth.Proofs.FileSystem

/-!
# `ClusterHealth.Proofs.Directories` — making directories

Directories are made on the way to a lock file, and what was made stays even where a later step fails.
Whatever comes of it, nothing is lost: files, their bytes and what is open are as they were, and all that
was added is new directories.

## Contents
- `Numbered`: no inode or descriptor has a number that is still to be given.
- `Preserved`: all that paths named is still there, with its bytes.
- `Grown`: only directories were added; `Grown.create`, `Grown.trans`.
- `grown_makeDirectories`: the directories above a path are made.
- `Grown.status`: what a path named, it still names, with the same bytes.
- `makeDirectories_of_isDirectory`: a directory that is there is not made again.
- `makeDirectories_of_file`, `makeDirectories_of_barred`: directories that cannot be made.
-/

namespace ClusterHealth.FileSystem

variable {fs fs' fs'' : FileSystem} {l : Location} {p : Path} {i : Inode}

/-! ## Numbers -/

/-- What is there, and what is open, has numbers that were given before. -/
structure Numbered (fs : FileSystem) : Prop where
  entry_lt : ∀ l e, fs.entry? l = some e → e.inode < fs.fresh
  open_lt : ∀ x ∈ fs.openFiles, x.1 < fs.fresh ∧ x.2.inode < fs.fresh

/-- A path that names something leads somewhere. -/
theorem locate_of_status {e : Entry} (hs : fs.status p = .ok e) : ∃ l, fs.locate p = .ok l := by
  cases hl : fs.locate p with
  | ok l => exact ⟨l, rfl⟩
  | error failure =>
    simp only [status, hl] at hs
    cases hs

theorem Numbered.status_lt (h : fs.Numbered) {e : Entry} (hs : fs.status p = .ok e) : e.inode < fs.fresh := by
  obtain ⟨l, hl⟩ := locate_of_status hs
  exact h.entry_lt l e ((status_eq_ok_iff hl).1 hs)

theorem numbered_initial : FileSystem.initial.Numbered := by
  refine ⟨?_, fun x hx => absurd hx List.not_mem_nil⟩
  intro l e he
  have hall : ∀ x ∈ FileSystem.initial.entries, x.2.inode < FileSystem.initial.fresh := by decide
  exact hall _ (Pairs.mem_of_get? he)

/-! ## Growth -/

/-- What paths named is still there, with its bytes. -/
def Preserved (fs fs' : FileSystem) : Prop :=
  ∀ q e, fs.status q = .ok e → fs'.status q = .ok e ∧ fs'.bytes e.inode = fs.bytes e.inode

theorem Preserved.trans (h : fs.Preserved fs') (h' : fs'.Preserved fs'') : fs.Preserved fs'' := by
  intro q e hq
  obtain ⟨hstatus, hbytes⟩ := h q e hq
  obtain ⟨hstatus', hbytes'⟩ := h' q e hstatus
  exact ⟨hstatus', hbytes'.trans hbytes⟩

/-- Where only what is open changes, nothing is lost. -/
theorem Preserved.of_entries (he : fs'.entries = fs.entries) (hw : fs'.working = fs.working)
    (hc : fs'.contents = fs.contents) : fs.Preserved fs' := by
  intro q e hq
  refine ⟨(status_of_entries he hw).trans hq, ?_⟩
  unfold FileSystem.bytes
  rw [hc]

/-- Only directories were added: all that was there is as it was. -/
structure Grown (fs fs' : FileSystem) : Prop where
  working : fs'.working = fs.working
  openFiles : fs'.openFiles = fs.openFiles
  refusal : fs'.refusal = fs.refusal
  unreadable : fs'.unreadable = fs.unreadable
  fresh_le : fs.fresh ≤ fs'.fresh
  kept : ∀ l e, fs.entry? l = some e → fs'.entry? l = some e
  added : ∀ l e, fs'.entry? l = some e → fs.entry? l = some e
    ∨ (e.kind = .directory ∧ fs.fresh ≤ e.inode ∧ e.inode < fs'.fresh)
  bytes : ∀ i < fs.fresh, fs'.bytes i = fs.bytes i

theorem Grown.refl (fs : FileSystem) : fs.Grown fs :=
  ⟨rfl, rfl, rfl, rfl, Nat.le_refl _, fun _ _ h => h, fun _ _ h => .inl h, fun _ _ => rfl⟩

theorem Grown.trans (h : fs.Grown fs') (h' : fs'.Grown fs'') : fs.Grown fs'' := by
  refine ⟨h'.working.trans h.working, h'.openFiles.trans h.openFiles, h'.refusal.trans h.refusal,
    h'.unreadable.trans h.unreadable, Nat.le_trans h.fresh_le h'.fresh_le, ?_, ?_, ?_⟩
  · intro l e hl
    exact h'.kept l e (h.kept l e hl)
  · intro l e hl
    rcases h'.added l e hl with hold | ⟨hkind, hlow, hhigh⟩
    · rcases h.added l e hold with hold | ⟨hkind, hlow, hhigh⟩
      · exact .inl hold
      · exact .inr ⟨hkind, hlow, Nat.lt_of_lt_of_le hhigh h'.fresh_le⟩
    · exact .inr ⟨hkind, Nat.le_trans h.fresh_le hlow, hhigh⟩
  · intro i hi
    rw [h'.bytes i (Nat.lt_of_lt_of_le hi h.fresh_le), h.bytes i hi]

/-- A directory where nothing was. -/
theorem Grown.create (h : fs.entry? l = none) : fs.Grown (fs.create l .directory) := by
  refine ⟨rfl, rfl, rfl, rfl, Nat.le_succ _, ?_, ?_, ?_⟩
  · intro m e hm
    have hne : m ≠ l := by
      rintro rfl
      rw [h] at hm
      exact nomatch hm
    rw [entry?_create_ne hne, hm]
  · intro m e hm
    by_cases hne : m = l
    · rw [hne, entry?_create_self] at hm
      rw [← Option.some.inj hm]
      exact .inr ⟨rfl, Nat.le_refl _, Nat.lt_succ_self _⟩
    · rw [entry?_create_ne hne] at hm
      exact .inl hm
  · intro i hi
    show (Pairs.get? i (Pairs.put fs.fresh [] fs.contents)).getD [] = _
    rw [Pairs.get?_put_ne (Nat.ne_of_lt hi)]
    rfl

theorem grown_makeDirectory (h : fs.makeDirectory p = .ok fs') : fs.Grown fs' := by
  unfold makeDirectory at h
  split at h
  · exact nomatch h
  · next l hl =>
    split at h
    · exact nomatch h
    · next hnone =>
      split at h
      · exact nomatch h
      · rw [← Except.ok.inj h]
        exact Grown.create (Option.not_isSome_iff_eq_none.1 hnone)

theorem grown_ensureDirectory (h : fs.ensureDirectory p = .ok fs') : fs.Grown fs' := by
  unfold ensureDirectory at h
  split at h
  · next made hmade =>
    rw [← Except.ok.inj h]
    exact grown_makeDirectory hmade
  · exact nomatch h
  · split at h
    · rw [← Except.ok.inj h]
      exact Grown.refl fs
    · exact nomatch h

theorem grown_ensureDirectories (root : Path.Root) (names : List String) (fs : FileSystem) :
    fs.Grown (ensureDirectories root names fs).2 := by
  -- By induction on the names, from the last one up.
  induction names generalizing fs with
  | nil =>
    unfold ensureDirectories
    split
    · next h => exact grown_ensureDirectory h
    · exact Grown.refl fs
  | cons name above ih =>
    simp only [ensureDirectories]
    split
    · next h => exact grown_ensureDirectory h
    · have habove : ∀ result fs₁, ensureDirectories root above fs = (result, fs₁) → fs.Grown fs₁ := by
        intro result fs₁ hrun
        have hgrown := ih fs
        rw [hrun] at hgrown
        exact hgrown
      rcases hrun : ensureDirectories root above fs with ⟨e | ⟨⟩, fs₁⟩
      · exact habove _ _ hrun
      · simp only
        split
        · next h => exact (habove _ _ hrun).trans (grown_ensureDirectory h)
        · exact habove _ _ hrun
    · exact Grown.refl fs

/-- **Making the directories above a path adds directories and nothing else**, whether it works or not. -/
theorem grown_makeDirectories (fs : FileSystem) (p : Path) : fs.Grown (fs.makeDirectories p).2 :=
  grown_ensureDirectories p.root p.parts.reverse fs

namespace Grown

/-- A path leads where it led. -/
theorem locate (h : fs.Grown fs') (hl : fs.locate p = .ok l) : fs'.locate p = .ok l :=
  locate_of_directories hl h.working fun m j hm => ⟨j, h.kept m _ hm⟩

/-- What a path named, it still names. -/
theorem status (h : fs.Grown fs') {e : Entry} (hs : fs.status p = .ok e) : fs'.status p = .ok e := by
  obtain ⟨l, hl⟩ := locate_of_status hs
  rw [status_eq_ok_iff (h.locate hl)]
  exact h.kept l e ((status_eq_ok_iff hl).1 hs)

theorem preserved (h : fs.Grown fs') (hn : fs.Numbered) : fs.Preserved fs' :=
  fun _ _ hs => ⟨h.status hs, h.bytes _ (hn.status_lt hs)⟩

/-- A path that leads somewhere led there before, or nowhere for want of a directory. -/
theorem locate_back (h : fs.Grown fs') (hl : fs'.locate p = .ok l) :
    fs.locate p = .ok l ∨ fs.locate p = .error .notFound := by
  have hdescend : ∀ (names : List String) (here : Location), fs'.descend here names = .ok l →
      fs.descend here names = .ok l ∨ fs.descend here names = .error .notFound := by
    intro names
    induction names with
    | nil => exact fun here hd => .inl hd
    | cons name rest ih =>
      intro here hd
      cases hentry : fs.entry? here with
      | none =>
        right
        simp only [descend, hentry]
      | some e =>
        obtain ⟨j, kind⟩ := e
        have hentry' := h.kept here _ hentry
        cases kind with
        | file =>
          simp only [descend, hentry'] at hd
          cases hd
        | directory =>
          simp only [descend, hentry'] at hd
          simp only [descend, hentry]
          split at hd
          · cases hd
          · next hshort =>
            rw [if_neg hshort]
            exact ih _ hd
  unfold FileSystem.locate at hl ⊢
  rw [h.working] at hl
  by_cases hnull : holdsNull p = true
  · rw [if_pos hnull] at hl
    cases hl
  · by_cases hlong : maxPathBytes < p.text.utf8ByteSize
    · rw [if_neg hnull, if_pos hlong] at hl
      cases hl
    · rw [if_neg hnull, if_neg hlong] at hl ⊢
      exact hdescend _ _ hl

theorem openFile? (h : fs.Grown fs') (d : Descriptor) : fs'.openFile? d = fs.openFile? d :=
  congrArg (Pairs.get? d) h.openFiles

theorem numbered (h : fs.Grown fs') (hn : fs.Numbered) : fs'.Numbered := by
  constructor
  · intro l e hl
    rcases h.added l e hl with hold | ⟨-, -, hlt⟩
    · exact Nat.lt_of_lt_of_le (hn.entry_lt l e hold) h.fresh_le
    · exact hlt
  · intro x hx
    rw [h.openFiles] at hx
    obtain ⟨hd, hi⟩ := hn.open_lt x hx
    exact ⟨Nat.lt_of_lt_of_le hd h.fresh_le, Nat.lt_of_lt_of_le hi h.fresh_le⟩

end Grown

/-! ## Directories that are there -/

theorem exists_isDirectory (h : fs.isDirectory p = true) :
    ∃ j, fs.status p = .ok ⟨j, .directory⟩ := by
  unfold isDirectory at h
  split at h
  · next entry hstatus =>
    obtain ⟨j, kind⟩ := entry
    obtain rfl : kind = .directory := of_decide_eq_true h
    exact ⟨j, hstatus⟩
  · exact nomatch h

/-- A directory that is there is not made again. -/
theorem ensureDirectory_of_isDirectory (h : fs.isDirectory p = true) : fs.ensureDirectory p = .ok fs := by
  obtain ⟨j, hstatus⟩ := exists_isDirectory h
  obtain ⟨l, hl⟩ := locate_of_status hstatus
  have hmade : fs.makeDirectory p = .error .exists := by
    simp only [makeDirectory, hl, (status_eq_ok_iff hl).1 hstatus, Option.isSome_some, if_true]
  simp only [ensureDirectory, hmade, h, if_true]

theorem makeDirectories_of_isDirectory (h : fs.isDirectory p = true) :
    fs.makeDirectories p = (.ok (), fs) := by
  have hthere := ensureDirectory_of_isDirectory h
  unfold makeDirectories
  cases hnames : p.parts.reverse with
  | nil =>
    have hpath : p = ⟨p.root, []⟩ := by
      rw [← List.reverse_eq_nil_iff.1 hnames]
    rw [hpath] at hthere
    simp only [ensureDirectories, hthere]
  | cons name above =>
    have hpath : p = ⟨p.root, (name :: above).reverse⟩ := by
      rw [← hnames, List.reverse_reverse]
    rw [hpath] at hthere
    simp only [ensureDirectories, hthere]

/-! ## Directories that cannot be made -/

/-- A file or directory that a path leads past, or to. -/
def OnTheWay (q p : Path) : Prop :=
  q.root = p.root ∧ q.parts <+: p.parts

theorem descend_append (here : Location) (names rest : List String) :
    fs.descend here (names ++ rest) = (fs.descend here names).bind (fs.descend · rest) := by
  induction names generalizing here with
  | nil => rfl
  | cons name names ih =>
    simp only [List.cons_append, descend]
    split
    · rfl
    · rfl
    · split
      · rfl
      · exact ih _

/-- Behind a file a path leads nowhere. -/
theorem locate_of_file {q : Path} (hq : OnTheWay q p) (h : fs.status q = .ok ⟨i, .file⟩) (hne : q ≠ p) :
    ∃ e, e ≠ .notFound ∧ fs.locate p = .error e := by
  obtain ⟨hroot, rest, hparts⟩ := hq
  obtain ⟨l, hl⟩ := locate_of_status h
  have hentry : fs.entry? l = some ⟨i, .file⟩ := (status_eq_ok_iff hl).1 h
  have hdescend : fs.descend (if q.root = .working then fs.working else []) q.parts = .ok l := by
    unfold FileSystem.locate at hl
    split at hl
    · exact nomatch hl
    · split at hl
      · exact nomatch hl
      · exact hl
  have hfurther : fs.descend (if p.root = .working then fs.working else []) p.parts = .error .notDirectory := by
    rw [← hroot, ← hparts, descend_append, hdescend]
    cases rest with
    | nil =>
      rw [List.append_nil] at hparts
      cases q
      cases p
      cases hroot
      cases hparts
      exact absurd rfl hne
    | cons name rest => simp only [Except.bind, descend, hentry]
  unfold FileSystem.locate
  split
  · exact ⟨.nullCharacter, by decide, rfl⟩
  · split
    · exact ⟨.nameTooLong, by decide, rfl⟩
    · exact ⟨.notDirectory, by decide, hfurther⟩

/-- Where a file is on the way, no directory is made. -/
theorem ensureDirectory_of_file {q : Path} (hq : OnTheWay q p) (h : fs.status q = .ok ⟨i, .file⟩) :
    ∃ e, e ≠ .notFound ∧ fs.ensureDirectory p = .error e := by
  by_cases hqp : q = p
  · rw [hqp] at h
    obtain ⟨l, hl⟩ := locate_of_status h
    have hmake : fs.makeDirectory p = .error .exists := by
      simp only [makeDirectory, hl, (status_eq_ok_iff hl).1 h]
      rfl
    have hnot : fs.isDirectory p = false := by
      simp only [isDirectory, h]
      rfl
    refine ⟨.exists, by decide, ?_⟩
    simp only [ensureDirectory, hmake, hnot]
    rfl
  · obtain ⟨e, hne, hl⟩ := locate_of_file hq h hqp
    have hmake : fs.makeDirectory p = .error e := by
      simp only [makeDirectory, hl]
    have hnot : fs.isDirectory p = false := by
      simp only [isDirectory, FileSystem.status, hl]
    refine ⟨e, hne, ?_⟩
    unfold ensureDirectory
    rw [hmake, hnot]
    cases e with
    | notFound => exact absurd rfl hne
    | _ => rfl

/-- **A file on the way** keeps the directories from being made, however far up it is, and nothing changes. -/
theorem makeDirectories_of_file {q : Path} (hq : OnTheWay q p) (h : fs.status q = .ok ⟨i, .file⟩) :
    ∃ e, fs.makeDirectories p = (.error e, fs) := by
  obtain ⟨e, hne, hensure⟩ := ensureDirectory_of_file hq h
  have hnone : ∀ names, fs.ensureDirectory ⟨p.root, names.reverse⟩ = .error e →
      ensureDirectories p.root names fs = (.error e, fs) := by
    intro names hnames
    cases names with
    | nil =>
      rw [List.reverse_nil] at hnames
      simp only [ensureDirectories, hnames]
    | cons name above => simp only [ensureDirectories, hnames]
  refine ⟨e, hnone p.parts.reverse ?_⟩
  rw [List.reverse_reverse]
  exact hensure

/-- Where directories may not be made, one that is there is all that there can be. -/
theorem ensureDirectory_of_barred {reason : Option String} (hb : fs.barred = some reason)
    (h : fs.ensureDirectory p = .ok fs') : fs' = fs ∧ fs.isDirectory p = true := by
  have hmake : ∀ fs', fs.makeDirectory p ≠ .ok fs' := by
    intro fs₁ hm
    unfold makeDirectory at hm
    split at hm
    · exact nomatch hm
    · split at hm
      · exact nomatch hm
      · rw [hb] at hm
        exact nomatch hm
  unfold ensureDirectory at h
  split at h
  · next made hmade => exact absurd hmade (hmake made)
  · exact nomatch h
  · split at h
    · next hd => exact ⟨(Except.ok.inj h).symm, hd⟩
    · exact nomatch h

/-- Where directories may not be made, either all is there or the making fails; nothing changes. -/
theorem ensureDirectories_of_barred {reason : Option String} (hb : fs.barred = some reason) (root : Path.Root)
    (names : List String) : (ensureDirectories root names fs = (.ok (), fs)
      ∧ fs.isDirectory ⟨root, names.reverse⟩ = true) ∨ ∃ e, ensureDirectories root names fs = (.error e, fs) := by
  induction names with
  | nil =>
    simp only [ensureDirectories]
    cases hensure : fs.ensureDirectory ⟨root, []⟩ with
    | ok made =>
      obtain ⟨rfl, hd⟩ := ensureDirectory_of_barred hb hensure
      exact .inl ⟨rfl, hd⟩
    | error e => exact .inr ⟨e, rfl⟩
  | cons name above ih =>
    simp only [ensureDirectories]
    cases hensure : fs.ensureDirectory ⟨root, (name :: above).reverse⟩ with
    | ok made =>
      obtain ⟨rfl, hd⟩ := ensureDirectory_of_barred hb hensure
      exact .inl ⟨rfl, hd⟩
    | error e =>
      right
      -- What is above may be there; then the second attempt fails like the first one.
      rcases ih with ⟨habove, -⟩ | ⟨e', habove⟩
      · cases e with
        | notFound =>
          simp only [habove, hensure]
          exact ⟨_, rfl⟩
        | _ => exact ⟨_, rfl⟩
      · cases e with
        | notFound =>
          simp only [habove]
          exact ⟨_, rfl⟩
        | _ => exact ⟨_, rfl⟩

/-- **Where directories may not be made**, one that is missing stays missing, and nothing changes. -/
theorem makeDirectories_of_barred {reason : Option String} (hb : fs.barred = some reason)
    (hmissing : fs.isDirectory p = false) : ∃ e, fs.makeDirectories p = (.error e, fs) := by
  rcases ensureDirectories_of_barred hb p.root p.parts.reverse with ⟨-, hd⟩ | hfails
  · rw [List.reverse_reverse] at hd
    exact nomatch hmissing.symm.trans hd
  · exact hfails

end ClusterHealth.FileSystem
