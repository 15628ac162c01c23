import ClusterHealth.Proofs.Lock.Obstacles

/-!
# `ClusterHealth.Proofs.Lock.Contention` — a lock that another has

Whoever does not get a lock because another has it is told whose it is, as far as the lock file says so. Nothing
else comes of it, whatever the file holds, unless its bytes make no sense to the reader: then the failure is not
that another has the lock, and the file stays open (`superscript_escapes`).

## Contents
- `firstBytes?`: what is read of a lock file.
- `Refused`, `acquire_refused`: what comes of a lock that another has.
-/

namespace ClusterHealth.Lock

open FileSystem ClusterHealth.Machine ClusterHealth.Text ClusterHealth.Number

/-! ## A lock that another has -/

/-- The first bytes of a lock file, which say whose it is; `none` where files cannot be read. -/
def firstBytes? (fs : FileSystem) (i : Inode) : Option (List UInt8) :=
  if fs.unreadable then none else some ((fs.bytes i).take holderBytes)

/-- What comes of a lock that another has. -/
structure Refused (lock : LockFile) (m : Machine) (fs₁ : FileSystem) (i : Inode) : Prop where
  /-- Whose lock it is, is told as the file says it; the file that was opened is closed, and only a number is used
  up. -/
  told : ∀ bs holder, firstBytes? fs₁ i = some bs → Tells bs holder → ¬ Senseless bs →
    acquire lock alone m = (.error (.alreadyRunning lock.path (holder.map Int.ofNat)), { m with files := fs₁.spent })
  /-- A file says one thing, whatever is in it. -/
  said : ∀ bs, firstBytes? fs₁ i = some bs → ∃! holder, Tells bs holder
  unreadable : firstBytes? fs₁ i = none →
    acquire lock alone m = (.error (.alreadyRunning lock.path none), { m with files := fs₁.spent })
  /-- Where the bytes make no sense, the reader fails, and leaves the file open. -/
  noText : ∀ bs, firstBytes? fs₁ i = some bs → NoText bs →
    acquire lock alone m = (.error .undecodable, { m with files := (fs₁.openInode i).2 })
  valueless : ∀ s, firstBytes? fs₁ i = some (Utf8.encode s) → Valueless s →
    ∃ message, acquire lock alone m = (.error (.badValue message), { m with files := (fs₁.openInode i).2 })
  /-- At most directories were made: what paths name, the bytes of files and every lock are as before. -/
  preserved : m.files.Preserved fs₁
  openFiles : fs₁.openFiles = m.files.openFiles

variable {lock : LockFile} {m : Machine} {fs fs₁ : FileSystem} {i : Inode} {bs : List UInt8}

theorem holderIn_of_firstBytes? (h : firstBytes? fs i = some bs) : holderIn fs i = holderOf bs := by
  unfold firstBytes? at h
  split at h
  · exact nomatch h
  · next hreadable =>
    unfold holderIn
    rw [if_neg hreadable, Option.some.inj h]

theorem holderIn_of_unreadable (h : firstBytes? fs i = none) : holderIn fs i = .ok none := by
  unfold firstBytes? at h
  split at h
  · next hunreadable =>
    unfold holderIn
    exact if_pos hunreadable
  · exact nomatch h

/-- **A lock that another has is not taken**, whatever its file holds: whose it is, is told as the file says it,
unless the bytes make no sense. Neither the file nor the lock of the other changes. -/
theorem acquire_refused (hn : m.files.Numbered) (h : Held lock.path m.files fs₁ i) : Refused lock m fs₁ i := by
  have hgrown := grown_of_prepared h.prepared
  refine ⟨fun bs holder hbs htells hsense => ?_, fun bs _ => ?_, fun hnone => ?_, fun bs hbs hno => ?_,
    fun s hbs hvalueless => ?_, hgrown.preserved hn, hgrown.openFiles⟩
  · have hread : holderIn fs₁ i = .ok holder :=
      (holderIn_of_firstBytes? hbs).trans (holderOf_eq_ok_iff.2 ⟨htells, hsense⟩)
    exact (Obstacle.held h hread).acquire hn
  · obtain ⟨holder, htells⟩ := exists_tells bs
    exact ⟨holder, htells, fun holder' htells' => htells'.unique htells⟩
  · exact (Obstacle.held h (holderIn_of_unreadable hnone)).acquire hn
  · have hread := (holderIn_of_firstBytes? hbs).trans (holderOf_noText hno)
    exact (Obstacle.illegible h hread).acquire hn
  · obtain ⟨message, hmessage⟩ := holderOf_encode_valueless hvalueless
    have hread := (holderIn_of_firstBytes? hbs).trans hmessage
    exact ⟨message, (Obstacle.illegible h hread).acquire hn⟩

/-- A file with these bytes, which another has locked. -/
def lockedWith (bs : List UInt8) : FileSystem :=
  { FileSystem.initial with
    entries := [([], ⟨0, .directory⟩), (["hc.lock"], ⟨1, .file⟩)]
    contents := [(1, bs)]
    openFiles := [(2, ⟨1, some .exclusive⟩)]
    fresh := 3 }

theorem numbered_lockedWith (bs : List UInt8) : (lockedWith bs).Numbered := by
  constructor
  · intro l e hl
    have hmem : (l, e) ∈ [(([] : Location), (⟨0, .directory⟩ : Entry)), (["hc.lock"], ⟨1, .file⟩)] :=
      Pairs.mem_of_get? hl
    have hall : ∀ x ∈ [(([] : Location), (⟨0, .directory⟩ : Entry)), (["hc.lock"], ⟨1, .file⟩)],
        x.2.inode < 3 := by decide
    exact hall (l, e) hmem
  · intro x hx
    obtain rfl : x = (2, ⟨1, some .exclusive⟩) := List.mem_singleton.1 hx
    show 2 < 3 ∧ 1 < 3
    decide

theorem held_lockedWith (bs : List UInt8) : Held (.ofText "/hc.lock") (lockedWith bs) (lockedWith bs) 1 := by
  have hmem : ((2 : Descriptor), (⟨1, some .exclusive⟩ : OpenFile)) ∈ (lockedWith bs).openFiles := by
    exact List.mem_singleton.2 rfl
  exact ⟨by rfl, by rfl, by rfl, _, hmem, rfl, .exclusive, rfl, rfl⟩

/-- Arabic digits with blanks around them are the number of a process. -/
theorem acquire_refused_arabic :
    acquire ⟨.ofText "/hc.lock", 4242⟩ alone (.ofParts (lockedWith (Utf8.encode " ٤٢\n")) .empty)
      = (.error (.alreadyRunning (.ofText "/hc.lock") (some 42)),
        .ofParts (lockedWith (Utf8.encode " ٤٢\n")).spent .empty) := by
  have hfirst : firstBytes? (lockedWith (Utf8.encode " ٤٢\n")) 1 = some (Utf8.encode " ٤٢\n") := by
    decide +kernel
  have hread : holderOf (Utf8.encode " ٤٢\n") = .ok (some 42) := by decide +kernel
  obtain ⟨htells, hsense⟩ := holderOf_eq_ok_iff.1 hread
  have hrefused : Refused ⟨.ofText "/hc.lock", 4242⟩ (.ofParts (lockedWith (Utf8.encode " ٤٢\n")) .empty) _ 1 :=
    acquire_refused (numbered_lockedWith _) (held_lockedWith _)
  exact hrefused.told _ _ hfirst htells hsense

/-- **A superscript says nothing of a holder**, but the reader fails on it, and leaves the file open. -/
theorem superscript_escapes :
    (lockedWith (Utf8.encode "²")).Numbered
      ∧ Held (.ofText "/hc.lock") (lockedWith (Utf8.encode "²")) (lockedWith (Utf8.encode "²")) 1
      ∧ Tells (Utf8.encode "²") none
      ∧ ∃ message, acquire ⟨.ofText "/hc.lock", 4242⟩ alone (.ofParts (lockedWith (Utf8.encode "²")) .empty)
        = (.error (.badValue message), .ofParts ((lockedWith (Utf8.encode "²")).openInode 1).2 .empty) := by
  have hpadded : Padded ['²'] "²".toList := ⟨[], [], by decide, List.forall_mem_nil _, List.forall_mem_nil _⟩
  have hvalueless : Valueless "²" :=
    ⟨['²'], hpadded, List.forall_mem_singleton.2 (by decide +kernel), '²', by decide, by decide +kernel⟩
  have hfirst : firstBytes? (lockedWith (Utf8.encode "²")) 1 = some (Utf8.encode "²") := by decide +kernel
  obtain ⟨message, hread⟩ := holderOf_encode_valueless hvalueless
  have hobstacle : Obstacle ⟨.ofText "/hc.lock", 4242⟩ (lockedWith (Utf8.encode "²")) _ _ :=
    .illegible (held_lockedWith _) ((holderIn_of_firstBytes? hfirst).trans hread)
  refine ⟨numbered_lockedWith _, held_lockedWith _, fun s n hs hnumber => ?_, message,
    hobstacle.acquire (numbered_lockedWith _)⟩
  -- A number would be read.
  have hspelled := holderOf_encode_number hnumber
  rw [← hs] at hspelled
  exact nomatch hspelled.symm.trans hread

end ClusterHealth.Lock
