import ClusterHealth.Proofs.Escaping

/-!
# `ClusterHealth.Proofs.Unusable` — a command that does not get its lock

What stands in the way of the lock decides how the command ends. If it is foreseen, the command says so and
leaves with the exit code of a refusal, and nothing stays open. If not, what the system reports, or what is
wrong about the bytes of the lock file, comes out of the command as it is: it crashes.

So a lock file at the place of a directory, or below a file, or below a directory that may not be made, is not
refused but ends in a crash (`directory_crashes`).

## Contents
- `Thwarted`, `thwarted_of_acquire_error`: how a command ends that does not get its lock.
- `unusable_lock`: the same, with what is true of any lock that is not taken.
-/

namespace ClusterHealth.Command

open ClusterHealth.Machine

/-- How a command ends that does not get its lock, by what stands in the way. -/
structure Thwarted (lock : Lock.LockFile) (fs : FileSystem) (e : Failure) (ending : Ending) (fs' : FileSystem) :
    Prop where
  notTaken : Lock.NotTaken lock fs e fs'
  output : ending.output = ""
  /-- What is foreseen is refused. -/
  refused : Lock.Foreseen lock.path fs → ending.exitCode = refusedCode ∧ ending.crash = none
  /-- All else comes out as it is. -/
  crashed : ¬ Lock.Foreseen lock.path fs → ending.exitCode = crashCode ∧ ending.crash = some e

variable {words : List String} {environment : List (String × String)} {process : Nat} {host : Host} {s : Settings}
  {m m' m₁ : Machine} {ending : Ending} {e : Failure} {lock : Lock.LockFile} {fs fs' : FileSystem}

/-- What is reported of a refusal does not touch the files. -/
theorem reportRefusal_files (result : Except Failure Report) (m : Machine) :
    (reportRefusal result m).2.files = m.files := by
  cases result with
  | ok r => rfl
  | error e => cases e <;> rfl

/-- What is not foreseen makes a crash. -/
theorem endingOf_of_obstacle (threshold : Severity) (h : Lock.Obstacle lock fs e fs') (he : e.ofLock = false) :
    endingOf threshold (.error e) = ⟨crashCode, "", some e, threshold⟩ := by
  cases h with
  | above h => rfl
  | denied hp h => exact nomatch he
  | nowhere hp hallowed h => rfl
  | directory hp hallowed h => rfl
  | held h htold => exact nomatch he
  | illegible h htold =>
    rcases Lock.holderIn_eq_error htold with rfl | ⟨message, rfl⟩
    · rfl
    · rfl

/-- A run that does not get its lock fails with what stands in the way. -/
theorem runWith_of_acquire_error
    (hfailed : Lock.acquire ⟨s.lockFile, process⟩ Lock.alone (started m) = (.error e, m₁)) :
    (runWith s process m).1 = endingOf (Logging.threshold s.debug) (.error e)
      ∧ (runWith s process m).2.files = m₁.files := by
  have hrun : Run.run s ⟨s.lockFile, process⟩ (started m) = (.error e, m₁) := by
    rw [Run.run_apply, hfailed]
  rw [runWith_eq, hrun]
  exact ⟨rfl, reportRefusal_files (.error e) m₁⟩

theorem thwarted_of_acquire_error (hhelp : ¬ AsksForHelp words) (hnumbered : m.files.Numbered)
    (hgiven : given? words environment host m.files = some s)
    (hfailed : Lock.acquire ⟨s.lockFile, process⟩ Lock.alone (started m) = (.error e, m₁)) :
    Thwarted ⟨s.lockFile, process⟩ m.files e (run words environment process host m).1
      (run words environment process host m).2.files := by
  have hnotTaken : Lock.NotTaken ⟨s.lockFile, process⟩ m.files e m₁.files :=
    Lock.acquire_notTaken (m := started m) hnumbered hfailed
  obtain ⟨hending, hfiles⟩ := runWith_of_acquire_error hfailed
  obtain ⟨owner, hstart, -⟩ := Option.bind_eq_some_iff.1 hgiven
  rw [run_eq hhelp hstart, hgiven]
  simp only [hending, hfiles]
  refine ⟨hnotTaken, ?_, fun hforeseen => ?_, fun hforeseen => ?_⟩
  · cases he : e.ofLock with
    | true => rw [endingOf_of_ofLock he]
    | false => rw [endingOf_of_obstacle _ hnotTaken.obstacle he]
  · rw [endingOf_of_ofLock (hnotTaken.ofLock_iff.2 hforeseen)]
    exact ⟨rfl, rfl⟩
  · have he : e.ofLock = false := Bool.eq_false_iff.2 fun h => hforeseen (hnotTaken.ofLock_iff.1 h)
    rw [endingOf_of_obstacle _ hnotTaken.obstacle he]
    exact ⟨rfl, rfl⟩

/-- **A lock that is not taken** fails with one of the failures of the lock just if what stands in the way is
foreseen; no lock is left, and no file stays open but one that makes no sense. In trees that are not foreseen it
is never taken. A command that does not get its lock is refused if it is foreseen, and crashes if not. -/
theorem unusable_lock (hnumbered : m.files.Numbered) :
    (∀ lock e m₁, Lock.acquire lock Lock.alone m = (.error e, m₁) → Lock.NotTaken lock m.files e m₁.files)
    ∧ (∀ lock : Lock.LockFile, Lock.Misshapen lock.path m.files →
        ∃ failure m₁, Lock.acquire lock Lock.alone m = (.error (.system failure), m₁))
    ∧ ∀ words environment process (host : Host) s e m₁, ¬ AsksForHelp words →
        given? words environment host m.files = some s →
        Lock.acquire ⟨s.lockFile, process⟩ Lock.alone (started m) = (.error e, m₁) →
          Thwarted ⟨s.lockFile, process⟩ m.files e (run words environment process host m).1
            (run words environment process host m).2.files :=
  ⟨fun _ _ _ => Lock.acquire_notTaken hnumbered, fun lock => Lock.Misshapen.acquire lock hnumbered,
    fun _ _ _ _ _ _ _ hhelp hgiven => thwarted_of_acquire_error hhelp hnumbered hgiven⟩

/-- A cluster of one node, on a machine that may not open any file. -/
def refusingNode : Machine :=
  { oneNode with files := { FileSystem.initial with refusal := some (some "Permission denied") } }

/-- The command is refused its lock there. -/
theorem unusable_lock_refusingNode : ∃ e,
    Thwarted ⟨.ofText "/hc.lock", 4242⟩ refusingNode.files e (run lockWords [] 4242 (.plain 0) refusingNode).1
      (run lockWords [] 4242 (.plain 0) refusingNode).2.files
    ∧ (run lockWords [] 4242 (.plain 0) refusingNode).1.exitCode = refusedCode
    ∧ e = .lockFile (.ofText "/hc.lock") "Permission denied" := by
  have hhelp : ¬ AsksForHelp lockWords := not_asksForHelp (by decide +kernel)
  have hnumbered : refusingNode.files.Numbered :=
    ⟨FileSystem.numbered_initial.entry_lt, FileSystem.numbered_initial.open_lt⟩
  have hpath : (given? lockWords [] (.plain 0) refusingNode.files).map (·.lockFile) = some (.ofText "/hc.lock") := by decide +kernel
  obtain ⟨s, hs, hpath⟩ := Option.map_eq_some_iff.1 hpath
  have hprepared : Lock.Prepared (.ofText "/hc.lock") refusingNode.files refusingNode.files := by rfl
  have hrefusal : refusingNode.files.refusal = some (some "Permission denied") := rfl
  have hobstacle : Lock.Obstacle ⟨.ofText "/hc.lock", 4242⟩ refusingNode.files _ refusingNode.files :=
    .denied hprepared hrefusal
  have hfailed := hobstacle.acquire (m := started refusingNode) hnumbered
  rw [← hpath] at hfailed
  have hthwarted := (unusable_lock hnumbered).2.2 _ _ _ _ _ _ _ hhelp hs hfailed
  rw [hpath] at hthwarted
  obtain ⟨hcode, -⟩ := hthwarted.refused (hthwarted.notTaken.ofLock_iff.1 rfl)
  exact ⟨_, hthwarted, hcode, by decide⟩

/-- Where a directory is in the place of the lock file, the command crashes. -/
theorem directory_crashes :
    Lock.Misshapen (.ofText "/") oneNode.files
      ∧ (run ["--lock-file", "/"] [] 4242 (.plain 0) oneNode).1.exitCode = 1
      ∧ (run ["--lock-file", "/"] [] 4242 (.plain 0) oneNode).1.crash = some (.system .isDirectory)
      ∧ ∃ m', Lock.acquire ⟨.ofText "/", 4242⟩ Lock.alone oneNode = (.error (.system .isDirectory), m') := by
  have hstatus : oneNode.files.status (.ofText "/") = .ok ⟨0, .directory⟩ := by rfl
  have hprepared : Lock.Prepared (.ofText "/") oneNode.files oneNode.files := by rfl
  exact ⟨.directory rfl hstatus, by decide +kernel, by decide +kernel, _,
    (Lock.Obstacle.directory hprepared rfl hstatus).acquire FileSystem.numbered_initial⟩

end ClusterHealth.Command
