import ClusterHealth.Lock.Acquire
import ClusterHealth.Lock.Ask
import ClusterHealth.Lock.Release
import ClusterHealth.Proofs.FileSystem
import Mathlib.Logic.Function.Basic
import Mathlib.Logic.Relation

/-!
# `ClusterHealth.Proofs.Lock.Processes` — many processes at one lock file

Any number of processes take a lock file, give it back and ask whether it is held. Each of them goes
through the calls of `Acquire.step`, `Release.step` and `Ask.step` one by one, and between two calls of
one process any others may come. A process may die at any point, which closes all that it has open.

## Contents
- `Process`: the call that a process is in, the locks that it was given, and what it may have left open.
- `System.Step`: one call of one process, the start of a routine, or a death.
- `Process.Owns`: from the successful comparison of `Acquire` to the start of `Release`.
-/

namespace ClusterHealth.Lock

/-! ## Descriptors of routines -/

/-- The descriptor that an attempt to take a lock has open. -/
def Acquire.descriptor? : Acquire → Option Descriptor
  | .opening _ => none
  | .locking _ d | .comparing _ d | .unlocking _ d | .closing _ d => some d
  | .clearing d | .signing d | .asking d | .refusing d _ => some d

/-- The descriptor that is given back. -/
def Release.descriptor : Release → Descriptor
  | .comparing d | .removing d | .unlocking d _ | .closing d _ => d

/-- The descriptor that a question has open. -/
def Ask.descriptor? : Ask → Option Descriptor
  | .opening => none
  | .locking d | .unlocking d | .closing d _ => some d

/-! ## Processes -/

/-- The routine that a process is in. -/
inductive Activity where
  | idle
  | acquiring (stage : Acquire)
  | releasing (stage : Release)
  | asking (stage : Ask)
  deriving DecidableEq, Repr

/-- The descriptor that the routine works on. -/
def Activity.descriptor? : Activity → Option Descriptor
  | .idle => none
  | .acquiring stage => stage.descriptor?
  | .releasing stage => some stage.descriptor
  | .asking stage => stage.descriptor?

/-- A process that uses the lock file. -/
structure Process where
  activity : Activity
  /-- The descriptors of the locks that it was given and has not begun to give back. -/
  held : List Descriptor
  /-- Descriptors that routines which failed may have left open. -/
  stray : List Descriptor
  deriving DecidableEq, Repr

namespace Process

/-- A process that has nothing open. -/
def fresh : Process := ⟨.idle, [], []⟩

/-- Everything that a process may have open. -/
def descriptors (p : Process) : List Descriptor :=
  p.activity.descriptor?.toList ++ (p.held ++ p.stray)

/-- A process has the lock of a descriptor from the comparison in `Acquire` that succeeds until it begins
to give it back. -/
def Owns (p : Process) (d : Descriptor) : Prop :=
  d ∈ p.held ∨ p.activity = .acquiring (.clearing d) ∨ p.activity = .acquiring (.signing d)

/-- A process has an inode locked alone, through whichever descriptor. -/
def HasAlone (p : Process) (fs : FileSystem) (i : Inode) : Prop :=
  ∃ d ∈ p.descriptors, fs.openFile? d = some ⟨i, some .exclusive⟩

end Process

/-! ## Systems -/

/-- The number of a process. -/
abbrev ProcessId := Nat

/-- The file system and all processes. -/
structure System where
  files : FileSystem
  processes : ProcessId → Process

namespace System

/-- A file system in which no process has begun. -/
def start (fs : FileSystem) : System := ⟨fs, fun _ => .fresh⟩

/-- A process changed, and perhaps the files. -/
def put (S : System) (n : ProcessId) (p : Process) (fs : FileSystem) : System :=
  ⟨fs, Function.update S.processes n p⟩

@[simp] theorem processes_put_self {S : System} {n : ProcessId} {p : Process} {fs : FileSystem} :
    (S.put n p fs).processes n = p := by
  unfold put
  exact Function.update_self n p S.processes

theorem processes_put_ne {S : System} {n m : ProcessId} {p : Process} {fs : FileSystem} (h : m ≠ n) :
    (S.put n p fs).processes m = S.processes m := by
  unfold put
  exact Function.update_of_ne h p S.processes

/-- What holds of the process that was changed, and of all others as they were, holds of all processes. -/
theorem forall_put {S : System} {n : ProcessId} {p : Process} {fs : FileSystem}
    {P : ProcessId → Process → Prop} (hself : P n p) (hother : ∀ m, m ≠ n → P m (S.processes m)) :
    ∀ m, P m ((S.put n p fs).processes m) := by
  intro m
  by_cases hm : m = n
  · rw [hm, processes_put_self]
    exact hself
  · rw [processes_put_ne hm]
    exact hother m hm

/-- One thing that happens to the process of a number: it begins a routine, makes the next call of the one
that it is in, or dies. A routine ends with its last call. -/
inductive Step (path : Path) (n : ProcessId) : System → System → Prop where
  | beginAcquire {S : System} (idle : (S.processes n).activity = .idle) :
      Step path n S (S.put n { S.processes n with activity := .acquiring .start } S.files)
  | beginRelease {S : System} {d : Descriptor} (idle : (S.processes n).activity = .idle)
      (has : d ∈ (S.processes n).held) :
      Step path n S (S.put n
        { S.processes n with
          activity := .releasing (.comparing d), held := (S.processes n).held.erase d } S.files)
  | beginAsk {S : System} (idle : (S.processes n).activity = .idle) :
      Step path n S (S.put n { S.processes n with activity := .asking .opening } S.files)
  | acquire {S : System} {s s' : Acquire} {fs : FileSystem}
      (busy : (S.processes n).activity = .acquiring s)
      (call : Acquire.step ⟨path, n⟩ s S.files = (.inl s', fs)) :
      Step path n S (S.put n { S.processes n with activity := .acquiring s' } fs)
  | acquired {S : System} {s : Acquire} {d : Descriptor} {fs : FileSystem}
      (busy : (S.processes n).activity = .acquiring s)
      (call : Acquire.step ⟨path, n⟩ s S.files = (.inr (.ok d), fs)) :
      Step path n S (S.put n
        { S.processes n with activity := .idle, held := d :: (S.processes n).held } fs)
  | notAcquired {S : System} {s : Acquire} {e : Failure} {fs : FileSystem}
      (busy : (S.processes n).activity = .acquiring s)
      (call : Acquire.step ⟨path, n⟩ s S.files = (.inr (.error e), fs)) :
      Step path n S (S.put n
        { S.processes n with
          activity := .idle, stray := s.descriptor?.toList ++ (S.processes n).stray } fs)
  | release {S : System} {s s' : Release} {fs : FileSystem}
      (busy : (S.processes n).activity = .releasing s)
      (call : Release.step path s S.files = (.inl s', fs)) :
      Step path n S (S.put n { S.processes n with activity := .releasing s' } fs)
  | released {S : System} {s : Release} {result : Except Failure Unit} {fs : FileSystem}
      (busy : (S.processes n).activity = .releasing s)
      (call : Release.step path s S.files = (.inr result, fs)) :
      Step path n S (S.put n { S.processes n with activity := .idle } fs)
  | ask {S : System} {s s' : Ask} {fs : FileSystem}
      (busy : (S.processes n).activity = .asking s)
      (call : Ask.step path s S.files = (.inl s', fs)) :
      Step path n S (S.put n { S.processes n with activity := .asking s' } fs)
  | answered {S : System} {s : Ask} {result : Except Failure Bool} {fs : FileSystem}
      (busy : (S.processes n).activity = .asking s)
      (call : Ask.step path s S.files = (.inr result, fs)) :
      Step path n S (S.put n
        { S.processes n with
          activity := .idle, stray := s.descriptor?.toList ++ (S.processes n).stray } fs)
  | die {S : System} :
      Step path n S (S.put n .fresh (S.files.closeAll (S.processes n).descriptors))

/-- The next call of a process that takes the lock, after which it goes on. -/
theorem Step.acquire_fst {path : Path} {n : ProcessId} {S : System} {s : Acquire} (s' : Acquire)
    (busy : (S.processes n).activity = .acquiring s)
    (call : (Acquire.step ⟨path, n⟩ s S.files).1 = .inl s') :
    Step path n S (S.put n { S.processes n with activity := .acquiring s' }
      (Acquire.step ⟨path, n⟩ s S.files).2) :=
  .acquire busy (Prod.ext call rfl)

/-- The next call of a process that asks, after which it goes on. -/
theorem Step.ask_fst {path : Path} {n : ProcessId} {S : System} {s : Ask} (s' : Ask)
    (busy : (S.processes n).activity = .asking s) (call : (Ask.step path s S.files).1 = .inl s') :
    Step path n S (S.put n { S.processes n with activity := .asking s' } (Ask.step path s S.files).2) :=
  .ask busy (Prod.ext call rfl)

/-- What can come of a system by any number of steps of any processes. -/
abbrev Reachable (path : Path) : System → System → Prop :=
  Relation.ReflTransGen fun S S' => ∃ n, Step path n S S'

end System

end ClusterHealth.Lock
