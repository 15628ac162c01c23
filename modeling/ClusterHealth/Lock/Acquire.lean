import ClusterHealth.Lock.Routine
import ClusterHealth.Text.Blank
import ClusterHealth.Text.Digit
import ClusterHealth.Text.Utf8

/-!
# `ClusterHealth.Lock.Acquire` — taking a lock file

The file is opened, made if need be, and locked. Whoever had it before may have removed it in between; a
lock on a removed file is worth nothing, so the path must still name the file that is locked. If it does
not, the lock is dropped and all starts again, three times at most. Then the file is made to hold the
number of the process. If another has the lock, its number is read from the file.
-/

namespace ClusterHealth.Lock

open ClusterHealth.Text

/-- A lock file and the process that wants it. -/
structure LockFile where
  path : Path
  process : Nat
  deriving DecidableEq, Repr

/-- How many bytes of a lock file are read. -/
def holderBytes : Nat := 32

/-- The process whose number the bytes of a lock file spell, if they are a number. Digits that have no
place value are refused. -/
def holderOf (bs : List UInt8) : Except Failure (Option Nat) :=
  match Utf8.decode? bs with
  | none => .error .undecodable
  | some s =>
    let cs := trim isBlank s.toList
    if cs.isEmpty || !cs.all isDigit then .ok none
    else
      match readDecimal? cs with
      | some n => .ok (some n)
      | none => .error (.badValue ("invalid literal for int() with base 10: " ++ quoted (String.ofList cs)))

/-- How far an attempt has come; `left` counts the attempts that remain after this one. -/
inductive Acquire where
  | opening (left : Nat)
  | locking (left : Nat) (d : Descriptor)
  | comparing (left : Nat) (d : Descriptor)
  | unlocking (left : Nat) (d : Descriptor)
  | closing (left : Nat) (d : Descriptor)
  | clearing (d : Descriptor)
  | signing (d : Descriptor)
  | asking (d : Descriptor)
  | refusing (d : Descriptor) (holder : Option Nat)
  deriving DecidableEq, Repr

namespace Acquire

/-- How many attempts are made. -/
def attempts : Nat := 3

/-- Where a routine starts. -/
def start : Acquire := .opening (attempts - 1)

/-- Why a lock file cannot be used whose opening was refused. -/
def reasonText (reason : Option String) : String :=
  if reason.getD "" = "" then "permission denied" else reason.getD ""

/-- One call. -/
def step (lock : LockFile) : Acquire → FileSystem → Progress Acquire Descriptor × FileSystem
  | .opening left, fs =>
    match fs.openOrCreate lock.path with
    | .ok (d, fs) => (.inl (.locking left d), fs)
    | .error (.denied reason) => (.inr (.error (.lockFile lock.path (reasonText reason))), fs)
    | .error e => (.inr (.error (.system e)), fs)
  | .locking left d, fs =>
    match fs.tryLock d .exclusive with
    | some fs => (.inl (.comparing left d), fs)
    | none => (.inl (.asking d), fs)
  | .comparing left d, fs =>
    match fs.names lock.path d with
    | .ok true => (.inl (.clearing d), fs)
    | .ok false => (.inl (.unlocking left d), fs)
    | .error e => (.inr (.error (.system e)), fs)
  | .unlocking left d, fs => (.inl (.closing left d), fs.unlock d)
  | .closing 0 d, fs => (.inr (.error (.alreadyRunning lock.path none)), fs.close d)
  | .closing (left + 1) d, fs => (.inl (.opening left), fs.close d)
  | .clearing d, fs => (.inl (.signing d), fs.truncate d)
  | .signing d, fs => (.inr (.ok d), fs.writeStart d (Utf8.encode (decimal lock.process)))
  | .asking d, fs =>
    match fs.readStart d holderBytes with
    | none => (.inl (.refusing d none), fs)
    | some bs =>
      match holderOf bs with
      | .ok holder => (.inl (.refusing d holder), fs)
      | .error e => (.inr (.error e), fs)
  | .refusing d holder, fs => (.inr (.error (.alreadyRunning lock.path (holder.map Int.ofNat))), fs.close d)

/-- How many calls may still follow. -/
def remaining : Acquire → Nat
  | .opening left => 5 * left + 8
  | .locking left _ => 5 * left + 7
  | .comparing left _ => 5 * left + 6
  | .unlocking left _ => 5 * left + 5
  | .closing left _ => 5 * left + 4
  | .clearing _ | .asking _ => 1
  | .signing _ | .refusing .. => 0

theorem remaining_step {lock : LockFile} {s s' : Acquire} {fs fs' : FileSystem}
    (h : step lock s fs = (.inl s', fs')) : s'.remaining < s.remaining := by
  cases s with
  | opening left => simp only [step] at h; split at h <;> grind [remaining]
  | locking left d => simp only [step] at h; split at h <;> grind [remaining]
  | comparing left d => simp only [step] at h; split at h <;> grind [remaining]
  | unlocking left d => simp only [step] at h; grind [remaining]
  | closing left d =>
    cases left with
    | zero => simp [step] at h
    | succ left => simp only [step] at h; grind [remaining]
  | clearing d => simp only [step] at h; grind [remaining]
  | signing d => simp [step] at h
  | asking d =>
    simp only [step] at h
    split at h
    · grind [remaining]
    · split at h <;> grind [remaining]
  | refusing d holder => simp [step] at h

/-- Taking a lock file, call by call. -/
def routine (lock : LockFile) : Routine Acquire Descriptor :=
  ⟨step lock, remaining, remaining_step⟩

end Acquire

end ClusterHealth.Lock
