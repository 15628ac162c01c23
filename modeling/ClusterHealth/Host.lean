import ClusterHealth.CommandLine
import ClusterHealth.Validation.Rule

/-!
# `ClusterHealth.Host` — where the command is started

Some things are not for the command to decide: who runs it, which directories may be used for temporary
files, and what the option parser takes for the value of an option. A host answers all of these.

Temporary files go to the first directory that can be used: among those that the environment names, then
the customary ones, then the working directory. If there is none, the command does not even start.
-/

namespace ClusterHealth

open ClusterHealth.Settings

/-- Where the command is started. -/
structure Host where
  /-- The number of the user who starts it. -/
  user : Nat
  /-- Whether a file can be made in a directory, written, and removed again. -/
  usable : FileSystem → Path → Bool
  reader : CommandLine.Reader

namespace Host

/-! ## Temporary files -/

/-- The variables that name a directory for temporary files. -/
def temporaryVariables : List String := ["TMPDIR", "TEMP", "TMP"]

/-- A variable of the environment; of several of the same name the last one counts. -/
def inEnvironment? (environment : List (String × String)) (name : String) : Option String :=
  (environment.reverse.find? fun entry => entry.1 = name).map (·.2)

/-- The directory that a text names: from the root on, unless it is the working directory by its short name. -/
def directoryOf (working : Location) (s : String) : Path :=
  if s = "." then .ofText s else (Path.ofText s).absolute working

/-- The directories where temporary files are customary. -/
def customary : List Path := [Owner.usualTemporary, ⟨.single, ["var", "tmp"]⟩, ⟨.single, ["usr", "tmp"]⟩]

/-- The directories that are tried for temporary files, in order. A variable without a text names none. -/
def candidates (working : Location) (environment : List (String × String)) : List Path :=
  ((temporaryVariables.filterMap (inEnvironment? environment)).filter (· ≠ "")).map (directoryOf working)
    ++ customary ++ [⟨.single, working⟩]

/-- Who runs the command; `none` if there is no place for temporary files. -/
def owner? (host : Host) (fs : FileSystem) (environment : List (String × String)) : Option Owner :=
  ((candidates fs.working environment).find? (host.usable fs)).map (⟨host.user, ·⟩)

/-! ## Plain hosts -/

/-- A reader that takes what the settings take, and any path. -/
def plainReader : CommandLine.Reader :=
  ⟨fun word => (Validation.integer (.text word)).toOption, fun _ _ => true⟩

/-- A host where temporary files go to the usual directory. -/
def plain (user : Nat) : Host :=
  ⟨user, fun _ p => p = Owner.usualTemporary, plainReader⟩

/-- A number alone stands for a user of a plain host. -/
instance : Coe Nat Host := ⟨plain⟩

end Host

end ClusterHealth
