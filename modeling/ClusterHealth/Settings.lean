import ClusterHealth.Settings.Source
import ClusterHealth.Validation.Record

/-!
# `ClusterHealth.Settings` — what the program is told

The coordinator and how to reach it, the keyspace and table to work with, the lock file, and whether to
report every detail. `Settings.ofSource` reads each setting by its own rule; what is not given has a
default, which no rule checks.
-/

namespace ClusterHealth

open ClusterHealth.Text ClusterHealth.Number ClusterHealth.Validation

/-- A text that must not be shown. -/
structure Secret where
  reveal : String
  deriving DecidableEq

/-- What is shown in place of a secret; of an empty one, nothing. -/
def Secret.masked (s : Secret) : String :=
  if s.reveal = "" then "" else "**********"

/-- What the program is told. -/
structure Settings where
  host : String
  portNumber : Int
  username : Option String
  password : Option Secret
  /-- In seconds, as are the two times that follow. -/
  connectTimeout : Binary64
  requestTimeout : Binary64
  traceWait : Binary64
  keyspace : String
  table : String
  lockFile : Path
  debug : Bool
  deriving DecidableEq

namespace Settings

/-! ## Rules -/

/-- An integer from 1 to 65535. -/
def portNumberRule : Rule Int := atMost 65535 (atLeast 1 integer)

/-- A secret, which is text; what is wrong with the bytes of another value is not told. -/
def secretRule : Rule Secret := fun v =>
  match Validation.text v with
  | .ok s => .ok ⟨s⟩
  | .error _ => .error .notText

/-- A text as it is folded to small letters; anything else as it stands. -/
def folded : Value → Value
  | .text s => .text (lower s)
  | v => v

/-- An identifier; given as text it may have capital letters. -/
def identifierRule : Rule String := fun v =>
  (Rule.such Validation.text isIdentifier .patternMismatch) (folded v)

/-! ## Reading -/

/-- The default lock file: a temporary file, one for each user. -/
def defaultLockFile (owner : Owner) : Path :=
  owner.temporary.join ⟨.working, ["cassandra-healthcheck-" ++ decimal owner.user ++ ".lock"]⟩

/-- A setting read by a rule, or its default. -/
def setting {α : Type} (source : Source) (field : Field) (rule : Rule α) (default : α) : Checked α :=
  .part field.name <| match source.given? field with
    | some v => rule v
    | none => .ok default

/-- A user without a password. -/
def lacksPassword (s : Settings) : Bool :=
  (s.username.getD "") != "" && s.password.isNone

/-- The settings by themselves: each read by its rule, and no argument left over. -/
def fieldsOfSource (source : Source) : Checked Settings :=
  (Except.ok Settings.mk)
    |> (Checked.withPart · (setting source .host Validation.text "localhost"))
    |> (Checked.withPart · (setting source .portNumber portNumberRule 9042))
    |> (Checked.withPart · (setting source .username (optional Validation.text) none))
    |> (Checked.withPart · (setting source .password (optional secretRule) none))
    |> (Checked.withPart · (setting source .connectTimeout (positive number) (.ofInt 2)))
    |> (Checked.withPart · (setting source .requestTimeout (positive number) (.ofInt 12)))
    |> (Checked.withPart · (setting source .traceWait (nonnegative number) (.ofInt 2)))
    |> (Checked.withPart · (setting source .keyspace identifierRule "healthcheck"))
    |> (Checked.withPart · (setting source .table identifierRule "healthcheck"))
    |> (Checked.withPart · (setting source .lockFile Validation.path (defaultLockFile source.owner)))
    |> (Checked.withPart · (setting source .debug boolean false))
    |> (Checked.withIssues · (source.unknownNames.map fun name => ⟨[name], .unknownName⟩))

/-- The settings that a source gives; a user must come with a password. -/
def ofSource (source : Source) : Checked Settings :=
  match fieldsOfSource source with
  | .ok s => if s.lacksPassword then .error [⟨[], .passwordMissing⟩] else .ok s
  | .error issues => .error issues

end Settings

end ClusterHealth
