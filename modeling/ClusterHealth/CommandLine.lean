import ClusterHealth.FileSystem.Basic
import ClusterHealth.Settings.Source

/-!
# `ClusterHealth.CommandLine` — the options of the command

Options have a long name, and some a short one. The value of an option is the rest of its word, behind
`=` for a long name, or else the whole next word, even if that looks like an option. Of an option that is
given twice the last value counts. Words that are no options are left over; the command takes none.

How a number is read from its word, and which paths are taken, is up to the option parser (`Reader`).
-/

namespace ClusterHealth.CommandLine

open ClusterHealth.Text ClusterHealth.Settings

/-- An option that takes a value. -/
inductive ValueOption where
  | host
  | portNumber
  | username
  | password
  | keyspace
  | lockFile
  deriving DecidableEq, Repr

/-- An option that takes none. -/
inductive Switch where
  | debug
  | help
  deriving DecidableEq, Repr

/-- An option by one of its names. -/
inductive Known where
  | value (o : ValueOption)
  | switch (s : Switch)
  deriving DecidableEq, Repr

/-- The setting that an option gives. -/
def ValueOption.field : ValueOption → Field
  | .host => .host
  | .portNumber => .portNumber
  | .username => .username
  | .password => .password
  | .keyspace => .keyspace
  | .lockFile => .lockFile

/-- How an option parser reads the values of options that are no texts. -/
structure Reader where
  /-- The number that a word stands for, if it is read as one. -/
  number? : String → Option Int
  /-- Whether a word is taken for a path. That may depend on what is there, and whether it may be read. -/
  takesPath : FileSystem → String → Bool

/-- The value that a word stands for, if the option takes it. -/
def ValueOption.read? (r : Reader) (fs : FileSystem) (o : ValueOption) (word : String) : Option Value :=
  match o with
  | .portNumber => (r.number? word).map .int
  | .lockFile => if r.takesPath fs word then some (.text word) else none
  | _ => some (.text word)

/-- Options by their long names. -/
def longNames : List (String × Known) :=
  [("host", .value .host), ("port", .value .portNumber), ("username", .value .username),
    ("password", .value .password), ("keyspace", .value .keyspace),
    ("lock-file", .value .lockFile), ("debug", .switch .debug), ("help", .switch .help)]

/-- Options by their short names. -/
def shortNames : List (Char × ValueOption) :=
  [('p', .portNumber), ('u', .username)]

/-- What is wrong with a command line. -/
inductive UsageFault where
  | unknownOption (name : String)
  | missingValue (name : String)
  | unexpectedValue (name : String)
  | extraWord (word : String)
  deriving DecidableEq, Repr

/-- What a command line says. -/
structure Parsed where
  /-- The values of options, the last one first. -/
  values : List (ValueOption × String)
  debug : Bool
  help : Bool
  /-- The words that are no options. -/
  words : List String
  deriving DecidableEq, Repr

namespace Parsed

/-- Nothing said. -/
def empty : Parsed := ⟨[], false, false, []⟩

/-- One more value. -/
def withValue (p : Parsed) (o : ValueOption) (s : String) : Parsed :=
  { p with values := (o, s) :: p.values }

/-- One more switch. -/
def withSwitch (p : Parsed) : Switch → Parsed
  | .debug => { p with debug := true }
  | .help => { p with help := true }

/-- The options that are given, each with the value that counts. -/
def given (p : Parsed) : List (ValueOption × String) :=
  [ValueOption.host, .portNumber, .username, .password, .keyspace, .lockFile].filterMap fun o =>
    (Pairs.get? o p.values).map (o, ·)

/-- The settings that are given as options, if every option takes its value; the switch for details is given
only if it is set. -/
def arguments? (r : Reader) (fs : FileSystem) (p : Parsed) : Option (List (String × Value)) := do
  let values ← p.given.mapM fun entry => (entry.1.read? r fs entry.2).map (entry.1.field.name, ·)
  return values ++ if p.debug then [(Field.debug.name, .bool true)] else []

end Parsed

/-- What a word says by itself. -/
inductive Word where
  /-- No options from here on. -/
  | stop
  | plain
  | set (o : ValueOption) (value : String)
  /-- An option whose value is the next word. -/
  | wantsValue (o : ValueOption)
  | turn (s : Switch)
  | bad (fault : UsageFault)
  deriving DecidableEq, Repr

/-- A word that starts with two dashes. -/
def longWord (name : String) (value : Option String) : Word :=
  match Pairs.get? name longNames, value with
  | none, _ => .bad (.unknownOption name)
  | some (.value o), some s => .set o s
  | some (.value o), none => .wantsValue o
  | some (.switch s), none => .turn s
  | some (.switch _), some _ => .bad (.unexpectedValue name)

/-- A word that starts with one dash. -/
def shortWord (c : Char) (rest : List Char) : Word :=
  match Pairs.get? c shortNames with
  | none => .bad (.unknownOption (String.singleton c))
  | some o => if rest = [] then .wantsValue o else .set o (String.ofList rest)

/-- What a word says by itself. -/
def readWord (s : String) : Word :=
  match s.toList with
  | ['-', '-'] => .stop
  | '-' :: '-' :: cs =>
    let (name, value) := cutAt '=' cs
    longWord (String.ofList name) (value.map String.ofList)
  | '-' :: c :: rest => shortWord c rest
  | _ => .plain

/-- The rest of a command line, after what was said before. -/
def parseFrom (p : Parsed) : List String → Except UsageFault Parsed
  | [] => .ok p
  | word :: rest =>
    match readWord word with
    | .stop => .ok { p with words := p.words ++ rest }
    | .plain => parseFrom { p with words := p.words ++ [word] } rest
    | .set o s => parseFrom (p.withValue o s) rest
    | .turn s => parseFrom (p.withSwitch s) rest
    | .bad fault => .error fault
    | .wantsValue o =>
      match rest with
      | [] => .error (.missingValue word)
      | value :: rest => parseFrom (p.withValue o value) rest

/-- A command line. A request for help counts even if words are left over. -/
def parse (words : List String) : Except UsageFault Parsed :=
  match parseFrom .empty words with
  | .error fault => .error fault
  | .ok p =>
    match p.help, p.words with
    | false, word :: _ => .error (.extraWord word)
    | _, _ => .ok p

end ClusterHealth.CommandLine
