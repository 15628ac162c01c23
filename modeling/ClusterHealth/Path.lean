import ClusterHealth.Text.Split

/-!
# `ClusterHealth.Path` — names of files

A path is where it starts and the names on the way. Reading a path drops empty parts and `.` parts and
keeps `..`; of the slashes in front, exactly two are kept as two and any other number counts as one.
-/

namespace ClusterHealth

open ClusterHealth.Text

/-- Where a path starts. -/
inductive Path.Root where
  | working
  | single
  | double
  deriving DecidableEq, Repr

/-- A path in normal form. -/
structure Path where
  root : Path.Root
  parts : List String
  deriving DecidableEq, Repr

namespace Path

/-- What stands in front of the first name. -/
def Root.text : Root → String
  | .working => ""
  | .single => "/"
  | .double => "//"

/-- Where a text with so many slashes in front starts. -/
def Root.ofSlashes : Nat → Root
  | 0 => .working
  | 2 => .double
  | _ => .single

/-- The path that a text denotes. -/
def ofText (s : String) : Path :=
  let cs := s.toList
  let names := (splitOn '/' cs).filter fun part => part != [] && part != ['.']
  ⟨.ofSlashes (cs.takeWhile (· == '/')).length, names.map String.ofList⟩

/-- A path as text; the path without a name is a point. -/
def text (p : Path) : String :=
  if p.root = .working ∧ p.parts = [] then "."
  else p.root.text ++ String.intercalate "/" p.parts

/-- The path without its last name; a path without names is its own parent. -/
def parent (p : Path) : Path :=
  ⟨p.root, p.parts.dropLast⟩

/-- Whether the last name of a path leads to the directory above. -/
def endsUpwards (p : Path) : Bool :=
  p.parts.getLast? = some ".."

/-- A path from the root on, where relative paths start at the given names. A `..` takes back the name before
it, whatever that stands for. -/
def absolute (working : List String) (p : Path) : Path :=
  let names := if p.root = .working then working ++ p.parts else p.parts
  ⟨if p.root = .working then .single else p.root,
    names.foldl (fun above name => if name = ".." then above.dropLast else above ++ [name]) []⟩

/-- A path continued by another, unless that one starts anew. -/
def join (p q : Path) : Path :=
  if q.root = .working then ⟨p.root, p.parts ++ q.parts⟩ else q

end Path

end ClusterHealth
