import ClusterHealth.Text.Positional

/-!
# `ClusterHealth.Text.Template` — texts with places for values

In a template a percent sign opens a place for a value. What follows says how the value is written: its
name in parentheses if it has one, flags, a width, a precision, a letter of size that means nothing, and
the letter of a conversion. Two percent signs stand for one.

## Contents
- `Place`, `Piece`, `pieces`: a template taken apart, from left to right.
- `Field`, `Flags.lay`: a written value, and how it is brought to its width.
-/

namespace ClusterHealth.Text.Template

/-! ## Places -/

/-- How wide or how precise a place is. -/
inductive Extent where
  | unsaid
  | said (n : Nat)
  /-- The next value says. -/
  | asked
  deriving DecidableEq, Repr

/-- How a value is laid out in its place. -/
structure Flags where
  /-- To the left of its place. -/
  left : Bool
  /-- With a sign even if it is not negative. -/
  plus : Bool
  /-- With a blank where a plus sign could stand. -/
  blank : Bool
  /-- In a form that tells its base, or keeps its point. -/
  alternate : Bool
  /-- Filled up with zeros. -/
  zeros : Bool
  deriving DecidableEq, Repr

/-- A place for a value. -/
structure Place where
  name : Option String
  flags : Flags
  width : Extent
  precision : Extent
  /-- The letter of the conversion and where it stands in the template, unless that ends before. -/
  conversion : Option (Char × Nat)
  deriving DecidableEq, Repr

/-- A part of a template. -/
inductive Piece where
  | plain (c : Char)
  | place (p : Place)
  /-- A place with a name that does not end. -/
  | openName
  deriving DecidableEq, Repr

/-- A character that is a flag. -/
def isFlag (c : Char) : Bool :=
  c == '-' || c == '+' || c == ' ' || c == '#' || c == '0'

/-- The flags among some characters. -/
def Flags.ofChars (cs : List Char) : Flags :=
  ⟨cs.contains '-', cs.contains '+', cs.contains ' ', cs.contains '#', cs.contains '0'⟩

/-- A name up to the parenthesis that closes it, and what follows; within it parentheses come in pairs, of
which `depth` are open. -/
def takeName? (depth : Nat) : List Char → Option (List Char × List Char)
  | [] => none
  | c :: cs =>
    if c = ')' ∧ depth = 0 then some ([], cs)
    else
      let depth := if c = ')' then depth - 1 else if c = '(' then depth + 1 else depth
      (takeName? depth cs).map fun (name, rest) => (c :: name, rest)

/-- An extent, and what follows. -/
def takeExtent (cs : List Char) : Extent × List Char :=
  match cs with
  | '*' :: rest => (.asked, rest)
  | _ =>
    let ds := cs.takeWhile Char.isDigit
    (if ds.isEmpty then .unsaid else .said (ofDigits 10 (ds.map fun c => c.toNat - '0'.toNat)),
      cs.dropWhile Char.isDigit)

/-- A precision, and what follows; a point without a number asks for no places. -/
def takePrecision (cs : List Char) : Extent × List Char :=
  match cs with
  | '.' :: rest =>
    match takeExtent rest with
    | (.unsaid, rest) => (.said 0, rest)
    | (extent, rest) => (extent, rest)
  | _ => (.unsaid, cs)

/-- What follows a letter of size, if there is one. -/
def dropSize (cs : List Char) : List Char :=
  match cs with
  | c :: rest => if c = 'h' ∨ c = 'l' ∨ c = 'L' then rest else cs
  | [] => []

/-- A place from its flags on, and what follows it in a template of `total` characters. -/
def takePlace (total : Nat) (name : Option String) (cs : List Char) : Place × List Char :=
  let flags := Flags.ofChars (cs.takeWhile isFlag)
  let (width, cs) := takeExtent (cs.dropWhile isFlag)
  let (precision, cs) := takePrecision cs
  match dropSize cs with
  | [] => (⟨name, flags, width, precision, none⟩, [])
  | c :: rest => (⟨name, flags, width, precision, some (c, total - (rest.length + 1))⟩, rest)

/-! ## What is left gets shorter -/

theorem length_takeName? {depth : Nat} {cs name rest : List Char}
    (h : takeName? depth cs = some (name, rest)) : rest.length ≤ cs.length := by
  induction cs generalizing depth name rest with
  | nil => simp [takeName?] at h
  | cons c cs ih =>
    simp only [takeName?] at h
    split at h
    · simp_all
    · obtain ⟨⟨name', rest'⟩, h', he⟩ := Option.map_eq_some_iff.1 h
      have := ih h'
      grind

theorem length_dropWhile_le (p : Char → Bool) (cs : List Char) : (cs.dropWhile p).length ≤ cs.length :=
  (List.dropWhile_suffix p).length_le

theorem length_takeExtent (cs : List Char) : (takeExtent cs).2.length ≤ cs.length := by
  unfold takeExtent
  split
  · simp
  · exact length_dropWhile_le Char.isDigit cs

theorem length_takePrecision (cs : List Char) : (takePrecision cs).2.length ≤ cs.length := by
  unfold takePrecision
  split
  · next rest =>
    have := length_takeExtent rest
    grind
  · simp

theorem length_dropSize (cs : List Char) : (dropSize cs).length ≤ cs.length := by
  unfold dropSize
  split
  · split <;> simp
  · simp

theorem length_takePlace (total : Nat) (name : Option String) (cs : List Char) :
    (takePlace total name cs).2.length ≤ cs.length := by
  have h1 := length_dropWhile_le isFlag cs
  have h2 := length_takeExtent (cs.dropWhile isFlag)
  have h3 := length_takePrecision (takeExtent (cs.dropWhile isFlag)).2
  have h4 := length_dropSize (takePrecision (takeExtent (cs.dropWhile isFlag)).2).2
  grind [takePlace]

/-! ## Templates -/

/-- The pieces of what is left of a template of `total` characters. After a name that does not end
nothing is read. -/
def piecesOf (total : Nat) : List Char → List Piece
  | [] => []
  | '%' :: '%' :: cs => .plain '%' :: piecesOf total cs
  | '%' :: '(' :: cs =>
    match h : takeName? 0 cs with
    | none => [.openName]
    | some (name, rest) =>
      have := length_takeName? h
      have := length_takePlace total (some (String.ofList name)) rest
      .place (takePlace total (some (String.ofList name)) rest).1
        :: piecesOf total (takePlace total (some (String.ofList name)) rest).2
  | '%' :: cs =>
    have := length_takePlace total none cs
    .place (takePlace total none cs).1 :: piecesOf total (takePlace total none cs).2
  | c :: cs => .plain c :: piecesOf total cs
termination_by cs => cs.length

/-- The pieces of a template. -/
def pieces (s : String) : List Piece :=
  piecesOf s.length s.toList

/-! ## Fields -/

/-- A written value: only a number has a sign, and zeros may fill only its place. -/
structure Field where
  numeric : Bool
  negative : Bool
  /-- What tells the base of a number. -/
  mark : String
  body : String
  deriving DecidableEq, Repr

/-- A written value that is no number. -/
def Field.ofText (s : String) : Field := ⟨false, false, "", s⟩

/-- The sign of a written value. -/
def Flags.sign (f : Flags) (field : Field) : String :=
  if !field.numeric then ""
  else if field.negative then "-"
  else if f.plus then "+"
  else if f.blank then " "
  else ""

/-- A written value brought to a width. -/
def Flags.lay (f : Flags) (width : Nat) (field : Field) : String :=
  let front := f.sign field ++ field.mark
  let fill := fun c => String.ofList (List.replicate (width - (front ++ field.body).length) c)
  if f.left then front ++ field.body ++ fill ' '
  else if f.zeros && field.numeric then front ++ fill '0' ++ field.body
  else fill ' ' ++ front ++ field.body

end ClusterHealth.Text.Template
