import ClusterHealth.Number.Precision
import ClusterHealth.Pairs
import ClusterHealth.Text.Template
import ClusterHealth.Value

/-!
# `ClusterHealth.Logging.Message` — messages with values in them

A message of the log is a template and its values. Each place takes the next value and writes it by its
conversion; a place with a name takes the value of that name, if a map is the only value given. There must
be as many values as places want, unless they have names. A message without values stands as it is.

## Contents
- `Conversion`, `Conversion.write`: how a value is written.
- `Supply`: the values that are still to be placed.
- `messageText`: a message with its values.
-/

namespace ClusterHealth.Logging

open ClusterHealth.Text ClusterHealth.Text.Template ClusterHealth.Number

/-- Why a message cannot be written. -/
inductive Fault where
  /-- A value is not of the kind that its place wants. -/
  | unsuited
  | tooFewValues
  | valuesLeft
  /-- A place has a name and the values have none. -/
  | noNames
  | unknownName (name : String)
  | openName
  | incomplete
  | unknownConversion (letter : Char) (position : Nat)
  | hugeWidth
  | hugePrecision
  /-- The value that says the width, or the precision, is beyond all bounds. -/
  | boundlessWidth
  | boundlessPrecision
  /-- More digits are wanted of an integer than it can be given. -/
  | tooPrecise
  /-- The message does not fit the memory. -/
  | outOfMemory
  | notANumber
  | infinite
  | hugeInteger
  | noCharacter
  deriving DecidableEq, Repr

namespace Fault

/-- A character of ASCII by itself, any other one as a question mark. -/
def shownLetter (c : Char) : Char :=
  if 31 ≤ c.toNat ∧ c.toNat ≤ 126 then c else '?'

/-- What is said about a fault. -/
def text : Fault → String
  | .unsuited | .tooFewValues | .valuesLeft | .noNames | .outOfMemory => ""
  | .boundlessWidth => "width out of range"
  | .boundlessPrecision => "precision out of range"
  | .unknownName name => Text.quoted name
  | .openName => "incomplete format key"
  | .incomplete => "incomplete format"
  | .unknownConversion c position =>
    "unsupported format character '" ++ String.singleton (shownLetter c) ++ "' (0x"
      ++ String.ofList (hexChars c.toNat) ++ ") at index " ++ Text.decimal position
  | .hugeWidth => "width too big"
  | .hugePrecision => "precision too big"
  | .tooPrecise => "precision too large"
  | .notANumber => "cannot convert float NaN to integer"
  | .infinite => "cannot convert float infinity to integer"
  | .hugeInteger => "int too large to convert to float"
  | .noCharacter => "%c arg not in range(0x110000)"

end Fault

/-! ## Conversions -/

/-- A way to write a value. -/
inductive Conversion where
  | display
  | quoted
  /-- Quoted, with nothing but ASCII. -/
  | escaped
  | decimal
  | octal
  | hexadecimal (capital : Bool)
  | character
  | numeral (form : NumeralForm) (capital : Bool)
  deriving DecidableEq, Repr

namespace Conversion

/-- Conversions by their letters. -/
def letters : List (Char × Conversion) :=
  [('s', .display), ('r', .quoted), ('a', .escaped), ('d', .decimal), ('i', .decimal), ('u', .decimal),
    ('o', .octal), ('x', .hexadecimal false), ('X', .hexadecimal true), ('c', .character),
    ('e', .numeral .scientific false), ('E', .numeral .scientific true),
    ('f', .numeral .fixed false), ('F', .numeral .fixed true),
    ('g', .numeral .compact false), ('G', .numeral .compact true)]

/-- A text in capital letters, if wanted. -/
def capitalized (capital : Bool) (s : String) : String :=
  if capital then String.ofList (s.toList.map Char.toUpper) else s

/-- An integer that a value is. -/
def exactInteger : Value → Except Fault Int
  | .int n => .ok n
  | .bool b => .ok (if b then 1 else 0)
  | _ => .error .unsuited

/-- The integer that a value stands for: the whole part of a number, the number of an address. -/
def wholePart : Value → Except Fault Int
  | .float .nan => .error .notANumber
  | .float (.infinity _) => .error .infinite
  | .float x => .ok (x.truncate?.getD 0)
  | .address a => .ok a.toNat
  | v => exactInteger v

/-- The number that a value is, or that is nearest to it. -/
def nearestNumber : Value → Except Fault Binary64
  | .float x => .ok x
  | v => do
    let x := Binary64.ofInt (← exactInteger v)
    if x.isFinite then return x else throw .hugeInteger

/-- The one character that a value is, or has the number of. -/
def oneCharacter : Value → Except Fault Char
  | .text s =>
    match s.toList with
    | [c] => .ok c
    | _ => .error .unsuited
  | v => do
    let n ← exactInteger v
    if 0 ≤ n ∧ n < 0x110000 then return Char.ofNat n.toNat else throw .noCharacter

/-- The most digits that may be wanted of an integer. -/
def maxDigits : Nat := 2147483644

/-- An integer in a base, with at least as many digits as the precision says. -/
def writeInteger (base : Nat) (mark : String) (capital : Bool) (precision : Option Nat) (n : Int) :
    Except Fault Field :=
  let count := precision.getD 1
  if maxDigits < count then .error .tooPrecise
  else
    let body := String.ofList (padZeros count ((digits base n.natAbs).map digitChar))
    .ok ⟨true, decide (n < 0), capitalized capital mark, capitalized capital body⟩

/-- A text cut to as many characters as the precision says. -/
def writeText (precision : Option Nat) (s : String) : Field :=
  .ofText (match precision with
    | some count => String.ofList (s.toList.take count)
    | none => s)

/-- A quoted text in which all beyond ASCII is written by its number. -/
def inAscii (s : String) : String :=
  String.ofList (s.toList.flatMap fun c => if c.toNat < 0x80 then [c] else numbered c)

/-- A value written by a conversion; numbers have six places if the precision is not said. -/
def write (c : Conversion) (alternate : Bool) (precision : Option Nat) (v : Value) : Except Fault Field :=
  let mark := fun s => if alternate then s else ""
  match c with
  | .display => .ok (writeText precision v.display)
  | .quoted => .ok (writeText precision v.quoted)
  | .escaped => .ok (writeText precision (inAscii v.quoted))
  | .decimal => do writeInteger 10 "" false precision (← wholePart v)
  | .octal => do writeInteger 8 (mark "0o") false precision (← exactInteger v)
  | .hexadecimal capital => do writeInteger 16 (mark "0x") capital precision (← exactInteger v)
  | .character => return .ofText (String.singleton (← oneCharacter v))
  | .numeral form capital => do
    let x ← nearestNumber v
    return ⟨true, x.isNegative, "", capitalized capital (x.unsignedText form alternate (precision.getD 6))⟩

end Conversion

/-! ## Values on hand -/

/-- The values that are still to be placed, and those that have names. -/
structure Supply where
  waiting : List Value
  named : Option (List (String × Value))

namespace Supply

/-- The values of a message; a map that is not empty gives names, if it is alone. -/
def ofValues : List Value → Supply
  | [.map (entry :: entries)] => ⟨[.map (entry :: entries)], some (entry :: entries)⟩
  | values => ⟨values, none⟩

/-- The next value. -/
def take (s : Supply) : Except Fault (Value × Supply) :=
  match s.waiting with
  | [] => .error .tooFewValues
  | v :: rest => .ok (v, { s with waiting := rest })

/-- The value of a name comes next, and no other. -/
def select (s : Supply) (name : String) : Except Fault Supply :=
  match s.named with
  | none => .error .noNames
  | some entries =>
    match Pairs.get? name entries with
    | none => .error (.unknownName name)
    | some v => .ok { s with waiting := [v] }

/-- An extent, at most `greatest`; `huge` tells that it says more, `boundless` that its value is no number
of the machine. -/
def extent (s : Supply) (greatest : Nat) (huge boundless : Fault) :
    Extent → Except Fault (Option Int × Supply)
  | .unsaid => .ok (none, s)
  | .said n => if greatest < n then .error huge else .ok (some n, s)
  | .asked => do
    let (v, s) ← s.take
    let n ← Conversion.exactInteger v
    if n < -(greatest : Int) - 1 ∨ (greatest : Int) < n then throw boundless
    return (some n, s)

end Supply

/-! ## Messages -/

/-- The greatest width that can be said. -/
def maxWidth : Nat := 9223372036854775807

/-- The greatest precision that can be said. -/
def maxPrecision : Nat := 2147483647

/-- The greatest width that fits the memory. -/
def memoryWidth : Nat := 0x10000000000

/-- A value in its place. A negative width puts it to the left. -/
def fillPlace (p : Place) (s : Supply) : Except Fault (String × Supply) := do
  let s ← match p.name with
    | some name => s.select name
    | none => pure s
  let (width, s) ← s.extent maxWidth .hugeWidth .boundlessWidth p.width
  let (precision, s) ← s.extent maxPrecision .hugePrecision .boundlessPrecision p.precision
  match p.conversion with
  | none => throw .incomplete
  | some (letter, position) =>
    let (v, s) ← s.take
    match Pairs.get? letter Conversion.letters with
    | none => throw (.unknownConversion letter position)
    | some c =>
      let flags := { p.flags with left := p.flags.left || decide (width.getD 0 < 0) }
      let field ← c.write flags.alternate (precision.map Int.toNat) v
      if memoryWidth < (width.getD 0).natAbs then throw .outOfMemory
      return (flags.lay (width.getD 0).natAbs field, s)

/-- The pieces of a template filled from left to right. -/
def fill : List Piece → Supply → Except Fault String
  | [], s => if s.named.isNone && !s.waiting.isEmpty then .error .valuesLeft else .ok ""
  | .plain c :: rest, s => do return String.singleton c ++ (← fill rest s)
  | .openName :: _, s => .error (if s.named.isNone then .noNames else .openName)
  | .place p :: rest, s => do
    let (text, s) ← fillPlace p s
    return text ++ (← fill rest s)

/-- The text of a message; without values it stands as it is. -/
def messageText (message : String) (values : List Value) : Except Fault String :=
  if values.isEmpty then .ok message else fill (pieces message) (.ofValues values)

end ClusterHealth.Logging
