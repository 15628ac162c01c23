import ClusterHealth.Number.Decimal
import ClusterHealth.Text.Blank
import ClusterHealth.Text.Split

/-!
# `ClusterHealth.Number.Reading` — numbers given as text

What counts as an integer or as a number in the text of a setting. Both forms are trimmed of white
space, take a sign and admit single underscores between digits; what is lenient beyond that differs.
Zeros in front of an integer are passed over with any underscores among them, while a number that is
written with underscores has to stand without white space around it.
-/

namespace ClusterHealth.Number

open ClusterHealth.Text

/-- An ASCII digit. -/
def isAsciiDigit (c : Char) : Bool :=
  '0' ≤ c && c ≤ '9'

/-- The number that ASCII digits spell. -/
def digitsValue (cs : List Char) : Nat :=
  ofDigits 10 (cs.map fun c => c.toNat - '0'.toNat)

/-- A leading sign, and what follows it. -/
def takeSign : List Char → Bool × List Char
  | '+' :: rest => (false, rest)
  | '-' :: rest => (true, rest)
  | cs => (false, cs)

/-! ## Integers -/

/-- Why a text is no integer. -/
inductive IntegerFault where
  | malformed
  | tooLong
  deriving DecidableEq, Repr

/-- The most characters of an integer that are read, its minus sign included. -/
def maxIntegerLength : Nat := 4300

/-- What follows a minus sign, if there is one. -/
def afterMinus : List Char → List Char
  | '-' :: ds => ds
  | ds => ds

/-- Whether a text opens with an integer that is too long to be read. -/
def opensTooLong (cs : List Char) : Bool :=
  let ds := (afterMinus cs).takeWhile isAsciiDigit
  ds.head? != some '0' && maxIntegerLength < (cs.length - (afterMinus cs).length) + ds.length

/-- The integer of a text in normal form: digits without a zero in front, unless it is the only one, and
perhaps a minus sign. -/
def normalInteger? (cs : List Char) : Option Int :=
  let ds := afterMinus cs
  if ds.isEmpty || !ds.all isAsciiDigit || (ds.head? == some '0' && ds != ['0'])
      || maxIntegerLength < cs.length then none
  else some (if ds = cs then digitsValue ds else -(digitsValue ds : Int))

/-- A text that opens with a zero, from the first other digit or minus sign on; the zeros may have
underscores among them. A point keeps the character before it, `last`, and so does the end. -/
def afterZeros? (last : Char) : List Char → Option (List Char)
  | [] => some [last]
  | '.' :: cs => some (last :: '.' :: cs)
  | c :: cs =>
    if c = '0' ∨ c = '_' then afterZeros? c cs
    else if isAsciiDigit c ∨ c = '-' then some (c :: cs)
    else none

/-- A text that opens with a digit, without the zeros in front. -/
def withoutZeros? : List Char → Option (List Char)
  | [] => none
  | c :: cs => if c = '0' then afterZeros? c cs else if isAsciiDigit c then some (c :: cs) else none

/-- A text without its fraction, if that has nothing but zeros. -/
def withoutFraction (cs : List Char) : List Char :=
  match cutAt '.' cs with
  | (whole, some zeros) => if !zeros.isEmpty && zeros.all (· == '0') then whole else cs
  | (_, none) => cs

/-- A text without its underscores, provided that each stands alone between two other characters. -/
def dropUnderscores? : List Char → Option (List Char)
  | '_' :: _ => none
  | [] => some []
  | c :: '_' :: d :: rest => if d = '_' then none else (dropUnderscores? (d :: rest)).map (c :: ·)
  | [_, '_'] => none
  | c :: rest => (dropUnderscores? rest).map (c :: ·)

/-- A trimmed text brought to the normal form of integers as far as that goes. -/
def normalized? (cs : List Char) : Option (List Char) := do
  let (negative, body) := takeSign cs
  let body := withoutFraction (← withoutZeros? body)
  let body ← dropUnderscores? body
  return if negative then '-' :: body else body

/-- The integer that a text spells: a sign, digits with single underscores between them, and at most a
fraction of zeros. -/
def readInteger (s : String) : Except IntegerFault Int :=
  if opensTooLong s.toList then .error .tooLong
  else
    match (normalized? (trim isWhite s.toList)).bind normalInteger? with
    | some n => .ok n
    | none => .error .malformed

/-! ## Numbers -/

/-- The value of an optional exponent: a sign and at least one digit. -/
def exponentValue? : Option (List Char) → Option Int
  | none => some 0
  | some cs =>
    let (negative, ds) := takeSign cs
    if ds.isEmpty || !ds.all isAsciiDigit then none
    else some (if negative then -(digitsValue ds : Int) else digitsValue ds)

/-- An unsigned decimal numeral: digits with at most one point among or around them, and an optional
exponent. -/
def readNumeral? (cs : List Char) : Option Numeral := do
  let (mantissa, exponent) := cutAt 'e' (cs.map Char.toLower)
  let (whole, fraction) := cutAt '.' mantissa
  let places := fraction.getD []
  guard (!(whole ++ places).isEmpty && (whole ++ places).all isAsciiDigit)
  let e ← exponentValue? exponent
  return ⟨digitsValue (whole ++ places), e - places.length⟩

/-- The number that characters spell: a decimal numeral, `inf`, `infinity` or `nan` in any case, with an
optional sign. -/
def spelledNumber? (cs : List Char) : Option Binary64 := do
  let (negative, rest) := takeSign cs
  let word := String.ofList (rest.map Char.toLower)
  if word = "inf" ∨ word = "infinity" then return .infinity negative
  if word = "nan" then return .nan
  let d ← readNumeral? rest
  return .ofDecimal negative d.coefficient d.exponent

/-- The number that a text spells, either with white space around it or with underscores within. -/
def readNumber? (s : String) : Option Binary64 :=
  (spelledNumber? (trim isWhite s.toList)).or ((dropUnderscores? s.toList).bind spelledNumber?)

end ClusterHealth.Number
