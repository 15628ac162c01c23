/-!
# `ClusterHealth.Number.Binary64` — double-precision numbers, exactly

The numbers of the IEEE 754 format binary64 with their rounding to nearest, ties to even. A finite
number is a sign and a `Magnitude`, a whole number of units of `2 ^ -1074` written as
`mantissa * 2 ^ scale`. Every operation computes the exact rational result and rounds it once.

## Contents
- `Magnitude`, `Binary64`: the numbers, each with exactly one representation (NaN is one value).
- `roundRatio`, `ofRatio`: the nearest number to a quotient of natural numbers.
- `sub`, `mul`, `lt`, `truncate`, `whole?`, `bits`.
-/

namespace ClusterHealth.Number

/-- Above every mantissa: `2 ^ 53`. -/
abbrev mantissaBound : Nat := 0x20000000000000

/-- The least mantissa of 53 bits: `2 ^ 52`. -/
abbrev leastFullMantissa : Nat := 0x10000000000000

/-- The bit that marks a negative number: `2 ^ 63`. -/
abbrev signBit : Nat := 0x8000000000000000

/-- The size of a finite number, `mantissa * 2 ^ scale` units of `2 ^ -1074`. -/
structure Magnitude where
  mantissa : Nat
  scale : Nat
  mantissa_lt : mantissa < mantissaBound
  /-- Only the smallest scale admits a mantissa of fewer than 53 bits. -/
  normal : scale = 0 ∨ leastFullMantissa ≤ mantissa
  scale_le : scale ≤ 2045
  deriving DecidableEq

/-- A double-precision number. -/
inductive Binary64 where
  | nan
  | infinity (negative : Bool)
  | finite (negative : Bool) (magnitude : Magnitude)
  deriving DecidableEq

/-- The number of units of `2 ^ -1074` in one. -/
def unitsPerOne : Nat := 1 <<< 1074

/-- A size as a number of units of `2 ^ -1074`. -/
def Magnitude.units (x : Magnitude) : Nat :=
  x.mantissa <<< x.scale

/-- No units. -/
def Magnitude.zero : Magnitude :=
  ⟨0, 0, by decide, .inl rfl, by decide⟩

/-- The whole number nearest to `num / den`; of two nearest ones the even one. -/
def roundRatio (num den : Nat) : Nat :=
  let q := num / den
  let r := num % den
  if 2 * r < den then q
  else if den < 2 * r then q + 1
  else if q % 2 = 0 then q
  else q + 1

namespace Binary64

/-! ## Rounding -/

/-- The number `± mantissa * 2 ^ scale` units where that is representable, and otherwise infinity. -/
def ofParts (negative : Bool) (mantissa scale : Nat) : Binary64 :=
  if h : mantissa < mantissaBound ∧ (scale = 0 ∨ leastFullMantissa ≤ mantissa) ∧ scale ≤ 2045 then
    .finite negative ⟨mantissa, scale, h.1, h.2.1, h.2.2⟩
  else .infinity negative

/-- The number nearest to `± num / den`; beyond the largest number it is infinity. -/
def ofRatio (negative : Bool) (num den : Nat) : Binary64 :=
  let scale := (num * unitsPerOne / den).log2 - 52
  let mantissa := roundRatio (num * unitsPerOne) (den <<< scale)
  if mantissa = mantissaBound then ofParts negative leastFullMantissa (scale + 1)
  else ofParts negative mantissa scale

/-- The number nearest to an integer. -/
def ofInt (n : Int) : Binary64 :=
  ofRatio (decide (n < 0)) n.natAbs 1

/-- Positive zero. -/
def zero : Binary64 := .finite false .zero

/-! ## Views -/

/-- A finite number in units of `2 ^ -1074`. -/
def units? : Binary64 → Option Int
  | .finite negative x => some (if negative then -(x.units : Int) else x.units)
  | _ => none

/-- The integer part of a finite number, towards zero. -/
def truncate? (x : Binary64) : Option Int :=
  x.units?.map (·.tdiv unitsPerOne)

/-- A finite number without a fractional part, as an integer. -/
def whole? (x : Binary64) : Option Int :=
  x.units?.bind fun u => if u.tmod unitsPerOne = 0 then some (u.tdiv unitsPerOne) else none

/-- Neither NaN nor infinite. -/
def isFinite : Binary64 → Bool
  | .finite .. => true
  | _ => false

/-- The 64 bits of the interchange format; NaN has one pattern. -/
def bits : Binary64 → Nat
  | .nan => 0x7FF8000000000000
  | .infinity negative => (if negative then signBit else 0) + 0x7FF0000000000000
  | .finite negative x =>
    (if negative then signBit else 0)
      + if x.mantissa < leastFullMantissa then x.mantissa
        else (x.scale + 1) * leastFullMantissa + (x.mantissa - leastFullMantissa)

/-! ## Arithmetic and order -/

/-- The difference; equal numbers differ by positive zero, except that `-0 - 0` is negative zero. -/
def sub : Binary64 → Binary64 → Binary64
  | .nan, _ | _, .nan => .nan
  | .infinity a, .infinity b => if a = b then .nan else .infinity a
  | .infinity a, .finite .. => .infinity a
  | .finite .., .infinity b => .infinity (!b)
  | .finite a x, .finite b y =>
    let d : Int := (if a then -(x.units : Int) else x.units) - (if b then -(y.units : Int) else y.units)
    if d = 0 then .finite (a && !b && x.mantissa == 0) .zero
    else ofRatio (decide (d < 0)) d.natAbs unitsPerOne

/-- The product. -/
def mul : Binary64 → Binary64 → Binary64
  | .nan, _ | _, .nan => .nan
  | .infinity a, .infinity b => .infinity (a != b)
  | .infinity a, .finite b y => if y.mantissa = 0 then .nan else .infinity (a != b)
  | .finite a x, .infinity b => if x.mantissa = 0 then .nan else .infinity (a != b)
  | .finite a x, .finite b y => ofRatio (a != b) (x.units * y.units) (unitsPerOne * unitsPerOne)

/-- Less than; NaN is less than nothing. -/
def lt : Binary64 → Binary64 → Bool
  | .nan, _ | _, .nan => false
  | .infinity a, .infinity b => a && !b
  | .infinity a, .finite .. => a
  | .finite .., .infinity b => !b
  | .finite a x, .finite b y =>
    decide ((if a then -(x.units : Int) else x.units) < (if b then -(y.units : Int) else y.units))

/-- Equality of numbers: the two zeros are equal and NaN equals nothing. -/
def same : Binary64 → Binary64 → Bool
  | .nan, _ | _, .nan => false
  | .finite a x, .finite b y => decide (x = y) && (a == b || x.mantissa == 0)
  | .infinity a, .infinity b => a == b
  | _, _ => false

/-- Less than or equal; NaN compares with nothing. -/
def le (x y : Binary64) : Bool :=
  lt x y || same x y

end Binary64

end ClusterHealth.Number
