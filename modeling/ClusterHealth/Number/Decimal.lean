import ClusterHealth.Number.Binary64
import ClusterHealth.Text.Positional

/-!
# `ClusterHealth.Number.Decimal` — decimal numerals of double-precision numbers

Three ways to meet a decimal numeral: `ofDecimal` reads one, `fixed` writes a number with a given
count of decimal places, and `shortest` finds the numeral with the fewest digits that reads back as
the number. `Binary64.text` prints the latter in a `NumeralStyle`.
-/

namespace ClusterHealth.Number

open ClusterHealth.Text

/-! ## Reading -/

/-- The number nearest to `± coefficient * 10 ^ exponent`. -/
def Binary64.ofDecimal (negative : Bool) (coefficient : Nat) (exponent : Int) : Binary64 :=
  let order : Int := (decimalChars coefficient).length + exponent
  if coefficient = 0 ∨ order < -400 then .finite negative .zero
  else if 400 < order then .infinity negative
  else if 0 ≤ exponent then .ofRatio negative (coefficient * Nat.pow 10 exponent.toNat) 1
  else .ofRatio negative coefficient (Nat.pow 10 (-exponent).toNat)

/-! ## Fixed places -/

/-- Decimal digits with a point before the last `places` of them. -/
def withPoint (places n : Nat) : String :=
  if places = 0 then decimal n
  else
    let cs := padZeros (places + 1) (decimalChars n)
    let whole := cs.length - places
    String.ofList (cs.take whole ++ '.' :: cs.drop whole)

/-- A number rounded to a count of decimal places; a tie goes to the even last digit, and the sign of
a number that rounds to zero stays. -/
def Binary64.fixed (places : Nat) : Binary64 → String
  | .nan => "nan"
  | .infinity negative => if negative then "-inf" else "inf"
  | .finite negative x =>
    (if negative then "-" else "")
      ++ withPoint places (roundRatio (x.units * Nat.pow 10 places) unitsPerOne)

/-! ## The shortest numeral -/

/-- The numeral `coefficient * 10 ^ exponent`. -/
structure Numeral where
  coefficient : Nat
  exponent : Int
  deriving DecidableEq, Repr

/-- The power of ten at or below a positive quotient. -/
def decimalOrder (num den : Nat) : Int :=
  if den ≤ num then ((decimalChars (num / den)).length : Int) - 1
  else
    let places := (decimalChars (den / num)).length
    if den ≤ num * Nat.pow 10 (places - 1) then -((places : Int) - 1) else -(places : Int)

/-- The two numerals of `count` digits around a positive quotient, the nearer one first; of two that
are equally near, the one with the even last digit. -/
def neighbours (num den count : Nat) : List Numeral :=
  let exponent := decimalOrder num den - ((count : Int) - 1)
  let scaled := if 0 ≤ exponent then (num, den * Nat.pow 10 exponent.toNat)
    else (num * Nat.pow 10 (-exponent).toNat, den)
  let below := scaled.1 / scaled.2
  let rest := scaled.1 % scaled.2
  let above : Numeral :=
    if below + 1 = Nat.pow 10 count then ⟨Nat.pow 10 (count - 1), exponent + 1⟩
    else ⟨below + 1, exponent⟩
  let belowFirst := 2 * rest < scaled.2 ∨ (2 * rest = scaled.2 ∧ below % 2 = 0)
  if belowFirst then [⟨below, exponent⟩, above] else [above, ⟨below, exponent⟩]

/-- The numeral of fewest digits that reads back as a positive number, and of those the nearest;
seventeen digits always suffice. -/
def Magnitude.shortest (x : Magnitude) : Numeral :=
  let readsBack := fun d : Numeral => Binary64.ofDecimal false d.coefficient d.exponent = .finite false x
  let found := (List.range 17).findSome? fun i =>
    (neighbours x.units unitsPerOne (i + 1)).find? readsBack
  found.getD ⟨0, 0⟩

/-- How a numeral is laid out. -/
structure NumeralStyle where
  /-- The least power of ten of a first digit that is written without an exponent. -/
  least : Int
  /-- The least power of ten above which an exponent is written. -/
  limit : Int
  /-- The fewest digits of an exponent. -/
  width : Nat

/-- Numbers from `0.0001` up to below `10 ^ 16` are written without an exponent, an exponent has two
digits at least. -/
def plainStyle : NumeralStyle := ⟨-4, 16, 2⟩

/-- A numeral in a style; a whole number written without an exponent ends in `.0`. -/
def Numeral.text (style : NumeralStyle) (d : Numeral) : String :=
  let cs := decimalChars d.coefficient
  let order : Int := (cs.length : Int) - 1 + d.exponent
  if style.least ≤ order ∧ order < style.limit then
    if order < 0 then "0." ++ String.ofList (List.replicate (-order - 1).toNat '0' ++ cs)
    else
      let whole := order.toNat + 1
      let fraction := cs.drop whole
      String.ofList (cs.take whole ++ List.replicate (whole - cs.length) '0') ++ "."
        ++ if fraction.isEmpty then "0" else String.ofList fraction
  else
    let point := if cs.length = 1 then "" else "."
    let sign := if order < 0 then "-" else "+"
    String.ofList (cs.take 1) ++ point ++ String.ofList (cs.drop 1) ++ "e" ++ sign
      ++ String.ofList (padZeros style.width (decimalChars order.natAbs))

/-- A number as the shortest numeral that reads back. -/
def Binary64.text : Binary64 → String
  | .nan => "nan"
  | .infinity negative => if negative then "-inf" else "inf"
  | .finite negative x =>
    (if negative then "-" else "")
      ++ if x.mantissa = 0 then "0.0" else x.shortest.text plainStyle

end ClusterHealth.Number
