import ClusterHealth.Number.Decimal

/-!
# `ClusterHealth.Number.Precision` — numerals of a wanted precision

A number is rounded once, from its exact value, to the digits that are wanted. In the `fixed` form these
are the decimal places, in the `scientific` form the places behind the first digit, and in the `compact`
form all digits: that form is written without an exponent where the first digit stands between the fourth
place and the last digit wanted, and drops the zeros at its end.
-/

namespace ClusterHealth.Number

open ClusterHealth.Text

/-- How a numeral of a wanted precision is written. -/
inductive NumeralForm where
  | fixed
  | scientific
  | compact
  deriving DecidableEq, Repr

/-- A quotient rounded to `count` digits, and the power of ten of the first one. -/
def significant (num den count : Nat) : Nat × Int :=
  if num = 0 then (0, 0)
  else
    let order := decimalOrder num den
    let exponent := order - ((count : Int) - 1)
    let rounded :=
      if 0 ≤ exponent then roundRatio num (den * Nat.pow 10 exponent.toNat)
      else roundRatio (num * Nat.pow 10 (-exponent).toNat) den
    if rounded = Nat.pow 10 count then (Nat.pow 10 (count - 1), order + 1) else (rounded, order)

/-- A power of ten behind a numeral: a sign and at least two digits. -/
def exponentText (order : Int) : String :=
  "e" ++ (if order < 0 then "-" else "+")
    ++ String.ofList (padZeros plainStyle.width (decimalChars order.natAbs))

/-- Digits with a point before the last `places` of them; if `pointed`, also before none. -/
def pointedDigits (pointed : Bool) (places n : Nat) : String :=
  withPoint places n ++ if pointed && places == 0 then "." else ""

/-- A numeral with a point in it, without the zeros at its end; the point goes with the last place. -/
def withoutEndZeros (s : String) : String :=
  let cs := s.toList.reverse.dropWhile (· == '0')
  String.ofList ((if cs.head? = some '.' then cs.drop 1 else cs).reverse)

/-- A quotient in a form with a precision. A `pointed` numeral always has a point, and keeps its zeros. -/
def quotientText (form : NumeralForm) (pointed : Bool) (precision num den : Nat) : String :=
  match form with
  | .fixed => pointedDigits pointed precision (roundRatio (num * Nat.pow 10 precision) den)
  | .scientific =>
    let (rounded, order) := significant num den (precision + 1)
    pointedDigits pointed precision rounded ++ exponentText order
  | .compact =>
    let count := max 1 precision
    let (rounded, order) := significant num den count
    let short := fun places =>
      if pointed || places == 0 then pointedDigits pointed places rounded
      else withoutEndZeros (pointedDigits pointed places rounded)
    if plainStyle.least ≤ order ∧ order < count then short ((count : Int) - 1 - order).toNat
    else short (count - 1) ++ exponentText order

/-- A number without its sign, in a form with a precision; one that is not finite by its name. -/
def Binary64.unsignedText (form : NumeralForm) (pointed : Bool) (precision : Nat) : Binary64 → String
  | .nan => "nan"
  | .infinity _ => "inf"
  | .finite _ x => quotientText form pointed precision x.units unitsPerOne

/-- Whether a number has a minus sign. -/
def Binary64.isNegative : Binary64 → Bool
  | .nan => false
  | .infinity negative => negative
  | .finite negative _ => negative

end ClusterHealth.Number
