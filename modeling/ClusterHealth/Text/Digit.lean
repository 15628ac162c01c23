import ClusterHealth.Text.Case
import ClusterHealth.Text.DigitTable

/-!
# `ClusterHealth.Text.Digit` — digits of all scripts

`decimalValue?` reads a decimal digit of any script, `isDigit` also accepts the digits outside
positional notation (`²`, `①`), which have no such value.
-/

namespace ClusterHealth.Text

/-- The value of a decimal digit, in whatever script it is written. -/
def decimalValue? (c : Char) : Option Nat :=
  (decimalZeros.find? fun start => start ≤ c.toNat && c.toNat < start + 10).map (c.toNat - ·)

/-- A decimal digit of some script. -/
def isDecimal (c : Char) : Bool :=
  (decimalValue? c).isSome

/-- A digit of some script, decimal or not. -/
def isDigit (c : Char) : Bool :=
  isDecimal c || inRanges specialDigitRanges c

/-- The number that decimal digits spell; `none` if some character is no decimal digit. -/
def readDecimal? (cs : List Char) : Option Nat :=
  cs.foldlM (fun n c => (decimalValue? c).map (10 * n + ·)) 0

end ClusterHealth.Text
