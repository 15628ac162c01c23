/-!
# `ClusterHealth.Text.Positional` — numbers in positional notation

`digits` writes a number in a base, most significant digit first, and `ofDigits` reads it back
(`ofDigits_digits`). `decimal` and `hex` are the texts in base ten and sixteen, with the small letters.
-/

namespace ClusterHealth.Text

/-- The digits of `n`, most significant first; zero has one digit. -/
def digits (base n : Nat) : List Nat :=
  if h : base < 2 ∨ n < base then [n]
  else
    have : n / base < n := Nat.div_lt_self (by omega) (by omega)
    digits base (n / base) ++ [n % base]
termination_by n

/-- The number that digits spell in a base. -/
def ofDigits (base : Nat) (ds : List Nat) : Nat :=
  ds.foldl (fun n d => base * n + d) 0

/-- The character for a digit below sixteen. -/
def digitChar (d : Nat) : Char :=
  if d < 10 then Char.ofNat ('0'.toNat + d) else Char.ofNat ('a'.toNat + (d - 10))

/-- The decimal digits of a number. -/
def decimalChars (n : Nat) : List Char :=
  (digits 10 n).map digitChar

/-- A number in decimal. -/
def decimal (n : Nat) : String :=
  String.ofList (decimalChars n)

/-- An integer in decimal, with a minus sign if it is negative. -/
def decimalInt : Int → String
  | .ofNat n => decimal n
  | .negSucc n => "-" ++ decimal (n + 1)

/-- The hexadecimal digits of a number. -/
def hexChars (n : Nat) : List Char :=
  (digits 16 n).map digitChar

/-- Characters brought to a width by zeros in front. -/
def padZeros (width : Nat) (cs : List Char) : List Char :=
  List.replicate (width - cs.length) '0' ++ cs

theorem ofDigits_append (base : Nat) (ds : List Nat) (d : Nat) :
    ofDigits base (ds ++ [d]) = base * ofDigits base ds + d := by
  simp [ofDigits]

/-- What `digits` writes, `ofDigits` reads back. -/
theorem ofDigits_digits (base n : Nat) : ofDigits base (digits base n) = n := by
  induction n using Nat.strongRecOn with
  | ind n ih =>
    rw [digits]
    split
    · simp [ofDigits]
    · next h =>
      rw [ofDigits_append, ih (n / base) (Nat.div_lt_self (by omega) (by omega))]
      exact Nat.div_add_mod n base

end ClusterHealth.Text
