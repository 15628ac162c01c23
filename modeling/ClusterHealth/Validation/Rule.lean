import ClusterHealth.Number.Reading
import ClusterHealth.Path
import ClusterHealth.Text.Utf8
import ClusterHealth.Validation.Issue
import ClusterHealth.Value

/-!
# `ClusterHealth.Validation.Rule` — reading values of a wanted type

Each rule takes a value of any type to one of the wanted type, or tells what is wrong with it. Rules
are lenient: a number may be given as text, and text as bytes in UTF-8.
-/

namespace ClusterHealth.Validation

open ClusterHealth.Text ClusterHealth.Number

/-- A way to read values of a type. -/
abbrev Rule (α : Type) := Value → Except Fault α

/-! ## Types -/

/-- Text, or bytes in UTF-8. -/
def text : Rule String
  | .text s => .ok s
  | .bytes bs => ((Utf8.decode? bs).map .ok).getD (.error .notUtf8)
  | _ => .error .notText

/-- The integer that a text spells. -/
def integerOfText (s : String) : Except Fault Int :=
  match readInteger s with
  | .ok n => .ok n
  | .error .malformed => .error .unreadableInteger
  | .error .tooLong => .error .hugeInteger

/-- Above every integer of 64 bits: `2 ^ 63`. -/
def wordBound : Int := 0x8000000000000000

/-- The integer that a double-precision number equals, if it fits 64 bits. -/
def integerOfNumber (x : Binary64) : Except Fault Int :=
  if !x.isFinite then .error .notFinite
  else
    match x.whole? with
    | none => .error .fractionalInteger
    | some n => if -wordBound < n ∧ n < wordBound then .ok n else .error .hugeInteger

/-- An integer, a whole number, a truth value as 0 or 1, or a text that spells an integer. -/
def integer : Rule Int
  | .int n => .ok n
  | .bool b => .ok (if b then 1 else 0)
  | .float x => integerOfNumber x
  | .text s => integerOfText s
  | .bytes bs => ((Utf8.decode? bs).map integerOfText).getD (.error .unreadableInteger)
  | _ => .error .notInteger

/-- The number that a text spells. -/
def numberOfText (s : String) : Except Fault Binary64 :=
  ((readNumber? s).map .ok).getD (.error .unreadableNumber)

/-- A number, a truth value as 0 or 1, or a text that spells a number. -/
def number : Rule Binary64
  | .int n =>
    let x := Binary64.ofInt n
    if x.isFinite then .ok x else .error .notNumber
  | .bool b => .ok (.ofInt (if b then 1 else 0))
  | .float x => .ok x
  | .text s => numberOfText s
  | .bytes bs => ((Utf8.decode? bs).map numberOfText).getD (.error .unreadableNumber)
  | _ => .error .notNumber

/-- The words for true, in small letters. -/
def trueWords : List String := ["1", "true", "t", "yes", "y", "on"]

/-- The words for false, in small letters. -/
def falseWords : List String := ["0", "false", "f", "no", "n", "off"]

/-- The truth value that a word stands for, in any case. -/
def booleanOfText (s : String) : Except Fault Bool :=
  let word := String.ofList (s.toList.map Char.toLower)
  if word ∈ trueWords then .ok true
  else if word ∈ falseWords then .ok false
  else .error .unreadableBoolean

/-- The truth value that an integer of 64 bits stands for. -/
def booleanOfInteger (n : Int) : Except Fault Bool :=
  if n = 1 then .ok true
  else if n = 0 then .ok false
  else if -wordBound ≤ n ∧ n < wordBound then .error .unreadableBoolean
  else .error .notBoolean

/-- A truth value, the numbers 0 and 1, or one of the words for them. -/
def boolean : Rule Bool
  | .bool b => .ok b
  | .int n => booleanOfInteger n
  | .float x =>
    match integerOfNumber x with
    | .ok n => booleanOfInteger n
    | .error _ => .error .notBoolean
  | .text s => booleanOfText s
  | .bytes bs => ((Utf8.decode? bs).map booleanOfText).getD (.error .unreadableBoolean)
  | _ => .error .notBoolean

/-- The path that a text denotes. -/
def path : Rule Path
  | .text s => .ok (Path.ofText s)
  | _ => .error .notPath

/-! ## Bounds and forms -/

/-- Values that satisfy a test; others have the given fault. -/
def Rule.such {α : Type} (rule : Rule α) (test : α → Bool) (fault : Fault) : Rule α := fun v => do
  let x ← rule v
  if test x then return x else throw fault

/-- Null, or what a rule reads. -/
def optional {α : Type} (rule : Rule α) : Rule (Option α)
  | .null => .ok none
  | v => (rule v).map some

/-- Integers from `least` on. -/
def atLeast (least : Nat) (rule : Rule Int) : Rule Int :=
  rule.such (fun n => decide ((least : Int) ≤ n)) (.below least)

/-- Integers up to `greatest`. -/
def atMost (greatest : Nat) (rule : Rule Int) : Rule Int :=
  rule.such (fun n => decide (n ≤ (greatest : Int))) (.above greatest)

/-- Numbers above zero. -/
def positive (rule : Rule Binary64) : Rule Binary64 :=
  rule.such (fun x => Binary64.zero.lt x) (.notAbove 0)

/-- Numbers from zero on. -/
def nonnegative (rule : Rule Binary64) : Rule Binary64 :=
  rule.such (fun x => Binary64.zero.le x) (.below 0)

/-- A small letter of ASCII. -/
def isSmallLetter (c : Char) : Bool :=
  'a' ≤ c && c ≤ 'z'

/-- A character of an identifier. -/
def isIdentifierChar (c : Char) : Bool :=
  isSmallLetter c || isAsciiDigit c || c == '_'

/-- A plain identifier: a small letter, then at most 47 small letters, digits and underscores. -/
def isIdentifier (s : String) : Bool :=
  match s.toList with
  | [] => false
  | c :: rest => isSmallLetter c && rest.all isIdentifierChar && rest.length ≤ 47

end ClusterHealth.Validation
