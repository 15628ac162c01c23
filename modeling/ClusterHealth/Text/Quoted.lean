import ClusterHealth.Text.Case
import ClusterHealth.Text.Positional
import ClusterHealth.Text.PrintableTable

/-!
# `ClusterHealth.Text.Quoted` — text between quotes

Text is quoted with single quotes, unless it holds one and no double quote. The backslash and the
quote in use are escaped with a backslash, tab, newline and carriage return have letters of their
own, and any other character without a printed form is written by its number.
-/

namespace ClusterHealth.Text

/-- A character with a printed form; of the separators only the space has one. -/
def isPrintable (c : Char) : Bool :=
  if c.toNat < 0x80 then 0x20 ≤ c.toNat && c.toNat < 0x7F else !inRanges unprintableRanges c

/-- The quote to put around characters. -/
def quoteFor (cs : List Char) : Char :=
  if cs.contains '\x27' && !cs.contains '"' then '"' else '\x27'

/-- A character by its number, in the shortest of the three widths that holds it. -/
def numbered (c : Char) : List Char :=
  let n := c.toNat
  if n < 0x100 then '\\' :: 'x' :: padZeros 2 (hexChars n)
  else if n < 0x10000 then '\\' :: 'u' :: padZeros 4 (hexChars n)
  else '\\' :: 'U' :: padZeros 8 (hexChars n)

/-- A character as it stands between quotes, where `plain` says which are written as such. -/
def escapeWith (plain : Char → Bool) (quote c : Char) : List Char :=
  if c = quote ∨ c = '\\' then ['\\', c]
  else if c = '\t' then ['\\', 't']
  else if c = '\n' then ['\\', 'n']
  else if c = '\r' then ['\\', 'r']
  else if plain c then [c]
  else numbered c

/-- A text between quotes. -/
def quoted (s : String) : String :=
  let quote := quoteFor s.toList
  String.ofList (quote :: s.toList.flatMap (escapeWith isPrintable quote) ++ [quote])

/-- A byte string between quotes: its bytes as the characters of the same number, of which only the
ASCII ones count as printable. -/
def quotedBytes (bytes : List UInt8) : String :=
  let cs := bytes.map fun b => Char.ofNat b.toNat
  let quote := quoteFor cs
  let plain := fun c : Char => c.toNat < 0x80 && isPrintable c
  String.ofList ('b' :: quote :: cs.flatMap (escapeWith plain quote) ++ [quote])

/-- Quoted items in brackets, with commas between them. -/
def bracketed (items : List String) : String :=
  "[" ++ String.intercalate ", " items ++ "]"

end ClusterHealth.Text
