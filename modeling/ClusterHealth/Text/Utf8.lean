/-!
# `ClusterHealth.Text.Utf8` — UTF-8

`encode` writes characters as bytes. `decode?` reads bytes and refuses every sequence that no
character is written as: stray continuation bytes, overlong forms, surrogates, numbers beyond
U+10FFFF and a character cut short.
-/

namespace ClusterHealth.Text.Utf8

/-- The bytes of one character. -/
def encodeChar (c : Char) : List UInt8 :=
  let n := c.toNat
  if n < 0x80 then [n.toUInt8]
  else if n < 0x800 then [(0xC0 + n / 0x40).toUInt8, (0x80 + n % 0x40).toUInt8]
  else if n < 0x10000 then
    [(0xE0 + n / 0x1000).toUInt8, (0x80 + n / 0x40 % 0x40).toUInt8, (0x80 + n % 0x40).toUInt8]
  else
    [(0xF0 + n / 0x40000).toUInt8, (0x80 + n / 0x1000 % 0x40).toUInt8,
      (0x80 + n / 0x40 % 0x40).toUInt8, (0x80 + n % 0x40).toUInt8]

/-- The bytes of a text. -/
def encode (s : String) : List UInt8 :=
  s.toList.flatMap encodeChar

/-- The six bits of a continuation byte. -/
def tail? (b : UInt8) : Option Nat :=
  if 0x80 ≤ b.toNat ∧ b.toNat < 0xC0 then some (b.toNat - 0x80) else none

/-- The character with a number, if it is one and lies at or above `least`, below which a shorter
form exists. -/
def scalar? (least n : Nat) : Option Char :=
  if least ≤ n ∧ n.isValidChar then some (Char.ofNat n) else none

/-- The characters that the bytes spell. -/
def decodeChars? : List UInt8 → Option (List Char)
  | [] => some []
  | a :: rest =>
    if a.toNat < 0x80 then do
      let cs ← decodeChars? rest
      return Char.ofNat a.toNat :: cs
    else if a.toNat < 0xC0 then none
    else if a.toNat < 0xE0 then
      match rest with
      | b :: rest => do
        let c ← scalar? 0x80 ((a.toNat - 0xC0) * 0x40 + (← tail? b))
        return c :: (← decodeChars? rest)
      | _ => none
    else if a.toNat < 0xF0 then
      match rest with
      | b :: c :: rest => do
        let c ← scalar? 0x800 (((a.toNat - 0xE0) * 0x40 + (← tail? b)) * 0x40 + (← tail? c))
        return c :: (← decodeChars? rest)
      | _ => none
    else
      match rest with
      | b :: c :: d :: rest => do
        let n := ((a.toNat - 0xF0) * 0x40 + (← tail? b)) * 0x40 + (← tail? c)
        let c ← scalar? 0x10000 (n * 0x40 + (← tail? d))
        return c :: (← decodeChars? rest)
      | _ => none

/-- The text that the bytes spell. -/
def decode? (bytes : List UInt8) : Option String :=
  (decodeChars? bytes).map String.ofList

end ClusterHealth.Text.Utf8
