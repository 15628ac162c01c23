import ClusterHealth.Text.Positional
import ClusterHealth.Text.Split

/-!
# `ClusterHealth.Network.Address` — IP addresses and their texts

An address is four octets, or eight groups of sixteen bits with an optional scope. `Address.parse?`
reads every accepted spelling; `Address.text` writes the canonical one: decimal octets without zeros in
front, hexadecimal groups in small letters, and `::` for the first longest run of at least two zero
groups.
-/

namespace ClusterHealth.Network

open ClusterHealth.Text

/-! ## Addresses -/

/-- A version 4 address. -/
structure V4 where
  octets : List Nat
  length_eq : octets.length = 4
  octet_lt : ∀ o ∈ octets, o < 256
  deriving DecidableEq

/-- A version 6 address, without its scope. -/
structure V6 where
  groups : List Nat
  length_eq : groups.length = 8
  group_lt : ∀ g ∈ groups, g < 65536
  deriving DecidableEq

/-- An address of either version. -/
inductive Address where
  | v4 (address : V4)
  | v6 (address : V6) (scope : Option String)
  deriving DecidableEq

/-- The 32-bit number of an address. -/
def V4.toNat (a : V4) : Nat := ofDigits 256 a.octets

/-- The 128-bit number of an address. -/
def V6.toNat (a : V6) : Nat := ofDigits 65536 a.groups

/-- The number of an address, whatever its scope. -/
def Address.toNat : Address → Nat
  | .v4 a => a.toNat
  | .v6 a _ => a.toNat

/-- The address of four octets. -/
def V4.ofOctets? (os : List Nat) : Option V4 :=
  if h : os.length = 4 ∧ ∀ o ∈ os, o < 256 then some ⟨os, h.1, h.2⟩ else none

/-- The address of eight groups. -/
def V6.ofGroups? (gs : List Nat) : Option V6 :=
  if h : gs.length = 8 ∧ ∀ g ∈ gs, g < 65536 then some ⟨gs, h.1, h.2⟩ else none

/-! ## Writing -/

/-- Four decimal octets with points between them. -/
def V4.chars (a : V4) : List Char :=
  joinWith '.' (a.octets.map decimalChars)

/-- The number of zero groups at the start. -/
def zeroRun (gs : List Nat) : Nat :=
  (gs.takeWhile (· == 0)).length

/-- Where the first longest run of zero groups starts, and its length. -/
def longestZeroRun (gs : List Nat) : Nat × Nat :=
  (List.range gs.length).foldl (fun best i =>
    let n := zeroRun (gs.drop i)
    if best.2 < n then (i, n) else best) (0, 0)

/-- Hexadecimal groups with colons between them. -/
def groupChars (gs : List Nat) : List Char :=
  joinWith ':' (gs.map hexChars)

/-- The groups of an address, a run of zero groups being left out. -/
def V6.chars (a : V6) : List Char :=
  let (start, length) := longestZeroRun a.groups
  if 2 ≤ length then
    groupChars (a.groups.take start) ++ ':' :: ':' :: groupChars (a.groups.drop (start + length))
  else groupChars a.groups

/-- The canonical text of an address; a scope follows a percent sign. -/
def Address.text : Address → String
  | .v4 a => String.ofList a.chars
  | .v6 a none => String.ofList a.chars
  | .v6 a (some scope) => String.ofList (a.chars ++ '%' :: scope.toList)

/-! ## Reading -/

/-- One to three decimal digits without a zero in front, of a value below 256. -/
def readOctet? (cs : List Char) : Option Nat :=
  let n := ofDigits 10 (cs.map fun c => c.toNat - '0'.toNat)
  if cs.all Char.isDigit && !cs.isEmpty && cs.length ≤ 3 && (cs == ['0'] || cs.head? != some '0')
      && n < 256 then
    some n
  else none

/-- Four octets with points between them. -/
def V4.parse? (cs : List Char) : Option V4 := do
  V4.ofOctets? (← (splitOn '.' cs).mapM readOctet?)

/-- The value of a hexadecimal digit of either case. -/
def hexValue? (c : Char) : Option Nat :=
  if '0' ≤ c ∧ c ≤ '9' then some (c.toNat - '0'.toNat)
  else if 'a' ≤ c ∧ c ≤ 'f' then some (c.toNat - 'a'.toNat + 10)
  else if 'A' ≤ c ∧ c ≤ 'F' then some (c.toNat - 'A'.toNat + 10)
  else none

/-- One to four hexadecimal digits. -/
def readGroup? (cs : List Char) : Option Nat := do
  let ds ← cs.mapM hexValue?
  if ds.isEmpty || 4 < ds.length then none else some (ofDigits 16 ds)

/-- Parts between colons in which a last part in the notation of version 4 has become the two groups
that it denotes. -/
def expandTail? (parts : List (List Char)) : Option (List (List Char)) :=
  match parts.getLast? with
  | some last =>
    if last.contains '.' then do
      let n := (← V4.parse? last).toNat
      return parts.dropLast ++ [hexChars (n / 65536), hexChars (n % 65536)]
    else some parts
  | none => some parts

/-- The parts before and after the first empty one; an empty last part does not count. -/
def splitAtGap : List (List Char) → Option (List (List Char) × List (List Char))
  | [] | [_] => none
  | p :: q :: rest =>
    if p = [] then some ([], q :: rest)
    else (splitAtGap (q :: rest)).map fun (before, after) => (p :: before, after)

/-- The groups on one side of a gap; a side that is only the empty end of the text has none. -/
def readSide? (parts : List (List Char)) : Option (List Nat) :=
  if parts = [[]] then some [] else parts.mapM readGroup?

/-- The groups that parts between colons denote: eight of them, or fewer around a gap, which stands for
at least one zero group. -/
def readGroups? : List (List Char) → Option (List Nat)
  | [] => none
  | first :: rest =>
    match splitAtGap rest with
    | some (before, after) => do
      let high ← readSide? (first :: before)
      let low ← readSide? after
      if high.length + low.length ≤ 7 then
        some (high ++ List.replicate (8 - (high.length + low.length)) 0 ++ low)
      else none
    | none => (first :: rest).mapM readGroup?

/-- Groups with colons between them, of which one run may be left out. -/
def V6.parse? (cs : List Char) : Option V6 := do
  V6.ofGroups? (← readGroups? (← expandTail? (splitOn ':' cs)))

/-- A scope is not empty and holds no percent sign. -/
def isScope (cs : List Char) : Bool :=
  !cs.isEmpty && !cs.contains '%'

/-- The address that a text denotes, if it is one; a slash is never part of it. -/
def Address.parse? (s : String) : Option Address :=
  let cs := s.toList
  match V4.parse? cs with
  | some a => some (.v4 a)
  | none =>
    if cs.contains '/' then none
    else
      match cutAt '%' cs with
      | (digits, none) => (V6.parse? digits).map (.v6 · none)
      | (digits, some scope) =>
        if isScope scope then (V6.parse? digits).map (.v6 · (some (String.ofList scope))) else none

end ClusterHealth.Network
