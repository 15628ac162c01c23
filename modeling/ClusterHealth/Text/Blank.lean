/-!
# `ClusterHealth.Text.Blank` — blank characters and trimming

Two sets of blanks are in use. Settings are trimmed of the characters with the Unicode property
White_Space; addresses, process numbers and words of statements also count the four information
separators U+001C to U+001F as blank.
-/

namespace ClusterHealth.Text

/-- The characters with the Unicode property White_Space. -/
def isWhite (c : Char) : Bool :=
  let n := c.toNat
  (0x09 ≤ n && n ≤ 0x0D) || n == 0x20 || n == 0x85 || n == 0xA0 || n == 0x1680
    || (0x2000 ≤ n && n ≤ 0x200A) || n == 0x2028 || n == 0x2029 || n == 0x202F
    || n == 0x205F || n == 0x3000

/-- White space, and the information separators of files, groups, records and units. -/
def isBlank (c : Char) : Bool :=
  isWhite c || (0x1C ≤ c.toNat && c.toNat ≤ 0x1F)

/-- A text without the characters of a class at its two ends. -/
def trim (p : Char → Bool) (cs : List Char) : List Char :=
  ((cs.dropWhile p).reverse.dropWhile p).reverse

/-- A text without blanks at its two ends. -/
def strip (s : String) : String :=
  String.ofList (trim isBlank s.toList)

/-- A text that neither starts nor ends in the class is left as it is. -/
theorem trim_eq_self {p : Char → Bool} {cs : List Char} (hh : ∀ c ∈ cs.head?, p c = false)
    (hl : ∀ c ∈ cs.getLast?, p c = false) : trim p cs = cs := by
  have h1 : cs.dropWhile p = cs := by
    cases cs with
    | nil => rfl
    | cons c r => simp [hh c (by simp)]
  have h2 : cs.reverse.dropWhile p = cs.reverse := by
    cases hr : cs.reverse with
    | nil => rfl
    | cons c r =>
      have : c ∈ cs.getLast? := by simp [← List.head?_reverse, hr]
      simp [hl c this]
  simp [trim, h1, h2]

end ClusterHealth.Text
