/-!
# `ClusterHealth.Text.Style` — text without terminal styles

A style sequence tells a terminal how to show what follows: escape, an opening bracket, parameters, and a
letter. What is printed is not meant for a terminal alone, so such sequences are left out of it
(`unstyled`); an escape that opens none of them stays.
-/

namespace ClusterHealth.Text

/-- A character of the parameters of a style sequence. -/
def isStyleParameter (c : Char) : Bool :=
  c.isDigit || c == ';' || c == '?'

/-- What follows the end of a style sequence, from its parameters on. -/
def afterStyle? (cs : List Char) : Option (List Char) :=
  match cs.dropWhile isStyleParameter with
  | c :: rest => if c.isAlpha then some rest else none
  | [] => none

theorem length_of_afterStyle? {cs rest : List Char} (h : afterStyle? cs = some rest) :
    rest.length < cs.length := by
  have hle := (List.dropWhile_suffix isStyleParameter (l := cs)).length_le
  grind [afterStyle?]

/-- Characters without the style sequences among them. -/
def unstyledChars : List Char → List Char
  | '\x1b' :: '[' :: cs =>
    match h : afterStyle? cs with
    | some rest =>
      have := length_of_afterStyle? h
      unstyledChars rest
    | none => '\x1b' :: unstyledChars ('[' :: cs)
  | c :: cs => c :: unstyledChars cs
  | [] => []
termination_by cs => cs.length

/-- A text without its style sequences. -/
def unstyled (s : String) : String :=
  String.ofList (unstyledChars s.toList)

/-- Without an escape, nothing is left out. -/
theorem unstyledChars_eq_self {cs : List Char} (h : '\x1b' ∉ cs) : unstyledChars cs = cs := by
  fun_induction unstyledChars cs <;> simp_all

end ClusterHealth.Text
