import ClusterHealth.Proofs.ReadBack

/-!
# `ClusterHealth.Proofs.Lexemes` — where a name in a statement starts and ends

Names stand in statements without quotes, so nothing but the characters of a name keeps it apart from the
CQL around it. A text is cut into lexemes, and a name of word characters comes out of every statement as
the one lexeme that was put in: it can neither end early nor run on into what follows.

## Contents
- `Cql.lexemes`: the lexemes of a text; `lexemes_append` cuts a text where no word goes on.
- `Statement.parts`, `Statement.lexemes_text`: the lexemes of a statement, with each name as one of them.
- `Statement.text_injective`: statements with the same text are the same, apart from a lookup, whose
  keyspace is a parameter.
-/

namespace ClusterHealth.Cql

open ClusterHealth.Text ClusterHealth.Number

variable {c : Char} {xs ys : List Char}

/-! ## Lexemes -/

/-- A character of words: a letter or a digit of ASCII, or an underscore. -/
def isWordChar (c : Char) : Bool :=
  c.isAlphanum || c == '_'

/-- Whether a text starts inside a word. -/
def opensWord (cs : List Char) : Bool :=
  cs.head?.any isWordChar

/-- Whether a text ends inside a word. -/
def closesWord (cs : List Char) : Bool :=
  cs.getLast?.any isWordChar

/-- A character put before the first of some lexemes. -/
def prepend (c : Char) : List (List Char) → List (List Char)
  | [] => [[c]]
  | lexeme :: rest => (c :: lexeme) :: rest

/-- The lexemes of a text: words as long as they go on, and every other character but a blank by itself. -/
def lexemes : List Char → List (List Char)
  | [] => []
  | c :: rest =>
    if isWordChar c then
      if opensWord rest then prepend c (lexemes rest) else [c] :: lexemes rest
    else if c = ' ' then lexemes rest
    else [c] :: lexemes rest

theorem opensWord_append (hne : xs ≠ []) : opensWord (xs ++ ys) = opensWord xs := by
  cases xs with
  | nil => exact absurd rfl hne
  | cons x xs => rfl

theorem closesWord_cons (hne : xs ≠ []) : closesWord (c :: xs) = closesWord xs := by
  cases xs with
  | nil => exact absurd rfl hne
  | cons x xs =>
    unfold closesWord
    rw [List.getLast?_cons_cons]

theorem lexemes_ne_nil (h : opensWord xs = true) : lexemes xs ≠ [] := by
  cases xs with
  | nil => exact absurd h (by decide)
  | cons c rest =>
    have hc : isWordChar c = true := h
    simp only [lexemes, if_pos hc]
    split
    · cases lexemes rest <;> exact List.cons_ne_nil _ _
    · exact List.cons_ne_nil _ _

theorem prepend_append {ls ms : List (List Char)} (hne : ls ≠ []) :
    prepend c (ls ++ ms) = prepend c ls ++ ms := by
  cases ls with
  | nil => exact absurd rfl hne
  | cons l ls => rfl

/-- A text falls apart into lexemes at each place that no word goes across. -/
theorem lexemes_append (h : closesWord xs = false ∨ opensWord ys = false) :
    lexemes (xs ++ ys) = lexemes xs ++ lexemes ys := by
  -- By induction on the first text; only its last character can touch the second one.
  induction xs with
  | nil => rfl
  | cons c xs ih =>
    by_cases hxs : xs = []
    · subst hxs
      show lexemes (c :: ys) = lexemes [c] ++ lexemes ys
      have hnil : opensWord [] = false := rfl
      simp only [lexemes]
      by_cases hc : isWordChar c = true
      · have hys : opensWord ys = false := by
          rcases h with h | h
          · have hclose : isWordChar c = false := h
            exact absurd (hc.symm.trans hclose) (by decide)
          · exact h
        simp [hc, hys, hnil]
      · by_cases hblank : c = ' '
        · simp [hblank, isWordChar]
        · simp [hc, hblank]
    · rw [closesWord_cons hxs] at h
      rw [List.cons_append]
      simp only [lexemes, opensWord_append hxs, ih h]
      by_cases hc : isWordChar c = true
      · by_cases hopen : opensWord xs = true
        · simp only [hc, hopen, if_true]
          exact prepend_append (lexemes_ne_nil hopen)
        · simp [hc, hopen]
      · by_cases hblank : c = ' '
        · simp [hblank, isWordChar]
        · simp [hc, hblank]

/-- A text of word characters is one lexeme. -/
theorem lexemes_word (hne : xs ≠ []) (h : ∀ c ∈ xs, isWordChar c = true) : lexemes xs = [xs] := by
  induction xs with
  | nil => exact absurd rfl hne
  | cons c xs ih =>
    have hc : isWordChar c = true := h c List.mem_cons_self
    cases xs with
    | nil => simp [lexemes, hc, opensWord]
    | cons d xs =>
      have hrest : ∀ x ∈ d :: xs, isWordChar x = true := fun x hx => h x (List.mem_cons_of_mem c hx)
      have hopen : opensWord (d :: xs) = true := hrest d List.mem_cons_self
      rw [lexemes, if_pos hc, if_pos hopen, ih (List.cons_ne_nil d xs) hrest]
      rfl

/-! ## Names -/

/-- A name of word characters. -/
structure WordName (s : String) : Prop where
  nonempty : s.toList ≠ []
  word : ∀ c ∈ s.toList, isWordChar c = true

/-- Between texts that do not go on with a word, a name is a lexeme of its own. -/
theorem lexemes_name {s : String} (xs ys : List Char) (h : WordName s) (hxs : closesWord xs = false)
    (hys : opensWord ys = false) :
    lexemes (xs ++ (s.toList ++ ys)) = lexemes xs ++ s.toList :: lexemes ys := by
  rw [lexemes_append (.inl hxs), lexemes_append (.inr hys), lexemes_word h.nonempty h.word]
  rfl

/-- The digits of an integer are a name between blanks; a minus sign stands before it. -/
def integerLexemes : Int → List (List Char)
  | .ofNat n => [decimalChars n]
  | .negSucc n => [['-'], decimalChars (n + 1)]

theorem isWordChar_of_mem_decimalChars {n : Nat} (h : c ∈ decimalChars n) : isWordChar c = true := by
  obtain ⟨d, hd, rfl⟩ := List.mem_map.1 h
  have hall : ∀ d < 10, isWordChar (digitChar d) = true := by decide
  exact hall d (digits_lt (by decide) d hd)

theorem lexemes_decimal (n : Nat) : lexemes (decimal n).toList = [decimalChars n] := by
  have hlist : (decimal n).toList = decimalChars n := String.toList_ofList
  rw [hlist, lexemes_word (decimalChars_ne_nil n) fun _ => isWordChar_of_mem_decimalChars]

theorem lexemes_decimalInt (k : Int) : lexemes (decimalInt k).toList = integerLexemes k := by
  cases k with
  | ofNat n => exact lexemes_decimal n
  | negSucc n =>
    show lexemes ("-" ++ decimal (n + 1)).toList = _
    rw [String.toList_append, lexemes_append (.inl (by decide)), lexemes_decimal]
    rfl

theorem decimalChars_injective {m n : Nat} (h : decimalChars m = decimalChars n) : m = n := by
  rw [← digitsValue_decimalChars m, h, digitsValue_decimalChars]

/-- The lexemes of an integer tell which one it is. -/
theorem integerLexemes_injective {k k' : Int} (h : integerLexemes k = integerLexemes k') : k = k' := by
  cases k with
  | ofNat m =>
    cases k' with
    | ofNat n => exact congrArg Int.ofNat (decimalChars_injective (List.cons.inj h).1)
    | negSucc n => exact absurd (congrArg List.length h) (Nat.ne_of_lt Nat.one_lt_two)
  | negSucc m =>
    cases k' with
    | ofNat n => exact absurd (congrArg List.length h) (Nat.ne_of_gt Nat.one_lt_two)
    | negSucc n =>
      have htail := (List.cons.inj (List.cons.inj h).2).1
      exact congrArg Int.negSucc (Nat.succ.inj (decimalChars_injective htail))

/-! ## Statements -/

namespace Statement

/-- The names in the text of a statement are words. -/
def Named : Statement → Prop
  | .lookUp _ => True
  | .createKeyspace keyspace _ | .dropKeyspace keyspace => WordName keyspace
  | .createTable keyspace table | .insertSeed keyspace table | .selectSeed keyspace table =>
    WordName keyspace ∧ WordName table

/-- Texts as lists of characters. -/
def spelled (texts : List String) : List (List Char) :=
  texts.map String.toList

/-- The lexemes of a statement: those of its fixed parts, and its names as they stand. -/
def parts : Statement → List (List Char)
  | .lookUp _ =>
    spelled ["SELECT", "replication", "FROM", "system_schema", ".", "keyspaces", "WHERE", "keyspace_name",
      "=", "%", "s"]
  | .createKeyspace keyspace factor =>
    spelled ["CREATE", "KEYSPACE", keyspace, "WITH", "REPLICATION", "=", "\x7b", "'", "class", "'", ":", "'",
      "SimpleStrategy", "'", ",", "'", "replication_factor", "'", ":"]
      ++ integerLexemes factor ++ spelled ["\x7d"]
  | .createTable keyspace table =>
    spelled ["CREATE", "TABLE", keyspace, ".", table, "(", "healthkey", "varchar", "PRIMARY", "KEY", ")"]
  | .insertSeed keyspace table =>
    spelled ["INSERT", "INTO", keyspace, ".", table, "(", "healthkey", ")", "VALUES", "(", "%", "s", ")"]
  | .dropKeyspace keyspace => spelled ["DROP", "KEYSPACE", keyspace]
  | .selectSeed keyspace table =>
    spelled ["SELECT", "*", "FROM", keyspace, ".", table, "WHERE", "healthkey", "=", "%", "s"]

/-- A keyspace and a table with a point between them are two names. -/
theorem lexemes_table {keyspace table : String} (xs ys : List Char) (hk : WordName keyspace)
    (ht : WordName table) (hxs : closesWord xs = false) (hys : opensWord ys = false) :
    lexemes (xs ++ (keyspace.toList ++ ('.' :: (table.toList ++ ys))))
      = lexemes xs ++ keyspace.toList :: ['.'] :: table.toList :: lexemes ys := by
  have hpoint : lexemes ('.' :: (table.toList ++ ys)) = ['.'] :: table.toList :: lexemes ys :=
    lexemes_name ['.'] ys ht (by decide) hys
  rw [lexemes_name xs _ hk hxs rfl, hpoint]

/-- **The lexemes of a statement**, each name being one of them. -/
theorem lexemes_text {s : Statement} (hs : s.Named) : lexemes s.text.toList = s.parts := by
  cases s with
  | lookUp keyspace =>
    have hconstant : lexemes (lookUp "").text.toList = (lookUp "").parts := by decide
    exact hconstant
  | createKeyspace keyspace factor =>
    have hname : WordName keyspace := hs
    unfold text
    simp only [String.toList_append, List.append_assoc]
    rw [lexemes_name _ _ hname (by decide) rfl, lexemes_append (.inl (by decide)),
      lexemes_append (.inr (by decide)), lexemes_decimalInt]
    have hmiddle : lexemes
        " WITH REPLICATION = \x7b 'class': 'SimpleStrategy', 'replication_factor': ".toList
          = spelled ["WITH", "REPLICATION", "=", "\x7b", "'", "class", "'", ":", "'", "SimpleStrategy", "'",
            ",", "'", "replication_factor", "'", ":"] := by decide
    have hstart : lexemes "CREATE KEYSPACE ".toList = spelled ["CREATE", "KEYSPACE"] := by decide
    have hend : lexemes " \x7d".toList = spelled ["\x7d"] := by decide
    rw [hmiddle, hstart, hend]
    rfl
  | createTable keyspace table =>
    have hend : lexemes (" ( ".toList ++ (keyColumn.toList ++ " varchar PRIMARY KEY )".toList))
        = spelled ["(", "healthkey", "varchar", "PRIMARY", "KEY", ")"] := by decide
    unfold text
    simp only [String.toList_append, List.append_assoc]
    have htext := lexemes_table "CREATE TABLE ".toList
      (" ( ".toList ++ (keyColumn.toList ++ " varchar PRIMARY KEY )".toList)) hs.1 hs.2 (by decide)
      (by decide)
    rw [hend] at htext
    exact htext
  | insertSeed keyspace table =>
    have hend : lexemes (" (".toList ++ (keyColumn.toList ++ ") VALUES (%s)".toList))
        = spelled ["(", "healthkey", ")", "VALUES", "(", "%", "s", ")"] := by decide
    unfold text
    simp only [String.toList_append, List.append_assoc]
    have htext := lexemes_table "INSERT INTO ".toList
      (" (".toList ++ (keyColumn.toList ++ ") VALUES (%s)".toList)) hs.1 hs.2 (by decide)
      (by decide)
    rw [hend] at htext
    exact htext
  | dropKeyspace keyspace =>
    have hname : WordName keyspace := hs
    have htext := lexemes_name "DROP KEYSPACE ".toList [] hname (by decide) (by decide)
    unfold text
    rw [String.toList_append]
    rw [List.append_nil] at htext
    exact htext
  | selectSeed keyspace table =>
    have hend : lexemes (" WHERE ".toList ++ (keyColumn.toList ++ " = %s".toList))
        = spelled ["WHERE", "healthkey", "=", "%", "s"] := by decide
    unfold text
    simp only [String.toList_append, List.append_assoc]
    have htext := lexemes_table "SELECT * FROM ".toList
      (" WHERE ".toList ++ (keyColumn.toList ++ " = %s".toList)) hs.1 hs.2 (by decide)
      (by decide)
    rw [hend] at htext
    exact htext

/-- The lexemes of a statement tell which one it is: statements of two kinds differ in a lexeme that is no
name. -/
theorem parts_injective {s s' : Statement} (h : s.parts = s'.parts) :
    s = s' ∨ ∃ keyspace keyspace', s = .lookUp keyspace ∧ s' = .lookUp keyspace' := by
  cases s <;> cases s' <;> simp [parts, spelled, String.toList_inj] at h ⊢
  case createKeyspace.createKeyspace => exact ⟨h.1, integerLexemes_injective h.2⟩
  case createTable.createTable => exact h
  case insertSeed.insertSeed => exact h
  case dropKeyspace.dropKeyspace => exact h
  case selectSeed.selectSeed => exact h

/-- **Statements with the same text are the same**, but for the keyspace of a lookup, which is no part of
the text. -/
theorem text_injective {s s' : Statement} (hs : s.Named) (hs' : s'.Named) (h : s.text = s'.text) :
    s = s' ∨ ∃ keyspace keyspace', s = .lookUp keyspace ∧ s' = .lookUp keyspace' := by
  apply parts_injective
  rw [← lexemes_text hs, ← lexemes_text hs', h]

end Statement

end ClusterHealth.Cql
