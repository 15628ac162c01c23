import ClusterHealth.Cql.Statement
import ClusterHealth.Proofs.Integer

/-!
# `ClusterHealth.Proofs.ReadBack` — statements read back from their requests

A request is a text. What it says is read off its words, and for names without blanks and points each
request says just what it was made from.

## Contents
- `Statement.ofRequest?`: the statement that a request spells.
- `Statement.Plain`: statements whose names have neither blanks nor points.
- `Statement.ofRequest?_request`: a plain statement is read back.
-/

namespace ClusterHealth.Cql.Statement

open ClusterHealth.Text ClusterHealth.Number

/-! ## Reading -/

/-- The number of copies that a word spells. -/
def factor? (word : String) : Option Int :=
  if word.toList ≠ [] ∧ word.toList.all isAsciiDigit then some (digitsValue word.toList) else none

/-- A table by its name behind that of its keyspace. -/
def tableOf? {α : Type} (make : String → String → α) (word : String) : Option α :=
  match cutAt '.' word.toList with
  | (keyspace, some table) => some (make (String.ofList keyspace) (String.ofList table))
  | (_, none) => none

/-- The one text among the parameters. -/
def onlyText? : Option (List Value) → Option String
  | some [.text s] => some s
  | _ => none

/-- The statement that words spell, with its parameters. -/
def ofWords? (parameters : Option (List Value)) : List String → Option Statement
  | ["SELECT", "replication", "FROM", "system_schema.keyspaces", "WHERE", "keyspace_name", "=", "%s"] =>
    (onlyText? parameters).map .lookUp
  | ["CREATE", "KEYSPACE", keyspace, "WITH", "REPLICATION", "=", "\x7b", "'class':", "'SimpleStrategy',",
      "'replication_factor':", factor, "\x7d"] =>
    (factor? factor).map (.createKeyspace keyspace)
  | ["CREATE", "TABLE", table, "(", "healthkey", "varchar", "PRIMARY", "KEY", ")"] =>
    tableOf? .createTable table
  | ["INSERT", "INTO", table, "(healthkey)", "VALUES", "(%s)"] =>
    if onlyText? parameters = some seedKey then tableOf? .insertSeed table else none
  | ["DROP", "KEYSPACE", keyspace] => some (.dropKeyspace keyspace)
  | ["SELECT", "*", "FROM", table, "WHERE", "healthkey", "=", "%s"] =>
    if onlyText? parameters = some seedKey then tableOf? .selectSeed table else none
  | _ => none

/-- The statement that a request spells. -/
def ofRequest? (r : Request) : Option Statement :=
  ofWords? r.parameters ((splitOn ' ' r.text.toList).map String.ofList)

/-! ## Words -/

/-- The words of a statement. -/
def words : Statement → List String
  | .lookUp _ =>
    ["SELECT", "replication", "FROM", "system_schema.keyspaces", "WHERE", "keyspace_name", "=", "%s"]
  | .createKeyspace keyspace factor =>
    ["CREATE", "KEYSPACE", keyspace, "WITH", "REPLICATION", "=", "\x7b", "'class':", "'SimpleStrategy',",
      "'replication_factor':", decimalInt factor, "\x7d"]
  | .createTable keyspace table =>
    ["CREATE", "TABLE", keyspace ++ "." ++ table, "(", "healthkey", "varchar", "PRIMARY", "KEY", ")"]
  | .insertSeed keyspace table =>
    ["INSERT", "INTO", keyspace ++ "." ++ table, "(healthkey)", "VALUES", "(%s)"]
  | .dropKeyspace keyspace => ["DROP", "KEYSPACE", keyspace]
  | .selectSeed keyspace table =>
    ["SELECT", "*", "FROM", keyspace ++ "." ++ table, "WHERE", "healthkey", "=", "%s"]

theorem words_ne_nil (s : Statement) : s.words ≠ [] := by
  cases s <;> exact List.cons_ne_nil _ _

/-- What stands between the name and the number of copies of a new keyspace. -/
theorem replication_words :
    " WITH REPLICATION = \x7b 'class': 'SimpleStrategy', 'replication_factor': ".toList =
      ' ' :: ("WITH".toList ++ ' ' :: ("REPLICATION".toList ++ ' ' :: ("=".toList ++ ' ' :: ("\x7b".toList
        ++ ' ' :: ("'class':".toList ++ ' ' :: ("'SimpleStrategy',".toList
        ++ ' ' :: ("'replication_factor':".toList ++ [' ']))))))) := by
  decide

/-- The text of a statement is its words with blanks between them. -/
theorem text_eq_words (s : Statement) : s.text.toList = joinWith ' ' (s.words.map String.toList) := by
  -- The constant parts are cut into words by evaluation; the names in between stay as they are.
  cases s with
  | lookUp keyspace =>
    have hconstant : (lookUp "").text.toList = joinWith ' ' ((lookUp "").words.map String.toList) := by
      decide
    exact hconstant
  | createKeyspace keyspace factor =>
    have hstart : "CREATE KEYSPACE ".toList = "CREATE".toList ++ ' ' :: ("KEYSPACE".toList ++ [' ']) := by
      decide
    have hend : " \x7d".toList = ' ' :: "\x7d".toList := by decide
    unfold text
    rw [String.toList_append, String.toList_append, String.toList_append, String.toList_append, hstart,
      replication_words, hend]
    simp only [words, List.map, joinWith, List.append_assoc, List.cons_append, List.nil_append]
  | createTable keyspace table =>
    have hstart : "CREATE TABLE ".toList = "CREATE".toList ++ ' ' :: ("TABLE".toList ++ [' ']) := by decide
    have hcolumn : " ( ".toList = ' ' :: ("(".toList ++ [' ']) := by decide
    have hend : " varchar PRIMARY KEY )".toList = ' ' :: ("varchar".toList ++ ' ' :: ("PRIMARY".toList
        ++ ' ' :: ("KEY".toList ++ ' ' :: ")".toList))) := by decide
    show ("CREATE TABLE " ++ keyspace ++ "." ++ table ++ " ( " ++ "healthkey"
      ++ " varchar PRIMARY KEY )").toList = _
    rw [String.toList_append, String.toList_append, String.toList_append, String.toList_append,
      String.toList_append, String.toList_append, hstart, hcolumn, hend]
    simp only [words, List.map, joinWith, String.toList_append, List.append_assoc, List.cons_append,
      List.nil_append]
  | insertSeed keyspace table =>
    have hstart : "INSERT INTO ".toList = "INSERT".toList ++ ' ' :: ("INTO".toList ++ [' ']) := by decide
    have hend : " (".toList ++ ("healthkey".toList ++ ") VALUES (%s)".toList) =
        ' ' :: ("(healthkey)".toList ++ ' ' :: ("VALUES".toList ++ ' ' :: "(%s)".toList)) := by decide
    show ("INSERT INTO " ++ keyspace ++ "." ++ table ++ " (" ++ "healthkey" ++ ") VALUES (%s)").toList = _
    rw [String.toList_append, String.toList_append, String.toList_append, List.append_assoc, List.append_assoc,
      hend, String.toList_append, String.toList_append, String.toList_append, hstart]
    simp only [words, List.map, joinWith, String.toList_append, List.append_assoc, List.cons_append,
      List.nil_append]
  | dropKeyspace keyspace =>
    have hstart : "DROP KEYSPACE ".toList = "DROP".toList ++ ' ' :: ("KEYSPACE".toList ++ [' ']) := by decide
    unfold text
    rw [String.toList_append, hstart]
    simp only [words, List.map, joinWith, List.append_assoc, List.cons_append, List.nil_append]
  | selectSeed keyspace table =>
    have hstart : "SELECT * FROM ".toList = "SELECT".toList ++ ' ' :: ("*".toList
        ++ ' ' :: ("FROM".toList ++ [' '])) := by decide
    have hend : " WHERE ".toList ++ ("healthkey".toList ++ " = %s".toList) =
        ' ' :: ("WHERE".toList ++ ' ' :: ("healthkey".toList ++ ' ' :: ("=".toList ++ ' ' :: "%s".toList))) := by
      decide
    show ("SELECT * FROM " ++ keyspace ++ "." ++ table ++ " WHERE " ++ "healthkey" ++ " = %s").toList = _
    rw [String.toList_append, String.toList_append, String.toList_append, List.append_assoc, List.append_assoc,
      hend, String.toList_append, String.toList_append, String.toList_append, hstart]
    simp only [words, List.map, joinWith, String.toList_append, List.append_assoc, List.cons_append,
      List.nil_append]

/-! ## Plain statements -/

/-- A name without blanks and points. -/
structure PlainName (s : String) : Prop where
  noBlank : ' ' ∉ s.toList
  noPoint : '.' ∉ s.toList

/-- A statement with plain names, and with a number of copies that is one. -/
def Plain : Statement → Prop
  | .lookUp _ => True
  | .createKeyspace keyspace factor => PlainName keyspace ∧ 0 ≤ factor
  | .dropKeyspace keyspace => PlainName keyspace
  | .createTable keyspace table | .insertSeed keyspace table | .selectSeed keyspace table =>
    PlainName keyspace ∧ PlainName table

theorem tableOf?_plain {α : Type} {keyspace table : String} (make : String → String → α)
    (hk : PlainName keyspace) : tableOf? make (keyspace ++ "." ++ table) = some (make keyspace table) := by
  have hlist : (keyspace ++ "." ++ table).toList = keyspace.toList ++ '.' :: table.toList := by simp
  unfold tableOf?
  rw [hlist, cutAt_append hk.noPoint]
  simp

theorem factor?_decimal (n : Nat) : factor? (decimal n) = some (n : Int) := by
  have hlist : (decimal n).toList = decimalChars n := String.toList_ofList
  unfold factor?
  rw [hlist, if_pos ⟨decimalChars_ne_nil n, all_decimalChars n⟩, digitsValue_decimalChars]

theorem blank_not_mem_decimal (n : Nat) : ' ' ∉ (decimal n).toList := by
  have hlist : (decimal n).toList = decimalChars n := String.toList_ofList
  rw [hlist]
  intro h
  exact absurd (isDigitChar_of_mem h).notWhite (by decide)

theorem blank_not_mem_table {keyspace table : String} (hk : PlainName keyspace) (ht : PlainName table) :
    ' ' ∉ (keyspace ++ "." ++ table).toList := by
  simp [hk.noBlank, ht.noBlank]

/-- The words of a plain statement are words. -/
theorem blank_not_mem_words {s : Statement} (hs : s.Plain) : ∀ w ∈ s.words, ' ' ∉ w.toList := by
  cases s with
  | lookUp keyspace =>
    have hconstant : ∀ w ∈ (lookUp "").words, ' ' ∉ w.toList := by decide
    exact hconstant
  | createKeyspace keyspace factor =>
    obtain ⟨hk, hf⟩ := hs
    obtain ⟨n, rfl⟩ := Int.eq_ofNat_of_zero_le hf
    simp only [words, List.forall_mem_cons]
    exact ⟨by decide, by decide, hk.noBlank, by decide, by decide, by decide, by decide, by decide, by decide,
      by decide, blank_not_mem_decimal n, by decide, by simp⟩
  | createTable keyspace table =>
    simp only [words, List.forall_mem_cons]
    exact ⟨by decide, by decide, blank_not_mem_table hs.1 hs.2, by decide, by decide, by decide, by decide,
      by decide, by decide, by simp⟩
  | insertSeed keyspace table =>
    simp only [words, List.forall_mem_cons]
    exact ⟨by decide, by decide, blank_not_mem_table hs.1 hs.2, by decide, by decide, by decide, by simp⟩
  | dropKeyspace keyspace =>
    simp only [words, List.forall_mem_cons]
    exact ⟨by decide, by decide, hs.noBlank, by simp⟩
  | selectSeed keyspace table =>
    simp only [words, List.forall_mem_cons]
    exact ⟨by decide, by decide, by decide, blank_not_mem_table hs.1 hs.2, by decide, by decide, by decide,
      by decide, by simp⟩

/-- The words of a plain statement spell it. -/
theorem ofWords?_words {s : Statement} (hs : s.Plain) : ofWords? s.parameters s.words = some s := by
  cases s with
  | lookUp keyspace => rfl
  | createKeyspace keyspace factor =>
    obtain ⟨n, rfl⟩ := Int.eq_ofNat_of_zero_le hs.2
    show (factor? (decimal n)).map (Statement.createKeyspace keyspace) = _
    rw [factor?_decimal]
    rfl
  | createTable keyspace table => exact tableOf?_plain _ hs.1
  | insertSeed keyspace table => exact tableOf?_plain _ hs.1
  | dropKeyspace keyspace => rfl
  | selectSeed keyspace table => exact tableOf?_plain _ hs.1

/-- **Plain statements are read back.** -/
theorem ofRequest?_request {s : Statement} (hs : s.Plain) : ofRequest? s.request = some s := by
  have hwords : (splitOn ' ' s.text.toList).map String.ofList = s.words := by
    rw [text_eq_words, splitOn_joinWith]
    · have hid : (String.ofList ∘ String.toList) = id := funext fun _ => String.ofList_toList
      rw [List.map_map, hid, List.map_id]
    · intro hnil
      exact words_ne_nil s (List.map_eq_nil_iff.1 hnil)
    · intro p hp
      obtain ⟨w, hw, rfl⟩ := List.mem_map.1 hp
      exact blank_not_mem_words hs w hw
  show ofWords? s.parameters ((splitOn ' ' s.text.toList).map String.ofList) = some s
  rw [hwords, ofWords?_words hs]

end ClusterHealth.Cql.Statement
