import ClusterHealth.Proofs.Action
import ClusterHealth.Proofs.ReadBack
import ClusterHealth.Schema

/-!
# `ClusterHealth.Proofs.Database` — what a database makes of the statements

A database keeps keyspaces with tables with rows. Here is what it does with the statements of a check: a
keyspace or a table cannot be made twice, a table needs its keyspace and a row its table, and dropping a
keyspace drops all that is in it. A statement that is refused changes nothing. The code never sees this
database, only a store that is backed by one.

## Contents
- `Database`, `Statement.carriedOut`: keyspaces, and what a statement does to them.
- `carriedOut_createKeyspace` and the like: when a statement is carried out, and with what result.
- `Schema.Backed store n db`: a store that does what its database does, or fails.
- `Schema.describe_spec`, `Schema.executeAll_spec`: what is found, and how far statements get.
-/

namespace ClusterHealth

open ClusterHealth.Text ClusterHealth.Number ClusterHealth.Validation

/-! ## Databases -/

namespace Cql

/-- A keyspace: the copies of each row, and the keys of the rows of each table. -/
structure Keyspace where
  factor : Nat
  tables : List (String × List String)
  deriving DecidableEq, Repr

/-- Keyspaces by name. -/
abbrev Database := List (String × Keyspace)

/-- What the metadata tell about a keyspace. -/
def Keyspace.options (k : Keyspace) : Replication.Options :=
  [("class", .text "org.apache.cassandra.locator.SimpleStrategy"),
    (Replication.factorName, .text (decimal k.factor))]

/-- A keyspace with a table that has these keys. -/
def Keyspace.withTable (k : Keyspace) (table : String) (keys : List String) : Keyspace :=
  { k with tables := Pairs.put table keys k.tables }

/-- A request that the database cannot make sense of. -/
def invalidRequest (message : String) : Failure :=
  .driver (.refusal .invalidRequest message)

/-- The database after a statement, or why the statement is refused. -/
def Statement.carriedOut (d : Database) : Statement → Except Failure Database
  | .createKeyspace keyspace factor =>
    match Pairs.get? keyspace d with
    | some _ => .error (.driver (.alreadyExists keyspace none))
    | none =>
      if factor < 0 then .error (.driver (.refusal .configuration "Replication factor must be non-negative"))
      else .ok (Pairs.put keyspace ⟨factor.toNat, []⟩ d)
  | .createTable keyspace table =>
    match Pairs.get? keyspace d with
    | none => .error (invalidRequest ("Keyspace '" ++ keyspace ++ "' doesn't exist"))
    | some k =>
      match Pairs.get? table k.tables with
      | some _ => .error (.driver (.alreadyExists keyspace table))
      | none => .ok (Pairs.put keyspace (k.withTable table []) d)
  | .insertSeed keyspace table =>
    match Pairs.get? keyspace d with
    | none => .error (invalidRequest ("Keyspace '" ++ keyspace ++ "' doesn't exist"))
    | some k =>
      match Pairs.get? table k.tables with
      | none => .error (invalidRequest ("unconfigured table " ++ table))
      -- A row that is there already is written over, so that no key comes twice.
      | some keys =>
        .ok (Pairs.put keyspace (k.withTable table (if seedKey ∈ keys then keys else keys ++ [seedKey])) d)
  | .dropKeyspace keyspace =>
    match Pairs.get? keyspace d with
    | none => .error (invalidRequest ("Keyspace '" ++ keyspace ++ "' doesn't exist"))
    | some _ => .ok (Pairs.erase keyspace d)
  | .lookUp _ | .selectSeed .. => .ok d

/-- The database after statements, one after the other. -/
def carryOut (d : Database) (statements : List Statement) : Except Failure Database :=
  statements.foldlM Statement.carriedOut d

section Carried

variable {d d' : Database} {keyspace table : String} {factor : Int}

/-- A keyspace is made if there is none of that name. -/
theorem carriedOut_createKeyspace (h : (Statement.createKeyspace keyspace factor).carriedOut d = .ok d') :
    Pairs.get? keyspace d = none ∧ d' = Pairs.put keyspace ⟨factor.toNat, []⟩ d := by
  simp only [Statement.carriedOut] at h
  cases hk : Pairs.get? keyspace d with
  | some k =>
    rw [hk] at h
    cases h
  | none =>
    rw [hk] at h
    by_cases hf : factor < 0
    · simp only [if_pos hf] at h
      cases h
    · simp only [if_neg hf] at h
      exact ⟨rfl, (Except.ok.inj h).symm⟩

/-- A table is made if its keyspace has none of that name. -/
theorem carriedOut_createTable (h : (Statement.createTable keyspace table).carriedOut d = .ok d') :
    ∃ k, Pairs.get? keyspace d = some k ∧ Pairs.get? table k.tables = none
      ∧ d' = Pairs.put keyspace (k.withTable table []) d := by
  simp only [Statement.carriedOut] at h
  cases hk : Pairs.get? keyspace d with
  | none =>
    rw [hk] at h
    cases h
  | some k =>
    rw [hk] at h
    simp only at h
    cases ht : Pairs.get? table k.tables with
    | some keys =>
      rw [ht] at h
      cases h
    | none =>
      rw [ht] at h
      exact ⟨k, rfl, ht, (Except.ok.inj h).symm⟩

/-- The row is put into a table that is there. -/
theorem carriedOut_insertSeed (h : (Statement.insertSeed keyspace table).carriedOut d = .ok d') :
    ∃ k keys, Pairs.get? keyspace d = some k ∧ Pairs.get? table k.tables = some keys
      ∧ d' = Pairs.put keyspace
        (k.withTable table (if seedKey ∈ keys then keys else keys ++ [seedKey])) d := by
  simp only [Statement.carriedOut] at h
  cases hk : Pairs.get? keyspace d with
  | none =>
    rw [hk] at h
    cases h
  | some k =>
    rw [hk] at h
    simp only at h
    cases ht : Pairs.get? table k.tables with
    | none =>
      rw [ht] at h
      cases h
    | some keys =>
      rw [ht] at h
      exact ⟨k, keys, rfl, ht, (Except.ok.inj h).symm⟩

/-- A keyspace is dropped if it is there. -/
theorem carriedOut_dropKeyspace (h : (Statement.dropKeyspace keyspace).carriedOut d = .ok d') :
    d' = Pairs.erase keyspace d := by
  simp only [Statement.carriedOut] at h
  cases hk : Pairs.get? keyspace d with
  | none =>
    rw [hk] at h
    cases h
  | some k =>
    rw [hk] at h
    exact (Except.ok.inj h).symm

theorem carryOut_nil (h : carryOut d [] = .ok d') : d' = d :=
  (Except.ok.inj h).symm

theorem carryOut_cons {s : Statement} {rest : List Statement} (h : carryOut d (s :: rest) = .ok d') :
    ∃ d₁, s.carriedOut d = .ok d₁ ∧ carryOut d₁ rest = .ok d' := by
  unfold carryOut at h
  rw [List.foldlM_cons] at h
  cases hs : s.carriedOut d with
  | error e =>
    rw [hs] at h
    exact nomatch h
  | ok d₁ =>
    rw [hs] at h
    exact ⟨d₁, rfl, h⟩

end Carried

/-! ## Metadata -/

theorem integer_decimal (n : Nat) : integer (.text (decimal n)) =
    if maxIntegerLength < (decimalChars n).length then .error .hugeInteger else .ok (n : Int) := by
  show integerOfText (decimal n) = _
  unfold integerOfText
  rw [readInteger_decimal]
  by_cases h : maxIntegerLength < (decimalChars n).length
  · rw [if_pos h, if_pos h]
  · rw [if_neg h, if_neg h]

/-- Metadata are valid if their number of copies is. -/
theorem Keyspace.ofOptions_options (k : Keyspace) : Replication.ofOptions k.options =
    match atLeast 1 integer (.text (decimal k.factor)) with
    | .ok factor => .ok ⟨"org.apache.cassandra.locator.SimpleStrategy", factor, []⟩
    | .error e => .error [⟨[Replication.factorName], e⟩] := by
  have hothers : Replication.otherNames k.options = [] := rfl
  have hclass : Replication.required Validation.text (Replication.strategyName k.options) k.options
      = .ok "org.apache.cassandra.locator.SimpleStrategy" := rfl
  have hfactor : Replication.required (atLeast 1 integer) Replication.factorName k.options
      = .part Replication.factorName (atLeast 1 integer (.text (decimal k.factor))) := rfl
  unfold Replication.ofOptions
  rw [hothers, List.mergeSort_nil, hclass, hfactor]
  cases atLeast 1 integer (.text (decimal k.factor)) <;> rfl

/-- Metadata that are valid tell the number of copies. -/
theorem Keyspace.factor_of_options {k : Keyspace} {r : Replication}
    (h : Replication.ofOptions k.options = .ok r) : r.factor = k.factor := by
  rw [Keyspace.ofOptions_options] at h
  unfold atLeast Rule.such at h
  rw [integer_decimal] at h
  by_cases hlong : maxIntegerLength < (decimalChars k.factor).length
  · rw [if_pos hlong] at h
    exact nomatch h
  · rw [if_neg hlong] at h
    by_cases hleast : (1 : Int) ≤ k.factor
    · simp [bind, Except.bind, hleast, pure, Except.pure] at h
      rw [← h]
    · simp [bind, Except.bind, hleast, throw, throwThe, MonadExceptOf.throw] at h

end Cql

/-! ## Stores backed by a database -/

namespace Schema

open Cql

variable {σ : Type} {store : Store σ} {n : Names} {db : σ → Database}

/-- A store that does with the statements on the keyspace of a check what its database does. Every call may
fail, for whatever reason; one that fails leaves the database as it was. -/
structure Backed (store : Store σ) (n : Names) (db : σ → Database) : Prop where
  found : ∀ {s s' options}, store.replication n.keyspace s = (.ok options, s') →
    options = (Pairs.get? n.keyspace (db s)).map Keyspace.options
  looked : ∀ s, db (store.replication n.keyspace s).2 = db s
  executed : ∀ {found} {wanted : Nat} {statement s s'}, statement ∈ plan n found wanted →
    store.execute statement.request s = (.ok (), s') → statement.carriedOut (db s) = .ok (db s')
  failed : ∀ {found} {wanted : Nat} {statement s e s'}, statement ∈ plan n found wanted →
    store.execute statement.request s = (.error e, s') → db s' = db s
  reported : ∀ notice s, db (store.report notice s).2 = db s

/-- What is found is what the database has, and looking it up changes nothing. -/
theorem describe_spec (h : Backed store n db) (s : σ) : db (describe store n s).2 = db s
    ∧ ∀ found, (describe store n s).1 = .ok found →
      found = (Pairs.get? n.keyspace (db s)).map fun k => (k.factor : Int) := by
  have hlooked := h.looked s
  unfold describe
  rcases hr : store.replication n.keyspace s with ⟨e | options, s₁⟩
  · rw [hr] at hlooked
    rw [Action.bind_of_error hr]
    exact ⟨hlooked, fun _ hf => nomatch hf⟩
  · rw [hr] at hlooked
    have hfound := h.found hr
    rw [Action.bind_of_ok hr]
    cases options with
    | none =>
      refine ⟨hlooked, fun found hf => ?_⟩
      rw [← Except.ok.inj hf, Option.map_eq_none_iff.1 hfound.symm]
      rfl
    | some options =>
      -- The options are those of a keyspace, whose number of copies is refused or read back.
      obtain ⟨k, hk, rfl⟩ := Option.map_eq_some_iff.1 hfound.symm
      rw [hk]
      cases ho : Replication.ofOptions k.options with
      | error issues =>
        simp only [ho]
        exact ⟨hlooked, fun _ hf => nomatch hf⟩
      | ok replication =>
        simp only [ho]
        refine ⟨hlooked, fun found hf => ?_⟩
        rw [← Except.ok.inj hf, Keyspace.factor_of_options ho]
        rfl

/-- **Statements one after the other.** All of them are carried out, or those before the one that failed. -/
theorem executeAll_spec (h : Backed store n db) {found : Option Int} {wanted : Nat}
    {statements : List Statement} (hs : ∀ statement ∈ statements, statement ∈ plan n found wanted) (s : σ) :
    ((executeAll store statements s).1 = .ok ()
        ∧ carryOut (db s) statements = .ok (db (executeAll store statements s).2))
      ∨ ∃ e done next rest, (executeAll store statements s).1 = .error e
        ∧ statements = done ++ next :: rest
        ∧ carryOut (db s) done = .ok (db (executeAll store statements s).2) := by
  -- By induction on the statements: the first either fails, and the rest is not begun, or is carried out.
  induction statements generalizing s with
  | nil => exact .inl ⟨rfl, rfl⟩
  | cons statement rest ih =>
    have hmem := hs statement List.mem_cons_self
    have hrest := fun x hx => hs x (List.mem_cons_of_mem statement hx)
    have hcons : executeAll store (statement :: rest) s =
        (store.execute statement.request >>= fun _ => executeAll store rest) s := rfl
    rcases hx : store.execute statement.request s with ⟨e | ⟨⟩, s₁⟩
    · rw [hcons, Action.bind_of_error hx]
      exact .inr ⟨e, [], statement, rest, rfl, rfl, congrArg Except.ok (h.failed hmem hx).symm⟩
    · rw [hcons, Action.bind_of_ok hx]
      have hfirst : ∀ done, carryOut (db s) (statement :: done) = carryOut (db s₁) done := by
        intro done
        unfold carryOut
        rw [List.foldlM_cons, h.executed hmem hx]
        rfl
      rcases ih hrest s₁ with ⟨hok, hall⟩ | ⟨e, done, next, later, he, rfl, hdone⟩
      · exact .inl ⟨hok, (hfirst rest).trans hall⟩
      · exact .inr ⟨e, statement :: done, next, later, he, rfl, (hfirst done).trans hdone⟩

end Schema

/-! ## A server -/

namespace Cql

/-- A database, and for each call to come its failure if it fails. -/
structure Server where
  database : Database
  failures : List (Option Failure)

namespace Server

/-- The next call: it fails, or does what it is meant to do. -/
def call {α : Type} (act : Database → Except Failure (α × Database)) : Action Server α := fun server =>
  match server.failures with
  | some e :: rest => (.error e, { server with failures := rest })
  | none :: rest => go rest server.database
  | [] => go [] server.database
where
  /-- A call that does not fail by itself. -/
  go (rest : List (Option Failure)) (d : Database) : Except Failure α × Server :=
    match act d with
    | .ok (a, d') => (.ok a, ⟨d', rest⟩)
    | .error e => (.error e, ⟨d, rest⟩)

/-- The metadata of a keyspace looked up. -/
def lookUp (keyspace : String) (d : Database) : Except Failure (Option Replication.Options × Database) :=
  .ok ((Pairs.get? keyspace d).map Keyspace.options, d)

/-- What a request says carried out. -/
def obey (r : Request) (d : Database) : Except Failure (Unit × Database) :=
  match Statement.ofRequest? r with
  | none => .error (.driver (.refusal .requestValidation "syntax error"))
  | some statement => (statement.carriedOut d).map ((), ·)

theorem obey_request {s : Statement} (hs : s.Plain) (d : Database) :
    obey s.request d = (s.carriedOut d).map ((), ·) := by
  unfold obey
  rw [Statement.ofRequest?_request hs]

/-- A server as a store. It knows of keyspaces only, and has no rows to read. -/
def store : Store Server where
  hosts := pure []
  replication keyspace := call (lookUp keyspace)
  execute r := call (obey r)
  read _ recorder := pure (recorder, .error .notConnected)
  report _ := pure ()
  clock := pure .zero

theorem call_spec {α : Type} (act : Database → Except Failure (α × Database)) (server : Server) :
    (∃ a, (call act server).1 = .ok a ∧ act server.database = .ok (a, (call act server).2.database))
      ∨ ∃ e, (call act server).1 = .error e ∧ (call act server).2.database = server.database := by
  obtain ⟨d, failures⟩ := server
  have hgo : ∀ rest, (∃ a, (call.go act rest d).1 = .ok a
      ∧ act d = .ok (a, (call.go act rest d).2.database))
      ∨ ∃ e, (call.go act rest d).1 = .error e ∧ (call.go act rest d).2.database = d := by
    intro rest
    unfold call.go
    rcases hact : act d with e | ⟨a, d'⟩
    · exact .inr ⟨e, rfl, rfl⟩
    · exact .inl ⟨a, rfl, rfl⟩
  match failures with
  | some e :: rest => exact .inr ⟨e, rfl, rfl⟩
  | none :: rest => exact hgo rest
  | [] => exact hgo []

/-- All statements of a plan are plain if its names are. -/
theorem plain_of_mem_plan {n : Schema.Names} (hk : Statement.PlainName n.keyspace)
    (ht : Statement.PlainName n.table) {found : Option Int} {wanted : Nat} {statement : Statement}
    (h : statement ∈ Schema.plan n found wanted) : statement.Plain := by
  have hcreation : ∀ statement ∈ Schema.creation n wanted, statement.Plain := by
    intro statement h
    simp only [Schema.creation, List.mem_cons, List.not_mem_nil, or_false] at h
    rcases h with rfl | rfl | rfl
    · exact ⟨hk, Int.natCast_nonneg wanted⟩
    · exact ⟨hk, ht⟩
    · exact ⟨hk, ht⟩
  cases found with
  | none => exact hcreation statement h
  | some factor =>
    unfold Schema.plan at h
    by_cases hf : factor = wanted
    · simp only [if_pos hf] at h
      exact absurd h List.not_mem_nil
    · simp only [if_neg hf] at h
      rcases List.mem_cons.1 h with rfl | h
      · exact hk
      · exact hcreation statement h

/-- **A server is backed by its database.** -/
theorem backed {n : Schema.Names} (hk : Statement.PlainName n.keyspace)
    (ht : Statement.PlainName n.table) : Schema.Backed store n database where
  found := by
    intro s s' options h
    rcases call_spec (lookUp n.keyspace) s with ⟨a, ha, hact⟩ | ⟨e, he, -⟩
    · obtain rfl : a = options := Except.ok.inj (ha.symm.trans (congrArg Prod.fst h))
      exact (congrArg Prod.fst (Except.ok.inj hact)).symm
    · exact nomatch he.symm.trans (congrArg Prod.fst h)
  looked := by
    intro s
    rcases call_spec (lookUp n.keyspace) s with ⟨a, -, hact⟩ | ⟨e, -, hsame⟩
    · exact (congrArg Prod.snd (Except.ok.inj hact)).symm
    · exact hsame
  executed := by
    intro found wanted statement s s' hmem h
    have hstate : call (obey statement.request) s = (.ok (), s') := h
    rcases call_spec (obey statement.request) s with ⟨⟨⟩, -, hact⟩ | ⟨e, he, -⟩
    · rw [hstate, obey_request (plain_of_mem_plan hk ht hmem)] at hact
      cases hc : statement.carriedOut s.database with
      | error e =>
        rw [hc] at hact
        exact nomatch hact
      | ok d =>
        rw [hc] at hact
        exact congrArg Except.ok (congrArg Prod.snd (Except.ok.inj hact))
    · exact nomatch he.symm.trans (congrArg Prod.fst hstate)
  failed := by
    intro found wanted statement s e s' hmem h
    rcases call_spec (obey statement.request) s with ⟨_, ha, -⟩ | ⟨_, -, hsame⟩
    · exact nomatch ha.symm.trans (congrArg Prod.fst h)
    · exact (congrArg (fun x => database x.2) h.symm).trans hsame
  reported := fun _ _ => rfl

end Server

end Cql

end ClusterHealth
