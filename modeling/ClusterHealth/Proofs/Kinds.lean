import ClusterHealth.Proofs.Requests
import Mathlib.Data.List.Induction

/-!
# `ClusterHealth.Proofs.Kinds` — the kinds of failures and what becomes of them

Failures are of kinds, and many kinds belong to a more general one: a read that timed out is a request that timed out,
which is a request that failed. Who catches a kind of failure catches all that belong to it. A client watches out for
some of the kinds that a session reports, for one after the other, and passes these on as failures of the store; what
belongs to none of them it leaves as it is. What it has passed on once, it passes on as it is from then on.

## Contents
- `Kind`, `Kind.general?`, `Kind.IsA`: the kinds, and which belong to which; `Kind.isA_iff_mem_lineage` decides it.
- `Failure.kind`, `Failure.isStore_eq`: the kind of a failure, and whether it is one of the store.
- `Kind.clauses`, `Kind.passedOn`, `Failure.kind_wrapTransport`: what a client watches out for, in its order.
- `LastWords`, `lastWords_ofList`: the errors of the hosts, each host once.
- `Failure.wrapTransport_projection`: what becomes of a failure, and of its text.
-/

namespace ClusterHealth

/-! ## Kinds -/

/-- The kinds of failures, the general ones among them. -/
inductive Kind where
  /-- Every failure. -/
  | any
  /-- Of the ways of a session. -/
  | driver
  /-- A request that the cluster took and did not carry out. -/
  | execution
  | timeout
  | readTimeout
  | writeTimeout
  | coordination
  | readFailure
  | writeFailure
  | unavailable
  | changeLog
  | function
  /-- A request that was given up on this side. -/
  | operationTimedOut
  /-- A request that was refused as it stands. -/
  | validation
  | configuration
  | alreadyExists
  | invalidRequest
  | unauthorized
  | authentication
  | unsupported
  | unresolvable
  | noHostAvailable
  /-- A connection that broke. -/
  | connection
  | shutdown
  | checksum
  | unsupportedVersion
  | connectionBusy
  | protocol
  | traceUnavailable
  /-- The data store failed. -/
  | store
  | noHosts
  /-- Of neither a session nor the store. -/
  | elsewhere
  deriving DecidableEq, Repr

namespace Kind

/-- The more general kind that a kind belongs to. -/
def general? : Kind → Option Kind
  | .any => none
  | .driver | .noHostAvailable | .connection | .connectionBusy | .protocol | .traceUnavailable | .store
  | .elsewhere => some .any
  | .execution | .operationTimedOut | .validation | .authentication | .unsupported | .unresolvable => some .driver
  | .timeout | .coordination | .unavailable | .changeLog | .function => some .execution
  | .readTimeout | .writeTimeout => some .timeout
  | .readFailure | .writeFailure => some .coordination
  | .configuration | .invalidRequest | .unauthorized => some .validation
  | .alreadyExists => some .configuration
  | .shutdown | .checksum | .unsupportedVersion => some .connection
  | .noHosts => some .store

/-- A kind belongs to itself, and to whatever its general kind belongs to. -/
inductive IsA : Kind → Kind → Prop
  | refl (k : Kind) : IsA k k
  | general {k g h : Kind} (hg : k.general? = some g) (hh : IsA g h) : IsA k h

/-- A kind and so many of the more general ones above it. -/
def climb : Kind → Nat → List Kind
  | k, 0 => [k]
  | k, n + 1 => k :: (k.general?.map (climb · n)).getD []

/-- A kind and all the more general ones above it, of which there are four at most. -/
def lineage (k : Kind) : List Kind := k.climb 4

variable {k g : Kind}

theorem isA_of_mem_climb {n : Nat} (h : g ∈ k.climb n) : k.IsA g := by
  induction n generalizing k with
  | zero =>
    rw [List.mem_singleton.1 h]
    exact .refl k
  | succ n ih =>
    rcases List.mem_cons.1 h with rfl | h
    · exact .refl g
    · cases hk : k.general? with
      | none =>
        rw [hk] at h
        exact absurd h List.not_mem_nil
      | some parent =>
        rw [hk] at h
        exact .general hk (ih h)

/-- The climb does not stop short. -/
theorem lineage_closed (k : Kind) : ∀ g ∈ k.lineage, ∀ h ∈ g.general?, h ∈ k.lineage := by
  cases k <;> decide

theorem IsA.mem_lineage {start : Kind} (h : k.IsA g) (hk : k ∈ start.lineage) : g ∈ start.lineage := by
  induction h with
  | refl => exact hk
  | general hg _ ih => exact ih (lineage_closed start _ hk _ hg)

theorem isA_iff_mem_lineage : k.IsA g ↔ g ∈ k.lineage :=
  ⟨fun h => h.mem_lineage List.mem_cons_self, isA_of_mem_climb⟩

instance (k g : Kind) : Decidable (k.IsA g) :=
  decidable_of_iff (g ∈ k.lineage) isA_iff_mem_lineage.symm

/-! ## What a client watches out for -/

/-- The kinds that a client watches out for, in this order, with the kind that it passes them on as. -/
def clauses : List (List Kind × Kind) :=
  [([.noHostAvailable], .noHosts), ([.operationTimedOut, .execution, .connection], .store)]

/-- The kind that a kind is passed on as: what the first clause says of it, and itself where there is none. -/
def passedOn (k : Kind) : Kind :=
  ((clauses.find? fun clause => clause.1.any fun g => decide (k.IsA g)).map (·.2)).getD k

/-- The kinds that become failures of the store. -/
def transport : List Kind :=
  [.noHostAvailable, .operationTimedOut, .execution, .connection]

/-- Who catches failures of the store catches what belongs to one of these, and what is one already. -/
theorem passedOn_isA_store (k : Kind) :
    k.passedOn.IsA .store ↔ (∃ g ∈ transport, k.IsA g) ∨ k.IsA .store := by
  cases k <;> decide

end Kind

/-! ## Failures -/

namespace DriverFailure

/-- The kind of a failure that a session reports. -/
def kind : DriverFailure → Kind
  | .readTimeout .. => .readTimeout
  | .writeTimeout .. => .writeTimeout
  | .readFailure .. => .readFailure
  | .writeFailure .. => .writeFailure
  | .unavailable .. => .unavailable
  | .operationTimedOut .. => .operationTimedOut
  | .execution .general _ => .execution
  | .execution .changeLog _ => .changeLog
  | .execution .function _ => .function
  | .connection .general _ => .connection
  | .connection .shutdown _ => .shutdown
  | .connection .checksum _ => .checksum
  | .connection .unsupportedVersion _ => .unsupportedVersion
  | .noHostAvailable .. => .noHostAvailable
  | .traceUnavailable _ => .traceUnavailable
  | .alreadyExists .. => .alreadyExists
  | .refusal .invalidRequest _ => .invalidRequest
  | .refusal .unauthorized _ => .unauthorized
  | .refusal .configuration _ => .configuration
  | .refusal .requestValidation _ => .validation
  | .refusal .authenticationFailed _ => .authentication
  | .refusal .unsupportedOperation _ => .unsupported
  | .refusal .unresolvableContactPoints _ => .unresolvable
  | .refusal .driver _ => .driver
  | .refusal .connectionBusy _ => .connectionBusy
  | .refusal .protocol _ => .protocol

/-- What is called transport are the kinds that a client watches out for. -/
theorem isTransport_eq (f : DriverFailure) :
    f.isTransport = decide (∃ g ∈ Kind.transport, f.kind.IsA g) := by
  cases f with
  | execution fault => cases fault <;> rfl
  | connection fault => cases fault <;> rfl
  | refusal kind => cases kind <;> rfl
  | _ => rfl

end DriverFailure

namespace Failure

/-- The kind of a failure. -/
def kind : Failure → Kind
  | .driver f => f.kind
  | .store _ => .store
  | .noHosts .. => .noHosts
  | _ => .elsewhere

/-- A failure of the store is one by its kind. -/
theorem isStore_eq (e : Failure) : e.isStore = decide (e.kind.IsA .store) := by
  cases e with
  | driver f =>
    cases f with
    | execution fault => cases fault <;> rfl
    | connection fault => cases fault <;> rfl
    | refusal kind => cases kind <;> rfl
    | _ => rfl
  | _ => rfl

/-- **The clauses in their order** say what becomes of a failure. -/
theorem kind_wrapTransport (e : Failure) : e.wrapTransport.kind = e.kind.passedOn := by
  cases e with
  | driver f =>
    cases f with
    | execution fault => cases fault <;> rfl
    | connection fault => cases fault <;> rfl
    | refusal kind => cases kind <;> rfl
    | _ => rfl
  | _ => rfl

theorem isTransport_eq (e : Failure) : e.isTransport = decide (∃ g ∈ Kind.transport, e.kind.IsA g) := by
  cases e with
  | driver f => exact f.isTransport_eq
  | _ => rfl

theorem isTransport_of_isStore {e : Failure} (h : e.isStore = true) : e.isTransport = false := by
  cases e with
  | store | noHosts => rfl
  | _ => exact nomatch h

/-- What has been passed on once is passed on as it is. -/
theorem wrapTransport_wrapTransport (e : Failure) : e.wrapTransport.wrapTransport = e.wrapTransport := by
  cases h : e.isTransport with
  | true => exact wrapTransport_of_not (isTransport_of_isStore (wrapTransport_isStore h))
  | false => rw [wrapTransport_of_not h, wrapTransport_of_not h]

end Failure

/-! ## The errors of the hosts -/

namespace Pairs

variable {κ β : Type} [DecidableEq κ] {key : κ} {value : β} {table pairs : List (κ × β)}

theorem keys_put : (put key value table).map Prod.fst
    = if key ∈ table.map Prod.fst then table.map Prod.fst else table.map Prod.fst ++ [key] := by
  induction table with
  | nil => rfl
  | cons first rest ih =>
    obtain ⟨k, v⟩ := first
    by_cases hk : k = key
    · simp [put, hk]
    · rw [put, if_neg hk, List.map_cons, ih]
      simp only [List.map_cons, List.mem_cons, Ne.symm hk, false_or]
      split
      · rfl
      · rfl

theorem mem_put_iff {entry : κ × β} (hkeys : (table.map Prod.fst).Nodup) :
    entry ∈ put key value table ↔ entry = (key, value) ∨ entry ∈ table ∧ entry.1 ≠ key := by
  have hput : ((put key value table).map Prod.fst).Nodup := nodup_put hkeys
  have hself := mem_of_get? (get?_put_self key value table)
  constructor
  · intro h
    by_cases hk : entry.1 = key
    · left
      have hfound := get?_of_mem hput h
      rw [hk, get?_put_self] at hfound
      exact Prod.ext hk (Option.some.inj hfound).symm
    · rcases mem_of_mem_put h with he | hold
      · exact absurd (congrArg Prod.fst he) hk
      · exact .inr ⟨hold, hk⟩
  · rintro (rfl | ⟨h, hk⟩)
    · exact hself
    · exact mem_put_of_ne h hk

theorem ofList_append_singleton (pairs : List (κ × β)) (entry : κ × β) :
    ofList (pairs ++ [entry]) = put entry.1 entry.2 (ofList pairs) := by
  unfold ofList
  rw [List.foldl_append]
  rfl

/-- The first occurrences of the keys, in their order. -/
theorem eraseDups_append_singleton (keys : List κ) (key : κ) :
    (keys ++ [key]).eraseDups = if key ∈ keys then keys.eraseDups else keys.eraseDups ++ [key] := by
  rw [List.eraseDups_append]
  by_cases h : key ∈ keys
  · simp [List.removeAll, h]
  · rw [if_neg h]
    have hnew : [key].removeAll keys = [key] := by simp [List.removeAll, h]
    rw [hnew]
    rfl

end Pairs

/-- What is known of each host last, in the order in which the hosts came first. -/
structure LastWords (errors table : List (String × String)) : Prop where
  once : (table.map Prod.fst).Nodup
  hosts : table.map Prod.fst = (errors.map Prod.fst).eraseDups
  last : ∀ host words, (host, words) ∈ table
    ↔ ∃ before after, errors = before ++ (host, words) :: after ∧ host ∉ after.map Prod.fst

theorem lastWords_ofList (errors : List (String × String)) : LastWords errors (Pairs.ofList errors) := by
  -- By induction from the last error on, which replaces what is known of its host, or is the first of it.
  induction errors using List.reverseRecOn with
  | nil =>
    refine ⟨List.nodup_nil, rfl, fun host words => ?_⟩
    simp [Pairs.ofList]
  | append_singleton errors entry ih =>
    rw [Pairs.ofList_append_singleton]
    refine ⟨Pairs.nodup_put ih.once, ?_, fun host words => ?_⟩
    · rw [Pairs.keys_put, ih.hosts, List.map_append, List.map_singleton, Pairs.eraseDups_append_singleton]
      simp only [List.mem_eraseDups]
    · rw [Pairs.mem_put_iff ih.once, ih.last]
      constructor
      · rintro (hentry | ⟨⟨before, after, rfl, hafter⟩, hne⟩)
        · exact ⟨errors, [], by rw [hentry], List.not_mem_nil⟩
        · refine ⟨before, after ++ [entry], by simp, ?_⟩
          rw [List.map_append, List.mem_append, not_or]
          exact ⟨hafter, fun h => hne (List.mem_singleton.1 h)⟩
      · rintro ⟨before, after, hsplit, hafter⟩
        rcases List.eq_nil_or_concat after with rfl | ⟨rest, final, rfl⟩
        · obtain ⟨-, hentry⟩ := List.append_inj' hsplit rfl
          exact .inl (List.singleton_inj.1 hentry).symm
        · rw [List.concat_eq_append] at hsplit hafter
          rw [← List.cons_append, ← List.append_assoc] at hsplit
          obtain ⟨herrors, hfinal⟩ := List.append_inj' hsplit rfl
          obtain rfl := List.singleton_inj.1 hfinal
          rw [List.map_append, List.mem_append, not_or] at hafter
          exact .inr ⟨⟨before, rest, herrors, hafter.1⟩, fun hhost => hafter.2 (List.mem_singleton.2 hhost)⟩

/-! ## What becomes of a failure -/

namespace Failure

/-- What each host said, for one host after the other. -/
def listing (table : List (String × String)) : String :=
  String.intercalate "; " (table.map fun (host, words) => host ++ ": " ++ words)

theorem text_noHosts (message : String) (table : List (String × String)) :
    (noHosts message table).text = if table = [] then message else message ++ " (" ++ listing table ++ ")" :=
  rfl

/-- The message stands alone just if no host said anything. -/
theorem text_noHosts_eq_message (message : String) (table : List (String × String)) :
    (noHosts message table).text = message ↔ table = [] := by
  rw [text_noHosts]
  split
  · next h => exact iff_of_true rfl h
  · next h =>
    refine iff_of_false (fun hsame => ?_) h
    have hlength := congrArg String.length hsame
    have hopening : " (".length = 2 := by decide
    simp only [String.length_append] at hlength
    omega

/-- A failure of a session that becomes one of the store keeps its label and its text. -/
theorem wrapTransport_driver {f : DriverFailure} (h : f.kind.passedOn = .store) :
    (driver f).wrapTransport = .store (f.label ++ ": " ++ f.text) := by
  have hstore : ¬ f.kind.IsA .store := fun hf => nomatch (isStore_eq (driver f)).trans (decide_eq_true hf)
  have hf : f.isTransport = true := by
    rw [f.isTransport_eq, decide_eq_true_iff]
    exact ((Kind.passedOn_isA_store f.kind).1 (h ▸ .refl _)).resolve_right hstore
  cases f with
  | noHostAvailable => exact absurd h (by decide : Kind.noHostAvailable.passedOn ≠ .store)
  | _ => simp only [wrapTransport, if_pos hf]

/-- **Passing failures on is a projection that loses no host.** Who catches failures of the store catches just those of
the kinds that a client watches out for, and those that are of the store already; all others stay as they are; and
twice is as good as once. Of hosts that could not be asked each one is there once, as they came, with the last that is
known of it. -/
theorem wrapTransport_projection :
    (∀ e : Failure,
      (e.wrapTransport.isStore = true ↔ (∃ g ∈ Kind.transport, e.kind.IsA g) ∨ e.isStore = true)
        ∧ ((¬ ∃ g ∈ Kind.transport, e.kind.IsA g) → e.wrapTransport = e)
        ∧ e.wrapTransport.kind = e.kind.passedOn
        ∧ e.wrapTransport.wrapTransport = e.wrapTransport)
      ∧ (∀ f : DriverFailure, f.kind.passedOn = .store →
          (driver f).wrapTransport = .store (f.label ++ ": " ++ f.text))
      ∧ ∀ message errors, ∃ table,
          (driver (.noHostAvailable message errors)).wrapTransport = .noHosts "No hosts available" table
            ∧ LastWords (errors.getD []) table
            ∧ ((noHosts "No hosts available" table).text = "No hosts available" ↔ table = [])
            ∧ (table ≠ [] → (noHosts "No hosts available" table).text
              = "No hosts available" ++ " (" ++ listing table ++ ")") := by
  refine ⟨fun e => ⟨?_, ?_, kind_wrapTransport e, wrapTransport_wrapTransport e⟩,
    fun f => wrapTransport_driver, fun message errors => ?_⟩
  · rw [isStore_eq, isStore_eq, kind_wrapTransport, decide_eq_true_iff, decide_eq_true_iff]
    exact Kind.passedOn_isA_store e.kind
  · intro h
    apply wrapTransport_of_not
    rw [isTransport_eq]
    exact decide_eq_false h
  · refine ⟨Pairs.ofList (errors.getD []), rfl, lastWords_ofList _, text_noHosts_eq_message _ _, fun hne => ?_⟩
    rw [text_noHosts, if_neg hne]

/-- Two hosts, of which one is heard of twice; a connection that was shut down, and a refusal. -/
theorem wrapTransport_projection_twoHosts :
    (driver (.noHostAvailable "Unable to connect"
        (some [("10.0.0.2", "refused"), ("10.0.0.1", "timed out"), ("10.0.0.2", "reset")]))).wrapTransport
      = .noHosts "No hosts available" [("10.0.0.2", "reset"), ("10.0.0.1", "timed out")]
      ∧ (noHosts "No hosts available" [("10.0.0.2", "reset"), ("10.0.0.1", "timed out")]).text
        = "No hosts available (10.0.0.2: reset; 10.0.0.1: timed out)"
      ∧ (driver (.connection .shutdown "closed")).wrapTransport = .store "ConnectionShutdown: closed"
      ∧ (driver (.refusal .unauthorized "no")).wrapTransport = driver (.refusal .unauthorized "no") := by
  obtain ⟨hall, hdriver, hhosts⟩ := wrapTransport_projection
  obtain ⟨table, htable, -, -, htext⟩ := hhosts "Unable to connect"
    (some [("10.0.0.2", "refused"), ("10.0.0.1", "timed out"), ("10.0.0.2", "reset")])
  have hlast : (driver (.noHostAvailable "Unable to connect"
      (some [("10.0.0.2", "refused"), ("10.0.0.1", "timed out"), ("10.0.0.2", "reset")]))).wrapTransport
        = .noHosts "No hosts available" [("10.0.0.2", "reset"), ("10.0.0.1", "timed out")] := by
    decide
  obtain ⟨-, rfl⟩ := Failure.noHosts.inj (htable.symm.trans hlast)
  obtain ⟨-, hunchanged, -, -⟩ := hall (driver (.refusal .unauthorized "no"))
  exact ⟨hlast, htext (by decide), hdriver _ (by decide), hunchanged (by decide)⟩

end Failure

end ClusterHealth
