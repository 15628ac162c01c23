import ClusterHealth.Proofs.Lexemes
import ClusterHealth.Proofs.Settings
import ClusterHealth.Proofs.Watch
import ClusterHealth.Run

/-!
# `ClusterHealth.Proofs.Naming` — the names of the keyspace and the table

The names are put into statements as they are, and the check folds them in one place and not in another.
That is harmless because accepted settings hold nothing but plain identifiers, which folding leaves alone
and which are words of CQL. So every request of a check is about the same keyspace and the same table, and
no name can bring other CQL into a statement.

## Contents
- `Identifier`, `Identifier.lower_eq`: plain identifiers are in small letters.
- `identifierRule_eq_ok`, `identifierRule_of_not_identifier`: what a setting takes for an identifier.
- `Statement.About`, `Access.About`: statements and requests about these names and no others.
- `Check.about_of_run`: all requests of a check are about the same names.
- `names_agree`: the names in accepted settings.
-/

namespace ClusterHealth

open ClusterHealth.Text ClusterHealth.Validation ClusterHealth.Cql

/-! ## Identifiers -/

/-- A plain identifier: at most 48 small letters, digits and underscores, of which the first is a letter. -/
structure Identifier (s : String) : Prop where
  nonempty : 1 ≤ s.toList.length
  short : s.toList.length ≤ 48
  opens : ∀ c ∈ s.toList.head?, 'a' ≤ c ∧ c ≤ 'z'
  plain : ∀ c ∈ s.toList, ('a' ≤ c ∧ c ≤ 'z') ∨ ('0' ≤ c ∧ c ≤ '9') ∨ c = '_'

theorem isSmallLetter_iff {c : Char} : isSmallLetter c = true ↔ 'a' ≤ c ∧ c ≤ 'z' := by
  simp [isSmallLetter]

theorem isIdentifierChar_iff {c : Char} :
    isIdentifierChar c = true ↔ ('a' ≤ c ∧ c ≤ 'z') ∨ ('0' ≤ c ∧ c ≤ '9') ∨ c = '_' := by
  simp [isIdentifierChar, isSmallLetter, Number.isAsciiDigit, or_assoc]

/-- The test for identifiers is exact. -/
theorem isIdentifier_iff {s : String} : isIdentifier s = true ↔ Identifier s := by
  unfold isIdentifier
  cases hs : s.toList with
  | nil =>
    refine ⟨fun h => (nomatch h), fun h => ?_⟩
    have hlength := h.nonempty
    rw [hs] at hlength
    exact absurd hlength (by decide)
  | cons c rest =>
    simp only [Bool.and_eq_true, isSmallLetter_iff, List.all_eq_true, isIdentifierChar_iff, decide_eq_true_eq]
    constructor
    · rintro ⟨⟨hc, hrest⟩, hlength⟩
      refine ⟨?_, ?_, ?_, ?_⟩
      · rw [hs]
        exact Nat.succ_le_succ (Nat.zero_le _)
      · rw [hs]
        exact Nat.succ_le_succ hlength
      · intro d hd
        rw [hs] at hd
        rw [← Option.some.inj hd]
        exact hc
      · intro d hd
        rw [hs] at hd
        rcases List.mem_cons.1 hd with rfl | hd
        · exact .inl hc
        · exact hrest d hd
    · intro h
      have hlength := h.short
      have hopens := h.opens
      have hplain := h.plain
      rw [hs] at hlength hopens hplain
      refine ⟨⟨hopens c rfl, fun d hd => hplain d (List.mem_cons_of_mem c hd)⟩, ?_⟩
      exact Nat.le_of_succ_le_succ hlength

/-- What is known of the characters of an identifier. -/
theorem plain_char {c : Char} (h : ('a' ≤ c ∧ c ≤ 'z') ∨ ('0' ≤ c ∧ c ≤ '9') ∨ c = '_') :
    isWordChar c = true ∧ c ≠ 'Σ' ∧ c ≠ 'İ' ∧ lowerChar c = c := by
  have hbound : c.toNat < 128 := by
    have hle : ∀ d : Char, c ≤ d → c.toNat ≤ d.toNat := fun d hd => hd
    rcases h with ⟨-, h⟩ | ⟨-, h⟩ | rfl
    · exact Nat.lt_of_le_of_lt (hle _ h) (by decide)
    · exact Nat.lt_of_le_of_lt (hle _ h) (by decide)
    · decide
  have hall : isIdentifierChar c = true → isWordChar c = true ∧ c ≠ 'Σ' ∧ c ≠ 'İ' ∧ lowerChar c = c :=
    ascii_forall (P := fun c => isIdentifierChar c = true →
      isWordChar c = true ∧ c ≠ 'Σ' ∧ c ≠ 'İ' ∧ lowerChar c = c) (by decide +kernel) hbound
  exact hall (isIdentifierChar_iff.2 h)

theorem lowerAfter_of_plain {before cs : List Char}
    (h : ∀ c ∈ cs, ('a' ≤ c ∧ c ≤ 'z') ∨ ('0' ≤ c ∧ c ≤ '9') ∨ c = '_') : lowerAfter before cs = cs := by
  induction cs generalizing before with
  | nil => rfl
  | cons c cs ih =>
    obtain ⟨-, hsigma, hdotted, hlower⟩ := plain_char (h c List.mem_cons_self)
    have hrest : lowerAfter (c :: before) cs = cs := ih fun d hd => h d (List.mem_cons_of_mem c hd)
    have hat : lowerAt before c cs = [c] := by
      unfold lowerAt
      rw [if_neg hsigma, if_neg hdotted, hlower]
    rw [lowerAfter, hat, hrest]
    rfl

namespace Identifier

variable {s : String}

/-- An identifier is in small letters. -/
theorem lower_eq (h : Identifier s) : lower s = s := by
  unfold lower
  rw [lowerAfter_of_plain h.plain, String.ofList_toList]

/-- An identifier is a word of CQL. -/
theorem wordName (h : Identifier s) : WordName s := by
  refine ⟨?_, fun c hc => (plain_char (h.plain c hc)).1⟩
  intro hnil
  have hlength := h.nonempty
  rw [hnil] at hlength
  exact absurd hlength (by decide)

end Identifier

/-! ## Settings -/

namespace Settings

/-- An identifier is read from text, or from text in bytes, whose small letters it is. -/
theorem identifierRule_eq_ok {v : Value} {name : String} (h : identifierRule v = .ok name) :
    Identifier name ∧ ∃ t, Validation.text v = .ok t ∧ name = lower t := by
  unfold identifierRule Rule.such at h
  cases hv : Validation.text (folded v) with
  | error fault =>
    rw [hv] at h
    exact nomatch h
  | ok x =>
    rw [hv] at h
    by_cases hx : isIdentifier x = true
    · have hname : x = name := by
        simp only [bind, Except.bind, hx, if_true, pure, Except.pure, Except.ok.injEq] at h
        exact h
      have hid : Identifier x := isIdentifier_iff.1 hx
      subst hname
      refine ⟨hid, ?_⟩
      cases v with
      | text t => exact ⟨t, rfl, (Except.ok.inj hv).symm⟩
      | _ => exact ⟨x, hv, hid.lower_eq.symm⟩
    · simp [bind, Except.bind, hx, throw, throwThe, MonadExceptOf.throw] at h

/-- A text whose small letters are no identifier is refused. -/
theorem identifierRule_of_not_identifier {v : Value} {t : String} (hv : Validation.text v = .ok t)
    (ht : ¬ Identifier (lower t)) : identifierRule v = .error .patternMismatch := by
  have hread : ∃ x, Validation.text (folded v) = .ok x ∧ isIdentifier x = false := by
    cases v with
    | text s =>
      have hs : s = t := Except.ok.inj hv
      refine ⟨lower s, rfl, Bool.eq_false_iff.2 fun h => ht ?_⟩
      rw [← hs]
      exact isIdentifier_iff.1 h
    | _ =>
      -- Other values are not folded; but an identifier would have been its own small letters.
      refine ⟨t, hv, Bool.eq_false_iff.2 fun h => ht ?_⟩
      have hid : Identifier t := isIdentifier_iff.1 h
      rw [hid.lower_eq]
      exact hid
  obtain ⟨x, hx, hfalse⟩ := hread
  unfold identifierRule Rule.such
  rw [hx]
  simp [bind, Except.bind, hfalse, throw, throwThe, MonadExceptOf.throw]

/-- How a name was given: not at all, or as a text whose small letters it is. -/
def NamedBy (source : Source) (field : Field) (name : String) : Prop :=
  match source.given? field with
  | none => name = "healthcheck"
  | some v => ∃ t, Validation.text v = .ok t ∧ name = lower t

theorem identifier_default : Identifier "healthcheck" :=
  isIdentifier_iff.1 (by decide)

/-- A name that was read is an identifier, and was given as the source says. -/
theorem name_of_setting {source : Source} {field : Field} {name : String}
    (h : setting source field identifierRule "healthcheck" = .ok name) :
    Identifier name ∧ NamedBy source field name := by
  unfold NamedBy
  rcases setting_eq_ok.1 h with ⟨hgiven, rfl⟩ | ⟨v, hgiven, hread⟩
  · rw [hgiven]
    exact ⟨identifier_default, rfl⟩
  · obtain ⟨hid, ht⟩ := identifierRule_eq_ok hread
    rw [hgiven]
    exact ⟨hid, ht⟩

end Settings

/-! ## Requests -/

/-- A statement about this keyspace and this table, and about no others. -/
def Cql.Statement.About (n : Schema.Names) : Statement → Prop
  | .lookUp keyspace | .createKeyspace keyspace _ | .dropKeyspace keyspace => keyspace = n.keyspace
  | .createTable keyspace table | .insertSeed keyspace table | .selectSeed keyspace table =>
    keyspace = n.keyspace ∧ table = n.table

/-- A request about this keyspace and this table, and about no others. -/
def Access.About (n : Schema.Names) : Access → Prop
  | .lookedUp keyspace _ => keyspace = n.keyspace
  | .executed r => ∃ s : Statement, s.About n ∧ r = s.request
  | .read q => q.text = (Statement.selectSeed n.keyspace n.table).text

namespace Schema

/-- All statements of a plan are about the names of the plan. -/
theorem about_of_mem_plan {n : Names} {found : Option Int} {wanted : Int} {s : Statement}
    (h : s ∈ plan n found wanted) : s.About n := by
  have hcreation : ∀ s ∈ creation n wanted, Statement.About n s := by
    unfold creation
    simp only [List.forall_mem_cons]
    exact ⟨rfl, ⟨rfl, rfl⟩, ⟨rfl, rfl⟩, nofun⟩
  cases found with
  | none => exact hcreation s h
  | some factor =>
    have hplan : plan n (some factor) wanted =
        if factor = wanted then [] else .dropKeyspace n.keyspace :: creation n wanted := rfl
    rw [hplan] at h
    by_cases hf : factor = wanted
    · rw [if_pos hf] at h
      exact absurd h List.not_mem_nil
    · rw [if_neg hf] at h
      rcases List.mem_cons.1 h with rfl | h
      · rfl
      · exact hcreation s h

theorem about_of_mem_due {σ : Type} {store : Store σ} {n : Names} {snapshot : Topology.Snapshot} {x : σ}
    {s : Statement} (h : s ∈ due store n snapshot x) : s.About n := by
  unfold due at h
  cases hdescribe : (describe store n x).1 with
  | error e =>
    rw [hdescribe] at h
    exact absurd h List.not_mem_nil
  | ok found =>
    rw [hdescribe] at h
    exact about_of_mem_plan h

end Schema

namespace Check

variable {σ : Type} {store : Store σ} {names : Schema.Names} {x : σ} {access : Access}

/-- Where folding leaves the names alone, every request of a check is about them. -/
theorem Inquiry.about {log : List Access} (h : Inquiry store names x log) (hfolded : names.folded = names)
    (haccess : access ∈ log) : access.About names := by
  have hsending : ∀ {done : List Statement}, (∀ s ∈ done, s.About names) →
      access ∈ Access.sending done → access.About names := by
    intro done hdone hmem
    obtain ⟨s, hs, rfl⟩ := List.mem_map.1 hmem
    exact ⟨s, hdone s hs, rfl⟩
  cases h with
  | unseen taken => exact absurd haccess List.not_mem_nil
  | stopped taken failed part some =>
    rw [hfolded] at haccess part
    rcases List.mem_cons.1 haccess with rfl | haccess
    · rfl
    · exact hsending (fun s hs => Schema.about_of_mem_due (part.subset hs)) haccess
  | probed taken returned =>
    rw [hfolded] at haccess
    rcases List.mem_cons.1 haccess with rfl | haccess
    · rfl
    · rcases List.mem_append.1 haccess with haccess | haccess
      · exact hsending (fun s hs => Schema.about_of_mem_due hs) haccess
      · rw [List.mem_singleton.1 haccess]
        rfl

/-- All requests of a check are about the same names. -/
theorem about_of_run (store : Store σ) (x : σ) (hfolded : names.folded = names)
    (haccess : access ∈ (run store.watched names (x, [])).2.2) : access.About names := by
  obtain ⟨log, hrun, hinquiry⟩ := run_watched store names x
  rw [hrun] at haccess
  exact hinquiry.about hfolded haccess

end Check

/-! ## Accepted names -/

/-- A statement about identifiers names them as words. -/
theorem Cql.Statement.About.named {n : Schema.Names} {s : Statement} (h : s.About n)
    (hk : Identifier n.keyspace) (ht : Identifier n.table) : s.Named := by
  cases s with
  | lookUp keyspace => trivial
  | createKeyspace keyspace factor =>
    have hname : keyspace = n.keyspace := h
    exact hname ▸ hk.wordName
  | dropKeyspace keyspace =>
    have hname : keyspace = n.keyspace := h
    exact hname ▸ hk.wordName
  | createTable keyspace table => exact ⟨h.1 ▸ hk.wordName, h.2 ▸ ht.wordName⟩
  | insertSeed keyspace table => exact ⟨h.1 ▸ hk.wordName, h.2 ▸ ht.wordName⟩
  | selectSeed keyspace table => exact ⟨h.1 ▸ hk.wordName, h.2 ▸ ht.wordName⟩

/-- Requests for the same text with the same parameters are for the same statement. -/
theorem Cql.Statement.request_injective {s s' : Statement} (hs : s.Named) (hs' : s'.Named)
    (h : s.request = s'.request) : s = s' := by
  have htext : s.text = s'.text := congrArg Request.text h
  have hparameters : s.parameters = s'.parameters := congrArg Request.parameters h
  rcases text_injective hs hs' htext with heq | ⟨keyspace, keyspace', rfl, rfl⟩
  · exact heq
  · have hlist := Option.some.inj hparameters
    have hvalue : Value.text keyspace = Value.text keyspace' := (List.cons.inj hlist).1
    rw [Value.text.inj hvalue]

namespace Settings

/-- Names in settings that are accepted. -/
structure SafeNames (s : Settings) : Prop where
  keyspace : Identifier s.keyspace
  table : Identifier s.table

theorem safeNames_of_ok {source : Source} {s : Settings} (h : ofSource source = .ok s) : SafeNames s := by
  obtain ⟨hread, -⟩ := ofSource_eq_ok.1 h
  exact ⟨(name_of_setting hread.keyspace).1, (name_of_setting hread.table).1⟩

theorem SafeNames.folded_eq {s : Settings} (h : SafeNames s) :
    (Run.namesOf s).folded = Run.namesOf s := by
  show Schema.Names.mk (lower s.keyspace) (lower s.table) = ⟨s.keyspace, s.table⟩
  rw [h.keyspace.lower_eq, h.table.lower_eq]

theorem SafeNames.named {s : Settings} (h : SafeNames s) {statement : Statement}
    (habout : statement.About (Run.namesOf s)) : statement.Named :=
  habout.named h.keyspace h.table

/-- **Configured names are safe in CQL and agree everywhere.** In accepted settings both names are plain
identifiers in the small letters of what was given, and folding leaves them alone. Every request that a
check makes of any store is about these names. Each statement about them is made of the lexemes that it is
meant to have, so that statements with the same text, of whatever accepted settings, are the same; of a
lookup this holds together with its parameter. A text whose small letters are no identifier is refused. -/
theorem names_agree (source : Source) :
    (∀ s, ofSource source = .ok s →
      (Identifier s.keyspace ∧ NamedBy source .keyspace s.keyspace)
      ∧ (Identifier s.table ∧ NamedBy source .table s.table)
      ∧ (Run.namesOf s).folded = Run.namesOf s
      ∧ (∀ (σ : Type) (store : Store σ) (x : σ),
          ∀ access ∈ (Check.run store.watched (Run.namesOf s) (x, [])).2.2, access.About (Run.namesOf s))
      ∧ ∀ statement : Statement, statement.About (Run.namesOf s) →
          lexemes statement.text.toList = statement.parts
          ∧ ∀ source' s' statement', ofSource source' = .ok s' →
              Statement.About (Run.namesOf s') statement' →
              (statement.request = statement'.request → statement = statement')
              ∧ (statement.text = statement'.text → statement = statement'
                ∨ ∃ keyspace keyspace', statement = .lookUp keyspace ∧ statement' = .lookUp keyspace'))
    ∧ ∀ field ∈ [Field.keyspace, Field.table], ∀ v t, source.given? field = some v →
        Validation.text v = .ok t → ¬ Identifier (lower t) →
        ∃ issues, ofSource source = .error issues ∧ ⟨[field.name], .patternMismatch⟩ ∈ issues := by
  constructor
  · intro s hs
    obtain ⟨hread, -⟩ := ofSource_eq_ok.1 hs
    have hsafe := safeNames_of_ok hs
    refine ⟨name_of_setting hread.keyspace, name_of_setting hread.table, hsafe.folded_eq, ?_, ?_⟩
    · intro σ store x access haccess
      exact Check.about_of_run store x hsafe.folded_eq haccess
    · intro statement habout
      refine ⟨Statement.lexemes_text (hsafe.named habout), ?_⟩
      intro source' s' statement' hs' habout'
      have hsafe' := safeNames_of_ok hs'
      exact ⟨Statement.request_injective (hsafe.named habout) (hsafe'.named habout'),
        Statement.text_injective (hsafe.named habout) (hsafe'.named habout')⟩
  · intro field hfield v t hgiven hv ht
    have hrefused := identifierRule_of_not_identifier hv ht
    apply ofSource_of_issue
    have hissue : ∀ x : Checked String, x = .error [⟨[field.name], .patternMismatch⟩] →
        ⟨[field.name], .patternMismatch⟩ ∈ x.issues := by
      rintro x rfl
      exact List.mem_singleton.2 rfl
    have hsetting : ⟨[field.name], .patternMismatch⟩
        ∈ (setting source field identifierRule "healthcheck").issues :=
      hissue _ (setting_of_error hgiven hrefused)
    rw [issues_fieldsOfSource]
    rcases List.mem_cons.1 hfield with rfl | hfield
    · simp [hsetting]
    · rw [List.mem_singleton.1 hfield] at hsetting ⊢
      simp [hsetting]

/-- A keyspace whose first letter is the sign for kelvin, which folds to a letter of ASCII, and a table
from the environment. -/
def kelvin : Source :=
  ⟨[("keyspace", .text "\u212aEY_1")], [("CASSANDRA_HEALTHCHECK_TABLE", "Checks")], (1000 : Nat)⟩

/-- A keyspace with a dotted capital I, which folds to two characters. -/
def dotted : Source :=
  ⟨[("keyspace", .text "\u0130d")], [], (1000 : Nat)⟩

/-- One of these keyspaces is accepted in small letters, and the other one is refused. -/
theorem names_agree_kelvin :
    (∃ s, ofSource kelvin = .ok s ∧ s.keyspace = "key_1" ∧ s.table = "checks"
      ∧ (Run.namesOf s).folded = Run.namesOf s)
    ∧ ∃ issues, ofSource dotted = .error issues ∧ ⟨["keyspace"], .patternMismatch⟩ ∈ issues := by
  constructor
  · have haccepted : (ofSource kelvin).toOption.isSome = true := by decide +kernel
    have hkeyspace : lower "\u212aEY_1" = "key_1" := by decide +kernel
    have htable : lower "Checks" = "checks" := by decide +kernel
    cases hs : ofSource kelvin with
    | error issues =>
      rw [hs] at haccepted
      exact nomatch haccepted
    | ok s =>
      obtain ⟨⟨-, t, ht, hname⟩, ⟨-, u, hu, hother⟩, hfolded, -⟩ := (names_agree kelvin).1 s hs
      refine ⟨s, rfl, ?_, ?_, hfolded⟩
      · rw [hname, ← Except.ok.inj ht, hkeyspace]
      · rw [hother, ← Except.ok.inj hu, htable]
  · have hnot : ¬ Identifier (lower "\u0130d") := by
      rw [← isIdentifier_iff]
      decide +kernel
    exact (names_agree dotted).2 .keyspace List.mem_cons_self _ _ rfl rfl hnot

end Settings

end ClusterHealth
