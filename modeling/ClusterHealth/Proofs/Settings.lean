import ClusterHealth.Settings

/-!
# `ClusterHealth.Proofs.Settings` — when settings are accepted

Settings are accepted if each of them is read by its rule or is not given, no argument is left over, and a
user comes with a password. Otherwise they are refused with all that is wrong with them.

## Contents
- `Checked.withPart_eq_ok`, `Checked.withIssues_eq_ok`: records that are whole.
- `setting_eq_ok`, `setting_of_error`: one setting.
- `ReadFrom`, `ofSource_eq_ok`: the settings that are accepted.
- `issues_fieldsOfSource`, `ofSource_of_issue`: those that are refused.
-/

namespace ClusterHealth

open ClusterHealth.Text ClusterHealth.Number ClusterHealth.Validation

/-! ## Records -/

namespace Validation.Checked

variable {α β : Type}

theorem withPart_eq_ok {record : Checked (α → β)} {a : Checked α} {b : β} :
    withPart record a = .ok b ↔ ∃ f x, record = .ok f ∧ a = .ok x ∧ f x = b := by
  cases record with
  | error es =>
    refine ⟨fun h => ?_, ?_⟩
    · cases a <;> exact nomatch h
    · rintro ⟨f, x, hf, -, -⟩
      exact nomatch hf
  | ok f =>
    cases a with
    | error es =>
      refine ⟨fun h => (nomatch h), ?_⟩
      rintro ⟨g, x, -, hx, -⟩
      exact nomatch hx
    | ok x =>
      refine ⟨fun h => ⟨f, x, rfl, rfl, Except.ok.inj h⟩, ?_⟩
      rintro ⟨g, y, hg, hy, hb⟩
      rw [Except.ok.inj hg, Except.ok.inj hy, ← hb]
      rfl

theorem withIssues_eq_ok {a : Checked α} {further : List Issue} {x : α} :
    Checked.withIssues a further = .ok x ↔ a = .ok x ∧ further = [] := by
  cases a with
  | error es =>
    exact ⟨fun h => (nomatch h), fun h => (nomatch h.1)⟩
  | ok y =>
    cases further with
    | nil => exact ⟨fun h => ⟨h, rfl⟩, fun h => h.1⟩
    | cons e es => exact ⟨fun h => (nomatch h), fun h => (nomatch h.2)⟩

theorem part_eq_ok {name : String} {read : Except Fault α} {x : α} :
    Checked.part name read = .ok x ↔ read = .ok x := by
  cases read with
  | error e => exact ⟨fun h => (nomatch h), fun h => (nomatch h)⟩
  | ok y => exact ⟨fun h => congrArg _ (Except.ok.inj h), fun h => congrArg _ (Except.ok.inj h)⟩

/-- A record that has issues is refused with them. -/
theorem eq_error_of_mem_issues {a : Checked α} {e : Issue} (h : e ∈ a.issues) :
    ∃ es, a = .error es ∧ e ∈ es := by
  cases a with
  | ok x => exact absurd h List.not_mem_nil
  | error es => exact ⟨es, rfl, h⟩

end Validation.Checked

namespace Settings

variable {α : Type} {source : Source} {field : Field} {rule : Rule α} {default x : α}

/-! ## One setting -/

/-- A setting is its default, or what its rule reads from what is given. -/
theorem setting_eq_ok : setting source field rule default = .ok x
    ↔ (source.given? field = none ∧ x = default)
      ∨ ∃ v, source.given? field = some v ∧ rule v = .ok x := by
  unfold setting
  rw [Checked.part_eq_ok]
  cases source.given? field with
  | none =>
    refine ⟨fun h => .inl ⟨rfl, (Except.ok.inj h).symm⟩, ?_⟩
    rintro (⟨-, rfl⟩ | ⟨v, hv, -⟩)
    · rfl
    · exact nomatch hv
  | some v =>
    refine ⟨fun h => .inr ⟨v, rfl, h⟩, ?_⟩
    rintro (⟨h, -⟩ | ⟨w, hw, hr⟩)
    · exact nomatch h
    · rw [Option.some.inj hw]
      exact hr

/-- A setting that its rule does not read is an issue at its name. -/
theorem setting_of_error {v : Value} {fault : Fault} (hgiven : source.given? field = some v)
    (hfault : rule v = .error fault) :
    setting source field rule default = .error [⟨[field.name], fault⟩] := by
  unfold setting
  rw [hgiven]
  show Checked.part field.name (rule v) = _
  rw [hfault]
  rfl

/-! ## All settings -/

/-- Settings that are read from a source, each by its own rule. -/
structure ReadFrom (source : Source) (s : Settings) : Prop where
  host : setting source .host Validation.text "localhost" = .ok s.host
  portNumber : setting source .portNumber portNumberRule 9042 = .ok s.portNumber
  username : setting source .username (optional Validation.text) none = .ok s.username
  password : setting source .password (optional secretRule) none = .ok s.password
  connectTimeout : setting source .connectTimeout (positive number) (.ofInt 2) = .ok s.connectTimeout
  requestTimeout : setting source .requestTimeout (positive number) (.ofInt 12) = .ok s.requestTimeout
  traceWait : setting source .traceWait (nonnegative number) (.ofInt 2) = .ok s.traceWait
  keyspace : setting source .keyspace identifierRule "healthcheck" = .ok s.keyspace
  table : setting source .table identifierRule "healthcheck" = .ok s.table
  lockFile : setting source .lockFile Validation.path (defaultLockFile source.owner) = .ok s.lockFile
  debug : setting source .debug boolean false = .ok s.debug
  /-- No argument belongs to no setting. -/
  known : source.unknownNames = []

theorem fieldsOfSource_eq_ok {s : Settings} : fieldsOfSource source = .ok s ↔ ReadFrom source s := by
  unfold fieldsOfSource
  constructor
  · -- From the last part to the first: the record is whole only if what comes before the part is.
    intro hwhole
    obtain ⟨h11, hknown⟩ := Checked.withIssues_eq_ok.1 hwhole
    obtain ⟨make11, debug, h10, hDebug, rfl⟩ := Checked.withPart_eq_ok.1 h11
    obtain ⟨make10, lockFile, h9, hLockFile, rfl⟩ := Checked.withPart_eq_ok.1 h10
    obtain ⟨make9, table, h8, hTable, rfl⟩ := Checked.withPart_eq_ok.1 h9
    obtain ⟨make8, keyspace, h7, hKeyspace, rfl⟩ := Checked.withPart_eq_ok.1 h8
    obtain ⟨make7, traceWait, h6, hTraceWait, rfl⟩ := Checked.withPart_eq_ok.1 h7
    obtain ⟨make6, requestTimeout, h5, hRequestTimeout, rfl⟩ := Checked.withPart_eq_ok.1 h6
    obtain ⟨make5, connectTimeout, h4, hConnectTimeout, rfl⟩ := Checked.withPart_eq_ok.1 h5
    obtain ⟨make4, password, h3, hPassword, rfl⟩ := Checked.withPart_eq_ok.1 h4
    obtain ⟨make3, username, h2, hUsername, rfl⟩ := Checked.withPart_eq_ok.1 h3
    obtain ⟨make2, portNumber, h1, hPortNumber, rfl⟩ := Checked.withPart_eq_ok.1 h2
    obtain ⟨make1, host, h0, hHost, rfl⟩ := Checked.withPart_eq_ok.1 h1
    cases h0
    exact ⟨hHost, hPortNumber, hUsername, hPassword, hConnectTimeout, hRequestTimeout, hTraceWait, hKeyspace,
      hTable, hLockFile, hDebug, List.map_eq_nil_iff.1 hknown⟩
  · intro h
    rw [h.host, h.portNumber, h.username, h.password, h.connectTimeout, h.requestTimeout, h.traceWait,
      h.keyspace, h.table, h.lockFile, h.debug, h.known]
    rfl

/-- **The settings that are accepted**: those that are read from the source, with a password for a user. -/
theorem ofSource_eq_ok {s : Settings} :
    ofSource source = .ok s ↔ ReadFrom source s ∧ s.lacksPassword = false := by
  rw [← fieldsOfSource_eq_ok]
  unfold ofSource
  cases fieldsOfSource source with
  | error es => exact ⟨fun h => (nomatch h), fun h => (nomatch h.1)⟩
  | ok r =>
    show (if r.lacksPassword then .error [⟨[], .passwordMissing⟩] else .ok r : Checked Settings) = .ok s ↔ _
    by_cases hr : r.lacksPassword = true
    · rw [if_pos hr]
      refine ⟨fun h => (nomatch h), ?_⟩
      rintro ⟨h, hs⟩
      rw [← Except.ok.inj h, hr] at hs
      exact absurd hs (by decide)
    · rw [if_neg hr]
      have hr : r.lacksPassword = false := Bool.eq_false_iff.2 hr
      refine ⟨fun h => ⟨h, ?_⟩, fun h => h.1⟩
      rw [← Except.ok.inj h]
      exact hr

/-- **All that is wrong with settings**, in the order of the settings; unknown arguments come last. -/
theorem issues_fieldsOfSource (source : Source) : (fieldsOfSource source).issues =
    (setting source .host Validation.text "localhost").issues
      ++ (setting source .portNumber portNumberRule 9042).issues
      ++ (setting source .username (optional Validation.text) none).issues
      ++ (setting source .password (optional secretRule) none).issues
      ++ (setting source .connectTimeout (positive number) (.ofInt 2)).issues
      ++ (setting source .requestTimeout (positive number) (.ofInt 12)).issues
      ++ (setting source .traceWait (nonnegative number) (.ofInt 2)).issues
      ++ (setting source .keyspace identifierRule "healthcheck").issues
      ++ (setting source .table identifierRule "healthcheck").issues
      ++ (setting source .lockFile Validation.path (defaultLockFile source.owner)).issues
      ++ (setting source .debug boolean false).issues
      ++ source.unknownNames.map fun name => ⟨[name], .unknownName⟩ := by
  have hnone : Checked.issues (Except.ok Settings.mk) = [] := rfl
  unfold fieldsOfSource
  rw [Checked.issues_withIssues]
  simp only [Checked.issues_withPart, hnone, List.nil_append]

/-- Settings with an issue are refused, and the issue is told. -/
theorem ofSource_of_issue {e : Issue} (h : e ∈ (fieldsOfSource source).issues) :
    ∃ issues, ofSource source = .error issues ∧ e ∈ issues := by
  obtain ⟨issues, herror, he⟩ := Checked.eq_error_of_mem_issues h
  refine ⟨issues, ?_, he⟩
  unfold ofSource
  rw [herror]

end Settings

end ClusterHealth
