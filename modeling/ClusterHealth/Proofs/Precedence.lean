import ClusterHealth.Proofs.Host
import ClusterHealth.Proofs.Settings
import Mathlib.Data.List.Basic

/-!
# `ClusterHealth.Proofs.Precedence` — settings, decided one by one

For each setting one value is used, or none: that of an argument, else that of a variable. Whether the value
is good is a matter between it and the rule of the setting. So the settings are accepted if nothing is wrong
with any of them, and otherwise refused with one issue for each that something is wrong with, in the order of
the settings.

## Contents
- `Source.Uses`, `Source.uses_iff`: the value that is used for a setting.
- `Source.overrides`, `Source.counting`: variables that do not count, and those that do.
- `ofSource_environment`, `owner?_environment`: the same settings and the same host in another environment.
- `Field.fault?`, `Source.faults`, `issues_eq`: what is wrong with each setting.
- `Source.Credentials`, `accepted_iff`, `ofSource_eq_error`: settings that are accepted, and refused.
- `InRange`, `ReadFrom.inRange`: the numbers in accepted settings.
- `decided_one_by_one`: all of it.
-/

namespace ClusterHealth

open ClusterHealth.Text ClusterHealth.Number ClusterHealth.Validation

namespace Settings

/-! ## Where a value comes from -/

namespace Field

theorem mem_all (f : Field) : f ∈ all := by
  cases f <;> decide

theorem variableName_injective {f g : Field} (h : f.variableName = g.variableName) : f = g := by
  have hall : ∀ f ∈ all, ∀ g ∈ all, f.variableName = g.variableName → f = g := by decide +kernel
  exact hall f f.mem_all g g.mem_all h

end Field

namespace Source

variable {s : Source} {f : Field} {v : Value}

/-- What is used for a setting: the first argument for it, or the variable for it if there is no argument, or
nothing if there is neither. -/
inductive Uses (s : Source) (f : Field) : Option Value → Prop
  | argument {before after : List (String × Value)} {name : String} {v : Value}
      (given : s.arguments = before ++ (name, v) :: after) (named : lower name = f.name)
      (first : ∀ entry ∈ before, lower entry.1 ≠ f.name) : Uses s f (some v)
  | fallback {name value : String} (lacking : ∀ entry ∈ s.arguments, lower entry.1 ≠ f.name)
      (given : (name, value) ∈ s.environment) (named : lower name = f.variableName) :
      Uses s f (some (.text value))
  | nothing (lacking : ∀ entry ∈ s.arguments, lower entry.1 ≠ f.name)
      (unset : ∀ entry ∈ s.environment, lower entry.1 ≠ f.variableName) : Uses s f none

/-- No setting has several variables. -/
def Unambiguous (s : Source) : Prop :=
  ∀ f : Field, ∀ x ∈ s.environment, ∀ y ∈ s.environment,
    lower x.1 = f.variableName → lower y.1 = f.variableName → x = y

theorem inArguments?_eq_some : s.inArguments? f = some v ↔ ∃ before name after,
    s.arguments = before ++ (name, v) :: after ∧ lower name = f.name
      ∧ ∀ entry ∈ before, lower entry.1 ≠ f.name := by
  unfold inArguments?
  simp only [Option.map_eq_some_iff, List.find?_eq_some_iff_append, decide_eq_true_eq, Bool.not_eq_true',
    decide_eq_false_iff_not]
  constructor
  · rintro ⟨⟨name, w⟩, ⟨hname, before, after, hsplit, hfirst⟩, rfl⟩
    exact ⟨before, name, after, hsplit, hname, hfirst⟩
  · rintro ⟨before, name, after, hsplit, hname, hfirst⟩
    exact ⟨(name, v), ⟨hname, before, after, hsplit, hfirst⟩, rfl⟩

theorem inArguments?_eq_none : s.inArguments? f = none ↔ ∀ entry ∈ s.arguments, lower entry.1 ≠ f.name := by
  unfold inArguments?
  simp only [Option.map_eq_none_iff, List.find?_eq_none, decide_eq_true_eq, ne_eq]

theorem inEnvironment?_eq_none :
    s.inEnvironment? f = none ↔ ∀ entry ∈ s.environment, lower entry.1 ≠ f.variableName := by
  unfold inEnvironment?
  simp only [Option.map_eq_none_iff, List.find?_eq_none, decide_eq_true_eq, List.mem_reverse, ne_eq]

/-- Where there is one variable at most, it does not matter which of several would count. -/
theorem inEnvironment?_eq_some (h : s.Unambiguous) : s.inEnvironment? f = some v ↔
    ∃ name value, (name, value) ∈ s.environment ∧ lower name = f.variableName ∧ v = .text value := by
  constructor
  · intro hv
    obtain ⟨⟨name, value⟩, hfind, hvalue⟩ := Option.map_eq_some_iff.1 hv
    have hname : lower name = f.variableName := by simpa using List.find?_some hfind
    exact ⟨name, value, List.mem_reverse.1 (List.mem_of_find?_eq_some hfind), hname, hvalue.symm⟩
  · rintro ⟨name, value, hmem, hname, rfl⟩
    cases hfound : s.inEnvironment? f with
    | none => exact absurd hname (inEnvironment?_eq_none.1 hfound _ hmem)
    | some w =>
      obtain ⟨⟨name', value'⟩, hfind, rfl⟩ := Option.map_eq_some_iff.1 hfound
      have hname' : lower name' = f.variableName := by simpa using List.find?_some hfind
      have hmem' := List.mem_reverse.1 (List.mem_of_find?_eq_some hfind)
      rw [h f _ hmem' _ hmem hname' hname]

/-- **What is given for a setting is what is used for it.** -/
theorem uses_iff (h : s.Unambiguous) (used : Option Value) : s.Uses f used ↔ s.given? f = used := by
  constructor
  · intro huses
    cases huses with
    | argument given named first =>
      exact given?_argument (inArguments?_eq_some.2 ⟨_, _, _, given, named, first⟩)
    | fallback lacking given named =>
      rw [given?_variable (inArguments?_eq_none.2 lacking)]
      exact (inEnvironment?_eq_some h).2 ⟨_, _, given, named, rfl⟩
    | nothing lacking unset =>
      rw [given?_variable (inArguments?_eq_none.2 lacking)]
      exact inEnvironment?_eq_none.2 unset
  · rintro rfl
    cases hargument : s.inArguments? f with
    | some v =>
      rw [given?_argument hargument]
      obtain ⟨before, name, after, hsplit, hname, hfirst⟩ := inArguments?_eq_some.1 hargument
      exact .argument hsplit hname hfirst
    | none =>
      rw [given?_variable hargument]
      have hlacking := inArguments?_eq_none.1 hargument
      cases hvariable : s.inEnvironment? f with
      | some v =>
        obtain ⟨name, value, hmem, hname, rfl⟩ := (inEnvironment?_eq_some h).1 hvariable
        exact .fallback hlacking hmem hname
      | none => exact .nothing hlacking (inEnvironment?_eq_none.1 hvariable)

/-! ## Variables that do not count -/

/-- Whether a variable is that of a setting for which there is an argument. -/
def overrides (s : Source) (name : String) : Bool :=
  Field.all.any fun f => (s.inArguments? f).isSome && lower name = f.variableName

/-- A variable that counts for a setting without an argument is not overridden. -/
theorem overrides_eq_false {name : String} (hlacking : s.inArguments? f = none)
    (hname : lower name = f.variableName) : s.overrides name = false := by
  refine Bool.eq_false_iff.2 fun hover => ?_
  obtain ⟨g, -, hg⟩ := List.any_eq_true.1 hover
  simp only [Bool.and_eq_true, decide_eq_true_eq] at hg
  obtain ⟨hgiven, hnamed⟩ := hg
  obtain rfl : f = g := Field.variableName_injective (hname.symm.trans hnamed)
  rw [hlacking] at hgiven
  exact nomatch hgiven

/-- Variables that name a directory for temporary files belong to no setting. -/
theorem overrides_temporary {name : String} (h : name ∈ Host.temporaryVariables) : s.overrides name = false := by
  have hother : ∀ name ∈ Host.temporaryVariables, ∀ f ∈ Field.all, lower name ≠ f.variableName := by
    decide +kernel
  refine List.any_eq_false.2 fun f hf => ?_
  simp only [hother name h f hf, decide_false, Bool.and_false, Bool.false_eq_true, not_false_eq_true]

/-- What is searched for is found as well among the members that are kept, if it is always kept. -/
theorem find?_filter_of_forall {α : Type} {wanted kept : α → Bool} (h : ∀ x, wanted x = true → kept x = true)
    (l : List α) : (l.filter kept).find? wanted = l.find? wanted := by
  rw [List.find?_filter]
  refine congrArg (List.find? · l) (funext fun x => ?_)
  cases hx : wanted x with
  | true => simp only [h x hx, and_self, decide_true]
  | false => simp only [Bool.false_eq_true, and_false, decide_false]

/-- The variables that are not overridden. -/
def counting (s : Source) (environment : List (String × String)) : List (String × String) :=
  environment.filter fun entry => !s.overrides entry.1

/-- The variable for a setting without an argument is among those that are not overridden. -/
theorem inEnvironment?_counting (hlacking : s.inArguments? f = none) :
    inEnvironment? { s with environment := s.counting s.environment } f = s.inEnvironment? f := by
  unfold inEnvironment? counting
  rw [← List.filter_reverse, find?_filter_of_forall fun entry hentry => ?_]
  rw [overrides_eq_false hlacking (of_decide_eq_true hentry), Bool.not_false]

/-- So are the variables that name a directory for temporary files. -/
theorem temporary_counting {name : String} (h : name ∈ Host.temporaryVariables)
    (environment : List (String × String)) :
    Host.inEnvironment? (s.counting environment) name = Host.inEnvironment? environment name := by
  unfold Host.inEnvironment? counting
  rw [← List.filter_reverse, find?_filter_of_forall fun entry hentry => ?_]
  rw [of_decide_eq_true hentry, overrides_temporary h, Bool.not_false]

end Source

variable {source : Source}

/-- Settings are read from what is given for each of them, and from nothing else. -/
theorem ofSource_congr {other : Source} (hgiven : ∀ f, other.given? f = source.given? f)
    (hunknown : other.unknownNames = source.unknownNames) (howner : other.owner = source.owner) :
    ofSource other = ofSource source := by
  unfold ofSource fieldsOfSource setting
  simp only [hgiven, hunknown, howner]

/-- **A variable of a setting for which there is an argument does not count**, whatever it holds. -/
theorem ofSource_environment {environment : List (String × String)}
    (h : source.counting environment = source.counting source.environment) :
    ofSource { source with environment := environment } = ofSource source := by
  refine ofSource_congr (fun f => ?_) rfl rfl
  have harguments : Source.inArguments? { source with environment := environment } f = source.inArguments? f :=
    rfl
  cases hargument : source.inArguments? f with
  | some v => rw [Source.given?_argument hargument, Source.given?_argument (harguments.trans hargument)]
  | none =>
    have hlacking := harguments.trans hargument
    rw [Source.given?_variable hargument, Source.given?_variable hlacking,
      ← Source.inEnvironment?_counting hargument, ← Source.inEnvironment?_counting hlacking]
    have hcounting : Source.counting { source with environment := environment } environment
        = source.counting environment := rfl
    rw [hcounting, h]

/-- Nor does it count for where temporary files go. -/
theorem owner?_environment {environment : List (String × String)} (host : Host) (fs : FileSystem)
    (h : source.counting environment = source.counting source.environment) :
    host.owner? fs environment = host.owner? fs source.environment := by
  refine Host.owner?_congr fun name hname => ?_
  rw [← source.temporary_counting hname environment, h, source.temporary_counting hname]

/-! ## What is wrong with a setting -/

/-- What a rule finds wrong with a value. -/
def faultOf? {α : Type} : Except Fault α → Option Fault
  | .ok _ => none
  | .error fault => some fault

/-- What the rule of a setting finds wrong with a value. -/
def Field.fault? (f : Field) (v : Value) : Option Fault :=
  match f with
  | .host => faultOf? (Validation.text v)
  | .portNumber => faultOf? (portNumberRule v)
  | .username => faultOf? (optional Validation.text v)
  | .password => faultOf? (optional secretRule v)
  | .connectTimeout | .requestTimeout => faultOf? (positive number v)
  | .traceWait => faultOf? (nonnegative number v)
  | .keyspace | .table => faultOf? (identifierRule v)
  | .lockFile => faultOf? (Validation.path v)
  | .debug => faultOf? (boolean v)

namespace Source

/-- The issue with a setting, if its rule finds something wrong with the value that is used for it. -/
def issue? (s : Source) (f : Field) : Option Issue :=
  ((s.given? f).bind f.fault?).map fun fault => ⟨[f.name], fault⟩

/-- One issue for each setting that something is wrong with, in the order of the settings. -/
def faults (s : Source) : List Issue :=
  Field.all.filterMap s.issue?

/-- One issue for each argument that belongs to no setting. -/
def strays (s : Source) : List Issue :=
  s.unknownNames.map fun name => ⟨[name], .unknownName⟩

/-- A user whose name is not empty comes with a password. -/
def Credentials (s : Source) : Prop :=
  ∀ v user, s.given? .username = some v → Validation.text v = .ok user → user ≠ "" →
    ∃ w secret, s.given? .password = some w ∧ secretRule w = .ok secret

theorem faults_eq_nil {s : Source} : s.faults = [] ↔ ∀ f v, s.given? f = some v → f.fault? v = none := by
  unfold faults
  rw [List.filterMap_eq_nil_iff]
  constructor
  · intro h f v hv
    have hissue := h f f.mem_all
    unfold issue? at hissue
    rw [hv, Option.bind_some, Option.map_eq_none_iff] at hissue
    exact hissue
  · intro h f _
    unfold issue?
    cases hv : s.given? f with
    | none => rfl
    | some v =>
      rw [Option.bind_some, h f v hv]
      rfl

theorem strays_eq_nil {s : Source} : s.strays = [] ↔ ∀ entry ∈ s.arguments, ∃ f : Field, lower entry.1 = f.name := by
  unfold strays unknownNames
  rw [List.map_eq_nil_iff, List.filter_eq_nil_iff]
  simp only [List.forall_mem_map, List.all_eq_true, decide_eq_true_eq, not_forall, ne_eq, not_not,
    exists_prop, Field.mem_all, true_and]

end Source

/-- A setting has one issue at most, which is what its rule finds. -/
theorem issues_setting {α : Type} {f : Field} {rule : Rule α} {default : α}
    (h : ∀ v, f.fault? v = faultOf? (rule v)) :
    (setting source f rule default).issues = (source.issue? f).toList := by
  unfold setting Source.issue?
  cases source.given? f with
  | none => rfl
  | some v =>
    rw [Option.bind_some, h]
    cases hread : rule v with
    | ok a => simp only [hread]; rfl
    | error fault => simp only [hread]; rfl

/-- **All that is wrong with settings**: what is wrong with each of them, then the arguments that are left
over. -/
theorem issues_eq (source : Source) : (fieldsOfSource source).issues = source.faults ++ source.strays := by
  rw [issues_fieldsOfSource, Source.faults, List.filterMap_eq_flatMap_toList]
  simp only [Field.all, List.flatMap_cons, List.flatMap_nil, List.append_assoc, List.append_nil,
    issues_setting (f := .host) (fun _ => rfl), issues_setting (f := .portNumber) (fun _ => rfl),
    issues_setting (f := .username) (fun _ => rfl), issues_setting (f := .password) (fun _ => rfl),
    issues_setting (f := .connectTimeout) (fun _ => rfl), issues_setting (f := .requestTimeout) (fun _ => rfl),
    issues_setting (f := .traceWait) (fun _ => rfl), issues_setting (f := .keyspace) (fun _ => rfl),
    issues_setting (f := .table) (fun _ => rfl), issues_setting (f := .lockFile) (fun _ => rfl),
    issues_setting (f := .debug) (fun _ => rfl)]
  rfl

/-! ## Settings that are accepted, and refused -/

theorem optional_eq_some {α : Type} {rule : Rule α} {v : Value} {x : α} (hnull : rule .null ≠ .ok x) :
    optional rule v = .ok (some x) ↔ rule v = .ok x := by
  have hmap : ∀ read : Except Fault α, read.map some = .ok (some x) ↔ read = .ok x := by
    intro read
    cases read with
    | error fault => exact ⟨fun h => (nomatch h), fun h => (nomatch h)⟩
    | ok y =>
      refine ⟨fun h => ?_, fun h => ?_⟩
      · exact congrArg _ (Option.some.inj (Except.ok.inj h))
      · rw [Except.ok.inj h]
        rfl
  cases v with
  | null => exact ⟨fun h => (nomatch h), fun h => absurd h hnull⟩
  | _ => exact hmap _

/-- What is read for a setting that may be null is what its rule reads from what is given. -/
theorem setting_optional {α : Type} {f : Field} {rule : Rule α} {x : Option α} {a : α}
    (h : setting source f (optional rule) none = .ok x) (hnull : rule .null ≠ .ok a) :
    x = some a ↔ ∃ v, source.given? f = some v ∧ rule v = .ok a := by
  have hread := setting_eq_ok.1 h
  constructor
  · rintro rfl
    obtain ⟨-, hnone⟩ | ⟨v, hv, hrule⟩ := hread
    · exact nomatch hnone
    · exact ⟨v, hv, (optional_eq_some hnull).1 hrule⟩
  · rintro ⟨v, hv, hrule⟩
    obtain ⟨hnone, -⟩ | ⟨w, hw, hoptional⟩ := hread
    · exact nomatch hnone.symm.trans hv
    · rw [Option.some.inj (hw.symm.trans hv), (optional_eq_some hnull).2 hrule] at hoptional
      exact (Except.ok.inj hoptional).symm

/-- The user in settings that are read is named by what is given. -/
theorem ReadFrom.username_eq {s : Settings} (h : ReadFrom source s) {user : String} :
    s.username = some user ↔ ∃ v, source.given? .username = some v ∧ Validation.text v = .ok user :=
  setting_optional h.username (fun hnull => nomatch hnull)

/-- So is the password. -/
theorem ReadFrom.password_eq {s : Settings} (h : ReadFrom source s) {secret : Secret} :
    s.password = some secret ↔ ∃ v, source.given? .password = some v ∧ secretRule v = .ok secret :=
  setting_optional h.password (fun hnull => nomatch hnull)

/-- Settings that are read lack a password just if what is given names a user without one. -/
theorem ReadFrom.lacksPassword_iff {s : Settings} (h : ReadFrom source s) :
    s.lacksPassword = false ↔ source.Credentials := by
  have hlacks : s.lacksPassword = false ↔ ∀ user, s.username = some user → user ≠ "" → s.password ≠ none := by
    unfold lacksPassword
    cases s.username with
    | none => exact ⟨fun _ _ hnone => (nomatch hnone), fun _ => rfl⟩
    | some name =>
      cases s.password <;> simp
  rw [hlacks]
  constructor
  · intro hpassword v user hv htext hname
    obtain ⟨secret, hsecret⟩ := Option.ne_none_iff_exists'.1
      (hpassword user (h.username_eq.2 ⟨v, hv, htext⟩) hname)
    obtain ⟨w, hw, hread⟩ := h.password_eq.1 hsecret
    exact ⟨w, secret, hw, hread⟩
  · intro hcredentials user huser hname
    obtain ⟨v, hv, htext⟩ := h.username_eq.1 huser
    obtain ⟨w, secret, hw, hread⟩ := hcredentials v user hv htext hname
    rw [h.password_eq.2 ⟨w, hw, hread⟩]
    exact nofun

/-- A setting that nothing is wrong with is read. -/
theorem exists_setting {α : Type} {f : Field} (rule : Rule α) (default : α)
    (hfault : ∀ v, f.fault? v = faultOf? (rule v)) (hgood : ∀ v, source.given? f = some v → f.fault? v = none) :
    ∃ x, setting source f rule default = .ok x := by
  cases hv : source.given? f with
  | none => exact ⟨default, setting_eq_ok.2 (.inl ⟨hv, rfl⟩)⟩
  | some v =>
    have hnone := hgood v hv
    rw [hfault] at hnone
    cases hread : rule v with
    | ok x => exact ⟨x, setting_eq_ok.2 (.inr ⟨v, hv, hread⟩)⟩
    | error fault =>
      rw [hread] at hnone
      exact nomatch hnone

/-- **Settings are read if nothing is wrong with any of them, and no argument is left over.** -/
theorem exists_readFrom (hfaults : source.faults = []) (hstrays : source.strays = []) :
    ∃ s, ReadFrom source s := by
  have hgood := Source.faults_eq_nil.1 hfaults
  obtain ⟨host, hHost⟩ := exists_setting Validation.text "localhost" (fun _ => rfl) (hgood .host)
  obtain ⟨portNumber, hPortNumber⟩ := exists_setting portNumberRule 9042 (fun _ => rfl) (hgood .portNumber)
  obtain ⟨username, hUsername⟩ := exists_setting (optional Validation.text) none (fun _ => rfl)
    (hgood .username)
  obtain ⟨password, hPassword⟩ := exists_setting (optional secretRule) none (fun _ => rfl) (hgood .password)
  obtain ⟨connectTimeout, hConnectTimeout⟩ := exists_setting (positive number) (.ofInt 2) (fun _ => rfl)
    (hgood .connectTimeout)
  obtain ⟨requestTimeout, hRequestTimeout⟩ := exists_setting (positive number) (.ofInt 12) (fun _ => rfl)
    (hgood .requestTimeout)
  obtain ⟨traceWait, hTraceWait⟩ := exists_setting (nonnegative number) (.ofInt 2) (fun _ => rfl)
    (hgood .traceWait)
  obtain ⟨keyspace, hKeyspace⟩ := exists_setting identifierRule "healthcheck" (fun _ => rfl) (hgood .keyspace)
  obtain ⟨table, hTable⟩ := exists_setting identifierRule "healthcheck" (fun _ => rfl) (hgood .table)
  obtain ⟨lockFile, hLockFile⟩ := exists_setting Validation.path (defaultLockFile source.owner) (fun _ => rfl)
    (hgood .lockFile)
  obtain ⟨debug, hDebug⟩ := exists_setting boolean false (fun _ => rfl) (hgood .debug)
  exact ⟨⟨host, portNumber, username, password, connectTimeout, requestTimeout, traceWait, keyspace, table,
    lockFile, debug⟩, ⟨hHost, hPortNumber, hUsername, hPassword, hConnectTimeout, hRequestTimeout, hTraceWait,
    hKeyspace, hTable, hLockFile, hDebug, List.map_eq_nil_iff.1 hstrays⟩⟩

/-- Nothing is wrong with settings that are read. -/
theorem ReadFrom.issues_eq_nil {s : Settings} (h : ReadFrom source s) : source.faults ++ source.strays = [] := by
  rw [← issues_eq, fieldsOfSource_eq_ok.2 h]
  rfl

/-- **Settings are accepted if every value that is used is good, every argument belongs to a setting, and a
user comes with a password.** -/
theorem accepted_iff : (∃ s, ofSource source = .ok s)
    ↔ source.faults = [] ∧ source.strays = [] ∧ source.Credentials := by
  constructor
  · rintro ⟨s, hs⟩
    obtain ⟨hread, hpassword⟩ := ofSource_eq_ok.1 hs
    obtain ⟨hfaults, hstrays⟩ := List.append_eq_nil_iff.1 hread.issues_eq_nil
    exact ⟨hfaults, hstrays, hread.lacksPassword_iff.1 hpassword⟩
  · rintro ⟨hfaults, hstrays, hcredentials⟩
    obtain ⟨s, hread⟩ := exists_readFrom hfaults hstrays
    exact ⟨s, ofSource_eq_ok.2 ⟨hread, hread.lacksPassword_iff.2 hcredentials⟩⟩

theorem ofSource_of_error {issues : List Issue} (h : ofSource source = .error issues) :
    (issues = source.faults ++ source.strays ∧ issues ≠ [])
      ∨ (source.faults = [] ∧ source.strays = [] ∧ ¬ source.Credentials
        ∧ issues = [⟨[], .passwordMissing⟩]) := by
  have hissues := issues_eq source
  unfold ofSource at h
  cases hfields : fieldsOfSource source with
  | ok s =>
    have hread := fieldsOfSource_eq_ok.1 hfields
    obtain ⟨hfaults, hstrays⟩ := List.append_eq_nil_iff.1 hread.issues_eq_nil
    rw [hfields] at h
    simp only at h
    split at h
    next hlacks =>
      refine .inr ⟨hfaults, hstrays, fun hcredentials => ?_, (Except.error.inj h).symm⟩
      rw [hread.lacksPassword_iff.2 hcredentials] at hlacks
      exact nomatch hlacks
    next => exact nomatch h
  | error found =>
    rw [hfields] at h hissues
    have hfound : found = issues := Except.error.inj h
    have heq : issues = source.faults ++ source.strays := hfound ▸ hissues
    refine .inl ⟨heq, fun hnil => ?_⟩
    obtain ⟨hfaults, hstrays⟩ := List.append_eq_nil_iff.1 (heq.symm.trans hnil)
    obtain ⟨s, hread⟩ := exists_readFrom hfaults hstrays
    exact nomatch hfields.symm.trans (fieldsOfSource_eq_ok.2 hread)

/-- **Settings are refused with all that is wrong with them**, or, where nothing is wrong with any of them, for
the lack of a password. -/
theorem ofSource_eq_error {issues : List Issue} : ofSource source = .error issues ↔
    (issues = source.faults ++ source.strays ∧ issues ≠ [])
      ∨ (source.faults = [] ∧ source.strays = [] ∧ ¬ source.Credentials
        ∧ issues = [⟨[], .passwordMissing⟩]) := by
  refine ⟨ofSource_of_error, fun h => ?_⟩
  cases hsource : ofSource source with
  | ok s =>
    obtain ⟨hfaults, hstrays, hcredentials⟩ := accepted_iff.1 ⟨s, hsource⟩
    rcases h with ⟨heq, hne⟩ | ⟨-, -, hnot, -⟩
    · exact absurd (heq.trans (List.append_eq_nil_iff.2 ⟨hfaults, hstrays⟩)) hne
    · exact absurd hcredentials hnot
  | error found =>
    refine congrArg Except.error ?_
    rcases ofSource_of_error hsource with ⟨hfound, hne⟩ | ⟨hfaults, hstrays, -, hfound⟩ <;>
      rcases h with ⟨heq, hne'⟩ | ⟨hfaults', hstrays', -, heq⟩
    · exact hfound.trans heq.symm
    · exact absurd (hfound.trans (List.append_eq_nil_iff.2 ⟨hfaults', hstrays'⟩)) hne
    · exact absurd (heq.trans (List.append_eq_nil_iff.2 ⟨hfaults, hstrays⟩)) hne'
    · exact hfound.trans heq.symm

/-! ## The numbers in accepted settings -/

/-- A number above zero, which may be infinite. -/
inductive Positive : Binary64 → Prop
  | infinity : Positive (.infinity false)
  | finite {x : Magnitude} (above : 0 < x.units) : Positive (.finite false x)

/-- A number from zero on, which may be infinite; zero may have either sign. -/
inductive Nonnegative : Binary64 → Prop
  | infinity : Nonnegative (.infinity false)
  | finite {x : Magnitude} : Nonnegative (.finite false x)
  | negativeZero : Nonnegative (.finite true .zero)

theorem zero_lt_iff {x : Binary64} : Binary64.zero.lt x = true ↔ Positive x := by
  have hzero : Magnitude.zero.units = 0 := rfl
  constructor
  · intro h
    cases x with
    | nan => exact nomatch h
    | infinity negative =>
      cases negative with
      | true => exact nomatch h
      | false => exact .infinity
    | finite negative x =>
      have hunits := of_decide_eq_true h
      cases negative with
      | true =>
        simp only [Bool.false_eq_true, if_false, if_true, hzero] at hunits
        omega
      | false =>
        simp only [Bool.false_eq_true, if_false, hzero] at hunits
        exact .finite (by omega)
  · rintro (_ | hunits)
    · rfl
    · refine decide_eq_true ?_
      simp only [Bool.false_eq_true, if_false, hzero]
      omega

theorem eq_zero_of_units {x : Magnitude} (h : x.units = 0) : x = .zero := by
  obtain ⟨mantissa, scale, hlt, hnormal, hle⟩ := x
  have hmantissa : mantissa = 0 := by
    have hproduct : mantissa * 2 ^ scale = 0 := (Nat.shiftLeft_eq mantissa scale).symm.trans h
    exact (Nat.mul_eq_zero.1 hproduct).resolve_right (Nat.ne_of_gt (Nat.two_pow_pos scale))
  subst hmantissa
  obtain rfl : scale = 0 := hnormal.resolve_right (by decide)
  rfl

theorem zero_le_iff {x : Binary64} : Binary64.zero.le x = true ↔ Nonnegative x := by
  unfold Binary64.le
  rw [Bool.or_eq_true, zero_lt_iff]
  constructor
  · rintro (h | h)
    · cases h with
      | infinity => exact .infinity
      | finite _ => exact .finite
    · cases x with
      | nan => exact nomatch h
      | infinity negative => exact nomatch h
      | finite negative x =>
        obtain ⟨hx, -⟩ := Bool.and_eq_true_iff.1 h
        rw [← of_decide_eq_true hx]
        cases negative with
        | true => exact .negativeZero
        | false => exact .finite
  · rintro (_ | @⟨x⟩ | _)
    · exact .inl .infinity
    · by_cases hunits : x.units = 0
      · rw [eq_zero_of_units hunits]
        exact .inr rfl
      · exact .inl (.finite (Nat.pos_of_ne_zero hunits))
    · exact .inr rfl

theorem such_eq_ok {α : Type} {rule : Rule α} {test : α → Bool} {fault : Fault} {v : Value} {x : α} :
    Rule.such rule test fault v = .ok x ↔ rule v = .ok x ∧ test x = true := by
  unfold Rule.such
  cases rule v with
  | error e => exact ⟨fun h => (nomatch h), fun h => (nomatch h.1)⟩
  | ok y =>
    show (if test y then .ok y else .error fault : Except Fault α) = .ok x ↔ _
    by_cases hy : test y = true
    · rw [if_pos hy]
      exact ⟨fun h => ⟨h, Except.ok.inj h ▸ hy⟩, fun h => h.1⟩
    · rw [if_neg hy]
      refine ⟨fun h => (nomatch h), ?_⟩
      rintro ⟨h, hx⟩
      exact absurd (Except.ok.inj h ▸ hx) hy

/-- A setting has what its default has, if all that its rule reads has it. -/
theorem setting_satisfies {α : Type} {f : Field} {rule : Rule α} {default x : α} {P : α → Prop}
    (h : setting source f rule default = .ok x) (hdefault : P default) (hrule : ∀ v y, rule v = .ok y → P y) :
    P x := by
  obtain ⟨-, rfl⟩ | ⟨v, -, hread⟩ := setting_eq_ok.1 h
  · exact hdefault
  · exact hrule v x hread

/-- Numbers with which one can connect and wait. None of them is NaN. -/
structure InRange (s : Settings) : Prop where
  portNumber : 1 ≤ s.portNumber ∧ s.portNumber ≤ 65535
  connectTimeout : Positive s.connectTimeout
  requestTimeout : Positive s.requestTimeout
  traceWait : Nonnegative s.traceWait

/-- **The numbers in settings that are read are in range.** -/
theorem ReadFrom.inRange {s : Settings} (h : ReadFrom source s) : InRange s where
  portNumber := by
    refine setting_satisfies (P := fun n => 1 ≤ n ∧ n ≤ 65535) h.portNumber (by decide) fun v n hread => ?_
    obtain ⟨hlower, habove⟩ := such_eq_ok.1 hread
    obtain ⟨-, hbelow⟩ := such_eq_ok.1 hlower
    exact ⟨of_decide_eq_true hbelow, of_decide_eq_true habove⟩
  connectTimeout := setting_satisfies h.connectTimeout (zero_lt_iff.1 (by decide +kernel)) fun _ _ hread =>
    zero_lt_iff.1 (such_eq_ok.1 hread).2
  requestTimeout := setting_satisfies h.requestTimeout (zero_lt_iff.1 (by decide +kernel)) fun _ _ hread =>
    zero_lt_iff.1 (such_eq_ok.1 hread).2
  traceWait := setting_satisfies h.traceWait (zero_le_iff.1 (by decide +kernel)) fun _ _ hread =>
    zero_le_iff.1 (such_eq_ok.1 hread).2

/-! ## The theorem -/

/-- **Settings are decided one by one.** For each setting the first argument for it is used, else its variable,
else neither; a variable of a setting for which there is an argument makes no difference, neither to the settings
nor to the directory for temporary files. The settings are accepted if all values that are used are good, all
arguments belong to a setting, and a user whose name is not empty comes with a password. Then each of them is
what its rule reads from the value that is used, or its default, and the numbers are in range. Otherwise they are
refused with the issues of the settings in their order, each of which depends on the value that is used for the
setting alone, and of the arguments that are left over, or with the lack of the password if there is no such
issue. The default lock file is in the first directory that the host finds usable for temporary files in this
environment. -/
theorem decided_one_by_one (source : Source) (h : source.Unambiguous) :
    (∀ f used, source.Uses f used ↔ source.given? f = used)
      ∧ (∀ environment, source.counting environment = source.counting source.environment →
          ofSource { source with environment := environment } = ofSource source
            ∧ ∀ (host : Host) fs, host.owner? fs environment = host.owner? fs source.environment)
      ∧ ((∃ s, ofSource source = .ok s)
        ↔ (∀ f v, source.Uses f (some v) → f.fault? v = none)
          ∧ (∀ entry ∈ source.arguments, ∃ f : Field, lower entry.1 = f.name)
          ∧ source.Credentials)
      ∧ (∀ s, ofSource source = .ok s → ReadFrom source s ∧ InRange s)
      ∧ (∀ issues, ofSource source = .error issues ↔
        (issues = source.faults ++ source.strays ∧ issues ≠ [])
          ∨ (source.faults = [] ∧ source.strays = [] ∧ ¬ source.Credentials
            ∧ issues = [⟨[], .passwordMissing⟩]))
      ∧ ∀ (host : Host) fs, host.owner? fs source.environment = some source.owner →
        ∃ directory, host.FirstUsable fs source.environment directory
          ∧ defaultLockFile source.owner
            = directory.join ⟨.working, ["cassandra-healthcheck-" ++ decimal host.user ++ ".lock"]⟩ := by
  have hgood : source.faults = [] ↔ ∀ f v, source.Uses f (some v) → f.fault? v = none := by
    rw [Source.faults_eq_nil]
    simp only [Source.uses_iff h]
  refine ⟨fun f => Source.uses_iff h, fun environment hsame => ?_, ?_, fun s hs => ?_,
    fun issues => ofSource_eq_error, fun host fs hstart => ?_⟩
  · exact ⟨ofSource_environment hsame, fun host fs => owner?_environment host fs hsame⟩
  · rw [accepted_iff, hgood, Source.strays_eq_nil]
  · have hread := (ofSource_eq_ok.1 hs).1
    exact ⟨hread, hread.inRange⟩
  · obtain ⟨huser, hfirst⟩ := Host.owner?_eq_some.1 hstart
    exact ⟨source.owner.temporary, hfirst, by rw [defaultLockFile, huser]⟩

/-- A bad number as an argument, with a good one in the environment; a truth value that no word stands for; an
argument that belongs to no setting; and a directory for temporary files. -/
def mixedSource : Source where
  arguments := [("PORT", .int 70000), ("keyspace", .text "Probe_1"), ("colour", .null)]
  environment := [("Cassandra_HealthCheck_Port", "9043"), ("CASSANDRA_HEALTHCHECK_DEBUG", "perhaps"),
    ("TMPDIR", "/scratch")]
  owner := ⟨7, ⟨.single, ["scratch"]⟩⟩

/-- A host where any directory can be used for temporary files. -/
def roomy : Host := ⟨7, fun _ _ => true, Host.plainReader⟩

/-- All that is wrong is told, in the order of the settings; a good variable does not mend a bad argument. Where
any directory can be used, the lock file is in the one that the environment names. -/
theorem mixedSource_decided : mixedSource.Unambiguous
    ∧ mixedSource.given? .portNumber = some (.int 70000)
    ∧ ofSource { mixedSource with
        environment := [("CASSANDRA_HEALTHCHECK_DEBUG", "perhaps"), ("TMPDIR", "/scratch")] }
      = ofSource mixedSource
    ∧ ofSource mixedSource
      = .error [⟨["port"], .above 65535⟩, ⟨["debug"], .unreadableBoolean⟩, ⟨["colour"], .unknownName⟩]
    ∧ defaultLockFile mixedSource.owner = ⟨.single, ["scratch", "cassandra-healthcheck-7.lock"]⟩
    ∧ ∃ directory, roomy.FirstUsable .initial mixedSource.environment directory
      ∧ defaultLockFile mixedSource.owner
        = directory.join ⟨.working, ["cassandra-healthcheck-" ++ decimal roomy.user ++ ".lock"]⟩ := by
  have hunambiguous : mixedSource.Unambiguous := by
    have hall : ∀ f ∈ Field.all, ∀ x ∈ mixedSource.environment, ∀ y ∈ mixedSource.environment,
        lower x.1 = f.variableName → lower y.1 = f.variableName → x = y := by decide +kernel
    exact fun f => hall f f.mem_all
  obtain ⟨huses, hother, -, -, hrefused, hlock⟩ := decided_one_by_one mixedSource hunambiguous
  have hfaults : mixedSource.faults ++ mixedSource.strays
      = [⟨["port"], .above 65535⟩, ⟨["debug"], .unreadableBoolean⟩, ⟨["colour"], .unknownName⟩] := by
    decide +kernel
  have hport : mixedSource.Uses .portNumber (some (.int 70000)) :=
    .argument (show mixedSource.arguments = [] ++ _ from rfl) (by decide +kernel) nofun
  exact ⟨hunambiguous, (huses _ _).1 hport, (hother _ (by decide +kernel)).1,
    (hrefused _).2 (.inl ⟨hfaults.symm, List.cons_ne_nil _ _⟩), by decide +kernel,
    hlock roomy .initial (by decide +kernel)⟩

end Settings

end ClusterHealth
