import ClusterHealth.Proofs.Congruence
import ClusterHealth.Proofs.Ending
import ClusterHealth.Proofs.Precedence
import ClusterHealth.Proofs.Session
import ClusterHealth.Proofs.Text
import Mathlib.Data.List.Forall2

/-!
# `ClusterHealth.Proofs.Secrecy` — nothing tells a password

Two commands are run side by side that are the same but for the texts of passwords. Step by step they cannot be
told apart: the words say the same, the same settings are accepted or refused, and the runs do the same things
in the same order. A password goes into the cluster object that is made, and nowhere else.

## Contents
- `CommandLine.AlikeButPassword`, `CommandLine.parse_alike`: words that say the same.
- `Settings.Source.AlikeButPassword`, `Settings.ofSource_alike`: the same settings accepted or refused.
- `Machine.Event.masked`, `Machine.AlikeButPassword`: machines whose journals differ in passwords only.
- `Client.session_alike`, `Run.run_alike`, `Command.runWith_alike`: sessions, runs and commands.
- `Command.password_kept`: what can be seen of a command does not depend on the password.
-/

namespace ClusterHealth

open ClusterHealth.Text ClusterHealth.Machine ClusterHealth.Validation

/-- What is found among entries is related, if the search does not tell related entries apart. -/
theorem find?_related {α : Type} {R : α → α → Prop} {p : α → Bool} {xs ys : List α} (h : List.Forall₂ R xs ys)
    (hp : ∀ x y, R x y → p x = p y) :
    Option.Rel (fun x y => R x y ∧ p x = true) (xs.find? p) (ys.find? p) := by
  induction h with
  | nil => exact .none
  | @cons x y xs ys hxy _ ih =>
    rw [List.find?_cons, List.find?_cons, ← hp x y hxy]
    cases hx : p x with
    | true => exact .some ⟨hxy, hx⟩
    | false => exact ih

/-- What is read from related members is related, if it can be read. -/
theorem mapM_related {α β : Type} {R : α → α → Prop} {S : β → β → Prop} {f : α → Option β} {xs ys : List α}
    (h : List.Forall₂ R xs ys) (hf : ∀ x y, R x y → Option.Rel S (f x) (f y)) :
    Option.Rel (List.Forall₂ S) (xs.mapM f) (ys.mapM f) := by
  induction h with
  | nil => exact .some .nil
  | @cons x y xs ys hxy _ ih =>
    have hread := hf x y hxy
    rw [List.mapM_cons, List.mapM_cons]
    generalize f x = a at hread ⊢
    generalize f y = b at hread ⊢
    generalize xs.mapM f = as at ih ⊢
    generalize ys.mapM f = bs at ih ⊢
    cases hread with
    | none => exact .none
    | some hab =>
      cases ih with
      | none => exact .none
      | some hrest => exact .some (.cons hab hrest)

/-! ## Words -/

namespace CommandLine

open ClusterHealth.Settings

/-- Command lines that are the same but for the texts of passwords. -/
inductive AlikeButPassword : List String → List String → Prop
  /-- The password is a word of its own. -/
  | apart {words words' : List String} (s s' : String) (rest : AlikeButPassword words words') :
    AlikeButPassword ("--password" :: s :: words) ("--password" :: s' :: words')
  /-- The password follows the name of the option. -/
  | joined {words words' : List String} (s s' : String) (rest : AlikeButPassword words words') :
    AlikeButPassword (("--password=" ++ s) :: words) (("--password=" ++ s') :: words')
  /-- A word that takes none of the others. -/
  | single {word : String} {words words' : List String} (goesOn : readWord word ≠ .stop)
    (takesNone : ∀ o, readWord word ≠ .wantsValue o) (rest : AlikeButPassword words words') :
    AlikeButPassword (word :: words) (word :: words')
  /-- Any option, with the word that is its value. -/
  | option {word value : String} {o : ValueOption} {words words' : List String}
    (takesOne : readWord word = .wantsValue o) (rest : AlikeButPassword words words') :
    AlikeButPassword (word :: value :: words) (word :: value :: words')
  /-- No passwords from here on. -/
  | same (words : List String) : AlikeButPassword words words

/-- Values of options that are the same but for passwords. -/
def ValuesAlike : List (ValueOption × String) → List (ValueOption × String) → Prop :=
  List.Forall₂ fun x y => x.1 = y.1 ∧ (x.1 ≠ .password → x.2 = y.2)

/-- Command lines that say the same, but for passwords. -/
def Parsed.AlikeButPassword (p p' : Parsed) : Prop :=
  ∃ values, p' = { p with values := values } ∧ ValuesAlike p.values values

variable {p p' : Parsed} {words words' : List String}

namespace Parsed.AlikeButPassword

theorem refl (p : Parsed) : p.AlikeButPassword p :=
  ⟨p.values, rfl, List.forall₂_same.2 fun _ _ => ⟨rfl, fun _ => rfl⟩⟩

theorem withValue (h : p.AlikeButPassword p') (o : ValueOption) {s s' : String} (hs : o ≠ .password → s = s') :
    (p.withValue o s).AlikeButPassword (p'.withValue o s') := by
  obtain ⟨values, rfl, halike⟩ := h
  exact ⟨_, rfl, .cons ⟨rfl, hs⟩ halike⟩

theorem withSwitch (h : p.AlikeButPassword p') (s : Switch) :
    (p.withSwitch s).AlikeButPassword (p'.withSwitch s) := by
  obtain ⟨values, rfl, halike⟩ := h
  cases s with
  | debug => exact ⟨_, rfl, halike⟩
  | help => exact ⟨_, rfl, halike⟩

theorem withWords (h : p.AlikeButPassword p') (more : List String) :
    ({ p with words := p.words ++ more } : Parsed).AlikeButPassword { p' with words := p'.words ++ more } := by
  obtain ⟨values, rfl, halike⟩ := h
  exact ⟨_, rfl, halike⟩

end Parsed.AlikeButPassword

theorem readWord_password : readWord "--password" = .wantsValue .password := by
  decide

theorem readWord_passwordJoined (s : String) : readWord ("--password=" ++ s) = .set .password s := by
  unfold readWord
  rw [String.toList_append]
  show longWord (String.ofList (cutAt '=' ("password".toList ++ '=' :: s.toList)).1)
    ((cutAt '=' ("password".toList ++ '=' :: s.toList)).2.map String.ofList) = _
  rw [cutAt_append (by decide)]
  show longWord "password" (some (String.ofList s.toList)) = _
  rw [String.ofList_toList]
  rfl

theorem parseFrom_same (words : List String) (h : p.AlikeButPassword p') :
    Agree Parsed.AlikeButPassword (parseFrom p words) (parseFrom p' words) := by
  induction p, words using parseFrom.induct generalizing p' with
  | case1 p => exact .ok h
  | case2 p word rest hword =>
    simp only [parseFrom, hword]
    exact .ok (h.withWords rest)
  | case3 p word rest hword ih =>
    simp only [parseFrom, hword]
    exact ih (h.withWords [word])
  | case4 p word rest o s hword ih =>
    simp only [parseFrom, hword]
    exact ih (h.withValue o fun _ => rfl)
  | case5 p word rest s hword ih =>
    simp only [parseFrom, hword]
    exact ih (h.withSwitch s)
  | case6 p word rest fault hword =>
    simp only [parseFrom, hword]
    exact .error fault
  | case7 p word o hword =>
    simp only [parseFrom, hword]
    exact .error _
  | case8 p word o hword value rest ih =>
    simp only [parseFrom, hword]
    exact ih (h.withValue o fun _ => rfl)

/-- **Words that are the same but for passwords say the same.** -/
theorem parseFrom_alike (hwords : AlikeButPassword words words') (h : p.AlikeButPassword p') :
    Agree Parsed.AlikeButPassword (parseFrom p words) (parseFrom p' words') := by
  induction hwords generalizing p p' with
  | apart s s' _ ih =>
    simp only [parseFrom, readWord_password]
    exact ih (h.withValue .password fun hne => absurd rfl hne)
  | joined s s' _ ih =>
    simp only [parseFrom, readWord_passwordJoined]
    exact ih (h.withValue .password fun hne => absurd rfl hne)
  | @single word words words' goesOn takesNone _ ih =>
    unfold parseFrom
    cases hword : readWord word with
    | stop => exact absurd hword goesOn
    | wantsValue o => exact absurd hword (takesNone o)
    | plain => exact ih (h.withWords [word])
    | set o s => exact ih (h.withValue o fun _ => rfl)
    | turn s => exact ih (h.withSwitch s)
    | bad fault => exact .error fault
  | @option word value o words words' takesOne _ ih =>
    simp only [parseFrom, takesOne]
    exact ih (h.withValue o fun _ => rfl)
  | same words => exact parseFrom_same words h

theorem parse_alike (hwords : AlikeButPassword words words') :
    Agree Parsed.AlikeButPassword (parse words) (parse words') := by
  have hfrom := parseFrom_alike hwords (.refl .empty)
  unfold parse
  generalize parseFrom .empty words = said at hfrom ⊢
  generalize parseFrom .empty words' = said' at hfrom ⊢
  cases hfrom with
  | error fault => exact .error fault
  | @ok p p' halike =>
    obtain ⟨values, rfl, hvalues⟩ := halike
    -- What is left over, and whether help is asked for, is the same on both sides.
    obtain ⟨before, debug, help, left⟩ := p
    cases help with
    | true => exact .ok ⟨values, rfl, hvalues⟩
    | false =>
      cases left with
      | nil => exact .ok ⟨values, rfl, hvalues⟩
      | cons word rest => exact .error _

/-! ## Arguments -/

/-- Arguments of the same name; those for a password may be different texts. -/
def ArgumentAlike (x y : String × Value) : Prop :=
  x.1 = y.1 ∧ (x.2 = y.2 ∨ lower x.1 = Field.password.name ∧ ∃ s s', x.2 = .text s ∧ y.2 = .text s')

theorem get?_alike {values values' : List (ValueOption × String)} (h : ValuesAlike values values')
    (o : ValueOption) : Option.Rel (fun s s' => o ≠ .password → s = s') (Pairs.get? o values)
      (Pairs.get? o values') := by
  unfold Pairs.get?
  have hfound := find?_related (p := fun entry => decide (entry.1 = o)) h fun x y hxy => by rw [hxy.1]
  generalize values.find? _ = x at hfound ⊢
  generalize values'.find? _ = y at hfound ⊢
  cases hfound with
  | none => exact .none
  | some hxy => exact .some fun ho => hxy.1.2 (of_decide_eq_true hxy.2 ▸ ho)

theorem given_alike (h : p.AlikeButPassword p') : ValuesAlike p.given p'.given := by
  obtain ⟨values, rfl, hvalues⟩ := h
  refine List.rel_filterMap (R := Eq) ?_ (List.forall₂_same.2 fun _ _ => rfl)
  rintro o _ rfl
  have hget := get?_alike hvalues o
  show Option.Rel _ ((Pairs.get? o p.values).map (o, ·)) ((Pairs.get? o values).map (o, ·))
  generalize Pairs.get? o p.values = x at hget ⊢
  generalize Pairs.get? o values = y at hget ⊢
  cases hget with
  | none => exact .none
  | some hs => exact .some ⟨rfl, hs⟩

/-- What an option parser makes of a password is the password. -/
theorem read?_alike (r : Reader) (fs : FileSystem) {o : ValueOption} {s s' : String} (hs : o ≠ .password → s = s') :
    Option.Rel ArgumentAlike ((o.read? r fs s).map (o.field.name, ·)) ((o.read? r fs s').map (o.field.name, ·)) := by
  by_cases ho : o = .password
  · subst ho
    have hname : lower ValueOption.password.field.name = Field.password.name := by decide
    exact .some ⟨rfl, .inr ⟨hname, s, s', rfl, rfl⟩⟩
  · rw [hs ho]
    cases o.read? r fs s' with
    | none => exact .none
    | some v => exact .some ⟨rfl, .inl rfl⟩

/-- **The arguments that words give** are the same but for the password. -/
theorem arguments?_alike (h : p.AlikeButPassword p') (r : Reader) (fs : FileSystem) :
    Option.Rel (List.Forall₂ ArgumentAlike) (p.arguments? r fs) (p'.arguments? r fs) := by
  have hvalues : Option.Rel (List.Forall₂ ArgumentAlike)
      (p.given.mapM fun entry => (entry.1.read? r fs entry.2).map (entry.1.field.name, ·))
      (p'.given.mapM fun entry => (entry.1.read? r fs entry.2).map (entry.1.field.name, ·)) := by
    refine mapM_related (given_alike h) ?_
    rintro ⟨o, s⟩ ⟨o', s'⟩ ⟨rfl, hs⟩
    exact read?_alike r fs hs
  have hdebug : p'.debug = p.debug := by
    obtain ⟨values, rfl, -⟩ := h
    rfl
  unfold Parsed.arguments?
  rw [hdebug]
  generalize (p.given.mapM _ : Option _) = x at hvalues ⊢
  generalize (p'.given.mapM _ : Option _) = y at hvalues ⊢
  cases hvalues with
  | none => exact .none
  | some hxy => exact .some (List.rel_append hxy (List.forall₂_same.2 fun _ _ => ⟨rfl, .inl rfl⟩))

end CommandLine

/-! ## Settings -/

namespace Settings

/-- Settings that are the same but for the text of the password, which both have or both lack. -/
def AlikeButPassword (s s' : Settings) : Prop :=
  ∃ password, s' = { s with password := password } ∧ password.isSome = s.password.isSome

/-- Environments that are the same but for the texts of passwords. -/
def EnvironmentAlike : List (String × String) → List (String × String) → Prop :=
  List.Forall₂ fun x y => x.1 = y.1 ∧ (lower x.1 ≠ Field.password.variableName → x.2 = y.2)

/-- What is given is the same; as a password there may be different texts. -/
def GivenAlike (f : Field) (v v' : Value) : Prop :=
  v = v' ∨ f = .password ∧ ∃ s s', v = .text s ∧ v' = .text s'

namespace Source

/-- Sources that are the same but for the texts of passwords. -/
structure AlikeButPassword (source source' : Source) : Prop where
  arguments : List.Forall₂ CommandLine.ArgumentAlike source.arguments source'.arguments
  environment : EnvironmentAlike source.environment source'.environment
  owner : source'.owner = source.owner

variable {source source' : Source}

theorem Field.eq_password_of_name {f : Field} (h : f.name = Field.password.name) : f = .password :=
  Field.variableName_injective (congrArg (Field.variableStart ++ ·) h)

theorem inArguments?_alike (h : source.AlikeButPassword source') (f : Field) :
    Option.Rel (GivenAlike f) (source.inArguments? f) (source'.inArguments? f) := by
  unfold inArguments?
  have hfound := find?_related (p := fun entry => decide (lower entry.1 = f.name)) h.arguments
    fun x y hxy => by rw [hxy.1]
  generalize source.arguments.find? _ = x at hfound ⊢
  generalize source'.arguments.find? _ = y at hfound ⊢
  cases hfound with
  | none => exact .none
  | some hxy =>
    obtain ⟨⟨-, halike⟩, hname⟩ := hxy
    refine .some (halike.imp_right ?_)
    rintro ⟨hpassword, htexts⟩
    exact ⟨Field.eq_password_of_name ((of_decide_eq_true hname).symm.trans hpassword), htexts⟩

theorem inEnvironment?_alike (h : source.AlikeButPassword source') (f : Field) :
    Option.Rel (GivenAlike f) (source.inEnvironment? f) (source'.inEnvironment? f) := by
  unfold inEnvironment?
  have hfound := find?_related (p := fun entry => decide (lower entry.1 = f.variableName))
    (List.forall₂_reverse_iff.2 h.environment) fun x y hxy => by rw [hxy.1]
  generalize source.environment.reverse.find? _ = x at hfound ⊢
  generalize source'.environment.reverse.find? _ = y at hfound ⊢
  cases hfound with
  | none => exact .none
  | @some x y hxy =>
    obtain ⟨⟨-, halike⟩, hname⟩ := hxy
    refine .some ?_
    by_cases hf : f = .password
    · exact .inr ⟨hf, x.2, y.2, rfl, rfl⟩
    · refine .inl (congrArg Value.text (halike fun hpassword => hf ?_))
      exact Field.variableName_injective ((of_decide_eq_true hname).symm.trans hpassword)

theorem given?_alike (h : source.AlikeButPassword source') (f : Field) :
    Option.Rel (GivenAlike f) (source.given? f) (source'.given? f) := by
  unfold given?
  have harguments := inArguments?_alike h f
  generalize source.inArguments? f = x at harguments ⊢
  generalize source'.inArguments? f = y at harguments ⊢
  cases harguments with
  | none => exact inEnvironment?_alike h f
  | some hxy => exact .some hxy

theorem given?_same (h : source.AlikeButPassword source') {f : Field} (hf : f ≠ .password) :
    source'.given? f = source.given? f := by
  have hgiven := given?_alike h f
  generalize source.given? f = x at hgiven ⊢
  generalize source'.given? f = y at hgiven ⊢
  cases hgiven with
  | none => rfl
  | some hxy => rw [hxy.resolve_right fun hpassword => hf hpassword.1]

theorem unknownNames_alike (h : source.AlikeButPassword source') :
    source'.unknownNames = source.unknownNames := by
  have hnames : source.arguments.map (·.1) = source'.arguments.map (·.1) := by
    rw [← List.forall₂_eq_eq_eq, List.forall₂_map_left_iff, List.forall₂_map_right_iff]
    exact h.arguments.imp fun _ _ hxy => hxy.1
  unfold unknownNames
  rw [hnames]

end Source

variable {s s' : Settings} {source source' : Source}

theorem AlikeButPassword.refl (s : Settings) : s.AlikeButPassword s :=
  ⟨s.password, rfl, rfl⟩

/-- All settings but the password are read as they are. -/
theorem setting_alike {α : Type} (h : source.AlikeButPassword source') {f : Field} (hf : f ≠ .password)
    (rule : Rule α) (default : α) : setting source' f rule default = setting source f rule default := by
  unfold setting
  rw [Source.given?_same h hf]

/-- With another text for the password the settings that are read are the same but for the password. -/
theorem ReadFrom.alike (h : ReadFrom source s) (halike : source.AlikeButPassword source')
    {v v' : String} (hv : source.given? .password = some (.text v))
    (hv' : source'.given? .password = some (.text v')) :
    ∃ s', ReadFrom source' s' ∧ s.AlikeButPassword s' := by
  have hpassword : s.password = some ⟨v⟩ := h.password_eq.2 ⟨_, hv, rfl⟩
  have hlockFile : defaultLockFile source'.owner = defaultLockFile source.owner := by rw [halike.owner]
  refine ⟨{ s with password := some ⟨v'⟩ }, ?_, ⟨_, rfl, by rw [hpassword]; rfl⟩⟩
  exact
    { host := (setting_alike halike (f := .host) (by decide) _ _).trans h.host
      portNumber := (setting_alike halike (f := .portNumber) (by decide) _ _).trans h.portNumber
      username := (setting_alike halike (f := .username) (by decide) _ _).trans h.username
      password := setting_eq_ok.2 (.inr ⟨_, hv', rfl⟩)
      connectTimeout := (setting_alike halike (f := .connectTimeout) (by decide) _ _).trans h.connectTimeout
      requestTimeout := (setting_alike halike (f := .requestTimeout) (by decide) _ _).trans h.requestTimeout
      traceWait := (setting_alike halike (f := .traceWait) (by decide) _ _).trans h.traceWait
      keyspace := (setting_alike halike (f := .keyspace) (by decide) _ _).trans h.keyspace
      table := (setting_alike halike (f := .table) (by decide) _ _).trans h.table
      lockFile := hlockFile ▸ (setting_alike halike (f := .lockFile) (by decide) _ _).trans h.lockFile
      debug := (setting_alike halike (f := .debug) (by decide) _ _).trans h.debug
      known := (Source.unknownNames_alike halike).trans h.known }

namespace Source

/-- A password that is given as a text completes the credentials of any user. -/
theorem credentials_of_text {v : String} (hv : source.given? .password = some (.text v)) : source.Credentials :=
  fun _ _ _ _ _ => ⟨_, _, hv, rfl⟩

/-- Another text for the password is no better and no worse. -/
theorem faults_alike (h : source.AlikeButPassword source') {v v' : String}
    (hv : source.given? .password = some (.text v)) (hv' : source'.given? .password = some (.text v')) :
    source'.faults = source.faults := by
  unfold faults
  refine List.filterMap_congr fun f _ => ?_
  unfold issue?
  by_cases hf : f = .password
  · rw [hf, hv, hv']
    rfl
  · rw [given?_same h hf]

end Source

/-- **With any text for the password the same settings are accepted, and the same issues told.** -/
theorem ofSource_alike (h : source.AlikeButPassword source') :
    Agree AlikeButPassword (ofSource source) (ofSource source') := by
  have hgiven := Source.given?_alike h .password
  -- Either the password is the same, too, or it is a text on both sides.
  by_cases hpassword : source'.given? .password = source.given? .password
  · have hsame : ∀ f, source'.given? f = source.given? f := by
      intro f
      by_cases hf : f = .password
      · exact hf ▸ hpassword
      · exact Source.given?_same h hf
    rw [ofSource_congr hsame (Source.unknownNames_alike h) h.owner]
    cases ofSource source with
    | ok s => exact .ok (.refl s)
    | error issues => exact .error issues
  · obtain ⟨v, v', hv, hv'⟩ : ∃ v v', source.given? .password = some (.text v)
        ∧ source'.given? .password = some (.text v') := by
      generalize source.given? .password = x at hgiven hpassword ⊢
      generalize source'.given? .password = y at hgiven hpassword ⊢
      cases hgiven with
      | none => exact absurd rfl hpassword
      | some hxy =>
        obtain rfl | ⟨-, v, v', rfl, rfl⟩ := hxy
        · exact absurd rfl hpassword
        · exact ⟨v, v', rfl, rfl⟩
    cases hsource : ofSource source with
    | ok s =>
      obtain ⟨s', hread, halike⟩ := (ofSource_eq_ok.1 hsource).1.alike h hv hv'
      rw [ofSource_eq_ok.2 ⟨hread, hread.lacksPassword_iff.2 (Source.credentials_of_text hv')⟩]
      exact .ok halike
    | error issues =>
      have hissues : issues = source'.faults ++ source'.strays ∧ issues ≠ [] := by
        rw [Source.faults_alike h hv hv', Source.strays, Source.unknownNames_alike h]
        exact (ofSource_eq_error.1 hsource).resolve_right fun hno =>
          hno.2.2.1 (Source.credentials_of_text hv)
      rw [ofSource_eq_error.2 (.inl hissues)]
      exact .error issues

/-- No password says where temporary files go. -/
theorem owner?_alike {environment environment' : List (String × String)}
    (h : EnvironmentAlike environment environment') (host : Host) (fs : FileSystem) :
    host.owner? fs environment' = host.owner? fs environment := by
  refine Host.owner?_congr fun name hname => ?_
  unfold Host.inEnvironment?
  have hfound := find?_related (p := fun entry => decide (entry.1 = name)) (List.forall₂_reverse_iff.2 h)
    fun x y hxy => by rw [hxy.1]
  generalize environment.reverse.find? _ = x at hfound ⊢
  generalize environment'.reverse.find? _ = y at hfound ⊢
  cases hfound with
  | none => rfl
  | @some x y hxy =>
    obtain ⟨⟨-, halike⟩, hx⟩ := hxy
    have hother : ∀ name ∈ Host.temporaryVariables, lower name ≠ Field.password.variableName := by decide +kernel
    exact congrArg some (halike (of_decide_eq_true hx ▸ hother name hname)).symm

end Settings

/-! ## Machines -/

namespace Machine

/-- An event without the password of a connection. -/
def Event.masked : Event → Event
  | .call (.build connection) =>
    .call (.build { connection with credentials := connection.credentials.map fun x => (x.1, "") })
  | e => e

/-- Machines that are the same but for the passwords in their journals. -/
def AlikeButPassword (m m' : Machine) : Prop :=
  ∃ journal, m' = { m with journal := journal } ∧ journal.map Event.masked = m.journal.map Event.masked

/-- What was sent to the cluster: statements and queries, in order. -/
def sent (m : Machine) : List Event :=
  m.journal.filterMap fun
    | .statement r => some (.statement r)
    | .query q => some (.query q)
    | _ => none

variable {m m' : Machine}

theorem AlikeButPassword.refl (m : Machine) : m.AlikeButPassword m :=
  ⟨m.journal, rfl, rfl⟩

/-- More events that are the same but for passwords. -/
theorem AlikeButPassword.journal {journal : List Event}
    (h : journal.map Event.masked = m.journal.map Event.masked) {more more' : List Event}
    (hmore : more'.map Event.masked = more.map Event.masked) :
    (journal ++ more').map Event.masked = (m.journal ++ more).map Event.masked := by
  rw [List.map_append, List.map_append, h, hmore]

theorem AlikeButPassword.congruence : Congruence AlikeButPassword where
  observe := by
    rintro e m _ ⟨journal, rfl, h⟩
    exact ⟨rfl, _, rfl, AlikeButPassword.journal h rfl⟩
  files := by
    rintro α f m _ ⟨journal, rfl, h⟩
    exact ⟨rfl, _, rfl, h⟩
  cluster := by
    rintro α f - m _ ⟨journal, rfl, h⟩
    exact ⟨rfl, _, rfl, h⟩
  endsCleanly := by
    rintro m _ ⟨journal, rfl, -⟩
    rfl
  ending := by
    rintro m _ b ⟨journal, rfl, h⟩
    exact ⟨_, rfl, h⟩

theorem AlikeButPassword.nextRead :
    Coupled AlikeButPassword (onCluster Cluster.nextRead) (onCluster Cluster.nextRead) := by
  rintro m _ ⟨journal, rfl, h⟩
  exact ⟨rfl, _, rfl, h⟩

/-- What does not look at passwords sees the same in the journals of both machines. -/
theorem AlikeButPassword.filterMap {β : Type} (h : m.AlikeButPassword m') (see : Event → Option β)
    (hsee : ∀ e, see e.masked = see e) : m'.journal.filterMap see = m.journal.filterMap see := by
  obtain ⟨journal, rfl, hmasked⟩ := h
  have hmask : ∀ events : List Event, (events.map Event.masked).filterMap see = events.filterMap see := by
    intro events
    rw [List.filterMap_map]
    exact List.filterMap_congr fun e _ => hsee e
  rw [← hmask, ← hmask m.journal, hmasked]

theorem AlikeButPassword.notices (h : m.AlikeButPassword m') : m'.notices = m.notices := by
  refine h.filterMap _ fun e => ?_
  cases e with
  | call c => cases c <;> rfl
  | _ => rfl

theorem AlikeButPassword.sent (h : m.AlikeButPassword m') : m'.sent = m.sent := by
  refine h.filterMap _ fun e => ?_
  cases e with
  | call c => cases c <;> rfl
  | _ => rfl

end Machine

/-! ## Sessions, runs and commands -/

section Runs

variable {s s' : Settings} {m m' : Machine}

/-- The clusters that are reached differ in the password only. -/
theorem Client.connection_alike (h : s.AlikeButPassword s') :
    (Event.call (.build (connection s'))).masked = (Event.call (.build (connection s))).masked := by
  obtain ⟨password, rfl, -⟩ := h
  unfold connection Event.masked
  cases s.username with
  | none => rfl
  | some user =>
    simp only
    split <;> rfl

theorem Client.dialled_alike (h : s.AlikeButPassword s') (hm : m.AlikeButPassword m') :
    (dialled s m).AlikeButPassword (dialled s' m') := by
  have hconnection := connection_alike h
  obtain ⟨password, rfl, -⟩ := h
  obtain ⟨journal, rfl, hmasked⟩ := hm
  refine ⟨_, rfl, AlikeButPassword.journal hmasked ?_⟩
  rw [List.map_cons, List.map_cons, hconnection]
  rfl

theorem Client.hungUp_alike (calls : List Call) (hm : m.AlikeButPassword m') :
    (hungUp calls m).AlikeButPassword (hungUp calls m') := by
  obtain ⟨journal, rfl, hmasked⟩ := hm
  exact ⟨_, rfl, AlikeButPassword.journal hmasked rfl⟩

/-- Sessions that differ in the password go the same way around work that does. -/
theorem Client.session_alike {α : Type} (h : s.AlikeButPassword s') {work other : Client → Action Machine α}
    (hwork : Coupled AlikeButPassword (work ⟨s, true, true⟩) (other ⟨s', true, true⟩)) :
    Coupled AlikeButPassword (session s work) (session s' other) := by
  intro m m' hm
  have hbuild : buildFailure m' = buildFailure m := by
    obtain ⟨journal, rfl, -⟩ := hm
    rfl
  have hconnect : connectFailure m' = connectFailure m := by
    obtain ⟨journal, rfl, -⟩ := hm
    rfl
  have hdialled := dialled_alike h hm
  rw [session_apply, session_apply, hbuild, hconnect]
  cases buildFailure m with
  | some e =>
    obtain ⟨journal, rfl, hmasked⟩ := hm
    exact ⟨rfl, _, rfl, hmasked⟩
  | none =>
    cases connectFailure m with
    | some e => exact ⟨rfl, hungUp_alike _ hdialled⟩
    | none =>
      obtain ⟨hsame, hafter⟩ := hwork _ _ hdialled
      exact ⟨hsame, hungUp_alike _ hafter⟩

namespace Run

/-- The verdict on a session does not depend on the password. -/
theorem judged_alike (h : s.AlikeButPassword s') : Coupled AlikeButPassword (judged s) (judged s') := by
  unfold judged
  refine Coupled.handle (Client.session_alike h ?_) fun e => ?_
  · -- A check asks its session for nothing that depends on the password.
    obtain ⟨password, rfl, -⟩ := h
    exact Client.check_coupled AlikeButPassword.congruence AlikeButPassword.nextRead ⟨s, true, true⟩ _
  · exact Coupled.andThen (Coupled.lift (AlikeButPassword.congruence.observe _)) fun _ => Coupled.pure _

/-- **A run does not depend on the password.** -/
theorem run_alike (h : s.AlikeButPassword s') (lock : Lock.LockFile) :
    Coupled AlikeButPassword (run s lock) (run s' lock) := by
  unfold run
  refine Coupled.andThen (Lock.hold_coupled AlikeButPassword.congruence.toLocalCongruence lock fun _ => ?_)
    fun _ => Coupled.pure _
  exact judged_alike h

end Run

namespace Command

theorem runWith_alike (h : s.AlikeButPassword s') (process : Nat) :
    Coupled AlikeButPassword (runWith s process) (runWith s' process) := by
  have hrun := Run.run_alike h ⟨s.lockFile, process⟩
  obtain ⟨password, rfl, -⟩ := h
  unfold runWith
  refine Coupled.bind (endingCleanly_coupled AlikeButPassword.congruence.steps ?_) fun _ => Coupled.pure _
  refine Coupled.bind hrun fun result => ?_
  exact Coupled.bind (reportRefusal_coupled AlikeButPassword.congruence.toLocalCongruence result)
    fun _ => Coupled.pure _

variable {words words' : List String} {environment environment' : List (String × String)}

/-- **What is asked for** is the same but for the password. -/
theorem request_alike (hwords : CommandLine.AlikeButPassword words words')
    (henvironment : Settings.EnvironmentAlike environment environment') (host : Host) (fs : FileSystem) :
    Agree Settings.AlikeButPassword (request words environment host fs) (request words' environment' host fs) := by
  have hparsed := CommandLine.parse_alike hwords
  unfold request
  rw [Settings.owner?_alike henvironment]
  cases host.owner? fs environment with
  | none => exact .error _
  | some owner =>
    generalize CommandLine.parse words = said at hparsed ⊢
    generalize CommandLine.parse words' = said' at hparsed ⊢
    cases hparsed with
    | error fault => exact .error _
    | @ok parsed parsed' hsame =>
      have hhelp : parsed'.help = parsed.help := by
        obtain ⟨values, rfl, -⟩ := hsame
        rfl
      have harguments := CommandLine.arguments?_alike hsame host.reader fs
      simp only [hhelp]
      cases parsed.help with
      | true => exact .error _
      | false =>
        simp only [Bool.false_eq_true, if_false]
        generalize parsed.arguments? host.reader fs = x at harguments ⊢
        generalize parsed'.arguments? host.reader fs = y at harguments ⊢
        cases harguments with
        | none => exact .error _
        | @some arguments arguments' halike =>
          have hsources : Settings.Source.AlikeButPassword ⟨arguments, environment, owner⟩
            ⟨arguments', environment', owner⟩ := ⟨halike, henvironment, rfl⟩
          have hsettings := Settings.ofSource_alike hsources
          simp only
          generalize Settings.ofSource ⟨arguments, environment, owner⟩ = x at hsettings ⊢
          generalize Settings.ofSource ⟨arguments', environment', owner⟩ = y at hsettings ⊢
          cases hsettings with
          | error issues => exact .error _
          | ok hs => exact .ok hs

/-- **A command does not depend on the password.** -/
theorem run_alike (hwords : CommandLine.AlikeButPassword words words')
    (henvironment : Settings.EnvironmentAlike environment environment') (process : Nat) (host : Host) :
    Coupled AlikeButPassword (run words environment process host) (run words' environment' process host) := by
  intro m m' hm
  have hfiles : m'.files = m.files := by
    obtain ⟨journal, rfl, -⟩ := hm
    rfl
  have hrequest := request_alike hwords henvironment host m.files
  rw [run_apply, run_apply, hfiles]
  generalize request words environment host m.files = x at hrequest ⊢
  generalize request words' environment' host m.files = y at hrequest ⊢
  cases hrequest with
  | error ending => exact ⟨rfl, hm⟩
  | ok hs => exact runWith_alike hs process m m' hm

/-- The result of the run that a command makes on a machine, if it makes one. -/
def result? (words : List String) (environment : List (String × String)) (process : Nat) (host : Host)
    (m : Machine) : Option (Except Failure Report) :=
  (request words environment host m.files).toOption.map fun s => (Run.run s ⟨s.lockFile, process⟩ (started m)).1

theorem result?_alike (hwords : CommandLine.AlikeButPassword words words')
    (henvironment : Settings.EnvironmentAlike environment environment') (process : Nat) (host : Host) (m : Machine) :
    result? words' environment' process host m = result? words environment process host m := by
  have hrequest := request_alike hwords henvironment host m.files
  unfold result?
  generalize request words environment host m.files = x at hrequest ⊢
  generalize request words' environment' host m.files = y at hrequest ⊢
  cases hrequest with
  | error ending => rfl
  | @ok s s' hs =>
    have hrun := (Run.run_alike hs ⟨s.lockFile, process⟩ _ _ (.refl (started m))).1
    obtain ⟨password, rfl, -⟩ := hs
    exact congrArg some hrun.symm

/-- Two commands that nothing tells apart: they end in the same way and print the same, report the same at every
level, and show the same of it; they send the same, leave the same files behind, and make the same calls to the
cluster in the same order, but for the passwords of connections. -/
structure SameToSee (x y : Ending × Machine) : Prop where
  ending : y.1 = x.1
  notices : y.2.notices = x.2.notices
  shown : y.1.shown y.2 = x.1.shown x.2
  sent : y.2.sent = x.2.sent
  files : y.2.files = x.2.files
  cluster : y.2.cluster = x.2.cluster
  journal : y.2.journal.map Event.masked = x.2.journal.map Event.masked

/-- **A password is kept.** Of two commands that are the same but for the texts of passwords, which are given
in the same way, nothing tells which is which, and their runs have the same result. -/
theorem password_kept (hwords : CommandLine.AlikeButPassword words words')
    (henvironment : Settings.EnvironmentAlike environment environment') (process : Nat) (host : Host) (m : Machine) :
    SameToSee (run words environment process host m) (run words' environment' process host m)
      ∧ result? words' environment' process host m = result? words environment process host m := by
  obtain ⟨hending, halike⟩ := run_alike hwords henvironment process host m m (.refl m)
  have hnotices := halike.notices
  have hsent := halike.sent
  refine ⟨?_, result?_alike hwords henvironment process host m⟩
  generalize run words environment process host m = x at *
  generalize run words' environment' process host m = y at *
  obtain ⟨journal, hleft, hjournal⟩ := halike
  exact
    { ending := hending.symm
      notices := hnotices
      shown := by rw [Ending.shown, Ending.shown, hnotices, hending]
      sent := hsent
      files := by rw [hleft]
      cluster := by rw [hleft]
      journal := by rw [hleft]; exact hjournal }

/-- The passwords of two users who log what they do tell nothing of a healthy cluster apart. -/
theorem password_kept_oneNode :
    SameToSee
        (run ["-u", "monitor", "--password", "s3cret", "--debug", "--lock-file", "/hc.lock"] [] 4242 (.plain 0)
          oneNode)
        (run ["-u", "monitor", "--password", "hunter2", "--debug", "--lock-file", "/hc.lock"] [] 4242 (.plain 0)
          oneNode)
      ∧ (run ["-u", "monitor", "--password", "s3cret", "--debug", "--lock-file", "/hc.lock"] [] 4242 (.plain 0)
        oneNode).1.exitCode = Status.healthy.code :=
  ⟨(password_kept (.option (o := .username) (by decide) (.apart "s3cret" "hunter2" (.same _))) .nil 4242 (.plain 0)
    oneNode).1, by decide +kernel⟩

end Command

end Runs

end ClusterHealth
