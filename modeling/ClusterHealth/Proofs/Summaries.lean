import ClusterHealth.Proofs.Identity
import ClusterHealth.Proofs.Lexemes
import ClusterHealth.Proofs.Lines

/-!
# `ClusterHealth.Proofs.Summaries` — what can be read off a status line

The line starts with the word for the status, so it tells the status. A degraded one goes on with the level, which
ends at the first semicolon, and with what is known of the missing nodes. The names of these share their place with
two words. But no address has a comma, so the names come apart again; and every address has a point or a colon, which
the words have not.

## Contents
- `Status.eq_of_label`: a status is known by the start of a line.
- `Level.text_injective`: a level is known by its text, be it a name or a number.
- `Address.text_injective`, `intercalate_injective`: so is an address, and so are names that are joined.
- `missingText_injective`, `degradedLine_injective`: so is what is known of the missing nodes, and all of the line.
- `Report.Degraded`, `Report.summary_readBack`: what lines tell of their reports.
-/

namespace ClusterHealth

open ClusterHealth.Text ClusterHealth.Number ClusterHealth.Network ClusterHealth.Retry

variable {c : Char}

/-! ## Status -/

/-- No word for a status goes on like another. -/
theorem Status.eq_of_label {status status' : Status} {cs : List Char} (h : status.label.toList <+: cs)
    (h' : status'.label.toList <+: cs) : status = status' := by
  have hlabels : ∀ {s s' : Status}, s.label.toList <+: s'.label.toList → s = s' := by
    intro s s'
    cases s <;> cases s' <;> decide
  rcases List.prefix_or_prefix_of_prefix h h' with hprefix | hprefix
  · exact hlabels hprefix
  · exact (hlabels hprefix).symm

/-! ## Levels -/

namespace Text

theorem toList_decimal (n : Nat) : (decimal n).toList = decimalChars n :=
  String.toList_ofList

theorem mem_decimalInt {k : Int} (h : c ∈ (decimalInt k).toList) : c = '-' ∨ ∃ n, c ∈ decimalChars n := by
  cases k with
  | ofNat n => exact .inr ⟨n, toList_decimal n ▸ h⟩
  | negSucc n =>
    rcases List.mem_append.1 (String.toList_append ▸ h) with h | h
    · exact .inl (List.mem_singleton.1 h)
    · exact .inr ⟨n + 1, toList_decimal (n + 1) ▸ h⟩

theorem decimalInt_injective {k k' : Int} (h : decimalInt k = decimalInt k') : k = k' := by
  apply Cql.integerLexemes_injective
  rw [← Cql.lexemes_decimalInt, h, Cql.lexemes_decimalInt]

end Text

namespace Level

variable {level level' : Level} {name : String}

theorem mem_names (h : name? level = some name) : name ∈ names := by
  cases level with
  | ofNat n => exact List.mem_of_getElem? h
  | negSucc n => exact nomatch h

theorem name?_injective (h : name? level = some name) (h' : name? level' = some name) : level = level' := by
  cases level with
  | negSucc n => exact nomatch h
  | ofNat m =>
    cases level' with
    | negSucc n => exact nomatch h'
    | ofNat n =>
      obtain ⟨hlt, -⟩ := List.getElem?_eq_some_iff.1 h
      have hnodup : names.Nodup := by decide
      exact congrArg Int.ofNat ((List.getElem?_inj hlt hnodup).1 (h.trans h'.symm))

/-- No number is written like a name: names have letters. -/
theorem decimalInt_ne_name {k : Int} (h : name ∈ names) : decimalInt k ≠ name := by
  rintro rfl
  have hnames : ∀ name ∈ names, name.toList.any (fun c => !(c == '-' || isAsciiDigit c)) = true := by decide
  obtain ⟨c, hc, hletter⟩ := List.any_eq_true.1 (hnames _ h)
  rcases mem_decimalInt hc with rfl | ⟨n, hc⟩
  · exact absurd hletter (by decide)
  · rw [(isDigitChar_of_mem hc).digit, Bool.or_true] at hletter
    exact nomatch hletter

/-- **A level is known by its text**, be it a name or a number. -/
theorem text_injective (h : text level = text level') : level = level' := by
  unfold text at h
  cases hname : name? level with
  | none =>
    cases hname' : name? level' with
    | none =>
      rw [hname, hname'] at h
      exact decimalInt_injective h
    | some name' =>
      rw [hname, hname'] at h
      exact absurd h (decimalInt_ne_name (mem_names hname'))
  | some name =>
    cases hname' : name? level' with
    | none =>
      rw [hname, hname'] at h
      exact absurd h.symm (decimalInt_ne_name (mem_names hname))
    | some name' =>
      rw [hname, hname'] at h
      obtain rfl : name = name' := h
      exact name?_injective hname hname'

/-- There is nothing in the text of a level but letters, digits, underscores and a minus sign. -/
theorem mem_text (h : c ∈ (text level).toList) : c = '-' ∨ Cql.isWordChar c = true := by
  unfold text at h
  cases hname : name? level with
  | none =>
    rw [hname] at h
    exact (mem_decimalInt h).imp_right fun ⟨_, hc⟩ => Cql.isWordChar_of_mem_decimalChars hc
  | some name =>
    rw [hname] at h
    have hnames : ∀ name ∈ names, name.toList.all Cql.isWordChar = true := by decide
    exact .inr (List.all_eq_true.1 (hnames name (mem_names hname)) c h)

end Level

/-! ## Addresses -/

/-- A text with a point or a colon. -/
def Network.Marked (s : String) : Prop := '.' ∈ s.toList ∨ ':' ∈ s.toList

instance (s : String) : Decidable (Marked s) := inferInstanceAs (Decidable ('.' ∈ s.toList ∨ ':' ∈ s.toList))

namespace Network.Address

variable {a b : Address}

theorem readable_of_unscoped (h : a.scope? = none) : a.Readable := by
  cases a with
  | v4 => trivial
  | v6 address scope =>
    obtain rfl : scope = none := h
    trivial

theorem text_injective (ha : a.scope? = none) (hb : b.scope? = none) (h : a.text = b.text) : a = b := by
  have hread := parse?_text (readable_of_unscoped ha)
  rw [h, parse?_text (readable_of_unscoped hb)] at hread
  exact (Option.some.inj hread).symm

theorem toList_text_v4 (address : V4) : (Address.v4 address).text.toList = address.chars :=
  String.toList_ofList

theorem toList_text_v6 (address : V6) : (Address.v6 address none).text.toList = address.chars :=
  String.toList_ofList

/-- There is nothing in the text of an address but letters, digits, points and colons. -/
theorem word_of_mem (ha : a.scope? = none) (h : c ∈ a.text.toList) :
    c = ':' ∨ c = '.' ∨ Cql.isWordChar c = true := by
  have hchar : IsAddressChar c := by
    cases a with
    | v4 address => exact V4.isAddressChar (toList_text_v4 address ▸ h)
    | v6 address scope =>
      obtain rfl : scope = none := ha
      exact address.spells_chars.isAddressChar (toList_text_v6 address ▸ h)
  have hdigits : ∀ d < 16, Cql.isWordChar (digitChar d) = true ∧ Cql.isWordChar (digitChar d).toUpper = true := by
    decide
  rcases hchar with hcolon | hpoint | ⟨d, hd, rfl | rfl⟩
  · exact .inl hcolon
  · exact .inr (.inl hpoint)
  · exact .inr (.inr (hdigits d hd).1)
  · exact .inr (.inr (hdigits d hd).2)

/-- Every address has a point or a colon. -/
theorem marked (ha : a.scope? = none) : Marked a.text := by
  cases a with
  | v4 address => exact .inl ((toList_text_v4 address).symm ▸ address.point_mem_chars)
  | v6 address scope =>
    obtain rfl : scope = none := ha
    exact .inr ((toList_text_v6 address).symm ▸ address.spells_chars.colon_mem)

end Network.Address

/-! ## Names that are joined -/

namespace Text

variable {names others : List String}

/-- The pieces between the commas: the names, and before each but the first of them a blank. -/
def pieces : List String → List (List Char)
  | [] => []
  | name :: rest => name.toList :: rest.map fun other => ' ' :: other.toList

theorem toList_intercalate (names : List String) :
    (String.intercalate ", " names).toList = joinWith ',' (pieces names) := by
  induction names with
  | nil => rfl
  | cons name rest ih =>
    cases rest with
    | nil => rfl
    | cons other rest =>
      rw [String.intercalate_cons_cons, String.toList_append, String.toList_append, ih, List.append_assoc]
      -- The blank behind the comma belongs to the piece that follows it.
      cases rest with
      | nil => rfl
      | cons third rest => rfl

theorem pieces_ne_nil (h : names ≠ []) : pieces names ≠ [] := by
  cases names with
  | nil => exact absurd rfl h
  | cons => exact List.cons_ne_nil _ _

theorem pieces_injective (h : pieces names = pieces others) : names = others := by
  cases names with
  | nil =>
    cases others with
    | nil => rfl
    | cons other rest => exact nomatch h
  | cons name rest =>
    cases others with
    | nil => exact nomatch h
    | cons other rest' =>
      obtain ⟨hfirst, hrest⟩ := List.cons.inj h
      have hblank : Function.Injective fun name : String => ' ' :: name.toList :=
        fun _ _ hsame => String.toList_injective (List.cons.inj hsame).2
      rw [String.toList_injective hfirst, hblank.list_map hrest]

theorem not_mem_pieces {sep : Char} (hsep : sep ≠ ' ') (h : ∀ name ∈ names, sep ∉ name.toList) :
    ∀ piece ∈ pieces names, sep ∉ piece := by
  cases names with
  | nil => exact nofun
  | cons name rest =>
    intro piece hpiece
    rcases List.mem_cons.1 hpiece with rfl | hpiece
    · exact h name List.mem_cons_self
    · obtain ⟨other, hother, rfl⟩ := List.mem_map.1 hpiece
      rw [List.mem_cons, not_or]
      exact ⟨hsep, h other (List.mem_cons_of_mem name hother)⟩

/-- **Names without commas are known** by what they are joined to. -/
theorem intercalate_injective (hnames : names ≠ []) (hothers : others ≠ [])
    (hplain : ∀ name ∈ names, ',' ∉ name.toList) (hplain' : ∀ name ∈ others, ',' ∉ name.toList)
    (h : String.intercalate ", " names = String.intercalate ", " others) : names = others := by
  have hjoined : joinWith ',' (pieces names) = joinWith ',' (pieces others) := by
    rw [← toList_intercalate, h, toList_intercalate]
  apply pieces_injective
  rw [← splitOn_joinWith (pieces_ne_nil hnames) (not_mem_pieces (by decide) hplain), hjoined,
    splitOn_joinWith (pieces_ne_nil hothers) (not_mem_pieces (by decide) hplain')]

theorem mem_intercalate (h : c ∈ (String.intercalate ", " names).toList) :
    c = ',' ∨ c = ' ' ∨ ∃ name ∈ names, c ∈ name.toList := by
  by_cases hblank : c = ' '
  · exact .inr (.inl hblank)
  rw [toList_intercalate] at h
  rcases mem_joinWith h with hcomma | ⟨piece, hpiece, hc⟩
  · exact .inl hcomma
  · by_cases hnone : ∃ name ∈ names, c ∈ name.toList
    · exact .inr (.inr hnone)
    · exact absurd hc (not_mem_pieces hblank (fun name hname hc => hnone ⟨name, hname, hc⟩) piece hpiece)

/-- The first name comes first. -/
theorem toList_prefix_intercalate (name : String) (rest : List String) :
    name.toList <+: (String.intercalate ", " (name :: rest)).toList := by
  rw [toList_intercalate]
  cases rest with
  | nil => exact List.prefix_rfl
  | cons other rest => exact List.prefix_append _ _

end Text

/-! ## Missing nodes -/

namespace Network.NodeSet

variable {a : Address} {addresses addresses' : List Address}

/-- The nodes of a set go by addresses that have no scope. -/
def Unscoped (nodes : NodeSet) : Prop :=
  ∀ name ∈ nodes.toList, ∃ a : Address, a.scope? = none ∧ a.text = name

/-- The nodes at some addresses. -/
def ofAddresses (addresses : List Address) : NodeSet :=
  .ofList (addresses.map Address.text)

theorem unscoped_ofAddresses (h : ∀ a ∈ addresses, a.scope? = none) : (ofAddresses addresses).Unscoped := by
  intro name hname
  obtain ⟨a, ha, rfl⟩ := List.mem_map.1 (mem_ofList.1 hname)
  exact ⟨a, h a ha, rfl⟩

theorem text_mem_ofAddresses (h : ∀ b ∈ addresses, b.scope? = none) (ha : a.scope? = none) :
    a.text ∈ ofAddresses addresses ↔ a ∈ addresses := by
  unfold ofAddresses
  rw [mem_ofList, List.mem_map]
  constructor
  · rintro ⟨b, hb, htext⟩
    rwa [← Address.text_injective (h b hb) ha htext]
  · exact fun hmem => ⟨a, hmem, rfl⟩

theorem mem_of_ofAddresses_eq (h : ∀ b ∈ addresses, b.scope? = none) (h' : ∀ b ∈ addresses', b.scope? = none)
    (hsame : ofAddresses addresses = ofAddresses addresses') (ha : a ∈ addresses) : a ∈ addresses' := by
  rw [← text_mem_ofAddresses h' (h a ha), ← hsame, text_mem_ofAddresses h (h a ha)]
  exact ha

/-- Sets are the same just if they are built from the same addresses, in any order. -/
theorem ofAddresses_eq_iff (h : ∀ a ∈ addresses, a.scope? = none) (h' : ∀ a ∈ addresses', a.scope? = none) :
    ofAddresses addresses = ofAddresses addresses' ↔ ∀ a, a ∈ addresses ↔ a ∈ addresses' := by
  constructor
  · exact fun hsame a => ⟨mem_of_ofAddresses_eq h h' hsame, mem_of_ofAddresses_eq h' h hsame.symm⟩
  · intro hsame
    apply ext_mem
    intro name
    unfold ofAddresses
    simp only [mem_ofList, List.mem_map, hsame]

end Network.NodeSet

namespace Report

variable {nodes nodes' : NodeSet} {missing missing' : Option NodeSet} {level level' : Level}

theorem missingText_of_nil (h : nodes.toList = []) : missingText (some nodes) = "none" := by
  unfold missingText
  simp only [h]
  rfl

/-- Names are what is told of a set that has members, and so it has a point or a colon. -/
theorem missingText_of_ne_nil (h : nodes.Unscoped) (hne : nodes.toList ≠ []) :
    missingText (some nodes) = String.intercalate ", " nodes.toList ∧ Marked (missingText (some nodes)) := by
  have hmarked : Marked (String.intercalate ", " nodes.toList) := by
    cases hnames : nodes.toList with
    | nil => exact absurd hnames hne
    | cons name rest =>
      obtain ⟨a, ha, rfl⟩ := h name (hnames ▸ List.mem_cons_self)
      have hsubset := (toList_prefix_intercalate a.text rest).subset
      exact (Address.marked ha).imp (fun hpoint => hsubset hpoint) fun hcolon => hsubset hcolon
  have htext : missingText (some nodes) = String.intercalate ", " nodes.toList := by
    unfold missingText
    apply if_neg
    intro hempty
    rw [hempty] at hmarked
    exact absurd hmarked (by decide)
  exact ⟨htext, htext ▸ hmarked⟩

theorem marked_missingText (h : nodes.Unscoped) : Marked (missingText (some nodes)) ↔ nodes.toList ≠ [] := by
  constructor
  · intro hmarked hnil
    rw [missingText_of_nil hnil] at hmarked
    exact absurd hmarked (by decide)
  · exact fun hne => (missingText_of_ne_nil h hne).2

theorem missingText_ne_unknown (h : nodes.Unscoped) : missingText (some nodes) ≠ missingText none := by
  by_cases hnil : nodes.toList = []
  · rw [missingText_of_nil hnil]
    decide
  · intro hsame
    have hmarked := (marked_missingText h).2 hnil
    rw [hsame] at hmarked
    exact absurd hmarked (by decide)

theorem comma_not_mem (h : nodes.Unscoped) : ∀ name ∈ nodes.toList, ',' ∉ name.toList := by
  intro name hname hcomma
  obtain ⟨a, ha, rfl⟩ := h name hname
  exact absurd (Address.word_of_mem ha hcomma) (by decide)

/-- Sets are known by their texts. -/
theorem missingText_some_injective (h : nodes.Unscoped) (h' : nodes'.Unscoped)
    (hsame : missingText (some nodes) = missingText (some nodes')) : nodes = nodes' := by
  have hempty : nodes.toList = [] ↔ nodes'.toList = [] := by
    rw [← not_iff_not, ← Ne, ← Ne, ← marked_missingText h, hsame, marked_missingText h']
  have hlist : nodes.toList = nodes'.toList := by
    by_cases hnil : nodes.toList = []
    · rw [hnil, hempty.1 hnil]
    · have hnil' : nodes'.toList ≠ [] := fun hnil' => hnil (hempty.2 hnil')
      obtain ⟨htext, -⟩ := missingText_of_ne_nil h hnil
      obtain ⟨htext', -⟩ := missingText_of_ne_nil h' hnil'
      exact intercalate_injective hnil hnil' (comma_not_mem h) (comma_not_mem h')
        (htext.symm.trans (hsame.trans htext'))
  cases nodes
  cases nodes'
  cases hlist
  rfl

/-- **What is known of the missing nodes** is known by its text: nothing, that there are none, or which they are. -/
theorem missingText_injective (h : ∀ nodes ∈ missing, nodes.Unscoped) (h' : ∀ nodes ∈ missing', nodes.Unscoped)
    (hsame : missingText missing = missingText missing') : missing = missing' := by
  cases missing with
  | none =>
    cases missing' with
    | none => rfl
    | some nodes' => exact absurd hsame.symm (missingText_ne_unknown (h' nodes' rfl))
  | some nodes =>
    cases missing' with
    | none => exact absurd hsame (missingText_ne_unknown (h nodes rfl))
    | some nodes' => exact congrArg some (missingText_some_injective (h nodes rfl) (h' nodes' rfl) hsame)

/-! ## Lines -/

/-- The line of a degraded report. -/
def degradedLine (level : Level) (missing : Option NodeSet) : String :=
  Status.degraded.label ++ " (consistency downgraded to " ++ Level.text level ++ "; missing: "
    ++ missingText missing ++ ")"

theorem toList_degradedLine (level : Level) (missing : Option NodeSet) : (degradedLine level missing).toList
    = "DEGRADED (consistency downgraded to ".toList
      ++ ((Level.text level).toList ++ ("; missing: ".toList ++ ((missingText missing).toList ++ ")".toList))) := by
  have heading : Status.degraded.label ++ " (consistency downgraded to " = "DEGRADED (consistency downgraded to " :=
    rfl
  unfold degradedLine
  rw [heading, String.toList_append, String.toList_append, String.toList_append, String.toList_append,
    List.append_assoc, List.append_assoc, List.append_assoc]

theorem degradedLine_injective (h : ∀ nodes ∈ missing, nodes.Unscoped) (h' : ∀ nodes ∈ missing', nodes.Unscoped)
    (hsame : degradedLine level missing = degradedLine level' missing') : level = level' ∧ missing = missing' := by
  have hlist := congrArg String.toList hsame
  rw [toList_degradedLine, toList_degradedLine] at hlist
  have hrest := List.append_cancel_left hlist
  -- The first semicolon is the one behind the level.
  have hlevel (level : Level) : ';' ∉ (Level.text level).toList := by
    intro hmem
    exact absurd (Level.mem_text hmem) (by decide)
  have hsemicolon : "; missing: ".toList = ';' :: " missing: ".toList := rfl
  rw [hsemicolon, List.cons_append, List.cons_append] at hrest
  have hcut := congrArg (cutAt ';') hrest
  rw [cutAt_append (hlevel level), cutAt_append (hlevel level')] at hcut
  obtain ⟨htext, hmissing⟩ := Prod.mk.inj hcut
  have htexts := List.append_cancel_left (Option.some.inj hmissing)
  refine ⟨Level.text_injective (String.toList_injective htext), missingText_injective h h' ?_⟩
  exact String.toList_injective (List.append_cancel_right htexts)

/-- There is no escape in such a line, so that it is printed as it is. -/
theorem unstyled_degradedLine (h : ∀ nodes ∈ missing, nodes.Unscoped) :
    unstyled (degradedLine level missing) = degradedLine level missing := by
  have hlevel : '\x1b' ∉ (Level.text level).toList := fun hmem => absurd (Level.mem_text hmem) (by decide)
  have hmissing : '\x1b' ∉ (missingText missing).toList := by
    cases missing with
    | none => decide
    | some nodes =>
      by_cases hnil : nodes.toList = []
      · rw [missingText_of_nil hnil]
        decide
      · rw [(missingText_of_ne_nil (h nodes rfl) hnil).1]
        intro hmem
        rcases mem_intercalate hmem with hcomma | hblank | ⟨name, hname, hmem⟩
        · exact absurd hcomma (by decide)
        · exact absurd hblank (by decide)
        · obtain ⟨a, ha, rfl⟩ := h nodes rfl name hname
          exact absurd (Address.word_of_mem ha hmem) (by decide)
  unfold unstyled
  rw [unstyledChars_eq_self, String.ofList_toList]
  rw [toList_degradedLine]
  repeat rw [List.mem_append, not_or]
  exact ⟨by decide, hlevel, by decide, hmissing, by decide⟩

/-! ## Reports -/

/-- A degraded report with its downgrade, of missing nodes that go by addresses without scopes, if any are known. -/
structure Degraded (r : Report) (d : Downgrade) : Prop where
  status : r.status = .degraded
  decision : r.decision = some d
  unscoped : ∀ nodes ∈ r.missing, nodes.Unscoped

theorem Degraded.summary {r : Report} {d : Downgrade} (h : Degraded r d) :
    r.summary = .ok (degradedLine d.granted r.missing) := by
  unfold Report.summary
  rw [h.status, h.decision]
  rfl

/-- **What lines tell of their reports.** Reports whose lines are printed alike have the same status. If both are
degraded they have the same level and the same missing nodes too, or know alike that there are none, or nothing; and
it does not matter in which order the nodes came to be known. -/
theorem summary_readBack {r r' : Report} {line line' : String} (h : r.summary = .ok line)
    (h' : r'.summary = .ok line') :
    (unstyled line = unstyled line' → r.status = r'.status)
      ∧ ∀ d d', Degraded r d → Degraded r' d' →
        (unstyled line = unstyled line' ↔ d.granted = d'.granted ∧ r.missing = r'.missing)
          ∧ ∀ addresses addresses', (∀ a ∈ addresses, a.scope? = none) → (∀ a ∈ addresses', a.scope? = none) →
            r.missing = some (.ofAddresses addresses) → r'.missing = some (.ofAddresses addresses') →
              (unstyled line = unstyled line'
                ↔ d.granted = d'.granted ∧ ∀ a, a ∈ addresses ↔ a ∈ addresses') := by
  refine ⟨fun hsame => ?_, fun d d' hd hd' => ?_⟩
  · have hlabel := summary_label h
    rw [hsame] at hlabel
    exact Status.eq_of_label hlabel (summary_label h')
  · obtain rfl := Except.ok.inj (h.symm.trans hd.summary)
    obtain rfl := Except.ok.inj (h'.symm.trans hd'.summary)
    rw [unstyled_degradedLine hd.unscoped, unstyled_degradedLine hd'.unscoped]
    have hlines : degradedLine d.granted r.missing = degradedLine d'.granted r'.missing
        ↔ d.granted = d'.granted ∧ r.missing = r'.missing := by
      constructor
      · exact degradedLine_injective hd.unscoped hd'.unscoped
      · rintro ⟨hlevel, hmissing⟩
        rw [hlevel, hmissing]
    refine ⟨hlines, fun addresses addresses' ha ha' hmissing hmissing' => ?_⟩
    rw [hlines, hmissing, hmissing', Option.some_inj, NodeSet.ofAddresses_eq_iff ha ha']

/-- A report of a read that one replica answered. -/
def answeredByOne (missing : Option NodeSet) : Report where
  status := .degraded
  snapshot := none
  decision := some ⟨.readTimeout, .all, .one, 1, 3⟩
  missing := missing
  error := none
  latency := .zero

/-- Two missing nodes in either order, and one of them alone. -/
theorem summary_readBack_twoNodes : ∃ a b : Address, ∃ line line' other,
    a.text = "10.0.0.1" ∧ b.text = "::1"
      ∧ (answeredByOne (some (.ofAddresses [a, b]))).summary = .ok line
      ∧ (answeredByOne (some (.ofAddresses [b, a]))).summary = .ok line'
      ∧ (answeredByOne (some (.ofAddresses [a]))).summary = .ok other
      ∧ unstyled line = unstyled line' ∧ unstyled line ≠ unstyled other := by
  let a : Address := .v4 ⟨[10, 0, 0, 1], rfl, by decide⟩
  let b : Address := .v6 ⟨[0, 0, 0, 0, 0, 0, 0, 1], rfl, by decide⟩ none
  have hdegraded (addresses : List Address) (h : ∀ x ∈ addresses, x.scope? = none) :
      Degraded (answeredByOne (some (.ofAddresses addresses))) ⟨.readTimeout, .all, .one, 1, 3⟩ :=
    ⟨rfl, rfl, fun _ hnodes => Option.some.inj hnodes ▸ NodeSet.unscoped_ofAddresses h⟩
  have hone : ∀ x ∈ [a], x.scope? = none := List.forall_mem_singleton.2 rfl
  have hboth : ∀ x ∈ [a, b], x.scope? = none := List.forall_mem_cons.2 ⟨rfl, List.forall_mem_singleton.2 rfl⟩
  have hboth' : ∀ x ∈ [b, a], x.scope? = none := List.forall_mem_cons.2 ⟨rfl, hone⟩
  have hline := (hdegraded _ hboth).summary
  have hline' := (hdegraded _ hboth').summary
  have hother := (hdegraded _ hone).summary
  obtain ⟨-, horders⟩ := summary_readBack hline hline'
  obtain ⟨-, hsets⟩ := summary_readBack hline hother
  refine ⟨a, b, _, _, _, by decide +kernel, by decide +kernel, hline, hline', hother, ?_, ?_⟩
  · refine ((horders _ _ (hdegraded _ hboth) (hdegraded _ hboth')).2 _ _ hboth hboth' rfl rfl).2 ⟨rfl, ?_⟩
    exact fun _ => (List.Perm.swap b a []).mem_iff
  · intro hsame
    have hmembers := ((hsets _ _ (hdegraded _ hboth) (hdegraded _ hone)).2 _ _ hboth hone rfl rfl).1 hsame
    have hfalse : b ∈ [a] := (hmembers.2 b).1 (List.mem_cons_of_mem a List.mem_cons_self)
    exact absurd hfalse (by decide)

end Report

end ClusterHealth
