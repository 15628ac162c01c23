import ClusterHealth.Proofs.Integer
import ClusterHealth.Report
import ClusterHealth.Text.Style

/-!
# `ClusterHealth.Proofs.Lines` — the status line

The summary of a report is meant to be one line. What it is made of is out of the hands of the program: the
names of nodes come from the cluster, and the text of a failure from whoever reports it. So a summary is one
line just if these have no line breaks. Printing leaves style sequences out, and with them no line break and
nothing of the word that the summary starts with.

## Contents
- `OneLine`: a text without a line break.
- `unstyledChars_append`, `oneLine_unstyled`: what printing leaves of a text.
- `Report.OneLine`, `Report.oneLine_summary`: the summaries that are one line.
- `Report.summary_label`: the word that a summary starts with.
-/

namespace ClusterHealth

open ClusterHealth.Text ClusterHealth.Number ClusterHealth.Network

/-! ## Lines -/

/-- A text without a line break. -/
def OneLine (s : String) : Prop := '\n' ∉ s.toList

instance (s : String) : Decidable (OneLine s) := inferInstanceAs (Decidable ('\n' ∉ s.toList))

@[simp] theorem oneLine_append {s t : String} : OneLine (s ++ t) ↔ OneLine s ∧ OneLine t := by
  unfold OneLine
  rw [String.toList_append, List.mem_append, not_or]

@[simp] theorem oneLine_decimal (n : Nat) : OneLine (decimal n) := by
  unfold OneLine decimal
  rw [String.toList_ofList]
  intro h
  have hdigit := (isDigitChar_of_mem h).digit
  exact absurd hdigit (by decide)

@[simp] theorem oneLine_decimalInt (n : Int) : OneLine (decimalInt n) := by
  cases n with
  | ofNat n => exact oneLine_decimal n
  | negSucc n => exact oneLine_append.2 ⟨by decide, oneLine_decimal _⟩

/-- A number without decimal places is a numeral, or the word for a number that is none. -/
@[simp] theorem oneLine_fixed (x : Binary64) : OneLine (x.fixed 0) := by
  cases x with
  | nan => exact (by decide : OneLine "nan")
  | infinity negative =>
    show OneLine (if negative then "-inf" else "inf")
    cases negative <;> decide
  | finite negative x =>
    show OneLine ((if negative then "-" else "") ++ decimal _)
    rw [oneLine_append]
    refine ⟨?_, oneLine_decimal _⟩
    cases negative <;> decide

@[simp] theorem oneLine_level (level : Level) : OneLine (Level.text level) := by
  unfold Level.text
  cases h : Level.name? level with
  | none => exact oneLine_decimalInt level
  | some name =>
    have hnames : ∀ name ∈ Level.names, OneLine name := by decide
    cases level with
    | ofNat n => exact hnames name (List.mem_of_getElem? h)
    | negSucc n => exact nomatch h

theorem oneLine_intercalate {sep : String} (hsep : OneLine sep) (names : List String) :
    OneLine (String.intercalate sep names) ↔ ∀ name ∈ names, OneLine name := by
  induction names with
  | nil => simp [OneLine]
  | cons name rest ih =>
    cases rest with
    | nil => simp
    | cons other rest =>
      rw [String.intercalate_cons_cons, oneLine_append, oneLine_append, ih, List.forall_mem_cons (a := name)]
      constructor
      · exact fun h => ⟨h.1.1, h.2⟩
      · exact fun h => ⟨⟨h.1, hsep⟩, h.2⟩

/-! ## Styles -/

namespace Text

variable {c : Char} {cs rest : List Char}

theorem unstyledChars_cons (h : c ≠ '\x1b') (cs : List Char) :
    unstyledChars (c :: cs) = c :: unstyledChars cs := by
  rw [unstyledChars]
  rintro cs' rfl -
  exact h rfl

/-- What comes before the first escape is left as it is. -/
theorem unstyledChars_append {xs : List Char} (h : '\x1b' ∉ xs) (ys : List Char) :
    unstyledChars (xs ++ ys) = xs ++ unstyledChars ys := by
  induction xs with
  | nil => rfl
  | cons x xs ih =>
    have hx : x ≠ '\x1b' := fun hx => h (hx ▸ List.mem_cons_self)
    rw [List.cons_append, unstyledChars_cons hx, ih fun hm => h (List.mem_cons_of_mem x hm), List.cons_append]

/-- No line break is lost behind a style sequence. -/
theorem lineBreak_mem_afterStyle (h : afterStyle? cs = some rest) : '\n' ∈ rest ↔ '\n' ∈ cs := by
  have hparameters : '\n' ∉ cs.takeWhile isStyleParameter := by
    intro hm
    exact absurd (List.mem_takeWhile_imp hm) (by decide)
  rw [← List.takeWhile_append_dropWhile (p := isStyleParameter) (l := cs), List.mem_append]
  unfold afterStyle? at h
  split at h
  · next c rest' hdrop =>
    split at h
    · next halpha =>
      rw [hdrop, ← Option.some.inj h, List.mem_cons]
      have hc : '\n' ≠ c := by
        rintro rfl
        exact absurd halpha (by decide)
      simp [hparameters, hc]
    · exact nomatch h
  · exact nomatch h

theorem lineBreak_mem_unstyledChars (cs : List Char) : '\n' ∈ unstyledChars cs ↔ '\n' ∈ cs := by
  -- By induction along the text: a style sequence, an escape that opens none, or another character.
  fun_induction unstyledChars cs with
  | case1 cs rest h _ ih => simp [ih, lineBreak_mem_afterStyle h]
  | case2 cs h ih => simp [ih]
  | case3 c cs h ih => simp [ih]
  | case4 => rfl

theorem oneLine_unstyled {s : String} : OneLine (unstyled s) ↔ OneLine s := by
  unfold OneLine unstyled
  rw [String.toList_ofList, lineBreak_mem_unstyledChars]

end Text

/-! ## Summaries -/

namespace Report

/-- Nothing that a report tells of others has a line break: the names of nodes that are missing, and the
text of a failure. -/
def OneLine (r : Report) : Prop :=
  match r.status with
  | .healthy => True
  | .degraded => ∀ nodes, r.missing = some nodes → ∀ name ∈ nodes.toList, ClusterHealth.OneLine name
  | .unreachable => ClusterHealth.OneLine (r.error.getD "None")

theorem oneLine_missingText (missing : Option NodeSet) : ClusterHealth.OneLine (missingText missing)
    ↔ ∀ nodes, missing = some nodes → ∀ name ∈ nodes.toList, ClusterHealth.OneLine name := by
  cases missing with
  | none => exact ⟨fun _ _ h => (nomatch h), fun _ => by decide⟩
  | some nodes =>
    have hjoined := oneLine_intercalate (by decide : ClusterHealth.OneLine ", ") nodes.toList
    have hone : ClusterHealth.OneLine (missingText (some nodes))
        ↔ ClusterHealth.OneLine (String.intercalate ", " nodes.toList) := by
      unfold missingText
      simp only
      split
      · next hempty =>
        rw [hempty]
        exact ⟨fun _ => by decide, fun _ => by decide⟩
      · rfl
    rw [hone, hjoined]
    exact ⟨fun h _ hnodes => Option.some.inj hnodes ▸ h, fun h => h nodes rfl⟩

/-- **A summary is one line** just if nothing that it tells of others has a line break. -/
theorem oneLine_summary {r : Report} {line : String} (h : r.summary = .ok line) :
    ClusterHealth.OneLine line ↔ r.OneLine := by
  unfold OneLine
  unfold summary at h
  cases hs : r.status with
  | healthy =>
    rw [hs] at h
    rw [← Except.ok.inj h]
    simp only [oneLine_append, oneLine_decimal, oneLine_fixed, and_true, iff_true]
    decide
  | degraded =>
    rw [hs] at h
    simp only at h
    split at h
    · exact nomatch h
    · rw [← Except.ok.inj h, ← oneLine_missingText]
      simp only [oneLine_append, oneLine_level, and_true]
      exact ⟨fun h => h.1.2, fun h => ⟨⟨by decide, h⟩, by decide⟩⟩
  | unreachable =>
    rw [hs] at h
    rw [← Except.ok.inj h]
    simp only [oneLine_append]
    exact ⟨fun h => h.1.2, fun h => ⟨⟨by decide, h⟩, by decide⟩⟩

/-- A summary starts with the word for the status, and so does what is printed of it. -/
theorem summary_label {r : Report} {line : String} (h : r.summary = .ok line) :
    r.status.label.toList <+: (unstyled line).toList := by
  have hplain : '\x1b' ∉ r.status.label.toList := by
    cases r.status <;> decide
  obtain ⟨rest, hrest⟩ : ∃ rest, line = r.status.label ++ rest := by
    unfold summary at h
    cases hs : r.status with
    | healthy =>
      rw [hs] at h
      exact ⟨_, (Except.ok.inj h).symm.trans (by simp only [String.append_assoc]; rfl)⟩
    | degraded =>
      rw [hs] at h
      simp only at h
      split at h
      · exact nomatch h
      · exact ⟨_, (Except.ok.inj h).symm.trans (by simp only [String.append_assoc]; rfl)⟩
    | unreachable =>
      rw [hs] at h
      exact ⟨_, (Except.ok.inj h).symm.trans (by simp only [String.append_assoc]; rfl)⟩
  refine ⟨unstyledChars rest.toList, ?_⟩
  rw [hrest, unstyled, String.toList_ofList, String.toList_append, unstyledChars_append hplain]

end Report

end ClusterHealth
