import ClusterHealth.Validation.Rule

/-!
# `ClusterHealth.Validation.Record` — records whose parts are checked one by one

A checked record is there if all its parts are, and otherwise lists the issues of all of them in the
order of the parts (`issues_withPart`). No part hides the issues of another one.
-/

namespace ClusterHealth.Validation

/-- A value, or everything that is wrong with it. -/
abbrev Checked (α : Type) := Except (List Issue) α

namespace Checked

variable {α β : Type}

/-- What is wrong with a value. -/
def issues : Checked α → List Issue
  | .ok _ => []
  | .error es => es

/-- A part of a record, read at a name. -/
def part (name : String) : Except Fault α → Checked α
  | .ok a => .ok a
  | .error e => .error [⟨[name], e⟩]

/-- A record that lacks one part, together with that part. -/
def withPart (record : Checked (α → β)) (a : Checked α) : Checked β :=
  match record, a with
  | .ok f, .ok a => .ok (f a)
  | r, a => .error (r.issues ++ a.issues)

/-- A value that stands only if there are no further issues. -/
def withIssues (a : Checked α) (further : List Issue) : Checked α :=
  match a, further with
  | .ok a, [] => .ok a
  | a, es => .error (a.issues ++ es)

theorem issues_withPart (record : Checked (α → β)) (a : Checked α) :
    (withPart record a).issues = record.issues ++ a.issues := by
  cases record <;> cases a <;> rfl

theorem issues_withIssues (a : Checked α) (further : List Issue) :
    (Checked.withIssues a further).issues = a.issues ++ further := by
  cases a <;> cases further <;> rfl

end Checked

end ClusterHealth.Validation
