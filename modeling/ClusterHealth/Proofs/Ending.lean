import ClusterHealth.Command
import ClusterHealth.Proofs.Lines
import ClusterHealth.Proofs.Lock.Obstacles

/-!
# `ClusterHealth.Proofs.Ending` — the ways out of the command

A command that neither crashes nor is told to end leaves in one of three ways. It is not used as it should
be, and then nothing happens at all; it is refused its lock, and then nothing happens to the cluster or to
any file that was there; or it prints the verdict of its run, and then its lock file is gone. Which of the
three it is can be told by the settings that it is given and by the lock, and the exit code follows.

The verdict is printed as the summary of the report and the end of a line. That it is one line is not in the
hands of the program (`status_line_breaks`).

## Contents
- `Command.given?`, `Command.run_eq`: the settings that words and environment give, and that a command goes by.
- `Command.Misused`, `Command.Refused`, `Command.Reported`: the three ways out.
- `Command.run_ends`: one of them, and only one.
-/

namespace ClusterHealth.Command

open ClusterHealth.Machine

/-! ## Settings -/

/-- Whether the words ask for help and nothing else. -/
def AsksForHelp (words : List String) : Prop :=
  ∃ parsed, CommandLine.parse words = .ok parsed ∧ parsed.help = true

theorem not_asksForHelp {words : List String}
    (h : (CommandLine.parse words).toOption.map (·.help) = some false) : ¬ AsksForHelp words := by
  rintro ⟨parsed, hparse, hhelp⟩
  rw [hparse] at h
  exact nomatch (Option.some.inj h).symm.trans hhelp

/-- The settings that words and environment give, if the command can start, the words can be read and the
settings are valid. -/
def given? (words : List String) (environment : List (String × String)) (host : Host) (fs : FileSystem) :
    Option Settings := do
  let owner ← host.owner? fs environment
  let parsed ← (CommandLine.parse words).toOption
  let arguments ← parsed.arguments? host.reader fs
  (Settings.ofSource ⟨arguments, environment, owner⟩).toOption

/-- A machine on which a command has started its run. -/
def started (m : Machine) : Machine := { m with endsCleanly := true }

section Runs

variable {words : List String} {environment : List (String × String)} {process : Nat} {host : Host}
  {s : Settings} {m m' : Machine} {ending : Ending} {r : Report} {e : Failure} {threshold : Severity}

/-- A command that has started is a run with the settings that it is given, or is not used as it should be. -/
theorem request_eq (hhelp : ¬ AsksForHelp words) {fs : FileSystem} {owner : Settings.Owner}
    (hstart : host.owner? fs environment = some owner) : request words environment host fs =
      match given? words environment host fs with
      | none => .error (.silent usageCode)
      | some s => .ok s := by
  unfold request given?
  rw [hstart]
  cases hparse : CommandLine.parse words with
  | error fault => rfl
  | ok parsed =>
    have hnot : ¬ parsed.help = true := fun h => hhelp ⟨parsed, hparse, h⟩
    simp only [if_neg hnot, Except.toOption, Option.bind_eq_bind, Option.bind_some]
    cases parsed.arguments? host.reader fs with
    | none => rfl
    | some arguments => cases hsource : Settings.ofSource ⟨arguments, environment, owner⟩ <;> simp [hsource]

/-- A command whose temporary files have no place does not start. -/
theorem run_unstarted (hstart : host.owner? m.files environment = none) (words : List String) (process : Nat) :
    run words environment process host m = (.unstarted, m) := by
  have hrequest : request words environment host m.files = .error .unstarted := by
    unfold request
    rw [hstart]
  rw [run_apply, hrequest]

/-- A command goes by the settings that it is given. -/
theorem run_eq (hhelp : ¬ AsksForHelp words) {owner : Settings.Owner}
    (hstart : host.owner? m.files environment = some owner) (process : Nat) :
    run words environment process host m =
      match given? words environment host m.files with
      | none => (.silent usageCode, m)
      | some s => runWith s process m := by
  rw [run_apply, request_eq hhelp hstart]
  cases given? words environment host m.files <;> rfl

/-- What is left behind by a run with valid settings. -/
theorem runWith_eq (s : Settings) (process : Nat) (m : Machine) : runWith s process m =
    (endingOf (Logging.threshold s.debug) (Run.run s ⟨s.lockFile, process⟩ (started m)).1,
      { (reportRefusal (Run.run s ⟨s.lockFile, process⟩ (started m)).1
          (Run.run s ⟨s.lockFile, process⟩ (started m)).2).2 with endsCleanly := m.endsCleanly }) := rfl

/-! ## Failures -/

theorem endingOf_of_ofLock (h : e.ofLock = true) :
    endingOf threshold (.error e) = ⟨refusedCode, "", none, threshold⟩ := by
  cases e with
  | alreadyRunning lock holder => rfl
  | lockFile lock reason => rfl
  | _ => exact nomatch h

/-- A failure that is not about the lock makes a crash, or is the signal to end. -/
theorem endingOf_of_not_ofLock (threshold : Severity) (h : e.ofLock = false) :
    (endingOf threshold (.error e)).crash ≠ none ∨ signalCode ≤ (endingOf threshold (.error e)).exitCode := by
  cases e with
  | alreadyRunning lock holder => exact nomatch h
  | lockFile lock reason => exact nomatch h
  | terminated signal => exact .inr (Nat.le_add_right signalCode signal)
  | _ => exact .inl (Option.some_ne_none _)

/-- A refusal is put down in the journal, and nothing else happens. -/
theorem reportRefusal_of_ofLock (h : e.ofLock = true) (m : Machine) :
    ∃ n, (reportRefusal (.error e) m).2 = { m with journal := m.journal ++ [.notice n] } := by
  cases e with
  | alreadyRunning lock holder => exact ⟨_, rfl⟩
  | lockFile lock reason => exact ⟨_, rfl⟩
  | _ => exact nomatch h

/-! ## Ways out -/

/-- The words or the settings are not valid: nothing happens. -/
structure Misused (given : Option Settings) (m : Machine) (ending : Ending) (m' : Machine) : Prop where
  invalid : given = none
  exitCode : ending.exitCode = usageCode
  output : ending.output = ""
  untouched : m' = m

/-- The lock cannot be had: the cluster is left alone, the refusal is all that is reported, and what files
there were are still there, with their bytes. -/
structure Refused (given : Option Settings) (process : Nat) (m : Machine) (ending : Ending) (m' : Machine) :
    Prop where
  refused : ∃ s e, given = some s ∧ e.ofLock = true
    ∧ (Lock.acquire ⟨s.lockFile, process⟩ Lock.alone (started m)).1 = .error e
  exitCode : ending.exitCode = refusedCode
  output : ending.output = ""
  cluster : m'.cluster = m.cluster
  journal : ∃ n, m'.journal = m.journal ++ [.notice n]
  preserved : m.files.Preserved m'.files

/-- The run returns a report: what is printed starts with the word for its status, and is one line if the
report has no line breaks to tell of; the lock file is gone. -/
structure Reported (given : Option Settings) (process : Nat) (m : Machine) (ending : Ending) (m' : Machine)
    (r : Report) : Prop where
  returned : ∃ s, given = some s ∧ (Run.run s ⟨s.lockFile, process⟩ (started m)).1 = .ok r
    ∧ m'.files.status s.lockFile = .error .notFound
  exitCode : ending.exitCode = r.status.code
  output : ∃ line, ending.output = line ++ "\n" ∧ r.status.label.toList <+: line.toList
    ∧ (OneLine line ↔ r.OneLine)

/-- Of three statements one holds, and only one. -/
def ExactlyOne (p q r : Prop) : Prop :=
  (p ∨ q ∨ r) ∧ ¬ (p ∧ q) ∧ ¬ (p ∧ r) ∧ ¬ (q ∧ r)

/-- A run that is refused its lock returns no report. -/
theorem Refused.not_reported {given : Option Settings} (h : Refused given process m ending m')
    (h' : Reported given process m ending m' r) : False := by
  obtain ⟨s, e, hs, -, hacquire⟩ := h.refused
  obtain ⟨s', hs', hreport, -⟩ := h'.returned
  obtain rfl : s = s' := Option.some.inj (hs.symm.trans hs')
  rw [Run.run_apply] at hreport
  rcases ha : Lock.acquire ⟨s.lockFile, process⟩ Lock.alone (started m) with ⟨e' | handle, m₁⟩
  · rw [ha] at hreport
    exact nomatch hreport
  · rw [ha] at hacquire
    exact nomatch hacquire

theorem reported_of_ok (hreport : (Run.run s ⟨s.lockFile, process⟩ (started m)).1 = .ok r)
    (hcrash : (runWith s process m).1.crash = none) :
    Reported (some s) process m (runWith s process m).1 (runWith s process m).2 r := by
  rw [runWith_eq, hreport] at hcrash ⊢
  simp only [endingOf] at hcrash ⊢
  have hgone : (Run.run s ⟨s.lockFile, process⟩ (started m)).2.files.status s.lockFile = .error .notFound := by
    rcases ha : Lock.acquire ⟨s.lockFile, process⟩ Lock.alone (started m) with ⟨e | handle, m₁⟩
    · rw [Run.run_apply, ha] at hreport
      exact nomatch hreport
    · obtain ⟨d, -, hlocked⟩ := Run.run_of_acquired (s := s) ha
      obtain ⟨hfixed, -⟩ := hlocked.of_ok hreport
      rw [hlocked.left]
      exact Lock.status_givenBack hlocked.has hfixed
  cases hline : r.summary with
  | error e =>
    rw [hline] at hcrash
    exact nomatch hcrash
  | ok line =>
    exact ⟨⟨s, rfl, hreport, hgone⟩, rfl, Text.unstyled line, rfl, Report.summary_label hline,
      Text.oneLine_unstyled.trans (Report.oneLine_summary hline)⟩

theorem refused_of_error (hnumbered : m.files.Numbered) (hforeign : m.cluster.Foreign)
    (hfailed : (Run.run s ⟨s.lockFile, process⟩ (started m)).1 = .error e) (he : e.ofLock = true) :
    Refused (some s) process m (runWith s process m).1 (runWith s process m).2 := by
  obtain ⟨m₁, hacquire, hrun⟩ := Run.refused_of_ofLock (m := started m) hforeign hfailed he
  obtain ⟨hjournal, hcluster⟩ := Lock.acquire_error hacquire
  obtain ⟨n, hreported⟩ := reportRefusal_of_ofLock he m₁
  have hpreserved : (started m).files.Preserved m₁.files :=
    (Lock.acquire_notTaken (m := started m) hnumbered hacquire).leaves.preserved
  rw [runWith_eq, hrun, endingOf_of_ofLock he, hreported]
  refine ⟨⟨s, e, rfl, he, congrArg Prod.fst hacquire⟩, rfl, rfl, hcluster, ⟨n, ?_⟩, hpreserved⟩
  show m₁.journal ++ [.notice n] = m.journal ++ [.notice n]
  rw [hjournal]
  rfl

/-- **The ways out of the command.** Whatever the words, the environment, the host, the files and the cluster
are, a command that is not asked for help, does not crash and is not told to end leaves in one of the three
ways, and only one. -/
theorem run_ends (hhelp : ¬ AsksForHelp words) (hnumbered : m.files.Numbered) (hforeign : m.cluster.Foreign)
    (hrun : run words environment process host m = (ending, m')) (hcrash : ending.crash = none)
    (hcode : ending.exitCode < signalCode) :
    ExactlyOne (Misused (given? words environment host m.files) m ending m')
      (Refused (given? words environment host m.files) process m ending m')
      (∃ r, Reported (given? words environment host m.files) process m ending m' r) := by
  refine ⟨?_, ?_, ?_, ?_⟩
  · cases hstart : host.owner? m.files environment with
    | none =>
      rw [run_unstarted hstart] at hrun
      obtain ⟨rfl, rfl⟩ := Prod.mk.inj hrun
      exact nomatch hcrash
    | some owner =>
      rw [run_eq hhelp hstart] at hrun
      cases hgiven : given? words environment host m.files with
      | none =>
        rw [hgiven] at hrun
        obtain ⟨rfl, rfl⟩ := Prod.mk.inj hrun
        exact .inl ⟨rfl, rfl, rfl, rfl⟩
      | some s =>
        rw [hgiven] at hrun
        have hending : (runWith s process m).1 = ending := congrArg Prod.fst hrun
        have hleft : (runWith s process m).2 = m' := congrArg Prod.snd hrun
        rw [← hending] at hcrash hcode
        rw [← hending, ← hleft]
        right
        cases hresult : (Run.run s ⟨s.lockFile, process⟩ (started m)).1 with
        | ok r => exact .inr ⟨r, reported_of_ok hresult hcrash⟩
        | error e =>
          cases he : e.ofLock with
          | true => exact .inl (refused_of_error hnumbered hforeign hresult he)
          | false =>
            rw [runWith_eq, hresult] at hcrash hcode
            rcases endingOf_of_not_ofLock (Logging.threshold s.debug) he with hcrashed | hsignal
            · exact absurd hcrash hcrashed
            · exact absurd hcode (Nat.not_lt_of_le hsignal)
  · rintro ⟨hmisused, hrefused⟩
    obtain ⟨s, e, hs, -, -⟩ := hrefused.refused
    exact nomatch hmisused.invalid.symm.trans hs
  · rintro ⟨hmisused, r, hreported⟩
    obtain ⟨s, hs, -, -⟩ := hreported.returned
    exact nomatch hmisused.invalid.symm.trans hs
  · rintro ⟨hrefused, r, hreported⟩
    exact hrefused.not_reported hreported

end Runs

/-- A cluster of one node that answers everything is reported as healthy. -/
theorem run_ends_oneNode : ∃ ending m' r, run ["--lock-file", "/hc.lock"] [] 4242 (.plain 0) oneNode = (ending, m')
    ∧ Reported (given? ["--lock-file", "/hc.lock"] [] (.plain 0) oneNode.files) 4242 oneNode ending m' r
    ∧ r.status = .healthy := by
  have hhelp : ¬ AsksForHelp ["--lock-file", "/hc.lock"] := not_asksForHelp (by decide +kernel)
  have hforeign : oneNode.cluster.Foreign :=
    ⟨fun _ h => absurd h List.not_mem_nil, fun _ h => absurd h List.not_mem_nil,
      fun _ h => absurd h List.not_mem_nil, fun _ h => absurd h List.not_mem_nil⟩
  have hcode : (run ["--lock-file", "/hc.lock"] [] 4242 (.plain 0) oneNode).1.exitCode = 0 := by decide +kernel
  have hcrash : (run ["--lock-file", "/hc.lock"] [] 4242 (.plain 0) oneNode).1.crash = none := by decide +kernel
  rcases hrun : run ["--lock-file", "/hc.lock"] [] 4242 (.plain 0) oneNode with ⟨ending, m'⟩
  rw [hrun] at hcode hcrash
  have hshort : ending.exitCode < signalCode := hcode ▸ by decide
  obtain ⟨hways, -⟩ := run_ends hhelp FileSystem.numbered_initial hforeign hrun hcrash hshort
  rcases hways with hmisused | hrefused | ⟨r, hreported⟩
  · exact nomatch hcode.symm.trans hmisused.exitCode
  · exact nomatch hcode.symm.trans hrefused.exitCode
  · refine ⟨ending, m', r, rfl, hreported, ?_⟩
    have hstatus : r.status.code = 0 := hreported.exitCode.symm.trans hcode
    cases hs : r.status with
    | healthy => rfl
    | degraded =>
      rw [hs] at hstatus
      exact nomatch hstatus
    | unreachable =>
      rw [hs] at hstatus
      exact nomatch hstatus

/-- A cluster of one node whose first connection fails. The text of the failure has two lines. -/
def talkativeNode : Machine :=
  .ofParts .initial { Cluster.empty with
    hosts := [.text "10.0.0.1"]
    connections := [some (.driver (.noHostAvailable "m"
      (some [("10.0.0.1", "refused\nHEALTHY (1 nodes answered at ALL in 0ms)")])))] }

/-- The verdict on that cluster is printed on two lines, of which the second one tells the opposite. -/
theorem status_line_breaks :
    (run ["--lock-file", "/hc.lock"] [] 4242 (.plain 0) talkativeNode).1.crash = none
      ∧ (run ["--lock-file", "/hc.lock"] [] 4242 (.plain 0) talkativeNode).1.exitCode = Status.unreachable.code
      ∧ (run ["--lock-file", "/hc.lock"] [] 4242 (.plain 0) talkativeNode).1.output
        = "UNREACHABLE (No hosts available (10.0.0.1: refused\nHEALTHY (1 nodes answered at ALL in 0ms)))\n"
      ∧ ¬ ∃ line, OneLine line
        ∧ (run ["--lock-file", "/hc.lock"] [] 4242 (.plain 0) talkativeNode).1.output = line ++ "\n" := by
  have houtput : (run ["--lock-file", "/hc.lock"] [] 4242 (.plain 0) talkativeNode).1.output
      = "UNREACHABLE (No hosts available (10.0.0.1: refused\nHEALTHY (1 nodes answered at ALL in 0ms)))\n" := by
    decide +kernel
  refine ⟨by decide +kernel, by decide +kernel, houtput, ?_⟩
  rintro ⟨line, hline, h⟩
  -- One line with its end has one line break, and this output has two.
  have hcount : line.toList.count '\n' = 1 := by
    have hchars := congrArg String.toList (houtput.symm.trans h)
    rw [String.toList_append] at hchars
    have hbreaks := congrArg (List.count '\n') hchars
    rw [List.count_append] at hbreaks
    exact Nat.succ.inj hbreaks.symm
  exact hline (List.count_pos_iff.1 (hcount ▸ Nat.one_pos))

end ClusterHealth.Command
