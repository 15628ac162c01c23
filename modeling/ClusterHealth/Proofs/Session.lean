import ClusterHealth.Proofs.Check
import ClusterHealth.Run

/-!
# `ClusterHealth.Proofs.Session` — a run from its lock to its verdict, step by step

A run is a check within a session within a lock. Here is what each of these layers does in a given state of
the machine, whatever the layer inside it does: a session cleans up behind its work, and a lock behind the
session.

## Contents
- `Client.buildFailure`, `Client.connectFailure`: whether a session comes about.
- `Client.unbuilt`, `Client.dialled`, `Client.hungUp`: a machine at the stages of a session.
- `Client.enter_apply`, `Client.close_apply`, `Client.session_apply`: a session around any work.
- `Run.judged_apply`, `Run.run_eq`, `Run.run_apply`: the verdict on a session, and a run.
-/

namespace ClusterHealth

open ClusterHealth.Machine

namespace Client

/-! ## Sessions -/

/-- Why no cluster object can be made, if none can. -/
def buildFailure (m : Machine) : Option Failure :=
  m.cluster.nextBuild.1

/-- Why a cluster object, once it was made, cannot connect, if it cannot. -/
def connectFailure (m : Machine) : Option Failure :=
  m.cluster.nextBuild.2.nextConnection.1

/-- The machine when a cluster object was to be made. -/
def unbuilt (m : Machine) : Machine :=
  { m with cluster := m.cluster.nextBuild.2 }

/-- The machine when a cluster object was made and was told to connect. -/
def dialled (s : Settings) (m : Machine) : Machine :=
  { m with
    cluster := m.cluster.nextBuild.2.nextConnection.2
    journal := m.journal ++ [.call (.build (connection s)), .notice (.connecting s.host s.portNumber),
      .call .connect] }

/-- To connect uses up the failures of making and connecting a cluster object, and nothing else of a cluster. -/
theorem dialled_cluster (s : Settings) (m : Machine) : ∃ builds connections,
    (dialled s m).cluster = { m.cluster with builds := builds, connections := connections } := by
  unfold dialled Cluster.nextBuild
  cases m.cluster.builds with
  | nil =>
    unfold Cluster.nextConnection
    cases m.cluster.connections with
    | nil => exact ⟨_, _, rfl⟩
    | cons failure rest => exact ⟨_, _, rfl⟩
  | cons failure rest =>
    unfold Cluster.nextConnection
    simp only
    cases m.cluster.connections with
    | nil => exact ⟨_, _, rfl⟩
    | cons failure rest => exact ⟨_, _, rfl⟩

/-- The machine when what there was of a session was shut down. -/
def hungUp (calls : List Call) (m : Machine) : Machine :=
  { m with journal := m.journal ++ calls.map .call }

theorem make_apply (m : Machine) : Cluster.make m =
    match buildFailure m with
    | some e => (.error e, unbuilt m)
    | none => (.ok (), unbuilt m) := by
  show Cluster.failing (buildFailure m) (unbuilt m) = _
  cases buildFailure m <;> rfl

/-- Connecting, once a cluster object was made and that was reported. -/
theorem dial_apply (s : Settings) (m : Machine) :
    (Action.wrappingTransport Cluster.connect) { unbuilt m with
        journal := m.journal ++ [.call (.build (connection s)), .notice (.connecting s.host s.portNumber)] }
      = match connectFailure m with
        | some e => (.error e.wrapTransport, dialled s m)
        | none => (.ok (), dialled s m) := by
  have hconnect : Cluster.connect { unbuilt m with
      journal := m.journal ++ [.call (.build (connection s)), .notice (.connecting s.host s.portNumber)] }
      = Cluster.failing (connectFailure m) (dialled s m) := by
    unfold dialled
    rw [show ∀ a b c : Event, m.journal ++ [a, b, c] = (m.journal ++ [a, b]) ++ [c] from fun _ _ _ => by simp]
    rfl
  cases h : connectFailure m with
  | some e =>
    rw [h] at hconnect
    exact Action.wrappingTransport_of_error hconnect
  | none =>
    rw [h] at hconnect
    exact Action.wrappingTransport_of_ok hconnect

theorem connect_apply (c : Client) (m : Machine) : c.connect m =
    match buildFailure m with
    | some e => ((c, .error e), unbuilt m)
    | none =>
      match connectFailure m with
      | some e => (({ c with built := true }, .error e.wrapTransport), dialled c.settings m)
      | none => (({ c with built := true, connected := true }, .ok ()), dialled c.settings m) := by
  unfold connect
  rw [Action.step_bind_apply]
  have hmake : Cluster.make.run m = _ := make_apply m
  rw [hmake]
  cases buildFailure m with
  | some e => rfl
  | none =>
    simp only
    rw [Action.step_bind_apply, Action.step_bind_apply, Action.step_bind_apply]
    have hjournal : (report (.connecting c.settings.host c.settings.portNumber)
        (c.build (unbuilt m)).2).2 = { unbuilt m with
          journal := m.journal ++ [.call (.build (connection c.settings)),
            .notice (.connecting c.settings.host c.settings.portNumber)] } := by
      rw [show ∀ a b : Event, m.journal ++ [a, b] = (m.journal ++ [a]) ++ [b] from fun _ _ => by simp]
      rfl
    have hdial := dial_apply c.settings m
    rw [hjournal]
    have hrun : (Action.wrappingTransport Cluster.connect).run _ = _ := hdial
    rw [hrun]
    cases connectFailure m <;> rfl

theorem hungUp_nil (m : Machine) : hungUp [] m = m := by
  unfold hungUp
  rw [List.map_nil, List.append_nil]

theorem hungUp_cons (call : Call) (calls : List Call) (m : Machine) :
    hungUp (call :: calls) m = hungUp calls (hungUp [call] m) := by
  simp only [hungUp, List.map_cons, List.map_nil, List.append_assoc, List.singleton_append]

/-- What there is of a session is shut down, and the client has nothing any more. -/
theorem close_apply (s : Settings) (built connected : Bool) (m : Machine) :
    close ⟨s, built, connected⟩ m = (⟨s, false, false⟩,
      hungUp ((if connected then [.closeSession] else []) ++ if built then [.closeCluster] else []) m) := by
  cases connected with
  | false =>
    cases built with
    | false => exact Prod.ext rfl (hungUp_nil m).symm
    | true => rfl
  | true =>
    cases built with
    | false => rfl
    | true => exact Prod.ext rfl (hungUp_cons .closeSession [.closeCluster] m).symm

/-- Entering a session: it comes about, or what there was of it is shut down again. -/
theorem enter_apply (s : Settings) (m : Machine) : (ofSettings s).enter m =
    match buildFailure m with
    | some e => ((⟨s, false, false⟩, .error e), unbuilt m)
    | none =>
      match connectFailure m with
      | some e => ((⟨s, false, false⟩, .error e.wrapTransport), hungUp [.closeCluster] (dialled s m))
      | none => ((⟨s, true, true⟩, .ok ()), dialled s m) := by
  unfold enter
  rw [Action.step_bind_apply, connect_apply]
  cases buildFailure m with
  | some e =>
    refine Prod.ext rfl ?_
    show (close ⟨s, false, false⟩ (unbuilt m)).2 = unbuilt m
    rw [close_apply]
    exact hungUp_nil _
  | none => cases connectFailure m <;> rfl

/-- Some work in a session. Behind it everything is shut down that there was of the session, and no more. -/
theorem session_apply {α : Type} (s : Settings) (work : Client → Action Machine α) (m : Machine) :
    session s work m =
      match buildFailure m with
      | some e => (.error e, unbuilt m)
      | none =>
        match connectFailure m with
        | some e => (.error e.wrapTransport, hungUp [.closeCluster] (dialled s m))
        | none =>
          ((work ⟨s, true, true⟩ (dialled s m)).1,
            hungUp [.closeSession, .closeCluster] (work ⟨s, true, true⟩ (dialled s m)).2) := by
  unfold session
  rw [Action.lift_bind_apply, enter_apply]
  cases buildFailure m with
  | some e => rfl
  | none =>
    cases connectFailure m with
    | some e => rfl
    | none =>
      refine Prod.ext rfl ?_
      show (close ⟨s, true, true⟩ (work ⟨s, true, true⟩ (dialled s m)).2).2 = _
      rw [close_apply]
      rfl

end Client

namespace Run

/-! ## Runs -/

/-- The verdict on a session is that of its check; a session that fails is given up like a check that
fails. -/
theorem judged_apply (s : Settings) (m : Machine) : judged s m =
    match checked s m with
    | (.ok r, m₁) => (.ok r, m₁)
    | (.error e, m₁) => Check.givenUp (Client.store ⟨s, true, true⟩) e none m₁ := by
  unfold judged Action.handle Check.givenUp
  rw [Action.bind_of_ok (Action.outcome_apply _ m)]
  rcases checked s m with ⟨e | r, m₁⟩
  · by_cases he : e.isStore = true
    · simp only [if_pos he]
      rfl
    · simp only [if_neg he]
      rfl
  · rfl

/-- A run: the lock is taken, the verdict is made, and the lock is given back. -/
theorem run_eq (s : Settings) (lock : Lock.LockFile) :
    run s lock = Lock.acquire lock Lock.alone >>= fun h =>
      (judged s).outcome >>= fun result =>
        (ExceptT.lift (Lock.release h Lock.alone) >>= fun x => (liftM x.2 : Action Machine Unit)) >>= fun _ =>
          (liftM result : Action Machine Report) := by
  unfold run Lock.hold
  simp only [bind_assoc, pure_bind, bind_pure]

/-- A run that gets its lock gives it back, whatever the verdict is. -/
theorem run_apply (s : Settings) (lock : Lock.LockFile) (m : Machine) : run s lock m =
    match Lock.acquire lock Lock.alone m with
    | (.error e, m₁) => (.error e, m₁)
    | (.ok h, m₁) =>
      match Lock.release h Lock.alone (judged s m₁).2 with
      | ((_, .error e), m₂) => (.error e, m₂)
      | ((_, .ok ()), m₂) => ((judged s m₁).1, m₂) := by
  rw [run_eq]
  rcases ha : Lock.acquire lock Lock.alone m with ⟨e | h, m₁⟩
  · rw [Action.bind_of_error ha]
  · rw [Action.bind_of_ok ha, Action.bind_of_ok (Action.outcome_apply _ m₁)]
    have hgiven : (ExceptT.lift (Lock.release h Lock.alone) >>= fun x => (liftM x.2 : Action Machine Unit))
        (judged s m₁).2 = ((Lock.release h Lock.alone (judged s m₁).2).1.2,
          (Lock.release h Lock.alone (judged s m₁).2).2) := rfl
    simp only
    rcases hr : Lock.release h Lock.alone (judged s m₁).2 with ⟨⟨h', e | ⟨⟩⟩, m₂⟩
    · rw [hr] at hgiven
      exact Action.bind_of_error hgiven
    · rw [hr] at hgiven
      exact Action.bind_of_ok hgiven

end Run

/-! ## A small cluster -/

/-- A cluster of one node, which answers everything. -/
def oneNode : Machine :=
  .ofParts .initial { Cluster.empty with hosts := [.text "10.0.0.1"] }

/-- The same cluster, where what comes after the lookup fails. -/
def failingNode (e : Failure) : Machine :=
  { oneNode with cluster := { oneNode.cluster with failures := [(1, e)] } }

/-- Settings for a check of that cluster. -/
def oneNodeSettings : Settings :=
  ⟨"10.0.0.1", 9042, none, none, .zero, .zero, .zero, "health", "check", ⟨.single, ["lock"]⟩, false⟩

end ClusterHealth
