import ClusterHealth.Proofs.Lock.Alone
import ClusterHealth.Proofs.Moves
import ClusterHealth.Proofs.Session

/-!
# `ClusterHealth.Proofs.UnderLock` — what a run does, it does under its lock

A run takes its lock before it has anything to do with the cluster, and gives it back when it has done with
it. Between the two it makes a cluster object, connects, asks, and shuts down what there was, in this order,
whatever fails on the way. All of that is read off the journal, of which the *milestones* are the part that
tells about the lock, the session and the requests.

## Contents
- `Milestone`, `milestones`, `Shows shown`: what a part of a run adds to the milestones.
- `Client.sessionShown`, `Client.session_shows`: a session around any work that only asks.
- `Run.judged_shows`: the verdict on a session.
- `Run.Locked`, `Run.run_of_acquired`: a run that has got its lock.
- `Run.run_under_lock`: a whole run.
-/

namespace ClusterHealth

open ClusterHealth.Cql ClusterHealth.Retry ClusterHealth.Machine

/-! ## Milestones -/

namespace Machine

/-- What an event tells about the lock of a run, its session and its requests. -/
inductive Milestone where
  | lockTaken (path : Path)
  | clusterBuilt (connection : Connection)
  | connecting
  /-- A statement or a read was sent, or another attempt of the read, or its trace was fetched. -/
  | asked
  | sessionClosed
  | clusterClosed
  | lockGivenBack (path : Path)
  deriving DecidableEq

/-- The milestone that an event is, if it is one. -/
def Event.milestone? : Event → Option Milestone
  | .notice (.lockAcquired path) => some (.lockTaken path)
  | .notice _ => none
  | .statement _ | .query _ => some .asked
  | .call (.build connection) => some (.clusterBuilt connection)
  | .call .connect => some .connecting
  | .call (.retry _) | .call (.fetchTrace _) => some .asked
  | .call .rethrow => none
  | .call .closeSession => some .sessionClosed
  | .call .closeCluster => some .clusterClosed
  | .unlocked path => some (.lockGivenBack path)

/-- The milestones among some events, in order. -/
def milestones (events : List Event) : List Milestone :=
  events.filterMap Event.milestone?

/-- An event of a run that is at work: it asks something, or is no milestone. -/
def Event.Working (e : Event) : Prop :=
  e.milestone? = none ∨ e.milestone? = some .asked

theorem milestone?_of_not_ofLock {n : Notice} (h : n.ofLock = false) :
    (Event.notice n).milestone? = none := by
  cases n <;> first | rfl | exact nomatch h

theorem milestones_of_working {events : List Event} (h : ∀ e ∈ events, e.Working) :
    ∃ asked, milestones events = List.replicate asked .asked := by
  induction events with
  | nil => exact ⟨0, rfl⟩
  | cons e rest ih =>
    obtain ⟨asked, hrest⟩ := ih fun e' he' => h e' (List.mem_cons_of_mem e he')
    rcases h e List.mem_cons_self with he | he
    · exact ⟨asked, (List.filterMap_cons_none he).trans hrest⟩
    · exact ⟨asked + 1, (List.filterMap_cons_some he).trans (congrArg _ hrest)⟩

theorem working_readEvents : ReadEvents Event.Working where
  notice := fun _ h => .inl (milestone?_of_not_ofLock h)
  answer := fun verdict => by
    cases verdict with
    | retry level => exact .inr rfl
    | rethrow => exact .inl rfl
  trace := fun _ => .inr rfl

/-- These milestones came to the journal, and no file was touched. -/
structure Shows (shown : List Milestone) (m m' : Machine) : Prop where
  journal : Adds Event.milestone? shown m m'
  files : m'.files = m.files

variable {m m₁ m₂ : Machine} {xs ys : List Milestone}

theorem Shows.trans (h : Shows xs m m₁) (h' : Shows ys m₁ m₂) : Shows (xs ++ ys) m m₂ :=
  ⟨h.journal.trans h'.journal, h'.files.trans h.files⟩

theorem Shows.of_extends (h : Extends Event.Working m m₁) :
    ∃ asked, Shows (List.replicate asked .asked) m m₁ := by
  obtain ⟨⟨events, hj, hworking⟩, hf⟩ := h
  obtain ⟨asked, hasked⟩ := milestones_of_working hworking
  exact ⟨asked, ⟨events, hj, hasked⟩, hf⟩

end Machine

/-! ## Sessions -/

namespace Client

/-- The milestones of a session in which something is asked so many times: as many as the session came to
have, and then what shuts it down again. -/
def sessionShown (s : Settings) (m : Machine) (asked : Nat) : List Milestone :=
  match buildFailure m with
  | some _ => []
  | none =>
    .clusterBuilt (connection s) :: .connecting ::
      match connectFailure m with
      | some _ => [.clusterClosed]
      | none => List.replicate asked .asked ++ [.sessionClosed, .clusterClosed]

theorem dialled_shows (s : Settings) (m : Machine) :
    Shows [.clusterBuilt (connection s), .connecting] m (dialled s m) :=
  ⟨⟨_, rfl, rfl⟩, rfl⟩

theorem hungUp_shows (calls : List Call) (m : Machine) :
    Shows (milestones (calls.map .call)) m (hungUp calls m) :=
  ⟨⟨_, rfl, rfl⟩, rfl⟩

/-- **A session** around work that only asks is shut down on every way out of the work. -/
theorem session_shows {α : Type} (s : Settings) {work : Client → Action Machine α}
    (hwork : ∀ c, Action.Moves (Extends Event.Working) (work c)) (m : Machine) :
    ∃ asked, Shows (sessionShown s m asked) m (session s work m).2 := by
  rw [session_apply]
  unfold sessionShown
  -- The ways out: nothing was made, the connection failed, or the work ended in whatever way.
  cases buildFailure m with
  | some e => exact ⟨0, Adds.silent rfl, rfl⟩
  | none =>
    cases connectFailure m with
    | some e => exact ⟨0, (dialled_shows s m).trans (hungUp_shows [.closeCluster] _)⟩
    | none =>
      obtain ⟨asked, hasked⟩ := Shows.of_extends (hwork ⟨s, true, true⟩ (dialled s m))
      exact ⟨asked, (dialled_shows s m).trans (hasked.trans (hungUp_shows [.closeSession, .closeCluster] _))⟩

/-- A check only asks. -/
theorem check_working (c : Client) (names : Schema.Names) :
    Action.Moves (Extends Event.Working) (Check.run c.store names) := by
  have hcalls : c.store.Moves (Extends Event.Working) :=
    (store_moves working_readEvents.notice (fun _ => .inr rfl) c).mono fun _ _ h => h.toExtends
  exact Check.run_moves hcalls (moves_read working_readEvents (fun _ => .inr rfl) c) names

end Client

/-! ## Runs -/

namespace Run

/-- What is made of a session adds no milestone. -/
theorem judged_shows (s : Settings) (m : Machine) :
    ∃ asked, Shows (Client.sessionShown s m asked) m (judged s m).2 := by
  obtain ⟨asked, hasked⟩ : ∃ asked, Shows (Client.sessionShown s m asked) m (checked s m).2 :=
    Client.session_shows s (fun c => Client.check_working c _) m
  refine ⟨asked, ?_⟩
  rw [judged_apply]
  rcases hc : checked s m with ⟨e | r, m₁⟩
  · rw [hc] at hasked
    have hgivenUp : Shows [] m₁ (Check.givenUp (Client.store ⟨s, true, true⟩) e none m₁).2 := by
      unfold Check.givenUp
      split
      · have hnotice := milestone?_of_not_ofLock (Check.unreachableNotice_ofLock e)
        exact ⟨⟨[_], rfl, List.filterMap_cons_none hnotice⟩, rfl⟩
      · exact ⟨Adds.silent rfl, rfl⟩
    exact ⟨hasked.journal.andSilent hgivenUp.journal, hgivenUp.files.trans hasked.files⟩
  · rw [hc] at hasked
    exact hasked

/-- A run that has got its lock: nobody touches the lock until the verdict is made, and then it is given back. -/
structure Locked (s : Settings) (lock : Lock.LockFile) (m m₁ : Machine) (d : Descriptor) : Prop where
  has : Lock.Has lock.path d (some .exclusive) m₁.files
  cluster : m₁.cluster = m.cluster
  journal : m₁.journal = m.journal ++ [.notice (.lockAcquired lock.path)]
  untouched : (judged s m₁).2.files = m₁.files
  /-- Where the lock file cannot be removed, that takes the place of the verdict. -/
  left : run s lock m = ((Lock.removal m₁.files lock.path).bind fun _ => (judged s m₁).1, { (judged s m₁).2 with
    files := Lock.givenBack m₁.files lock.path d
    journal := (judged s m₁).2.journal ++ Lock.farewell m₁.files lock.path })

theorem run_of_acquired {s : Settings} {lock : Lock.LockFile} {m m₁ : Machine} {handle : Lock.Handle}
    (h : Lock.acquire lock Lock.alone m = (.ok handle, m₁)) :
    ∃ d, handle = ⟨lock.path, some d⟩ ∧ Locked s lock m m₁ d := by
  obtain ⟨d, rfl, hhas, hcluster, hjournal⟩ := Lock.acquire_ok h
  obtain ⟨asked, hasked⟩ := judged_shows s m₁
  -- The session touched no file, so the lock is as it was when it was taken.
  have hkept : Lock.Has lock.path d (some .exclusive) (judged s m₁).2.files := hasked.files ▸ hhas
  refine ⟨d, rfl, hhas, hcluster, hjournal, hasked.files, ?_⟩
  rw [run_apply, h]
  simp only [Lock.release_of_has hkept, hasked.files]
  cases Lock.removal m₁.files lock.path with
  | error e => rfl
  | ok u => rfl

namespace Locked

variable {s : Settings} {lock : Lock.LockFile} {m m₁ : Machine} {d : Descriptor}

theorem result_of_free (h : Locked s lock m m₁ d) (hfixed : m₁.files.fixed? lock.path = none) :
    (run s lock m).1 = (judged s m₁).1 := by
  rw [h.left, Lock.removal_eq_ok.2 hfixed]
  rfl

theorem result_of_fixed (h : Locked s lock m m₁ d) {reason : Option String}
    (hfixed : m₁.files.fixed? lock.path = some reason) : (run s lock m).1 = .error (.system (.denied reason)) := by
  rw [h.left, Lock.removal_eq_error.2 ⟨reason, hfixed, rfl⟩]
  rfl

/-- What a view shows of the end of a run, unless it shows that the lock was given back without a failure. -/
theorem adds {β : Type} {view : Event → Option β} (h : Locked s lock m m₁ d)
    (hview : view (.notice (.lockReleased lock.path)) = none) :
    Adds view (view (.unlocked lock.path)).toList (judged s m₁).2 (run s lock m).2 := by
  rw [h.left]
  refine ⟨_, rfl, ?_⟩
  unfold Lock.farewell
  cases m₁.files.fixed? lock.path with
  | none => cases hunlocked : view (.unlocked lock.path) <;> simp [hunlocked, hview]
  | some reason => cases hunlocked : view (.unlocked lock.path) <;> simp [hunlocked]

/-- A run that returns a report has removed its lock file. -/
theorem of_ok (h : Locked s lock m m₁ d) {r : Report} (hr : (run s lock m).1 = .ok r) :
    m₁.files.fixed? lock.path = none ∧ (judged s m₁).1 = .ok r := by
  cases hfixed : m₁.files.fixed? lock.path with
  | none => exact ⟨rfl, (h.result_of_free hfixed).symm.trans hr⟩
  | some reason => exact nomatch (h.result_of_fixed hfixed).symm.trans hr

/-- A run that fails has failed with its verdict, or could not remove its lock file. -/
theorem of_error (h : Locked s lock m m₁ d) {e : Failure} (he : (run s lock m).1 = .error e) :
    (judged s m₁).1 = .error e ∨ ∃ reason, m₁.files.fixed? lock.path = some reason ∧ e = .system (.denied reason) := by
  cases hfixed : m₁.files.fixed? lock.path with
  | none => exact .inl ((h.result_of_free hfixed).symm.trans he)
  | some reason =>
    right
    exact ⟨reason, rfl, (Except.error.inj ((h.result_of_fixed hfixed).symm.trans he)).symm⟩

end Locked

/-- **A run is all under its lock.** A run that does not get its lock has nothing to do with the cluster. A
run that gets it goes through the milestones in the one order, whatever comes of it: the lock is taken, a
cluster object is made, connects and is asked; the session is shut down just if there was one, and the
cluster just if it was made; and the lock, which nobody touched meanwhile, is given back: its file is closed,
and gone if it can be removed. If it cannot, that is what the run fails with. -/
theorem run_under_lock (s : Settings) (lock : Lock.LockFile) (m : Machine) :
    (∀ e m₁, Lock.acquire lock Lock.alone m = (.error e, m₁) →
      run s lock m = (.error e, m₁) ∧ m₁.journal = m.journal ∧ m₁.cluster = m.cluster)
    ∧ ∀ handle m₁, Lock.acquire lock Lock.alone m = (.ok handle, m₁) →
      ∃ d asked events, handle = ⟨lock.path, some d⟩
        ∧ Lock.Has lock.path d (some .exclusive) m₁.files
        ∧ (judged s m₁).2.files = m₁.files
        ∧ (run s lock m).2.files.openFile? d = none
        ∧ (run s lock m).2.journal = m.journal ++ events
        ∧ milestones events =
          .lockTaken lock.path :: (Client.sessionShown s m asked ++ [.lockGivenBack lock.path])
        ∧ (m₁.files.fixed? lock.path = none →
          (run s lock m).1 = (judged s m₁).1 ∧ (run s lock m).2.files.status lock.path = .error .notFound)
        ∧ ∀ reason, m₁.files.fixed? lock.path = some reason →
          (run s lock m).1 = .error (.system (.denied reason)) ∧ (run s lock m).2.files = m₁.files.close d := by
  refine ⟨?_, ?_⟩
  · intro e m₁ h
    refine ⟨?_, Lock.acquire_error h⟩
    rw [run_apply, h]
  · intro handle m₁ h
    obtain ⟨d, hhandle, hlocked⟩ := run_of_acquired (s := s) h
    obtain ⟨asked, hasked⟩ := judged_shows s m₁
    -- Whether the session comes about was settled before the lock was taken.
    have hsame : Client.sessionShown s m₁ asked = Client.sessionShown s m asked := by
      unfold Client.sessionShown Client.buildFailure Client.connectFailure
      rw [hlocked.cluster]
    have hfiles : (run s lock m).2.files = Lock.givenBack m₁.files lock.path d := by rw [hlocked.left]
    have htaken : Adds Event.milestone? [.lockTaken lock.path] m m₁ := ⟨_, hlocked.journal, rfl⟩
    have hgiven : Adds Event.milestone? [.lockGivenBack lock.path] (judged s m₁).2 (run s lock m).2 :=
      hlocked.adds rfl
    obtain ⟨events, hevents, hshown⟩ := (htaken.trans hasked.journal).trans hgiven
    rw [hsame] at hshown
    refine ⟨d, asked, events, hhandle, hlocked.has, hlocked.untouched, ?_, hevents, hshown, fun hfixed => ?_,
      fun reason hfixed => ?_⟩
    · rw [hfiles]
      exact Lock.openFile?_givenBack
    · exact ⟨hlocked.result_of_free hfixed, hfiles ▸ Lock.status_givenBack hlocked.has hfixed⟩
    · exact ⟨hlocked.result_of_fixed hfixed, hfiles.trans (Lock.givenBack_of_fixed hlocked.has hfixed)⟩

/-- A refused statement ends a run, and everything is shut down and given back behind it. -/
theorem run_under_lock_refused :
    (match (run oneNodeSettings ⟨oneNodeSettings.lockFile, 4242⟩
        (failingNode (.driver (.refusal .unauthorized "no")))).1 with
      | .error e => some e
      | .ok _ => none) = some (.driver (.refusal .unauthorized "no"))
    ∧ ∃ asked, milestones (run oneNodeSettings ⟨oneNodeSettings.lockFile, 4242⟩
        (failingNode (.driver (.refusal .unauthorized "no")))).2.journal =
        [.lockTaken oneNodeSettings.lockFile, .clusterBuilt (Client.connection oneNodeSettings), .connecting]
          ++ List.replicate asked .asked
          ++ [.sessionClosed, .clusterClosed, .lockGivenBack oneNodeSettings.lockFile] := by
  refine ⟨by decide +kernel, ?_⟩
  have hbuilt : Client.buildFailure (failingNode (.driver (.refusal .unauthorized "no"))) = none := rfl
  have hconnected : Client.connectFailure (failingNode (.driver (.refusal .unauthorized "no"))) = none := rfl
  have hfree : (Lock.acquire ⟨oneNodeSettings.lockFile, 4242⟩ Lock.alone
      (failingNode (.driver (.refusal .unauthorized "no")))).1.isOk = true := by decide +kernel
  rcases h : Lock.acquire ⟨oneNodeSettings.lockFile, 4242⟩ Lock.alone
      (failingNode (.driver (.refusal .unauthorized "no"))) with ⟨e | handle, m₁⟩
  · rw [h] at hfree
    exact nomatch hfree
  · obtain ⟨d, asked, events, -, -, -, -, hjournal, hshown, -, -⟩ :=
      (run_under_lock oneNodeSettings ⟨oneNodeSettings.lockFile, 4242⟩ _).2 handle m₁ h
    refine ⟨asked, ?_⟩
    rw [hjournal]
    refine hshown.trans ?_
    simp only [Client.sessionShown, hbuilt, hconnected, List.cons_append, List.nil_append, List.append_assoc]

end Run

end ClusterHealth
