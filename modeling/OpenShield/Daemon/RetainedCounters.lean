import OpenShield.Daemon.Subscription
import OpenShield.Data.Lapse

/-!
# Counters of a replaced policy

Installing a policy resets the kernel counters. The bus keeps the last counters that were read for
new subscribers, and the engine clears them where it installs a policy. It does not clear them
everywhere: not when a commit is rolled back after a failed write, not when a `blockAll` that
overtakes learning cannot be written, not at startup, and not when the kernel is lost. A reading
that was taken before a policy was installed again at the same revision is published after it.
-/

namespace OpenShield

/-! ### The monitor -/

structure Reading where
  expectedRevision : BitVec 64
  counters : FirewallCounters
  /-- How often the counters had been reset when they were read. -/
  resets : ℕ

structure Monitored where
  runtime : Runtime
  reading : Option Reading
  readAt : ℕ

inductive MonitorAction
  | engine (action : Action)
  | observe (expectedRevision : BitVec 64) (counters : FirewallCounters)
  | publish (now : Timestamp)

def rolledBack : ProtocolError :=
  .new .internal "state persistence failed; previous policy restored"

namespace Monitored

/-- One step. The counters are read without the engine lock and published under it. -/
def step (json : Serializer) (m : Monitored) : MonitorAction → Monitored
  | .engine action => { m with runtime := m.runtime.step json action }
  | .observe expectedRevision counters =>
    { m with reading := some ⟨expectedRevision, counters, m.runtime.world.resets⟩ }
  | .publish now =>
    match m.reading with
    | none => m
    | some reading =>
      match m.runtime.engine.currentCounters reading.expectedRevision reading.counters now with
      | none => { m with reading := none }
      | some event =>
        { runtime :=
            { m.runtime with world := { m.runtime.world with latestCounters := some event } }
          reading := none
          readAt := reading.resets }

def run (json : Serializer) (m : Monitored) (actions : List MonitorAction) : Monitored :=
  actions.foldl (step json) m

def Current (m : Monitored) : Prop :=
  m.runtime.world.latestCounters ≠ none → m.readAt = m.runtime.world.resets

instance (m : Monitored) : Decidable m.Current :=
  inferInstanceAs (Decidable (_ → _))

end Monitored

def Runtime.Uncleared (json : Serializer) (rt : Runtime) : Action → Prop
  | .activate => True
  | .control input request =>
    (handleControl json rt input request).1 = .error rolledBack ∨
      (handleControl json rt input request).2.engine.fatal = true ∨
      (∃ token, rt.engine.learningPersistence = .inFlight token) ∧
        (handleControl json rt input request).2.engine.poisoned = true
  | .prepare .. | .persist => False
  | .finalize => (rt.step json .finalize).engine.fatal = true
  | .repair expectedRevision => (rt.step json (.repair expectedRevision)).engine.fatal = true
  | .quarantine =>
    rt.engine.startupPolicy = .pending ∨ (rt.step json .quarantine).engine.fatal = true

/-- The steps after which the bus retains counters of a policy that was replaced: a policy is
installed without clearing them, or an old reading is published. -/
def Monitored.Lapse (json : Serializer) (m : Monitored) : MonitorAction → Prop
  | .engine action => m.runtime.world.latestCounters ≠ none ∧
      (m.runtime.step json action).world.resets ≠ m.runtime.world.resets ∧
      m.runtime.Uncleared json action
  | .observe .. => False
  | .publish now => ∃ reading event, m.reading = some reading ∧
      m.runtime.engine.currentCounters reading.expectedRevision reading.counters now =
        some event ∧
      reading.resets ≠ m.runtime.world.resets

/-! ### Counters and the operations of the world -/

namespace World

def SameCounters (w w' : World) : Prop :=
  w'.latestCounters = w.latestCounters ∧ w'.resets = w.resets

theorem SameCounters.trans {u v w : World} (huv : u.SameCounters v) (hvw : v.SameCounters w) :
    u.SameCounters w :=
  ⟨hvw.1.trans huv.1, hvw.2.trans huv.2⟩

theorem persistedStateAfterFailedSave_counters (w : World) (previous : State) :
    w.SameCounters (w.persistedStateAfterFailedSave previous).2 := by
  unfold persistedStateAfterFailedSave load
  split_ifs
  · exact ⟨rfl, rfl⟩
  · exact ⟨rfl, rfl⟩

theorem writeLearning_counters (w : World) (transaction : ApplicationLearningTransaction) :
    w.SameCounters (w.writeLearning transaction).2 := by
  have hsave (v : World) (state : State) : v.SameCounters (v.save state).2 := ⟨rfl, rfl⟩
  have h₁ := hsave w transaction.candidate
  unfold writeLearning
  rcases hfirst : w.save transaction.candidate with ⟨ok, w₁⟩
  rw [hfirst] at h₁
  cases ok with
  | true => exact h₁
  | false =>
    have h₂ := h₁.trans (w₁.persistedStateAfterFailedSave_counters transaction.previous)
    rcases hfound : w₁.persistedStateAfterFailedSave transaction.previous with ⟨found, w₂⟩
    rw [hfound] at h₂
    cases found with
    | previous => simpa only [hfound] using h₂
    | candidateOrUnknown =>
      have h₃ := h₂.trans (hsave w₂ transaction.previous)
      rcases hagain : w₂.save transaction.previous with ⟨again, w₃⟩
      rw [hagain] at h₃
      cases again <;> simpa only [hfound, hagain] using h₃

theorem persist_counters (w : World) : w.SameCounters w.persist := by
  unfold persist
  split
  · next transaction _ =>
    unfold persistLearning
    split_ifs
    · exact ⟨rfl, rfl⟩
    · have hwrite := w.writeLearning_counters transaction
      unfold cancelLearningReservation
      simp only
      split_ifs
      · exact hwrite
      · exact hwrite
  · exact ⟨rfl, rfl⟩

theorem waitUntilExclusive_counters (w : World) : w.SameCounters w.waitUntilExclusive := by
  unfold waitUntilExclusive
  split_ifs
  · exact ⟨rfl, rfl⟩
  · exact w.persist_counters

theorem saveExclusive_counters (w : World) (state : State) :
    w.SameCounters (w.saveExclusive state).2 :=
  w.waitUntilExclusive_counters.trans ⟨rfl, rfl⟩

end World

/-! ### Exits of the engine -/

structure World.Clears (uncleared : Prop) (w w' : World) : Prop where
  kept : uncleared → w'.latestCounters = w.latestCounters
  cleared : ¬uncleared → w'.latestCounters = none

/-- An exit that clears the counters unless it is one of the given, or nothing was installed. -/
structure World.Settles (uncleared : Prop) (w w' : World) : Prop where
  kept : uncleared → w'.latestCounters = w.latestCounters
  cleared : ¬uncleared → w'.latestCounters = none ∨ w.SameCounters w'

theorem World.Clears.settles {p q : Prop} {w w' : World} (h : w.Clears p w')
    (hpq : p → q) (hqp : q → p) : w.Settles q w' :=
  ⟨fun hq => h.kept (hqp hq), fun hnot => .inl (h.cleared fun hp => hnot (hpq hp))⟩

theorem World.SameCounters.settles {p : Prop} {w w' : World} (h : w.SameCounters w') :
    w.Settles p w' :=
  ⟨fun _ => h.1, fun _ => .inr h⟩

namespace Runtime

variable {json : Serializer} {rt : Runtime}

theorem emergencyProtocolError_ne_rolledBack {α : Type} (e : Engine) :
    (.error e.emergencyProtocolError : Except ProtocolError α) ≠ .error rolledBack := by
  intro h
  have hcode := congrArg ProtocolError.code (Except.error.inj h)
  rw [e.emergencyProtocolError_code] at hcode
  cases hcode

theorem enterEmergencyFailClosed_clears (revisionFloor : BitVec 64)
    (hfatal : rt.engine.fatal = false) :
    rt.world.Clears ((enterEmergencyFailClosed json rt revisionFloor).engine.fatal = true)
      (enterEmergencyFailClosed json rt revisionFloor).world := by
  unfold enterEmergencyFailClosed
  rcases hclosed : rt.world.failClosed with ⟨ok, w₁⟩
  have hlatest : w₁.latestCounters = rt.world.latestCounters := by
    cases hclosed
    rfl
  simp only
  cases ok with
  | false => exact ⟨fun _ => hlatest, fun hnot => absurd rfl hnot⟩
  | true =>
    cases State.fromSnapshot json (emergencySnapshot (retainedState rt.engine) revisionFloor) with
    | error error => exact ⟨fun _ => hlatest, fun hnot => absurd rfl hnot⟩
    | ok failClosed =>
      have hsave := (w₁.clearCounterSnapshot.saveExclusive_counters failClosed).1
      rcases hsaved : w₁.clearCounterSnapshot.saveExclusive failClosed with ⟨saved, w₂⟩
      rw [hsaved] at hsave
      simp only [hsaved]
      cases saved <;>
        exact ⟨fun hlost => absurd (hfatal.symm.trans hlost) Bool.false_ne_true, fun _ => hsave⟩

theorem emergency_clears {α : Type} {w : World} {revisionFloor : BitVec 64}
    {result : Except ProtocolError α} {rt' : Runtime} (hfatal : rt.engine.fatal = false)
    (hw : w.latestCounters = rt.world.latestCounters)
    (h : (.error (enterEmergencyFailClosed json ⟨rt.engine, w⟩
        revisionFloor).engine.emergencyProtocolError,
      enterEmergencyFailClosed json ⟨rt.engine, w⟩ revisionFloor) = (result, rt')) :
    rt.world.Clears (result = .error rolledBack ∨ rt'.engine.fatal = true) rt'.world := by
  obtain ⟨rfl, rfl⟩ := Prod.mk.inj h
  have hclears := @enterEmergencyFailClosed_clears json ⟨rt.engine, w⟩ revisionFloor hfatal
  refine ⟨fun hor => ?_, fun hnot => hclears.cleared fun hlost => hnot (.inr hlost)⟩
  rcases hor with herror | hlost
  · exact absurd herror (emergencyProtocolError_ne_rolledBack _)
  · exact (hclears.kept hlost).trans hw

theorem rollBack_latestCounters {w w' : World} {previous : State} {done : Bool × Bool}
    (h : rollBack w previous = (done, w')) : w'.latestCounters = w.latestCounters := by
  unfold rollBack at h
  rcases happly : w.apply previous.snapshot with ⟨backend, w₁⟩
  have h₁ : w₁.latestCounters = w.latestCounters := by
    cases happly
    rfl
  have h₂ := w₁.waitUntilExclusive_counters.trans
    (w₁.waitUntilExclusive.persistedStateAfterFailedSave_counters previous)
  rcases hfound : w₁.waitUntilExclusive.persistedStateAfterFailedSave previous with ⟨found, w₂⟩
  rw [hfound] at h₂
  simp only [happly, hfound] at h
  cases found with
  | previous =>
    cases h
    exact h₂.1.trans h₁
  | candidateOrUnknown =>
    cases h
    exact ((w₂.saveExclusive_counters previous).1.trans h₂.1).trans h₁

theorem commit_clears {candidate : State} {events : List Event}
    {result : Except ProtocolError Unit} {rt' : Runtime} (hfatal : rt.engine.fatal = false)
    (h : commit json rt candidate events = (result, rt')) :
    rt.world.Clears (result = .error rolledBack ∨ rt'.engine.fatal = true) rt'.world := by
  have hcleared {w : World} {engine : Engine} {result : Except ProtocolError Unit}
      (herror : result ≠ .error rolledBack) (hengine : engine.fatal = rt.engine.fatal)
      (hw : w.latestCounters = none) :
      rt.world.Clears (result = .error rolledBack ∨ engine.fatal = true) w :=
    ⟨fun hor => absurd (hor.resolve_left herror) (by rw [hengine, hfatal]; exact Bool.false_ne_true),
      fun _ => hw⟩
  unfold commit at h
  rcases happly : rt.world.apply candidate.snapshot with ⟨ok, w₁⟩
  have h₁ : w₁.latestCounters = rt.world.latestCounters := by
    cases happly
    rfl
  simp only [happly] at h
  cases ok with
  | false =>
    rcases hback : w₁.apply rt.engine.state.snapshot with ⟨back, w₂⟩
    have h₂ : w₂.latestCounters = rt.world.latestCounters := by
      cases hback
      exact h₁
    simp only [hback] at h
    cases back with
    | true =>
      cases h
      exact hcleared (by decide) rfl rfl
    | false => exact emergency_clears hfatal h₂ h
  | true =>
    have hsame := w₁.saveExclusive_counters candidate
    rcases hsave : w₁.saveExclusive candidate with ⟨saved, w₂⟩
    rw [hsave] at hsame
    simp only [hsave] at h
    cases saved with
    | true =>
      simp only [World.publishAll_eq] at h
      cases h
      exact hcleared nofun rfl rfl
    | false =>
      rcases hback : rollBack w₂ rt.engine.state with ⟨⟨backend, storage⟩, w₃⟩
      have h₃ : w₃.latestCounters = rt.world.latestCounters :=
        (rollBack_latestCounters hback).trans (hsame.1.trans h₁)
      simp only [hback] at h
      cases backend <;> cases storage
      -- only a complete rollback avoids the emergency, and it leaves the counters where they are
      case true.true =>
        cases h
        exact ⟨fun _ => h₃, fun hnot => absurd (.inl rfl) hnot⟩
      all_goals exact emergency_clears hfatal h₃ h

theorem saveTwice_counters (w : World) (state : State) :
    w.SameCounters (saveTwice w state).2 := by
  have h₁ := w.saveExclusive_counters state
  unfold saveTwice
  rcases hfirst : w.saveExclusive state with ⟨ok, w₁⟩
  rw [hfirst] at h₁
  cases ok with
  | true => exact h₁
  | false => exact h₁.trans (w₁.saveExclusive_counters state)

/-- A `blockAll` that overtakes learning clears the counters unless it fails after it was begun. -/
theorem commitBlockAllDuringLearning_settles {token : BitVec 64} {now : Timestamp}
    {result : Except ProtocolError (BitVec 64)} {rt' : Runtime}
    (hpoisoned : rt.engine.poisoned = false) (hfatal : rt.engine.fatal = false)
    (h : commitBlockAllDuringLearning json rt token now = (result, rt')) :
    rt.world.Settles (result = .error rolledBack ∨ rt'.engine.fatal = true ∨
      rt'.engine.poisoned = true) rt'.world := by
  have hsame {p : Prop} : rt.world.Settles p rt.world := World.SameCounters.settles ⟨rfl, rfl⟩
  unfold commitBlockAllDuringLearning at h
  cases hpending : rt.engine.pendingApplicationLearningCandidate with
  | none =>
    simp only [hpending] at h
    cases h
    exact hsame
  | some pending =>
    simp only [hpending] at h
    cases hblocked : blockedCandidate json pending now with
    | error error =>
      simp only [hblocked] at h
      cases h
      exact hsame
    | ok blocked =>
      rcases hclosed : rt.world.failClosed with ⟨ok, w₁⟩
      have h₁ : w₁.latestCounters = rt.world.latestCounters := by
        cases hclosed
        rfl
      simp only [hblocked, hclosed] at h
      cases ok with
      | false =>
        cases h
        exact ⟨fun _ => h₁, fun hnot => absurd (.inr (.inl rfl)) hnot⟩
      | true =>
        have h₂ := (saveTwice_counters w₁ blocked.1).1.trans h₁
        rcases hsaved : saveTwice w₁ blocked.1 with ⟨persisted, w₂⟩
        rw [hsaved] at h₂
        simp only [hsaved] at h
        cases persisted with
        | true =>
          simp only [World.publishAll_eq] at h
          cases h
          refine ⟨fun hor => ?_, fun _ => .inl rfl⟩
          rcases hor with herror | hlost | hlost
          · cases herror
          · exact absurd (hfatal.symm.trans hlost) Bool.false_ne_true
          · exact absurd (hpoisoned.symm.trans hlost) Bool.false_ne_true
        | false =>
          cases h
          exact ⟨fun _ => h₂, fun hnot => absurd (.inr (.inr rfl)) hnot⟩

/-! ### One step -/

theorem Sound.fatal_eq_false (h : rt.Sound json) (hpoisoned : rt.engine.poisoned = false) :
    rt.engine.fatal = false := by
  rcases h.phase.cases_healthy hpoisoned with ⟨hbetween, -⟩ | ⟨_, hflight, -⟩
  · exact hbetween.alive
  · exact hflight.alive

theorem map_eq_error_iff {α β : Type} {f : α → β} {x : Except ProtocolError α}
    {e : ProtocolError} : x.map f = .error e ↔ x = .error e := by
  cases x <;> simp [Except.map]

theorem handleControl_settles {input : ControlInput} {request : ControlRequest}
    (h : rt.Sound json) :
    rt.world.Settles (rt.Uncleared json (.control input request))
      (handleControl json rt input request).2.world := by
  rcases hcontrol : handleControl json rt input request with ⟨result, rt'⟩
  simp only [Uncleared, hcontrol]
  rcases handleControl_cases hcontrol with ⟨rfl, -⟩ | ⟨hpoisoned, hrest, hcommit⟩ |
    ⟨hpoisoned, token, committed, -, htoken, hblock, rfl⟩
  · exact World.SameCounters.settles ⟨rfl, rfl⟩
  · obtain ⟨candidate, events, affected, committed, -, hcommit, rfl⟩ := hcommit
    refine (commit_clears (h.fatal_eq_false hpoisoned) hcommit).settles ?_ ?_
    · rintro (herror | hlost)
      · exact .inl (map_eq_error_iff.mpr herror)
      · exact .inr (.inl hlost)
    · rintro (herror | hlost | ⟨⟨token, htoken⟩, -⟩)
      · exact .inl (map_eq_error_iff.mp herror)
      · exact .inr hlost
      · exact absurd htoken (hrest token)
  · have hsettles := commitBlockAllDuringLearning_settles hpoisoned
      (h.fatal_eq_false hpoisoned) hblock
    simpa only [map_eq_error_iff, htoken, LearningPersistence.inFlight.injEq, exists_eq',
      true_and] using hsettles

theorem emergency_settles {w : World} {revisionFloor : BitVec 64} (hfatal : rt.engine.fatal = false)
    (hw : w.latestCounters = rt.world.latestCounters) :
    rt.world.Settles ((enterEmergencyFailClosed json ⟨rt.engine, w⟩
        revisionFloor).engine.fatal = true)
      (enterEmergencyFailClosed json ⟨rt.engine, w⟩ revisionFloor).world :=
  have hclears := @enterEmergencyFailClosed_clears json ⟨rt.engine, w⟩ revisionFloor hfatal
  ⟨fun hlost => (hclears.kept hlost).trans hw, fun hnot => .inl (hclears.cleared hnot)⟩

theorem prepare_counters {expectedFlowGeneration : BitVec 32}
    {endpoints : List LearnedApplicationEndpoint} {supply : Supply} :
    rt.world.SameCounters (handOver
      (prepareApplicationLearning json rt expectedFlowGeneration endpoints supply)).world := by
  rcases hprepare : prepareApplicationLearning json rt expectedFlowGeneration endpoints supply
      with ⟨result, rt'⟩
  rcases prepareApplicationLearning_cases hprepare with ⟨rfl, hnot⟩ | ⟨rfl, -, rfl, -⟩ |
    ⟨transaction, rfl, hprepared⟩
  · rw [handOver_of_none hnot]
    exact ⟨rfl, rfl⟩
  · exact ⟨rfl, rfl⟩
  · simp only [handOver, hprepared.world]
    exact ⟨rfl, rfl⟩

theorem finalize_settles {transaction : ApplicationLearningTransaction}
    {outcome : LearningStoreOutcome} :
    rt.world.Settles
      ((finalizeApplicationLearning json rt transaction outcome).2.engine.fatal = true)
      (finalizeApplicationLearning json rt transaction outcome).2.world := by
  have hsame {p : Prop} : rt.world.Settles p rt.world := World.SameCounters.settles ⟨rfl, rfl⟩
  unfold finalizeApplicationLearning
  split_ifs with hsuperseded hlost hstale
  · exact hsame
  · exact hsame
  · exact emergency_settles (by simpa using fun h => hlost (.inl h)) rfl
  · have hfatal : rt.engine.fatal = false := by simpa using fun h => hlost (.inl h)
    cases outcome with
    | saved =>
      simp only [World.publishAll_eq]
      exact ⟨fun hgone => absurd (hfatal.symm.trans hgone) Bool.false_ne_true, fun _ => .inl rfl⟩
    | previousRetained => exact hsame
    | unsafeOutcome => exact emergency_settles hfatal rfl

theorem step_settles (h : rt.Sound json) (action : Action) :
    rt.world.Settles (rt.Uncleared json action) (rt.step json action).world := by
  have hsame {p : Prop} : rt.world.Settles p rt.world := World.SameCounters.settles ⟨rfl, rfl⟩
  cases action with
  | activate =>
    refine ⟨fun _ => ?_, fun hnot => absurd trivial hnot⟩
    change (activateStartupPolicy rt).2.world.latestCounters = _
    unfold activateStartupPolicy
    split
    · rfl
    · split <;> rename_i happly
      all_goals
        have hw := congrArg (fun applied => applied.2.latestCounters) happly
        exact hw.symm
  | control input request => exact handleControl_settles h
  | prepare expectedFlowGeneration endpoints supply =>
    simp only [step]
    split
    · exact prepare_counters.settles
    · exact hsame
  | persist => exact (rt.world.persist_counters).settles
  | finalize =>
    simp only [Uncleared, step]
    split
    · next transaction outcome _ =>
      have hfinal := @finalize_settles json rt transaction outcome
      exact ⟨hfinal.kept, hfinal.cleared⟩
    · exact hsame
  | repair expectedRevision =>
    change rt.world.Settles ((repairPolicy json rt expectedRevision).2.engine.fatal = true)
      (repairPolicy json rt expectedRevision).2.world
    unfold repairPolicy
    split_ifs with hpoisoned hfatal hrestart hrevision
    any_goals exact hsame
    rw [Bool.not_eq_true] at hfatal
    split <;> rename_i happly
    · exact ⟨fun hlost => absurd (hfatal.symm.trans hlost) Bool.false_ne_true, fun _ => .inl rfl⟩
    · have hw := congrArg (fun applied => applied.2.latestCounters) happly
      exact emergency_settles hfatal hw.symm
  | quarantine =>
    simp only [Uncleared, step, quarantineAfterRuntimeFailure]
    cases hstartup : rt.engine.startupPolicy with
    | pending =>
      refine ⟨fun _ => ?_, fun hnot => absurd (.inl rfl) hnot⟩
      rcases hclosed : rt.world.failClosed with ⟨ok, w⟩
      have hw : w.latestCounters = rt.world.latestCounters := by
        cases hclosed
        rfl
      cases ok <;> exact hw
    | active =>
      simp only [reduceCtorEq, false_or]
      split_ifs with hlost
      · exact hsame
      · exact emergency_settles (by simpa using fun h => hlost (.inr h)) rfl

end Runtime

/-! ### Runs -/

namespace Monitored

variable {json : Serializer} {m : Monitored}

theorem step_sound (h : m.runtime.Sound json) (action : MonitorAction) :
    (m.step json action).runtime.Sound json := by
  cases action with
  | engine action => exact (Runtime.step_advances h action).1
  | observe expectedRevision counters => exact h
  | publish now =>
    simp only [step]
    split
    · exact h
    · split
      · exact h
      · exact ⟨h.consistent, h.phase.moved _ ⟨rfl, rfl, rfl, rfl⟩⟩

theorem step_current_iff (h : m.runtime.Sound json) (hcurrent : m.Current)
    (action : MonitorAction) : (m.step json action).Current ↔ ¬m.Lapse json action := by
  cases action with
  | engine action =>
    have hsettles := Runtime.step_settles h action
    simp only [Current, Lapse, step] at hcurrent ⊢
    by_cases huncleared : m.runtime.Uncleared json action
    · rw [hsettles.kept huncleared]
      constructor
      · rintro hnew ⟨hsome, hreset, -⟩
        exact hreset ((hnew hsome).symm.trans (hcurrent hsome))
      · intro hlapse hsome
        by_contra hreset
        exact hlapse ⟨hsome, fun heq => hreset ((hcurrent hsome).trans heq.symm), huncleared⟩
    · refine iff_of_true (fun hsome => ?_) fun hlapse => huncleared hlapse.2.2
      rcases hsettles.cleared huncleared with hnone | hsame
      · exact absurd hnone hsome
      · rw [hsame.1] at hsome
        exact (hcurrent hsome).trans hsame.2.symm
  | observe expectedRevision counters => exact iff_of_true hcurrent id
  | publish now =>
    simp only [step, Lapse]
    cases hreading : m.reading with
    | none => exact iff_of_true hcurrent (by simp)
    | some reading =>
      simp only
      cases hevent : m.runtime.engine.currentCounters reading.expectedRevision reading.counters
          now with
      | none =>
        refine iff_of_true hcurrent ?_
        rintro ⟨_, event, ⟨⟩, hsome, -⟩
        cases hevent.symm.trans hsome
      | some event =>
        constructor
        · rintro hnew ⟨_, _, ⟨⟩, -, hreset⟩
          exact hreset (hnew nofun)
        · intro hlapse _
          by_contra hreset
          exact hlapse ⟨reading, event, rfl, hevent, hreset⟩

end Monitored

namespace Sample

def unwritableWorld : World :=
  { world with faults := fun n => if n = 5 then { Fault.none with save := .failedOld } else .none }

def unwritable : Runtime :=
  ⟨Runtime.loadedEngine firstState .default,
    (Runtime.loadWithLearningLimits json unwritableWorld .default 0 supply).2⟩

theorem unwritable_loads : Runtime.loadWithLearningLimits json unwritableWorld .default 0 supply =
    (.ok unwritable.engine, unwritable.world) := rfl

theorem unwritable_reachable : unwritable.Reachable json :=
  .run ⟨rfl, rfl, rfl, fun _ h => by cases h⟩ unwritable_loads []

/-- Counters are published; then the mode is changed. -/
def monitoring : List MonitorAction :=
  [.engine .activate, .observe 1 ⟨⟨0, 0⟩, ⟨0, 0⟩, ⟨0, 0⟩, ⟨0, 0⟩, ⟨0, 0⟩⟩, .publish 0,
    .engine (.control ⟨supply, fun _ _ => .error ""⟩ (.setMode 1 .enforcing))]

end Sample

end OpenShield
