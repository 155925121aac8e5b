import OpenShield.Daemon.Learning

/-!
# Runs of the engine

The calls of the engine are serialized by its lock. A run interleaves requests, the two phases of
learning, repairs and quarantines in any order; the worker's own write, which takes no lock,
happens at any time between its two phases. The script of faults decides what fails.

A run that did not fail closed is in one of four phases, and each of them fixes what is on disk.
-/

namespace OpenShield

/-- A call of the engine or a step of the worker. -/
inductive Action
  | activate
  | control (input : ControlInput) (request : ControlRequest)
  | prepare (expectedFlowGeneration : BitVec 32) (endpoints : List LearnedApplicationEndpoint)
      (supply : Supply)
  | persist
  | finalize
  | repair (expectedRevision : BitVec 64)
  | quarantine

namespace Runtime

def handOver : Except ProtocolError (Option ApplicationLearningTransaction) × Runtime → Runtime
  | (.ok (some transaction), rt) =>
    { rt with world := { rt.world with worker := .prepared transaction } }
  | (_, rt) => rt

def release (rt : Runtime) : Runtime := { rt with world := { rt.world with worker := .idle } }

/-- One step of a run. The worker prepares only when it has nothing to do, and finalizes only what
it wrote. -/
def step (json : Serializer) (rt : Runtime) : Action → Runtime
  | .activate => (activateStartupPolicy rt).2
  | .control input request => (handleControl json rt input request).2
  | .prepare expectedFlowGeneration endpoints supply =>
    match rt.world.worker with
    | .idle => handOver (prepareApplicationLearning json rt expectedFlowGeneration endpoints supply)
    | _ => rt
  | .persist => { rt with world := rt.world.persist }
  | .finalize =>
    match rt.world.worker with
    | .persisted transaction outcome =>
      (finalizeApplicationLearning json rt transaction outcome).2.release
    | _ => rt
  | .repair expectedRevision => (repairPolicy json rt expectedRevision).2
  | .quarantine => quarantineAfterRuntimeFailure json rt

def run (json : Serializer) (rt : Runtime) (actions : List Action) : Runtime :=
  actions.foldl (step json) rt

/-! ### The invariant -/

/-- No transaction is in flight; memory and file agree. -/
structure Between (rt : Runtime) : Prop where
  healthy : rt.engine.poisoned = false
  alive : rt.engine.fatal = false
  persistence : ∀ token, rt.engine.learningPersistence ≠ .inFlight token
  candidate : rt.engine.pendingApplicationLearningCandidate = none
  reservation : rt.world.learningReservation = none
  disk : rt.world.disk = some rt.engine.state

/-- A transaction is in flight; the engine remembers all of it. -/
structure InFlight (json : Serializer) (rt : Runtime)
    (transaction : ApplicationLearningTransaction) : Prop where
  healthy : rt.engine.poisoned = false
  alive : rt.engine.fatal = false
  persistence : rt.engine.learningPersistence = .inFlight transaction.token
  candidate : rt.engine.pendingApplicationLearningCandidate = some transaction.candidate
  events : rt.engine.pendingApplicationLearningEvents = transaction.events
  previous : rt.engine.state = transaction.previous
  changes : transaction.previous.Changes transaction.events transaction.candidate
  valid : transaction.candidate.validate json = .ok ()
  learned : validateApplicationLearningTransition transaction.previous transaction.candidate
    transaction.events = true
  superseded : rt.engine.supersededLearningTransaction = none

inductive Phase (json : Serializer) (rt : Runtime) : Prop
  | settled (between : rt.Between) (worker : rt.world.worker = .idle)
      (superseded : rt.engine.supersededLearningTransaction = none)
  | prepared {transaction : ApplicationLearningTransaction}
      (inFlight : rt.InFlight json transaction) (worker : rt.world.worker = .prepared transaction)
      (reservation : rt.world.learningReservation = some transaction.token)
      (disk : rt.world.disk = some rt.engine.state)
  | persisted {transaction : ApplicationLearningTransaction} {outcome : LearningStoreOutcome}
      (inFlight : rt.InFlight json transaction)
      (worker : rt.world.worker = .persisted transaction outcome)
      (reservation : rt.world.learningReservation = none)
      (wrote : World.Wrote transaction outcome rt.world)
  /-- The transaction was overtaken by `blockAll`; the worker does not know yet. -/
  | superseded {transaction : ApplicationLearningTransaction} {outcome : LearningStoreOutcome}
      (between : rt.Between) (worker : rt.world.worker = .persisted transaction outcome)
      (superseded : rt.engine.supersededLearningTransaction = some transaction.token)
  | poisoned (poisoned : rt.engine.poisoned = true)
      (superseded : ∀ token, rt.engine.supersededLearningTransaction = some token →
        ∃ transaction outcome, rt.world.worker = .persisted transaction outcome ∧
          transaction.token = token)

structure Sound (json : Serializer) (rt : Runtime) : Prop where
  consistent : rt.engine.Consistent
  phase : rt.Phase json

def Installs (rt : Runtime) (k : Snapshot) : Prop :=
  k = rt.world.kernel ∨ k = blockAllSnapshot ∨
    ∃ s, s.WellFormed ∧ rt.engine.state.Follows s ∧ k = s.snapshot

/-- What a step does to the policy: a change is published in the same step, and while a
transaction is in flight its rules come first. -/
inductive Move (json : Serializer) (rt rt' : Runtime) : Prop
  | stay (published : rt'.world.published = rt.world.published)
      (state : rt'.engine.poisoned = true ∨ rt'.engine.state = rt.engine.state)
  | change {events : List Event} (healthy : rt'.engine.poisoned = false)
      (published : rt'.world.published = rt.world.published ++ events)
      (changes : rt.engine.state.Changes events rt'.engine.state)
      (learned : ∀ transaction, rt.InFlight json transaction →
        rt'.engine.state.rules = transaction.candidate.rules ∧
        ∃ rest, events = transaction.events ++ rest)

structure Progress (json : Serializer) (rt rt' : Runtime) : Prop where
  poisoned : rt.engine.poisoned = true → rt'.engine.poisoned = true
  move : rt.Move json rt'
  revision : rt.engine.state.revision ≤ rt'.engine.state.revision
  ran : rt.world.Ran rt.Installs rt'.world
  kernel : rt'.engine.poisoned = false →
    rt'.world.kernel = rt'.engine.state.snapshot ∨
    (rt'.world.kernel = blockAllSnapshot ∧
      (rt'.engine.startupPolicy = .active → rt'.engine.state.mode = .blockAll)) ∨
    ((rt'.engine.startupPolicy = .active → rt.engine.startupPolicy = .active) ∧
      rt'.world.kernel = rt.world.kernel ∧
      (rt'.engine.state = rt.engine.state ∨ ∃ events,
        rt.engine.state.Changes events rt'.engine.state ∧
        validateApplicationLearningTransition rt.engine.state rt'.engine.state events = true))

variable {json : Serializer} {rt rt' : Runtime}

theorem Progress.quiet (hstate : rt'.engine.state = rt.engine.state)
    (hpoisoned : rt.engine.poisoned = true → rt'.engine.poisoned = true)
    (hstartup : rt'.engine.startupPolicy = rt.engine.startupPolicy)
    (hworld : rt.world.FileStep rt'.world) : rt.Progress json rt' where
  poisoned := hpoisoned
  move := .stay hworld.published (.inr hstate)
  revision := hstate ▸ BitVec.le_refl _
  ran := hworld.ran _
  kernel _ := .inr (.inr ⟨fun hactive => hstartup ▸ hactive, hworld.kernel, .inl hstate⟩)

theorem Progress.refl (rt : Runtime) : rt.Progress json rt :=
  .quiet rfl id rfl (World.FileStep.refl _)

theorem Progress.fail (hpoisoned : rt'.engine.poisoned = true)
    (hrevision : rt.engine.state.revision ≤ rt'.engine.state.revision)
    (hpublished : rt'.world.published = rt.world.published)
    (hran : rt.world.Ran rt.Installs rt'.world) : rt.Progress json rt' where
  poisoned _ := hpoisoned
  move := .stay hpublished (.inl hpoisoned)
  revision := hrevision
  ran := hran
  kernel h := by simp [hpoisoned] at h

theorem Progress.healthy (h : rt.Progress json rt') (hhealthy : rt'.engine.poisoned = false) :
    rt.engine.poisoned = false := by
  rw [← Bool.not_eq_true]
  intro htrue
  rw [h.poisoned htrue] at hhealthy
  cases hhealthy

theorem Phase.coherent (h : rt.Phase json) (hhealthy : rt.engine.poisoned = false) :
    rt.world.Coherent := by
  intro token htoken
  cases h with
  | settled between worker superseded => simp [between.reservation] at htoken
  | @prepared transaction inFlight worker reservation disk =>
    rw [reservation, Option.some.injEq] at htoken
    exact ⟨transaction, worker, htoken⟩
  | persisted inFlight worker reservation wrote => simp [reservation] at htoken
  | superseded between worker superseded => simp [between.reservation] at htoken
  | poisoned poisoned superseded => simp [poisoned] at hhealthy

theorem Phase.poison (h : rt.Phase json) (hpoisoned : rt'.engine.poisoned = true)
    (hsuperseded : rt'.engine.supersededLearningTransaction =
      rt.engine.supersededLearningTransaction)
    (hworker : rt.world.WorkerStep rt'.world) : rt'.Phase json := by
  refine .poisoned hpoisoned fun token htoken => ?_
  rw [hsuperseded] at htoken
  cases h with
  | settled between worker superseded => simp [superseded] at htoken
  | prepared inFlight worker reservation disk => simp [inFlight.superseded] at htoken
  | persisted inFlight worker reservation wrote => simp [inFlight.superseded] at htoken
  | superseded between worker superseded =>
    rw [superseded, Option.some.injEq] at htoken
    exact ⟨_, _, hworker.persisted worker, htoken⟩
  | poisoned poisoned superseded =>
    obtain ⟨transaction, outcome, hpersisted, rfl⟩ := superseded token htoken
    exact ⟨transaction, outcome, hworker.persisted hpersisted, rfl⟩

def Advances (json : Serializer) (rt rt' : Runtime) : Prop := rt'.Sound json ∧ rt.Progress json rt'

theorem enters_emergency (json : Serializer) (rt : Runtime) (revisionFloor : BitVec 64) :
    rt.Emergency revisionFloor rt.Installs (enterEmergencyFailClosed json rt revisionFloor) :=
  enterEmergencyFailClosed_spec rfl (.inl rfl) (.inr (.inl rfl))

theorem Advances.of_emergency {revisionFloor : BitVec 64} {allowed : Snapshot → Prop}
    (h : rt.Sound json) (hhealthy : rt.engine.poisoned = false)
    (hemergency : rt.Emergency revisionFloor allowed rt')
    (hfloor : rt.engine.state.revision ≤ revisionFloor)
    (hallowed : ∀ k, allowed k → rt.Installs k) : rt.Advances json rt' :=
  ⟨⟨hemergency.consistent h.consistent, h.phase.poison hemergency.poisoned hemergency.superseded
      (hemergency.worker (h.phase.coherent hhealthy))⟩,
    .fail hemergency.poisoned (hemergency.revision hfloor) hemergency.published
      (hemergency.ran.mono hallowed)⟩

def AtRest (rt : Runtime) : Prop :=
  (rt.world.worker = .idle ∧ rt.engine.supersededLearningTransaction = none) ∨
    ∃ transaction outcome, rt.world.worker = .persisted transaction outcome ∧
      rt.engine.supersededLearningTransaction = some transaction.token

theorem AtRest.of_eq (h : rt.AtRest) (hworker : rt'.world.worker = rt.world.worker)
    (hsuperseded : rt'.engine.supersededLearningTransaction =
      rt.engine.supersededLearningTransaction) : rt'.AtRest := by
  unfold AtRest
  rw [hworker, hsuperseded]
  exact h

theorem Between.phase (h : rt.Between) (hrest : rt.AtRest) : rt.Phase json := by
  rcases hrest with ⟨hworker, hsuperseded⟩ | ⟨transaction, outcome, hworker, hsuperseded⟩
  · exact .settled h hworker hsuperseded
  · exact .superseded h hworker hsuperseded

theorem Phase.cases_healthy (h : rt.Phase json) (hhealthy : rt.engine.poisoned = false) :
    (rt.Between ∧ rt.AtRest) ∨ ∃ transaction, rt.InFlight json transaction ∧
      (rt.world.worker = .prepared transaction ∧
          rt.world.learningReservation = some transaction.token ∧
          rt.world.disk = some rt.engine.state ∨
        ∃ outcome, rt.world.worker = .persisted transaction outcome ∧
          rt.world.learningReservation = none ∧ World.Wrote transaction outcome rt.world) := by
  cases h with
  | settled between worker superseded => exact .inl ⟨between, .inl ⟨worker, superseded⟩⟩
  | prepared inFlight worker reservation disk =>
    exact .inr ⟨_, inFlight, .inl ⟨worker, reservation, disk⟩⟩
  | persisted inFlight worker reservation wrote =>
    exact .inr ⟨_, inFlight, .inr ⟨_, worker, reservation, wrote⟩⟩
  | superseded between worker superseded =>
    exact .inl ⟨between, .inr ⟨_, _, worker, superseded⟩⟩
  | poisoned poisoned superseded => simp [poisoned] at hhealthy

variable {transaction : ApplicationLearningTransaction} {t : State}

theorem InFlight.moved (h : rt.InFlight json transaction) (startupPolicy : StartupPolicy)
    (w : World) : InFlight json ⟨{ rt.engine with startupPolicy }, w⟩ transaction :=
  ⟨h.healthy, h.alive, h.persistence, h.candidate, h.events, h.previous, h.changes, h.valid,
    h.learned, h.superseded⟩

theorem Between.moved {w : World} (h : rt.Between) (startupPolicy : StartupPolicy)
    (hstep : rt.world.KernelStep w) : Between ⟨{ rt.engine with startupPolicy }, w⟩ :=
  ⟨h.healthy, h.alive, h.persistence, h.candidate, hstep.learningReservation.trans h.reservation,
    hstep.disk.trans h.disk⟩

theorem Phase.moved {w : World} (h : rt.Phase json) (startupPolicy : StartupPolicy)
    (hstep : rt.world.KernelStep w) : Phase json ⟨{ rt.engine with startupPolicy }, w⟩ := by
  cases h with
  | settled between worker superseded =>
    exact .settled (between.moved _ hstep) (hstep.worker.trans worker) superseded
  | prepared inFlight worker reservation disk =>
    exact .prepared (inFlight.moved _ w) (hstep.worker.trans worker)
      (hstep.learningReservation.trans reservation) (hstep.disk.trans disk)
  | persisted inFlight worker reservation wrote =>
    exact .persisted (inFlight.moved _ w) (hstep.worker.trans worker)
      (hstep.learningReservation.trans reservation)
      ⟨fun h => hstep.disk.trans (wrote.saved h), fun h => hstep.disk.trans (wrote.retained h)⟩
  | superseded between worker superseded =>
    exact .superseded (between.moved _ hstep) (hstep.worker.trans worker) superseded
  | poisoned poisoned superseded =>
    refine .poisoned poisoned fun token htoken => ?_
    obtain ⟨transaction, outcome, worker, htoken⟩ := superseded token htoken
    exact ⟨transaction, outcome, hstep.worker.trans worker, htoken⟩

theorem installs_state (h : rt.Sound json) : rt.Installs rt.engine.state.snapshot :=
  .inr (.inr ⟨_, h.consistent.wellFormed, State.Follows.refl _, rfl⟩)

/-! ### Requests -/

theorem commit_advances {candidate : State} {events : List Event}
    {result : Except ProtocolError Unit} (h : rt.Sound json) (hbetween : rt.Between)
    (hrest : rt.AtRest) (hchanges : rt.engine.state.Changes events candidate)
    (hvalid : candidate.validate json = .ok ())
    (hcommit : commit json rt candidate events = (result, rt')) : rt.Advances json rt' := by
  have hwellFormed := State.wellFormed_of_validate hvalid
  have hallowed (k : Snapshot) (hk : rt.MayRun candidate k) : rt.Installs k := by
    rcases hk with hk | hk | rfl | rfl
    · exact .inl hk
    · exact .inr (.inl hk)
    · exact installs_state h
    · exact .inr (.inr ⟨candidate, hwellFormed, hchanges.follows, rfl⟩)
  cases commit_spec hbetween.reservation hcommit with
  | committed engine kernel disk published ran worker reservation =>
    have hbetween' : rt'.Between :=
      { healthy := engine ▸ hbetween.healthy
        alive := engine ▸ hbetween.alive
        persistence := by rw [engine]; exact nofun
        candidate := by rw [engine]; rfl
        reservation
        disk := by rw [disk, engine]; rfl }
    have hrest' : rt'.AtRest := hrest.of_eq worker (by rw [engine]; rfl)
    have hchanges' : rt.engine.state.Changes events rt'.engine.state := by
      rw [engine]
      exact hchanges
    refine ⟨⟨?_, hbetween'.phase hrest'⟩, ⟨fun hp => ?_, .change hbetween'.healthy published
      hchanges' fun transaction hflight => ?_, hchanges'.revision_le, ran.mono hallowed,
      fun _ => .inl ?_⟩⟩
    · rw [engine]
      exact ⟨hwellFormed, rfl, rfl, rfl⟩
    · cases hbetween.healthy.symm.trans hp
    · exact absurd hflight.persistence (hbetween.persistence _)
    · rw [kernel, engine]
      rfl
  | restored engine kernel disk published ran worker reservation =>
    have hbetween' : rt'.Between :=
      { healthy := engine ▸ hbetween.healthy
        alive := engine ▸ hbetween.alive
        persistence := engine ▸ hbetween.persistence
        candidate := engine ▸ hbetween.candidate
        reservation
        disk := by rw [disk hbetween.disk, engine] }
    refine ⟨⟨engine ▸ h.consistent, hbetween'.phase (hrest.of_eq worker (by rw [engine]))⟩,
      ⟨fun hp => engine ▸ hp, .stay published (.inr (congrArg Engine.state engine)),
        engine ▸ BitVec.le_refl _, ran.mono hallowed, fun _ => .inl ?_⟩⟩
    rw [kernel, engine]
  | emergency entered =>
    exact .of_emergency h hbetween.healthy entered (le_maxRevision_left _ _) hallowed

/-- An acknowledged `blockAll` reports the prepared rules before the mode. -/
theorem Overtaken.changes_previous {token : BitVec 64} {pending : State} {revision : BitVec 64}
    (hflight : rt.InFlight json transaction) (h : rt.Overtaken json token pending revision rt') :
    ∃ event, rt'.world.published = rt.world.published ++ (transaction.events ++ [event]) ∧
      rt.engine.state.Changes (transaction.events ++ [event]) rt'.engine.state := by
  obtain ⟨event, hchanges, hpublished⟩ := h.changes
  have hpending : pending = transaction.candidate :=
    Option.some.inj (h.candidate.symm.trans hflight.candidate)
  rw [hflight.events, List.append_assoc] at hpublished
  rw [hpending] at hchanges
  rw [hflight.previous]
  exact ⟨event, hpublished, hflight.changes.trans hchanges⟩

theorem commitBlockAllDuringLearning_advances {now : Timestamp}
    {result : Except ProtocolError (BitVec 64)} (h : rt.Sound json)
    (hflight : rt.InFlight json transaction)
    (hworker : rt.world.worker = .prepared transaction ∧
      rt.world.learningReservation = some transaction.token ∨
      ∃ outcome, rt.world.worker = .persisted transaction outcome)
    (hblock : commitBlockAllDuringLearning json rt transaction.token now = (result, rt')) :
    rt.Advances json rt' := by
  have hcoherent := h.phase.coherent hflight.healthy
  rcases commitBlockAllDuringLearning_cases hcoherent hblock with ⟨rfl, -⟩ | ⟨hstep, hran, hcases⟩
  · exact ⟨h, .refl _⟩
  have hran : rt.world.Ran rt.Installs rt'.world := hran.mono fun k hk => by
    rcases hk with hk | hk
    · exact .inl hk
    · exact .inr (.inl hk)
  -- once nothing is reserved, the worker has written
  have hwritten (hnone : rt'.world.learningReservation = none) :
      ∃ outcome, rt'.world.worker = .persisted transaction outcome := by
    rcases hworker with ⟨hprepared, hreserved⟩ | ⟨outcome, hpersisted⟩
    · exact hstep.written hprepared hreserved hnone
    · exact ⟨outcome, hstep.persisted hpersisted⟩
  rcases hcases with ⟨hnone, pending, revision, -, hovertaken⟩ | ⟨-, hfailed⟩
  · obtain ⟨outcome, hpersisted⟩ := hwritten hnone
    obtain ⟨event, hpublished, hchanges⟩ := hovertaken.changes_previous hflight
    have hengine := hovertaken.engine
    have hhealthy : rt'.engine.poisoned = false := by
      rw [hengine]
      exact hflight.healthy
    have hbetween : rt'.Between :=
      { healthy := hhealthy
        alive := by rw [hengine]; exact hflight.alive
        persistence := by rw [hengine]; exact nofun
        candidate := by rw [hengine]; rfl
        reservation := hnone
        disk := hovertaken.disk }
    refine ⟨⟨⟨State.wellFormed_of_validate hovertaken.valid, ?_, ?_, ?_⟩,
        .superseded hbetween hpersisted ?_⟩,
      ⟨fun hp => ?_, .change hhealthy hpublished hchanges fun other hother => ?_,
        hchanges.revision_le, hran,
        fun _ => .inr (.inl ⟨hovertaken.kernel, fun _ => hovertaken.mode⟩)⟩⟩
    iterate 3
      · rw [hengine]
        rfl
    · rw [hengine]
    · cases hflight.healthy.symm.trans hp
    · have hpending := Option.some.inj (hovertaken.candidate.symm.trans hother.candidate)
      exact ⟨hpending ▸ hovertaken.rules, [event],
        congrArg (· ++ [event]) (hflight.events.symm.trans hother.events)⟩
  · refine ⟨⟨hfailed.consistent h.consistent, .poisoned hfailed.poisoned fun token htoken => ?_⟩,
      .fail hfailed.poisoned (hfailed.revision fun pending hpending => ?_) hfailed.published hran⟩
    · rcases hfailed.superseded with hsame | ⟨htaken, hnone⟩
      · rw [hsame, hflight.superseded] at htoken
        cases htoken
      · rw [htaken, Option.some.injEq] at htoken
        obtain ⟨outcome, hpersisted⟩ := hwritten hnone
        exact ⟨transaction, outcome, hpersisted, htoken⟩
    · have hcandidate := Option.some.inj (hflight.candidate.symm.trans hpending)
      rw [hflight.previous, ← hcandidate]
      exact hflight.changes.revision_le

theorem handleControl_advances {input : ControlInput} {request : ControlRequest}
    {result : Except ProtocolError Ack} (h : rt.Sound json)
    (hrun : handleControl json rt input request = (result, rt')) : rt.Advances json rt' := by
  rcases handleControl_cases hrun with ⟨rfl, -⟩ |
    ⟨hhealthy, hnot, candidate, events, affected, committed, hcandidate, hcommit, -⟩ |
    ⟨hhealthy, token, committed, -, hpersistence, hblock, -⟩
  · exact ⟨h, .refl _⟩
  · obtain ⟨hchanges, hvalid⟩ := controlCandidate_spec hcandidate
    rcases h.phase.cases_healthy hhealthy with ⟨hbetween, hrest⟩ | ⟨transaction, hflight, -⟩
    · exact commit_advances h hbetween hrest hchanges hvalid hcommit
    · exact absurd hflight.persistence (hnot _)
  · rcases h.phase.cases_healthy hhealthy with ⟨hbetween, -⟩ | ⟨transaction, hflight, hworker⟩
    · exact absurd hpersistence (hbetween.persistence token)
    · have htoken : token = transaction.token := by
        have heq := hpersistence.symm.trans hflight.persistence
        cases heq
        rfl
      rw [htoken] at hblock
      refine commitBlockAllDuringLearning_advances h hflight ?_ hblock
      rcases hworker with ⟨hprepared, hreserved, -⟩ | ⟨outcome, hpersisted, -⟩
      · exact .inl ⟨hprepared, hreserved⟩
      · exact .inr ⟨outcome, hpersisted⟩

/-! ### Learning -/

theorem handOver_of_none
    {result : Except ProtocolError (Option ApplicationLearningTransaction)}
    (h : ∀ transaction, result ≠ .ok (some transaction)) : handOver (result, rt) = rt := by
  rcases result with error | _ | transaction
  · rfl
  · rfl
  · exact absurd rfl (h transaction)

theorem prepare_advances {expectedFlowGeneration : BitVec 32}
    {endpoints : List LearnedApplicationEndpoint} {supply : Supply} (h : rt.Sound json)
    (hidle : rt.world.worker = .idle) :
    rt.Advances json (handOver
      (prepareApplicationLearning json rt expectedFlowGeneration endpoints supply)) := by
  rcases hprepare : prepareApplicationLearning json rt expectedFlowGeneration endpoints supply
      with ⟨result, rt'⟩
  -- only a settled engine or a poisoned one has an idle worker
  have hsettled (hhealthy : rt.engine.poisoned = false) :
      rt.Between ∧ rt.engine.supersededLearningTransaction = none := by
    rcases h.phase.cases_healthy hhealthy with ⟨hbetween, hrest⟩ | ⟨transaction, hflight, hworker⟩
    · rcases hrest with ⟨-, hnone⟩ | ⟨transaction, outcome, hpersisted, -⟩
      · exact ⟨hbetween, hnone⟩
      · cases hidle.symm.trans hpersisted
    · rcases hworker with ⟨hprepared, -⟩ | ⟨outcome, hpersisted, -⟩
      · cases hidle.symm.trans hprepared
      · cases hidle.symm.trans hpersisted
  rcases prepareApplicationLearning_cases hprepare with ⟨rfl, hnot⟩ | ⟨rfl, hhealthy, rfl, -⟩ |
    ⟨transaction, rfl, hprepared⟩
  · rw [handOver_of_none hnot]
    exact ⟨h, .refl _⟩
  · obtain ⟨hbetween, hnone⟩ := hsettled hhealthy
    refine ⟨⟨h.consistent.flagged .., .settled ?_ hidle hnone⟩,
      .quiet rfl id rfl (World.FileStep.refl _)⟩
    exact ⟨hhealthy, hbetween.alive, nofun, hbetween.candidate, hbetween.reservation,
      hbetween.disk⟩
  · obtain ⟨hbetween, hnone⟩ := hsettled hprepared.healthy
    have hengine := hprepared.engine
    have hworld := hprepared.world
    obtain ⟨engine, world⟩ := rt'
    simp only at hengine hworld
    subst hengine hworld
    refine ⟨⟨⟨h.consistent.wellFormed, h.consistent.policy, h.consistent.admission, rfl⟩,
      .prepared ⟨hprepared.healthy, hbetween.alive, rfl, rfl, rfl, hprepared.previous.symm, ?_,
        hprepared.valid, ?_, hnone⟩ rfl rfl hbetween.disk⟩, .quiet rfl id rfl ⟨rfl, rfl, rfl⟩⟩
    · rw [hprepared.previous]
      exact hprepared.changes
    · rw [hprepared.previous]
      exact hprepared.learned

theorem persist_advances (h : rt.Sound json) :
    rt.Advances json { rt with world := rt.world.persist } := by
  refine ⟨⟨h.consistent, ?_⟩, .quiet rfl id rfl (World.persist_fileStep _)⟩
  have hstill {w : World} (hnot : ∀ transaction, w.worker ≠ .prepared transaction) :
      w.persist = w := by
    unfold World.persist
    split
    · next hprepared => exact absurd hprepared (hnot _)
    · rfl
  cases h.phase with
  | settled between worker superseded =>
    rw [hstill (by simp [worker])]
    exact .settled between worker superseded
  | prepared inFlight worker reservation disk =>
    obtain ⟨-, hnone, outcome, hpersisted, hwrote⟩ := World.persist_of_reserved worker reservation
    exact .persisted (inFlight.moved rt.engine.startupPolicy _) hpersisted hnone hwrote
  | persisted inFlight worker reservation wrote =>
    rw [hstill (by simp [worker])]
    exact .persisted inFlight worker reservation wrote
  | superseded between worker superseded =>
    rw [hstill (by simp [worker])]
    exact .superseded between worker superseded
  | poisoned poisoned superseded =>
    refine .poisoned poisoned fun token htoken => ?_
    obtain ⟨transaction, outcome, worker, htoken⟩ := superseded token htoken
    exact ⟨transaction, outcome, by rw [hstill (by simp [worker])]; exact worker, htoken⟩

theorem finalize_advances {outcome : LearningStoreOutcome} (h : rt.Sound json)
    (hworker : rt.world.worker = .persisted transaction outcome) :
    rt.Advances json (finalizeApplicationLearning json rt transaction outcome).2.release := by
  rcases hfinalize : finalizeApplicationLearning json rt transaction outcome with ⟨result, rt'⟩
  rcases finalizeApplicationLearning_cases hfinalize with ⟨hsuperseded, -, rfl⟩ |
    ⟨hsuperseded, hpoisoned, rfl, -⟩ | ⟨hsuperseded, hhealthy, hcases⟩
  · -- the transaction was overtaken
    refine ⟨⟨h.consistent.flagged .., ?_⟩, .quiet rfl id rfl ⟨rfl, rfl, rfl⟩⟩
    cases hp : rt.engine.poisoned with
    | true => exact .poisoned hp nofun
    | false =>
      rcases h.phase.cases_healthy hp with ⟨hbetween, -⟩ | ⟨other, hflight, -⟩
      · exact .settled ⟨hp, hbetween.alive, hbetween.persistence, hbetween.candidate,
          hbetween.reservation, hbetween.disk⟩ rfl rfl
      · rw [hflight.superseded] at hsuperseded
        cases hsuperseded
  · -- a poisoned engine refuses
    refine ⟨⟨h.consistent, ?_⟩, .quiet rfl id rfl ⟨rfl, rfl, rfl⟩⟩
    cases h.phase with
    | settled between worker superseded => simp [between.alive, between.healthy] at hpoisoned
    | prepared inFlight worker reservation disk =>
      simp [inFlight.alive, inFlight.healthy] at hpoisoned
    | persisted inFlight worker reservation wrote =>
      simp [inFlight.alive, inFlight.healthy] at hpoisoned
    | superseded between worker superseded => simp [between.alive, between.healthy] at hpoisoned
    | poisoned poisoned superseded =>
      refine .poisoned poisoned fun token htoken => ?_
      obtain ⟨other, _, hother, rfl⟩ := superseded token htoken
      cases hworker.symm.trans hother
      exact absurd htoken hsuperseded
  · rcases h.phase.cases_healthy hhealthy with ⟨hbetween, hrest⟩ | ⟨other, hflight, hother⟩
    · rcases hrest with ⟨hidle, -⟩ | ⟨other, _, hother, htaken⟩
      · cases hworker.symm.trans hidle
      · cases hworker.symm.trans hother
        exact absurd htaken hsuperseded
    · rcases hother with ⟨hprepared, -⟩ | ⟨_, hother, hnone, hwrote⟩
      · cases hworker.symm.trans hprepared
      cases hworker.symm.trans hother
      rcases hcases with ⟨-, rfl, -, rfl⟩ | ⟨-, rfl, -, rfl⟩ | ⟨-, rfl⟩
      · -- the transaction was written
        rw [World.publishAll_eq]
        refine ⟨⟨⟨State.wellFormed_of_validate hflight.valid, rfl, rfl, rfl⟩, .settled ⟨hhealthy,
            hflight.alive, nofun, rfl, hnone, hwrote.saved rfl⟩ rfl hflight.superseded⟩,
          ⟨id, .change hhealthy rfl ?_ fun other hother => ?_, ?_, ⟨[], ?_, nofun, rfl⟩,
            fun _ => .inr (.inr ⟨id, rfl, .inr ⟨transaction.events, ?_, ?_⟩⟩)⟩⟩
        · rw [hflight.previous]
          exact hflight.changes
        · have hcandidate := Option.some.inj (hflight.candidate.symm.trans hother.candidate)
          refine ⟨congrArg State.rules hcandidate, [], ?_⟩
          rw [List.append_nil]
          exact hflight.events.symm.trans hother.events
        · rw [hflight.previous]
          exact hflight.changes.revision_le
        · rw [List.append_nil]
          rfl
        · rw [hflight.previous]
          exact hflight.changes
        · rw [hflight.previous]
          exact hflight.learned
      · -- the transaction was not written
        refine ⟨⟨⟨h.consistent.wellFormed, h.consistent.policy, h.consistent.admission, rfl⟩,
          .settled ⟨hhealthy, hflight.alive, nofun, rfl, hnone, ?_⟩ rfl hflight.superseded⟩,
          .quiet rfl id rfl ⟨rfl, rfl, rfl⟩⟩
        exact (hwrote.retained rfl).trans (congrArg some hflight.previous.symm)
      · have hemergency := enters_emergency json rt
          (maxRevision rt.engine.state.revision transaction.candidate.revision)
        have hconsistent := hemergency.consistent h.consistent
        refine ⟨⟨hconsistent.flagged ..,
            .poisoned hemergency.poisoned fun token htoken => ?_⟩,
          .fail hemergency.poisoned (hemergency.revision (le_maxRevision_left _ _))
            hemergency.published hemergency.ran⟩
        have hnot := hemergency.superseded.trans hflight.superseded
        rw [release, hnot] at htoken
        cases htoken

/-! ### Failures -/

theorem repairPolicy_advances {expectedRevision : BitVec 64} (h : rt.Sound json) :
    rt.Advances json (repairPolicy json rt expectedRevision).2 := by
  unfold repairPolicy
  split_ifs with hpoisoned
  · exact ⟨h, .refl rt⟩
  · exact ⟨h, .refl rt⟩
  · exact ⟨h, .refl rt⟩
  · exact ⟨h, .refl rt⟩
  · rw [Bool.not_eq_true] at hpoisoned
    rcases happly : rt.world.apply rt.engine.state.snapshot with ⟨ok, w⟩
    obtain ⟨hstep, hkernel⟩ := World.apply_spec happly
    have hran : rt.world.Ran rt.Installs w :=
      World.apply_ran happly (.inl rfl) (installs_state h) (.inr (.inl rfl))
    cases ok with
    | true =>
      have hcleared : rt.world.KernelStep w.clearCounterSnapshot :=
        ⟨hstep.disk, hstep.published, hstep.learningReservation, hstep.worker⟩
      exact ⟨⟨h.consistent, h.phase.moved rt.engine.startupPolicy hcleared⟩, ⟨id,
        .stay hstep.published (.inr rfl),
        BitVec.le_refl _, hran, fun _ => .inl (hkernel rfl)⟩⟩
    | false =>
      refine .of_emergency h hpoisoned (Emergency.after (enterEmergencyFailClosed_spec rfl
        (hran.kernel (.inl rfl)) (.inr (.inl rfl))) hstep.published hran hstep.worker
        hstep.learningReservation) (BitVec.le_refl _) fun _ hk => hk

theorem quarantine_advances (h : rt.Sound json) :
    rt.Advances json (quarantineAfterRuntimeFailure json rt) := by
  unfold quarantineAfterRuntimeFailure
  cases hstartup : rt.engine.startupPolicy with
  | active =>
    simp only
    split_ifs with hpoisoned
    · exact ⟨h, .refl rt⟩
    · rw [not_or, Bool.not_eq_true] at hpoisoned
      exact .of_emergency h hpoisoned.1 (enters_emergency json rt _) (BitVec.le_refl _)
        fun _ hk => hk
  | pending =>
    rcases hclosed : rt.world.failClosed with ⟨ok, w⟩
    obtain ⟨hstep, -⟩ := World.failClosed_spec hclosed
    have hran : rt.world.Ran rt.Installs w :=
      World.failClosed_ran hclosed (.inl rfl) (.inr (.inl rfl))
    have hworker : rt.world.WorkerStep w := .still hstep.worker hstep.learningReservation
    cases ok <;>
      exact ⟨⟨h.consistent.flagged .., h.phase.poison rfl rfl hworker⟩,
        .fail rfl (BitVec.le_refl _) hstep.published hran⟩

theorem activate_advances (h : rt.Sound json) : rt.Advances json (activateStartupPolicy rt).2 := by
  unfold activateStartupPolicy
  cases hstartup : rt.engine.startupPolicy with
  | active => exact ⟨h, .refl rt⟩
  | pending =>
    rcases happly : rt.world.apply rt.engine.state.snapshot with ⟨ok, w⟩
    obtain ⟨hstep, hkernel⟩ := World.apply_spec happly
    have hran : rt.world.Ran rt.Installs w :=
      World.apply_ran happly (.inl rfl) (installs_state h) (.inr (.inl rfl))
    cases ok with
    | true =>
      exact ⟨⟨h.consistent.flagged ..,
        h.phase.moved _ hstep⟩, ⟨id, .stay hstep.published (.inr rfl),
        BitVec.le_refl _, hran, fun _ => .inl (hkernel rfl)⟩⟩
    | false =>
      rcases hclosed : w.failClosed with ⟨ok, w₂⟩
      obtain ⟨hstep₂, -⟩ := World.failClosed_spec hclosed
      have hran₂ := hran.trans
        (World.failClosed_ran hclosed (hran.kernel (.inl rfl)) (.inr (.inl rfl)))
      simp only [hclosed]
      refine ⟨⟨h.consistent, (h.phase.moved rt.engine.startupPolicy hstep).moved
          rt.engine.startupPolicy hstep₂⟩,
        ⟨id, .stay (hstep₂.published.trans hstep.published) (.inr rfl), BitVec.le_refl _, hran₂,
          fun _ => ?_⟩⟩
      -- whether or not everything could be blocked again, the kernel runs what it ran before, the
      -- policy of the state, or nothing
      have hmay : rt.world.Ran (fun k => k = rt.world.kernel ∨ k = rt.engine.state.snapshot ∨
          k = blockAllSnapshot) w :=
        World.apply_ran happly (.inl rfl) (.inr (.inl rfl)) (.inr (.inr rfl))
      have hmay₂ : w.Ran (fun k => k = w.kernel ∨ k = blockAllSnapshot) w₂ :=
        World.failClosed_ran hclosed (.inl rfl) (.inr rfl)
      have hpending : rt.engine.startupPolicy ≠ .active := by simp [hstartup]
      rcases hmay₂.kernel (.inl rfl) with hsame | hblock
      · rcases hmay.kernel (.inl rfl) with hkept | hnew | hblock
        · exact .inr (.inr ⟨id, hsame.trans hkept, .inl rfl⟩)
        · exact .inl (hsame.trans hnew)
        · exact .inr (.inl ⟨hsame.trans hblock, fun hactive => absurd hactive hpending⟩)
      · exact .inr (.inl ⟨hblock, fun hactive => absurd hactive hpending⟩)

/-! ### Runs -/

theorem step_advances (h : rt.Sound json) (action : Action) :
    rt.Advances json (rt.step json action) := by
  cases action with
  | activate => exact activate_advances h
  | control input request => exact handleControl_advances h rfl
  | prepare expectedFlowGeneration endpoints supply =>
    simp only [step]
    split
    · next hidle => exact prepare_advances h hidle
    · exact ⟨h, .refl rt⟩
  | persist => exact persist_advances h
  | finalize =>
    simp only [step]
    split
    · next hworker => exact finalize_advances h hworker
    · exact ⟨h, .refl rt⟩
  | repair expectedRevision => exact repairPolicy_advances h
  | quarantine => exact quarantine_advances h

theorem run_sound (h : rt.Sound json) (actions : List Action) :
    (rt.run json actions).Sound json := by
  induction actions generalizing rt with
  | nil => exact h
  | cons action rest ih => exact ih (step_advances h action).1

/-- The events of a run lead from the policy at its start to the last one that was in force before
the engine was poisoned. -/
theorem run_logged (h : rt.Sound json) (actions : List Action) :
    ∃ events last, (rt.run json actions).world.published = rt.world.published ++ events ∧
      rt.engine.state.Changes events last ∧
      ((rt.run json actions).engine.poisoned = false →
        (rt.run json actions).engine.state = last) := by
  induction actions using List.reverseRecOn with
  | nil => exact ⟨[], rt.engine.state, (List.append_nil _).symm, .refl, fun _ => rfl⟩
  | append_singleton before action ih =>
    obtain ⟨events, last, hpublished, hchanges, hlast⟩ := ih
    have hprogress := (step_advances (run_sound h before) action).2
    have hstep : rt.run json (before ++ [action]) = (rt.run json before).step json action := by
      rw [run, List.foldl_append]
      rfl
    rw [hstep]
    have hbefore := hprogress.healthy
    cases hprogress.move with
    | stay published state =>
      refine ⟨events, last, published.trans hpublished, hchanges, fun hp => ?_⟩
      rcases state with hpoisoned | hsame
      · rw [hpoisoned] at hp
        cases hp
      · exact hsame.trans (hlast (hbefore hp))
    | @change more healthy published changes learned =>
      refine ⟨events ++ more, _, ?_, hchanges.trans (hlast (hbefore healthy) ▸ changes),
        fun _ => rfl⟩
      rw [published, hpublished, List.append_assoc]

/-! ### How a run starts -/

theorem rotateStartupFlowGeneration_eq_ok {s : State} (h : rotateStartupFlowGeneration s = .ok t) :
    ∃ generation, s.nextFlowGeneration = .ok generation ∧
      t = { s with flowGeneration := generation } := by
  unfold rotateStartupFlowGeneration at h
  split at h
  · next generation hgeneration =>
    cases h
    exact ⟨generation, hgeneration, rfl⟩
  · cases h

theorem rotateStartupFlowGeneration_wellFormed {s : State} (hs : s.WellFormed)
    (h : rotateStartupFlowGeneration s = .ok t) : t.WellFormed := by
  obtain ⟨generation, hnext, rfl⟩ := rotateStartupFlowGeneration_eq_ok h
  exact ⟨hs.size, (State.nextFlowGeneration_spec hnext).2, hs.entries⟩

theorem new_wellFormed : State.new.WellFormed := ⟨Nat.zero_le _, rfl, by rintro entry ⟨⟩⟩

theorem startupState_wellFormed {persisted : Option State} {now : Timestamp} {supply : Supply}
    (hpersisted : ∀ s, persisted = some s → s.WellFormed)
    (h : startupState json persisted now supply = .ok t) : t.WellFormed := by
  unfold startupState at h
  cases persisted with
  | some s =>
    cases hrotate : rotateStartupFlowGeneration s with
    | error error =>
      simp only [hrotate] at h
      cases h
    | ok rotated =>
      have hrotated := rotateStartupFlowGeneration_wellFormed (hpersisted s rfl) hrotate
      obtain ⟨outcomes, hlearns, -⟩ :=
        rotated.ensureApplicationGroupTemplates_learns json MAX_RULES supply
      have hensured := hlearns.follows.wellFormed hrotated
      simp only [hrotate] at h
      split at h
      · next migrated hensure =>
        cases h
        rwa [hensure] at hensured
      · cases h
  | none =>
    simp only at h
    split at h
    · next initial event hset =>
      exact rotateStartupFlowGeneration_wellFormed
        ((State.setModeAt_changes hset).follows.wellFormed new_wellFormed) h
    · cases h

end Runtime

/-- The world that a new instance of the daemon finds: what is stored was validated, and nobody
has subscribed. -/
structure World.Fresh (w : World) : Prop where
  worker : w.worker = .idle
  reservation : w.learningReservation = none
  published : w.published = []
  stored : ∀ s, w.disk = some s → s.WellFormed

namespace Runtime

variable {json : Serializer} {rt : Runtime}

theorem loadWithLearningLimits_sound {w w' : World} {learningLimits : LearningLimits}
    {now : Timestamp} {supply : Supply} {engine : Engine} (hfresh : w.Fresh)
    (h : loadWithLearningLimits json w learningLimits now supply = (.ok engine, w')) :
    Sound json ⟨engine, w'⟩ ∧ w'.published = [] ∧ w'.kernel = blockAllSnapshot ∧
      engine.poisoned = false := by
  unfold loadWithLearningLimits at h
  rcases hclosed : w.failClosed with ⟨ok, w₁⟩
  obtain ⟨hstep₁, hkernel⟩ := World.failClosed_spec hclosed
  have hnone₁ := hstep₁.learningReservation.trans hfresh.reservation
  simp only [hclosed] at h
  cases ok with
  | false => cases h
  | true =>
    simp only [World.loadExclusive, World.waitUntilExclusive_of_none hnone₁] at h
    rcases hload : w₁.load with ⟨loaded, w₂⟩
    obtain ⟨hstep₂, hreservation₂, hworker₂, hdisk⟩ := World.load_spec hload
    simp only [hload] at h
    cases loaded with
    | none => cases h
    | some persisted =>
      have hpersisted (s : State) (hs : persisted = some s) : s.WellFormed :=
        hfresh.stored s (hstep₁.disk.symm.trans ((hdisk persisted rfl).trans hs))
      cases hstart : startupState json persisted now supply with
      | error error =>
        simp only [hstart] at h
        cases h
      | ok state =>
        have hwellFormed := startupState_wellFormed hpersisted hstart
        have hnone₂ := hreservation₂.trans hnone₁
        rcases hsave : w₂.saveExclusive state with ⟨saved, w₃⟩
        obtain ⟨hstep₃, hreservation₃, hworker₃, hsaved⟩ := World.saveExclusive_spec hsave
        rw [World.waitUntilExclusive_of_none hnone₂] at hreservation₃ hworker₃
        simp only [hstart, hsave] at h
        cases saved with
        | false => cases persisted <;> cases h
        | true =>
          cases h
          have hworker := (hworker₃.trans (hworker₂.trans hstep₁.worker)).trans hfresh.worker
          refine ⟨⟨⟨hwellFormed, rfl, rfl, rfl⟩, .settled ⟨rfl, rfl, nofun, rfl,
            hreservation₃.trans hnone₂, hsaved rfl⟩ hworker rfl⟩, ?_, ?_, rfl⟩
          · rw [hstep₃.published, hstep₂.published, hstep₁.published, hfresh.published]
          · rw [hstep₃.kernel, hstep₂.kernel, hkernel rfl]

inductive Reachable (json : Serializer) : Runtime → Prop
  | run {w w' : World} {learningLimits : LearningLimits} {now : Timestamp} {supply : Supply}
      {engine : Engine} (fresh : w.Fresh)
      (load : loadWithLearningLimits json w learningLimits now supply = (.ok engine, w'))
      (actions : List Action) : Reachable json (Runtime.run json ⟨engine, w'⟩ actions)

theorem Reachable.sound (h : rt.Reachable json) : rt.Sound json := by
  obtain ⟨hfresh, hload, actions⟩ := h
  exact run_sound (loadWithLearningLimits_sound hfresh hload).1 actions

theorem Reachable.step (h : rt.Reachable json) (actions : List Action) :
    (rt.run json actions).Reachable json := by
  obtain ⟨hfresh, hload, before⟩ := h
  have happend : ∀ start : Runtime, (start.run json before).run json actions =
      start.run json (before ++ actions) := fun start => List.foldl_append.symm
  rw [happend]
  exact .run hfresh hload _

end Runtime

end OpenShield
