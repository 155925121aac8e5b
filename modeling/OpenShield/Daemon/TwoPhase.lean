import OpenShield.Daemon.Runs

/-!
# Two-phase learning

Learning writes the file without the engine lock. Whatever happens in between, memory and file
agree whenever no transaction is in flight, an acknowledged `blockAll` is not undone by the
transaction it overtook, and the subscribers see every change once and in order. The exception is
an emergency, which keeps the rules of a transaction without reporting them.
-/

namespace OpenShield

namespace Runtime

variable {json : Serializer} {rt rt' : Runtime}

/-- The worker holds a transaction that `blockAll` overtook. -/
structure HoldsOvertaken (rt : Runtime) (transaction : ApplicationLearningTransaction)
    (outcome : LearningStoreOutcome) : Prop where
  worker : rt.world.worker = .persisted transaction outcome
  superseded : rt.engine.supersededLearningTransaction = some transaction.token

variable {transaction : ApplicationLearningTransaction} {outcome : LearningStoreOutcome}

theorem HoldsOvertaken.of_emergency {revisionFloor : BitVec 64} {allowed : Snapshot → Prop}
    (h : rt.HoldsOvertaken transaction outcome) (hcoherent : rt.world.Coherent)
    (hemergency : rt.Emergency revisionFloor allowed rt') :
    rt'.HoldsOvertaken transaction outcome :=
  ⟨(hemergency.worker hcoherent).persisted h.worker, hemergency.superseded.trans h.superseded⟩

theorem HoldsOvertaken.between (h : rt.HoldsOvertaken transaction outcome) (hsound : rt.Sound json)
    (hhealthy : rt.engine.poisoned = false) : rt.Between := by
  rcases hsound.phase.cases_healthy hhealthy with ⟨hbetween, -⟩ | ⟨other, hflight, -⟩
  · exact hbetween
  · have hnone := hflight.superseded
    rw [h.superseded] at hnone
    cases hnone

theorem handleControl_overtaken {input : ControlInput} {request : ControlRequest}
    {result : Except ProtocolError Ack} (hsound : rt.Sound json)
    (h : rt.HoldsOvertaken transaction outcome)
    (hrun : handleControl json rt input request = (result, rt')) :
    rt'.HoldsOvertaken transaction outcome := by
  rcases handleControl_cases hrun with ⟨rfl, -⟩ |
    ⟨hhealthy, -, candidate, events, affected, committed, -, hcommit, -⟩ |
    ⟨hhealthy, token, committed, -, hpersistence, -, -⟩
  · exact h
  · cases commit_spec (h.between hsound hhealthy).reservation hcommit with
    | committed engine kernel disk published ran worker reservation =>
      exact ⟨worker.trans h.worker, by rw [engine]; exact h.superseded⟩
    | restored engine kernel disk published ran worker reservation =>
      exact ⟨worker.trans h.worker, by rw [engine]; exact h.superseded⟩
    | emergency entered => exact h.of_emergency (hsound.phase.coherent hhealthy) entered
  · exact absurd hpersistence ((h.between hsound hhealthy).persistence token)

theorem step_overtaken (hsound : rt.Sound json) (h : rt.HoldsOvertaken transaction outcome)
    {action : Action} (haction : action ≠ .finalize) :
    (rt.step json action).HoldsOvertaken transaction outcome := by
  cases action with
  | activate =>
    simp only [step, activateStartupPolicy]
    split
    · exact h
    · split
      · next hstep => exact ⟨(World.apply_spec hstep).1.worker.trans h.worker, h.superseded⟩
      · next w hstep =>
        exact ⟨((World.failClosed_spec (rfl : w.failClosed = (_, _))).1.worker.trans
          (World.apply_spec hstep).1.worker).trans h.worker, h.superseded⟩
  | control input request => exact handleControl_overtaken hsound h rfl
  | prepare expectedFlowGeneration endpoints supply =>
    simp only [step, h.worker]
    exact h
  | persist =>
    simp only [step, World.persist, h.worker]
    exact h
  | finalize => exact absurd rfl haction
  | repair expectedRevision =>
    simp only [step, repairPolicy]
    split_ifs with hpoisoned
    · exact h
    · exact h
    · exact h
    · exact h
    · rw [Bool.not_eq_true] at hpoisoned
      have hcoherent := hsound.phase.coherent hpoisoned
      split
      · next hstep => exact ⟨(World.apply_spec hstep).1.worker.trans h.worker, h.superseded⟩
      · next w hstep =>
        obtain ⟨hkernel, -⟩ := World.apply_spec hstep
        have hthen : HoldsOvertaken ⟨rt.engine, w⟩ transaction outcome :=
          ⟨hkernel.worker.trans h.worker, h.superseded⟩
        exact hthen.of_emergency (hcoherent.of_eq hkernel.worker hkernel.learningReservation)
          (enters_emergency json _ _)
  | quarantine =>
    simp only [step, quarantineAfterRuntimeFailure]
    split
    · split
      · next hstep => exact ⟨(World.failClosed_spec hstep).1.worker.trans h.worker, h.superseded⟩
      · next hstep => exact ⟨(World.failClosed_spec hstep).1.worker.trans h.worker, h.superseded⟩
    · split_ifs with hpoisoned
      · exact h
      · rw [not_or, Bool.not_eq_true] at hpoisoned
        exact h.of_emergency (hsound.phase.coherent hpoisoned.1) (enters_emergency json rt _)

theorem run_overtaken (hsound : rt.Sound json) (h : rt.HoldsOvertaken transaction outcome)
    {actions : List Action} (hactions : .finalize ∉ actions) :
    (rt.run json actions).HoldsOvertaken transaction outcome := by
  induction actions generalizing rt with
  | nil => exact h
  | cons action rest ih =>
    rw [List.mem_cons, not_or] at hactions
    exact ih (step_advances hsound action).1 (step_overtaken hsound h (Ne.symm hactions.1))
      hactions.2

theorem finalize_overtaken (h : rt.HoldsOvertaken transaction outcome) :
    (rt.step json .finalize).engine.state = rt.engine.state ∧
      (rt.step json .finalize).world.disk = rt.world.disk ∧
      (rt.step json .finalize).world.published = rt.world.published := by
  simp only [step, h.worker, finalizeApplicationLearning, h.superseded, if_true]
  exact ⟨rfl, rfl, rfl⟩

/-- A `blockAll` that is acknowledged while a transaction is in flight. -/
theorem acknowledged_overtakes {token : BitVec 64} {input : ControlInput}
    {request : ControlRequest} {ack : Ack} (hsound : rt.Sound json)
    (hflight : rt.engine.learningPersistence = .inFlight token)
    (hrun : handleControl json rt input request = (.ok ack, rt')) :
    ∃ transaction outcome, transaction.token = token ∧
      rt.engine.pendingApplicationLearningCandidate = some transaction.candidate ∧
      rt'.HoldsOvertaken transaction outcome ∧ rt'.engine.state.mode = .blockAll ∧
      rt'.engine.state.rules = transaction.candidate.rules ∧
      ack.revision = rt'.engine.state.revision ∧ rt'.world.disk = some rt'.engine.state := by
  rcases handleControl_cases hrun with ⟨-, error, herror⟩ | ⟨-, hnot, -⟩ |
    ⟨hhealthy, token', committed, -, hpersistence, hblock, hresult⟩
  · cases herror
  · exact absurd hflight (hnot token)
  rw [hflight] at hpersistence
  cases hpersistence
  have hcoherent := hsound.phase.coherent hhealthy
  rcases commitBlockAllDuringLearning_cases hcoherent hblock with ⟨-, error, rfl⟩ |
    ⟨hstep, -, ⟨hnone, pending, revision, rfl, hovertaken⟩ | ⟨⟨error, rfl⟩, -⟩⟩
  · cases hresult
  · cases hresult
    rcases hsound.phase.cases_healthy hhealthy with ⟨hbetween, -⟩ | ⟨transaction, htx, hworker⟩
    · exact absurd hflight (hbetween.persistence token)
    have hcandidate := Option.some.inj (hovertaken.candidate.symm.trans htx.candidate)
    have htoken : transaction.token = token := by
      have heq := htx.persistence.symm.trans hflight
      cases heq
      rfl
    have hsuperseded : rt'.engine.supersededLearningTransaction = some transaction.token := by
      rw [hovertaken.engine, htoken]
    obtain ⟨outcome, hpersisted⟩ : ∃ outcome, rt'.world.worker = .persisted transaction outcome := by
      rcases hworker with ⟨hprepared, hreserved, -⟩ | ⟨outcome, hpersisted, -⟩
      · exact hstep.written hprepared hreserved hnone
      · exact ⟨outcome, hstep.persisted hpersisted⟩
    exact ⟨transaction, outcome, htoken, htx.candidate, ⟨hpersisted, hsuperseded⟩, hovertaken.mode,
      hcandidate ▸ hovertaken.rules, hovertaken.revision, hovertaken.disk⟩
  · cases hresult

theorem Reachable.numbered (h : rt.Reachable json) :
    ∃ first, rt.world.published.map (fun event => event.revision.toNat) =
      List.range' first rt.world.published.length := by
  obtain ⟨hfresh, hload, actions⟩ := h
  obtain ⟨hsound, hnothing, -⟩ := loadWithLearningLimits_sound hfresh hload
  obtain ⟨events, last, hpublished, hchanges, -⟩ := run_logged hsound actions
  rw [hpublished, hnothing]
  exact ⟨_, hchanges.revisions⟩

/-- While a transaction is in flight, a step leaves the policy alone, poisons the engine, or puts
the rules of the transaction in force and reports them. -/
theorem step_inFlight (hsound : rt.Sound json) (hflight : rt.InFlight json transaction)
    (action : Action) :
    ((rt.step json action).world.published = rt.world.published ∧
      ((rt.step json action).engine.poisoned = true ∨
        (rt.step json action).engine.state = rt.engine.state)) ∨
    ((rt.step json action).engine.poisoned = false ∧
      (rt.step json action).engine.state.rules = transaction.candidate.rules ∧
      ∃ rest, (rt.step json action).world.published =
        rt.world.published ++ (transaction.events ++ rest)) := by
  cases (step_advances hsound action).2.move with
  | stay published state => exact .inl ⟨published, state⟩
  | change healthy published changes learned =>
    obtain ⟨hrules, rest, rfl⟩ := learned transaction hflight
    exact .inr ⟨healthy, hrules, rest, published⟩

theorem Sound.inFlight {token : BitVec 64} (h : rt.Sound json)
    (hhealthy : rt.engine.poisoned = false)
    (hflight : rt.engine.learningPersistence = .inFlight token)
    (hworker : rt.world.worker = .prepared transaction ∨
      ∃ outcome, rt.world.worker = .persisted transaction outcome) :
    rt.InFlight json transaction := by
  rcases h.phase.cases_healthy hhealthy with ⟨hbetween, -⟩ | ⟨other, hother, hcases⟩
  · exact absurd hflight (hbetween.persistence token)
  have hsame : transaction = other := by
    rcases hcases with ⟨hprepared, -⟩ | ⟨_, hpersisted, -⟩ <;>
      rcases hworker with hworker | ⟨_, hworker⟩ <;>
      simp_all
  rwa [hsame]

end Runtime

open OpenShield.Runtime in
/-- Two-phase learning loses nothing and never undoes `blockAll`. -/
theorem twoPhase_learning {json : Serializer} {rt : Runtime} (hreach : rt.Reachable json) :
    (rt.engine.poisoned = false → (∀ token, rt.engine.learningPersistence ≠ .inFlight token) →
      rt.world.disk = some rt.engine.state) ∧
    (∀ token input request ack rt', rt.engine.learningPersistence = .inFlight token →
      handleControl json rt input request = (.ok ack, rt') →
      ∃ transaction outcome, transaction.token = token ∧
        rt.engine.pendingApplicationLearningCandidate = some transaction.candidate ∧
        rt'.engine.state.mode = .blockAll ∧
        rt'.engine.state.rules = transaction.candidate.rules ∧
        ack.revision = rt'.engine.state.revision ∧
        rt'.world.disk = some rt'.engine.state ∧
        ∀ actions, Action.finalize ∉ actions →
          (rt'.run json actions).world.worker = .persisted transaction outcome ∧
          ((rt'.run json actions).step json .finalize).engine.state =
            (rt'.run json actions).engine.state ∧
          ((rt'.run json actions).step json .finalize).world.disk =
            (rt'.run json actions).world.disk ∧
          ((rt'.run json actions).step json .finalize).world.published =
            (rt'.run json actions).world.published) ∧
    (∀ token transaction, rt.engine.poisoned = false →
      rt.engine.learningPersistence = .inFlight token →
      (rt.world.worker = .prepared transaction ∨
        ∃ outcome, rt.world.worker = .persisted transaction outcome) →
      ∀ action,
        ((rt.step json action).world.published = rt.world.published ∧
          ((rt.step json action).engine.poisoned = true ∨
            (rt.step json action).engine.state = rt.engine.state)) ∨
        ((rt.step json action).engine.poisoned = false ∧
          (rt.step json action).engine.state.rules = transaction.candidate.rules ∧
          ∃ rest, (rt.step json action).world.published =
            rt.world.published ++ (transaction.events ++ rest))) ∧
    rt.world.published.Nodup ∧
    ∃ first, rt.world.published.map (fun event => event.revision.toNat) =
      List.range' first rt.world.published.length := by
  have hsound := hreach.sound
  refine ⟨fun hhealthy hnot => ?_, fun token input request ack rt' hflight hrun => ?_,
    fun token transaction hhealthy hflight hworker =>
      step_inFlight hsound (hsound.inFlight hhealthy hflight hworker), ?_, hreach.numbered⟩
  · rcases hsound.phase.cases_healthy hhealthy with ⟨hbetween, -⟩ | ⟨transaction, hflight, -⟩
    · exact hbetween.disk
    · exact absurd hflight.persistence (hnot _)
  · obtain ⟨transaction, outcome, htoken, hcandidate, hholds, hmode, hrules, hrevision, hdisk⟩ :=
      acknowledged_overtakes hsound hflight hrun
    refine ⟨transaction, outcome, htoken, hcandidate, hmode, hrules, hrevision, hdisk,
      fun actions hactions => ?_⟩
    have hlater := run_overtaken (handleControl_advances hsound hrun).1 hholds hactions
    exact ⟨hlater.worker, finalize_overtaken hlater⟩
  · obtain ⟨first, hnumbered⟩ := hreach.numbered
    refine List.Nodup.of_map (fun event => event.revision.toNat) ?_
    rw [hnumbered]
    exact List.nodup_range'

namespace Sample

def world : World :=
  { kernel := blockAllSnapshot, installs := [], disk := none, published := []
    learningReservation := none, worker := .idle, faults := fun _ => .none, tick := 0 }

theorem world_fresh : world.Fresh := ⟨rfl, rfl, rfl, nofun⟩

def endpoint : LearnedApplicationEndpoint :=
  { endpoint :=
      { address := .v4 2, protocol := .icmp, port := none
        interface := some ⟨"e", Sample.accepts_e⟩ }
    application :=
      { executable := some ⟨"/a", Sample.accepts_a⟩
        executableFile := some ⟨1, 1, 1, 0, 0⟩
        commandLine := none
        uid := some 0
        cgroup := none
        metadataRedacted := false } }

def supply : Supply := fun n => (Fin.ofNat _ (n + 1), 0)

def firstState : State :=
  { State.new with revision := 1, flowGeneration := 3, mode := .learning }

def loadedWorld : World :=
  { world with installs := [blockAllSnapshot], resets := 1, disk := some firstState, tick := 3 }

theorem loads : Runtime.loadWithLearningLimits json world .default 0 supply =
    (.ok (Runtime.loadedEngine firstState .default), loadedWorld) := rfl

def prepared : Runtime :=
  Runtime.run json ⟨Runtime.loadedEngine firstState .default, loadedWorld⟩
    [.activate, .prepare 3 [endpoint] supply]

theorem prepared_reachable : prepared.Reachable json := .run world_fresh loads _

def transaction : ApplicationLearningTransaction :=
  match prepared.world.worker with
  | .prepared transaction => transaction
  | _ => ⟨0, State.new, State.new, []⟩

/-- The answer to a `blockAll` that comes before the transaction was written. -/
def blocked : Except ProtocolError Ack × Runtime :=
  Runtime.handleControl json prepared ⟨supply, fun _ _ => .error ""⟩ (.setMode 1 .blockAll)

end Sample

/-- A `blockAll` overtakes the transaction of the sample. -/
theorem twoPhase_learning_sample :
    Sample.prepared.engine.learningPersistence = .inFlight 1 ∧
      Sample.blocked.2.engine.state.rules = Sample.transaction.candidate.rules := by
  have hflight : Sample.prepared.engine.learningPersistence = .inFlight 1 := by decide +kernel
  have hok : Sample.blocked.1 = .ok ⟨4, none⟩ := by decide +kernel
  have hpending : Sample.prepared.engine.pendingApplicationLearningCandidate =
      some Sample.transaction.candidate := by decide +kernel
  obtain ⟨-, hovertake, -⟩ := twoPhase_learning Sample.prepared_reachable
  obtain ⟨transaction, outcome, -, hcandidate, -, hrules, -⟩ :=
    hovertake 1 _ _ _ Sample.blocked.2 hflight (Prod.ext hok rfl)
  exact ⟨hflight, hrules.trans (congrArg State.rules
    (Option.some.inj (hcandidate.symm.trans hpending)))⟩

/-- An emergency puts the rules of a transaction in memory and on disk and reports nothing. -/
theorem emergency_keeps_unreported_rules :
    Sample.prepared.Reachable Sample.json ∧
      Sample.prepared.world.worker = .prepared Sample.transaction ∧
      Sample.transaction.events ≠ [] ∧
      (Sample.prepared.step Sample.json .quarantine).engine.state.rules =
        Sample.transaction.candidate.rules ∧
      (Sample.prepared.step Sample.json .quarantine).world.disk =
        some (Sample.prepared.step Sample.json .quarantine).engine.state ∧
      (Sample.prepared.step Sample.json .quarantine).world.published = [] := by
  refine ⟨Sample.prepared_reachable, ?_, ?_, ?_, ?_, ?_⟩ <;> decide +kernel

end OpenShield
