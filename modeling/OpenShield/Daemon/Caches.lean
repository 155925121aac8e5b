import OpenShield.Daemon.TwoPhase

/-!
# What the engine derives from its state

The engine answers packets and observations from values that it computed when the state was put in
force: the decision policy, the admission index and, while a transaction is in flight, the index of
its candidate. Commits, rollbacks and emergencies replace them at different points. In a run they
always fit the state, so the checks that report a misfit never fire.
-/

namespace OpenShield

theorem State.WellFormed.validate_error {json : Serializer} {s : State} (hs : s.WellFormed)
    {error : CoreError} (h : s.validate json = .error error) :
    error = .stateSizeLimitReached MAX_STATE_BYTES := by
  have hsize : ¬ json.stateSize s ≤ MAX_STATE_BYTES := by
    intro hle
    have hok := (s.validate_eq_ok_iff json).mpr ⟨hs.size, hs.generation, hs.entries, hle⟩
    rw [h] at hok
    cases hok
  have hentries : State.validateEntries s.rules.entries = .ok () :=
    (State.validateEntries_eq_ok_iff _).mpr hs.entries
  simp only [State.validate, (ensure_eq_ok_iff _ _ ()).mpr hs.size,
    (ensure_eq_ok_iff _ _ ()).mpr hs.generation, hentries, boundedSerializedStateSize,
    if_pos (not_le.mp hsize)] at h
  cases h
  rfl

namespace ApplicationLearningAdmissionIndex

theorem observe_dates (index : ApplicationLearningAdmissionIndex) (rule : Rule) :
    (index.observe rule).revision = index.revision ∧ (index.observe rule).mode = index.mode ∧
      (index.observe rule).flowGeneration = index.flowGeneration := by
  unfold observe
  repeat' split
  all_goals exact ⟨rfl, rfl, rfl⟩

theorem fromState_dates (s : State) (limits : LearningLimits) :
    (fromState s limits).revision = s.revision ∧ (fromState s limits).mode = s.mode ∧
      (fromState s limits).flowGeneration = s.flowGeneration := by
  have hscan (rules : List Rule) (index : ApplicationLearningAdmissionIndex) :
      (rules.foldl observe index).revision = index.revision ∧
        (rules.foldl observe index).mode = index.mode ∧
        (rules.foldl observe index).flowGeneration = index.flowGeneration := by
    induction rules generalizing index with
    | nil => exact ⟨rfl, rfl, rfl⟩
    | cons rule rest ih =>
      obtain ⟨hrevision, hmode, hgeneration⟩ := observe_dates index rule
      obtain ⟨ihrevision, ihmode, ihgeneration⟩ := ih (index.observe rule)
      exact ⟨ihrevision.trans hrevision, ihmode.trans hmode, ihgeneration.trans hgeneration⟩
  exact hscan _ _

end ApplicationLearningAdmissionIndex

namespace Runtime

/-- The derived values fit the state, and no internal check can fail. -/
structure CachesCoherent (json : Serializer) (rt : Runtime) : Prop where
  policy : rt.engine.applicationPolicy = rt.engine.state.applicationPolicy
  admission : rt.engine.applicationLearningAdmission =
    .fromState rt.engine.state rt.engine.learningLimits
  /-- The candidate and its index are there exactly while a transaction is in flight. -/
  inFlight : (∃ token, rt.engine.learningPersistence = .inFlight token) ↔
    ∃ candidate, rt.engine.pendingApplicationLearningCandidate = some candidate ∧
      rt.engine.pendingApplicationLearningAdmission =
        some (.fromState candidate rt.engine.learningLimits)
  idle : (∀ token, rt.engine.learningPersistence ≠ .inFlight token) →
    rt.engine.pendingApplicationLearningCandidate = none ∧
      rt.engine.pendingApplicationLearningAdmission = none
  /-- The errors about an index that is not current and about a missing index are internal. -/
  queue : ∀ mode generation endpoint error,
    rt.engine.applicationLearningQueueAdmission mode generation endpoint = .error error →
      error.code ≠ .internal
  /-- So is the error about a missing candidate, which only a transaction in flight can cause. -/
  control : ∀ token input request error,
    rt.engine.learningPersistence = .inFlight token →
      (handleControl json rt input request).1 = .error error → error.code ≠ .internal
  /-- What the worker wrote is finalized on the state that it was prepared for. -/
  base : ∀ transaction outcome, rt.world.worker = .persisted transaction outcome →
    rt.engine.supersededLearningTransaction ≠ some transaction.token →
      rt.engine.learningPersistence = .inFlight transaction.token ∧
        rt.engine.state = transaction.previous

variable {json : Serializer} {rt : Runtime}

theorem blockedCandidate_error {pending : State} {now : Timestamp} {error : ProtocolError}
    (hvalid : pending.validate json = .ok ()) (h : blockedCandidate json pending now = .error error) :
    error.code = .conflict := by
  have hpending := State.wellFormed_of_validate hvalid
  unfold blockedCandidate at h
  cases hset : pending.setModeAt .blockAll now with
  | error cause =>
    have hlast : pending.revision = BitVec.allOnes 64 := by
      by_contra hne
      obtain ⟨_, _, hok, -⟩ := State.setModeAt_blockAll hne now
      rw [hset] at hok
      cases hok
    have hoverflow : pending.nextRevision = .error .revisionOverflow := by
      rw [State.nextRevision, checkedSucc, if_pos hlast]
    simp only [State.setModeAt, State.setModeWithStrategyAt, hoverflow] at hset
    cases hset
    simp only [State.setModeAt, State.setModeWithStrategyAt, hoverflow] at h
    cases h
    rfl
  | ok made =>
    obtain ⟨blocked, event⟩ := made
    have hblocked : blocked.WellFormed := (State.setModeAt_changes hset).follows.wellFormed hpending
    rw [hset] at h
    change (liftCore (blocked.validate json) >>= fun _ => pure (blocked, event)) = _ at h
    cases hcheck : blocked.validate json with
    | ok _ =>
      rw [hcheck] at h
      cases h
    | error cause =>
      rw [hcheck] at h
      cases h
      rw [hblocked.validate_error hcheck]
      rfl

theorem InFlight.control_error {transaction : ApplicationLearningTransaction}
    (hflight : rt.InFlight json transaction) {input : ControlInput} {request : ControlRequest}
    {error : ProtocolError} (h : (handleControl json rt input request).1 = .error error) :
    error.code ≠ .internal := by
  unfold handleControl at h
  rw [hflight.healthy, hflight.persistence] at h
  simp only [Bool.false_eq_true, if_false] at h
  split_ifs at h
  · cases h
    exact nofun
  unfold requestDuringLearning at h
  split at h
  · simp only [commitBlockAllDuringLearning, hflight.candidate] at h
    cases hblocked : blockedCandidate json transaction.candidate (input.draw 0).2 with
    | error cause =>
      rw [hblocked] at h
      cases h
      rw [blockedCandidate_error hflight.valid hblocked]
      exact nofun
    | ok made =>
      simp only [hblocked] at h
      split at h
      · cases h
        exact nofun
      · split_ifs at h
        · cases h
        · cases h
          rw [Engine.emergencyProtocolError_code]
          exact nofun
  · cases h
    exact nofun

theorem queueAdmission_error (hconsistent : rt.engine.Consistent)
    (hindex : ∀ token, rt.engine.learningPersistence = .inFlight token →
      rt.engine.pendingApplicationLearningAdmission ≠ none)
    {mode : Mode} {generation : BitVec 32} {endpoint : LearnedApplicationEndpoint}
    {error : ProtocolError}
    (h : rt.engine.applicationLearningQueueAdmission mode generation endpoint = .error error) :
    error.code ≠ .internal := by
  obtain ⟨hrevision, hmode, hgeneration⟩ :=
    ApplicationLearningAdmissionIndex.fromState_dates rt.engine.state rt.engine.learningLimits
  rw [← hconsistent.admission] at hrevision hmode hgeneration
  have hcurrent : ¬(rt.engine.applicationLearningAdmission.revision ≠ rt.engine.state.revision ∨
      rt.engine.applicationLearningAdmission.mode ≠ rt.engine.state.mode ∨
      rt.engine.applicationLearningAdmission.flowGeneration ≠
        rt.engine.state.flowGeneration) := by
    simp [hrevision, hmode, hgeneration]
  -- there is an index to judge by, whatever phase learning is in
  obtain ⟨index, hfound⟩ : ∃ index, rt.engine.queueAdmissionIndex = .ok index := by
    unfold Engine.queueAdmissionIndex
    cases hpersistence : rt.engine.learningPersistence with
    | inFlight token =>
      obtain ⟨index, hsome⟩ := Option.ne_none_iff_exists'.mp (hindex token hpersistence)
      exact ⟨index, by rw [hsome]⟩
    | active | paused => exact ⟨_, rfl⟩
  unfold Engine.applicationLearningQueueAdmission at h
  rw [if_neg hcurrent, hfound] at h
  split_ifs at h
  · cases h
    rw [Engine.emergencyProtocolError_code]
    exact nofun
  · cases h
    exact nofun
  · dsimp only [bind, Except.bind] at h
    split at h <;> cases h
    exact nofun

/-- In every run of an engine that is not poisoned, what the engine derived from its state fits the
state, and the errors that would report a misfit do not occur. -/
theorem Reachable.caches_coherent (hreach : rt.Reachable json)
    (hhealthy : rt.engine.poisoned = false) : rt.CachesCoherent json := by
  have hsound := hreach.sound
  have hpending := hsound.consistent.pending
  rcases hsound.phase.cases_healthy hhealthy with ⟨hbetween, hrest⟩ |
    ⟨transaction, hflight, hwork⟩
  · rw [hbetween.candidate] at hpending
    refine ⟨hsound.consistent.policy, hsound.consistent.admission,
      ⟨fun ⟨token, htoken⟩ => absurd htoken (hbetween.persistence token), ?_⟩,
      fun _ => ⟨hbetween.candidate, hpending⟩, fun _ _ _ _ h => ?_,
      fun token _ _ _ htoken => absurd htoken (hbetween.persistence token), ?_⟩
    · rintro ⟨candidate, hcandidate, -⟩
      rw [hbetween.candidate] at hcandidate
      cases hcandidate
    · exact queueAdmission_error hsound.consistent
        (fun token htoken => absurd htoken (hbetween.persistence token)) h
    · -- a worker that has something to finalize was overtaken
      intro transaction outcome hworker hnot
      rcases hrest with ⟨hidle, -⟩ | ⟨other, _, hother, hsuperseded⟩
      · rw [hworker] at hidle
        cases hidle
      · rw [hworker] at hother
        cases hother
        exact absurd hsuperseded hnot
  · rw [hflight.candidate] at hpending
    refine ⟨hsound.consistent.policy, hsound.consistent.admission,
      ⟨fun _ => ⟨_, hflight.candidate, hpending⟩, fun _ => ⟨_, hflight.persistence⟩⟩,
      fun hnot => absurd hflight.persistence (hnot _), fun _ _ _ _ h => ?_,
      fun _ _ _ _ _ h => hflight.control_error h, ?_⟩
    · refine queueAdmission_error hsound.consistent (fun _ _ hnone => ?_) h
      rw [hpending] at hnone
      cases hnone
    · intro other outcome hworker _
      have hsame : other = transaction := by
        rcases hwork with ⟨hprepared, -⟩ | ⟨_, hpersisted, -⟩
        · rw [hworker] at hprepared
          cases hprepared
        · rw [hworker] at hpersisted
          cases hpersisted
          rfl
      rw [hsame]
      exact ⟨hflight.persistence, hflight.previous⟩

end Runtime

/-- The engine with a transaction in flight. -/
theorem caches_coherent_sample :
    (∃ token, Sample.prepared.engine.learningPersistence = .inFlight token) ∧
      Sample.prepared.CachesCoherent Sample.json :=
  ⟨⟨1, by decide +kernel⟩,
    Runtime.Reachable.caches_coherent Sample.prepared_reachable (by decide +kernel)⟩

end OpenShield
