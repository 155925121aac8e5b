import OpenShield.Daemon.Transactions

/-!
# Learning transactions

What the calls of the learning worker do to the engine, and what `blockAll` does to a transaction
that it overtakes.
-/

namespace OpenShield

/-! ### Writing after the worker -/

namespace World

variable {w w' : World}

theorem WorkerStep.of_eq {u v : World} (h : w.WorkerStep u) (hworker : v.worker = u.worker)
    (hreservation : v.learningReservation = u.learningReservation) : w.WorkerStep v := by
  cases h with
  | still hw hr => exact .still (hworker.trans hw) (hreservation.trans hr)
  | wrote hp hw hr => exact .wrote hp (hworker.trans hw) (hreservation.trans hr)

theorem WorkerStep.after {u : World} (h : u.WorkerStep w') (hworker : u.worker = w.worker)
    (hreservation : u.learningReservation = w.learningReservation) : w.WorkerStep w' := by
  cases h with
  | still hw hr => exact .still (hw.trans hworker) (hr.trans hreservation)
  | wrote hp hw hr => exact .wrote (hworker.symm.trans hp) hw hr

theorem WorkerStep.persisted {transaction : ApplicationLearningTransaction}
    {outcome : LearningStoreOutcome} (h : w.WorkerStep w')
    (hworker : w.worker = .persisted transaction outcome) :
    w'.worker = .persisted transaction outcome := by
  cases h with
  | still hw hr => exact hw.trans hworker
  | wrote hp hw hr =>
    rw [hworker] at hp
    cases hp

theorem WorkerStep.written {transaction : ApplicationLearningTransaction} (h : w.WorkerStep w')
    (hworker : w.worker = .prepared transaction)
    (hreserved : w.learningReservation = some transaction.token)
    (hnone : w'.learningReservation = none) :
    ∃ outcome, w'.worker = .persisted transaction outcome := by
  cases h with
  | still hw hr =>
    rw [hnone, hreserved] at hr
    cases hr
  | wrote hp hw hr =>
    rw [hworker] at hp
    cases hp
    exact ⟨_, hw⟩

theorem saveExclusive_worker {state : State} {ok : Bool} (hcoherent : w.Coherent)
    (h : w.saveExclusive state = (ok, w')) :
    w.WorkerStep w' ∧ w'.learningReservation = none := by
  obtain ⟨-, hreservation, hworker, -⟩ := saveExclusive_spec h
  obtain ⟨hstep, hnone⟩ := waitUntilExclusive_spec hcoherent
  exact ⟨hstep.of_eq hworker hreservation, hreservation.trans hnone⟩

end World

namespace Runtime

theorem saveTwice_spec {w w' : World} {state : State} {ok : Bool} (hcoherent : w.Coherent)
    (h : saveTwice w state = (ok, w')) :
    w.FileStep w' ∧ w.WorkerStep w' ∧ w'.learningReservation = none ∧
      (ok = true → w'.disk = some state) := by
  unfold saveTwice at h
  rcases hfirst : w.saveExclusive state with ⟨first, w₁⟩
  obtain ⟨hstep₁, -, -, hdisk₁⟩ := World.saveExclusive_spec hfirst
  obtain ⟨hworker₁, hnone₁⟩ := World.saveExclusive_worker hcoherent hfirst
  simp only [hfirst] at h
  cases first with
  | true =>
    cases h
    exact ⟨hstep₁, hworker₁, hnone₁, hdisk₁⟩
  | false =>
    -- the second attempt finds nothing reserved
    obtain ⟨hstep₂, hreservation₂, hworker₂, hdisk₂⟩ := World.saveExclusive_spec h
    rw [World.waitUntilExclusive_of_none hnone₁] at hreservation₂ hworker₂
    exact ⟨hstep₁.trans hstep₂, hworker₁.of_eq hworker₂ hreservation₂,
      hreservation₂.trans hnone₁, hdisk₂⟩

/-! ### The first phase -/

/-- What the first phase leaves behind when it prepared a transaction. -/
structure Prepared (json : Serializer) (rt : Runtime) (transaction : ApplicationLearningTransaction)
    (rt' : Runtime) : Prop where
  healthy : rt.engine.poisoned = false
  persistence : rt.engine.learningPersistence = .active
  previous : transaction.previous = rt.engine.state
  changes : rt.engine.state.Changes transaction.events transaction.candidate
  valid : transaction.candidate.validate json = .ok ()
  learned : validateApplicationLearningTransition rt.engine.state transaction.candidate
    transaction.events = true
  engine : rt'.engine =
    { rt.engine with
      nextLearningTransaction := transaction.token
      pendingApplicationLearningAdmission :=
        some (.fromState transaction.candidate rt.engine.learningLimits)
      pendingApplicationLearningCandidate := some transaction.candidate
      pendingApplicationLearningEvents := transaction.events
      learningPersistence := .inFlight transaction.token }
  world : rt'.world = { rt.world with learningReservation := some transaction.token }

variable {rt rt' : Runtime} {json : Serializer}

theorem reserveTransaction_cases {candidate : State} {events : List Event}
    {result : Except ProtocolError (Option ApplicationLearningTransaction)}
    (h : reserveTransaction rt candidate events = (result, rt')) :
    (rt' = rt ∧ ∃ error, result = .error error) ∨
    ∃ token, result = .ok (some ⟨token, rt.engine.state, candidate, events⟩) ∧
      rt'.engine =
        { rt.engine with
          nextLearningTransaction := token
          pendingApplicationLearningAdmission :=
            some (.fromState candidate rt.engine.learningLimits)
          pendingApplicationLearningCandidate := some candidate
          pendingApplicationLearningEvents := events
          learningPersistence := .inFlight token } ∧
      rt'.world = { rt.world with learningReservation := some token } := by
  unfold reserveTransaction at h
  cases htoken : checkedSucc rt.engine.nextLearningTransaction with
  | none =>
    simp only [htoken] at h
    cases h
    exact .inl ⟨rfl, _, rfl⟩
  | some token =>
    simp only [htoken, World.reserveLearning] at h
    split_ifs at h
    · cases h
      exact .inr ⟨token, rfl, rfl, rfl⟩
    · cases h
      exact .inl ⟨rfl, _, rfl⟩

/-- The first phase prepares a transaction, or pauses learning because the state would become too
large, or does nothing. -/
theorem prepareApplicationLearning_cases {expectedFlowGeneration : BitVec 32}
    {endpoints : List LearnedApplicationEndpoint} {supply : Supply}
    {result : Except ProtocolError (Option ApplicationLearningTransaction)}
    (h : prepareApplicationLearning json rt expectedFlowGeneration endpoints supply =
      (result, rt')) :
    (rt' = rt ∧ ∀ transaction, result ≠ .ok (some transaction)) ∨
    (result = .ok none ∧ rt.engine.poisoned = false ∧
      rt' = ⟨{ rt.engine with learningPersistence := .paused }, rt.world⟩ ∧
      rt.engine.learningPersistence = .active) ∨
    ∃ transaction, result = .ok (some transaction) ∧ rt.Prepared json transaction rt' := by
  unfold prepareApplicationLearning at h
  split_ifs at h with hskip
  · cases h
    exact .inl ⟨rfl, nofun⟩
  simp only [not_or, not_not, Bool.not_eq_true] at hskip
  obtain ⟨hhealthy, hactive, -, -⟩ := hskip
  obtain ⟨outcomes, hlearns, hdone⟩ :=
    rt.engine.state.learnNewApplicationEndpointsWithLimits_learns
      ((endpoints.take MAX_RULES).filter fun endpoint => endpoint.validate.toBool)
      MAX_LEARNED_RULES_PER_POLL rt.engine.learningLimits supply
  obtain ⟨done, candidate, hlearn⟩ : ∃ done candidate,
      rt.engine.state.learnNewApplicationEndpointsWithLimits
        ((endpoints.take MAX_RULES).filter fun endpoint => endpoint.validate.toBool)
        MAX_LEARNED_RULES_PER_POLL rt.engine.learningLimits supply = (done, candidate) :=
    ⟨_, _, rfl⟩
  simp only [hlearn] at h hlearns hdone
  cases done with
  | error error =>
    cases h
    exact .inl ⟨rfl, nofun⟩
  | ok found =>
    obtain rfl := hdone found rfl
    simp only at h
    by_cases hempty : found.filterMap (·.event) = []
    · rw [if_pos hempty] at h
      cases h
      exact .inl ⟨rfl, nofun⟩
    rw [if_neg hempty] at h
    split at h
    · cases h
      exact .inr (.inl ⟨rfl, hhealthy, rfl, hactive⟩)
    · cases h
      exact .inl ⟨rfl, nofun⟩
    · next hvalid =>
      split_ifs at h with hlearned
      · rcases reserveTransaction_cases h with ⟨rfl, error, rfl⟩ | ⟨token, rfl, hengine, hworld⟩
        · exact .inl ⟨rfl, nofun⟩
        · exact .inr (.inr ⟨_, rfl, ⟨hhealthy, hactive, rfl, hlearns.changes, hvalid, hlearned,
            hengine, hworld⟩⟩)
      · cases h
        exact .inl ⟨rfl, nofun⟩

/-! ### The second phase -/

/-- The second phase drops an overtaken transaction, refuses, puts a written transaction in force,
drops one that was not written, or enters the emergency. -/
theorem finalizeApplicationLearning_cases {transaction : ApplicationLearningTransaction}
    {outcome : LearningStoreOutcome} {result : Except ProtocolError ℕ}
    (h : finalizeApplicationLearning json rt transaction outcome = (result, rt')) :
    (rt.engine.supersededLearningTransaction = some transaction.token ∧ result = .ok 0 ∧
      rt' = ⟨{ rt.engine with supersededLearningTransaction := none }, rt.world⟩) ∨
    (rt.engine.supersededLearningTransaction ≠ some transaction.token ∧
      (rt.engine.fatal = true ∨ rt.engine.poisoned = true) ∧ rt' = rt ∧
      ∃ error, result = .error error) ∨
    (rt.engine.supersededLearningTransaction ≠ some transaction.token ∧
      rt.engine.poisoned = false ∧
      (rt.engine.learningPersistence = .inFlight transaction.token ∧ outcome = .saved ∧
          result = .ok transaction.events.length ∧
          rt' = ⟨{ rt.engine.replaceState transaction.candidate with
            learningPersistence := .active },
            rt.world.clearCounterSnapshot.publishAll transaction.events⟩ ∨
        rt.engine.learningPersistence = .inFlight transaction.token ∧
          outcome = .previousRetained ∧ result = .ok 0 ∧
          rt' = ⟨{ rt.engine.clearPendingApplicationLearning with
            learningPersistence := .paused }, rt.world⟩ ∨
        (∃ error, result = .error error) ∧ rt' = enterEmergencyFailClosed json rt
          (maxRevision rt.engine.state.revision transaction.candidate.revision))) := by
  unfold finalizeApplicationLearning at h
  by_cases hsuperseded : rt.engine.supersededLearningTransaction = some transaction.token
  · rw [if_pos hsuperseded] at h
    cases h
    exact .inl ⟨hsuperseded, rfl, rfl⟩
  rw [if_neg hsuperseded] at h
  by_cases hpoisoned : rt.engine.fatal = true ∨ rt.engine.poisoned = true
  · rw [if_pos hpoisoned] at h
    cases h
    exact .inr (.inl ⟨hsuperseded, hpoisoned, rfl, _, rfl⟩)
  rw [if_neg hpoisoned] at h
  rw [not_or, Bool.not_eq_true, Bool.not_eq_true] at hpoisoned
  refine .inr (.inr ⟨hsuperseded, hpoisoned.2, ?_⟩)
  by_cases hstale : rt.engine.learningPersistence ≠ .inFlight transaction.token ∨
      rt.engine.state ≠ transaction.previous
  · simp only [if_pos hstale] at h
    cases h
    exact .inr (.inr ⟨⟨_, rfl⟩, rfl⟩)
  simp only [if_neg hstale] at h
  rw [not_or, not_not] at hstale
  cases outcome with
  | saved =>
    cases h
    exact .inl ⟨hstale.1, rfl, rfl, rfl⟩
  | previousRetained =>
    cases h
    exact .inr (.inl ⟨hstale.1, rfl, rfl, rfl⟩)
  | unsafeOutcome =>
    cases h
    exact .inr (.inr ⟨⟨_, rfl⟩, rfl⟩)

/-! ### Overtaking a transaction -/

theorem blockedCandidate_spec {pending blocked : State} {now : Timestamp} {event : Event}
    (h : blockedCandidate json pending now = .ok (blocked, event)) :
    pending.Changes [event] blocked ∧ blocked.validate json = .ok () ∧ blocked.mode = .blockAll ∧
      blocked.rules = pending.rules := by
  unfold blockedCandidate at h
  obtain ⟨⟨t, e⟩, hset, h⟩ := Except.bind_eq_ok_iff.mp h
  obtain ⟨hvalid, h⟩ := Except.bind_unit_eq_ok_iff.mp h
  cases h
  have hset := liftCore_eq_ok_iff.mp hset
  obtain ⟨generation, revision, -, -, rfl, -⟩ := State.setModeWithStrategyAt_eq_ok hset
  exact ⟨State.setModeAt_changes hset, liftCore_eq_ok_iff.mp hvalid, rfl, rfl⟩

/-- What an acknowledged `blockAll` leaves behind. -/
structure Overtaken (json : Serializer) (rt : Runtime) (token : BitVec 64) (pending : State)
    (revision : BitVec 64) (rt' : Runtime) : Prop where
  candidate : rt.engine.pendingApplicationLearningCandidate = some pending
  changes : ∃ event, pending.Changes [event] rt'.engine.state ∧
    rt'.world.published =
      rt.world.published ++ rt.engine.pendingApplicationLearningEvents ++ [event]
  valid : rt'.engine.state.validate json = .ok ()
  mode : rt'.engine.state.mode = .blockAll
  rules : rt'.engine.state.rules = pending.rules
  revision : revision = rt'.engine.state.revision
  engine : rt'.engine =
    { rt.engine.replaceState rt'.engine.state with
      supersededLearningTransaction := some token, learningPersistence := .active }
  kernel : rt'.world.kernel = blockAllSnapshot
  disk : rt'.world.disk = some rt'.engine.state

/-- What a `blockAll` leaves behind when it fails after the kernel was touched. -/
structure BlockFailed (rt : Runtime) (token : BitVec 64) (rt' : Runtime) : Prop where
  poisoned : rt'.engine.poisoned = true
  published : rt'.world.published = rt.world.published
  consistent : rt.engine.Consistent → rt'.engine.Consistent
  revision : (∀ pending, rt.engine.pendingApplicationLearningCandidate = some pending →
      rt.engine.state.revision ≤ pending.revision) →
    rt.engine.state.revision ≤ rt'.engine.state.revision
  superseded : rt'.engine.supersededLearningTransaction = rt.engine.supersededLearningTransaction ∨
    rt'.engine.supersededLearningTransaction = some token ∧ rt'.world.learningReservation = none

/-- A `blockAll` is refused, or acknowledged, or leaves a poisoned engine. -/
theorem commitBlockAllDuringLearning_cases {token : BitVec 64} {now : Timestamp}
    {result : Except ProtocolError (BitVec 64)} (hcoherent : rt.world.Coherent)
    (h : commitBlockAllDuringLearning json rt token now = (result, rt')) :
    (rt' = rt ∧ ∃ error, result = .error error) ∨
    (rt.world.WorkerStep rt'.world ∧
      rt.world.Ran (fun k => k = rt.world.kernel ∨ k = blockAllSnapshot) rt'.world ∧
      ((rt'.world.learningReservation = none ∧ ∃ pending revision, result = .ok revision ∧
          rt.Overtaken json token pending revision rt') ∨
        ((∃ error, result = .error error) ∧ rt.BlockFailed token rt'))) := by
  unfold commitBlockAllDuringLearning at h
  cases hpending : rt.engine.pendingApplicationLearningCandidate with
  | none =>
    simp only [hpending] at h
    cases h
    exact .inl ⟨rfl, _, rfl⟩
  | some pending =>
    cases hblocked : blockedCandidate json pending now with
    | error error =>
      simp only [hpending, hblocked] at h
      cases h
      exact .inl ⟨rfl, _, rfl⟩
    | ok found =>
      obtain ⟨blocked, event⟩ := found
      obtain ⟨hchanges, hvalid, hmode, hrules⟩ := blockedCandidate_spec hblocked
      rcases hclosed : rt.world.failClosed with ⟨ok, w₁⟩
      obtain ⟨hstep₁, hkernel⟩ := World.failClosed_spec hclosed
      have hran₁ : rt.world.Ran (fun k => k = rt.world.kernel ∨ k = blockAllSnapshot) w₁ :=
        World.failClosed_ran hclosed (.inl rfl) (.inr rfl)
      simp only [hpending, hblocked, hclosed] at h
      cases ok with
      | false =>
        cases h
        exact .inr ⟨.still hstep₁.worker hstep₁.learningReservation, hran₁,
          .inr ⟨⟨_, rfl⟩, rfl, hstep₁.published,
            fun h => ⟨h.wellFormed, h.policy, h.admission, hpending ▸ h.pending⟩,
              fun _ => BitVec.le_refl _, .inl rfl⟩⟩
      | true =>
        rcases hsave : saveTwice w₁ blocked with ⟨saved, w₂⟩
        obtain ⟨hstep₂, hworker₂, hnone, hdisk⟩ := saveTwice_spec
          (hcoherent.of_eq hstep₁.worker hstep₁.learningReservation) hsave
        have hworker := hworker₂.after hstep₁.worker hstep₁.learningReservation
        have hran := hran₁.trans (hstep₂.ran _)
        have hpublished := hstep₂.published.trans hstep₁.published
        simp only [hsave] at h
        cases saved with
        | true =>
          simp only [if_true, World.publishAll_eq, World.publish] at h
          cases h
          refine .inr ⟨hworker.of_eq rfl rfl, hran.trans (World.Ran.refl _ _), .inl ⟨hnone, pending,
            _, rfl, ⟨hpending, ⟨event, hchanges, ?_⟩, hvalid, hmode, hrules, rfl, rfl,
              hstep₂.kernel.trans (hkernel rfl), hdisk rfl⟩⟩⟩
          simp only [World.clearCounterSnapshot, hpublished]
        | false =>
          cases h
          exact .inr ⟨hworker, hran, .inr ⟨⟨_, rfl⟩, rfl, hpublished,
            fun _ => ⟨State.wellFormed_of_validate hvalid, rfl, rfl, rfl⟩,
            fun hle => BitVec.le_trans (hle pending hpending) hchanges.revision_le,
              .inr ⟨rfl, hnone⟩⟩⟩

end Runtime

end OpenShield
