import OpenShield.Daemon.Revocation
import OpenShield.Daemon.TwoPhase

/-!
# Packets in flight

Attribution is slow and takes no lock. The daemon reads the decision policy for a batch of
queued packets, attributes them while the engine goes on, and takes the lock again for each
verdict. The verdict is sent under the lock, so what the engine says then is what is in force
when the kernel acts on it.

An old decision is returned only if mode and generation are still those of its policy. Within a
generation policies only grow, and no decision of an older one is lost.
-/

namespace OpenShield

open ApplicationDecisionPolicy

/-! ### Decisions -/

def attributedIdentity (policy : ApplicationDecisionPolicy) (packet : Except String QueuedPacket)
    (resolved : Except String ApplicationIdentity) : Option ApplicationIdentity :=
  match packet with
  | .error _ => none
  | .ok packet =>
    match packetAttributionPlan policy packet with
    | .ok (.resolve _) => resolved.toOption
    | _ => none

section Decisions

variable {s : State} {packet : QueuedPacket} {identity : ApplicationIdentity}

theorem decision_of_networkFallback (hs : s.WellFormed) (hmode : s.mode = .enforcing)
    {connection : OutboundConnection} {rule : Rule}
    (hnone : s.applicationPolicy.enforcementCaptureRequirements connection = none)
    (hnetwork : s.applicationPolicy.matchingNetworkAccept connection = some rule) :
    s.applicationPolicy.decision connection identity = some .accept := by
  have hsnapshot : s.applicationPolicy.snapshot.mode = .enforcing := hmode
  simp only [ApplicationDecisionPolicy.decision, hsnapshot]
  rw [applicationPolicy_eq hs, if_pos hmode] at hnone hnetwork ⊢
  have hfallback := map_action_matchingNetworkAccept hs.validSnapshot.retained
    s.enforcementStrategy connection
  rw [hnetwork, Option.map_some] at hfallback
  rw [map_action_matchingRule, policyDecision_of_noCandidate hnone, ← hfallback]
  -- a fallback was found, so it accepts
  split at hfallback
  · exact hfallback
  · cases hfallback

theorem decision_of_noDeny (hmode : s.mode = .learning) {connection : OutboundConnection}
    (hs : s.WellFormed)
    (hnone : s.applicationPolicy.denyCaptureRequirements connection = none) :
    s.applicationPolicy.decision connection identity = some .accept := by
  have hsnapshot : s.applicationPolicy.snapshot.mode = .learning := hmode
  simp only [ApplicationDecisionPolicy.decision, hsnapshot]
  rw [applicationPolicy_eq hs] at hnone ⊢
  have hmiss : ∀ rule ∈ hs.validSnapshot.retained.rules,
      rule.spec.action = .drop ∨ rule.spec.action = .reject →
        applicationRuleNetworkAndUidMatches rule connection = false := by
    simpa [denyCaptureRequirements, captureRequirements, withEnforcementStrategy, new] using hnone
  have hdeny : denyDecision hs.validSnapshot.retained.toSnapshot connection identity = none := by
    have hmatches : hs.validSnapshot.retained.rules.filter (fun rule =>
        decide (rule.spec.action = .drop ∨ rule.spec.action = .reject) &&
          applicationRuleMatches rule connection identity) = [] := by
      refine List.filter_eq_nil_iff.mpr fun rule hrule hmatch => ?_
      rw [Bool.and_eq_true, decide_eq_true_eq] at hmatch
      simp [applicationRuleMatches, hmiss rule hrule hmatch.1] at hmatch
    rw [denyDecision, hmatches]
    rfl
  rw [map_action_matchingDenyRule, hdeny]
  rfl

/-- How a packet can be decided: in `learning` without a deny candidate, in `enforcing` by a
network fallback, and otherwise after its process was found. -/
theorem packetAttributionPlan_cases {policy : ApplicationDecisionPolicy}
    {plan : PacketAttributionPlan} (h : packetAttributionPlan policy packet = .ok plan) :
    packet.packetMark = applicationPendingMark packet.packetMark ∧
      policy.snapshot.mode ≠ .blockAll ∧
      ((∃ requirements, plan = .resolve requirements) ∨
        (plan = .acceptAndObserveLearning ∧ policy.snapshot.mode = .learning ∧
          policy.denyCaptureRequirements packet.connection = none) ∨
        (plan = .acceptNetworkFallback ∧ policy.snapshot.mode = .enforcing ∧
          policy.enforcementCaptureRequirements packet.connection = none ∧
          ∃ rule, policy.matchingNetworkAccept packet.connection = some rule)) := by
  unfold packetAttributionPlan at h
  by_cases hpending : packet.packetMark = applicationPendingMark packet.packetMark
  · rw [if_neg (not_not.mpr hpending)] at h
    refine ⟨hpending, fun hblock => by simp [hblock] at h, ?_⟩
    cases hmode : policy.snapshot.mode with
    | blockAll => simp [hmode] at h
    | learning =>
      simp only [hmode] at h
      split at h
      · next hnone =>
        cases h
        exact .inr (.inl ⟨rfl, rfl, hnone⟩)
      · cases h
        exact .inl ⟨_, rfl⟩
    | enforcing =>
      simp only [hmode] at h
      split at h
      · cases h
        exact .inl ⟨_, rfl⟩
      · next hnone =>
        split at h
        · next rule hrule =>
          cases h
          exact .inr (.inr ⟨rfl, rfl, hnone, rule, hrule⟩)
        · cases h
  · rw [if_pos hpending] at h
    cases h

theorem authorizeAttributedPacket_spec {policy : ApplicationDecisionPolicy}
    {observe : Except String (Option String)} {authorization : PacketAuthorization}
    (h : authorizeAttributedPacket policy packet identity observe = .ok authorization) :
    ∃ action observationError, authorization = .on policy packet action observationError false ∧
      policy.decision packet.connection identity = some action := by
  unfold authorizeAttributedPacket at h
  unfold ApplicationDecisionPolicy.decision
  cases hmode : policy.snapshot.mode with
  | blockAll => simp [hmode] at h
  | enforcing =>
    simp only [hmode] at h ⊢
    split at h
    · next rule hrule =>
      cases h
      exact ⟨_, _, rfl, by rw [hrule]; rfl⟩
    · cases h
  | learning =>
    simp only [hmode] at h ⊢
    split at h
    · next rule hrule =>
      cases h
      exact ⟨_, _, rfl, by rw [hrule]; rfl⟩
    · next hnone =>
      split at h
      · cases h
        exact ⟨_, _, rfl, by rw [hnone]; rfl⟩
      · cases h

/-- An accepting decision is one of the policy it was taken on: for the process that was found,
and for every process if none was asked for. -/
theorem decidePacket_accepts (hs : s.WellFormed) {resolved : Except String ApplicationIdentity}
    {observe : Except String (Option String)} {authorization : PacketAuthorization}
    (h : decidePacket s.applicationPolicy (.ok packet) (fun _ _ => resolved) observe =
      .ok authorization) :
    s.mode ≠ .blockAll ∧ authorization.mode = s.mode ∧
      authorization.flowGeneration = s.flowGeneration ∧
      (authorization.action = .accept → ∀ identity,
        (∀ i, attributedIdentity s.applicationPolicy (.ok packet) resolved = some i →
          i = identity) →
        s.applicationPolicy.decision packet.connection identity = some .accept) := by
  simp only [decidePacket] at h
  cases hplan : packetAttributionPlan s.applicationPolicy packet with
  | error error => simp [hplan] at h
  | ok plan =>
    simp only [hplan] at h
    obtain ⟨-, hblock, ⟨requirements, rfl⟩ | ⟨rfl, hmode, hnone⟩ |
      ⟨rfl, hmode, hnone, rule, hrule⟩⟩ := packetAttributionPlan_cases hplan
    · cases resolved with
      | error message => cases h
      | ok found =>
        obtain ⟨action, observationError, rfl, hdecision⟩ := authorizeAttributedPacket_spec h
        refine ⟨hblock, rfl, rfl, fun haccept identity hidentity => ?_⟩
        rw [← hidentity found (by simp [attributedIdentity, hplan, Except.toOption]), hdecision]
        exact congrArg some haccept
    · cases h
      exact ⟨hblock, rfl, rfl, fun _ identity _ => decision_of_noDeny hmode hs hnone⟩
    · cases h
      exact ⟨hblock, rfl, rfl, fun _ identity _ => decision_of_networkFallback hs hmode hnone hrule⟩

end Decisions

/-! ### The packets that the daemon works on -/

/-- How far a packet has come. -/
inductive PacketStage
  | queued
  | attributing (policy : ApplicationDecisionPolicy)
  | decided (identity : Option ApplicationIdentity)
      (decision : Except DecisionError PacketAuthorization)

/-- A packet between its arrival and its verdict. -/
structure PacketWork where
  packet : Except String QueuedPacket
  stage : PacketStage

structure Returned where
  packet : Except String QueuedPacket
  identity : Option ApplicationIdentity
  decision : Except DecisionError PacketAuthorization
  engine : Engine
  verdict : PacketVerdict

/-- The engine, the packets of the application queue, and the verdicts about them. -/
structure PacketSystem where
  runtime : Runtime
  stopping : Bool
  work : BitVec 32 → Option PacketWork
  returned : List Returned

/-- What happens around the application queue. Results of attribution and of learning
observations are arbitrary. -/
inductive PacketAction
  | engine (action : Action)
  | enqueue (id : BitVec 32) (packet : Except String QueuedPacket)
  /-- A batch reads the decision policy. -/
  | capture (ids : List (BitVec 32))
  | decide (id : BitVec 32) (resolved : Except String ApplicationIdentity)
      (observe : Except String (Option String))
  | answer (id : BitVec 32)
  | stop

namespace PacketSystem

def start (runtime : Runtime) : PacketSystem := ⟨runtime, false, fun _ => none, []⟩

variable (json : Serializer)

def quarantineEngine (sys : PacketSystem) : PacketSystem :=
  { sys with runtime := Runtime.quarantineAfterRuntimeFailure json sys.runtime, stopping := true }

def advanceTo (sys : PacketSystem) (id : BitVec 32) (work : PacketWork) (stage : PacketStage) :
    PacketSystem :=
  { sys with work := Function.update sys.work id (some { work with stage }) }

def unreadable (message : String) (work : PacketWork) : PacketStage :=
  .decided none (.error (match work.packet with
    | .ok _ => .engine message
    | .error malformed => .malformed malformed))

def captureBatch (sys : PacketSystem) (ids : List (BitVec 32)) (stage : PacketWork → PacketStage) :
    PacketSystem :=
  { sys with
    work := fun id => (sys.work id).map fun work =>
      match work.stage with
      | .queued => if id ∈ ids then { work with stage := stage work } else work
      | _ => work }

def engineFailed : Except DecisionError PacketAuthorization → Bool
  | .error (.engine _) => true
  | _ => false

variable (strategy : QueueVerdictStrategy)

def answer (sys : PacketSystem)
    (id : BitVec 32) (packet : Except String QueuedPacket)
    (identity : Option ApplicationIdentity)
    (decision : Except DecisionError PacketAuthorization) : PacketSystem :=
  let engine := sys.runtime.engine
  let current := engine.applicationDecisionIdentity.mapError (·.message)
  let verdict := returnPacketVerdict decision current sys.stopping strategy
  let sys :=
    { sys with
      work := Function.update sys.work id none
      returned := sys.returned ++ [{ packet, identity, decision, engine, verdict }] }
  if verdict.quarantine then sys.quarantineEngine json else sys

def step (sys : PacketSystem) :
    PacketAction → PacketSystem
  | .engine action => { sys with runtime := sys.runtime.step json action }
  | .enqueue id packet =>
    match sys.work id with
    | none => { sys with work := Function.update sys.work id (some ⟨packet, .queued⟩) }
    -- identifiers of packets in flight are not reused
    | some _ => sys
  | .capture ids =>
    match sys.runtime.engine.applicationDecisionSnapshot with
    | .ok policy => sys.captureBatch ids fun _ => .attributing policy
    | .error error => (sys.captureBatch ids (unreadable error.message)).quarantineEngine json
  | .decide id resolved observe =>
    match sys.work id with
    | some work =>
      match work.stage with
      | .attributing policy =>
        let decision := decidePacket policy work.packet (fun _ _ => resolved) observe
        let identity := attributedIdentity policy work.packet resolved
        let sys := sys.advanceTo id work (.decided identity decision)
        if engineFailed decision then sys.quarantineEngine json else sys
      | _ => sys
    | none => sys
  | .answer id =>
    match sys.work id with
    | some ⟨packet, .decided identity decision⟩ =>
      sys.answer json strategy id packet identity decision
    | _ => sys
  | .stop => { sys with stopping := true }

def run (sys : PacketSystem)
    (actions : List PacketAction) : PacketSystem :=
  actions.foldl (step json strategy) sys

end PacketSystem

/-! ### The invariant -/

section Captured

variable {json : Serializer} {rt rt' : Runtime} {s : State}

/-- A state whose policy may still be in use: unless the engine failed, it went on from it. -/
structure Captured (engine : Engine) (s : State) : Prop where
  wellFormed : s.WellFormed
  follows : engine.poisoned = false → s.Follows engine.state

theorem Captured.now (h : rt.Sound json) : Captured rt.engine rt.engine.state :=
  ⟨h.consistent.wellFormed, fun _ => State.Follows.refl _⟩

theorem Captured.step (h : Captured rt.engine s) (hprogress : rt.Progress json rt') :
    Captured rt'.engine s := by
  refine ⟨h.wellFormed, fun hhealthy => ?_⟩
  have hbefore := h.follows (hprogress.healthy hhealthy)
  cases hprogress.move with
  | stay published state =>
    rcases state with hpoisoned | hsame
    · rw [hpoisoned] at hhealthy
      cases hhealthy
    · rw [hsame]
      exact hbefore
  | change healthy published changes learned => exact hbefore.trans changes.follows

end Captured

def DecidedOn (engine : Engine) (packet : Except String QueuedPacket)
    (identity : Option ApplicationIdentity)
    (decision : Except DecisionError PacketAuthorization) : Prop :=
  ∀ authorization, decision = .ok authorization → ∃ s queued, packet = .ok queued ∧
    Captured engine s ∧ s.mode ≠ .blockAll ∧ authorization.mode = s.mode ∧
    authorization.flowGeneration = s.flowGeneration ∧
    (authorization.action = .accept → ∀ i, (∀ j, identity = some j → j = i) →
      s.applicationPolicy.decision queued.connection i = some .accept)

theorem DecidedOn.step {json : Serializer} {rt rt' : Runtime} {packet : Except String QueuedPacket}
    {identity : Option ApplicationIdentity} {decision : Except DecisionError PacketAuthorization}
    (h : DecidedOn rt.engine packet identity decision) (hprogress : rt.Progress json rt') :
    DecidedOn rt'.engine packet identity decision := by
  intro authorization hauthorization
  obtain ⟨s, queued, hpacket, hcaptured, hrest⟩ := h authorization hauthorization
  exact ⟨s, queued, hpacket, hcaptured.step hprogress, hrest⟩

def PacketWork.Sound (engine : Engine) (work : PacketWork) : Prop :=
  match work.stage with
  | .queued => True
  | .attributing policy => ∃ s, Captured engine s ∧ policy = s.applicationPolicy
  | .decided identity decision => DecidedOn engine work.packet identity decision

/-- What holds of a verdict when it is returned: an accept is one of the policy in force, and a
decision of another mode or generation is not returned. -/
structure Returned.Current (entry : Returned) : Prop where
  policy : entry.engine.applicationPolicy = entry.engine.state.applicationPolicy
  wellFormed : entry.engine.state.WellFormed
  accepted : entry.verdict.accepted = true → ∃ queued, entry.packet = .ok queued ∧
    entry.engine.poisoned = false ∧ entry.engine.fatal = false ∧
    entry.engine.state.mode ≠ .blockAll ∧ ∀ i, (∀ j, entry.identity = some j → j = i) →
      entry.engine.state.applicationPolicy.decision queued.connection i = some .accept
  stale : ∀ authorization, entry.decision = .ok authorization →
    ¬(authorization.mode = entry.engine.state.mode ∧
      authorization.flowGeneration = entry.engine.state.flowGeneration) →
    entry.verdict.verdict = .drop

structure PacketSystem.Sound (json : Serializer) (sys : PacketSystem) : Prop where
  runtime : sys.runtime.Sound json
  work : ∀ id work, sys.work id = some work → work.Sound sys.runtime.engine
  returned : ∀ entry ∈ sys.returned, entry.Current

section Verdicts

variable {decision : Except DecisionError PacketAuthorization} {stopping : Bool}
  {strategy : QueueVerdictStrategy}

theorem returnPacketVerdict_accepted {current : Except String (Mode × BitVec 32)}
    (h : (returnPacketVerdict decision current stopping strategy).accepted = true) :
    ∃ authorization, decision = .ok authorization ∧
      current = .ok (authorization.mode, authorization.flowGeneration) ∧
      authorization.action = .accept := by
  unfold returnPacketVerdict at h
  cases decision with
  | error error => cases h
  | ok authorization =>
    cases current with
    | error message => cases h
    | ok identity =>
      obtain ⟨mode, generation⟩ := identity
      simp only at h
      split at h
      · next hvalid =>
        simp only [authorizationRemainsValid, Bool.and_eq_true, decide_eq_true_eq] at hvalid h
        exact ⟨authorization, rfl, by rw [hvalid.1.2, hvalid.2], h⟩
      · cases h

theorem returnPacketVerdict_stale {authorization : PacketAuthorization}
    {current : Except String (Mode × BitVec 32)}
    (h : current ≠ .ok (authorization.mode, authorization.flowGeneration)) :
    (returnPacketVerdict (.ok authorization) current stopping strategy).verdict = .drop := by
  unfold returnPacketVerdict
  cases current with
  | error message => rfl
  | ok identity =>
    obtain ⟨mode, generation⟩ := identity
    have hnot : authorizationRemainsValid authorization mode generation stopping = false := by
      rw [← Bool.not_eq_true]
      intro hvalid
      simp only [authorizationRemainsValid, Bool.and_eq_true, decide_eq_true_eq] at hvalid
      exact h (by rw [hvalid.1.2, hvalid.2])
    simp only [hnot, Bool.false_eq_true, if_false]
    rfl

theorem applicationDecisionIdentity_eq_ok {engine : Engine} {mode : Mode} {generation : BitVec 32}
    (h : engine.applicationDecisionIdentity.mapError (·.message) = .ok (mode, generation)) :
    engine.poisoned = false ∧ engine.fatal = false ∧ engine.state.mode = mode ∧
      engine.state.flowGeneration = generation := by
  unfold Engine.applicationDecisionIdentity at h
  split at h
  · cases h
  · next hhealthy =>
    cases h
    simp only [Bool.or_eq_true, not_or, Bool.not_eq_true] at hhealthy
    exact ⟨hhealthy.2, hhealthy.1, rfl, rfl⟩

end Verdicts

namespace PacketSystem

variable {json : Serializer} {strategy : QueueVerdictStrategy} {sys : PacketSystem}

/-- A step of the engine keeps what is known about packets and verdicts. -/
theorem Sound.advance (h : sys.Sound json) {rt' : Runtime}
    (hadvances : sys.runtime.Advances json rt') : Sound json { sys with runtime := rt' } := by
  refine ⟨hadvances.1, fun id work hwork => ?_, h.returned⟩
  have hsound := h.work id work hwork
  unfold PacketWork.Sound at hsound ⊢
  cases hstage : work.stage with
  | queued => trivial
  | attributing policy =>
    simp only [hstage] at hsound ⊢
    obtain ⟨s, hcaptured, hpolicy⟩ := hsound
    exact ⟨s, hcaptured.step hadvances.2, hpolicy⟩
  | decided identity decision =>
    simp only [hstage] at hsound ⊢
    exact hsound.step hadvances.2

theorem Sound.quarantine (h : sys.Sound json) : (sys.quarantineEngine json).Sound json := by
  obtain ⟨hruntime, hwork, hreturned⟩ := h.advance (Runtime.quarantine_advances h.runtime)
  exact ⟨hruntime, hwork, hreturned⟩

theorem Sound.update (h : sys.Sound json) (id : BitVec 32) {work : Option PacketWork}
    (hwork : ∀ w, work = some w → w.Sound sys.runtime.engine) :
    Sound json { sys with work := Function.update sys.work id work } :=
  ⟨h.runtime, (Function.forall_update_iff _ fun _ work => ∀ w : PacketWork, work = some w →
    w.Sound sys.runtime.engine).mpr ⟨hwork, fun other _ => h.work other⟩, h.returned⟩

theorem Sound.captureBatch (h : sys.Sound json) (ids : List (BitVec 32))
    {stage : PacketWork → PacketStage}
    (hstage : ∀ work : PacketWork, PacketWork.Sound sys.runtime.engine { work with stage := stage work }) :
    (sys.captureBatch ids stage).Sound json := by
  refine ⟨h.runtime, fun id work hwork => ?_, h.returned⟩
  obtain ⟨before, hbefore, rfl⟩ := Option.map_eq_some_iff.mp hwork
  split
  · split
    · exact hstage before
    · exact h.work id before hbefore
  · exact h.work id before hbefore

/-- What is returned under the lock is current. -/
theorem Sound.answer (h : sys.Sound json) {id : BitVec 32} {packet : Except String QueuedPacket}
    {identity : Option ApplicationIdentity} {decision : Except DecisionError PacketAuthorization}
    (hdecided : DecidedOn sys.runtime.engine packet identity decision) :
    (sys.answer json strategy id packet identity decision).Sound json := by
  have hcurrent : Returned.Current
      { packet, identity, decision
        engine := sys.runtime.engine
        verdict := returnPacketVerdict decision
          (sys.runtime.engine.applicationDecisionIdentity.mapError (·.message)) sys.stopping
          strategy } := by
    refine ⟨h.runtime.consistent.policy, h.runtime.consistent.wellFormed, fun haccepted => ?_,
      fun authorization hauthorization hstale => ?_⟩
    · obtain ⟨authorization, hauthorization, hidentity, haccept⟩ :=
        returnPacketVerdict_accepted haccepted
      obtain ⟨hhealthy, halive, hmode, hgeneration⟩ := applicationDecisionIdentity_eq_ok hidentity
      obtain ⟨s, queued, hpacket, hcaptured, hblock, hmode', hgeneration', hdecision⟩ :=
        hdecided authorization hauthorization
      -- the decision lasts, because mode and generation are those of its policy
      have hmode := hmode.trans hmode'
      exact ⟨queued, hpacket, hhealthy, halive, hmode ▸ hblock, fun i hi =>
        decision_of_follows hcaptured.wellFormed (hcaptured.follows hhealthy)
          (hgeneration.trans hgeneration') hmode (hdecision haccept i hi)⟩
    · simp only at hauthorization
      subst hauthorization
      refine returnPacketVerdict_stale fun hidentity => hstale ?_
      obtain ⟨-, -, hmode, hgeneration⟩ := applicationDecisionIdentity_eq_ok hidentity
      exact ⟨hmode.symm, hgeneration.symm⟩
  have hreturned : Sound json { sys with work := Function.update sys.work id none } :=
    h.update id fun w hw => by cases hw
  have hlogged : Sound json
      { sys with
        work := Function.update sys.work id none
        returned := sys.returned ++ [_] } :=
    ⟨hreturned.runtime, hreturned.work, fun entry hentry => by
      rcases List.mem_append.mp hentry with hold | hnew
      · exact h.returned entry hold
      · rw [List.mem_singleton.mp hnew]
        exact hcurrent⟩
  unfold PacketSystem.answer
  simp only
  split
  · exact hlogged.quarantine
  · exact hlogged

theorem step_sound (h : sys.Sound json) (action : PacketAction) :
    (sys.step json strategy action).Sound json := by
  cases action with
  | engine action => exact h.advance (Runtime.step_advances h.runtime action)
  | enqueue id packet =>
    simp only [step]
    split
    · exact h.update id fun w hw => by cases hw; trivial
    · exact h
  | capture ids =>
    simp only [step]
    split
    · next policy hpolicy =>
      -- what the batch reads is the policy of the state
      have hstate : policy = sys.runtime.engine.state.applicationPolicy := by
        unfold Engine.applicationDecisionSnapshot at hpolicy
        split at hpolicy
        · cases hpolicy
        · cases hpolicy
          exact h.runtime.consistent.policy
      exact h.captureBatch ids fun work => ⟨_, .now h.runtime, hstate⟩
    · next error herror =>
      have hunreadable : (sys.captureBatch ids (unreadable error.message)).Sound json := by
        refine h.captureBatch ids fun work => ?_
        intro authorization hauthorization
        cases hauthorization
      exact hunreadable.quarantine
  | decide id resolved observe =>
    simp only [step]
    split
    · next work hwork =>
      split
      · next policy hstage =>
        have hsound := h.work id work hwork
        simp only [PacketWork.Sound, hstage] at hsound
        obtain ⟨s, hcaptured, rfl⟩ := hsound
        have hdecided : Sound json (sys.advanceTo id work
            (.decided (attributedIdentity s.applicationPolicy work.packet resolved)
              (decidePacket s.applicationPolicy work.packet (fun _ _ => resolved) observe))) := by
          refine h.update id fun w hw => ?_
          cases hw
          intro authorization hauthorization
          cases hpacket : work.packet with
          | error message =>
            rw [hpacket] at hauthorization
            cases hauthorization
          | ok queued =>
            rw [hpacket] at hauthorization
            exact ⟨s, queued, rfl, hcaptured,
              decidePacket_accepts hcaptured.wellFormed hauthorization⟩
        split
        · exact hdecided.quarantine
        · exact hdecided
      · exact h
    · exact h
  | answer id =>
    simp only [step]
    split
    · next packet identity decision hwork => exact h.answer (h.work id _ hwork)
    · exact h
  | stop => exact ⟨h.runtime, h.work, h.returned⟩

/-- Whatever happens around the queue, the engine goes on as its calls allow. -/
theorem step_advances (h : sys.Sound json) (action : PacketAction) :
    sys.runtime.Advances json (sys.step json strategy action).runtime := by
  have hstay : sys.runtime.Advances json sys.runtime := ⟨h.runtime, .refl _⟩
  have hfailed : sys.runtime.Advances json (sys.quarantineEngine json).runtime :=
    Runtime.quarantine_advances h.runtime
  cases action with
  | engine action => exact Runtime.step_advances h.runtime action
  | enqueue id packet =>
    simp only [step]
    split <;> exact hstay
  | capture ids =>
    simp only [step]
    split
    · exact hstay
    · exact hfailed
  | decide id resolved observe =>
    simp only [step]
    split
    · split
      · split
        · exact hfailed
        · exact hstay
      · exact hstay
    · exact hstay
  | answer id =>
    simp only [step]
    split
    · unfold PacketSystem.answer
      simp only
      split
      · exact hfailed
      · exact hstay
    · exact hstay
  | stop => exact hstay

/-- Verdicts are never taken back. -/
theorem returned_step (action : PacketAction) :
    ∀ entry ∈ sys.returned, entry ∈ (sys.step json strategy action).returned := by
  intro entry hentry
  cases action with
  | engine action => exact hentry
  | enqueue id packet =>
    simp only [step]
    split <;> exact hentry
  | capture ids =>
    simp only [step]
    split <;> exact hentry
  | decide id resolved observe =>
    simp only [step]
    split
    · split
      · split <;> exact hentry
      · exact hentry
    · exact hentry
  | answer id =>
    simp only [step]
    split
    · unfold PacketSystem.answer
      simp only
      split <;> exact List.mem_append_left _ hentry
    · exact hentry
  | stop => exact hentry

def returning (strategy : QueueVerdictStrategy) (sys : PacketSystem) (id : BitVec 32) :
    Option Returned :=
  match sys.work id with
  | some ⟨packet, .decided identity decision⟩ =>
    let engine := sys.runtime.engine
    some { packet, identity, decision, engine
           verdict := returnPacketVerdict decision
             (engine.applicationDecisionIdentity.mapError (·.message)) sys.stopping strategy }
  | _ => none

theorem returned_answer {id : BitVec 32} {entry : Returned}
    (h : sys.returning strategy id = some entry) :
    (sys.step json strategy (.answer id)).returned = sys.returned ++ [entry] := by
  unfold returning at h
  split at h
  · next packet identity decision hwork =>
    cases h
    simp only [step, hwork, PacketSystem.answer]
    split <;> rfl
  · cases h

theorem engine_returning {id : BitVec 32} {entry : Returned}
    (h : sys.returning strategy id = some entry) :
    entry.engine = sys.runtime.engine ∧ entry.verdict = returnPacketVerdict entry.decision
      (sys.runtime.engine.applicationDecisionIdentity.mapError (·.message)) sys.stopping
      strategy := by
  unfold returning at h
  split at h
  · cases h
    exact ⟨rfl, rfl⟩
  · cases h

theorem run_sound (h : sys.Sound json) (strategy : QueueVerdictStrategy) (actions : List PacketAction) :
    (sys.run json strategy actions).Sound json := by
  induction actions generalizing sys with
  | nil => exact h
  | cons action rest ih => exact ih (step_sound h action)

theorem start_sound {rt : Runtime} (h : rt.Sound json) : (start rt).Sound json :=
  ⟨h, fun id work hwork => (by cases hwork), fun entry hentry => absurd hentry List.not_mem_nil⟩

end PacketSystem

/-! ### Accepting verdicts -/

theorem no_deny_of_decision {s : State} (hs : s.WellFormed) (hmode : s.mode = .learning)
    {connection : OutboundConnection} {identity : ApplicationIdentity}
    (h : s.applicationPolicy.decision connection identity = some .accept) :
    ∀ rule ∈ s.rules.values, applicationRuleMatches rule connection identity = true →
      rule.spec.action = .accept := by
  rw [decision_learning hs hmode, denyDecision_eq, Option.some.injEq] at h
  have hnot (action : RuleAction) (rule : Rule) (hrule : rule ∈ s.rules.values)
      (hmatch : applicationRuleMatches rule connection identity = true)
      (haction : rule.spec.action = action) :
      applicationAction s.snapshot.rules connection identity action = true :=
    List.any_eq_true.mpr ⟨rule, hrule, by simp [hmatch, haction]⟩
  intro rule hrule hmatch
  cases haction : rule.spec.action with
  | accept => rfl
  | drop => simp [decisionOf, hnot .drop rule hrule hmatch haction] at h
  | reject =>
    cases hdrops : applicationAction s.snapshot.rules connection identity .drop <;>
      simp [decisionOf, hdrops, hnot .reject rule hrule hmatch haction] at h

/-- No stale accept. However packets, batches, requests, learning and failures interleave, an
accepting verdict is one of the policy in force when it is sent, for the process that was found,
or for every process if none was asked for. The engine is then healthy and not in `blockAll`. A
decision of another mode or generation is dropped. -/
theorem no_stale_accept {json : Serializer} {rt : Runtime} (h : rt.Reachable json)
    (strategy : QueueVerdictStrategy) (actions : List PacketAction) :
    ∀ entry ∈ ((PacketSystem.start rt).run json strategy actions).returned,
      (entry.verdict.accepted = true → ∃ queued, entry.packet = .ok queued ∧
        entry.engine.poisoned = false ∧ entry.engine.fatal = false ∧
        entry.engine.state.mode ≠ .blockAll ∧
        ∀ identity, (∀ found, entry.identity = some found → found = identity) →
          (entry.engine.state.mode = .enforcing → ∃ rule,
            entry.engine.applicationPolicy.matchingRule queued.connection identity = some rule ∧
              rule.spec.action = .accept) ∧
          (entry.engine.state.mode = .learning →
            ∀ rule ∈ entry.engine.state.rules.values,
              applicationRuleMatches rule queued.connection identity = true →
                rule.spec.action = .accept)) ∧
      ∀ authorization, entry.decision = .ok authorization →
        (authorization.mode ≠ entry.engine.state.mode ∨
          authorization.flowGeneration ≠ entry.engine.state.flowGeneration) →
        entry.verdict.verdict = .drop := by
  intro entry hentry
  have hcurrent := (PacketSystem.run_sound (PacketSystem.start_sound h.sound) strategy
    actions).returned entry hentry
  refine ⟨fun haccepted => ?_, fun authorization hauthorization hstale => ?_⟩
  · obtain ⟨queued, hpacket, hhealthy, halive, hblock, hdecision⟩ := hcurrent.accepted haccepted
    have hsnapshot : entry.engine.state.applicationPolicy.snapshot.mode =
        entry.engine.state.mode := rfl
    refine ⟨queued, hpacket, hhealthy, halive, hblock, fun identity hidentity => ⟨?_, ?_⟩⟩
    · intro hmode
      have haccept := hdecision identity hidentity
      simp only [ApplicationDecisionPolicy.decision, hsnapshot, hmode] at haccept
      rw [hcurrent.policy]
      obtain ⟨rule, hrule, haction⟩ := Option.map_eq_some_iff.mp haccept
      exact ⟨rule, hrule, haction⟩
    · exact fun hmode => no_deny_of_decision hcurrent.wellFormed hmode (hdecision identity hidentity)
  · exact hcurrent.stale authorization hauthorization fun hsame =>
      hstale.elim (fun hmode => hmode hsame.1) fun hgeneration => hgeneration hsame.2

namespace Sample

def queued : QueuedPacket :=
  { connection :=
      { sourceAddress := .v4 1
        sourcePort := some 1
        destinationAddress := .v4 2
        destinationPort := some 2
        protocol := .tcp
        outputInterface := ⟨"e", Sample.accepts_e⟩
        socketUid := 0 }
    packetMark := APPLICATION_PENDING_DOMAIN }

/-- Two packets of one batch; everything is blocked between their verdicts. -/
def packetActions : List PacketAction :=
  [.enqueue 1 (.ok queued), .enqueue 2 (.ok queued), .capture [1, 2],
    .decide 1 (.error "") (.ok none), .decide 2 (.error "") (.ok none), .answer 1,
    .engine (.control ⟨supply, fun _ _ => .error ""⟩ (.setMode 1 .blockAll)), .answer 2]

def packetVerdicts : List Returned :=
  ((PacketSystem.start prepared).run json .accept packetActions).returned

end Sample

/-- The first packet of the sample is accepted before everything is blocked; the second one was
decided with it and is dropped. -/
theorem no_stale_accept_sample :
    (Sample.packetVerdicts.map fun entry => (entry.verdict.accepted, entry.verdict.verdict)) =
        [(true, .accept), (false, .drop)] ∧
      ∀ entry ∈ Sample.packetVerdicts, entry.verdict.accepted = true →
        entry.engine.state.mode ≠ .blockAll := by
  refine ⟨by decide +kernel, fun entry hentry haccepted => ?_⟩
  obtain ⟨-, -, -, -, hblock, -⟩ := (no_stale_accept Sample.prepared_reachable .accept
    Sample.packetActions entry hentry).1 haccepted
  exact hblock

end OpenShield
