import OpenShield.Core.Validity
import OpenShield.Daemon.Nfqueue
import OpenShield.Data.FirstMatch

/-!
# What a decision policy decides

The decision policy looks rules up in an index and returns the rule that wins. Here its answer
is described on the rules of the snapshot alone, and the daemon's verdict about a packet is
shown to carry exactly that answer.
-/

namespace OpenShield

open ApplicationDecisionPolicy
open Netfilter (Answer)

def strongestAction (rules : List Rule) : Option RuleAction :=
  if rules.any (fun r => decide (r.spec.action = .drop)) then some .drop
  else if rules.any (fun r => decide (r.spec.action = .reject)) then some .reject
  else if rules.any (fun r => decide (r.spec.action = .accept)) then some .accept
  else none

theorem map_action_argmin (rules : List Rule) :
    (rules.argmin decisionKey).map (·.spec.action) = strongestAction rules := by
  cases hmin : rules.argmin decisionKey with
  | none =>
    rw [List.argmin_eq_none.mp hmin]
    rfl
  | some r =>
    have hmem : r ∈ rules := List.argmin_mem (Option.mem_def.mpr hmin)
    have hany : rules.any (fun x => decide (x.spec.action = r.spec.action)) = true :=
      List.any_eq_true.mpr ⟨r, hmem, by simp⟩
    -- no rule has a stronger action than the least one
    have hnone (action : RuleAction)
        (hlt : ruleActionPriority action < ruleActionPriority r.spec.action) :
        rules.any (fun x => decide (x.spec.action = action)) = false := by
      refine List.any_eq_false.mpr fun x hx => ?_
      have hle := ruleActionPriority_le_of_key_le
        (List.le_of_mem_argmin hx (Option.mem_def.mpr hmin))
      intro heq
      rw [of_decide_eq_true heq] at hle
      omega
    unfold strongestAction
    rw [Option.map_some]
    cases haction : r.spec.action with
    | drop => rw [haction] at hany; rw [hany]; rfl
    | reject =>
      rw [haction] at hany hnone
      rw [hnone .drop (by decide), hany]
      rfl
    | accept =>
      rw [haction] at hany hnone
      rw [hnone .drop (by decide), hnone .reject (by decide), hany]
      rfl

theorem map_action_argmin_accepts (matches' : Rule → Bool) {β : Type} [LinearOrder β]
    (key : Rule → β) (haccept : ∀ rule, matches' rule = true → rule.spec.action = .accept)
    (rules : List Rule) :
    ((rules.filter matches').argmin key).map (·.spec.action) =
      if rules.any matches' then some .accept else none := by
  cases hmin : (rules.filter matches').argmin key with
  | none =>
    have hnone : rules.any matches' = false := by
      simpa [List.any_eq_false, List.filter_eq_nil_iff] using List.argmin_eq_none.mp hmin
    simp [hnone]
  | some r =>
    obtain ⟨hmem, hmatch⟩ := List.mem_filter.mp (List.argmin_mem (Option.mem_def.mpr hmin))
    rw [if_pos (List.any_eq_true.mpr ⟨r, hmem, hmatch⟩), Option.map_some, haccept r hmatch]

/-- What a policy decides about a connection of a known process in `enforcing`. -/
def policyDecision (snapshot : Snapshot) (strategy : EnforcementStrategy)
    (connection : OutboundConnection) (identity : ApplicationIdentity) : Option RuleAction :=
  match (snapshot.rules.filter fun rule =>
      applicationRuleMatches rule connection identity).argmin decisionKey with
  | some rule => some rule.spec.action
  | none =>
    if strategy = .fast ∧ snapshot.rules.any
        (fun rule => fastLearnedAcceptRuleMatches rule connection identity) = true then
      some .accept
    else if snapshot.rules.any (fun rule => outboundNetworkRuleMatches rule connection) then
      some .accept
    else none

/-- What a policy decides about a connection of a known process in `learning`. -/
def denyDecision (snapshot : Snapshot) (connection : OutboundConnection)
    (identity : ApplicationIdentity) : Option RuleAction :=
  strongestAction (snapshot.rules.filter fun rule =>
    decide (rule.spec.action = .drop ∨ rule.spec.action = .reject) &&
      applicationRuleMatches rule connection identity)

abbrev ValidSnapshot.decisionPolicy (snapshot : ValidSnapshot) (strategy : EnforcementStrategy) :
    ApplicationDecisionPolicy := (new snapshot.toSnapshot).withEnforcementStrategy strategy

section Lookup

variable (snapshot : ValidSnapshot) (strategy : EnforcementStrategy)
  (connection : OutboundConnection) (identity : ApplicationIdentity)

theorem pinnedFile_of_matches {rule : Rule} (hvalid : PolicyRuleValid rule)
    (h : applicationRuleMatches rule connection identity = true) :
    pinnedFile? rule = some identity.executableFile := by
  have hpinned := hvalid.pinned
  simp only [applicationRuleMatches, applicationRuleNetworkAndUidMatches,
    outboundNetworkSelectorsMatch, Bool.and_eq_true] at h
  cases happlication : rule.spec.application with
  | none => simp [happlication] at h
  | some selector =>
    have henabled : rule.spec.enabled = true := h.1.1.1.1.1.1.1
    have hmatches : selector.matches identity = true := by simpa [happlication] using h.2
    -- only disabled templates are unpinned
    have hsome : selector.executableFile ≠ none := by
      intro hnone
      exact hpinned ⟨by simp [happlication, hnone],
        by simp [isUnpinnedApplicationTemplate, happlication, henabled]⟩
    obtain ⟨file, hfile⟩ := Option.ne_none_iff_exists'.mp hsome
    simp only [ApplicationSelector.matches, hfile, Option.all_some, Bool.and_eq_true,
      decide_eq_true_eq] at hmatches
    simp [pinnedFile?, happlication, hfile, hmatches.1.1.1.2]

theorem pinnedFile_of_fastMatches {rule : Rule}
    (h : fastLearnedAcceptRuleMatches rule connection identity = true) :
    pinnedFile? rule = some identity.executableFile := by
  cases hselector : rule.spec.application with
  | none => simp [fastLearnedAcceptRuleMatches, hselector] at h
  | some selector =>
    simp only [fastLearnedAcceptRuleMatches, hselector, Option.any_some, Bool.and_eq_true,
      Option.any_eq_true, decide_eq_true_eq] at h
    obtain ⟨-, ⟨-, file, hfile, rfl⟩, -⟩ := h
    simp [pinnedFile?, hselector, hfile]

theorem filter_candidates (matches' : Rule → Bool)
    (hpinned : ∀ rule ∈ snapshot.rules, matches' rule = true →
      pinnedFile? rule = some identity.executableFile) :
    ((snapshot.decisionPolicy strategy).candidates identity.executableFile).filter matches' =
      snapshot.rules.filter matches' := by
  rw [candidates_eq, List.filter_filter]
  refine List.filter_congr fun rule hrule => ?_
  cases hmatch : matches' rule with
  | false => rfl
  | true => simp [hpinned rule hrule hmatch]

theorem map_action_matchingNetworkAccept :
    ((snapshot.decisionPolicy strategy).matchingNetworkAccept connection).map (·.spec.action) =
      if snapshot.rules.any (fun rule => outboundNetworkRuleMatches rule connection) then
        some .accept
      else none := by
  have hfilter : (snapshot.rules.filter isNetworkAccept).filter
      (fun rule => outboundNetworkRuleMatches rule connection) =
        snapshot.rules.filter fun rule => outboundNetworkRuleMatches rule connection := by
    rw [List.filter_filter]
    refine List.filter_congr fun rule _ => ?_
    cases hmatch : outboundNetworkRuleMatches rule connection with
    | false => rfl
    | true =>
      simp only [outboundNetworkRuleMatches, outboundNetworkSelectorsMatch,
        Bool.and_eq_true] at hmatch
      simp [isNetworkAccept, hmatch]
  have hlookup : (snapshot.decisionPolicy strategy).matchingNetworkAccept connection =
        (snapshot.rules.filter fun rule => outboundNetworkRuleMatches rule connection).argmin
          Rule.id := by
    rw [← hfilter, ← networkAccepts_eq snapshot.toSnapshot strategy]
    rfl
  rw [hlookup]
  refine map_action_argmin_accepts _ _ (fun rule hmatch => ?_) _
  simp only [outboundNetworkRuleMatches, Bool.and_eq_true, decide_eq_true_eq] at hmatch
  exact hmatch.1.2

theorem map_action_matchingRule :
    ((snapshot.decisionPolicy strategy).matchingRule connection identity).map (·.spec.action) =
      policyDecision snapshot.toSnapshot strategy connection identity := by
  have happlication := filter_candidates snapshot strategy identity
    (fun rule => applicationRuleMatches rule connection identity)
    fun rule hrule hmatch =>
      pinnedFile_of_matches connection identity (snapshot.rule_valid hrule) hmatch
  have hfast := filter_candidates snapshot strategy identity
    (fun rule => fastLearnedAcceptRuleMatches rule connection identity)
    fun rule _ hmatch => pinnedFile_of_fastMatches connection identity hmatch
  have haccepts := map_action_argmin_accepts
    (fun rule => fastLearnedAcceptRuleMatches rule connection identity) Rule.id
    (fun rule hmatch => by
      simp only [fastLearnedAcceptRuleMatches, Bool.and_eq_true, decide_eq_true_eq] at hmatch
      exact hmatch.1.1.2) snapshot.rules
  have hnetwork := map_action_matchingNetworkAccept snapshot strategy connection
  have hstrategy : (snapshot.decisionPolicy strategy).enforcementStrategy = strategy := rfl
  simp only [matchingRule, happlication, hfast, hstrategy, policyDecision]
  cases (snapshot.rules.filter fun rule =>
      applicationRuleMatches rule connection identity).argmin decisionKey with
  | some rule => rfl
  | none =>
    by_cases hcase : strategy = .fast
    · cases hmin : (snapshot.rules.filter fun rule =>
          fastLearnedAcceptRuleMatches rule connection identity).argmin Rule.id with
      | none =>
        rw [hmin] at haccepts
        have hnone : snapshot.rules.any
            (fun rule => fastLearnedAcceptRuleMatches rule connection identity) = false := by
          by_contra h
          simp [Bool.eq_true_of_not_eq_false h] at haccepts
        simpa [hcase, hnone] using hnetwork
      | some rule =>
        rw [hmin, Option.map_some] at haccepts
        cases hany : snapshot.rules.any
            (fun rule => fastLearnedAcceptRuleMatches rule connection identity) with
        | false => simp [hany] at haccepts
        | true =>
          rw [hany, if_pos rfl] at haccepts
          simpa [hcase, hany] using haccepts
    · simpa [hcase] using hnetwork

theorem map_action_matchingDenyRule :
    ((snapshot.decisionPolicy strategy).matchingDenyRule connection identity).map (·.spec.action) =
      denyDecision snapshot.toSnapshot connection identity := by
  unfold matchingDenyRule denyDecision
  rw [map_action_argmin, List.filter_filter, filter_candidates]
  · simp only [Bool.and_comm]
  · intro rule hrule hmatch
    simp only [Bool.and_eq_true] at hmatch
    exact pinnedFile_of_matches connection identity (snapshot.rule_valid hrule) hmatch.1

end Lookup

/-! ### The policy that the engine hands out -/

def ValidSnapshot.retained (snapshot : ValidSnapshot) : ValidSnapshot where
  toSnapshot := { snapshot.toSnapshot with
    rules := snapshot.rules.filter (retainedForDecision snapshot.mode) }
  valid := by
    obtain ⟨hsize, hgeneration, hrules, hids⟩ :=
      (Snapshot.validate_eq_ok_iff _).mp snapshot.valid
    refine (Snapshot.validate_eq_ok_iff _).mpr ⟨?_, hgeneration, ?_, ?_⟩
    · exact (List.length_filter_le _ _).trans hsize
    · exact fun rule hrule => hrules rule (List.mem_of_mem_filter hrule)
    · exact (List.filter_sublist.map Rule.id).nodup hids

section Retained

variable {snapshot : ValidSnapshot} {strategy : EnforcementStrategy}

theorem build_eq (snapshot : ValidSnapshot) (strategy : EnforcementStrategy) :
    buildApplicationDecisionPolicy snapshot.toSnapshot strategy =
      (new snapshot.retained.toSnapshot).withEnforcementStrategy
        (if snapshot.mode = .enforcing then strategy else .strict) := rfl

theorem filter_retained (matches' : Rule → Bool)
    (h : ∀ rule, matches' rule = true → retainedForDecision snapshot.mode rule = true) :
    snapshot.retained.rules.filter matches' = snapshot.rules.filter matches' := by
  show (snapshot.rules.filter _).filter matches' = _
  rw [List.filter_filter]
  refine List.filter_congr fun rule _ => ?_
  cases hmatch : matches' rule with
  | false => rfl
  | true => rw [h rule hmatch]; rfl

theorem any_retained (matches' : Rule → Bool)
    (h : ∀ rule, matches' rule = true → retainedForDecision snapshot.mode rule = true) :
    snapshot.retained.rules.any matches' = snapshot.rules.any matches' := by
  show (snapshot.rules.filter _).any matches' = _
  rw [List.any_filter]
  refine List.any_congr_of_mem fun rule _ => ?_
  cases hmatch : matches' rule with
  | false => simp
  | true => simp [h rule hmatch]

variable {connection : OutboundConnection} {rule : Rule}

theorem selectorsMatch_enabled (h : outboundNetworkSelectorsMatch rule connection = true) :
    rule.spec.enabled = true ∧ rule.spec.direction = .outbound := by
  simp only [outboundNetworkSelectorsMatch, Bool.and_eq_true, decide_eq_true_eq] at h
  exact h.1.1.1.1

theorem networkAndUidMatches_enabled
    (h : applicationRuleNetworkAndUidMatches rule connection = true) :
    rule.spec.enabled = true ∧ rule.spec.direction = .outbound ∧
      rule.spec.application.isSome = true := by
  rw [applicationRuleNetworkAndUidMatches, Bool.and_eq_true] at h
  obtain ⟨henabled, hdirection⟩ := selectorsMatch_enabled h.1
  exact ⟨henabled, hdirection, Option.isSome_of_any h.2⟩

theorem networkAndUidMatches_of_matches {identity : ApplicationIdentity}
    (h : applicationRuleMatches rule connection identity = true) :
    applicationRuleNetworkAndUidMatches rule connection = true := by
  rw [applicationRuleMatches, Bool.and_eq_true] at h
  exact h.1

theorem networkAndUidMatches_of_fastMatches {identity : ApplicationIdentity}
    (h : fastLearnedAcceptRuleMatches rule connection identity = true) :
    applicationRuleNetworkAndUidMatches rule connection = true := by
  simp only [fastLearnedAcceptRuleMatches, Bool.and_eq_true] at h
  exact h.1.2

theorem policyDecision_retained (hmode : snapshot.mode = .enforcing)
    (connection : OutboundConnection) (identity : ApplicationIdentity) :
    policyDecision snapshot.retained.toSnapshot strategy connection identity =
      policyDecision snapshot.toSnapshot strategy connection identity := by
  have happlication {rule : Rule} (h : applicationRuleNetworkAndUidMatches rule connection = true) :
      retainedForDecision snapshot.mode rule = true := by
    obtain ⟨henabled, -, hsome⟩ := networkAndUidMatches_enabled h
    simp [retainedForDecision, hmode, henabled, hsome]
  have hnetwork {rule : Rule} (h : outboundNetworkRuleMatches rule connection = true) :
      retainedForDecision snapshot.mode rule = true := by
    simp only [outboundNetworkRuleMatches, Bool.and_eq_true, decide_eq_true_eq] at h
    obtain ⟨henabled, hdirection⟩ := selectorsMatch_enabled h.2
    simp [retainedForDecision, hmode, henabled, hdirection, h.1.2]
  unfold policyDecision
  rw [filter_retained _ fun _ h => happlication (networkAndUidMatches_of_matches h),
    any_retained _ fun _ h => happlication (networkAndUidMatches_of_fastMatches h),
    any_retained _ fun _ h => hnetwork h]

theorem denyDecision_retained (hmode : snapshot.mode = .learning)
    (connection : OutboundConnection) (identity : ApplicationIdentity) :
    denyDecision snapshot.retained.toSnapshot connection identity =
      denyDecision snapshot.toSnapshot connection identity := by
  unfold denyDecision
  rw [filter_retained]
  intro rule h
  simp only [Bool.and_eq_true, decide_eq_true_eq] at h
  obtain ⟨henabled, hdirection, hsome⟩ :=
    networkAndUidMatches_enabled (networkAndUidMatches_of_matches h.2)
  simp [retainedForDecision, hmode, henabled, hdirection, hsome, h.1]

end Retained

/-! ### The verdict about a packet -/

section Answer

variable {snapshot : ValidSnapshot} {strategy : EnforcementStrategy}
  {resolve : OutboundConnection → IdentityCaptureRequirements → Except String ApplicationIdentity}
  {identity : ApplicationIdentity}

theorem policyDecision_of_noCandidate {connection : OutboundConnection}
    (hnone : (snapshot.decisionPolicy strategy).enforcementCaptureRequirements connection = none) :
    policyDecision snapshot.toSnapshot strategy connection identity =
      if snapshot.rules.any (fun rule => outboundNetworkRuleMatches rule connection) then
        some .accept
      else none := by
  have hmiss : ∀ rule ∈ snapshot.rules,
      applicationRuleNetworkAndUidMatches rule connection = false := by
    have hempty : (snapshot.rules.filter fun rule =>
        applicationRuleNetworkAndUidMatches rule connection) = [] := by
      by_contra hne
      simp [enforcementCaptureRequirements, captureRequirements, withEnforcementStrategy, new,
        hne] at hnone
    simpa [List.filter_eq_nil_iff] using hempty
  have happlication : (snapshot.rules.filter fun rule =>
      applicationRuleMatches rule connection identity) = [] :=
    List.filter_eq_nil_iff.mpr fun rule hrule => by
      simp [applicationRuleMatches, hmiss rule hrule]
  have hfast : snapshot.rules.any
      (fun rule => fastLearnedAcceptRuleMatches rule connection identity) = false :=
    List.any_eq_false.mpr fun rule hrule => by
      simp [fastLearnedAcceptRuleMatches, hmiss rule hrule]
  simp [policyDecision, happlication, hfast]

abbrev authorizationAnswer (action : RuleAction) (strategy : QueueVerdictStrategy)
    (packetMark : BitVec 32) : Answer :=
  .verdict (authorizationVerdict action strategy packetMark).1
    (authorizationVerdict action strategy packetMark).2

theorem answer_on (policy : ApplicationDecisionPolicy) (packet : QueuedPacket)
    (action : RuleAction) (deferred : Bool) (queueStrategy : QueueVerdictStrategy) :
    (returnPacketVerdict (.ok (.on policy packet action none deferred))
        (.ok (policy.snapshot.mode, policy.snapshot.flowGeneration)) false queueStrategy).answer =
      authorizationAnswer action queueStrategy packet.packetMark := by
  simp [returnPacketVerdict, PacketAuthorization.on, authorizationRemainsValid,
    PacketVerdict.answer]

theorem answer_error (error : DecisionError) (current : Except String (Mode × BitVec 32))
    (queueStrategy : QueueVerdictStrategy) (packetMark : BitVec 32) :
    (returnPacketVerdict (.error error) current false queueStrategy).answer =
      authorizationAnswer .drop queueStrategy packetMark := by
  cases queueStrategy <;> rfl

/-- The decision about a packet in `enforcing`: that of the policy, or an error without one. -/
theorem answer_new (packet : QueuedPacket) (hmode : snapshot.mode = .enforcing)
    (hpending : packet.packetMark = applicationPendingMark packet.packetMark)
    (hresolve : ∀ requirements, (snapshot.decisionPolicy strategy).enforcementCaptureRequirements
      packet.connection = some requirements → resolve packet.connection requirements = .ok identity)
    (observe : Except String (Option String)) (queueStrategy : QueueVerdictStrategy) :
    (returnPacketVerdict
        (decidePacket (snapshot.decisionPolicy strategy) (.ok packet) resolve observe)
        (.ok (snapshot.mode, snapshot.flowGeneration)) false queueStrategy).answer =
      authorizationAnswer ((policyDecision snapshot.toSnapshot strategy packet.connection
        identity).getD .drop) queueStrategy packet.packetMark := by
  have hsnapshot : (snapshot.decisionPolicy strategy).snapshot.mode = .enforcing := hmode
  unfold decidePacket packetAttributionPlan
  simp only [ne_eq, ← hpending, not_true_eq_false, if_false, hsnapshot]
  cases hrequirements :
      (snapshot.decisionPolicy strategy).enforcementCaptureRequirements packet.connection with
  | none =>
    have hnetwork := map_action_matchingNetworkAccept snapshot strategy packet.connection
    rw [policyDecision_of_noCandidate hrequirements, ← hnetwork]
    cases hlookup : (snapshot.decisionPolicy strategy).matchingNetworkAccept packet.connection with
    | none => exact answer_error _ _ _ _
    | some rule =>
      have haccept : rule.spec.action = .accept := by
        rw [hlookup, Option.map_some] at hnetwork
        split at hnetwork
        · exact Option.some.inj hnetwork
        · cases hnetwork
      simp only [Option.map_some, Option.getD_some, haccept]
      exact answer_on _ packet .accept false queueStrategy
  | some requirements =>
    have hrule := map_action_matchingRule snapshot strategy packet.connection identity
    simp only [hresolve requirements hrequirements, authorizeAttributedPacket, hsnapshot]
    rw [← hrule]
    cases (snapshot.decisionPolicy strategy).matchingRule packet.connection identity with
    | none => exact answer_error _ _ _ _
    | some rule => exact answer_on _ packet rule.spec.action false queueStrategy

/-- The verdict about a packet in `enforcing`, if the policy did not change meanwhile: the
decision of the policy, and a drop without one. -/
theorem answer_enforcing (packet : QueuedPacket) (hmode : snapshot.mode = .enforcing)
    (hpending : packet.packetMark = applicationPendingMark packet.packetMark)
    (hresolve : ∀ requirements, (buildApplicationDecisionPolicy snapshot.toSnapshot
      strategy).enforcementCaptureRequirements packet.connection = some requirements →
        resolve packet.connection requirements = .ok identity)
    (observe : Except String (Option String)) (queueStrategy : QueueVerdictStrategy) :
    (returnPacketVerdict (decidePacket
          (buildApplicationDecisionPolicy snapshot.toSnapshot strategy) (.ok packet) resolve observe)
        (.ok (snapshot.mode, snapshot.flowGeneration)) false queueStrategy).answer =
      authorizationAnswer ((policyDecision snapshot.toSnapshot strategy packet.connection
        identity).getD .drop) queueStrategy packet.packetMark := by
  rw [build_eq, if_pos hmode] at hresolve ⊢
  rw [← policyDecision_retained hmode]
  have hretained : snapshot.retained.mode = .enforcing := hmode
  exact answer_new packet hretained hpending hresolve observe queueStrategy

end Answer

end OpenShield
