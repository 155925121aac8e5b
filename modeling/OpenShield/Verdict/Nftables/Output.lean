import OpenShield.Verdict.Nftables.Blocks

/-!
# The output hook of the nftables backend

Each chain of the output hook equals a decision function of the packet and its marks. The
decision functions list what is asked in which order, and the theorems about the policy argue
with them and never look at rules again.
-/

namespace OpenShield.Nftables

open Netfilter

def learningShape (p : Packet) : Bool :=
  p.isOriginal &&
    ((decide (p.l4proto = protoTcp) && decide (p.ct.bit = .new) &&
        p.tcpFlags.any fun flags => decide (flags &&& (tcpSyn ||| tcpAck) = tcpSyn)) ||
      (decide (p.l4proto = protoTcp) && decide (p.ct.bit = .established) &&
        (p.tcpFlags.any fun flags => decide (flags &&& (tcpFin ||| tcpRst) = 0)) &&
        p.underLimit) ||
      decide (p.l4proto ≠ protoTcp))

def acceptHandoff (d : Meta Counter) : Meta Counter × Verdict :=
  ((withDomain APPLICATION_HANDOFF_DOMAIN d).count .acceptedOut, .accept)

def candidateDecision (snapshot : Snapshot) (p : Packet) (d : Meta Counter) :
    Meta Counter × Verdict :=
  if reverseMatch snapshot p .outbound then
    if snapshot.mode = .learning then (d.count .acceptedOut, .accept) else acceptHandoff d
  else if p.isOriginal && applicationEnvelope snapshot p (queuedActions snapshot.mode) then
    (withDomain APPLICATION_PENDING_DOMAIN d, .queue APPLICATION_QUEUE_NUMBER false)
  else if applicationEnvelope snapshot p (queuedActions snapshot.mode) ||
      originalGuard snapshot p (queuedActions snapshot.mode) then
    (d.count .droppedOut, .drop)
  else if snapshot.mode = .learning then
    if learningShape p then
      (d.count .learnedOut, .queue APPLICATION_LEARNING_QUEUE_NUMBER true)
    else (d.count .acceptedOut, .accept)
  else if networkMatch snapshot p .outbound .accept then acceptHandoff d
  else (d.count .droppedOut, .drop)

def outputDecision (snapshot : Snapshot) (p : Packet) (d : Meta Counter) :
    Meta Counter × Verdict :=
  if hasEnabledOutboundReject snapshot && generatedRejectReply snapshot p d.connmark then
    acceptHandoff d
  else if decide (snapshot.mode = .enforcing) && decide (p.ct.bit = .invalid) then
    (d.count .droppedOut, .drop)
  else
    (networkDeny snapshot p).elim
      (if fastPath snapshot p .outbound d.connmark then acceptHandoff d
      else candidateDecision snapshot p (resetFlow snapshot p d))
      fun r => refuse snapshot p r d

def authorizeDecision (snapshot : Snapshot) (p : Packet) (d : Meta Counter) :
    Meta Counter × Verdict :=
  if decide (snapshot.applicationInterception ≠ .none) &&
      hasDomain d APPLICATION_REJECT_DOMAIN then
    ((withConnmark p (applicationRejectConnmark snapshot.flowGeneration) d).count .droppedOut,
      refusedVerdict p)
  else if intercepted p snapshot.applicationInterception &&
      hasDomain d APPLICATION_PENDING_DOMAIN then
    ((if snapshot.mode = .learning then (authorised snapshot p d).count .learnedOut
      else authorised snapshot p d).count .acceptedOut, .accept)
  else if hasDomain d APPLICATION_HANDOFF_DOMAIN then (withDomain 0 d, .accept)
  else if snapshot.mode = .learning then (d.count .acceptedOut, .accept)
  else (d.count .droppedOut, .drop)

section Policy

variable (snapshot : ValidSnapshot) (p : Packet) (d : Meta Counter)

theorem run_appendApplicationRuleQueues (actions : List RuleAction) :
    run (Nft.Rule.exec p) (appendApplicationRuleQueues snapshot.toSnapshot actions) d =
      if p.isOriginal && applicationEnvelope snapshot.toSnapshot p actions then
        decided (withDomain APPLICATION_PENDING_DOMAIN d, .queue APPLICATION_QUEUE_NUMBER false)
      else (d, none) := by
  have hany : (p.isOriginal && applicationEnvelope snapshot.toSnapshot p actions) =
      (applicationCandidates snapshot.toSnapshot actions).any fun r =>
        p.isOriginal && envelope p r.spec := by
    rw [any_applicationCandidates, applicationEnvelope]
    cases p.isOriginal <;> simp
  rw [hany]
  apply run_map_eq_any
  intro r hr
  rw [Nft.Rule.exec_rule, Nft.allHold_cons, allHold_ruleSelectors p d
    (portsAreTransport_of_mem snapshot (mem_applicationCandidates _ hr))]
  rfl

theorem run_appendApplicationCandidateGuardDrops (counter : Counter)
    (actions : List RuleAction) :
    run (Nft.Rule.exec p)
        (appendApplicationCandidateGuardDrops snapshot.toSnapshot counter actions) d =
      if applicationEnvelope snapshot.toSnapshot p actions ||
          originalGuard snapshot.toSnapshot p actions then
        decided (d.count counter, .drop)
      else (d, none) := by
  have hany : (applicationEnvelope snapshot.toSnapshot p actions ||
      originalGuard snapshot.toSnapshot p actions) =
        (applicationCandidates snapshot.toSnapshot actions).any fun r =>
          envelope p r.spec || (selectsDestination r.spec && originalEnvelope p r.spec) := by
    rw [any_applicationCandidates, applicationEnvelope, originalGuard, List.any_or_any]
    simp only [Bool.and_or_distrib_left]
  rw [hany]
  apply run_flatMap_eq_any
  intro r hr
  have hcurrent : run (Nft.Rule.exec p)
      [Nft.rule (ruleSelectors r.spec .outbound false) [.counter counter, .verdict .drop]] d =
        if envelope p r.spec then decided (d.count counter, .drop) else (d, none) := by
    rw [run_singleton, Nft.Rule.exec_rule, allHold_ruleSelectors p d
      (portsAreTransport_of_mem snapshot (mem_applicationCandidates _ hr))]
    rfl
  have horiginal : run (Nft.Rule.exec p)
      (if r.spec.peerNetwork.isNone && r.spec.port.isNone then []
        else [Nft.rule (originalSelectors r.spec) [.counter counter, .verdict .drop]]) d =
        if selectsDestination r.spec && originalEnvelope p r.spec then
          decided (d.count counter, .drop)
        else (d, none) := by
    cases hnone : r.spec.peerNetwork.isNone && r.spec.port.isNone with
    | true => simp [selectsDestination, hnone]
    | false =>
      rw [if_neg Bool.false_ne_true, run_singleton, Nft.Rule.exec_rule,
        allHold_originalSelectors, selectsDestination, hnone, Bool.not_false, Bool.true_and]
      rfl
  rw [run_append_guard _ hcurrent, horiginal]
  cases envelope p r.spec <;> rfl

theorem run_appendLearningQueue :
    run (Nft.Rule.exec p) appendLearningQueue d =
      if learningShape p then
        decided (d.count .learnedOut, .queue APPLICATION_LEARNING_QUEUE_NUMBER true)
      else (d, none) := by
  have hany : learningShape p = learningQueueSelectors.any fun selector =>
      Nft.allHold p d (.ctDirection .original :: selector) := by
    have hdir : (Nft.Match.ctDirection .original).holds p d = p.isOriginal := rfl
    simp only [learningQueueSelectors, List.any_cons, List.any_nil, Nft.allHold_cons, hdir]
    cases horiginal : p.isOriginal <;> by_cases htcp : p.l4proto = protoTcp <;>
      simp [learningShape, Nft.Match.holds, horiginal, htcp, Bool.and_assoc]
  rw [hany]
  apply run_map_eq_any
  intro selector _
  rw [Nft.Rule.exec_rule]
  rfl

theorem run_candidates (hmode : snapshot.mode ≠ .blockAll) :
    run (Nft.Rule.exec p)
        (appendReverseRules snapshot.toSnapshot .outbound .acceptedOut ++
          (appendOutboundCandidates snapshot.toSnapshot ++
            ((if snapshot.applicationInterception ≠ .none ∧ snapshot.mode = .learning then
              appendLearningQueue ++ [[.counter .acceptedOut, .verdict .accept]] else []) ++
              [[.counter .droppedOut, .verdict .drop]]))) d =
      decided (candidateDecision snapshot.toSnapshot p d) := by
  rw [run_append_guard _ (run_reverse snapshot p d .outbound .acceptedOut)]
  unfold appendOutboundCandidates candidateDecision
  cases hcase : snapshot.mode with
  | blockAll => exact absurd hcase hmode
  | learning =>
    have hinterception : snapshot.applicationInterception ≠ .none := by
      simp [Snapshot.applicationInterception, classifyApplicationInterception, hcase]
    simp only [List.append_assoc, hinterception, ne_eq, not_false_eq_true, not_true_eq_false,
      and_self, and_false, if_true, if_false]
    rw [run_append_guard _ (run_appendApplicationRuleQueues snapshot p d _),
      run_append_guard _ (run_appendApplicationCandidateGuardDrops snapshot p d _ _),
      run_append_guard _ (run_appendLearningQueue p d), queuedActions]
    split_ifs <;> rfl
  | enforcing =>
    simp only [List.append_assoc, reduceCtorEq, ne_eq, not_false_eq_true, and_self, and_false,
      if_true, if_false, List.nil_append]
    rw [run_append_guard _ (run_appendApplicationRuleQueues snapshot p d _),
      run_append_guard _ (run_appendApplicationCandidateGuardDrops snapshot p d _ _),
      run_append_guard _ (run_accepts snapshot p d _ _), queuedActions]
    simp only [hcase, ne_eq, reduceCtorEq, not_false_eq_true, and_self, if_true]
    split_ifs <;> rfl

theorem entry_output (hmode : snapshot.mode ≠ .blockAll) :
    (policy snapshot.toSnapshot).output.entry p d = outputDecision snapshot.toSnapshot p d := by
  have hrun : run (Nft.Rule.exec p)
      (outputRules snapshot.toSnapshot snapshot.applicationInterception ++
        [[.counter .droppedOut, .verdict .drop]]) d =
      decided (outputDecision snapshot.toSnapshot p d) := by
    simp only [outputRules, List.append_assoc]
    rw [run_append_guard _ (run_optional fun _ => run_appendGeneratedRejectReplyAccept p d _ _ _),
      run_append_guard _ (run_optional fun _ => run_invalidDrop p d _),
      run_append_elim _ (run_denies snapshot p d),
      run_append_guard _ (run_appendFastPaths p d _ _ _), if_pos rfl,
      run_candidates snapshot p _ hmode]
    unfold outputDecision
    cases networkDeny snapshot.toSnapshot p <;> simp only [Option.elim] <;> split_ifs <;>
      simp_all <;> rfl
  have hchain : (policy snapshot.toSnapshot).output.rules =
      outputRules snapshot.toSnapshot snapshot.applicationInterception ++
        [[.counter .droppedOut, .verdict .drop]] := by
    simp [policy, appendChain, hmode]
  exact Nft.BaseChain.entry_of_some (by rw [hchain]; exact hrun)

theorem entry_outputSanitize :
    (policy snapshot.toSnapshot).outputSanitize.entry p d = (withDomain 0 d, .accept) := by
  refine Nft.BaseChain.entry_of_none ?_
  refine Eq.trans (run_singleton _ _ _) ?_
  rw [Nft.Rule.exec_rule]
  by_cases hclear : d.mark &&& APPLICATION_MARK_DOMAIN_MASK = 0
  · -- a clear mark is left alone
    have hsame : d.mark &&& APPLICATION_MARK_PAYLOAD_MASK = d.mark := by
      rw [payloadMask_eq]
      exact and_not_eq_self hclear
    simp [Nft.Match.holds, maskedEq, hclear, withDomain, hsame, Meta.setMark]
  · have hdirty : Nft.allHold p d [.metaMarkNot APPLICATION_MARK_DOMAIN_MASK 0] = true := by
      simpa [Nft.Match.holds, maskedEq] using hclear
    rw [hdirty]
    rfl

theorem run_refusals :
    run (Nft.Rule.exec p)
        [Nft.rule [.l4proto protoTcp, domainMatch APPLICATION_REJECT_DOMAIN]
            (refusal snapshot.toSnapshot .tcpReset),
          Nft.rule [domainMatch APPLICATION_REJECT_DOMAIN]
            (refusal snapshot.toSnapshot .portUnreachable)] d =
      if hasDomain d APPLICATION_REJECT_DOMAIN then
        decided ((withConnmark p (applicationRejectConnmark snapshot.flowGeneration) d).count
          .droppedOut, refusedVerdict p)
      else (d, none) := by
  have hdomain : Nft.allHold p d [domainMatch APPLICATION_REJECT_DOMAIN] =
      hasDomain d APPLICATION_REJECT_DOMAIN := Bool.and_true _
  have hexec (kind : RejectKind) : Nft.Rule.exec p (refusal snapshot.toSnapshot kind) d =
      decided ((withConnmark p (applicationRejectConnmark snapshot.flowGeneration) d).count
        .droppedOut, .reject kind) := rfl
  rw [run_cons_guard _ (Nft.Rule.exec_rule_of_decided _ (hexec _)), run_singleton,
    Nft.Rule.exec_rule_of_decided _ (hexec _), Nft.allHold_cons, hdomain]
  by_cases htcp : p.l4proto = protoTcp <;> cases hasDomain d APPLICATION_REJECT_DOMAIN <;>
    simp [Nft.Match.holds, htcp, refusedVerdict]

theorem run_authorizationRules :
    run (Nft.Rule.exec p)
        (authorizationRules snapshot.toSnapshot snapshot.applicationInterception) d =
      if decide (snapshot.applicationInterception ≠ .none) &&
          hasDomain d APPLICATION_REJECT_DOMAIN then
        decided ((withConnmark p (applicationRejectConnmark snapshot.flowGeneration) d).count
          .droppedOut, refusedVerdict p)
      else if intercepted p snapshot.applicationInterception &&
          hasDomain d APPLICATION_PENDING_DOMAIN then
        decided ((if snapshot.mode = .learning then
          (authorised snapshot.toSnapshot p d).count .learnedOut
          else authorised snapshot.toSnapshot p d).count .acceptedOut, .accept)
      else (d, none) := by
  unfold authorizationRules
  by_cases hnone : snapshot.applicationInterception = .none
  · simp [hnone, intercepted]
  · rw [if_neg hnone, run_append_guard _ (run_refusals snapshot p d), decide_eq_true hnone,
      Bool.true_and]
    congr 1
    have hany := Nft.any_allHold_between p d [] [domainMatch APPLICATION_PENDING_DOMAIN]
      (interceptedProtocols snapshot.applicationInterception)
    rw [any_interceptedProtocols, Nft.allHold_nil, Bool.true_and, Nft.allHold_cons,
      Nft.allHold_nil, Bool.and_true] at hany
    have hdomain : (domainMatch APPLICATION_PENDING_DOMAIN).holds p d =
        hasDomain d APPLICATION_PENDING_DOMAIN := rfl
    rw [← hdomain, ← hany]
    apply run_map_eq_any
    intro protocol _
    refine Nft.Rule.exec_rule_of_decided _ ?_
    unfold admission
    split <;> rfl

theorem entry_outputAuthorize (hmode : snapshot.mode ≠ .blockAll) :
    (policy snapshot.toSnapshot).outputAuthorize.entry p d =
      authorizeDecision snapshot.toSnapshot p d := by
  refine Nft.BaseChain.entry_of_some ?_
  show run _ (authorizationRules _ _ ++ _ ++ _ ++ _) d =
    decided (authorizeDecision snapshot.toSnapshot p d)
  have hrest : run (Nft.Rule.exec p)
      ((if snapshot.mode ≠ .blockAll then
        [Nft.rule [domainMatch APPLICATION_HANDOFF_DOMAIN]
          [.setMark APPLICATION_MARK_PAYLOAD_MASK 0, .verdict .accept]] else []) ++
        ((if snapshot.mode = .learning then [[.counter .acceptedOut, .verdict .accept]] else []) ++
          [[.counter .droppedOut, .verdict .drop]])) d =
      if hasDomain d APPLICATION_HANDOFF_DOMAIN then decided (withDomain 0 d, .accept)
      else if snapshot.mode = .learning then decided (d.count .acceptedOut, .accept)
      else decided (d.count .droppedOut, .drop) := by
    have hhandoff : run (Nft.Rule.exec p)
        [Nft.rule [domainMatch APPLICATION_HANDOFF_DOMAIN]
          [.setMark APPLICATION_MARK_PAYLOAD_MASK 0, .verdict .accept]] d =
        if hasDomain d APPLICATION_HANDOFF_DOMAIN then decided (withDomain 0 d, .accept)
        else (d, none) := by
      rw [run_singleton, Nft.Rule.exec_rule, Nft.allHold_cons, Nft.allHold_nil, Bool.and_true]
      rfl
    rw [if_pos hmode, run_append_guard _ hhandoff]
    congr 1
    split <;> rfl
  simp only [List.append_assoc]
  rw [run_append, Step.andThen, run_authorizationRules]
  unfold authorizeDecision
  split_ifs <;> simp_all [decided]

end Policy

end OpenShield.Nftables
