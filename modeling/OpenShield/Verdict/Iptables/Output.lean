import OpenShield.Verdict.Iptables.Blocks

/-!
# The output hook of the iptables backend

The two entries of the output hook, `mangle` and `filter`, equal decision functions of the
packet and its marks. A packet that the daemon authorised runs the filter chain again, so the
chain that queues packets is also the one that consumes the daemon's verdicts.
-/

namespace OpenShield.Iptables

open Netfilter
open Xtables (Exit)

def learningShape (p : Packet) : Bool :=
  p.isOriginal &&
    ((decide (p.l4proto = protoTcp) && decide (p.ct.bit = .new) && p.tcpFlags.any fun flags =>
        decide (flags &&& (tcpFin ||| tcpSyn ||| tcpRst ||| tcpAck) = tcpSyn)) ||
      (decide (p.l4proto = protoTcp) && decide (p.ct.bit = .established) &&
        (p.tcpFlags.any fun flags => decide (flags &&& (tcpFin ||| tcpRst) = 0)) &&
        p.underLimit) ||
      decide (p.l4proto ≠ protoTcp))

variable (snapshot : Snapshot)

def denyEnvelope (p : Packet) : Bool :=
  snapshot.rules.any fun r => r.spec.enabled && decide (r.spec.direction = .outbound) &&
    decide (r.spec.action = .drop ∨ r.spec.action = .reject) && envelope p r.spec

/-- The decision of the `mangle` table. -/
def mangleDecision (p : Packet) (d : Meta Counter) :
    Meta Counter × Verdict :=
  if decide (snapshot.mode = .learning) && !(p.isOriginal && denyEnvelope snapshot p) &&
      learningShape p then
    ((withDomain 0 d).count .learnedOut, .queue APPLICATION_LEARNING_QUEUE_NUMBER true)
  else (withDomain 0 d, .accept)

def admitted (p : Packet) (d : Meta Counter) : Meta Counter :=
  if snapshot.mode = .learning then
    ((authorised snapshot p d).count .acceptedOut).count .learnedOut
  else (authorised snapshot p d).count .acceptedOut

def candidateDecision (p : Packet) (d : Meta Counter) :
    Meta Counter × Verdict :=
  if reverseMatch snapshot p .outbound then (d.count .acceptedOut, .accept)
  else if p.isOriginal && applicationEnvelope snapshot p (queuedActions snapshot.mode) then
    (withDomain APPLICATION_PENDING_DOMAIN d, .queue APPLICATION_QUEUE_NUMBER false)
  -- unlike the other backend, this one does not guard against packets without a valid
  -- conntrack classification
  else if (decide (p.ct.bit = .untracked) &&
        applicationEnvelope snapshot p (queuedActions snapshot.mode)) ||
      (p.isOriginal && originalGuard snapshot p (queuedActions snapshot.mode)) then
    (d.count .droppedOut, .drop)
  else if networkMatch snapshot p .outbound .accept then (d.count .acceptedOut, .accept)
  else if snapshot.mode = .learning then (d.count .acceptedOut, .accept)
  else (d.count .droppedOut, .drop)

def verdictDecision (p : Packet) (d : Meta Counter) :
    Meta Counter × Verdict :=
  if decide (snapshot.applicationInterception ≠ .none) &&
      hasDomain d APPLICATION_REJECT_DOMAIN then
    ((withConnmark p (applicationRejectConnmark snapshot.flowGeneration) d).count .droppedOut,
      refusedVerdict p)
  else if (intercepted p snapshot.applicationInterception ||
      decide (snapshot.mode = .learning)) && hasDomain d APPLICATION_HANDOFF_DOMAIN then
    (admitted snapshot p d, .accept)
  else if fastPath snapshot p .outbound d.connmark then (d.count .acceptedOut, .accept)
  else candidateDecision snapshot p (resetFlow snapshot p d)

def outputDecision (p : Packet) (d : Meta Counter) :
    Meta Counter × Verdict :=
  if decide (snapshot.mode = .enforcing) && decide (p.ct.bit = .invalid) then
    (d.count .droppedOut, .drop)
  else if hasEnabledOutboundReject snapshot && generatedRejectReply snapshot p d.connmark then
    (d.count .acceptedOut, .accept)
  else (networkDeny snapshot p).elim (verdictDecision snapshot p d)
    fun r => refuse snapshot p r d

/-! ### The `mangle` table -/

section Mangle

variable (p : Packet) (goto : AppChain → Step (Meta Counter) Exit) (d : Meta Counter)

theorem exec_appendReservedMarkSanitizer :
    appendReservedMarkSanitizer.exec p goto d = (withDomain 0 d, none) := by
  by_cases hclear : d.mark &&& APPLICATION_MARK_DOMAIN_MASK = 0
  · have hsame : d.mark &&& APPLICATION_MARK_PAYLOAD_MASK = d.mark := by
      rw [payloadMask_eq]
      exact and_not_eq_self hclear
    have htests : Xtables.allHold p d appendReservedMarkSanitizer.tests = false := by
      simpa [appendReservedMarkSanitizer, Xtables.Match.holds, maskedEq] using hclear
    simp [Xtables.Rule.exec, htests, withDomain, hsame, Meta.setMark]
  · have htests : Xtables.allHold p d appendReservedMarkSanitizer.tests = true := by
      simpa [appendReservedMarkSanitizer, Xtables.Match.holds, maskedEq] using hclear
    rw [Xtables.Rule.exec, htests, if_pos rfl]
    exact exec_mark p goto d (by decide)

theorem run_sanitizer :
    run (Xtables.Rule.exec p goto) [ownership, appendReservedMarkSanitizer] d =
      (withDomain 0 d, none) := by
  rw [run_cons, Step.andThen_of_none _ (exec_ownership p goto d), run_singleton,
    exec_appendReservedMarkSanitizer]

variable (snapshot : Snapshot)

theorem run_appendLearningObserverKernelGuards :
    run (Xtables.Rule.exec p goto) (appendLearningObserverKernelGuards snapshot p.family) d =
      if p.isOriginal && denyEnvelope snapshot p then decided (d, .ret) else (d, none) := by
  have hany : (p.isOriginal && denyEnvelope snapshot p) =
      ((snapshot.rules.filter fun r => r.spec.enabled && decide (r.spec.direction = .outbound) &&
        decide (r.spec.action = .drop ∨ r.spec.action = .reject) &&
        supportsFamily r.spec p.family).insertionSort ruleOrder).any fun r =>
          p.isOriginal && envelope p r.spec := by
    rw [List.any_insertionSort, List.any_filter_eq, denyEnvelope]
    cases p.isOriginal with
    | false => simp
    | true =>
      rw [Bool.true_and]
      congr 1
      funext r
      cases hr : envelope p r.spec with
      | false => simp
      | true => simp [supportsFamily_of_selectorsMatch hr]
  rw [hany]
  apply run_map_eq_any
  intro r hr
  rw [List.mem_insertionSort, List.mem_filter] at hr
  simp only [Bool.and_eq_true] at hr
  have htests : Xtables.allHold p d (ruleMatch r.spec .outbound false ++
      [ct none (some .original)]) = (p.isOriginal && envelope p r.spec) := by
    rw [Xtables.allHold_append, allHold_ruleMatch p d hr.2.2, Xtables.allHold_cons,
      Xtables.allHold_nil, holds_ctdir, Bool.and_true, Bool.and_comm]
    rfl
  rw [← htests]
  exact Xtables.Rule.exec_of_decided rfl

theorem run_learningObservers :
    run (Xtables.Rule.exec p goto) (learningObserverSelectors.map fun selector =>
        ⟨selector, [.learnedOut], .nfqueue APPLICATION_LEARNING_QUEUE_NUMBER true⟩) d =
      if learningShape p then
        decided (d.count .learnedOut, .final (.queue APPLICATION_LEARNING_QUEUE_NUMBER true))
      else (d, none) := by
  have hany : learningShape p = learningObserverSelectors.any (Xtables.allHold p d) := by
    have hnew := holds_ct p d [.new] .original (by decide)
    have hestablished := holds_ct p d [.established] .original (by decide)
    simp only [learningObserverSelectors, List.any_cons, List.any_nil, Xtables.allHold_cons,
      Xtables.allHold_nil, hnew, hestablished, holds_ctdir, learningShape, Packet.isOriginal]
    cases decide (p.ct.dir? = some .original) <;> by_cases htcp : p.l4proto = protoTcp <;>
      simp [Xtables.Match.holds, htcp, Bool.and_assoc, Bool.and_comm]
  rw [hany]
  apply run_map_eq_any
  intro selector _
  exact Xtables.Rule.exec_of_decided rfl

theorem run_markChain :
    run (Xtables.Rule.exec p goto) markChain d = decided (withDomain 0 d, .ret) := by
  show run _ ([ownership, appendReservedMarkSanitizer] ++ [⟨[], [], .ret⟩]) d = _
  rw [run_append_of_none _ (run_sanitizer p goto d)]
  rfl

theorem run_observeChain :
    run (Xtables.Rule.exec p goto) (observeChain snapshot p.family) (withDomain 0 d) =
      decided ((mangleDecision snapshot p d).1,
        Exit.ofVerdict (mangleDecision snapshot p d).2) := by
  have hhead := run_sanitizer p goto (withDomain 0 d)
  rw [withDomain_zero_idem] at hhead
  unfold observeChain mangleDecision
  rw [List.append_assoc, run_append_of_none _ hhead]
  by_cases hmode : snapshot.mode = .learning
  · rw [if_pos hmode, List.append_assoc,
      run_append_guard _ (run_appendLearningObserverKernelGuards p goto _ snapshot),
      run_append_guard _ (run_learningObservers p goto _)]
    cases p.isOriginal && denyEnvelope snapshot p <;> cases learningShape p <;>
      simp [hmode] <;> rfl
  · simp [hmode]
    rfl

/-- The `mangle` entry of the output hook. -/
theorem entry_mangle :
    Xtables.builtinEntry
        [(compileFamily snapshot p.family snapshot.applicationInterception).chain p markChain,
          (compileFamily snapshot p.family snapshot.applicationInterception).chain p
            (observeChain snapshot p.family)] d =
      mangleDecision snapshot p d := by
  refine Eq.trans (Xtables.builtinEntry_of_ret _ (run_markChain p _ d)) ?_
  exact Xtables.builtinEntry_of_decided (run_observeChain p _ d snapshot)

end Mangle

/-! ### The filter chain -/

section Filter

variable (p : Packet) (d : Meta Counter)

variable (snapshot : Snapshot) (goto : AppChain → Step (Meta Counter) Exit)

theorem run_appendApplicationChain :
    run (Xtables.Rule.exec p goto) (appendApplicationChain snapshot true) d =
      decided (admitted snapshot p d, .ret) := by
  have hflow : applicationFlowMark (snapshot.flowGeneration &&& MAX_FLOW_GENERATION) =
      applicationFlowMark snapshot.flowGeneration := by
    simp [applicationFlowMark, APPLICATION_MARK_GENERATION_MASK, BitVec.and_assoc]
  unfold appendApplicationChain
  rw [hflow]
  show run _ (ownership :: ⟨[], [], .connmark _ _⟩ :: ⟨[], [], .mark _ _⟩ :: _) d = _
  have hdate := (Xtables.Rule.exec_unconditional p goto _ d).trans
    (exec_connmark p goto d (applicationFlowMark_own snapshot.flowGeneration))
  have hclear (d : Meta Counter) := (Xtables.Rule.exec_unconditional p goto _ d).trans
    (exec_mark p goto d (show 0 &&& ~~~APPLICATION_MARK_DOMAIN_MASK = 0 by decide))
  rw [run_cons, Step.andThen_of_none _ (exec_ownership p goto d), run_cons,
    Step.andThen_of_none _ hdate, run_cons, Step.andThen_of_none _ (hclear _)]
  unfold admitted
  split <;> rfl

theorem run_appendRefusals :
    run (Xtables.Rule.exec p goto) (appendRefusals snapshot) d =
      if hasDomain d APPLICATION_REJECT_DOMAIN then
        decided ((withConnmark p (applicationRejectConnmark snapshot.flowGeneration) d).count
          .droppedOut, Exit.ofVerdict (refusedVerdict p))
      else (d, none) := by
  have hmatch (d : Meta Counter) : Xtables.allHold p d [domainMatch APPLICATION_REJECT_DOMAIN] =
      hasDomain d APPLICATION_REJECT_DOMAIN := Bool.and_true _
  have hmarked : hasDomain (withConnmark p (applicationRejectConnmark snapshot.flowGeneration) d)
      APPLICATION_REJECT_DOMAIN = hasDomain d APPLICATION_REJECT_DOMAIN := by
    simp [hasDomain, withConnmark]
  have hfirst : Xtables.Rule.exec p goto ⟨[domainMatch APPLICATION_REJECT_DOMAIN], [],
      .connmark (applicationRejectConnmark snapshot.flowGeneration) APPLICATION_CONNMARK_MASK⟩ d =
        (if hasDomain d APPLICATION_REJECT_DOMAIN then
          withConnmark p (applicationRejectConnmark snapshot.flowGeneration) d else d, none) := by
    rw [Xtables.Rule.exec, hmatch]
    cases hasDomain d APPLICATION_REJECT_DOMAIN with
    | false => rfl
    | true => exact exec_connmark p goto d (applicationRejectConnmark_own snapshot.flowGeneration)
  have hrest (d : Meta Counter) : run (Xtables.Rule.exec p goto)
      [⟨[.protocol protoTcp, domainMatch APPLICATION_REJECT_DOMAIN], [.droppedOut],
          .reject .tcpReset⟩,
        ⟨[domainMatch APPLICATION_REJECT_DOMAIN], [.droppedOut], .reject .portUnreachable⟩] d =
        if hasDomain d APPLICATION_REJECT_DOMAIN then
          decided (d.count .droppedOut, Exit.ofVerdict (refusedVerdict p))
        else (d, none) := by
    have hexec (tests : List Xtables.Match) (kind : RejectKind) :
        Xtables.Rule.exec p goto ⟨tests, [.droppedOut], .reject kind⟩ d =
          if Xtables.allHold p d tests then decided (d.count .droppedOut, .final (.reject kind))
          else (d, none) := Xtables.Rule.exec_of_decided rfl
    rw [run_cons_guard _ (hexec _ _), run_singleton, hexec, Xtables.allHold_cons, hmatch]
    by_cases htcp : p.l4proto = protoTcp <;> cases hasDomain d APPLICATION_REJECT_DOMAIN <;>
      simp [Xtables.Match.holds, htcp, refusedVerdict, Exit.ofVerdict]
  rw [appendRefusals, run_cons, Step.andThen_of_none _ hfirst, hrest]
  cases hdomain : hasDomain d APPLICATION_REJECT_DOMAIN <;> simp [hdomain, hmarked]

theorem exec_gotoRule {snapshot : Snapshot} {goto : AppChain → Step (Meta Counter) Exit}
    {chain : AppChain} (hgoto : goto chain d = decided (admitted snapshot p d, .ret))
    (before : List Xtables.Match) :
    Xtables.Rule.exec p goto
        ⟨before ++ [domainMatch APPLICATION_HANDOFF_DOMAIN], [], .goto chain⟩ d =
      if Xtables.allHold p d before && hasDomain d APPLICATION_HANDOFF_DOMAIN then
        decided (admitted snapshot p d, .ret)
      else (d, none) := by
  have htests : (Xtables.allHold p d before && hasDomain d APPLICATION_HANDOFF_DOMAIN) =
      Xtables.allHold p d (before ++ [domainMatch APPLICATION_HANDOFF_DOMAIN]) := by
    rw [Xtables.allHold_append, Xtables.allHold_cons, Xtables.allHold_nil, Bool.and_true]
    rfl
  rw [htests]
  exact Xtables.Rule.exec_of_decided (Xtables.Target.exec_goto hgoto)

theorem run_appendPacketHandoffs {snapshot : Snapshot}
    {goto : AppChain → Step (Meta Counter) Exit}
    (hgoto : goto .packet d = decided (admitted snapshot p d, .ret)) :
    run (Xtables.Rule.exec p goto) (appendPacketHandoffs snapshot p.family) d =
      if (attributable p && decide (p.l4proto ≠ protoTcp) || decide (snapshot.mode = .learning)) &&
          hasDomain d APPLICATION_HANDOFF_DOMAIN then
        decided (admitted snapshot p d, .ret)
      else (d, none) := by
  have hprotocols : run (Xtables.Rule.exec p goto)
      ((applicationNonTcpProtocols p.family).map fun protocol =>
        ⟨[.protocol protocol, domainMatch APPLICATION_HANDOFF_DOMAIN], [], .goto .packet⟩) d =
      if (applicationNonTcpProtocols p.family).any fun protocol =>
          decide (p.l4proto = protocol) && hasDomain d APPLICATION_HANDOFF_DOMAIN then
        decided (admitted snapshot p d, .ret)
      else (d, none) := by
    apply run_map_eq_any
    intro protocol _
    refine Eq.trans (exec_gotoRule p d hgoto [.protocol protocol]) ?_
    rw [Xtables.allHold_cons, Xtables.allHold_nil, Bool.and_true]
    rfl
  have hlearning : run (Xtables.Rule.exec p goto)
      (if snapshot.mode = .learning then
        [⟨[domainMatch APPLICATION_HANDOFF_DOMAIN], [], .goto .packet⟩] else []) d =
      if decide (snapshot.mode = .learning) && hasDomain d APPLICATION_HANDOFF_DOMAIN then
        decided (admitted snapshot p d, .ret)
      else (d, none) :=
    run_optional fun _ => (run_singleton _ _ _).trans (exec_gotoRule p d hgoto [])
  rw [appendPacketHandoffs, run_append_guard _ hprotocols, hlearning, ← any_nonTcpProtocols]
  cases hasDomain d APPLICATION_HANDOFF_DOMAIN with
  | false => simp
  | true =>
    simp only [Bool.and_true]
    cases (applicationNonTcpProtocols p.family).any fun protocol =>
      decide (p.l4proto = protocol) <;> simp

theorem run_appendVerdictConsumers (hsome : snapshot.applicationInterception ≠ .none) :
    run (Xtables.Rule.exec p
        ((compileFamily snapshot p.family snapshot.applicationInterception).enter p))
        (appendVerdictConsumers snapshot p.family snapshot.applicationInterception) d =
      if hasDomain d APPLICATION_REJECT_DOMAIN then
        decided ((withConnmark p (applicationRejectConnmark snapshot.flowGeneration) d).count
          .droppedOut, Exit.ofVerdict (refusedVerdict p))
      else if (intercepted p snapshot.applicationInterception ||
          decide (snapshot.mode = .learning)) && hasDomain d APPLICATION_HANDOFF_DOMAIN then
        decided (admitted snapshot p d, .ret)
      else (d, none) := by
  have hactive := run_appendApplicationChain p d snapshot fun _ => Step.skip
  have htcp : (compileFamily snapshot p.family snapshot.applicationInterception).enter p .tcp d =
      decided (admitted snapshot p d, .ret) := by
    rwa [← decide_eq_true hsome] at hactive
  rw [appendVerdictConsumers, List.append_assoc,
    run_append_guard _ (run_appendRefusals p d snapshot _), List.singleton_append]
  congr 1
  refine Eq.trans (run_cons_guard _ (exec_gotoRule p d htcp [.protocol protoTcp])) ?_
  have hproto : Xtables.allHold p d [.protocol protoTcp] = decide (p.l4proto = protoTcp) :=
    Bool.and_true _
  rw [hproto]
  by_cases hpacket : snapshot.applicationInterception = .perPacket
  · have hgoto : (compileFamily snapshot p.family snapshot.applicationInterception).enter p
        .packet d = decided (admitted snapshot p d, .ret) := by
      rwa [← decide_eq_true hpacket] at hactive
    rw [if_pos hpacket, run_appendPacketHandoffs p d hgoto, hpacket]
    by_cases htcp : p.l4proto = protoTcp <;> cases hasDomain d APPLICATION_HANDOFF_DOMAIN <;>
      simp [intercepted, attributable, htcp]
  · -- learning attributes every protocol, so only TCP is left here
    have hmode : snapshot.mode ≠ .learning := fun h =>
      hpacket (by simp [Snapshot.applicationInterception, classifyApplicationInterception, h])
    have hinitial : snapshot.applicationInterception = .tcpInitial := by
      cases h : snapshot.applicationInterception with
      | none => exact absurd h hsome
      | tcpInitial => rfl
      | perPacket => exact absurd h hpacket
    simp [hinitial, hmode, intercepted]

theorem run_connmarkReset :
    run (Xtables.Rule.exec p goto) ((applicationNonTcpProtocols p.family).map fun protocol =>
        ⟨[.protocol protocol, ct none (some .original)], [],
          .connmark 0 APPLICATION_CONNMARK_MASK⟩) d =
      (if p.isOriginal && (attributable p && decide (p.l4proto ≠ protoTcp)) then withConnmark p 0 d
        else d, none) := by
  have hany : (p.isOriginal && (attributable p && decide (p.l4proto ≠ protoTcp))) =
      (applicationNonTcpProtocols p.family).any fun protocol =>
        decide (p.l4proto = protocol) && p.isOriginal := by
    rw [List.any_and_right, any_nonTcpProtocols, Bool.and_comm]
  rw [hany]
  refine run_map_eq_update (withConnmark_zero_idem p) (fun protocol _ s => ?_) d
  have htests : Xtables.allHold p s [.protocol protocol, ct none (some .original)] =
      (decide (p.l4proto = protocol) && p.isOriginal) := by
    rw [Xtables.allHold_cons, Xtables.allHold_cons, Xtables.allHold_nil, holds_ctdir,
      Bool.and_true]
    rfl
  rw [Xtables.Rule.exec, htests]
  cases decide (p.l4proto = protocol) && p.isOriginal with
  | false => rfl
  | true => exact exec_connmark p goto s (by decide)

theorem run_appendOutputFastPaths (hsome : snapshot.applicationInterception ≠ .none) :
    run (Xtables.Rule.exec p goto)
        (appendOutputFastPaths snapshot p.family snapshot.applicationInterception) d =
      if fastPath snapshot p .outbound d.connmark then decided (d.count .acceptedOut, .ret)
      else (resetFlow snapshot p d, none) := by
  have hflow : run (Xtables.Rule.exec p goto) [⟨[.protocol protoTcp,
      ct (some [.established]) (some .original), flowMarkMatch snapshot], [.acceptedOut], .ret⟩] d =
        if flowMarked snapshot p d.connmark &&
            flowShape p snapshot.applicationInterception .outbound then
          decided (d.count .acceptedOut, .ret)
        else (d, none) := by
    have htests : (flowMarked snapshot p d.connmark &&
        flowShape p snapshot.applicationInterception .outbound) = Xtables.allHold p d
          [.protocol protoTcp, ct (some [.established]) (some .original),
            flowMarkMatch snapshot] := by
      simp only [Xtables.allHold_cons, Xtables.allHold_nil, holds_flowMarkMatch,
        holds_ct p d [.established] .original (by decide)]
      simp only [flowShape, Xtables.Match.holds, Packet.isOriginal, List.mem_singleton,
        decide_eq_true hsome, Bool.and_true, Bool.true_and]
      ac_rfl
    rw [htests, run_singleton]
    exact Xtables.Rule.exec_of_decided rfl
  have hreset : run (Xtables.Rule.exec p goto)
      (if snapshot.applicationInterception = .perPacket then
        (applicationNonTcpProtocols p.family).map fun protocol =>
          ⟨[.protocol protocol, ct none (some .original)], [],
            .connmark 0 APPLICATION_CONNMARK_MASK⟩
      else []) d = (resetFlow snapshot p d, none) := by
    by_cases hpacket : snapshot.applicationInterception = .perPacket
    · rw [if_pos hpacket, run_connmarkReset, resetFlow, decide_eq_true hpacket, Bool.true_and,
        Bool.and_assoc]
    · simp [hpacket, resetFlow]
  rw [appendOutputFastPaths, List.append_assoc,
    run_append_guard _ (run_appendApplicationLoopbackAccept p goto d snapshot .outbound _),
    run_append_guard _ hflow, hreset, fastPath]
  cases flowMarked snapshot p d.connmark <;>
    cases decide (snapshot.mode = .enforcing) && loopbackShape p .outbound &&
      intercepted p snapshot.applicationInterception <;> rfl

end Filter

section Policy

variable (snapshot : ValidSnapshot) (p : Packet) (goto : AppChain → Step (Meta Counter) Exit)
  (d : Meta Counter)

theorem run_appendApplicationRuleQueues (actions : List RuleAction) :
    run (Xtables.Rule.exec p goto)
        (appendApplicationRuleQueues snapshot.toSnapshot p.family actions) d =
      if p.isOriginal && applicationEnvelope snapshot.toSnapshot p actions then
        decided (withDomain APPLICATION_PENDING_DOMAIN d,
          .final (.queue APPLICATION_QUEUE_NUMBER false))
      else (d, none) := by
  have hany : (p.isOriginal && applicationEnvelope snapshot.toSnapshot p actions) =
      (applicationCandidates snapshot.toSnapshot p.family actions).any fun r =>
        envelope p r.spec && p.isOriginal := by
    rw [List.any_and_right, any_envelope, Bool.and_comm]
  rw [hany]
  apply run_flatMap_eq_any
  intro r hr
  have htests (d : Meta Counter) : Xtables.allHold p d (ruleMatch r.spec .outbound false ++
      [ct none (some .original)]) = (envelope p r.spec && p.isOriginal) := by
    rw [Xtables.allHold_append, allHold_ruleMatch p d (mem_applicationCandidates _ p hr),
      Xtables.allHold_cons, Xtables.allHold_nil, holds_ctdir, Bool.and_true]
    rfl
  rw [← htests d]
  exact Xtables.run_effect_then (by rw [htests, htests]) (exec_mark p goto d (by decide)) rfl

theorem run_appendApplicationCandidateGuardDrops (actions : List RuleAction) :
    run (Xtables.Rule.exec p goto)
        (appendApplicationCandidateGuardDrops snapshot.toSnapshot p.family actions) d =
      if (decide (p.ct.bit = .untracked) &&
            applicationEnvelope snapshot.toSnapshot p actions) ||
          (p.isOriginal && originalGuard snapshot.toSnapshot p actions) then
        decided (d.count .droppedOut, .final .drop)
      else (d, none) := by
  have hany : ((decide (p.ct.bit = .untracked) &&
        applicationEnvelope snapshot.toSnapshot p actions) ||
      (p.isOriginal && originalGuard snapshot.toSnapshot p actions)) =
        (applicationCandidates snapshot.toSnapshot p.family actions).any fun r =>
          (envelope p r.spec && decide (p.ct.bit = .untracked)) ||
            (selectsDestination r.spec && originalEnvelope p r.spec && p.isOriginal) := by
    rw [← List.any_or_any, List.any_and_right, List.any_and_right, any_envelope,
      any_originalEnvelope, Bool.and_comm, Bool.and_comm p.isOriginal]
  rw [hany]
  apply run_flatMap_eq_any
  intro r hr
  have hfamily := mem_applicationCandidates _ p hr
  have hcurrent : run (Xtables.Rule.exec p goto)
      [⟨ruleMatch r.spec .outbound false ++ [ct (some [.untracked]) none], [.droppedOut],
        .drop⟩] d =
      if envelope p r.spec && decide (p.ct.bit = .untracked) then
        decided (d.count .droppedOut, .final .drop)
      else (d, none) := by
    have htests : (envelope p r.spec && decide (p.ct.bit = .untracked)) =
        Xtables.allHold p d
          (ruleMatch r.spec .outbound false ++ [ct (some [.untracked]) none]) := by
      rw [Xtables.allHold_append, allHold_ruleMatch p d hfamily, Xtables.allHold_cons,
        Xtables.allHold_nil, holds_ctstate, Bool.and_true, envelope]
      simp only [List.mem_singleton]
    rw [htests, run_singleton]
    exact Xtables.Rule.exec_of_decided rfl
  have horiginal : run (Xtables.Rule.exec p goto)
      (if r.spec.peerNetwork.isNone && r.spec.port.isNone then []
        else [⟨originalMatch r.spec, [.droppedOut], .drop⟩]) d =
      if selectsDestination r.spec && originalEnvelope p r.spec && p.isOriginal then
        decided (d.count .droppedOut, .final .drop)
      else (d, none) := by
    cases hnone : r.spec.peerNetwork.isNone && r.spec.port.isNone with
    | true => simp [selectsDestination, hnone]
    | false =>
      rw [if_neg Bool.false_ne_true, selectsDestination, hnone, Bool.not_false, Bool.true_and,
        Bool.and_comm, ← allHold_originalMatch p d hfamily, run_singleton]
      exact Xtables.Rule.exec_of_decided rfl
  rw [run_append_guard _ hcurrent, horiginal]
  cases envelope p r.spec && decide (p.ct.bit = .untracked) <;> rfl

theorem run_candidates (hmode : snapshot.mode ≠ .blockAll) :
    run (Xtables.Rule.exec p goto)
        (appendReverseRules snapshot.toSnapshot p.family .outbound ++
          (appendOutputCandidates snapshot.toSnapshot p.family ++
            (appendDirectRulesForActions snapshot.toSnapshot p.family .outbound [.accept] ++
              ((if snapshot.mode = .learning then [⟨[], [.acceptedOut], .ret⟩] else []) ++
                [⟨[], [.droppedOut], .drop⟩])))) d =
      decided ((candidateDecision snapshot.toSnapshot p d).1,
        Exit.ofVerdict (candidateDecision snapshot.toSnapshot p d).2) := by
  have hqueued : appendOutputCandidates snapshot.toSnapshot p.family =
      appendApplicationRuleQueues snapshot.toSnapshot p.family (queuedActions snapshot.mode) ++
        appendApplicationCandidateGuardDrops snapshot.toSnapshot p.family
          (queuedActions snapshot.mode) := by
    unfold appendOutputCandidates
    cases hcase : snapshot.mode with
    | blockAll => exact absurd hcase hmode
    | learning => rfl
    | enforcing => rfl
  rw [hqueued, run_append_guard _ (run_reverse snapshot p goto d .outbound), List.append_assoc,
    run_append_guard _ (run_appendApplicationRuleQueues snapshot p goto d _),
    run_append_guard _ (run_appendApplicationCandidateGuardDrops snapshot p goto d _),
    run_append_guard _ (run_accepts snapshot p goto d .outbound)]
  unfold candidateDecision
  split_ifs <;> rfl

theorem run_verdicts (rest : List XRule)
    (hrest : ∀ d, run (Xtables.Rule.exec p ((compileFamily snapshot.toSnapshot p.family
        snapshot.applicationInterception).enter p)) rest d =
      decided ((candidateDecision snapshot.toSnapshot p d).1,
        Exit.ofVerdict (candidateDecision snapshot.toSnapshot p d).2)) :
    run (Xtables.Rule.exec p ((compileFamily snapshot.toSnapshot p.family
        snapshot.applicationInterception).enter p))
        ((if snapshot.applicationInterception = .none then []
          else
            appendVerdictConsumers snapshot.toSnapshot p.family
              snapshot.applicationInterception ++
              appendOutputFastPaths snapshot.toSnapshot p.family
                snapshot.applicationInterception) ++ rest) d =
      decided ((verdictDecision snapshot.toSnapshot p d).1,
        Exit.ofVerdict (verdictDecision snapshot.toSnapshot p d).2) := by
  unfold verdictDecision
  by_cases hnone : snapshot.applicationInterception = .none
  · -- without application rules there is nothing to authorise; learning always has some
    have hmode : snapshot.mode ≠ .learning := fun h => by
      simp [Snapshot.applicationInterception, classifyApplicationInterception, h] at hnone
    rw [if_pos hnone, List.nil_append, hrest]
    simp [hnone, hmode, intercepted, fastPath, flowShape, resetFlow]
  · rw [if_neg hnone, List.append_assoc, run_append, Step.andThen,
      run_appendVerdictConsumers p d snapshot.toSnapshot hnone, decide_eq_true hnone,
      Bool.true_and]
    have hafter := run_append_guard rest (run_appendOutputFastPaths p d snapshot.toSnapshot
      ((compileFamily snapshot.toSnapshot p.family snapshot.applicationInterception).enter p)
      hnone)
    rw [hrest] at hafter
    split_ifs <;> simp_all [decided, Exit.ofVerdict]

theorem entry_output (hmode : snapshot.mode ≠ .blockAll) :
    Xtables.builtinEntry
        [(compileFamily snapshot.toSnapshot p.family snapshot.applicationInterception).chain p
          (appendOutputChain snapshot.toSnapshot p.family snapshot.applicationInterception)] d =
      outputDecision snapshot.toSnapshot p d := by
  refine Xtables.builtinEntry_of_decided ?_
  unfold FamilyPolicy.chain appendOutputChain outputRules
  rw [if_neg hmode]
  simp only [List.append_assoc]
  rw [List.singleton_append, run_cons, Step.andThen_of_none _ (exec_ownership p _ d),
    run_append_guard _ (run_optional fun _ =>
      (run_singleton _ _ _).trans (exec_appendInvalidDrop p _ d _)),
    run_append_guard _ (run_optional fun _ =>
      run_appendGeneratedRejectReplyAccept p _ d snapshot.toSnapshot _),
    ← List.append_assoc (appendDirectRulesForActions _ _ _ [.drop]),
    run_append_elim _ (run_denies snapshot p _ d),
    run_verdicts snapshot p d _ fun d => run_candidates snapshot p _ d hmode]
  unfold outputDecision
  cases networkDeny snapshot.toSnapshot p <;> simp only [Option.elim] <;> split_ifs <;>
    simp_all [Exit.ofVerdict]

end Policy

end OpenShield.Iptables
