import OpenShield.Verdict.Input
import OpenShield.Verdict.Iptables.Blocks

/-!
# The input hook of the iptables backend
-/

namespace OpenShield.Iptables

open Netfilter
open Nftables (unspecifiedV6 multicastV6 linkLocalV6 linkLocalMulticastV6)
open Xtables (Exit)

section Shapes

variable (p : Packet) (goto : AppChain → Step (Meta Counter) Exit) (d : Meta Counter)

theorem allHold_dhcpBootstrapSelector :
    Xtables.allHold p d (dhcpBootstrapSelector p.family) = dhcpBootstrap p := by
  cases hfamily : p.family <;>
    simp only [dhcpBootstrapSelector, dhcpBootstrap, hfamily, Xtables.allHold_cons,
      Xtables.allHold_nil, Xtables.Match.holds, Bool.and_true] <;>
    ac_rfl

theorem holds_srcTypeNot_unicast :
    (Xtables.Match.srcTypeNot [.unspec, .multicast]).holds p d = unicastSource p := by
  have hunspecified : unspecifiedV6.maskMatches p.src = decide (p.src = .v6 0) :=
    IpNet.maskMatches_toIpNet (.v6 0) p.src
  simp [Xtables.Match.holds, Xtables.AddrType.holds, unicastSource, hunspecified, multicastV6]

theorem holds_srcTypeNot_multicast :
    (Xtables.Match.srcTypeNot [.multicast]).holds p d = !multicastV6.maskMatches p.src := by
  simp [Xtables.Match.holds, Xtables.AddrType.holds, multicastV6]

theorem allHold_relatedIcmpV6Error (type : BitVec 8) (code : Option (BitVec 8)) :
    Xtables.allHold p d (relatedIcmpV6Error type code) =
      (decide (p.l4proto = protoIcmpV6) &&
        (decide (p.ct.bit = .related) && unicastSource p && p.icmpIs type code)) := by
  rw [relatedIcmpV6Error, Xtables.allHold_cons, Xtables.allHold_cons, Xtables.allHold_cons,
    Xtables.allHold_cons, Xtables.allHold_nil, holds_ctstate, holds_srcTypeNot_unicast]
  simp only [Xtables.Match.holds, List.mem_singleton, Bool.and_true]
  ac_rfl

/-- The printed shapes of ICMPv6 messages. -/
theorem any_ipv6HostControlSelectors (hfamily : p.family = .ipv6) :
    ipv6HostControlSelectors.any (Xtables.allHold p d) = ipv6HostControl p := by
  simp only [ipv6HostControlSelectors, List.any_cons, List.any_nil, allHold_relatedIcmpV6Error,
    Xtables.allHold_cons, Xtables.allHold_nil, holds_srcTypeNot_unicast,
    holds_srcTypeNot_multicast]
  simp only [Xtables.Match.holds, ipv6HostControl, hfamily, icmpV6Error, icmpV6Link, decide_true,
    Bool.true_and, Bool.and_true, Bool.or_false]
  by_cases hproto : p.l4proto = protoIcmpV6
  · simp only [hproto, decide_true, Bool.true_and, Bool.and_or_distrib_left,
      Bool.or_assoc, Bool.and_assoc]
    ac_rfl
  · simp [hproto]

theorem run_shapes (shapes : List (List Xtables.Match)) (counter : Counter) :
    run (Xtables.Rule.exec p goto) (shapes.map fun shape => ⟨shape, [counter], .ret⟩) d =
      if shapes.any (Xtables.allHold p d) then decided (d.count counter, .ret) else (d, none) := by
  apply run_map_eq_any
  intro shape _
  exact Xtables.Rule.exec_of_decided rfl

theorem run_appendIpv6HostControlPlaneAccepts :
    run (Xtables.Rule.exec p goto) (appendIpv6HostControlPlaneAccepts p.family) d =
      if ipv6HostControl p then decided (d.count .acceptedIn, .ret) else (d, none) := by
  unfold appendIpv6HostControlPlaneAccepts
  by_cases hfamily : p.family = .ipv6
  · rw [if_neg (not_not.mpr hfamily), run_shapes, any_ipv6HostControlSelectors p d hfamily]
  · simp [hfamily, ipv6HostControl]

/-- What `learning` accepts beyond the policy. -/
theorem run_learningInput :
    run (Xtables.Rule.exec p goto)
        [⟨[.inInterface "lo", ct none (some .original)], [.acceptedIn], .ret⟩,
          ⟨[ct (some [.related, .established]) (some .reply)], [.acceptedIn], .ret⟩] d =
      if learningInput p then decided (d.count .acceptedIn, .ret) else (d, none) := by
  refine Eq.trans (run_shapes p goto d [[.inInterface "lo", ct none (some .original)],
    [ct (some [.related, .established]) (some .reply)]] .acceptedIn) ?_
  simp only [List.any_cons, List.any_nil, Xtables.allHold_cons, Xtables.allHold_nil, holds_ctdir,
    holds_ct p d [.related, .established] .reply (by decide)]
  simp [learningInput, Xtables.Match.holds, Packet.isOriginal, Packet.isReply, Bool.and_comm,
    Bool.or_comm]

theorem run_appendReplyFlowAccept (snapshot : Snapshot) (interception : ApplicationInterception) :
    run (Xtables.Rule.exec p goto) (appendReplyFlowAccept snapshot p.family interception) d =
      if flowMarked snapshot p d.connmark && flowShape p interception .inbound then
        decided (d.count .acceptedIn, .ret)
      else (d, none) := by
  have hany : (flowMarked snapshot p d.connmark && flowShape p interception .inbound) =
      (interceptedProtocols p.family interception).any fun protocol =>
        decide (p.l4proto = protocol) &&
          (establishedReply p && flowMarked snapshot p d.connmark) := by
    rw [List.any_and_right, any_interceptedProtocols, flowShape]
    ac_rfl
  rw [hany]
  apply run_map_eq_any
  intro protocol _
  have htests : (decide (p.l4proto = protocol) &&
      (establishedReply p && flowMarked snapshot p d.connmark)) =
        Xtables.allHold p d [.protocol protocol, ct (some [.established]) (some .reply),
          flowMarkMatch snapshot] := by
    rw [Xtables.allHold_cons, Xtables.allHold_cons, Xtables.allHold_cons, Xtables.allHold_nil,
      holds_ct p d [.established] .reply (by decide), holds_flowMarkMatch]
    simp only [Xtables.Match.holds, establishedReply, Packet.isReply, List.mem_singleton,
      Bool.and_true]
    ac_rfl
  rw [htests]
  exact Xtables.Rule.exec_of_decided rfl

theorem run_inputFastPaths (snapshot : Snapshot) :
    run (Xtables.Rule.exec p goto)
        (if snapshot.applicationInterception = .none then []
        else
          appendApplicationLoopbackAccept snapshot p.family .inbound
              snapshot.applicationInterception ++
            appendReplyFlowAccept snapshot p.family snapshot.applicationInterception) d =
      if fastPath snapshot p .inbound d.connmark then decided (d.count .acceptedIn, .ret)
      else (d, none) := by
  by_cases hnone : snapshot.applicationInterception = .none
  · simp [hnone, fastPath, intercepted, flowShape]
  · rw [if_neg hnone, run_append_guard _ (run_appendApplicationLoopbackAccept p goto d snapshot
      .inbound _), run_appendReplyFlowAccept p goto d snapshot _]
    refine Eq.trans (ite_ite_same _ _ _ _) ?_
    rw [fastPath, Bool.and_or_distrib_left, acceptedCounter]

end Shapes

section Policy

variable (snapshot : ValidSnapshot) (p : Packet) (goto : AppChain → Step (Meta Counter) Exit)
  (d : Meta Counter)

theorem run_appendApplicationReplyQueues :
    run (Xtables.Rule.exec p goto)
        (appendApplicationReplyQueues snapshot.toSnapshot p.family) d =
      if awaitsAuthorisation snapshot.toSnapshot p d then
        decided (d, .final (.queue APPLICATION_REPLY_QUEUE_NUMBER false))
      else (d, none) := by
  have hany : awaitsAuthorisation snapshot.toSnapshot p d =
      ((Nftables.applicationReplyCandidates snapshot.toSnapshot).filter fun r =>
        supportsFamily r.spec p.family).any fun r =>
          selectorsMatch p r.spec .inbound true && echoReply p r.spec.protocol &&
            !hasDomain d APPLICATION_HANDOFF_DOMAIN := by
    rw [awaitsAuthorisation, ← List.any_and_right, List.any_filter_eq]
    congr 1
    funext r
    -- a candidate of the other family selects no packet of this one
    cases hsel : selectorsMatch p r.spec .inbound true with
    | false => simp
    | true => simp [supportsFamily_of_selectorsMatch hsel]
  rw [hany]
  apply run_map_eq_any
  intro r hr
  have hfamily : supportsFamily r.spec p.family = true := (List.mem_filter.mp hr).2
  refine Eq.trans (Xtables.Rule.exec_of_decided (x := (d, .final (.queue _ false))) rfl) ?_
  congr 2
  rw [Xtables.allHold_append, Xtables.allHold_append, allHold_ruleMatch p d hfamily,
    Xtables.allHold_cons, Xtables.allHold_nil, Bool.and_true]
  congr 2
  cases r.spec.protocol <;> simp [echoReply, Xtables.Match.holds]

theorem entry_input (hmode : snapshot.mode ≠ .blockAll) :
    Xtables.builtinEntry [run (Xtables.Rule.exec p goto)
        (appendInputChain snapshot.toSnapshot p.family snapshot.applicationInterception)] d =
      inputDecision snapshot.toSnapshot p d := by
  have hdhcp : Xtables.Rule.exec p goto ⟨dhcpBootstrapSelector p.family, [.acceptedIn], .ret⟩ d =
      if dhcpBootstrap p then decided (d.count .acceptedIn, .ret) else (d, none) := by
    rw [← allHold_dhcpBootstrapSelector p d]
    exact Xtables.Rule.exec_of_decided rfl
  have hlast : run (Xtables.Rule.exec p goto) [⟨[], [.droppedIn], .drop⟩] d =
      decided (d.count .droppedIn, .final .drop) := rfl
  refine Xtables.builtinEntry_of_decided ?_
  unfold appendInputChain
  rw [if_neg hmode, List.append_assoc, List.singleton_append, run_cons,
    Step.andThen_of_none _ (exec_ownership p goto d)]
  simp only [inputRules, List.append_assoc, List.cons_append, List.nil_append]
  rw [run_cons_guard _ hdhcp, run_cons_guard _ (exec_appendInvalidDrop p goto d _),
    run_append_guard _ (run_appendIpv6HostControlPlaneAccepts p goto d),
    run_append_guard _ (run_optional fun _ =>
      run_appendGeneratedRejectReplyAccept p goto d snapshot.toSnapshot _),
    run_append_guard _ (run_optional fun _ => run_learningInput p goto d),
    run_append_guard _ (run_inputFastPaths p goto d snapshot.toSnapshot),
    run_append_guard _ (run_accepts snapshot p goto d .inbound),
    run_append_guard _ (run_reverse snapshot p goto d .inbound),
    run_append_guard _ (run_optional fun _ => run_appendApplicationReplyQueues snapshot p goto d),
    hlast]
  simp only [ite_ite_same, acceptedCounter, Bool.decide_eq_true]
  unfold inputDecision inputAdmitted
  simp only [Bool.or_assoc]
  split_ifs <;> rfl

end Policy

end OpenShield.Iptables
