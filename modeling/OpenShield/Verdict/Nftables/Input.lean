import OpenShield.Verdict.Input
import OpenShield.Verdict.Nftables.Blocks

/-!
# The input hook of the nftables backend
-/

namespace OpenShield.Nftables

open Netfilter

section Shapes

variable (p : Packet) (d : Meta Counter)

theorem any_dhcpBootstrapSelectors :
    dhcpBootstrapSelectors.any (Nft.allHold p d) = dhcpBootstrap p := by
  by_cases hudp : p.l4proto = protoUdp <;> cases hfamily : p.family <;>
    simp [dhcpBootstrapSelectors, dhcpBootstrap, linkLocalV6, Nft.Match.holds, hfamily, hudp,
      Bool.and_assoc]

theorem holds_saddrNot {net : IpNet} (hnet : net.family = .ipv6) (hfamily : p.family = .ipv6) :
    (Nft.Match.saddrNot net).holds p d = !net.maskMatches p.src := by
  have hsource : p.src.family = .ipv6 := p.sameFamily.trans hfamily
  simp [Nft.Match.holds, hnet, hsource]

theorem allHold_icmpV6Message (type : BitVec 8) (code : Option (BitVec 8)) :
    Nft.allHold p d (icmpV6Message type code) =
      (decide (p.l4proto = protoIcmpV6) && p.icmpIs type code) :=
  Nft.allHold_icmp p d protoIcmpV6 type code

theorem allHold_unicastSourceV6 (hfamily : p.family = .ipv6) :
    Nft.allHold p d unicastSourceV6 = unicastSource p := by
  rw [unicastSourceV6, Nft.allHold_cons, Nft.allHold_cons, Nft.allHold_nil,
    holds_saddrNot p d rfl hfamily, holds_saddrNot p d rfl hfamily, Bool.and_true, unicastSource]

theorem allHold_relatedIcmpV6Error (hfamily : p.family = .ipv6) (type : BitVec 8)
    (code : Option (BitVec 8)) :
    Nft.allHold p d (relatedIcmpV6Error type code) =
      (decide (p.l4proto = protoIcmpV6) &&
        (decide (p.ct.bit = .related) && unicastSource p && p.icmpIs type code)) := by
  rw [relatedIcmpV6Error, List.cons_append, List.cons_append, Nft.allHold_cons, Nft.allHold_cons,
    Nft.allHold_append, allHold_icmpV6Message, allHold_unicastSourceV6 p d hfamily]
  simp only [Nft.Match.holds, hfamily, List.mem_singleton, decide_true, Bool.true_and]
  ac_rfl

theorem allHold_linkIcmpV6 (hfamily : p.family = .ipv6) (addresses : List Nft.Match)
    (hops type : BitVec 8) :
    Nft.allHold p d (linkIcmpV6 addresses hops type) =
      (decide (p.l4proto = protoIcmpV6) &&
        (decide (p.hopLimit = hops) && Nft.allHold p d addresses && p.icmpIs type (some 0))) := by
  rw [linkIcmpV6, List.cons_append, Nft.allHold_cons, Nft.allHold_append, Nft.allHold_cons,
    allHold_icmpV6Message]
  simp only [Nft.Match.holds, hfamily, decide_true, Bool.true_and]
  ac_rfl

/-- The printed shapes of ICMPv6 messages. -/
theorem any_ipv6HostControlSelectors :
    ipv6HostControlSelectors.any (Nft.allHold p d) = ipv6HostControl p := by
  by_cases hfamily : p.family = .ipv6
  · have hll : Nft.allHold p d [.saddr linkLocalV6] = linkLocalV6.maskMatches p.src :=
      Bool.and_true _
    have hmulticast : Nft.allHold p d [.saddrNot multicastV6] = !multicastV6.maskMatches p.src := by
      rw [Nft.allHold_cons, Nft.allHold_nil, holds_saddrNot p d rfl hfamily, Bool.and_true]
    have hquery : Nft.allHold p d [.saddr linkLocalV6, .daddr linkLocalMulticastV6] =
        (linkLocalV6.maskMatches p.src && linkLocalMulticastV6.maskMatches p.dst) := by
      simp [Nft.Match.holds]
    simp only [ipv6HostControlSelectors, List.any_cons, List.any_nil,
      allHold_relatedIcmpV6Error p d hfamily, allHold_linkIcmpV6 p d hfamily, hll, hmulticast,
      hquery, allHold_unicastSourceV6 p d hfamily]
    simp only [ipv6HostControl, hfamily, icmpV6Error, icmpV6Link, decide_true, Bool.true_and,
      Bool.or_false, Bool.and_or_distrib_left, Bool.or_assoc, Bool.and_assoc]
  · -- every printed shape asks for the family
    simp [ipv6HostControlSelectors, relatedIcmpV6Error, linkIcmpV6, ipv6HostControl,
      Nft.Match.holds, hfamily]

theorem run_shapes (shapes : List (List Nft.Match)) (counter : Counter) :
    run (Nft.Rule.exec p) (shapes.map fun shape =>
        Nft.rule shape [.counter counter, .verdict .accept]) d =
      if shapes.any (Nft.allHold p d) then decided (d.count counter, .accept) else (d, none) := by
  apply run_map_eq_any
  intro shape _
  exact Nft.Rule.exec_rule_of_decided shape rfl

theorem run_appendDhcpBootstrapAccepts (counter : Counter) :
    run (Nft.Rule.exec p) (appendDhcpBootstrapAccepts counter) d =
      if dhcpBootstrap p then decided (d.count counter, .accept) else (d, none) := by
  rw [← any_dhcpBootstrapSelectors p d]
  exact run_shapes p d _ counter

theorem run_appendIpv6HostControlPlaneAccepts (counter : Counter) :
    run (Nft.Rule.exec p) (appendIpv6HostControlPlaneAccepts counter) d =
      if ipv6HostControl p then decided (d.count counter, .accept) else (d, none) := by
  rw [← any_ipv6HostControlSelectors p d]
  exact run_shapes p d _ counter

/-- What `learning` accepts beyond the policy. -/
theorem run_learningInput :
    run (Nft.Rule.exec p)
        [Nft.rule [.iifname "lo", .ctDirection .original] [.counter .acceptedIn, .verdict .accept],
          Nft.rule [.ctDirection .reply, .ctState [.established, .related]]
            [.counter .acceptedIn, .verdict .accept]] d =
      if learningInput p then decided (d.count .acceptedIn, .accept) else (d, none) := by
  refine Eq.trans (run_shapes p d [[.iifname "lo", .ctDirection .original],
    [.ctDirection .reply, .ctState [.established, .related]]] .acceptedIn) ?_
  simp [learningInput, Nft.Match.holds, Packet.isOriginal, Packet.isReply]

end Shapes

section Policy

variable (snapshot : ValidSnapshot) (p : Packet) (d : Meta Counter)

theorem portsAreTransport_of_replyCandidate {r : Rule}
    (hr : r ∈ applicationReplyCandidates snapshot.toSnapshot) : PortsAreTransport r.spec := by
  simp only [applicationReplyCandidates, List.mem_flatMap, List.mem_insertionSort,
    List.mem_filter, List.mem_map] at hr
  obtain ⟨rule, ⟨hmem, -⟩, protocol, ⟨-, happlies⟩, rfl⟩ := hr
  intro hport
  have htransport := portsAreTransport_of_mem snapshot hmem hport
  -- a rule with ports has a protocol, which the candidate keeps
  simp only [replyProtocolApplies, Bool.and_eq_true, Bool.or_eq_true, decide_eq_true_eq] at happlies
  rcases happlies.1 with h | h
  · rw [h] at htransport
    simp at htransport
  · rwa [h] at htransport

theorem run_appendApplicationReplyQueues :
    run (Nft.Rule.exec p) (appendApplicationReplyQueues snapshot.toSnapshot) d =
      if awaitsAuthorisation snapshot.toSnapshot p d then
        decided (d, .queue APPLICATION_REPLY_QUEUE_NUMBER false)
      else (d, none) := by
  rw [awaitsAuthorisation, ← List.any_and_right]
  apply run_map_eq_any
  intro r hr
  refine Eq.trans (Nft.Rule.exec_rule_of_decided _ (x := (d, .queue _ false)) rfl) ?_
  congr 2
  rw [Nft.allHold_append, Nft.allHold_append, allHold_ruleSelectors p d
    (portsAreTransport_of_replyCandidate snapshot hr), Nft.allHold_cons, Nft.allHold_nil]
  have hmark : (Nft.Match.metaMarkNot APPLICATION_MARK_DOMAIN_MASK
      APPLICATION_HANDOFF_DOMAIN).holds p d = !hasDomain d APPLICATION_HANDOFF_DOMAIN := rfl
  rw [hmark, Bool.and_true]
  congr 1
  -- the header of an echo reply repeats the protocol of the rule
  cases hprotocol : r.spec.protocol with
  | icmp =>
    simp only [Nft.allHold_icmpHeader, echoReply, selectorsMatch, hprotocol, protocolMatches]
    by_cases hproto : p.l4proto = protoIcmp <;> simp [hproto]
  | icmpV6 =>
    simp only [Nft.allHold_icmpHeader, echoReply, selectorsMatch, hprotocol, protocolMatches]
    by_cases hproto : p.l4proto = protoIcmpV6 <;> simp [hproto]
  | _ => rfl

theorem entry_input (hmode : snapshot.mode ≠ .blockAll) :
    (policy snapshot.toSnapshot).input.entry p d = inputDecision snapshot.toSnapshot p d := by
  have hrun : run (Nft.Rule.exec p)
      (inputRules snapshot.toSnapshot snapshot.applicationInterception ++
        [[.counter .droppedIn, .verdict .drop]]) d =
      decided (inputDecision snapshot.toSnapshot p d) := by
    simp only [inputRules, List.append_assoc]
    rw [run_append_guard _ (run_optional fun _ => run_appendGeneratedRejectReplyAccept p d _ _ _),
      run_append_guard _ (run_appendDhcpBootstrapAccepts p d _),
      run_append_guard _ (run_invalidDrop p d _),
      run_append_guard _ (run_appendIpv6HostControlPlaneAccepts p d _),
      run_append_guard _ (run_optional fun _ => run_learningInput p d),
      run_append_guard _ (run_appendFastPaths p d _ _ _),
      run_append_guard _ (run_accepts snapshot p _ _ _),
      run_append_guard _ (run_reverse snapshot p _ _ _),
      run_append_guard _ (run_optional fun _ => run_appendApplicationReplyQueues snapshot p _)]
    have hfast : acceptFast .inbound .acceptedIn d = (d.count .acceptedIn, .accept) := rfl
    have hlast : run (Nft.Rule.exec p) [[.counter .droppedIn, .verdict .drop]] d =
        decided (d.count .droppedIn, .drop) := rfl
    simp only [reduceCtorEq, false_and, if_false, ite_ite_same, hfast, hlast,
      Bool.decide_eq_true]
    cases hreject : hasEnabledOutboundReject snapshot.toSnapshot &&
        generatedRejectReply snapshot.toSnapshot p d.connmark with
    | true => simp [inputDecision_of_rejectReply hreject]
    | false =>
      simp only [inputDecision, inputAdmitted, hreject, Bool.false_or, Bool.or_false,
        Bool.or_assoc, apply_ite decided]
  have hchain : (policy snapshot.toSnapshot).input.rules =
      inputRules snapshot.toSnapshot snapshot.applicationInterception ++
        [[.counter .droppedIn, .verdict .drop]] := by
    simp [policy, appendChain, hmode]
  exact Nft.BaseChain.entry_of_some (by rw [hchain]; exact hrun)

end Policy

end OpenShield.Nftables
