import OpenShield.Verdict.Rules

/-!
# Blocks of the nftables chains

What each generated block of rules does to a packet. A block either decides the packet or
hands it on, so a chain is read as a sequence of guards.
-/

namespace OpenShield.Nftables

open Netfilter

/-! ### Candidate lists -/

section Candidates

variable (snapshot : Snapshot) (p : Packet)

theorem any_directCandidates (direction : Direction) (action : RuleAction) :
    ((directCandidates snapshot direction [action]).any fun r =>
      selectorsMatch p r.spec direction false) = networkMatch snapshot p direction action := by
  rw [directCandidates, List.any_insertionSort, List.any_filter_eq, networkMatch]
  congr 1
  funext r
  simp [networkRuleMatches]

theorem any_reverseCandidates (direction : Direction) :
    ((reverseCandidates snapshot direction).any fun r =>
      selectorsMatch p r.spec direction true) = reverseMatch snapshot p direction := by
  rw [reverseCandidates, List.any_insertionSort, List.any_filter_eq, reverseMatch]

theorem any_applicationCandidates (actions : List RuleAction) (q : Rule → Bool) :
    (applicationCandidates snapshot actions).any q =
      snapshot.rules.any fun r => isApplicationRule actions r && q r := by
  rw [applicationCandidates, List.any_insertionSort, List.any_filter_eq]
  rfl

theorem mem_directCandidates {direction : Direction} {actions : List RuleAction} {r : Rule} :
    r ∈ directCandidates snapshot direction actions ↔
      r ∈ snapshot.rules ∧ (r.spec.enabled && decide (r.spec.direction = direction) &&
        r.spec.application.isNone && decide (r.spec.action ∈ actions)) = true := by
  rw [directCandidates, List.mem_insertionSort, List.mem_filter]

theorem mem_reverseCandidates {direction : Direction} {r : Rule}
    (h : r ∈ reverseCandidates snapshot direction) : r ∈ snapshot.rules := by
  rw [reverseCandidates, List.mem_insertionSort, List.mem_filter] at h
  exact h.1

theorem mem_applicationCandidates {actions : List RuleAction} {r : Rule}
    (h : r ∈ applicationCandidates snapshot actions) : r ∈ snapshot.rules := by
  rw [applicationCandidates, List.mem_insertionSort, List.mem_filter] at h
  exact h.1

theorem find?_directCandidates (snapshot : ValidSnapshot) :
    ((directCandidates snapshot.toSnapshot .outbound [.drop, .reject]).find? fun r =>
      selectorsMatch p r.spec .outbound false) = networkDeny snapshot.toSnapshot p := by
  rw [directCandidates, List.find?_insertionSort_eq_argmin ruleOrder_iff, List.filter_filter,
    networkDeny]
  · congr 2
    funext r
    cases haction : r.spec.action <;>
      simp [networkDenies, networkRuleMatches, haction, Bool.and_comm]
  · -- identifiers are part of the key
    intro a ha b hb hkey
    have hid : a.id = b.id := congrArg (fun key => (ofLex key).2) hkey
    exact snapshot.eq_of_id_eq (List.mem_of_mem_filter ha) (List.mem_of_mem_filter hb) hid

end Candidates

/-! ### Blocks of rules -/

section Blocks

variable (p : Packet) (d : Meta Counter)

def acceptFast (direction : Direction) (counter : Counter) (d : Meta Counter) :
    Meta Counter × Verdict :=
  ((if direction = .outbound then withDomain APPLICATION_HANDOFF_DOMAIN d else d).count counter,
    .accept)

variable (snapshot : Snapshot) (direction : Direction) (counter : Counter)
  (interception : ApplicationInterception)

theorem exec_fastPathAccept :
    Nft.Rule.exec p (fastPathAccept direction counter) d =
      decided (acceptFast direction counter d) := by
  cases direction <;> rfl

theorem run_fastPaths (before after : List Nft.Match) (alternatives : List (List Nft.Match))
    (direction : Direction) (counter : Counter) :
    run (Nft.Rule.exec p) (alternatives.map fun alternative =>
        Nft.rule (before ++ alternative ++ after) (fastPathAccept direction counter)) d =
      if Nft.allHold p d before && alternatives.any (Nft.allHold p d) && Nft.allHold p d after
      then decided (acceptFast direction counter d)
      else (d, none) := by
  rw [← Nft.any_allHold_between]
  apply run_map_eq_any
  intro alternative _
  rw [Nft.Rule.exec_rule, exec_fastPathAccept]

theorem any_generatedRejectReplySelectors :
    generatedRejectReplySelectors.any (Nft.allHold p d) = rejectErrorShape p := by
  show (Nft.allHold p d [.l4proto protoTcp, .tcpFlags tcpRst tcpRst] ||
    (Nft.allHold p d ([.nfproto .ipv4] ++ ([.l4proto protoIcmp, .icmpType protoIcmp 3] ++
      ((some 3).map (Nft.Match.icmpCode protoIcmp)).toList)) ||
    (Nft.allHold p d ([.nfproto .ipv6] ++ ([.l4proto protoIcmpV6, .icmpType protoIcmpV6 1] ++
      ((some 4).map (Nft.Match.icmpCode protoIcmpV6)).toList)) || false))) = _
  rw [Nft.allHold_append p d [.nfproto .ipv4], Nft.allHold_append p d [.nfproto .ipv6],
    Nft.allHold_icmp, Nft.allHold_icmp]
  simp [rejectErrorShape, Nft.Match.holds, Bool.and_assoc, Bool.or_assoc]

theorem run_appendGeneratedRejectReplyAccept :
    run (Nft.Rule.exec p) (appendGeneratedRejectReplyAccept direction counter
        (applicationRejectConnmark snapshot.flowGeneration)) d =
      if generatedRejectReply snapshot p d.connmark then
        decided (acceptFast direction counter d)
      else (d, none) := by
  refine Eq.trans (run_fastPaths p d _ _ _ _ _) ?_
  rw [any_generatedRejectReplySelectors]
  congr 2
  -- a reply has a conntrack entry, so the mark match needs no further condition
  cases hct : p.ct <;>
    simp [generatedRejectReply, connmarkIs, Packet.isReply, Nft.Match.holds, hct,
      Conntrack.bit, Conntrack.isTracked]

theorem run_invalidDrop :
    run (Nft.Rule.exec p) [Nft.rule [.ctState [.invalid]] [.counter counter, .verdict .drop]] d =
      if decide (p.ct.bit = .invalid) then decided (d.count counter, .drop) else (d, none) := by
  rw [run_singleton, Nft.Rule.exec_rule]
  simp [Nft.Match.holds]
  rfl

theorem any_interceptedProtocols :
    (interceptedProtocols interception).any (Nft.allHold p d) = intercepted p interception := by
  cases interception <;>
    simp [interceptedProtocols, APPLICATION_REPLY_PROTOCOL_MATCHES, intercepted, attributable,
      Nft.Match.holds, Bool.or_assoc]

theorem any_nonTcpProtocols :
    APPLICATION_NON_TCP_PROTOCOL_MATCHES.any (Nft.allHold p d) =
      (attributable p && decide (p.l4proto ≠ protoTcp)) := by
  by_cases htcp : p.l4proto = protoTcp <;>
    simp [APPLICATION_NON_TCP_PROTOCOL_MATCHES, attributable, Nft.Match.holds, htcp,
      Bool.or_assoc]

theorem holds_flowMarkMatch :
    (flowMarkMatch snapshot).holds p d = flowMarked snapshot p d.connmark := rfl

theorem run_appendApplicationLoopbackAccept :
    run (Nft.Rule.exec p)
        (appendApplicationLoopbackAccept snapshot direction counter interception) d =
      if flowMarked snapshot p d.connmark && (decide (snapshot.mode = .enforcing) &&
          loopbackShape p direction && intercepted p interception) then
        decided (acceptFast direction counter d)
      else (d, none) := by
  by_cases hmode : snapshot.mode = .enforcing
  · have hshape : Nft.allHold p d (loopbackSelectors direction) = loopbackShape p direction := by
      cases direction <;>
        simp [loopbackSelectors, loopbackShape, establishedReply, Packet.isReply,
          Packet.isOriginal, Nft.Match.holds, Bool.and_assoc]
    unfold appendApplicationLoopbackAccept
    rw [if_neg (not_not.mpr hmode)]
    refine Eq.trans (run_fastPaths p d _ _ _ _ _) ?_
    rw [hshape, any_interceptedProtocols, Nft.allHold_cons, Nft.allHold_nil, holds_flowMarkMatch,
      Bool.and_true, Bool.and_comm]
    simp [hmode]
  · simp [appendApplicationLoopbackAccept, hmode]

theorem run_appendApplicationFlowAccept :
    run (Nft.Rule.exec p) (appendApplicationFlowAccept snapshot direction counter interception) d =
      if flowMarked snapshot p d.connmark && flowShape p interception direction then
        decided (acceptFast direction counter d)
      else (d, none) := by
  refine Eq.trans (run_fastPaths p d _ _ _ _ _) ?_
  rw [Nft.allHold_cons (m := flowMarkMatch snapshot), Nft.allHold_nil, holds_flowMarkMatch,
    Bool.and_true, Bool.and_comm]
  congr 2
  cases direction <;> cases interception <;>
    simp [flowProtocols, flowDirection, flowShape, establishedReply, intercepted, attributable,
      Packet.isReply, Packet.isOriginal, APPLICATION_REPLY_PROTOCOL_MATCHES, Nft.Match.holds,
        Bool.or_assoc]

theorem run_appendApplicationNonTcpConnmarkReset :
    run (Nft.Rule.exec p) appendApplicationNonTcpConnmarkReset d =
      (if p.isOriginal && (attributable p && decide (p.l4proto ≠ protoTcp)) then withConnmark p 0 d
        else d, none) := by
  have hprotocol : ∀ protocol ∈ APPLICATION_NON_TCP_PROTOCOL_MATCHES, ∀ s : Meta Counter,
      Nft.allHold p s protocol = Nft.allHold p d protocol := by
    intro protocol hmem s
    simp only [APPLICATION_NON_TCP_PROTOCOL_MATCHES, List.mem_cons, List.not_mem_nil,
      or_false] at hmem
    rcases hmem with rfl | rfl | rfl <;> rfl
  have hany : (APPLICATION_NON_TCP_PROTOCOL_MATCHES.any fun protocol =>
      p.isOriginal && Nft.allHold p d protocol) =
        (p.isOriginal && (attributable p && decide (p.l4proto ≠ protoTcp))) := by
    rw [← any_nonTcpProtocols p d]
    cases p.isOriginal <;> simp
  rw [← hany]
  refine run_map_eq_update (withConnmark_zero_idem p) (fun protocol hmem s => ?_) d
  have hexec : Nft.Rule.exec p [.setCtMark APPLICATION_CONNMARK_FOREIGN_MASK 0] s =
      (withConnmark p 0 s, none) := rfl
  have hdir : (Nft.Match.ctDirection .original).holds p s = p.isOriginal := rfl
  rw [Nft.Rule.exec_rule, Nft.allHold_cons, hprotocol protocol hmem s, hexec, hdir]
  cases p.isOriginal && Nft.allHold p d protocol <;> rfl

theorem run_appendFastPaths :
    run (Nft.Rule.exec p)
        (appendFastPaths snapshot direction counter snapshot.applicationInterception) d =
      if fastPath snapshot p direction d.connmark then decided (acceptFast direction counter d)
      else (if direction = .outbound then resetFlow snapshot p d else d, none) := by
  unfold appendFastPaths
  by_cases hnone : snapshot.applicationInterception = .none
  · cases direction <;> simp [hnone, fastPath, intercepted, flowShape, resetFlow]
  · have hreset : run (Nft.Rule.exec p)
        (if direction = .outbound ∧ snapshot.applicationInterception = .perPacket then
          appendApplicationNonTcpConnmarkReset else []) d =
        (if direction = .outbound then resetFlow snapshot p d else d, none) := by
      by_cases hpacket : snapshot.applicationInterception = .perPacket <;> cases direction <;>
        simp [hpacket, resetFlow, run_appendApplicationNonTcpConnmarkReset, Bool.and_assoc]
    rw [if_neg hnone, List.append_assoc,
      run_append_guard _ (run_appendApplicationLoopbackAccept p d snapshot direction counter _),
      run_append_guard _ (run_appendApplicationFlowAccept p d snapshot direction counter _),
      hreset, fastPath]
    cases flowMarked snapshot p d.connmark <;>
      cases decide (snapshot.mode = .enforcing) && loopbackShape p direction &&
        intercepted p snapshot.applicationInterception <;> rfl

theorem rejectVerdict_eq (protocol : TransportProtocol) :
    rejectVerdict protocol = .reject (rejectKind protocol) := by
  unfold rejectVerdict rejectKind
  split <;> rfl

theorem exec_ruleVerdict_deny {r : Rule} (hport : PortsAreTransport r.spec)
    (hdeny : r.spec.action = .drop ∨ r.spec.action = .reject) :
    Nft.Rule.exec p (ruleVerdict r .outbound false .droppedOut r.spec.action
        (decide (snapshot.mode ≠ .learning))
        (applicationRejectConnmark snapshot.flowGeneration)) d =
      if selectorsMatch p r.spec .outbound false then decided (refuse snapshot p r d)
      else (d, none) := by
  unfold ruleVerdict
  rw [Nft.Rule.exec_rule, allHold_ruleSelectors p d hport, rejectVerdict_eq]
  congr 1
  unfold refuse
  rcases hdeny with haction | haction <;> rw [haction] <;> rfl

theorem exec_ruleVerdict_accept {r : Rule} (hport : PortsAreTransport r.spec)
    (direction : Direction) (reverse : Bool) (counter : Counter) :
    Nft.Rule.exec p (ruleVerdict r direction reverse counter .accept
        (decide (snapshot.mode ≠ .learning))
        (applicationRejectConnmark snapshot.flowGeneration)) d =
      if selectorsMatch p r.spec direction reverse then
        decided ((if direction = .outbound ∧ snapshot.mode ≠ .learning then
          withDomain APPLICATION_HANDOFF_DOMAIN d else d).count counter, .accept)
      else (d, none) := by
  unfold ruleVerdict
  rw [Nft.Rule.exec_rule, allHold_ruleSelectors p d hport]
  congr 1
  by_cases hhandoff : direction = .outbound ∧ snapshot.mode ≠ .learning
  · rw [if_pos hhandoff, if_pos ⟨hhandoff.1, rfl, decide_eq_true hhandoff.2⟩]
    rfl
  · rw [if_neg hhandoff, if_neg fun h => hhandoff ⟨h.1, of_decide_eq_true h.2.2⟩]
    rfl

end Blocks

section Policy

variable (snapshot : ValidSnapshot) (p : Packet) (d : Meta Counter)

theorem portsAreTransport_of_mem {r : Rule} (h : r ∈ snapshot.rules) :
    PortsAreTransport r.spec :=
  RuleSpec.portsAreTransport_of_validate (snapshot.rule_valid h).spec

theorem run_denies :
    run (Nft.Rule.exec p)
        (appendDirectRules snapshot.toSnapshot .outbound [.drop, .reject] .droppedOut) d =
      (networkDeny snapshot.toSnapshot p).elim (d, none)
        fun r => decided (refuse snapshot.toSnapshot p r d) := by
  rw [← find?_directCandidates]
  apply run_map_eq_find?
  intro r hr
  obtain ⟨hmem, hcand⟩ := (mem_directCandidates _).mp hr
  refine exec_ruleVerdict_deny p d _ (portsAreTransport_of_mem snapshot hmem) ?_
  simp only [Bool.and_eq_true, decide_eq_true_eq] at hcand
  simpa using hcand.2

theorem run_accepts (direction : Direction) (counter : Counter) :
    run (Nft.Rule.exec p)
        (appendDirectRules snapshot.toSnapshot direction [.accept] counter) d =
      if networkMatch snapshot.toSnapshot p direction .accept then
        decided ((if direction = .outbound ∧ snapshot.mode ≠ .learning then
          withDomain APPLICATION_HANDOFF_DOMAIN d else d).count counter, .accept)
      else (d, none) := by
  rw [← any_directCandidates]
  apply run_map_eq_any
  intro r hr
  obtain ⟨hmem, hcand⟩ := (mem_directCandidates _).mp hr
  have haction : r.spec.action = .accept := by
    simp only [Bool.and_eq_true, decide_eq_true_eq, List.mem_singleton] at hcand
    exact hcand.2
  rw [haction]
  exact exec_ruleVerdict_accept p d _ (portsAreTransport_of_mem snapshot hmem) _ _ _

theorem run_reverse (direction : Direction) (counter : Counter) :
    run (Nft.Rule.exec p) (appendReverseRules snapshot.toSnapshot direction counter) d =
      if reverseMatch snapshot.toSnapshot p direction then
        decided ((if direction = .outbound ∧ snapshot.mode ≠ .learning then
          withDomain APPLICATION_HANDOFF_DOMAIN d else d).count counter, .accept)
      else (d, none) := by
  rw [← any_reverseCandidates]
  apply run_map_eq_any
  intro r hr
  exact exec_ruleVerdict_accept p d _
    (portsAreTransport_of_mem snapshot (mem_reverseCandidates _ hr)) _ _ _

end Policy

end OpenShield.Nftables
