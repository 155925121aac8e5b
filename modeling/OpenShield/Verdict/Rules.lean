import OpenShield.Core.Validity
import OpenShield.Verdict.Selectors

/-!
# What a policy says about a packet

The questions that the generated chains ask about a packet, as predicates on the rules of the
snapshot. Both compilers walk sorted candidate lists; what such a walk finds is expressed here
without the lists: whether some rule matches, and which deny is the first to match.
-/

namespace OpenShield

open Netfilter

def networkRuleMatches (p : Packet) (direction : Direction) (action : RuleAction)
    (r : Rule) : Bool :=
  r.spec.enabled && decide (r.spec.direction = direction) && r.spec.application.isNone &&
    decide (r.spec.action = action) && selectorsMatch p r.spec direction false

def networkMatch (snapshot : Snapshot) (p : Packet) (direction : Direction)
    (action : RuleAction) : Bool :=
  snapshot.rules.any (networkRuleMatches p direction action)

def networkDenies (p : Packet) (r : Rule) : Bool :=
  networkRuleMatches p .outbound .drop r || networkRuleMatches p .outbound .reject r

def networkDeny (snapshot : Snapshot) (p : Packet) : Option Rule :=
  (snapshot.rules.filter (networkDenies p)).argmin decisionKey

def reverseMatch (snapshot : Snapshot) (p : Packet) (direction : Direction) : Bool :=
  snapshot.rules.any fun r => r.spec.enabled && decide (r.spec.direction ≠ direction) &&
    r.spec.application.isNone && decide (r.spec.action = .accept) &&
    selectorsMatch p r.spec direction true

def isApplicationRule (actions : List RuleAction) (r : Rule) : Bool :=
  r.spec.enabled && decide (r.spec.direction = .outbound) && r.spec.application.isSome &&
    decide (r.spec.action ∈ actions)

def applicationEnvelope (snapshot : Snapshot) (p : Packet) (actions : List RuleAction) : Bool :=
  snapshot.rules.any fun r => isApplicationRule actions r && envelope p r.spec

def selectsDestination (spec : RuleSpec) : Bool :=
  !(spec.peerNetwork.isNone && spec.port.isNone)

def originalGuard (snapshot : Snapshot) (p : Packet) (actions : List RuleAction) : Bool :=
  snapshot.rules.any fun r =>
    isApplicationRule actions r && (selectsDestination r.spec && originalEnvelope p r.spec)

def queuedActions : Mode → List RuleAction
  | .enforcing => [.drop, .reject, .accept]
  | .learning => [.drop, .reject]
  | .blockAll => []

def rejectErrorShape (p : Packet) : Bool :=
  (decide (p.l4proto = protoTcp) &&
      p.tcpFlags.any fun flags => decide (flags &&& tcpRst = tcpRst)) ||
    (decide (p.family = .ipv4) && decide (p.l4proto = protoIcmp) && p.icmpIs 3 (some 3)) ||
    (decide (p.family = .ipv6) && decide (p.l4proto = protoIcmpV6) && p.icmpIs 1 (some 4))

def connmarkIs (connmark value : BitVec 32) : Bool :=
  maskedEq connmark APPLICATION_CONNMARK_MASK value

def generatedRejectReply (snapshot : Snapshot) (p : Packet) (connmark : BitVec 32) : Bool :=
  decide (p.ct.bit = .related) && p.isReply && rejectErrorShape p &&
    connmarkIs connmark (applicationRejectConnmark snapshot.flowGeneration)

def flowMarked (snapshot : Snapshot) (p : Packet) (connmark : BitVec 32) : Bool :=
  p.ct.isTracked && connmarkIs connmark (applicationFlowMark snapshot.flowGeneration)

def attributable (p : Packet) : Bool :=
  decide (p.l4proto = protoTcp) || decide (p.l4proto = protoUdp) ||
    (decide (p.family = .ipv4) && decide (p.l4proto = protoIcmp)) ||
    (decide (p.family = .ipv6) && decide (p.l4proto = protoIcmpV6))

def intercepted (p : Packet) : ApplicationInterception → Bool
  | .none => false
  | .tcpInitial => decide (p.l4proto = protoTcp)
  | .perPacket => attributable p

def loopbackShape (p : Packet) : Direction → Bool
  | .inbound =>
    decide (p.iif = some "lo") && p.isOriginal && decide (p.ct.bit ∈ [.new, .established])
  | .outbound => decide (p.oif = some "lo") && establishedReply p

def flowShape (p : Packet) (interception : ApplicationInterception) : Direction → Bool
  | .inbound => establishedReply p && intercepted p interception
  | .outbound =>
    p.isOriginal && decide (p.ct.bit = .established) &&
      (decide (interception ≠ .none) && decide (p.l4proto = protoTcp))

def fastPath (snapshot : Snapshot) (p : Packet) (direction : Direction)
    (connmark : BitVec 32) : Bool :=
  flowMarked snapshot p connmark &&
    ((decide (snapshot.mode = .enforcing) && loopbackShape p direction &&
        intercepted p snapshot.applicationInterception) ||
      flowShape p snapshot.applicationInterception direction)

/-! ### What a chain does to a packet -/

def withDomain (domain : BitVec 32) (d : Meta Counter) : Meta Counter :=
  d.setMark (d.mark &&& APPLICATION_MARK_PAYLOAD_MASK ||| domain)

def hasDomain (d : Meta Counter) (domain : BitVec 32) : Bool :=
  maskedEq d.mark APPLICATION_MARK_DOMAIN_MASK domain

def withConnmark (p : Packet) (value : BitVec 32) (d : Meta Counter) : Meta Counter :=
  d.setConnmark p (d.connmark &&& APPLICATION_CONNMARK_FOREIGN_MASK ||| value)

def resetFlow (snapshot : Snapshot) (p : Packet) (d : Meta Counter) : Meta Counter :=
  if decide (snapshot.applicationInterception = .perPacket) && p.isOriginal && attributable p &&
      decide (p.l4proto ≠ protoTcp) then withConnmark p 0 d
  else d

def authorised (snapshot : Snapshot) (p : Packet) (d : Meta Counter) : Meta Counter :=
  withDomain 0 (withConnmark p (applicationFlowMark snapshot.flowGeneration) d)

def refusedVerdict (p : Packet) : Verdict :=
  .reject (if p.l4proto = protoTcp then .tcpReset else .portUnreachable)

def rejectKind (protocol : TransportProtocol) : RejectKind :=
  if protocol = .tcp then .tcpReset else .portUnreachable

def refuse (snapshot : Snapshot) (p : Packet) (r : Rule) (d : Meta Counter) :
    Meta Counter × Verdict :=
  if r.spec.action = .reject then
    ((withConnmark p (applicationRejectConnmark snapshot.flowGeneration) d).count .droppedOut,
      .reject (rejectKind r.spec.protocol))
  else (d.count .droppedOut, .drop)

theorem hasDomain_withDomain (d : Meta Counter) (domain wanted : BitVec 32) :
    hasDomain (withDomain domain d) wanted =
      decide (domain &&& APPLICATION_MARK_DOMAIN_MASK = wanted) := by
  rw [hasDomain, maskedEq, withDomain, Meta.setMark_mark, payloadMask_eq, field_of_replaced]

/-- Sanitation is idempotent. -/
theorem withDomain_zero_idem (d : Meta Counter) :
    withDomain 0 (withDomain 0 d) = withDomain 0 d := by
  simp [withDomain, Meta.setMark, BitVec.and_assoc]

theorem withConnmark_zero_idem (p : Packet) (d : Meta Counter) :
    withConnmark p 0 (withConnmark p 0 d) = withConnmark p 0 d := by
  unfold withConnmark Meta.setConnmark
  split <;> simp [BitVec.and_assoc]

/-! ### The deciding network deny -/

theorem networkDeny_eq_some {snapshot : Snapshot} {p : Packet} {r : Rule}
    (h : networkDeny snapshot p = some r) :
    r ∈ snapshot.rules ∧ networkDenies p r = true ∧
      ∀ other ∈ snapshot.rules, networkDenies p other = true →
        decisionKey r ≤ decisionKey other := by
  have hmem := List.mem_filter.mp (List.argmin_mem (Option.mem_def.mpr h))
  refine ⟨hmem.1, hmem.2, fun other hother hdenies => ?_⟩
  exact List.le_of_mem_argmin (List.mem_filter.mpr ⟨hother, hdenies⟩) (Option.mem_def.mpr h)

theorem networkDeny_eq_none_iff (snapshot : Snapshot) (p : Packet) :
    networkDeny snapshot p = none ↔
      networkMatch snapshot p .outbound .drop = false ∧
        networkMatch snapshot p .outbound .reject = false := by
  rw [networkDeny, List.argmin_eq_none, List.filter_eq_nil_iff, networkMatch, networkMatch,
    List.any_eq_false, List.any_eq_false, ← forall₂_and]
  simp [networkDenies]

theorem action_of_networkDenies {p : Packet} {r : Rule} (h : networkDenies p r = true) :
    r.spec.action = .drop ∨ r.spec.action = .reject := by
  simp only [networkDenies, networkRuleMatches, Bool.or_eq_true, Bool.and_eq_true,
    decide_eq_true_eq] at h
  rcases h with ⟨⟨-, haction⟩, -⟩ | ⟨⟨-, haction⟩, -⟩
  · exact .inl haction
  · exact .inr haction

theorem networkDeny_of_drop {snapshot : Snapshot} {p : Packet}
    (h : networkMatch snapshot p .outbound .drop = true) :
    ∃ r, networkDeny snapshot p = some r ∧ r.spec.action = .drop := by
  obtain ⟨dropRule, hmem, hmatch⟩ := List.any_eq_true.mp h
  cases hdeny : networkDeny snapshot p with
  | none =>
    rw [networkDeny_eq_none_iff] at hdeny
    rw [hdeny.1] at h
    cases h
  | some r =>
    obtain ⟨-, hdenies, hmin⟩ := networkDeny_eq_some hdeny
    refine ⟨r, rfl, (action_of_networkDenies hdenies).resolve_right fun hreject => ?_⟩
    -- a reject has a larger key than the matching drop
    have hle := ruleActionPriority_le_of_key_le
      (hmin dropRule hmem (by simp [networkDenies, hmatch]))
    have hdrop : dropRule.spec.action = .drop := by
      simp only [networkRuleMatches, Bool.and_eq_true, decide_eq_true_eq] at hmatch
      exact hmatch.1.2
    rw [hreject, hdrop] at hle
    exact absurd hle (by decide)

theorem networkDeny_of_reject {snapshot : Snapshot} {p : Packet}
    (hdrop : networkMatch snapshot p .outbound .drop = false)
    (hreject : networkMatch snapshot p .outbound .reject = true) :
    ∃ r, networkDeny snapshot p = some r ∧ r.spec.action = .reject := by
  cases hdeny : networkDeny snapshot p with
  | none =>
    rw [networkDeny_eq_none_iff] at hdeny
    rw [hdeny.2] at hreject
    cases hreject
  | some r =>
    obtain ⟨hmem, hdenies, -⟩ := networkDeny_eq_some hdeny
    refine ⟨r, rfl, (action_of_networkDenies hdenies).resolve_left fun haction => ?_⟩
    have hmatch : networkRuleMatches p .outbound .drop r = true := by
      simp only [networkDenies, networkRuleMatches, Bool.or_eq_true, Bool.and_eq_true,
        decide_eq_true_eq] at hdenies ⊢
      rcases hdenies with h | h
      · exact h
      · rw [haction] at h
        exact absurd h.1.2 (by decide)
    exact absurd hmatch (List.any_eq_false.mp hdrop r hmem)

end OpenShield
