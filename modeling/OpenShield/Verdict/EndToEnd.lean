import OpenShield.Daemon.Decision
import OpenShield.Verdict.OutboundSafety

/-!
# Outbound decisions, end to end

The decision about an outbound packet is split over kernel rules, marks, a queue, the daemon's
indexed policy and a second look of the kernel. In `enforcing` the parts add up to one simple
policy on the rules of the snapshot.
-/

namespace OpenShield

open Netfilter
open ApplicationDecisionPolicy (new withEnforcementStrategy)

def networkOnlyMatches (connection : OutboundConnection) (action : RuleAction)
    (rule : Rule) : Bool :=
  rule.spec.application.isNone && decide (rule.spec.action = action) &&
    outboundNetworkSelectorsMatch rule connection

/-- The policy for outbound connections in `enforcing`: network denies first, then the rules
about the application, then network accepts, and a drop for everything else. -/
def outboundDecision (snapshot : Snapshot) (strategy : EnforcementStrategy)
    (connection : OutboundConnection) (identity : ApplicationIdentity) : RuleAction :=
  if snapshot.rules.any (networkOnlyMatches connection .drop) then .drop
  else if snapshot.rules.any (networkOnlyMatches connection .reject) then .reject
  else (policyDecision snapshot strategy connection identity).getD .drop

def daemonAnswer (policy : ApplicationDecisionPolicy) (queueStrategy : QueueVerdictStrategy)
    (p : Packet) (attributes : QueueAttributes)
    (resolve : OutboundConnection → IdentityCaptureRequirements →
      Except String ApplicationIdentity)
    (observe : Except String (Option String)) (packetMark : BitVec 32) : Answer :=
  (returnPacketVerdict
    (decidePacket policy (parseQueuedPacket p attributes packetMark) resolve observe)
    (.ok (policy.snapshot.mode, policy.snapshot.flowGeneration)) false queueStrategy).answer

/-! ### What the daemon knows about a packet -/

/-- The connection that the daemon reads off a packet. -/
structure ParsedAs (p : Packet) (connection : OutboundConnection) : Prop where
  destination : connection.destinationAddress = p.dst
  typed : connection.protocol ≠ .any
  protocol : protocolMatches p connection.protocol = true
  ports : connection.protocol = .tcp ∨ connection.protocol = .udp →
    connection.destinationPort = p.dport? ∧ p.dport?.isSome = true
  interface : p.oif = some connection.outputInterface.value

variable {p : Packet}

theorem protocolMatches_iff {reported : TransportProtocol}
    (htyped : reported ≠ .any) (h : protocolMatches p reported = true)
    (other : TransportProtocol) :
    protocolMatches p other = true ↔ other = .any ∨ other = reported := by
  cases reported <;>
    simp only [protocolMatches, Bool.and_eq_true, decide_eq_true_eq, ne_eq, not_true_eq_false,
      reduceCtorEq, not_false_eq_true] at h htyped <;>
    cases other <;> simp [protocolMatches, h] <;> decide

theorem attributable_of_protocolMatches {reported : TransportProtocol}
    (htyped : reported ≠ .any) (h : protocolMatches p reported = true) :
    attributable p = true := by
  cases reported <;> simp_all [protocolMatches, attributable]

theorem finishTransport_spec {echoIdentifier : BitVec 16}
    {protocol : TransportProtocol} {source destination : Option (BitVec 16)}
    (h : finishTransport p echoIdentifier = .ok (protocol, source, destination)) :
    protocol ≠ .any ∧ protocolMatches p protocol = true ∧
      (protocol = .tcp ∨ protocol = .udp →
        destination = p.dport? ∧ p.dport?.isSome = true) := by
  unfold finishTransport at h
  split_ifs at h with htransport htcp hicmp hicmpV6
  · cases hports : p.ports with
    | none => simp [hports] at h
    | some pair =>
      simp only [hports, Except.bind_unit_eq_ok_iff, pure, Except.pure, Except.ok.injEq,
        Prod.mk.injEq] at h
      obtain ⟨-, rfl, -, rfl⟩ := h
      simp [protocolMatches, htcp, Packet.dport?, hports]
  · cases hports : p.ports with
    | none => simp [hports] at h
    | some pair =>
      simp only [hports, Except.bind_unit_eq_ok_iff, pure, Except.pure, Except.ok.injEq,
        Prod.mk.injEq] at h
      obtain ⟨-, rfl, -, rfl⟩ := h
      simp [protocolMatches, htransport.resolve_left htcp, Packet.dport?, hports]
  · simp only [Except.bind_unit_eq_ok_iff, pure, Except.pure, Except.ok.injEq,
      Prod.mk.injEq] at h
    obtain ⟨-, rfl, -, -⟩ := h
    simp [protocolMatches, hicmp.1, Packet.family, ← p.sameFamily, hicmp.2]
  · simp only [Except.bind_unit_eq_ok_iff, pure, Except.pure, Except.ok.injEq,
      Prod.mk.injEq] at h
    obtain ⟨-, rfl, -, -⟩ := h
    simp [protocolMatches, hicmpV6.1, Packet.family, ← p.sameFamily, hicmpV6.2]

theorem parseQueuedPacket_spec {attributes : QueueAttributes}
    {packetMark : BitVec 32} {packet : QueuedPacket}
    (h : parseQueuedPacket p attributes packetMark = .ok packet) :
    ParsedAs p packet.connection ∧ packet.packetMark = packetMark := by
  unfold parseQueuedPacket at h
  obtain ⟨⟨protocol, source, destination⟩, htransport, h⟩ := Except.bind_eq_ok_iff.mp h
  obtain ⟨uid, -, h⟩ := Except.bind_eq_ok_iff.mp h
  obtain ⟨interface, hinterface, h⟩ := Except.bind_eq_ok_iff.mp h
  obtain ⟨-, h⟩ := Except.bind_unit_eq_ok_iff.mp h
  cases h
  obtain ⟨htyped, hprotocol, hports⟩ := finishTransport_spec htransport
  refine ⟨⟨rfl, htyped, hprotocol, hports, ?_⟩, rfl⟩
  unfold interfaceForIndex at hinterface
  cases hoif : p.oif with
  | none => simp [hoif] at hinterface
  | some name =>
    simp only [hoif, InterfaceName.new] at hinterface
    split_ifs at hinterface
    cases hinterface
    rfl

theorem selectorsMatch_parsed {connection : OutboundConnection}
    (hparsed : ParsedAs p connection) {rule : Rule} (hport : PortsAreTransport rule.spec) :
    outboundNetworkSelectorsMatch rule connection =
      (rule.spec.enabled && decide (rule.spec.direction = .outbound) && envelope p rule.spec) := by
  have hprotocol : (decide (rule.spec.protocol = .any) ||
      decide (rule.spec.protocol = connection.protocol)) =
        protocolMatches p rule.spec.protocol := by
    rw [Bool.eq_iff_iff, protocolMatches_iff hparsed.typed hparsed.protocol]
    simp
  have hnetwork : (rule.spec.peerNetwork.all fun network =>
      network.contains connection.destinationAddress) =
        rule.spec.peerNetwork.all fun network => network.maskMatches p.dst := by
    simp only [hparsed.destination, IpNet.maskMatches_eq_contains]
  have hinterface : (rule.spec.interface.all fun interface =>
      decide (interface = connection.outputInterface)) =
        interfaceMatches p.oif rule.spec.interface := by
    cases rule.spec.interface with
    | none => rfl
    | some interface => simp [interfaceMatches, hparsed.interface, InterfaceName.eq_iff, eq_comm]
  have hports : protocolMatches p rule.spec.protocol = true →
      (rule.spec.port.all fun range => connection.destinationPort.any fun port =>
        decide (range.start ≤ port) && decide (port ≤ range.stop)) =
          rule.spec.port.all fun range => portInRange p.dport? range.start range.stop := by
    intro hmatch
    cases hspec : rule.spec.port with
    | none => rfl
    | some range =>
      -- a rule with ports has the protocol of the connection, which has ports then
      have htransport := hport (by simp [hspec])
      have hsame : rule.spec.protocol = connection.protocol := by
        rcases (protocolMatches_iff hparsed.typed hparsed.protocol _).mp hmatch with h | h
        · simp [h] at htransport
        · exact h
      rw [(hparsed.ports (hsame ▸ htransport)).1]
      rfl
  simp only [outboundNetworkSelectorsMatch, hprotocol, hnetwork, hinterface, envelope,
    selectorsMatch, chainInterface, peerAddress, Bool.not_false, Bool.true_or, Bool.true_and]
  cases hmatch : protocolMatches p rule.spec.protocol with
  | false => simp
  | true =>
    rw [hports hmatch]
    simp only [Bool.false_eq_true, if_false]
    ac_rfl

section Parsed

variable {snapshot : ValidSnapshot} {p : Packet} {connection : OutboundConnection}

theorem networkMatch_parsed (hparsed : ParsedAs p connection) (action : RuleAction) :
    networkMatch snapshot.toSnapshot p .outbound action =
      snapshot.rules.any (networkOnlyMatches connection action) := by
  refine List.any_congr_of_mem fun r hr => ?_
  have hport := RuleSpec.portsAreTransport_of_validate (snapshot.rule_valid hr).spec
  rw [networkRuleMatches, networkOnlyMatches, selectorsMatch_parsed hparsed hport, envelope]
  ac_rfl

theorem policyDecision_of_noEnvelope (hmode : snapshot.mode = .enforcing)
    (hparsed : ParsedAs p connection)
    (hoff : applicationEnvelope snapshot.toSnapshot p (queuedActions snapshot.mode) = false)
    (strategy : EnforcementStrategy) (identity : ApplicationIdentity) :
    policyDecision snapshot.toSnapshot strategy connection identity =
      if networkMatch snapshot.toSnapshot p .outbound .accept then some .accept else none := by
  have hnone : ((new snapshot.toSnapshot).withEnforcementStrategy
      strategy).enforcementCaptureRequirements connection = none := by
    have hempty : (snapshot.rules.filter fun rule =>
        applicationRuleNetworkAndUidMatches rule connection) = [] := by
      refine List.filter_eq_nil_iff.mpr fun r hr hmatch => ?_
      have hport := RuleSpec.portsAreTransport_of_validate (snapshot.rule_valid hr).spec
      simp only [applicationRuleNetworkAndUidMatches, selectorsMatch_parsed hparsed hport,
        Bool.and_eq_true] at hmatch
      obtain ⟨⟨⟨henabled, hdirection⟩, henvelope⟩, happlication⟩ := hmatch
      have hsome : r.spec.application.isSome = true := by
        cases hspec : r.spec.application with
        | none => simp [hspec] at happlication
        | some selector => rfl
      have hmiss := List.any_eq_false.mp hoff r hr
      cases haction : r.spec.action <;>
        simp_all [isApplicationRule, queuedActions]
    simp [ApplicationDecisionPolicy.enforcementCaptureRequirements,
      ApplicationDecisionPolicy.captureRequirements, withEnforcementStrategy, new, hempty]
  rw [policyDecision_of_noCandidate hnone, networkMatch_parsed hparsed]
  rfl

theorem originalGuard_of_noTranslation (hparsed : ParsedAs p connection)
    (haddress : p.ct.origDst? = some p.dst)
    (hport : p.dport? ≠ none → p.ct.origDport? = p.dport?) {actions : List RuleAction}
    (hoff : applicationEnvelope snapshot.toSnapshot p actions = false) :
    originalGuard snapshot.toSnapshot p actions = false := by
  refine List.any_eq_false.mpr fun r hr hguard => ?_
  simp only [Bool.and_eq_true] at hguard
  obtain ⟨hrule, -, horiginal⟩ := hguard
  have htransport := RuleSpec.portsAreTransport_of_validate (snapshot.rule_valid hr).spec
  simp only [originalEnvelope, haddress, Option.any_some, Bool.and_eq_true] at horiginal
  obtain ⟨⟨⟨hinterface, hprotocol⟩, hnetwork⟩, hports⟩ := horiginal
  have hdport : (r.spec.port.all fun range => portInRange p.dport? range.start range.stop) =
      true := by
    cases hspec : r.spec.port with
    | none => rfl
    | some range =>
      have htyped := htransport (by simp [hspec])
      have hsame : r.spec.protocol = connection.protocol := by
        rcases (protocolMatches_iff hparsed.typed hparsed.protocol _).mp hprotocol with h | h
        · simp [h] at htyped
        · exact h
      have hsome := (hparsed.ports (hsame ▸ htyped)).2
      rwa [hspec, hport (Option.isSome_iff_ne_none.mp hsome)] at hports
  refine List.any_eq_false.mp hoff r hr ?_
  simp only [envelope, selectorsMatch, chainInterface, peerAddress, Bool.not_false, Bool.true_or,
    Bool.true_and, Bool.false_eq_true, if_false, Bool.and_eq_true]
  exact ⟨hrule, ⟨⟨hinterface, hnetwork⟩, hprotocol⟩, hdport⟩

end Parsed

/-! ### Packets that the kernel decides alone -/

section Unqueued

variable {snapshot : Snapshot} {p : Packet} {d : Meta Counter}

theorem Backend.outputDecision_unqueued (backend : Backend) (hmode : snapshot.mode = .enforcing)
    (horiginal : p.isOriginal = true) (hdeny : networkDeny snapshot p = none)
    (hfast : fastPath snapshot p .outbound d.connmark = false)
    (hoff : applicationEnvelope snapshot p (queuedActions snapshot.mode) = false)
    (hguard : originalGuard snapshot p (queuedActions snapshot.mode) = false)
    (hclear : hasDomain d 0 = true) :
    backend.outputDecision snapshot p d =
      if networkMatch snapshot p .outbound .accept then
        backend.passDecision (resetFlow snapshot p d)
      else ((resetFlow snapshot p d).count .droppedOut, .drop) := by
  obtain ⟨hreply, hinvalid, -⟩ := not_reply_of_original horiginal
  have hlearning : snapshot.mode ≠ .learning := by simp [hmode]
  rw [backend.outputDecision_candidate hreply hclear (fun h => absurd h hinvalid) hdeny hfast]
  cases backend <;> simp [candidateDecision, Nftables.candidateDecision,
    Iptables.candidateDecision, passDecision, hoff, hguard, reverseMatch_eq_false hreply, hlearning]

end Unqueued

theorem Backend.outcome_of_unqueued (backend : Backend) {snapshot : ValidSnapshot} {p : Packet}
    {d : Meta Counter} (hmode : snapshot.mode = .enforcing) (horiginal : p.isOriginal = true)
    (hdeny : networkDeny snapshot.toSnapshot p = none)
    (hfast : fastPath snapshot.toSnapshot p .outbound d.connmark = false)
    (hoff : applicationEnvelope snapshot.toSnapshot p (queuedActions snapshot.mode) = false)
    (hguard : originalGuard snapshot.toSnapshot p (queuedActions snapshot.mode) = false)
    (answers : List (BitVec 16 → Meta Counter → Answer)) :
    (runFrom (backend.outputHook snapshot.toSnapshot p) 0 d answers).2 =
      if networkMatch snapshot.toSnapshot p .outbound .accept then .accepted else .dropped := by
  have hadvance := backend.advance_outputHook snapshot p d (by simp [hmode]) (by simp [hmode])
  have hentry := backend.outputDecision_unqueued (d := withDomain 0 d) hmode horiginal hdeny hfast
    hoff hguard (hasDomain_clear d)
  cases hmatch : networkMatch snapshot.toSnapshot p .outbound .accept with
  | false =>
    rw [hmatch, if_neg Bool.false_ne_true] at hentry
    rw [advance_cons_drop _ 1 hentry] at hadvance
    rw [runFrom_zero_of_done hadvance]
    rfl
  | true =>
    rw [hmatch, if_pos rfl] at hentry
    cases backend with
    | nftables =>
      rw [advance_cons_accept _ 1 hentry] at hadvance
      have hlast := Nftables.authorizeDecision_handoff snapshot.toSnapshot p
        (resetFlow snapshot.toSnapshot p (withDomain 0 d))
      rw [runFrom_zero_of_done (hadvance.trans (advance_cons_accept [] 2 hlast))]
      rfl
    | iptables =>
      rw [advance_cons_accept _ 1 hentry] at hadvance
      rw [runFrom_zero_of_done hadvance]
      rfl

/-! ### The whole way of a packet -/

theorem hasDomain_pending (d : Meta Counter) :
    hasDomain (withDomain APPLICATION_PENDING_DOMAIN d) APPLICATION_PENDING_DOMAIN = true := by
  rw [hasDomain_withDomain]
  decide

theorem pending_withDomain (d : Meta Counter) :
    (withDomain APPLICATION_PENDING_DOMAIN d).mark =
      applicationPendingMark (withDomain APPLICATION_PENDING_DOMAIN d).mark := by
  have hdisjoint : APPLICATION_PENDING_DOMAIN &&& APPLICATION_MARK_PAYLOAD_MASK = 0 := by decide
  rw [withDomain, Meta.setMark_mark, applicationPendingMark, BitVec.and_or_distrib_right,
    hdisjoint, BitVec.and_assoc, BitVec.and_self, BitVec.or_comm]
  simp

/-- The outcome of a packet in `enforcing` is that of the policy: for every packet of a tracked
connection on its way to its original destination, without a valid flow mark, whatever process
attribution finds. -/
theorem outbound_outcome (backend : Backend) (snapshot : ValidSnapshot)
    (hmode : snapshot.mode = .enforcing) (strategy : EnforcementStrategy) (p : Packet)
    (d : Meta Counter) (attributes : QueueAttributes)
    (horiginal : p.isOriginal = true) (haddress : p.ct.origDst? = some p.dst)
    (hport : p.dport? ≠ none → p.ct.origDport? = p.dport?)
    (hconnmark : connmarkIs d.connmark (applicationFlowMark snapshot.flowGeneration) = false)
    (connection : OutboundConnection)
    (hparse : ∀ mark, parseQueuedPacket p attributes mark = .ok ⟨connection, mark⟩)
    (identity : ApplicationIdentity)
    (resolve : OutboundConnection → IdentityCaptureRequirements →
      Except String ApplicationIdentity)
    (hresolve : ∀ requirements, (buildApplicationDecisionPolicy snapshot.toSnapshot
      strategy).enforcementCaptureRequirements connection = some requirements →
        resolve connection requirements = .ok identity)
    (observe : Except String (Option String))
    (answer : BitVec 16 → Meta Counter → Answer)
    (hanswer : ∀ d, answer APPLICATION_QUEUE_NUMBER d =
      daemonAnswer (buildApplicationDecisionPolicy snapshot.toSnapshot strategy)
        backend.queueVerdictStrategy p attributes resolve observe d.mark)
    (answers : List (BitVec 16 → Meta Counter → Answer)) :
    outcomeAction (runFrom (backend.outputHook snapshot.toSnapshot p) 0 d
        (answer :: answers)).2 =
      some (outboundDecision snapshot.toSnapshot strategy connection identity) := by
  have hparsed : ParsedAs p connection := (parseQueuedPacket_spec (hparse 0)).1
  obtain ⟨hreply, hinvalid, -⟩ := not_reply_of_original horiginal
  have hflow : flowMarked snapshot.toSnapshot p d.connmark = false := by
    simp [flowMarked, hconnmark]
  unfold outboundDecision
  rw [← networkMatch_parsed hparsed, ← networkMatch_parsed hparsed]
  cases hdeny : networkDeny snapshot.toSnapshot p with
  | some r =>
    rw [outcome_of_networkDeny backend snapshot p d (by simp [hmode])
      (generatedRejectReply_eq_false hreply _) hdeny, if_neg (by simp [hinvalid])]
    cases hdrop : networkMatch snapshot.toSnapshot p .outbound .drop with
    | true =>
      obtain ⟨r', hdeny', haction⟩ := networkDeny_of_drop hdrop
      cases hdeny.symm.trans hdeny'
      simp [denyVerdict, haction, Verdict.outcome, outcomeAction]
    | false =>
      cases hreject : networkMatch snapshot.toSnapshot p .outbound .reject with
      | true =>
        obtain ⟨r', hdeny', haction⟩ := networkDeny_of_reject hdrop hreject
        cases hdeny.symm.trans hdeny'
        simp [denyVerdict, haction, Verdict.outcome, outcomeAction]
      | false => simp [(networkDeny_eq_none_iff _ _).mpr ⟨hdrop, hreject⟩] at hdeny
  | none =>
    obtain ⟨hdrop, hreject⟩ := (networkDeny_eq_none_iff _ _).mp hdeny
    rw [hdrop, hreject, if_neg Bool.false_ne_true, if_neg Bool.false_ne_true]
    cases hoff : applicationEnvelope snapshot.toSnapshot p (queuedActions snapshot.mode) with
    | false =>
      -- the kernel decides alone
      have hguard := originalGuard_of_noTranslation hparsed haddress hport hoff
      rw [backend.outcome_of_unqueued hmode horiginal hdeny (by simp [fastPath, hflow]) hoff hguard,
        policyDecision_of_noEnvelope hmode hparsed hoff]
      cases networkMatch snapshot.toSnapshot p .outbound .accept <;> rfl
    | true =>
      -- the daemon decides
      obtain ⟨hsome, hintercepted⟩ := intercepted_of_envelope (by simp [hmode]) hoff
      have hadvance := backend.advance_outputHook snapshot p d (by simp [hmode]) (by simp [hmode])
      have hwaits := backend.outputDecision_queued (d := withDomain 0 d) horiginal hoff hdeny
        (by simp [establishedFlow, hflow]) (hasDomain_clear d)
      rw [advance_cons_queue _ 1 hwaits] at hadvance
      have hpending := pending_withDomain (resetFlow snapshot.toSnapshot p (withDomain 0 d))
      refine backend.runFrom_of_verdict (by simp [hmode]) horiginal hdeny hsome
        (hasDomain_pending _) hadvance (fun _ => .inl (hintercepted
          (attributable_of_protocolMatches hparsed.typed hparsed.protocol))) ?_ answers
      rw [hanswer, daemonAnswer, hparse]
      exact answer_enforcing ⟨connection, _⟩ hmode hpending hresolve observe _

def Sample.identity : ApplicationIdentity :=
  { pid := 1
    processStartTimeTicks := 0
    executable := ⟨"/a", Sample.accepts_a⟩
    executableFile := ⟨1, 1, 1, 0, 0⟩
    commandLine := []
    uid := 0
    cgroups := [] }

def Sample.connection : OutboundConnection :=
  { sourceAddress := .v4 1
    sourcePort := some 1
    destinationAddress := .v4 2
    destinationPort := some 2
    protocol := .tcp
    outputInterface := ⟨"e", Sample.accepts_e⟩
    socketUid := 0 }

/-- The daemon refuses the denied application, and the kernel carries it out. -/
theorem outbound_outcome_sample :
    outcomeAction (runFrom (Backend.iptables.outputHook
        (Sample.applicationDeny .enforcing).toSnapshot Sample.newPacket) 0 ⟨0, 0, []⟩
        [fun _ d => daemonAnswer (buildApplicationDecisionPolicy
          (Sample.applicationDeny .enforcing).toSnapshot .strict)
          Backend.iptables.queueVerdictStrategy Sample.newPacket ⟨some 0, 0⟩
          (fun _ _ => .ok Sample.identity) (.ok none) d.mark]).2 = some .drop :=
  (outbound_outcome .iptables (Sample.applicationDeny .enforcing) rfl .strict Sample.newPacket
    ⟨0, 0, []⟩ ⟨some 0, 0⟩ (by decide +kernel) (by decide +kernel) (by decide +kernel)
    (by decide +kernel) Sample.connection (fun _ => rfl) Sample.identity
    (fun _ _ => .ok Sample.identity) (fun _ _ => rfl) (.ok none) _ (fun _ => rfl) []).trans
    (by decide +kernel)

end OpenShield
