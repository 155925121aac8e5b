import OpenShield.Core.Nftables
import OpenShield.Netfilter.Xtables

/-!
# The iptables compiler

The pair of restore programs that the compatibility backend installs, one per address family.
Only chains that OpenShield owns are filled; the built-in chains dispatch to them. `RETURN`
hands a packet back to the built-in chain and so stands for acceptance by OpenShield.

`mangle/OUTPUT` first runs the mark sanitation and last the learning observer; the dispatch to
the filter chains comes first in its built-in chain.
-/

namespace OpenShield

open Netfilter

/-- Chains that an output rule can enter. -/
inductive AppChain
  /-- `OPENSHIELD_APP_TCP`. -/
  | tcp
  /-- `OPENSHIELD_APP_PKT`. -/
  | packet
  deriving DecidableEq, Repr

structure FamilyPolicy where
  mark : List (Xtables.Rule AppChain Counter)
  observe : List (Xtables.Rule AppChain Counter)
  input : List (Xtables.Rule AppChain Counter)
  output : List (Xtables.Rule AppChain Counter)
  forward : List (Xtables.Rule AppChain Counter)
  appTcp : List (Xtables.Rule AppChain Counter)
  appPacket : List (Xtables.Rule AppChain Counter)
  deriving DecidableEq

structure IptablesPolicy where
  ipv4 : FamilyPolicy
  ipv6 : FamilyPolicy
  deriving DecidableEq

namespace Iptables

open Xtables (Match Target)

abbrev XRule := Xtables.Rule AppChain Counter

def ct (states : Option (List CtStateBit)) (dir : Option CtDir) : Match :=
  .conntrack { states, dir, origDst := none, origDport := none }

def ownership : XRule := ⟨[], [], .none⟩

def appendReservedMarkSanitizer : XRule :=
  ⟨[.markNot 0 APPLICATION_MARK_DOMAIN_MASK], [], .mark 0 APPLICATION_MARK_DOMAIN_MASK⟩

def protocolOfOtherFamily : TransportProtocol → Family → Bool
  | .icmp, .ipv6 => true
  | .icmpV6, .ipv4 => true
  | _, _ => false

def networkOfOtherFamily : Option IpNet → Family → Bool
  | some (.v4 ..), .ipv6 => true
  | some (.v6 ..), .ipv4 => true
  | _, _ => false

variable (spec : RuleSpec)

def supportsFamily (family : Family) : Bool :=
  !(protocolOfOtherFamily spec.protocol family || networkOfOtherFamily spec.peerNetwork family)

def protocolSelectors : TransportProtocol → List Match
  | .any => []
  | .tcp => [.protocol protoTcp]
  | .udp => [.protocol protoUdp]
  | .icmp => [.protocol protoIcmp]
  | .icmpV6 => [.protocol protoIcmpV6]

def interfaceSelectors (interface : Option InterfaceName) (direction : Direction) : List Match :=
  match interface, direction with
  | none, _ => []
  | some interface, .inbound => [.inInterface interface.value]
  | some interface, .outbound => [.outInterface interface.value]

def networkSelectors (network : Option IpNet) (direction : Direction) : List Match :=
  match network, direction with
  | none, _ => []
  | some network, .inbound => [.source network]
  | some network, .outbound => [.destination network]

def portSelectors (port : Option PortRange) (reverse : Bool) : List Match :=
  match port, reverse with
  | none, _ => []
  | some port, false => [.dport port.start port.stop]
  | some port, true => [.sport port.start port.stop]

/-- The matches of a rule in a chain; a stateful reverse rule matches replies. -/
def ruleMatch (direction : Direction) (statefulReverse : Bool) : List Match :=
  networkSelectors spec.peerNetwork direction ++
    interfaceSelectors spec.interface direction ++
    protocolSelectors spec.protocol ++
    (if statefulReverse then [ct (some [.established]) (some .reply)] else []) ++
    portSelectors spec.port statefulReverse

def rejectTarget (protocol : TransportProtocol) : Target AppChain :=
  if protocol = .tcp then .reject .tcpReset else .reject .portUnreachable

/-- A rule with its verdict; a reject first marks the connection as refused. -/
def ruleVerdict (r : Rule) (direction : Direction) (statefulReverse : Bool)
    (action : RuleAction) (rejectConnmark : BitVec 32) : List XRule :=
  let tests := ruleMatch r.spec direction statefulReverse
  let counter : Counter :=
    match direction, action with
    | .inbound, .accept => .acceptedIn
    | .outbound, .accept => .acceptedOut
    | _, _ => .droppedOut
  let target : Target AppChain :=
    match action with
    | .accept => .ret
    | .drop => .drop
    | .reject => rejectTarget r.spec.protocol
  (if action = .reject then
    [⟨tests, [], .connmark rejectConnmark APPLICATION_CONNMARK_MASK⟩] else []) ++
    [⟨tests, [counter], target⟩]

variable (snapshot : Snapshot) (family : Family) (direction : Direction) (actions : List RuleAction)

def directCandidates : List Rule :=
  (snapshot.rules.filter fun r => r.spec.enabled && decide (r.spec.direction = direction) &&
    r.spec.application.isNone && supportsFamily r.spec family &&
    decide (r.spec.action ∈ actions)).insertionSort ruleOrder

def appendDirectRulesForActions : List XRule :=
  (directCandidates snapshot family direction actions).flatMap fun r =>
    ruleVerdict r direction false r.spec.action
      (applicationRejectConnmark snapshot.flowGeneration)

def reverseCandidates :
    List Rule :=
  (snapshot.rules.filter fun r => r.spec.enabled && decide (r.spec.direction ≠ direction) &&
    r.spec.application.isNone && supportsFamily r.spec family &&
    decide (r.spec.action = .accept)).insertionSort fun a b => a.id ≤ b.id

def appendReverseRules :
    List XRule :=
  (reverseCandidates snapshot family direction).flatMap fun r =>
    ruleVerdict r direction true .accept (applicationRejectConnmark snapshot.flowGeneration)

def applicationCandidates : List Rule :=
  (snapshot.rules.filter fun r => r.spec.enabled && decide (r.spec.direction = .outbound) &&
    r.spec.application.isSome && supportsFamily r.spec family &&
    decide (r.spec.action ∈ actions)).insertionSort ruleOrder

def appendApplicationRuleQueues : List XRule :=
  (applicationCandidates snapshot family actions).flatMap fun r =>
    let tests := ruleMatch r.spec .outbound false ++ [ct none (some .original)]
    [⟨tests, [], .mark APPLICATION_PENDING_DOMAIN APPLICATION_MARK_DOMAIN_MASK⟩,
      ⟨tests, [], .nfqueue APPLICATION_QUEUE_NUMBER false⟩]

def originalMatch : List Match :=
  interfaceSelectors spec.interface .outbound ++ protocolSelectors spec.protocol ++
    [.conntrack
      { states := none
        dir := some .original
        origDst := spec.peerNetwork
        origDport := spec.port.map fun port => (port.start, port.stop) }]

/-- Packets in the envelope of an application rule that could not be queued: untracked ones,
and tracked ones whose destination was translated. -/
def appendApplicationCandidateGuardDrops : List XRule :=
  (applicationCandidates snapshot family actions).flatMap fun r =>
    [⟨ruleMatch r.spec .outbound false ++ [ct (some [.untracked]) none], [.droppedOut], .drop⟩] ++
      (if r.spec.peerNetwork.isNone && r.spec.port.isNone then []
      else [⟨originalMatch r.spec, [.droppedOut], .drop⟩])

def appendApplicationReplyQueues : List XRule :=
  ((Nftables.applicationReplyCandidates snapshot).filter
    fun r => supportsFamily r.spec family).map fun r =>
      let echo : List Match :=
        match r.spec.protocol with
        | .icmp => [.icmpType 0 (some 0)]
        | .icmpV6 => [.icmpType 129 (some 0)]
        | _ => []
      ⟨ruleMatch r.spec .inbound true ++ echo ++
        [.markNot APPLICATION_HANDOFF_DOMAIN APPLICATION_MARK_DOMAIN_MASK], [],
        .nfqueue APPLICATION_REPLY_QUEUE_NUMBER false⟩

def appendLearningObserverKernelGuards : List XRule :=
  ((snapshot.rules.filter fun r => r.spec.enabled && decide (r.spec.direction = .outbound) &&
    decide (r.spec.action = .drop ∨ r.spec.action = .reject) &&
    supportsFamily r.spec family).insertionSort ruleOrder).map fun r =>
      ⟨ruleMatch r.spec .outbound false ++ [ct none (some .original)], [], .ret⟩

def learningObserverSelectors : List (List Match) :=
  [[.protocol protoTcp, .tcpFlags (tcpFin ||| tcpSyn ||| tcpRst ||| tcpAck) tcpSyn,
      ct (some [.new]) (some .original)],
    [.protocol protoTcp, .tcpFlags (tcpFin ||| tcpRst) 0,
      ct (some [.established]) (some .original), .limit 64 32],
    [.protocolNot protoTcp, ct none (some .original)]]

/-- The chain that runs first in `mangle/OUTPUT`. -/
def markChain : List XRule := [ownership, appendReservedMarkSanitizer, ⟨[], [], .ret⟩]

/-- The chain that runs last in `mangle/OUTPUT`. -/
def observeChain : List XRule :=
  [ownership, appendReservedMarkSanitizer] ++
    (if snapshot.mode = .learning then
      appendLearningObserverKernelGuards snapshot family ++
        learningObserverSelectors.map fun selector =>
          ⟨selector, [.learnedOut], .nfqueue APPLICATION_LEARNING_QUEUE_NUMBER true⟩
    else []) ++
    [⟨[], [], .ret⟩]

def domainMatch (domain : BitVec 32) : Match := .mark domain APPLICATION_MARK_DOMAIN_MASK

def flowMarkMatch : Match :=
  .connmark (applicationFlowMark snapshot.flowGeneration) APPLICATION_CONNMARK_MASK

def applicationReplyProtocols : Family → List L4Proto
  | .ipv4 => [protoTcp, protoUdp, protoIcmp]
  | .ipv6 => [protoTcp, protoUdp, protoIcmpV6]

def applicationNonTcpProtocols : Family → List L4Proto
  | .ipv4 => [protoUdp, protoIcmp]
  | .ipv6 => [protoUdp, protoIcmpV6]

def interceptedProtocols : ApplicationInterception → List L4Proto
  | .none => []
  | .tcpInitial => (applicationReplyProtocols family).take 1
  | .perPacket => applicationReplyProtocols family

def acceptedCounter : Direction → Counter
  | .inbound => .acceptedIn
  | .outbound => .acceptedOut

def loopbackMatch (protocol : L4Proto) : Direction → List Match
  | .inbound =>
    [.inInterface "lo", .protocol protocol, ct (some [.new, .established]) (some .original),
      flowMarkMatch snapshot]
  | .outbound =>
    [.outInterface "lo", .protocol protocol, ct (some [.established]) (some .reply),
      flowMarkMatch snapshot]

def appendApplicationLoopbackAccept (interception : ApplicationInterception) : List XRule :=
  if snapshot.mode ≠ .enforcing then []
  else (interceptedProtocols family interception).map fun protocol =>
    ⟨loopbackMatch snapshot protocol direction, [acceptedCounter direction], .ret⟩

def appendInvalidDrop (counter : Counter) : XRule :=
  ⟨[ct (some [.invalid]) none], [counter], .drop⟩

def generatedRejectReplySelectors : Family → List (List Match)
  | .ipv4 => [[.protocol protoTcp, .tcpFlags tcpRst tcpRst],
      [.protocol protoIcmp, .icmpType 3 (some 3)]]
  | .ipv6 => [[.protocol protoTcp, .tcpFlags tcpRst tcpRst],
      [.protocol protoIcmpV6, .icmpType 1 (some 4)]]

def appendGeneratedRejectReplyAccept (counter : Counter)
    (rejectConnmark : BitVec 32) : List XRule :=
  (generatedRejectReplySelectors family).map fun selector =>
    ⟨selector ++ [ct (some [.related]) (some .reply),
        Match.connmark rejectConnmark APPLICATION_CONNMARK_MASK],
      [counter], .ret⟩

def dhcpBootstrapSelector : Family → List Match
  | .ipv4 => [.destination (.v4 0xffffffff 32), .protocol protoUdp, .sport 67 67, .dport 68 68]
  | .ipv6 =>
    [.source Nftables.linkLocalV6, .protocol protoUdp, .sport 547 547, .dport 546 546]

def relatedIcmpV6Error (type : BitVec 8) (code : Option (BitVec 8)) : List Match :=
  [.protocol protoIcmpV6, ct (some [.related]) none, .srcTypeNot [.unspec, .multicast],
    .icmpType type code]

def ipv6HostControlSelectors : List (List Match) :=
  [relatedIcmpV6Error 1 none,
    relatedIcmpV6Error 2 (some 0),
    relatedIcmpV6Error 3 (some 0),
    relatedIcmpV6Error 4 (some 1),
    relatedIcmpV6Error 4 (some 2),
    [.source Nftables.linkLocalV6, .protocol protoIcmpV6, .hlEq 255, .icmpType 134 (some 0)],
    [.protocol protoIcmpV6, .srcTypeNot [.multicast], .hlEq 255, .icmpType 135 (some 0)],
    [.protocol protoIcmpV6, .srcTypeNot [.unspec, .multicast], .hlEq 255,
      .icmpType 136 (some 0)],
    [.source Nftables.linkLocalV6, .destination Nftables.linkLocalMulticastV6,
      .protocol protoIcmpV6, .hlEq 1, .icmpType 130 (some 0)]]

def appendIpv6HostControlPlaneAccepts : List XRule :=
  if family ≠ .ipv6 then []
  else ipv6HostControlSelectors.map fun selector => ⟨selector, [.acceptedIn], .ret⟩

variable (interception : ApplicationInterception)

def appendReplyFlowAccept : List XRule :=
  (interceptedProtocols family interception).map fun protocol =>
    ⟨[.protocol protocol, ct (some [.established]) (some .reply), flowMarkMatch snapshot],
      [.acceptedIn], .ret⟩

def inputRules :
    List XRule :=
  [⟨dhcpBootstrapSelector family, [.acceptedIn], .ret⟩, appendInvalidDrop .droppedIn] ++
    appendIpv6HostControlPlaneAccepts family ++
    (if hasEnabledOutboundReject snapshot then
      appendGeneratedRejectReplyAccept family .acceptedIn
        (applicationRejectConnmark snapshot.flowGeneration) else []) ++
    (if snapshot.mode = .learning then
      [⟨[.inInterface "lo", ct none (some .original)], [.acceptedIn], .ret⟩,
        ⟨[ct (some [.related, .established]) (some .reply)], [.acceptedIn], .ret⟩] else []) ++
    (if interception = .none then []
    else
      appendApplicationLoopbackAccept snapshot family .inbound interception ++
        appendReplyFlowAccept snapshot family interception) ++
    appendDirectRulesForActions snapshot family .inbound [.accept] ++
    appendReverseRules snapshot family .inbound ++
    (if snapshot.mode = .enforcing ∧ interception = .perPacket then
      appendApplicationReplyQueues snapshot family else [])

def appendInputChain : List XRule :=
  [ownership] ++
    (if snapshot.mode = .blockAll then [] else inputRules snapshot family interception) ++
    [⟨[], [.droppedIn], .drop⟩]

def appendRefusals : List XRule :=
  [⟨[domainMatch APPLICATION_REJECT_DOMAIN], [],
      .connmark (applicationRejectConnmark snapshot.flowGeneration) APPLICATION_CONNMARK_MASK⟩,
    ⟨[.protocol protoTcp, domainMatch APPLICATION_REJECT_DOMAIN], [.droppedOut],
      .reject .tcpReset⟩,
    ⟨[domainMatch APPLICATION_REJECT_DOMAIN], [.droppedOut], .reject .portUnreachable⟩]

def appendPacketHandoffs : List XRule :=
  (applicationNonTcpProtocols family).map (fun protocol =>
    ⟨[.protocol protocol, domainMatch APPLICATION_HANDOFF_DOMAIN], [], .goto .packet⟩) ++
    (if snapshot.mode = .learning then
      [⟨[domainMatch APPLICATION_HANDOFF_DOMAIN], [], .goto .packet⟩] else [])

def appendVerdictConsumers : List XRule :=
  appendRefusals snapshot ++
    [⟨[.protocol protoTcp, domainMatch APPLICATION_HANDOFF_DOMAIN], [], .goto .tcp⟩] ++
    (if interception = .perPacket then appendPacketHandoffs snapshot family else [])

def appendOutputFastPaths : List XRule :=
  appendApplicationLoopbackAccept snapshot family .outbound interception ++
    [⟨[.protocol protoTcp, ct (some [.established]) (some .original), flowMarkMatch snapshot],
      [.acceptedOut], .ret⟩] ++
    (if interception = .perPacket then
      (applicationNonTcpProtocols family).map fun protocol =>
        ⟨[.protocol protocol, ct none (some .original)], [],
          .connmark 0 APPLICATION_CONNMARK_MASK⟩
    else [])

def appendOutputCandidates : List XRule :=
  let denies : List RuleAction := [.drop, .reject]
  let all : List RuleAction := [.drop, .reject, .accept]
  match snapshot.mode with
  | .enforcing =>
    appendApplicationRuleQueues snapshot family all ++
      appendApplicationCandidateGuardDrops snapshot family all
  | .learning =>
    appendApplicationRuleQueues snapshot family denies ++
      appendApplicationCandidateGuardDrops snapshot family denies
  | .blockAll => []

def outputRules : List XRule :=
  (if snapshot.mode = .enforcing then [appendInvalidDrop .droppedOut] else []) ++
    (if hasEnabledOutboundReject snapshot then
      appendGeneratedRejectReplyAccept family .acceptedOut
        (applicationRejectConnmark snapshot.flowGeneration) else []) ++
    appendDirectRulesForActions snapshot family .outbound [.drop] ++
    appendDirectRulesForActions snapshot family .outbound [.reject] ++
    (if interception = .none then []
    else
      appendVerdictConsumers snapshot family interception ++
        appendOutputFastPaths snapshot family interception) ++
    appendReverseRules snapshot family .outbound ++
    appendOutputCandidates snapshot family ++
    appendDirectRulesForActions snapshot family .outbound [.accept] ++
    (if snapshot.mode = .learning then [⟨[], [.acceptedOut], .ret⟩] else [])

def appendOutputChain : List XRule :=
  [ownership] ++
    (if snapshot.mode = .blockAll then [] else outputRules snapshot family interception) ++
    [⟨[], [.droppedOut], .drop⟩]

/-- The chain of packets that the daemon authorised: it dates the connection, clears the
private mark and leaves OpenShield. An inactive chain drops. -/
def appendApplicationChain (active : Bool) : List XRule :=
  let counters : List Counter :=
    if snapshot.mode = .learning then [.acceptedOut, .learnedOut] else [.acceptedOut]
  [ownership] ++
    (if active then
      [⟨[], [], .connmark (applicationFlowMark (snapshot.flowGeneration &&& MAX_FLOW_GENERATION))
          APPLICATION_CONNMARK_MASK⟩,
        ⟨[], [], .mark 0 APPLICATION_MARK_DOMAIN_MASK⟩,
        ⟨[], counters, .ret⟩]
    else []) ++
    [⟨[], [.droppedOut], .drop⟩]

/-- Forwarding is blocked in `blockAll` and left to other programs otherwise. -/
def appendForwardChain (mode : Mode) : List XRule :=
  [ownership] ++
    (if mode = .blockAll then [⟨[], [.droppedOut], .drop⟩] else [⟨[], [], .ret⟩])

def compileFamily : FamilyPolicy :=
  { mark := markChain
    observe := observeChain snapshot family
    input := appendInputChain snapshot family interception
    output := appendOutputChain snapshot family interception
    forward := appendForwardChain snapshot.mode
    appTcp := appendApplicationChain snapshot (decide (interception ≠ .none))
    appPacket := appendApplicationChain snapshot (decide (interception = .perPacket)) }

def policy : IptablesPolicy :=
  let interception := snapshot.applicationInterception
  { ipv4 := compileFamily snapshot .ipv4 interception
    ipv6 := compileFamily snapshot .ipv6 interception }

def compile : Except CoreError IptablesPolicy := do
  snapshot.validate
  return policy snapshot

end Iptables

namespace FamilyPolicy

open Xtables (Exit builtinEntry)

variable (policy : FamilyPolicy) (p : Packet)

/-- The chains that output rules can enter. They contain no further jumps. -/
def enter (chain : AppChain) : Step (Meta Counter) Exit :=
  run (Xtables.Rule.exec p fun _ => Step.skip)
    (match chain with
      | .tcp => policy.appTcp
      | .packet => policy.appPacket)

def chain (rules : List (Xtables.Rule AppChain Counter)) :
    Step (Meta Counter) Exit :=
  run (Xtables.Rule.exec p (policy.enter p)) rules

def outputHook : List (Entry Counter) :=
  [builtinEntry [policy.chain p policy.mark, policy.chain p policy.observe],
    builtinEntry [policy.chain p policy.output]]

def inputHook : List (Entry Counter) :=
  [builtinEntry [policy.chain p policy.input]]

end FamilyPolicy

namespace IptablesPolicy

variable (policy : IptablesPolicy)

def ofFamily : Family → FamilyPolicy
  | .ipv4 => policy.ipv4
  | .ipv6 => policy.ipv6

def outputHook (p : Packet) : List (Entry Counter) :=
  (policy.ofFamily p.family).outputHook p

def inputHook (p : Packet) : List (Entry Counter) :=
  (policy.ofFamily p.family).inputHook p

end IptablesPolicy

end OpenShield
