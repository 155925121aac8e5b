import OpenShield.Core.Marks
import OpenShield.Netfilter.Nft

/-!
# The nftables compiler

The policy that the nftables backend installs for a snapshot: an input chain, three output
chains (mark sanitation, policy, authorisation) and a forward chain. Rules are generated in
the order in which the compiler prints them, one definition per printing function.
-/

namespace OpenShield

open Netfilter

structure NftablesPolicy where
  input : Nft.BaseChain Counter
  outputSanitize : Nft.BaseChain Counter
  output : Nft.BaseChain Counter
  outputAuthorize : Nft.BaseChain Counter
  forward : Nft.BaseChain Counter
  deriving DecidableEq

namespace Nftables

open Nft (Match Statement rule)

abbrev Rules := List (Nft.Rule Counter)

def APPLICATION_REPLY_PROTOCOL_MATCHES : List (List Match) :=
  [[.l4proto protoTcp], [.l4proto protoUdp],
    [.nfproto .ipv4, .l4proto protoIcmp], [.nfproto .ipv6, .l4proto protoIcmpV6]]

def APPLICATION_NON_TCP_PROTOCOL_MATCHES : List (List Match) :=
  [[.l4proto protoUdp],
    [.nfproto .ipv4, .l4proto protoIcmp], [.nfproto .ipv6, .l4proto protoIcmpV6]]

def packetMarkDomainSet (domain : BitVec 32) : Statement Counter :=
  .setMark APPLICATION_MARK_PAYLOAD_MASK domain

def connmarkSet (value : BitVec 32) : Statement Counter :=
  .setCtMark APPLICATION_CONNMARK_FOREIGN_MASK value

def protocolSelectors : TransportProtocol → List Match
  | .any => []
  | .tcp => [.l4proto protoTcp]
  | .udp => [.l4proto protoUdp]
  | .icmp => [.nfproto .ipv4, .l4proto protoIcmp]
  | .icmpV6 => [.nfproto .ipv6, .l4proto protoIcmpV6]

/-- The match of a port selector. Validation allows it only with TCP and UDP. -/
def portSelectors (protocol : TransportProtocol) (port : Option PortRange) (reverse : Bool) :
    List Match :=
  match port with
  | none => []
  | some port =>
    match protocol, reverse with
    | .tcp, false => [.dport protoTcp port.start port.stop]
    | .tcp, true => [.sport protoTcp port.start port.stop]
    | .udp, false => [.dport protoUdp port.start port.stop]
    | .udp, true => [.sport protoUdp port.start port.stop]
    | _, _ => []

def interfaceSelectors (interface : Option InterfaceName) (direction : Direction) : List Match :=
  match interface, direction with
  | none, _ => []
  | some interface, .inbound => [.iifname interface.value]
  | some interface, .outbound => [.oifname interface.value]

/-- The match of a network selector: the peer is the source of inbound and the destination of
outbound packets. -/
def networkSelectors (network : Option IpNet) (direction : Direction) : List Match :=
  match network, direction with
  | none, _ => []
  | some network, .inbound => [.saddr network]
  | some network, .outbound => [.daddr network]

variable (spec : RuleSpec)

/-- The matches of a rule in a chain; a stateful reverse rule matches replies. -/
def ruleSelectors (direction : Direction) (statefulReverse : Bool) :
    List Match :=
  (if statefulReverse then [.ctDirection .reply, .ctState [.established]] else []) ++
    interfaceSelectors spec.interface direction ++
    networkSelectors spec.peerNetwork direction ++
    protocolSelectors spec.protocol ++
    portSelectors spec.protocol spec.port statefulReverse

def rejectVerdict (protocol : TransportProtocol) : Verdict :=
  if protocol = .tcp then .reject .tcpReset else .reject .portUnreachable

def ruleVerdict (r : Rule) (direction : Direction) (statefulReverse : Bool) (counter : Counter)
    (action : RuleAction) (outboundHandoff : Bool) (rejectConnmark : BitVec 32) :
    Nft.Rule Counter :=
  rule (ruleSelectors r.spec direction statefulReverse) <|
    (if direction = .outbound ∧ action = .accept ∧ outboundHandoff then
      [packetMarkDomainSet APPLICATION_HANDOFF_DOMAIN] else []) ++
    (if action = .reject then [connmarkSet rejectConnmark] else []) ++
    [.counter counter,
      .verdict (match action with
        | .accept => .accept
        | .drop => .drop
        | .reject => rejectVerdict r.spec.protocol)]

variable (snapshot : Snapshot) (direction : Direction)

def directCandidates
    (actions : List RuleAction) : List Rule :=
  (snapshot.rules.filter fun r => r.spec.enabled && decide (r.spec.direction = direction) &&
    r.spec.application.isNone && decide (r.spec.action ∈ actions)).insertionSort ruleOrder

def appendDirectRules (actions : List RuleAction)
    (counter : Counter) : Rules :=
  (directCandidates snapshot direction actions).map fun r =>
    ruleVerdict r direction false counter r.spec.action (decide (snapshot.mode ≠ .learning))
      (applicationRejectConnmark snapshot.flowGeneration)

def reverseCandidates : List Rule :=
  (snapshot.rules.filter fun r => r.spec.enabled && decide (r.spec.direction ≠ direction) &&
    r.spec.application.isNone && decide (r.spec.action = .accept)).insertionSort
      fun a b => a.id ≤ b.id

variable (counter : Counter)

def appendReverseRules :
    Rules :=
  (reverseCandidates snapshot direction).map fun r =>
    ruleVerdict r direction true counter .accept (decide (snapshot.mode ≠ .learning))
      (applicationRejectConnmark snapshot.flowGeneration)

/-- The accepting end of a fast path; outbound packets are handed to the last chain. -/
def fastPathAccept : Nft.Rule Counter :=
  (if direction = .outbound then [packetMarkDomainSet APPLICATION_HANDOFF_DOMAIN] else []) ++
    [.counter counter, .verdict .accept]

def generatedRejectReplySelectors : List (List Match) :=
  [[.l4proto protoTcp, .tcpFlags tcpRst tcpRst],
    [.nfproto .ipv4, .l4proto protoIcmp, .icmpType protoIcmp 3, .icmpCode protoIcmp 3],
    [.nfproto .ipv6, .l4proto protoIcmpV6, .icmpType protoIcmpV6 1, .icmpCode protoIcmpV6 4]]

def appendGeneratedRejectReplyAccept
    (rejectConnmark : BitVec 32) : Rules :=
  generatedRejectReplySelectors.map fun selector =>
    rule ([Match.ctState [.related], .ctDirection .reply] ++ selector ++
        [Match.ctMark APPLICATION_CONNMARK_MASK rejectConnmark])
      (fastPathAccept direction counter)

def dhcpBootstrapSelectors : List (List Match) :=
  [[.nfproto .ipv6, .saddr (.v6 (0xfe80#16 ++ 0#112) 10), .l4proto protoUdp,
      .sport protoUdp 547 547, .dport protoUdp 546 546],
    [.nfproto .ipv4, .daddr (.v4 0xffffffff 32), .l4proto protoUdp,
      .sport protoUdp 67 67, .dport protoUdp 68 68]]

def appendDhcpBootstrapAccepts : Rules :=
  dhcpBootstrapSelectors.map fun selector => rule selector [.counter counter, .verdict .accept]

def icmpV6Message (type : BitVec 8) (code : Option (BitVec 8)) : List Match :=
  [.l4proto protoIcmpV6, .icmpType protoIcmpV6 type] ++
    (code.map (Match.icmpCode protoIcmpV6)).toList

def unspecifiedV6 : IpNet := .v6 0 128
def multicastV6 : IpNet := .v6 (0xff00#16 ++ 0#112) 8
def linkLocalV6 : IpNet := .v6 (0xfe80#16 ++ 0#112) 10
def linkLocalMulticastV6 : IpNet := .v6 (0xff02#16 ++ 0#112) 16

def unicastSourceV6 : List Match := [.saddrNot unspecifiedV6, .saddrNot multicastV6]

def relatedIcmpV6Error (type : BitVec 8) (code : Option (BitVec 8)) : List Match :=
  Match.ctState [.related] :: Match.nfproto .ipv6 :: unicastSourceV6 ++ icmpV6Message type code

def linkIcmpV6 (addresses : List Match) (hops type : BitVec 8) : List Match :=
  Match.nfproto .ipv6 :: addresses ++ Match.hoplimit hops :: icmpV6Message type (some 0)

def ipv6HostControlSelectors : List (List Match) :=
  [relatedIcmpV6Error 1 none,
    relatedIcmpV6Error 2 (some 0),
    relatedIcmpV6Error 3 (some 0),
    relatedIcmpV6Error 4 (some 1),
    relatedIcmpV6Error 4 (some 2),
    linkIcmpV6 [.saddr linkLocalV6] 255 134,
    linkIcmpV6 [.saddrNot multicastV6] 255 135,
    linkIcmpV6 unicastSourceV6 255 136,
    linkIcmpV6 [.saddr linkLocalV6, .daddr linkLocalMulticastV6] 1 130]

def appendIpv6HostControlPlaneAccepts : Rules :=
  ipv6HostControlSelectors.map fun selector => rule selector [.counter counter, .verdict .accept]

def interceptedProtocols : ApplicationInterception → List (List Match)
  | .none => []
  | .tcpInitial => APPLICATION_REPLY_PROTOCOL_MATCHES.take 1
  | .perPacket => APPLICATION_REPLY_PROTOCOL_MATCHES

def flowMarkMatch : Match :=
  .ctMark APPLICATION_CONNMARK_MASK (applicationFlowMark snapshot.flowGeneration)

def loopbackSelectors : Direction → List Match
  | .inbound => [.iifname "lo", .ctDirection .original, .ctState [.new, .established]]
  | .outbound => [.oifname "lo", .ctDirection .reply, .ctState [.established]]

def appendApplicationLoopbackAccept (interception : ApplicationInterception) : Rules :=
  if snapshot.mode ≠ .enforcing then []
  else (interceptedProtocols interception).map fun protocol =>
    rule (loopbackSelectors direction ++ protocol ++ [flowMarkMatch snapshot])
      (fastPathAccept direction counter)

def flowDirection : Direction → CtDir
  | .inbound => .reply
  | .outbound => .original

variable (interception : ApplicationInterception)

/-- The protocols whose flows are remembered. Outbound caching is for TCP only. -/
def flowProtocols :
    List (List Match) :=
  match direction, interception with
  | _, .none => []
  | .inbound, .perPacket => APPLICATION_REPLY_PROTOCOL_MATCHES
  | .inbound, .tcpInitial => APPLICATION_REPLY_PROTOCOL_MATCHES.take 1
  | .outbound, .tcpInitial => APPLICATION_REPLY_PROTOCOL_MATCHES.take 1
  | .outbound, .perPacket => APPLICATION_REPLY_PROTOCOL_MATCHES.take 1

def appendApplicationFlowAccept (interception : ApplicationInterception) : Rules :=
  (flowProtocols direction interception).map fun protocol =>
    rule ([Match.ctDirection (flowDirection direction), .ctState [.established]] ++ protocol ++
        [flowMarkMatch snapshot])
      (fastPathAccept direction counter)

def appendApplicationNonTcpConnmarkReset : Rules :=
  APPLICATION_NON_TCP_PROTOCOL_MATCHES.map fun protocol =>
    rule (Match.ctDirection .original :: protocol) [.setCtMark APPLICATION_CONNMARK_FOREIGN_MASK 0]

def replyProtocolApplies (protocol : TransportProtocol) : Bool :=
  (decide (spec.protocol = .any) || decide (spec.protocol = protocol)) &&
    !protocolNetworkMismatch protocol spec.peerNetwork

/-- Envelopes of application accepts for protocols whose replies may have to wait. The
interface is dropped, so that asymmetric routing can still retry. -/
def applicationReplyCandidates : List Rule :=
  let rules := (snapshot.rules.filter fun r => r.spec.enabled &&
    decide (r.spec.direction = .outbound) && r.spec.application.isSome &&
    decide (r.spec.action = .accept)).insertionSort fun a b => a.id ≤ b.id
  rules.flatMap fun r =>
    ([TransportProtocol.udp, .icmp, .icmpV6].filter (replyProtocolApplies r.spec)).map
      fun protocol => { r with spec := { r.spec with protocol, interface := none } }

def appendApplicationReplyQueues : Rules :=
  (applicationReplyCandidates snapshot).map fun r =>
    let echo : List Match :=
      match r.spec.protocol with
      | .icmp => [.icmpType protoIcmp 0, .icmpCode protoIcmp 0]
      | .icmpV6 => [.icmpType protoIcmpV6 129, .icmpCode protoIcmpV6 0]
      | _ => []
    rule (ruleSelectors r.spec .inbound true ++ echo ++
        [.metaMarkNot APPLICATION_MARK_DOMAIN_MASK APPLICATION_HANDOFF_DOMAIN])
      [.verdict (.queue APPLICATION_REPLY_QUEUE_NUMBER false)]

def learningQueueSelectors : List (List Match) :=
  [[.l4proto protoTcp, .ctState [.new], .tcpFlags (tcpSyn ||| tcpAck) tcpSyn],
    [.l4proto protoTcp, .ctState [.established], .tcpFlags (tcpFin ||| tcpRst) 0, .limit 64 32],
    [.l4protoNot protoTcp]]

def appendLearningQueue : Rules :=
  learningQueueSelectors.map fun selector =>
    rule (Match.ctDirection .original :: selector)
      [.counter .learnedOut, .verdict (.queue APPLICATION_LEARNING_QUEUE_NUMBER true)]

def applicationCandidates (actions : List RuleAction) : List Rule :=
  (snapshot.rules.filter fun r => r.spec.enabled && decide (r.spec.direction = .outbound) &&
    r.spec.application.isSome && decide (r.spec.action ∈ actions)).insertionSort ruleOrder

def appendApplicationRuleQueues (actions : List RuleAction) : Rules :=
  (applicationCandidates snapshot actions).map fun r =>
    rule (Match.ctDirection .original :: ruleSelectors r.spec .outbound false)
      [packetMarkDomainSet APPLICATION_PENDING_DOMAIN,
        .verdict (.queue APPLICATION_QUEUE_NUMBER false)]

def originalSelectors : List Match :=
  interfaceSelectors spec.interface .outbound ++ protocolSelectors spec.protocol ++
    (spec.peerNetwork.map Match.ctOriginalDaddr).toList ++
    (spec.port.map fun port => Match.ctOriginalProtoDst port.start port.stop).toList

def appendApplicationCandidateGuardDrops
    (actions : List RuleAction) : Rules :=
  (applicationCandidates snapshot actions).flatMap fun r =>
    [rule (ruleSelectors r.spec .outbound false) [.counter counter, .verdict .drop]] ++
      (if r.spec.peerNetwork.isNone && r.spec.port.isNone then []
      else [rule (originalSelectors r.spec) [.counter counter, .verdict .drop]])

def appendOutboundCandidates : Rules :=
  let denies : List RuleAction := [.drop, .reject]
  let all : List RuleAction := [.drop, .reject, .accept]
  match snapshot.mode with
  | .enforcing =>
    appendApplicationRuleQueues snapshot all ++
      appendApplicationCandidateGuardDrops snapshot .droppedOut all ++
      appendDirectRules snapshot .outbound [.accept] .acceptedOut
  | .learning =>
    appendApplicationRuleQueues snapshot denies ++
      appendApplicationCandidateGuardDrops snapshot .droppedOut denies
  | .blockAll => appendDirectRules snapshot .outbound [.accept] .acceptedOut

def appendFastPaths
    (interception : ApplicationInterception) : Rules :=
  if interception = .none then []
  else
    appendApplicationLoopbackAccept snapshot direction counter interception ++
      appendApplicationFlowAccept snapshot direction counter interception ++
      (if direction = .outbound ∧ interception = .perPacket then
        appendApplicationNonTcpConnmarkReset else [])

def inputRules : Rules :=
  (if hasEnabledOutboundReject snapshot then
    appendGeneratedRejectReplyAccept .inbound .acceptedIn
      (applicationRejectConnmark snapshot.flowGeneration) else []) ++
    appendDhcpBootstrapAccepts .acceptedIn ++
    [rule [.ctState [.invalid]] [.counter .droppedIn, .verdict .drop]] ++
    appendIpv6HostControlPlaneAccepts .acceptedIn ++
    (if snapshot.mode = .learning then
      [rule [.iifname "lo", .ctDirection .original] [.counter .acceptedIn, .verdict .accept],
        rule [.ctDirection .reply, .ctState [.established, .related]]
          [.counter .acceptedIn, .verdict .accept]] else []) ++
    appendFastPaths snapshot .inbound .acceptedIn interception ++
    appendDirectRules snapshot .inbound [.accept] .acceptedIn ++
    appendReverseRules snapshot .inbound .acceptedIn ++
    (if snapshot.mode = .enforcing ∧ interception = .perPacket then
      appendApplicationReplyQueues snapshot else [])

def outputRules : Rules :=
  (if hasEnabledOutboundReject snapshot then
    appendGeneratedRejectReplyAccept .outbound .acceptedOut
      (applicationRejectConnmark snapshot.flowGeneration) else []) ++
    -- learning must not turn the INVALID classification into an outbound deny
    (if snapshot.mode = .enforcing then
      [rule [.ctState [.invalid]] [.counter .droppedOut, .verdict .drop]] else []) ++
    appendDirectRules snapshot .outbound [.drop, .reject] .droppedOut ++
    appendFastPaths snapshot .outbound .acceptedOut interception ++
    appendReverseRules snapshot .outbound .acceptedOut ++
    appendOutboundCandidates snapshot ++
    (if interception ≠ .none ∧ snapshot.mode = .learning then
      appendLearningQueue ++ [[.counter .acceptedOut, .verdict .accept]] else [])

def appendChain : Nft.BaseChain Counter :=
  let rules :=
    if snapshot.mode = .blockAll then []
    else
      match direction with
      | .inbound => inputRules snapshot interception
      | .outbound => outputRules snapshot interception
  let dropped :=
    match direction with
    | .inbound => .droppedIn
    | .outbound => .droppedOut
  { rules := rules ++ [[.counter dropped, .verdict .drop]], policy := .drop }

def appendApplicationMarkSanitizationChain : Nft.BaseChain Counter :=
  { rules := [rule [.metaMarkNot APPLICATION_MARK_DOMAIN_MASK 0]
      [.setMark APPLICATION_MARK_PAYLOAD_MASK 0]]
    policy := .accept }

def domainMatch (domain : BitVec 32) : Match := .metaMark APPLICATION_MARK_DOMAIN_MASK domain

def refusal (kind : RejectKind) : Nft.Rule Counter :=
  [connmarkSet (applicationRejectConnmark snapshot.flowGeneration), .counter .droppedOut,
    .verdict (.reject kind)]

def admission : Nft.Rule Counter :=
  [connmarkSet (applicationFlowMark snapshot.flowGeneration),
    .setMark APPLICATION_MARK_PAYLOAD_MASK 0] ++
    (if snapshot.mode = .learning then [.counter .learnedOut] else []) ++
    [.counter .acceptedOut, .verdict .accept]

def authorizationRules : Rules :=
  if interception = .none then []
  else
    [rule [.l4proto protoTcp, domainMatch APPLICATION_REJECT_DOMAIN] (refusal snapshot .tcpReset),
      rule [domainMatch APPLICATION_REJECT_DOMAIN] (refusal snapshot .portUnreachable)] ++
    (interceptedProtocols interception).map fun protocol =>
      rule (protocol ++ [domainMatch APPLICATION_PENDING_DOMAIN]) (admission snapshot)

/-- The last output chain: it admits only packets that an earlier chain or the daemon marked,
and in learning everything else. -/
def appendApplicationAuthorizationChain : Nft.BaseChain Counter :=
  { rules := authorizationRules snapshot interception ++
      (if snapshot.mode ≠ .blockAll then
        [rule [domainMatch APPLICATION_HANDOFF_DOMAIN]
          [.setMark APPLICATION_MARK_PAYLOAD_MASK 0, .verdict .accept]] else []) ++
      (if snapshot.mode = .learning then [[.counter .acceptedOut, .verdict .accept]] else []) ++
      [[.counter .droppedOut, .verdict .drop]]
    policy := .drop }

/-- Forwarding is blocked in `blockAll` and left to other programs otherwise. -/
def appendForwardChain (mode : Mode) : Nft.BaseChain Counter :=
  { rules :=
      if mode = .blockAll then [[.anonymousCounter, .verdict .drop]] else [[.verdict .accept]]
    policy := .drop }

def policy : NftablesPolicy :=
  let interception := snapshot.applicationInterception
  { input := appendChain snapshot .inbound interception
    outputSanitize := appendApplicationMarkSanitizationChain
    output := appendChain snapshot .outbound interception
    outputAuthorize := appendApplicationAuthorizationChain snapshot interception
    forward := appendForwardChain snapshot.mode }

def compile : Except CoreError NftablesPolicy := do
  snapshot.validate
  return policy snapshot

end Nftables

namespace NftablesPolicy

def outputHook (policy : NftablesPolicy) (p : Packet) : List (Entry Counter) :=
  [policy.outputSanitize.entry p, policy.output.entry p, policy.outputAuthorize.entry p]

def inputHook (policy : NftablesPolicy) (p : Packet) : List (Entry Counter) :=
  [policy.input.entry p]

end NftablesPolicy

end OpenShield
