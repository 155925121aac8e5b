import OpenShield.Verdict.Rules

/-!
# What a policy says about inbound packets

The input chains of both backends ask the same questions about a packet. The order of the
questions differs in one place, which does not matter: the errors of rejects are never
classified as invalid. So one decision function describes both chains.
-/

namespace OpenShield

open Netfilter
open Nftables (unspecifiedV6 multicastV6 linkLocalV6 linkLocalMulticastV6)

def dhcpBootstrap (p : Packet) : Bool :=
  decide (p.l4proto = protoUdp) &&
    match p.family with
    | .ipv4 => (IpNet.v4 0xffffffff 32).maskMatches p.dst && portInRange p.sport? 67 67 &&
        portInRange p.dport? 68 68
    | .ipv6 => linkLocalV6.maskMatches p.src && portInRange p.sport? 547 547 &&
        portInRange p.dport? 546 546

def unicastSource (p : Packet) : Bool :=
  !unspecifiedV6.maskMatches p.src && !multicastV6.maskMatches p.src

/-- An error about a known connection: unreachable, too big, time exceeded or a parameter
problem. -/
def icmpV6Error (p : Packet) : Bool :=
  p.icmpIs 1 none || p.icmpIs 2 (some 0) || p.icmpIs 3 (some 0) || p.icmpIs 4 (some 1) ||
    p.icmpIs 4 (some 2)

/-- A message of the local link: a router advertisement, neighbour discovery or a multicast
listener query. -/
def icmpV6Link (p : Packet) : Bool :=
  (decide (p.hopLimit = 255) &&
      (linkLocalV6.maskMatches p.src && p.icmpIs 134 (some 0) ||
        !multicastV6.maskMatches p.src && p.icmpIs 135 (some 0) ||
        unicastSource p && p.icmpIs 136 (some 0))) ||
    (decide (p.hopLimit = 1) && linkLocalV6.maskMatches p.src &&
      linkLocalMulticastV6.maskMatches p.dst && p.icmpIs 130 (some 0))

def ipv6HostControl (p : Packet) : Bool :=
  decide (p.family = .ipv6) && decide (p.l4proto = protoIcmpV6) &&
    ((decide (p.ct.bit = .related) && unicastSource p && icmpV6Error p) || icmpV6Link p)

/-- Packets that `learning` accepts: local delivery, and replies. -/
def learningInput (p : Packet) : Bool :=
  (decide (p.iif = some "lo") && p.isOriginal) ||
    (p.isReply && (decide (p.ct.bit = .established) || decide (p.ct.bit = .related)))

def inputAdmitted (snapshot : Snapshot) (p : Packet) (connmark : BitVec 32) : Bool :=
  ipv6HostControl p ||
    (hasEnabledOutboundReject snapshot && generatedRejectReply snapshot p connmark) ||
    (decide (snapshot.mode = .learning) && learningInput p) ||
    fastPath snapshot p .inbound connmark ||
    networkMatch snapshot p .inbound .accept ||
    reverseMatch snapshot p .inbound

def echoReply (p : Packet) : TransportProtocol → Bool
  | .icmp => p.icmpIs 0 (some 0)
  | .icmpV6 => p.icmpIs 129 (some 0)
  | _ => true

def awaitsAuthorisation (snapshot : Snapshot) (p : Packet) (d : Meta Counter) : Bool :=
  ((Nftables.applicationReplyCandidates snapshot).any fun r =>
      selectorsMatch p r.spec .inbound true && echoReply p r.spec.protocol) &&
    !hasDomain d APPLICATION_HANDOFF_DOMAIN

def inputDecision (snapshot : Snapshot) (p : Packet) (d : Meta Counter) :
    Meta Counter × Verdict :=
  if dhcpBootstrap p then (d.count .acceptedIn, .accept)
  else if decide (p.ct.bit = .invalid) then (d.count .droppedIn, .drop)
  else if inputAdmitted snapshot p d.connmark then (d.count .acceptedIn, .accept)
  else if decide (snapshot.mode = .enforcing ∧ snapshot.applicationInterception = .perPacket) &&
      awaitsAuthorisation snapshot p d then
    (d, .queue APPLICATION_REPLY_QUEUE_NUMBER false)
  else (d.count .droppedIn, .drop)

/-- The chains may also ask first whether the packet is the error of a reject, because such a
packet is never classified as invalid. -/
theorem inputDecision_of_rejectReply {snapshot : Snapshot} {p : Packet} {d : Meta Counter}
    (h : (hasEnabledOutboundReject snapshot && generatedRejectReply snapshot p d.connmark) = true) :
    inputDecision snapshot p d = (d.count .acceptedIn, .accept) := by
  have hrelated : p.ct.bit = .related := by
    simp only [generatedRejectReply, Bool.and_eq_true, decide_eq_true_eq] at h
    exact h.2.1.1.1
  simp [inputDecision, inputAdmitted, h, hrelated]

/-- A packet that does not answer anything and comes from another host is accepted by a
network rule or dropped. -/
theorem inputDecision_of_new {snapshot : Snapshot} {p : Packet} (d : Meta Counter)
    (hinterface : p.iif ≠ some "lo") (hreply : p.isReply = false)
    (hdhcp : dhcpBootstrap p = false) (hcontrol : ipv6HostControl p = false) :
    (inputDecision snapshot p d).2 =
      if p.ct.bit ≠ .invalid ∧ networkMatch snapshot p .inbound .accept = true then .accept
      else .drop := by
  -- every other reason asks for a reply or for the loopback interface
  have hadmitted : inputAdmitted snapshot p d.connmark =
      networkMatch snapshot p .inbound .accept := by
    simp [inputAdmitted, hcontrol, generatedRejectReply, hreply, learningInput, hinterface,
      fastPath, loopbackShape, flowShape, establishedReply, reverseMatch, selectorsMatch]
  have hwaits : awaitsAuthorisation snapshot p d = false := by
    simp [awaitsAuthorisation, selectorsMatch, establishedReply, hreply]
  unfold inputDecision
  rw [hdhcp, hadmitted, hwaits, if_neg Bool.false_ne_true, Bool.and_false]
  by_cases hinvalid : p.ct.bit = .invalid
  · simp [hinvalid]
  · cases hmatch : networkMatch snapshot p .inbound .accept <;> simp [hinvalid]

end OpenShield
