import OpenShield.Core.Iptables

/-!
# What a rule selects

Both compilers print the selectors of a rule as matches of their rule language. This module
says what a rule selects in terms of the packet alone, and proves that the printed matches of
both backends mean exactly that.
-/

namespace OpenShield

open Netfilter

def protocolMatches (p : Packet) : TransportProtocol → Bool
  | .any => true
  | .tcp => decide (p.l4proto = protoTcp)
  | .udp => decide (p.l4proto = protoUdp)
  | .icmp => decide (p.family = .ipv4) && decide (p.l4proto = protoIcmp)
  | .icmpV6 => decide (p.family = .ipv6) && decide (p.l4proto = protoIcmpV6)

def chainInterface (p : Packet) : Direction → Option String
  | .inbound => p.iif
  | .outbound => p.oif

def peerAddress (p : Packet) : Direction → IpAddr
  | .inbound => p.src
  | .outbound => p.dst

def interfaceMatches (used : Option String) (interface : Option InterfaceName) : Bool :=
  interface.all fun name => decide (used = some name.value)

def establishedReply (p : Packet) : Bool :=
  p.isReply && decide (p.ct.bit = .established)

/-- The packet satisfies the selectors of a rule in a chain. A stateful reverse rule selects
replies, whose service port is the source port. -/
def selectorsMatch (p : Packet) (spec : RuleSpec) (direction : Direction)
    (statefulReverse : Bool) : Bool :=
  (!statefulReverse || establishedReply p) &&
    interfaceMatches (chainInterface p direction) spec.interface &&
    spec.peerNetwork.all (fun network => network.maskMatches (peerAddress p direction)) &&
    protocolMatches p spec.protocol &&
    spec.port.all fun range =>
      portInRange (if statefulReverse then p.sport? else p.dport?) range.start range.stop

def envelope (p : Packet) (spec : RuleSpec) : Bool := selectorsMatch p spec .outbound false

def originalEnvelope (p : Packet) (spec : RuleSpec) : Bool :=
  interfaceMatches p.oif spec.interface &&
    protocolMatches p spec.protocol &&
    spec.peerNetwork.all (fun network => p.ct.origDst?.any network.maskMatches) &&
    spec.port.all fun range => portInRange p.ct.origDport? range.start range.stop

def PortsAreTransport (spec : RuleSpec) : Prop :=
  spec.port ≠ none → spec.protocol = .tcp ∨ spec.protocol = .udp

theorem RuleSpec.portsAreTransport_of_validate {spec : RuleSpec}
    (h : spec.validate = .ok ()) : PortsAreTransport spec := by
  intro hport
  by_contra hproto
  have hcheck : spec.port ≠ none ∧ ¬(spec.protocol = .tcp ∨ spec.protocol = .udp) :=
    ⟨hport, hproto⟩
  unfold RuleSpec.validate at h
  split_ifs at h

section Nftables

variable (p : Packet) (d : Meta Counter)

theorem Nftables.allHold_protocolSelectors (protocol : TransportProtocol) :
    Nft.allHold p d (Nftables.protocolSelectors protocol) = protocolMatches p protocol := by
  cases protocol <;> simp [Nftables.protocolSelectors, protocolMatches, Nft.Match.holds]

theorem Nftables.allHold_interfaceSelectors (interface : Option InterfaceName)
    (direction : Direction) :
    Nft.allHold p d (Nftables.interfaceSelectors interface direction) =
      interfaceMatches (chainInterface p direction) interface := by
  cases interface with
  | none => cases direction <;> rfl
  | some name => cases direction <;> exact Bool.and_true _

theorem Nftables.allHold_networkSelectors (network : Option IpNet) (direction : Direction) :
    Nft.allHold p d (Nftables.networkSelectors network direction) =
      network.all fun net => net.maskMatches (peerAddress p direction) := by
  cases network <;> cases direction <;>
    simp [Nftables.networkSelectors, peerAddress, Nft.Match.holds]

theorem Nftables.allHold_protocol_and_port {spec : RuleSpec} (hport : PortsAreTransport spec)
    (reverse : Bool) :
    (Nft.allHold p d (Nftables.protocolSelectors spec.protocol) &&
        Nft.allHold p d (Nftables.portSelectors spec.protocol spec.port reverse)) =
      (protocolMatches p spec.protocol && spec.port.all fun range =>
        portInRange (if reverse then p.sport? else p.dport?) range.start range.stop) := by
  rw [Nftables.allHold_protocolSelectors]
  cases hspec : spec.port with
  | none => simp [Nftables.portSelectors]
  | some range =>
    -- the port match repeats the protocol, which the protocol match has already tested
    rcases hport (by simp [hspec]) with h | h <;> cases reverse <;>
      simp [h, Nftables.portSelectors, protocolMatches, Nft.Match.holds]

theorem Nftables.allHold_ruleSelectors {spec : RuleSpec} (hport : PortsAreTransport spec)
    (direction : Direction) (reverse : Bool) :
    Nft.allHold p d (Nftables.ruleSelectors spec direction reverse) =
      selectorsMatch p spec direction reverse := by
  have hstate : Nft.allHold p d
      (if reverse then [Nft.Match.ctDirection .reply, .ctState [.established]] else []) =
        (!reverse || establishedReply p) := by
    cases reverse <;> simp [establishedReply, Nft.Match.holds, Packet.isReply]
  simp only [Nftables.ruleSelectors, Nft.allHold_append, hstate,
    Nftables.allHold_interfaceSelectors, Nftables.allHold_networkSelectors, Bool.and_assoc,
    Nftables.allHold_protocol_and_port p d hport, selectorsMatch]

theorem Nftables.allHold_originalSelectors (spec : RuleSpec) :
    Nft.allHold p d (Nftables.originalSelectors spec) = originalEnvelope p spec := by
  simp only [Nftables.originalSelectors, Nft.allHold_append,
    Nftables.allHold_interfaceSelectors, Nftables.allHold_protocolSelectors, originalEnvelope,
    chainInterface]
  cases spec.peerNetwork <;> cases spec.port <;> simp [Nft.Match.holds]

end Nftables

section Iptables

variable (p : Packet) (d : Meta Counter)

theorem supportsFamily_of_agreement {p : Packet} {spec : RuleSpec}
    (hproto : protocolMatches p spec.protocol = true)
    (hnet : ∀ network, spec.peerNetwork = some network → network.family = p.family) :
    Iptables.supportsFamily spec p.family = true := by
  have hprotoOk : Iptables.protocolOfOtherFamily spec.protocol p.family = false := by
    cases hspec : spec.protocol <;>
      simp_all [protocolMatches, Iptables.protocolOfOtherFamily]
  have hnetOk : Iptables.networkOfOtherFamily spec.peerNetwork p.family = false := by
    cases hspec : spec.peerNetwork with
    | none => rfl
    | some network =>
      rw [← hnet network hspec]
      cases network <;> rfl
  simp [Iptables.supportsFamily, hprotoOk, hnetOk]

theorem supportsFamily_of_selectorsMatch {p : Packet} {spec : RuleSpec} {direction : Direction}
    {reverse : Bool} (h : selectorsMatch p spec direction reverse = true) :
    Iptables.supportsFamily spec p.family = true := by
  simp only [selectorsMatch, Bool.and_eq_true] at h
  obtain ⟨⟨⟨-, hnet⟩, hproto⟩, -⟩ := h
  have hpeer : (peerAddress p direction).family = p.family := by
    cases direction with
    | inbound => exact p.sameFamily
    | outbound => rfl
  refine supportsFamily_of_agreement hproto fun network hsome => ?_
  rw [hsome] at hnet
  exact (IpNet.family_eq_of_maskMatches hnet).trans hpeer

theorem supportsFamily_of_originalEnvelope {p : Packet} {spec : RuleSpec}
    (h : originalEnvelope p spec = true) : Iptables.supportsFamily spec p.family = true := by
  simp only [originalEnvelope, Bool.and_eq_true] at h
  obtain ⟨⟨⟨-, hproto⟩, hnet⟩, -⟩ := h
  refine supportsFamily_of_agreement hproto fun network hsome => ?_
  rw [hsome] at hnet
  cases horig : p.ct.origDst? with
  | none => simp [horig] at hnet
  | some addr =>
    rw [horig] at hnet
    exact (IpNet.family_eq_of_maskMatches hnet).trans (p.ctFamily addr horig)

theorem Iptables.allHold_protocolSelectors {spec : RuleSpec}
    (hfamily : Iptables.supportsFamily spec p.family = true) :
    Xtables.allHold p d (Iptables.protocolSelectors spec.protocol) =
      protocolMatches p spec.protocol := by
  have hprotoOk : Iptables.protocolOfOtherFamily spec.protocol p.family = false := by
    simp only [Iptables.supportsFamily, Bool.not_eq_true', Bool.or_eq_false_iff] at hfamily
    exact hfamily.1
  -- the program of a family has no ICMP rules of the other one
  cases hspec : spec.protocol <;> cases hp : p.family <;>
    simp_all [Iptables.protocolSelectors, protocolMatches, Xtables.Match.holds,
      Iptables.protocolOfOtherFamily]

theorem Iptables.allHold_interfaceSelectors (interface : Option InterfaceName)
    (direction : Direction) :
    Xtables.allHold p d (Iptables.interfaceSelectors interface direction) =
      interfaceMatches (chainInterface p direction) interface := by
  cases interface with
  | none => cases direction <;> rfl
  | some name => cases direction <;> exact Bool.and_true _

theorem Iptables.allHold_networkSelectors (network : Option IpNet) (direction : Direction) :
    Xtables.allHold p d (Iptables.networkSelectors network direction) =
      network.all fun net => net.maskMatches (peerAddress p direction) := by
  cases network <;> cases direction <;>
    simp [Iptables.networkSelectors, peerAddress, Xtables.Match.holds]

theorem Iptables.allHold_portSelectors (port : Option PortRange) (reverse : Bool) :
    Xtables.allHold p d (Iptables.portSelectors port reverse) =
      port.all fun range =>
        portInRange (if reverse then p.sport? else p.dport?) range.start range.stop := by
  cases port <;> cases reverse <;> simp [Iptables.portSelectors, Xtables.Match.holds]

theorem Iptables.holds_ct (states : List CtStateBit) (dir : CtDir)
    (hstates : CtStateBit.invalid ∉ states ∧ CtStateBit.untracked ∉ states) :
    (Iptables.ct (some states) (some dir)).holds p d =
      (decide (p.ct.bit ∈ states) && decide (p.ct.dir? = some dir)) := by
  cases hct : p.ct with
  -- a packet without an entry has a state that is not listed
  | untracked => simp [Iptables.ct, Xtables.Match.holds, Xtables.CtMatch.holds, hct,
      Conntrack.bit, hstates.2]
  | invalid => simp [Iptables.ct, Xtables.Match.holds, Xtables.CtMatch.holds, hct,
      Conntrack.bit, hstates.1]
  | tracked state actual dst port =>
    cases actual <;> cases dir <;>
      simp [Iptables.ct, Xtables.Match.holds, Xtables.CtMatch.holds, hct, Conntrack.dir?]

/-- A conntrack match on the direction alone. -/
theorem Iptables.holds_ctdir (dir : CtDir) :
    (Iptables.ct none (some dir)).holds p d = decide (p.ct.dir? = some dir) := by
  cases hct : p.ct <;>
    simp [Iptables.ct, Xtables.Match.holds, Xtables.CtMatch.holds, Conntrack.dir?, hct]

theorem Iptables.holds_ctstate (states : List CtStateBit) :
    (Iptables.ct (some states) none).holds p d = decide (p.ct.bit ∈ states) := by
  cases hct : p.ct <;>
    simp [Iptables.ct, Xtables.Match.holds, Xtables.CtMatch.holds, hct]

theorem Iptables.allHold_ruleMatch {spec : RuleSpec}
    (hfamily : Iptables.supportsFamily spec p.family = true) (direction : Direction)
    (reverse : Bool) :
    Xtables.allHold p d (Iptables.ruleMatch spec direction reverse) =
      selectorsMatch p spec direction reverse := by
  have hstate : Xtables.allHold p d
      (if reverse then [Iptables.ct (some [.established]) (some .reply)] else []) =
        (!reverse || establishedReply p) := by
    cases reverse with
    | false => rfl
    | true =>
      simp [Iptables.holds_ct, establishedReply, Packet.isReply, Bool.and_comm]
  simp only [Iptables.ruleMatch, Xtables.allHold_append, hstate,
    Iptables.allHold_interfaceSelectors, Iptables.allHold_networkSelectors,
    Iptables.allHold_portSelectors, Iptables.allHold_protocolSelectors p d hfamily,
    selectorsMatch]
  -- the two programs print the selectors in different orders
  ac_rfl

theorem Iptables.allHold_originalMatch {spec : RuleSpec}
    (hfamily : Iptables.supportsFamily spec p.family = true) :
    Xtables.allHold p d (Iptables.originalMatch spec) =
      (p.isOriginal && originalEnvelope p spec) := by
  simp only [Iptables.originalMatch, Xtables.allHold_append,
    Iptables.allHold_interfaceSelectors, Iptables.allHold_protocolSelectors p d hfamily,
    originalEnvelope, chainInterface]
  cases hct : p.ct with
  | untracked => simp [Xtables.Match.holds, Xtables.CtMatch.holds, Packet.isOriginal, hct,
      Conntrack.dir?]
  | invalid => simp [Xtables.Match.holds, Xtables.CtMatch.holds, Packet.isOriginal, hct,
      Conntrack.dir?]
  | tracked state dir dst port =>
    cases spec.peerNetwork <;> cases spec.port <;>
      simp [Xtables.Match.holds, Xtables.CtMatch.holds, Packet.isOriginal, hct,
        Conntrack.dir?, Conntrack.origDst?, Conntrack.origDport?] <;> ac_rfl

end Iptables

end OpenShield
