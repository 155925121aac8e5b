import OpenShield.Data.FirstMatch
import OpenShield.Netfilter.Hook

/-!
# nftables rules

The fragment of the nftables rule language that a host firewall needs: header, conntrack and
mark matches, mark rewriting, counters, verdicts and queues. The statements of a rule are
evaluated from left to right, and a match that fails abandons the rule with what it has done
so far.

A match on conntrack data fails for packets without a conntrack entry, except for the state
match, which sees such packets as invalid or untracked. Marks of the conntrack entry of such
packets cannot be written either.
-/

namespace Netfilter.Nft

inductive Match
  /-- `ct state a,b`. -/
  | ctState (states : List CtStateBit)
  /-- `ct direction d`. -/
  | ctDirection (dir : CtDir)
  /-- `ct mark & mask == value`. -/
  | ctMark (mask value : BitVec 32)
  /-- `ct original ip daddr net`. -/
  | ctOriginalDaddr (net : IpNet)
  /-- `ct original proto-dst first-last`. -/
  | ctOriginalProtoDst (first last : BitVec 16)
  /-- `meta mark & mask == value`. -/
  | metaMark (mask value : BitVec 32)
  /-- `meta mark & mask != value`. -/
  | metaMarkNot (mask value : BitVec 32)
  /-- `meta nfproto f`. -/
  | nfproto (family : Family)
  /-- `meta l4proto p`. -/
  | l4proto (proto : L4Proto)
  /-- `meta l4proto != p`. -/
  | l4protoNot (proto : L4Proto)
  /-- `iifname "name"`. -/
  | iifname (name : String)
  /-- `oifname "name"`. -/
  | oifname (name : String)
  /-- `ip saddr net` or `ip6 saddr net`. -/
  | saddr (net : IpNet)
  /-- `ip saddr != net` or `ip6 saddr != net`. -/
  | saddrNot (net : IpNet)
  /-- `ip daddr net` or `ip6 daddr net`. -/
  | daddr (net : IpNet)
  /-- `ip6 hoplimit n`. -/
  | hoplimit (hops : BitVec 8)
  /-- `tcp sport first-last` or `udp sport first-last`. -/
  | sport (proto : L4Proto) (first last : BitVec 16)
  /-- `tcp dport first-last` or `udp dport first-last`. -/
  | dport (proto : L4Proto) (first last : BitVec 16)
  /-- `tcp flags & mask == value`. -/
  | tcpFlags (mask value : BitVec 8)
  /-- `icmp type t` or `icmpv6 type t`. -/
  | icmpType (proto : L4Proto) (type : BitVec 8)
  /-- `icmp code c` or `icmpv6 code c`. -/
  | icmpCode (proto : L4Proto) (code : BitVec 8)
  /-- `limit rate perSecond/second burst n packets`. -/
  | limit (perSecond burst : ℕ)
  deriving DecidableEq

inductive Statement (κ : Type)
  | test (m : Match)
  /-- `counter name c`. -/
  | counter (counter : κ)
  /-- `counter`, without a name. -/
  | anonymousCounter
  /-- `meta mark set (meta mark & mask) | bits`. -/
  | setMark (mask bits : BitVec 32)
  /-- `ct mark set (ct mark & mask) | bits`. -/
  | setCtMark (mask bits : BitVec 32)
  /-- A terminal statement. -/
  | verdict (v : Verdict)
  deriving DecidableEq

abbrev Rule (κ : Type) := List (Statement κ)

variable {κ : Type}

def Match.holds (p : Packet) (d : Meta κ) : Match → Bool
  | .ctState states => decide (p.ct.bit ∈ states)
  | .ctDirection dir => decide (p.ct.dir? = some dir)
  | .ctMark mask value => p.ct.isTracked && maskedEq d.connmark mask value
  | .ctOriginalDaddr net => p.ct.origDst?.any net.maskMatches
  | .ctOriginalProtoDst first last => portInRange p.ct.origDport? first last
  | .metaMark mask value => maskedEq d.mark mask value
  | .metaMarkNot mask value => !maskedEq d.mark mask value
  | .nfproto family => decide (p.family = family)
  | .l4proto proto => decide (p.l4proto = proto)
  | .l4protoNot proto => decide (p.l4proto ≠ proto)
  | .iifname name => decide (p.iif = some name)
  | .oifname name => decide (p.oif = some name)
  | .saddr net => net.maskMatches p.src
  -- the comparison still requires a header of the family of `net`
  | .saddrNot net => decide (p.src.family = net.family) && !net.maskMatches p.src
  | .daddr net => net.maskMatches p.dst
  | .hoplimit hops => decide (p.family = .ipv6) && decide (p.hopLimit = hops)
  | .sport proto first last => decide (p.l4proto = proto) && portInRange p.sport? first last
  | .dport proto first last => decide (p.l4proto = proto) && portInRange p.dport? first last
  | .tcpFlags mask value =>
    decide (p.l4proto = protoTcp) && p.tcpFlags.any fun flags => decide (flags &&& mask = value)
  | .icmpType proto type =>
    decide (p.l4proto = proto) && p.icmp.any fun header => decide (header.1 = type)
  | .icmpCode proto code =>
    decide (p.l4proto = proto) && p.icmp.any fun header => decide (header.2 = code)
  | .limit _ _ => p.underLimit

def Rule.exec (p : Packet) : Rule κ → Step (Meta κ) Verdict
  | [] => Step.skip
  | .test m :: rest => fun d => if m.holds p d then Rule.exec p rest d else (d, none)
  | .counter c :: rest => fun d => Rule.exec p rest (d.count c)
  | .anonymousCounter :: rest => Rule.exec p rest
  | .setMark mask bits :: rest => fun d => Rule.exec p rest (d.setMark (d.mark &&& mask ||| bits))
  | .setCtMark mask bits :: rest => fun d =>
    Rule.exec p rest (d.setConnmark p (d.connmark &&& mask ||| bits))
  | .verdict v :: _ => fun d => (d, some v)

def rule (matches' : List Match) (actions : List (Statement κ)) : Rule κ :=
  matches'.map .test ++ actions

def allHold (p : Packet) (d : Meta κ) (matches' : List Match) : Bool :=
  matches'.all fun m => m.holds p d

variable (p : Packet) (d : Meta κ)

theorem Rule.exec_rule (matches' : List Match) (actions : List (Statement κ)) (d : Meta κ) :
    Rule.exec p (rule matches' actions) d =
      if allHold p d matches' then Rule.exec p actions d else (d, none) := by
  induction matches' with
  | nil => simp [rule, allHold]
  | cons m rest ih =>
    simp only [rule, List.map_cons, List.cons_append, Rule.exec, allHold, List.all_cons] at ih ⊢
    by_cases hm : m.holds p d = true
    · simpa [hm] using ih
    · simp [hm]

theorem Rule.exec_rule_of_decided {p : Packet} {actions : List (Statement κ)} {d : Meta κ}
    {x : Meta κ × Verdict} (matches' : List Match) (h : Rule.exec p actions d = decided x) :
    Rule.exec p (rule matches' actions) d =
      if allHold p d matches' then decided x else (d, none) := by
  rw [exec_rule, h]

@[simp]
theorem allHold_append (a b : List Match) :
    allHold p d (a ++ b) = (allHold p d a && allHold p d b) := by
  simp [allHold]

@[simp]
theorem allHold_cons (m : Match) (rest : List Match) :
    allHold p d (m :: rest) = (m.holds p d && allHold p d rest) := rfl

@[simp]
theorem allHold_nil : allHold p d [] = true := rfl

theorem allHold_icmp (proto : L4Proto) (type : BitVec 8) (code : Option (BitVec 8)) :
    allHold p d ([Match.l4proto proto, .icmpType proto type] ++
        (code.map (Match.icmpCode proto)).toList) =
      (decide (p.l4proto = proto) && p.icmpIs type code) := by
  by_cases hproto : p.l4proto = proto <;> cases hicmp : p.icmp <;> cases code <;>
    simp [Match.holds, Packet.icmpIs, hproto, hicmp]

theorem allHold_icmpHeader (proto : L4Proto) (type code : BitVec 8) :
    allHold p d [Match.icmpType proto type, .icmpCode proto code] =
      (decide (p.l4proto = proto) && p.icmpIs type (some code)) := by
  by_cases hproto : p.l4proto = proto <;> cases hicmp : p.icmp <;>
    simp [Match.holds, Packet.icmpIs, hproto, hicmp]

theorem any_allHold_between (before after : List Match) (alternatives : List (List Match)) :
    (alternatives.any fun alternative => allHold p d (before ++ alternative ++ after)) =
      (allHold p d before && alternatives.any (allHold p d) && allHold p d after) :=
  List.any_all_between _ before after alternatives

/-- A base chain: rules and the policy that applies when none of them reaches a verdict. -/
structure BaseChain (κ : Type) where
  rules : List (Rule κ)
  policy : Verdict
  deriving DecidableEq

def BaseChain.entry (chain : BaseChain κ) (p : Packet) : Entry κ := fun d =>
  match run (Rule.exec p) chain.rules d with
  | (d', some v) => (d', v)
  | (d', none) => (d', chain.policy)

theorem BaseChain.entry_of_some {chain : BaseChain κ} {p : Packet} {d d' : Meta κ} {v : Verdict}
    (h : run (Rule.exec p) chain.rules d = (d', some v)) : chain.entry p d = (d', v) := by
  simp [BaseChain.entry, h]

theorem BaseChain.entry_of_none {chain : BaseChain κ} {p : Packet} {d d' : Meta κ}
    (h : run (Rule.exec p) chain.rules d = (d', none)) :
    chain.entry p d = (d', chain.policy) := by
  simp [BaseChain.entry, h]

end Netfilter.Nft
