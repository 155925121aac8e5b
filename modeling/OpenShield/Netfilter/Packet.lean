import OpenShield.Data.Ip

/-!
# Packets at a netfilter hook

What a packet filter can see of a packet: the headers and the conntrack classification,
which no rule changes, and the mutable data that rules rewrite on the way (the packet mark,
the mark of the conntrack entry, and the counters that were incremented).

An untracked or invalid packet has no conntrack entry. It therefore has no direction, no
original tuple and no connmark, and a write to its connmark is lost.
-/

namespace Netfilter

/-- Direction of a packet relative to the first packet of its connection. -/
inductive CtDir
  | original
  | reply
  deriving DecidableEq, Repr

inductive CtState
  | new
  | established
  | related
  deriving DecidableEq, Repr

/-- The values a rule can list in a state match. -/
inductive CtStateBit
  | invalid
  | established
  | related
  | new
  | untracked
  deriving DecidableEq, Repr

def CtState.bit : CtState → CtStateBit
  | .new => .new
  | .established => .established
  | .related => .related

/-- Classification of a packet by connection tracking. A tracked packet belongs to an entry
that remembers the destination of the first packet before address translation. -/
inductive Conntrack
  | untracked
  | invalid
  | tracked (state : CtState) (dir : CtDir) (origDst : IpAddr) (origDport : BitVec 16)
  deriving DecidableEq, Repr

namespace Conntrack

def bit : Conntrack → CtStateBit
  | .untracked => .untracked
  | .invalid => .invalid
  | .tracked state _ _ _ => state.bit

def dir? : Conntrack → Option CtDir
  | .tracked _ dir _ _ => some dir
  | _ => none

def isTracked : Conntrack → Bool
  | .tracked .. => true
  | _ => false

def origDst? : Conntrack → Option IpAddr
  | .tracked _ _ dst _ => some dst
  | _ => none

def origDport? : Conntrack → Option (BitVec 16)
  | .tracked _ _ _ port => some port
  | _ => none

end Conntrack

abbrev L4Proto := BitVec 8

def protoTcp : L4Proto := 6
def protoUdp : L4Proto := 17
def protoIcmp : L4Proto := 1
def protoIcmpV6 : L4Proto := 58

@[simp] theorem protoTcp_ne_protoUdp : protoTcp ≠ protoUdp := by decide
@[simp] theorem protoTcp_ne_protoIcmp : protoTcp ≠ protoIcmp := by decide
@[simp] theorem protoTcp_ne_protoIcmpV6 : protoTcp ≠ protoIcmpV6 := by decide
@[simp] theorem protoUdp_ne_protoIcmp : protoUdp ≠ protoIcmp := by decide
@[simp] theorem protoUdp_ne_protoIcmpV6 : protoUdp ≠ protoIcmpV6 := by decide

def tcpFin : BitVec 8 := 0x01
def tcpSyn : BitVec 8 := 0x02
def tcpRst : BitVec 8 := 0x04
def tcpAck : BitVec 8 := 0x10

/-- The part of a packet that rules match on and never change. Header fields that the packet
does not have are `none`, and no match on them succeeds. -/
structure Packet where
  /-- Input interface, at hooks that have one. -/
  iif : Option String
  /-- Output interface, at hooks that have one. -/
  oif : Option String
  src : IpAddr
  dst : IpAddr
  l4proto : L4Proto
  /-- Source and destination port of a TCP or UDP header. -/
  ports : Option (BitVec 16 × BitVec 16)
  tcpFlags : Option (BitVec 8)
  icmp : Option (BitVec 8 × BitVec 8)
  hopLimit : BitVec 8
  /-- Classification by connection tracking. -/
  ct : Conntrack
  underLimit : Bool
  sameFamily : src.family = dst.family
  /-- Connection tracking never mixes address families. -/
  ctFamily : ∀ a, ct.origDst? = some a → a.family = dst.family

namespace Packet

def family (p : Packet) : Family := p.dst.family

def sport? (p : Packet) : Option (BitVec 16) := p.ports.map Prod.fst

def dport? (p : Packet) : Option (BitVec 16) := p.ports.map Prod.snd

def icmpIs (p : Packet) (type : BitVec 8) (code : Option (BitVec 8)) : Bool :=
  p.icmp.any fun header => decide (header.1 = type) && code.all fun c => decide (header.2 = c)

def isReply (p : Packet) : Bool := decide (p.ct.dir? = some .reply)

def isOriginal (p : Packet) : Bool := decide (p.ct.dir? = some .original)

end Packet

/-- The part of a packet that rules rewrite. The connmark belongs to the conntrack entry and
has no meaning for packets without one. -/
structure Meta (κ : Type) where
  mark : BitVec 32
  /-- The mark of the conntrack entry. -/
  connmark : BitVec 32
  /-- Counters incremented so far, latest first. -/
  log : List κ
  deriving DecidableEq

namespace Meta

variable {κ : Type}

def setMark (d : Meta κ) (mark : BitVec 32) : Meta κ := { d with mark }

/-- Replace the connmark of a packet with a conntrack entry; without one nothing happens. -/
def setConnmark (d : Meta κ) (p : Packet) (connmark : BitVec 32) : Meta κ :=
  if p.ct.isTracked then { d with connmark } else d

def count (d : Meta κ) (counter : κ) : Meta κ := { d with log := counter :: d.log }

variable (d : Meta κ)

@[simp] theorem setMark_mark (m : BitVec 32) : (d.setMark m).mark = m := rfl
@[simp] theorem setMark_connmark (m : BitVec 32) : (d.setMark m).connmark = d.connmark := rfl
@[simp] theorem count_mark (c : κ) : (d.count c).mark = d.mark := rfl
@[simp] theorem count_connmark (c : κ) : (d.count c).connmark = d.connmark := rfl

@[simp] theorem setConnmark_mark (p : Packet) (m : BitVec 32) :
    (d.setConnmark p m).mark = d.mark := by
  unfold setConnmark
  split <;> rfl

theorem setConnmark_connmark (p : Packet) (m : BitVec 32) :
    (d.setConnmark p m).connmark = if p.ct.isTracked then m else d.connmark := by
  unfold setConnmark
  split <;> rfl

end Meta

/-- Whether a port lies in an inclusive range; an absent port does not. -/
def portInRange (port : Option (BitVec 16)) (first last : BitVec 16) : Bool :=
  port.any fun x => decide (first ≤ x) && decide (x ≤ last)

def maskedEq (value mask expected : BitVec 32) : Bool := decide (value &&& mask = expected)

end Netfilter
