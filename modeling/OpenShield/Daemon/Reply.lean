import OpenShield.Daemon.Registry

/-!
# Replies that wait for their outgoing packet

A reply can arrive before the daemon has decided about the packet that it answers. The kernel then
queues it, and a worker holds it until the outgoing queue was read and answered far enough. The
worker never accepts a reply: it drops it, or sends it through the rules again, which count the
attempts in two bits of the packet mark.

The worker shares the registry with the outgoing queue and the engine with everything else, and
takes their locks one reply at a time. Between two steps of the worker anything may happen to them.
## References

- `nfqueue_reply.rs`: `parse_reply`, `release_pending`, `run_inner`.
-/

namespace OpenShield

open Netfilter (Packet QueueVerdict protoTcp protoUdp protoIcmp protoIcmpV6)

/-! ### Packets of the reply queue -/

/-- The side of a connection that a packet is read from. -/
inductive IpPacketDirection where
  | outbound
  | reply
  deriving DecidableEq

def finishTransportIn (direction : IpPacketDirection) (p : Packet) (echoIdentifier : BitVec 16) :
    Except String (TransportProtocol × Option (BitVec 16) × Option (BitVec 16)) :=
  if p.l4proto = protoTcp ∨ p.l4proto = protoUdp then
    match p.ports with
    | none =>
      .error (if p.l4proto = protoTcp then "TCP header is truncated"
        else "UDP header is truncated")
    | some (source, destination) => do
      ensure (source ≠ 0 ∧ destination ≠ 0) "transport port is zero"
      return (if p.l4proto = protoTcp then .tcp else .udp, some source, some destination)
  else if p.l4proto = protoIcmp ∧ p.src.family = .ipv4 then do
    ensure (p.icmpIs (if direction = .outbound then 8 else 0) (some 0) = true)
      "ICMP echo type/code does not match the queue direction"
    return (.icmp, some echoIdentifier, none)
  else if p.l4proto = protoIcmpV6 ∧ p.src.family = .ipv6 then do
    ensure (p.icmpIs (if direction = .outbound then 128 else 129) (some 0) = true)
      "ICMPv6 echo type/code does not match the queue direction"
    return (.icmpV6, some echoIdentifier, none)
  else .error "queued packet uses an unsupported transport protocol"

theorem finishTransportIn_outbound (p : Packet) (echoIdentifier : BitVec 16) :
    finishTransportIn .outbound p echoIdentifier = finishTransport p echoIdentifier := rfl

structure ReplyMessage where
  packetId : Option (BitVec 32)
  queue : BitVec 16
  packet : Packet
  echoIdentifier : BitVec 16
  mark : Option (BitVec 32)

/-- What the worker keeps of a reply. -/
structure ReplyPacket where
  key : FlowKey
  packetMark : BitVec 32

/-- Parse a packet of the reply queue. As for outgoing packets, the layout of bytes is not
modelled. -/
def parseReply (message : ReplyMessage) : Except String ReplyPacket := do
  ensure (message.queue = APPLICATION_REPLY_QUEUE_NUMBER)
    "reply message came from an unexpected queue"
  let packetMark := message.mark.getD 0
  ensure (packetMark ≠ applicationReplyRetryMark packetMark)
    "terminal reply retry budget reached its queue again"
  let (protocol, sourcePort, destinationPort) ←
    finishTransportIn .reply message.packet message.echoIdentifier
  ensure (protocol = .udp ∨ protocol = .icmp ∨ protocol = .icmpV6)
    "reply retry only supports UDP and ICMP echo replies"
  let (localPort, remotePort) ←
    if protocol = .udp then
      match destinationPort with
      | some port => .ok (port, sourcePort)
      | none => .error "UDP reply has no destination port"
    else
      match sourcePort with
      | some identifier => .ok (identifier, none)
      | none => .error "echo reply has no identifier"
  let key : FlowKey :=
    { localAddress := message.packet.dst
      localPort
      remote := message.packet.src
      remotePort
      protocol }
  return { key, packetMark }

/-! ### Replies that wait -/

def RETRY_BACKOFF : ℕ := 5000000

structure PendingReply where
  packet : ReplyPacket
  generation : BitVec 32
  started : Instant
  notBefore : Instant
  readThrough : ReadThroughBarrier

inductive Disposition where
  | wait
  | drop
  | «repeat»
  deriving DecidableEq

def Registry.readiness (pending : PendingReply) (now : Instant) (r : Registry) :
    Disposition × Registry :=
  let r := r.prune now
  if r.generation ≠ some pending.generation then (.wait, r)
  else
    match Table.find r.flows pending.packet.key with
    | none => (.wait, r)
    | some wave => (if wave.failed then .drop else .repeat, r)

def PendingReply.disposition (reply : PendingReply) (registry : Registry) (mode : Mode)
    (generation : BitVec 32) (stopping : Bool) (now : Instant) : Disposition × Registry :=
  if stopping = true ∨ mode ≠ .enforcing ∨ generation ≠ reply.generation ∨
      REPLY_LIFETIME ≤ now - reply.started then (.drop, registry)
  else if now < reply.notBefore then (.wait, registry)
  else if registry.progress.reachedForFlow reply.readThrough reply.packet.key = false then
    (.wait, registry)
  else registry.readiness reply now

abbrev PendingReplies := List (BitVec 32 × PendingReply)

namespace PendingReplies

def contains (id : BitVec 32) (pending : PendingReplies) : Bool := (Table.find pending id).isSome

def insert (id : BitVec 32) (packet : ReplyPacket) (generation : BitVec 32) (now : Instant)
    (readThrough : ReadThroughBarrier) (pending : PendingReplies) :
    Except String (Bool × PendingReplies) := do
  ensure (pending.contains id = false) "reply queue reused an outstanding packet id"
  if REPLY_CAPACITY ≤ pending.length then
    return (false, pending)
  -- a packet that was sent through the rules before waits for a moment
  let notBefore := if packet.packetMark >>> 30 = 0 then now else now + RETRY_BACKOFF
  return (true, pending ++ [(id, { packet, generation, started := now, notBefore, readThrough })])

end PendingReplies

/-! ### The worker -/

inductive NetlinkMessage where
  | malformed (error : String)
  /-- A message of another type. -/
  | other
  | packet (message : ReplyMessage)

inductive QueueReceive where
  | idle
  | interrupted
  | overflow
  | datagram (messages : List NetlinkMessage)

/-- What the worker sees, under both locks, when it decides about a reply. The ledger stands for
the outgoing packets that the registry was told about. -/
structure ReplyDecision where
  reply : PendingReply
  mode : Mode
  generation : BitVec 32
  stopping : Bool
  now : Instant
  registry : Registry
  ledger : Ledger

def ReplyDecision.disposition (d : ReplyDecision) : Disposition × Registry :=
  d.reply.disposition d.registry d.mode d.generation d.stopping d.now

inductive ReplyPhase where
  | loop
  /-- Between two replies of `release_pending`, which was entered at `since`. -/
  | releasing (since : Instant) (ids : List (BitVec 32))
  /-- Before the verdict of a reply that was decided. The worker has the engine's lock. -/
  | answering (id : BitVec 32) (decision : ReplyDecision) (since : Instant)
      (ids : List (BitVec 32))
  | receiving
  | reading (messages : List NetlinkMessage)
  /-- Before the verdict of a packet that is not kept. -/
  | denying (id : BitVec 32) (messages : List NetlinkMessage)
  | admitting (id : BitVec 32) (packet : ReplyPacket) (readThrough : ReadThroughBarrier)
      (messages : List NetlinkMessage)
  /-- Dropping what still waits at the end. -/
  | draining (ids : List (BitVec 32))
  | ended (result : Except String Unit)

inductive ReplyEvent where
  | received (id : BitVec 32)
  | admitted (id : BitVec 32) (reply : PendingReply) (mode : Mode) (generation : BitVec 32)
      (now : Instant)
  /-- A verdict is sent, while the engine is as given; if it was decided from what waits, then on
  the given grounds. -/
  | answered (id : BitVec 32) (verdict : QueueVerdict) (mark : Option (BitVec 32))
      (engine : Except String (Mode × BitVec 32)) (grounds : Option ReplyDecision)

/-- The worker and what it shares with others. -/
structure ReplyWorld where
  registry : Registry
  ledger : Ledger
  engine : Except String (Mode × BitVec 32)
  stopping : Bool
  now : Instant
  pending : PendingReplies
  phase : ReplyPhase
  trace : List ReplyEvent

namespace ReplyWorld

def fail (w : ReplyWorld) (error : String) : ReplyWorld := { w with phase := .ended (.error error) }

/-- Before a round: go on, or drop what waits. Hash maps are iterated in any order. -/
def enterRound (ids : List (BitVec 32)) (w : ReplyWorld) : ReplyWorld :=
  match w.phase with
  | .loop =>
    if ids.Perm (w.pending.map Prod.fst) then
      if w.stopping then { w with pending := [], phase := .draining ids }
      else { w with phase := .releasing w.now ids }
    else w
  | _ => w

def visit (w : ReplyWorld) : ReplyWorld :=
  match w.phase with
  | .releasing _ [] => { w with phase := .receiving }
  | .releasing since (id :: ids) =>
    match w.engine with
    | .error error => w.fail error
    | .ok (mode, generation) =>
      match Table.find w.pending id with
      | none => w.fail "pending reply disappeared"
      | some reply =>
        let decision : ReplyDecision :=
          { reply, mode, generation, stopping := w.stopping, now := max since w.now,
            registry := w.registry, ledger := w.ledger }
        let (disposition, registry) := decision.disposition
        match disposition with
        | .wait => { w with registry, phase := .releasing since ids }
        | .drop | .repeat => { w with registry, phase := .answering id decision since ids }
  | _ => w

def replyVerdict (decision : ReplyDecision) : QueueVerdict × Option (BitVec 32) :=
  match decision.disposition.1 with
  | .repeat => (.repeat, some (applicationReplyRetryMark decision.reply.packet.packetMark))
  | .wait | .drop => (.drop, none)

/-- Send the next verdict. When sending fails, the worker stops. -/
def send (result : Except String Unit) (w : ReplyWorld) : ReplyWorld :=
  match w.phase, result with
  | .answering .., .error error => w.fail error
  | .answering id decision since ids, .ok () =>
    let (verdict, mark) := replyVerdict decision
    { w with
      pending := Table.drop id w.pending
      phase := .releasing since ids
      trace := w.trace ++ [.answered id verdict mark w.engine (some decision)] }
  | .denying .., .error error => w.fail error
  | .denying id messages, .ok () =>
    { w with
      phase := .reading messages
      trace := w.trace ++ [.answered id .drop none w.engine none] }
  | .draining [], _ => { w with phase := .ended (.ok ()) }
  | .draining (_ :: _), .error error => w.fail error
  | .draining (id :: ids), .ok () =>
    { w with
      phase := .draining ids
      trace := w.trace ++ [.answered id .drop none w.engine none] }
  | _, _ => w

def receive (result : Except String QueueReceive) (w : ReplyWorld) : ReplyWorld :=
  match w.phase, result with
  | .receiving, .error error => w.fail error
  | .receiving, .ok (.datagram messages) => { w with phase := .reading messages }
  | .receiving, .ok _ => { w with phase := .loop }
  | _, _ => w

/-- Read the next message, with the number of the outgoing queue as the kernel reports it. -/
def read (sequence : Except String (BitVec 32)) (w : ReplyWorld) : ReplyWorld :=
  match w.phase with
  | .reading [] => { w with phase := .loop }
  | .reading (.malformed error :: _) => w.fail error
  | .reading (.other :: messages) => { w with phase := .reading messages }
  | .reading (.packet message :: messages) =>
    match message.packetId with
    | none => w.fail "reply has no packet identifier"
    | some id =>
      let w : ReplyWorld := { w with trace := w.trace ++ [.received id] }
      if w.pending.contains id then w.fail "reply queue reused an outstanding packet id"
      else
        match parseReply message, sequence with
        | .error _, _ => { w with phase := .denying id messages }
        | .ok _, .error _ => { w with phase := .denying id messages }
        | .ok packet, .ok sequence =>
          { w with
            phase := .admitting id packet ⟨w.registry.progress.identity, sequence⟩ messages }
  | _ => w

def admitBatch (w : ReplyWorld) : ReplyWorld :=
  match w.phase with
  | .admitting id packet readThrough messages =>
    match w.engine with
    | .error error => w.fail error
    | .ok (mode, generation) =>
      if mode ≠ .enforcing ∨ w.stopping = true then { w with phase := .denying id messages }
      else
        match w.pending.insert id packet generation w.now readThrough with
        | .error error => w.fail error
        | .ok (false, _) => { w with phase := .denying id messages }
        | .ok (true, pending) =>
          { w with
            pending
            phase := .reading messages
            trace := w.trace ++ (Table.find pending id).toList.map fun reply =>
              .admitted id reply mode generation w.now }
  | _ => w

/-! ### The surroundings -/

def progress (call : ProgressCall) (w : ReplyWorld) : ReplyWorld :=
  let r := ProgressRun.step ⟨w.registry.progress, w.ledger⟩ call
  { w with registry := { w.registry with progress := r.progress }, ledger := r.ledger }

def drawTicket (key : FlowKey) (generation : BitVec 32) (w : ReplyWorld) : ReplyWorld :=
  { w with registry := ((Registry.begin key generation w.now).exec w.registry).2 }

def returnTicket (ticket : OutgoingTicket) (succeeded : Bool) (w : ReplyWorld) : ReplyWorld :=
  { w with registry := (w.registry.complete ticket succeeded w.now).2 }

def commit (engine : Except String (Mode × BitVec 32)) (w : ReplyWorld) : ReplyWorld :=
  match w.phase with
  | .answering .. => w
  | _ => { w with engine }

end ReplyWorld

/-- A step of the worker or of its surroundings. -/
inductive ReplyStep where
  | enterRound (ids : List (BitVec 32))
  | visit
  | send (result : Except String Unit)
  | receive (result : Except String QueueReceive)
  | read (sequence : Except String (BitVec 32))
  | admitBatch
  | progress (call : ProgressCall)
  | drawTicket (key : FlowKey) (generation : BitVec 32)
  | returnTicket (ticket : OutgoingTicket) (succeeded : Bool)
  | commit (engine : Except String (Mode × BitVec 32))
  | stop
  | tick (elapsed : ℕ)

namespace ReplyWorld

/-- Take a step. Steps of the worker are for one of its phases and change nothing in others. -/
def step (w : ReplyWorld) : ReplyStep → ReplyWorld
  | .enterRound ids => w.enterRound ids
  | .visit => w.visit
  | .send result => w.send result
  | .receive result => w.receive result
  | .read sequence => w.read sequence
  | .admitBatch => w.admitBatch
  | .progress call => w.progress call
  | .drawTicket key generation => w.drawTicket key generation
  | .returnTicket ticket succeeded => w.returnTicket ticket succeeded
  | .commit engine => w.commit engine
  | .stop => { w with stopping := true }
  | .tick elapsed => { w with now := w.now + elapsed }

def run (w : ReplyWorld) (steps : List ReplyStep) : ReplyWorld := steps.foldl step w

def start (registry : Registry) (engine : Except String (Mode × BitVec 32)) (stopping : Bool)
    (now : Instant) : ReplyWorld :=
  { registry, ledger := [], engine, stopping, now, pending := [], phase := .loop, trace := [] }

end ReplyWorld

end OpenShield
