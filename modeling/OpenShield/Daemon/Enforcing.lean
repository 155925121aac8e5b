import OpenShield.Daemon.Registry
import OpenShield.Data.FairQueue

/-!
# The reader of the application queue in Enforcing mode

One thread reads packets, lets them wait in a fair queue, takes a batch, answers what needs no
process identity at once and hands the rest to a worker as a single job; when the worker is done
the thread answers the job. Every packet it reads is admitted to the progress tracker before
anything else happens to it, and completed there after its verdict has been sent.

The time, the engine's answers and the worker's decisions are inputs. The reply worker shares the
registry; all it does to the waves is to forget settled ones. Sending a verdict succeeds, and so do
the engine's calls. Counters, log messages and learning observations are left out.
-/

namespace OpenShield

open Netfilter (Packet QueueVerdict)

def MAX_PACKET_BATCH_SIZE : ℕ := 32

def MAX_PENDING_PACKETS : ℕ := 128

def PENDING_CAPACITY : ℕ := 128

def FLOW_QUANTUM : ℕ := 4

def DECISION_BUDGET : ℕ := 2000000000

/-! ### The scheduler -/

structure PendingPacket where
  work : QueuedPacketWork
  received : Instant

inductive UserKey where
  | socketUid (uid : BitVec 32)
  | unparsed
  deriving DecidableEq

/-- The flow of a packet for the scheduler, which is finer than the flow of a reply. -/
inductive ScheduledFlow where
  | network (protocol : TransportProtocol) (source destination : IpAddr)
      (sourcePort destinationPort : Option (BitVec 16))
  | unparsed (packetId : BitVec 32)
  deriving DecidableEq

def ScheduledFlow.forPacket (work : QueuedPacketWork) : UserKey × ScheduledFlow :=
  match work.packet with
  | .error _ => (.unparsed, .unparsed work.packetId)
  | .ok packet =>
    let connection := packet.connection
    (.socketUid connection.socketUid,
      .network connection.protocol connection.sourceAddress connection.destinationAddress
        connection.sourcePort connection.destinationPort)

abbrev PacketQueue := FairQueue UserKey ScheduledFlow PendingPacket

def PacketQueue.push (packet : PendingPacket) (q : PacketQueue) : Except String PacketQueue :=
  let (user, flow) := ScheduledFlow.forPacket packet.work
  FairQueue.push MAX_PENDING_PACKETS
    "pending application packet scheduler exceeds its fixed bound" user flow packet q

/-! ### The reader -/

/-- What the worker is asked to decide. -/
structure Job where
  batch : List QueuedPacketWork
  tickets : List (Option OutgoingTicket)
  deadline : Instant

inductive PacketEvent where
  | received
  | answered
  | completed
  deriving DecidableEq

structure Reader where
  registry : Registry
  pending : PacketQueue
  job : Option Job
  verdicts : List (BitVec 32 × QueueVerdict × Option (BitVec 32))
  trace : List (BitVec 32 × PacketEvent)

abbrev ReaderCommand := Command Reader String

structure QueueMessage where
  packetId : BitVec 32
  packet : Packet
  attributes : QueueAttributes
  mark : BitVec 32

def QueueMessage.work (message : QueueMessage) : QueuedPacketWork :=
  ⟨message.packetId, parseQueuedPacket message.packet message.attributes message.mark⟩

/-- What surrounds a verdict: the time before it, the engine's mode and generation under its lock,
whether the daemon is stopping, and the time after it. -/
structure VerdictInput where
  now : Instant
  current : Mode × BitVec 32
  stopping : Bool
  after : Instant

namespace Reader

def inFlight (r : Reader) : ℕ := (r.job.map (·.batch.length)).getD 0

def onProgress (command : Command QueueProgress String Unit) : ReaderCommand Unit := do
  let r ← get
  let (result, progress) := command.exec r.registry.progress
  set { r with registry := { r.registry with progress } }
  Command.ofExcept id result

def onRegistry {α : Type} (command : Command Registry String α) : ReaderCommand α := do
  let r ← get
  let (result, registry) := command.exec r.registry
  set { r with registry }
  Command.ofExcept id result

def record (packetId : BitVec 32) (event : PacketEvent) : ReaderCommand Unit := do
  let r ← get
  set { r with trace := r.trace ++ [(packetId, event)] }

def appendPacketDatagram (datagram : List QueueMessage) : Except String (List QueuedPacketWork) := do
  ensure (datagram.length ≤ MAX_PACKET_BATCH_SIZE) "queued packet batch exceeds its fixed bound"
  return datagram.map QueueMessage.work

def push (packet : PendingPacket) : ReaderCommand Unit := do
  let r ← get
  let pending ← Command.ofExcept id (PacketQueue.push packet r.pending)
  set { r with pending }

def receive (datagram : List QueueMessage) (now : Instant) : ReaderCommand Unit := do
  let batch ← Command.ofExcept id (appendPacketDatagram datagram)
  batch.forM fun work => record work.packetId .received
  onProgress (QueueProgress.admitClassified
    (batch.map fun work => (work.packetId, classifyOutgoing work)))
  batch.forM fun work => push ⟨work, now⟩

def ticketKey (mode : Mode) (work : QueuedPacketWork) : Except String (Option FlowKey) :=
  match work.packet with
  | .error _ => .ok none
  | .ok packet =>
    let connection := packet.connection
    if mode ≠ .enforcing then .ok none
    else match connection.protocol with
      | .tcp | .any => .ok none
      | .udp | .icmp | .icmpV6 =>
        match connection.sourcePort with
        | none => .error "outgoing reply key has no local port/identifier"
        | some localPort => .ok (some
          { localAddress := connection.sourceAddress
            localPort
            remote := connection.destinationAddress
            remotePort := connection.destinationPort
            protocol := connection.protocol })

def drawTicket (key : Option FlowKey) (generation : BitVec 32) (now : Instant) :
    ReaderCommand (Option OutgoingTicket) :=
  match key with
  | none => return none
  | some key => do
    let ticket ← onRegistry (Registry.begin key generation now)
    return some ticket

def registerOutgoingBatch (identity : Mode × BitVec 32) :
    List QueuedPacketWork → (ℕ → Instant) → ReaderCommand (List (Option OutgoingTicket))
  | [], _ => return []
  | work :: rest, clock => do
    let key ← Command.ofExcept id (ticketKey identity.1 work)
    let ticket ← drawTicket key identity.2 (clock 0)
    let tickets ← registerOutgoingBatch identity rest fun n => clock (n + 1)
    return ticket :: tickets

def immediateDecision (policy : ApplicationDecisionPolicy) (work : QueuedPacketWork) :
    Option (Except DecisionError PacketAuthorization) :=
  match work.packet with
  | .error message => some (.error (.malformed message))
  | .ok packet =>
    match packetAttributionPlan policy packet with
    | .ok (.resolve _) => none
    | .ok .acceptNetworkFallback => some (.ok (.on policy packet .accept none false))
    | .ok .acceptAndObserveLearning => some (.ok (.on policy packet .accept none true))
    | .error error => some (.error error)

def admitToJob (policy : ApplicationDecisionPolicy) (work : QueuedPacketWork)
    (deadline now : Instant) : Option (Except DecisionError PacketAuthorization) :=
  if deadline ≤ now then some (.error (.engine "bounded application queue wait timed out"))
  else immediateDecision policy work

def completeOutgoing (ticket : Option OutgoingTicket) (succeeded : Bool) (now : Instant) :
    ReaderCommand Unit :=
  match ticket with
  | none => return ()
  | some ticket => do
    let r ← get
    set { r with registry := (r.registry.complete ticket succeeded now).2 }

def verdict (strategy : QueueVerdictStrategy) (work : QueuedPacketWork)
    (decision : Except DecisionError PacketAuthorization) (ticket : Option OutgoingTicket)
    (input : VerdictInput) : ReaderCommand Unit := do
  let answer := returnPacketVerdict decision (.ok input.current) input.stopping strategy
  let r ← get
  set { r with verdicts := r.verdicts ++ [(work.packetId, answer.verdict, answer.mark)] }
  record work.packetId .answered
  completeOutgoing ticket (answer.accepted && answer.error.isNone) input.after
  onProgress (QueueProgress.complete work.packetId)
  record work.packetId .completed

/-- A packet of a batch on its way into the job. -/
structure Selected where
  work : QueuedPacketWork
  ticket : Option OutgoingTicket
  deadline : Instant
  input : VerdictInput

def fillJob (strategy : QueueVerdictStrategy) (policy : ApplicationDecisionPolicy) :
    List Selected → Job → ReaderCommand Job
  | [], job => return job
  | packet :: rest, job =>
    match admitToJob policy packet.work packet.deadline packet.input.now with
    | some decision => do
      verdict strategy packet.work decision packet.ticket packet.input
      fillJob strategy policy rest job
    | none =>
      fillJob strategy policy rest
        { batch := job.batch ++ [packet.work]
          tickets := job.tickets ++ [packet.ticket]
          deadline := min job.deadline packet.deadline }

structure DispatchInput where
  strategy : QueueVerdictStrategy
  identity : Mode × BitVec 32
  policy : ApplicationDecisionPolicy
  clock : ℕ → Instant
  now : Instant
  verdicts : ℕ → VerdictInput

def select : List PendingPacket → List (Option OutgoingTicket) → (ℕ → VerdictInput) →
    List Selected
  | packet :: packets, ticket :: tickets, inputs =>
    ⟨packet.work, ticket, packet.received + DECISION_BUDGET, inputs 0⟩ ::
      select packets tickets fun n => inputs (n + 1)
  | _, _, _ => []

def dispatch (input : DispatchInput) : ReaderCommand Unit := do
  let r ← get
  let (packets, pending) := FairQueue.takeBatch MAX_PACKET_BATCH_SIZE FLOW_QUANTUM r.pending
  set { r with pending }
  let tickets ← registerOutgoingBatch input.identity (packets.map (·.work)) input.clock
  let job ← fillJob input.strategy input.policy (select packets tickets input.verdicts)
    ⟨[], [], input.now + DECISION_BUDGET⟩
  let r ← get
  set { r with job := if job.batch.isEmpty then none else some job }

def answerJob (strategy : QueueVerdictStrategy) (deadline : Instant) :
    List ((QueuedPacketWork × Except DecisionError PacketAuthorization) ×
      Option OutgoingTicket) → (ℕ → VerdictInput) → ReaderCommand Unit
  | [], _ => return ()
  | ((work, decision), ticket) :: rest, inputs => do
    let decision := if deadline ≤ (inputs 0).now then
      .error (.engine "bounded application decision deadline expired before verdict") else decision
    verdict strategy work decision ticket (inputs 0)
    answerJob strategy deadline rest fun n => inputs (n + 1)

def finish (strategy : QueueVerdictStrategy)
    (decisions : List (Except DecisionError PacketAuthorization)) (inputs : ℕ → VerdictInput) :
    ReaderCommand Unit := do
  let r ← get
  match r.job with
  | none => return ()
  | some job =>
    Command.ofExcept id (ensure (job.batch.length = r.inFlight ∧ decisions.length = r.inFlight ∧
        job.tickets.length = r.inFlight)
      "Enforcing completion does not match its in-flight batch")
    set { r with job := none }
    answerJob strategy job.deadline ((job.batch.zip decisions).zip job.tickets) inputs

def canReceive (pending inFlight progressFree : ℕ) : Bool :=
  decide (pending + inFlight + MAX_PACKET_BATCH_SIZE ≤ PENDING_CAPACITY) &&
    decide (MAX_PACKET_BATCH_SIZE ≤ progressFree)

inductive LoopAction where
  | finish
  | dispatch
  | receive
  | await
  /-- Fail with "bounded scheduler cannot make progress". -/
  | stuck
  deriving DecidableEq

def loopAction (r : Reader) (done : Bool) : LoopAction :=
  if 0 < r.inFlight ∧ done = true then .finish
  else if r.inFlight = 0 ∧ 0 < r.pending.pending then .dispatch
  else if canReceive r.pending.pending r.inFlight r.registry.progress.remainingCapacity then
    .receive
  else if 0 < r.inFlight then .await
  else .stuck

end Reader

end OpenShield
