import OpenShield.Daemon.Policy
import OpenShield.Netfilter.Hook

/-!
# Verdicts for queued packets

How the daemon decides a packet of the application queue. A decision is taken on a policy that
was read earlier, outside the engine lock, because attribution is slow. The verdict is sent
under the lock, and only if mode and flow generation are still those of the decision.

Attribution and the bookkeeping of learning observations are summarised by their results:
`resolve` answers with an identity or a failure, and `observe` with the error that learning
reports about an admitted packet, or a failure of the engine.
-/

namespace OpenShield

open Netfilter (Answer Packet QueueVerdict protoTcp protoUdp protoIcmp protoIcmpV6)

/-- How a backend expects verdicts for authorised packets. -/
inductive QueueVerdictStrategy
  /-- Continue behind the queueing chain, which left its pending mark on the packet. -/
  | accept
  /-- Run the queueing chain again with a mark that hands the packet off. -/
  | repeatWithHandoffMark
  deriving DecidableEq, Repr

/-- What the queue reports about a packet beyond its headers. -/
structure QueueAttributes where
  /-- The user of the sending socket. -/
  uid : Option (BitVec 32)
  echoIdentifier : BitVec 16

def finishTransport (p : Packet) (echoIdentifier : BitVec 16) :
    Except String (TransportProtocol × Option (BitVec 16) × Option (BitVec 16)) :=
  if p.l4proto = protoTcp ∨ p.l4proto = protoUdp then
    match p.ports with
    | none =>
      .error (if p.l4proto = protoTcp then "TCP header is truncated"
        else "UDP header is truncated")
    | some (source, destination) => do
      ensure (source ≠ 0 ∧ destination ≠ 0) "transport port is zero"
      return (if p.l4proto = protoTcp then .tcp else .udp, some source, some destination)
  else if p.l4proto = protoIcmp ∧ p.src.family = .ipv4 then do
    ensure (p.icmpIs 8 (some 0) = true) "ICMP echo type/code does not match the queue direction"
    return (.icmp, some echoIdentifier, none)
  else if p.l4proto = protoIcmpV6 ∧ p.src.family = .ipv6 then do
    ensure (p.icmpIs 128 (some 0) = true)
      "ICMPv6 echo type/code does not match the queue direction"
    return (.icmpV6, some echoIdentifier, none)
  else .error "queued packet uses an unsupported transport protocol"

def socketUid (attributes : QueueAttributes) : Except String (BitVec 32) :=
  match attributes.uid with
  | some uid => .ok uid
  | none => .error "queued packet has no kernel socket uid"

def interfaceForIndex (p : Packet) : Except String InterfaceName :=
  match p.oif with
  | none => .error "queued packet has no output interface"
  | some name =>
    match InterfaceName.new name with
    | .ok interface => .ok interface
    | .error _ => .error "output interface name is invalid"

/-- A parsed packet of the application queue. -/
structure QueuedPacket where
  connection : OutboundConnection
  packetMark : BitVec 32

/-- Parse a packet of the application queue. The layout of its bytes is not modelled: a header
that is too short is one that the packet does not have. -/
def parseQueuedPacket (p : Packet) (attributes : QueueAttributes) (packetMark : BitVec 32) :
    Except String QueuedPacket := do
  let (protocol, sourcePort, destinationPort) ← finishTransport p attributes.echoIdentifier
  let socketUid ← socketUid attributes
  let outputInterface ← interfaceForIndex p
  let connection : OutboundConnection :=
    { sourceAddress := p.src
      sourcePort
      destinationAddress := p.dst
      destinationPort
      protocol
      outputInterface
      socketUid }
  connection.validate
  return { connection, packetMark }

inductive DecisionError
  | malformed (message : String)
  | notPending
  | blockAll
  | noCandidate
  | noRuleMatched
  | identity (message : String)
  | engine (message : String)
  | policyChanged
  deriving DecidableEq

/-- The message of a decision error. The diagnosis appended for `noRuleMatched` is left out. -/
def DecisionError.message : DecisionError → String
  | .malformed message => message
  | .notPending => "queued packet does not carry the kernel pending-mark domain"
  | .blockAll => "BlockAll denies queued traffic"
  | .noCandidate =>
    "no enabled application rule or network fallback matches the queued endpoint and socket UID"
  | .noRuleMatched => "no enabled application rule matched"
  | .identity message => "cannot establish race-checked process identity: " ++ message
  | .engine message => message
  | .policyChanged =>
    "policy changed or shutdown started while application identity was resolved"

/-- A decision, dated by the policy it was taken on. -/
structure PacketAuthorization where
  mode : Mode
  flowGeneration : BitVec 32
  packetMark : BitVec 32
  action : RuleAction
  observationError : Option String
  deferLearningAttribution : Bool
  deriving DecidableEq

inductive PacketAttributionPlan
  | resolve (requirements : IdentityCaptureRequirements)
  | acceptNetworkFallback
  | acceptAndObserveLearning
  deriving DecidableEq

def packetAttributionPlan (policy : ApplicationDecisionPolicy) (packet : QueuedPacket) :
    Except DecisionError PacketAttributionPlan :=
  if packet.packetMark ≠ applicationPendingMark packet.packetMark then .error .notPending
  else
    match policy.snapshot.mode with
    | .blockAll => .error .blockAll
    | .learning =>
      match policy.denyCaptureRequirements packet.connection with
      | none => .ok .acceptAndObserveLearning
      | some requirements => .ok (.resolve requirements)
    | .enforcing =>
      match policy.enforcementCaptureRequirements packet.connection with
      | some requirements => .ok (.resolve requirements)
      | none =>
        match policy.matchingNetworkAccept packet.connection with
        | some _ => .ok .acceptNetworkFallback
        | none => .error .noCandidate

def PacketAuthorization.on (policy : ApplicationDecisionPolicy) (packet : QueuedPacket)
    (action : RuleAction) (observationError : Option String) (deferred : Bool) :
    PacketAuthorization :=
  { mode := policy.snapshot.mode
    flowGeneration := policy.snapshot.flowGeneration
    packetMark := packet.packetMark
    action
    observationError
    deferLearningAttribution := deferred }

def authorizeAttributedPacket (policy : ApplicationDecisionPolicy) (packet : QueuedPacket)
    (identity : ApplicationIdentity) (observe : Except String (Option String)) :
    Except DecisionError PacketAuthorization :=
  match policy.snapshot.mode with
  | .blockAll => .error .blockAll
  | .enforcing =>
    match policy.matchingRule packet.connection identity with
    | some rule => .ok (.on policy packet rule.spec.action none false)
    | none => .error .noRuleMatched
  | .learning =>
    match policy.matchingDenyRule packet.connection identity with
    | some rule => .ok (.on policy packet rule.spec.action none false)
    -- another process in the envelope of a deny stays allowed
    | none =>
      match observe with
      | .ok observationError => .ok (.on policy packet .accept observationError false)
      | .error message => .error (.engine message)

def decidePacket (policy : ApplicationDecisionPolicy) (packet : Except String QueuedPacket)
    (resolve : OutboundConnection → IdentityCaptureRequirements →
      Except String ApplicationIdentity)
    (observe : Except String (Option String)) : Except DecisionError PacketAuthorization :=
  match packet with
  | .error message => .error (.malformed message)
  | .ok packet =>
    match packetAttributionPlan policy packet with
    | .error error => .error error
    | .ok .acceptNetworkFallback => .ok (.on policy packet .accept none false)
    | .ok .acceptAndObserveLearning => .ok (.on policy packet .accept none true)
    | .ok (.resolve requirements) =>
      match resolve packet.connection requirements with
      | .error message => .error (.identity message)
      | .ok identity => authorizeAttributedPacket policy packet identity observe

def authorizationRemainsValid (authorization : PacketAuthorization) (currentMode : Mode)
    (currentFlowGeneration : BitVec 32) (stopping : Bool) : Bool :=
  !stopping && decide (currentMode = authorization.mode) &&
    decide (currentFlowGeneration = authorization.flowGeneration)

def authorizationVerdict (action : RuleAction) (strategy : QueueVerdictStrategy)
    (packetMark : BitVec 32) : QueueVerdict × Option (BitVec 32) :=
  match action, strategy with
  | .accept, .accept => (.accept, none)
  | .accept, .repeatWithHandoffMark => (.repeat, some (applicationHandoffMark packetMark))
  | .drop, _ => (.drop, none)
  | .reject, .accept => (.accept, some (applicationRejectMark packetMark))
  | .reject, .repeatWithHandoffMark => (.repeat, some (applicationRejectMark packetMark))

structure PacketVerdict where
  verdict : QueueVerdict
  mark : Option (BitVec 32)
  accepted : Bool
  error : Option DecisionError
  /-- The engine could not be read: it is quarantined and the daemon stops. -/
  quarantine : Bool

def PacketVerdict.deny (error : DecisionError) (quarantine : Bool) : PacketVerdict :=
  { verdict := .drop, mark := none, accepted := false, error := some error, quarantine }

/-- Return the verdict of a decision. `current` is what the engine reports under its lock: its
mode and generation, or the error of an engine in emergency. -/
def returnPacketVerdict (decision : Except DecisionError PacketAuthorization)
    (current : Except String (Mode × BitVec 32)) (stopping : Bool)
    (strategy : QueueVerdictStrategy) : PacketVerdict :=
  match decision with
  | .error error => .deny error false
  | .ok authorization =>
    match current with
    | .error message => .deny (.engine message) true
    | .ok (mode, generation) =>
      if authorizationRemainsValid authorization mode generation stopping then
        let (verdict, mark) :=
          authorizationVerdict authorization.action strategy authorization.packetMark
        { verdict
          mark
          accepted := decide (authorization.action = .accept)
          error := none
          quarantine := false }
      else .deny .policyChanged false

def PacketVerdict.answer (v : PacketVerdict) : Answer := .verdict v.verdict v.mark

/-! ### The learning queue -/

def returnLearningVerdict (mode : Mode) (stopping : Bool) : QueueVerdict :=
  if mode ≠ .learning ∨ stopping = true then .drop else .accept

/-- The verdict of the learning queue for a packet that waited, with the generation under which
it was queued. -/
def releaseLearningVerdict (ticketGeneration : BitVec 32) (mode : Mode)
    (generation : BitVec 32) (stopping : Bool) : QueueVerdict :=
  if mode = .learning ∧ ticketGeneration = generation ∧ stopping = false then .accept else .drop

end OpenShield
