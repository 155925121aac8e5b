import OpenShield.Core.Application

/-!
# Rules and endpoints

The rule model: modes, strategies, rule specifications with their selectors, stored rules and
the endpoints that learning observes, with the validation that every entry point applies.
-/

namespace OpenShield

def MAX_RULE_NAME_BYTES : ℕ := 128
def MAX_INTERFACE_NAME_BYTES : ℕ := 15

abbrev Uuid := Fin (2 ^ 128)

instance Uuid.neZero : NeZero (2 ^ 128) := ⟨by decide⟩

instance Uuid.lawfulBEq : LawfulBEq Uuid := inferInstance

instance lawfulBEq_bitVec32 : LawfulBEq (BitVec 32) := inferInstance

abbrev Timestamp := ℤ

inductive Mode
  | blockAll
  | learning
  | enforcing
  deriving DecidableEq, Repr

/-- Userspace attribution strategies; the kernel policy does not depend on them. -/
inductive EnforcementStrategy
  | strict
  | fast
  deriving DecidableEq, Repr

/-- Traffic directions, seen from the host. -/
inductive Direction
  | inbound
  | outbound
  deriving DecidableEq, Repr

inductive TransportProtocol
  | any
  | tcp
  | udp
  | icmp
  | icmpV6
  deriving DecidableEq, Repr

def TransportProtocol.display : TransportProtocol → String
  | .any => "any"
  | .tcp => "tcp"
  | .udp => "udp"
  | .icmp => "icmp"
  | .icmpV6 => "icmpv6"

inductive RuleOrigin
  | manual
  | learned
  /-- Disabled application-wide skeleton created by learning. -/
  | template
  deriving DecidableEq, Repr

inductive RuleAction
  | accept
  | drop
  | reject
  deriving DecidableEq, Repr

inductive ValidationError
  | emptyRuleName
  | ruleNameTooLong (actual maximum : ℕ)
  | invalidRuleName
  | invalidInterfaceName
  | invalidPortRange (start stop : BitVec 16)
  | portWithIncompatibleProtocol
  | protocolNetworkFamilyMismatch
  | unrestrictedRule
  | applicationSelectorOnInboundRule
  | denyActionOnInboundRule
  | invalidApplicationSelector (error : ApplicationValidationError)
  | nilRuleId
  | invalidRuleTimestamps
  | learnedTransportNeedsPort
  | learnedEndpointNeedsInterface
  | unsupportedLearnedProtocol
  deriving DecidableEq, Repr

def ValidationError.message : ValidationError → String
  | .emptyRuleName => "rule name must not be empty"
  | .ruleNameTooLong actual maximum =>
    "rule name is " ++ toString actual ++ " bytes; maximum is " ++ toString maximum
  | .invalidRuleName => "rule name has surrounding whitespace or control characters"
  | .invalidInterfaceName =>
    "interface name must be 1..=" ++ toString MAX_INTERFACE_NAME_BYTES ++ " safe ASCII bytes"
  | .invalidPortRange start stop =>
    "invalid port range " ++ toString start.toNat ++ "..=" ++ toString stop.toNat
  | .portWithIncompatibleProtocol => "a port selector is only valid with TCP or UDP"
  | .protocolNetworkFamilyMismatch => "protocol and peer network use different IP families"
  | .unrestrictedRule => "an any-protocol rule must have at least one selector"
  | .applicationSelectorOnInboundRule =>
    "application selectors are valid only for outbound rules"
  | .denyActionOnInboundRule => "drop and reject actions are valid only for outbound rules"
  | .invalidApplicationSelector error => error.message
  | .nilRuleId => "rule id must not be nil"
  | .invalidRuleTimestamps => "rule update time precedes its creation time"
  | .learnedTransportNeedsPort => "a learned TCP or UDP endpoint requires a port"
  | .learnedEndpointNeedsInterface => "a learned endpoint must retain its outbound interface"
  | .unsupportedLearnedProtocol => "learning cannot persist an any-protocol endpoint"

def isUnsafeRuleNameCharacter (c : Char) : Bool :=
  Text.isControl c || (Text.isWhitespace c && decide (c ≠ ' ')) || Text.isDirectional c

/-- The checks of `RuleName::new`, in their order. -/
def RuleName.check (value : String) : Except ValidationError Unit :=
  if value.isEmpty then .error .emptyRuleName
  else if MAX_RULE_NAME_BYTES < value.utf8ByteSize then
    .error (.ruleNameTooLong value.utf8ByteSize MAX_RULE_NAME_BYTES)
  else if Text.trim value.toList ≠ value.toList ∨ value.toList.any isUnsafeRuleNameCharacter then
    .error .invalidRuleName
  else .ok ()

structure RuleName where
  /-- The displayed text. -/
  value : String
  valid : (RuleName.check value).toBool = true
  deriving DecidableEq

def RuleName.new (value : String) : Except ValidationError RuleName :=
  match h : RuleName.check value with
  | .ok () => .ok ⟨value, by rw [h]; rfl⟩
  | .error error => .error error

def isInterfaceCharacter (c : Char) : Bool :=
  (decide ('a' ≤ c) && decide (c ≤ 'z')) || (decide ('A' ≤ c) && decide (c ≤ 'Z')) ||
    (decide ('0' ≤ c) && decide (c ≤ '9')) || decide (c ∈ ['_', '-', '.'])

/-- The checks of `InterfaceName::new`. -/
def InterfaceName.accepts (value : String) : Bool :=
  !(value.isEmpty || decide (MAX_INTERFACE_NAME_BYTES < value.utf8ByteSize)) &&
    value.toList.all isInterfaceCharacter

/-- An interface name from a conservative ASCII subset. -/
structure InterfaceName where
  value : String
  valid : InterfaceName.accepts value = true
  deriving DecidableEq

theorem InterfaceName.eq_iff (a b : InterfaceName) : a = b ↔ a.value = b.value := by
  cases a
  cases b
  simp

def InterfaceName.new (value : String) : Except ValidationError InterfaceName :=
  if h : InterfaceName.accepts value then .ok ⟨value, h⟩ else .error .invalidInterfaceName

structure PortRange where
  start : BitVec 16
  stop : BitVec 16
  valid : start ≠ 0 ∧ stop ≠ 0 ∧ start ≤ stop
  deriving DecidableEq

def PortRange.new (start stop : BitVec 16) : Except ValidationError PortRange :=
  if h : start ≠ 0 ∧ stop ≠ 0 ∧ start ≤ stop then .ok ⟨start, stop, h⟩
  else .error (.invalidPortRange start stop)

/-- Everything about a rule that an administrator can edit. -/
structure RuleSpec where
  name : RuleName
  direction : Direction
  /-- Verdict and activation are independent. -/
  action : RuleAction
  protocol : TransportProtocol
  peerNetwork : Option IpNet
  port : Option PortRange
  interface : Option InterfaceName
  /-- Identity constraint of an outbound rule; rules without it are network rules. -/
  application : Option ApplicationSelector
  origin : RuleOrigin
  enabled : Bool
  deriving DecidableEq

def protocolNetworkMismatch (protocol : TransportProtocol) (network : Option IpNet) : Bool :=
  match protocol, network with
  | .icmp, some (.v6 ..) => true
  | .icmpV6, some (.v4 ..) => true
  | _, _ => false

def liftApplication {α : Type} :
    Except ApplicationValidationError α → Except ValidationError α
  | .ok value => .ok value
  | .error error => .error (.invalidApplicationSelector error)

def RuleSpec.validate (spec : RuleSpec) : Except ValidationError Unit :=
  if spec.direction = .inbound ∧ spec.action ≠ .accept then .error .denyActionOnInboundRule
  else if spec.protocol = .any ∧ spec.peerNetwork = none ∧ spec.port = none ∧
      spec.interface = none ∧ spec.application = none then
    .error .unrestrictedRule
  else if spec.port ≠ none ∧ ¬(spec.protocol = .tcp ∨ spec.protocol = .udp) then
    .error .portWithIncompatibleProtocol
  else if protocolNetworkMismatch spec.protocol spec.peerNetwork then
    .error .protocolNetworkFamilyMismatch
  else if spec.direction = .inbound ∧ spec.application ≠ none then
    .error .applicationSelectorOnInboundRule
  else
    match spec.application with
    | some application => liftApplication application.validate
    | none => .ok ()

def RuleSpec.new (name : RuleName) (direction : Direction) (protocol : TransportProtocol)
    (peerNetwork : Option IpNet) (port : Option PortRange) (interface : Option InterfaceName)
    (origin : RuleOrigin) (enabled : Bool) : Except ValidationError RuleSpec := do
  let spec : RuleSpec :=
    { name, direction, action := .accept, protocol, peerNetwork, port, interface,
      application := none, origin, enabled }
  spec.validate
  return spec

structure Rule where
  id : Uuid
  spec : RuleSpec
  createdAt : Timestamp
  updatedAt : Timestamp
  deriving DecidableEq

def Rule.withIdAndTime (id : Uuid) (spec : RuleSpec) (now : Timestamp) :
    Except ValidationError Rule := do
  spec.validate
  if id = 0 then throw .nilRuleId
  return { id, spec, createdAt := now, updatedAt := now }

def Rule.validate (rule : Rule) : Except ValidationError Unit :=
  if rule.id = 0 then .error .nilRuleId
  else if rule.updatedAt < rule.createdAt then .error .invalidRuleTimestamps
  else rule.spec.validate

structure LearnedEndpoint where
  address : IpAddr
  protocol : TransportProtocol
  port : Option PortRange
  interface : Option InterfaceName
  deriving DecidableEq

def LearnedEndpoint.validate (endpoint : LearnedEndpoint) : Except ValidationError Unit :=
  if endpoint.interface = none then .error .learnedEndpointNeedsInterface
  else
    match endpoint.protocol with
    | .tcp | .udp => if endpoint.port = none then .error .learnedTransportNeedsPort else .ok ()
    | .icmp =>
      if endpoint.address.family = .ipv6 then .error .protocolNetworkFamilyMismatch else .ok ()
    | .icmpV6 =>
      if endpoint.address.family = .ipv4 then .error .protocolNetworkFamilyMismatch else .ok ()
    -- one unknown packet must never become an all-protocol authorization
    | .any => .error .unsupportedLearnedProtocol

structure LearnedApplicationEndpoint where
  endpoint : LearnedEndpoint
  application : ApplicationSelector
  deriving DecidableEq

def LearnedApplicationEndpoint.validate (learned : LearnedApplicationEndpoint) :
    Except ApplicationValidationError Unit := do
  match learned.endpoint.validate with
  | .ok () => pure ()
  | .error _ => throw .invalidLearnedEndpoint
  learned.application.validate
  if learned.application.uid = none ∨ learned.application.executableFile = none then
    throw .incompleteLearnedApplicationIdentity

end OpenShield
