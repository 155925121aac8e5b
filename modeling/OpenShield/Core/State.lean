import OpenShield.Core.Model
import OpenShield.Data.OrderedMap
import OpenShield.Data.Result

/-!
# Policy state

The persisted policy: a mode, a strategy, the rules by identifier, the revision that numbers
every change and the flow generation that dates the authorisations given to connections. Each
mutator returns the new state with the event it emits, and fails without changing anything.

The size of a serialized state is the business of the serializer, which is a parameter.
-/

namespace OpenShield

def MAX_RULES : ℕ := 10000
def MAX_AUTOMATIC_LEARNED_RULES : ℕ := 7500
def MAX_STATE_BYTES : ℕ := 8 * 1024 * 1024
def MAX_FLOW_GENERATION : BitVec 32 := 0x3fffffff

inductive CoreError
  | validation (error : ValidationError)
  | ruleNotFound (id : Uuid)
  | duplicateRuleId (id : Uuid)
  | mismatchedRuleId (mapId ruleId : Uuid)
  | rulesLimitReached (limit : ℕ)
  | revisionOverflow
  | invalidFlowGeneration
  | flowGenerationExhausted
  | redactedApplicationMetadata
  | invalidObserverRedaction
  | unpinnedApplicationIdentity
  | stateSizeLimitReached (limit : ℕ)
  | stateSerialization (message : String)
  deriving DecidableEq

def Uuid.display (id : Uuid) : String :=
  let digits := (List.range 32).map fun i => Nat.digitChar (id.val / 16 ^ (31 - i) % 16)
  let group (start length : ℕ) := String.ofList ((digits.drop start).take length)
  String.intercalate "-" [group 0 8, group 8 4, group 12 4, group 16 4, group 20 12]

def CoreError.message : CoreError → String
  | .validation error => error.message
  | .ruleNotFound id => "rule " ++ Uuid.display id ++ " does not exist"
  | .duplicateRuleId id => "rule id " ++ Uuid.display id ++ " appears more than once"
  | .mismatchedRuleId mapId ruleId =>
    "state rule key " ++ Uuid.display mapId ++ " differs from embedded id " ++ Uuid.display ruleId
  | .rulesLimitReached limit => "at most " ++ toString limit ++ " rules are allowed"
  | .revisionOverflow => "state revision counter is exhausted"
  | .invalidFlowGeneration =>
    "state flow-authorization generation is outside the supported mark domain"
  | .flowGenerationExhausted => "state flow-authorization generation is exhausted"
  | .redactedApplicationMetadata =>
    "redacted application metadata cannot enter persisted policy state"
  | .invalidObserverRedaction =>
    "observer snapshot contains a noncanonical or mixed application redaction"
  | .unpinnedApplicationIdentity =>
    "application rules require a pinned executable version identity"
  | .stateSizeLimitReached limit =>
    "serialized state exceeds the " ++ toString limit ++ "-byte persistence limit"
  | .stateSerialization message =>
    "state serialization failed during size validation: " ++ message

def liftValidation {α : Type} : Except ValidationError α → Except CoreError α
  | .ok value => .ok value
  | .error error => .error (.validation error)

/-- How outbound packets reach the application decision. -/
inductive ApplicationInterception
  /-- No packet needs attribution. -/
  | none
  | tcpInitial
  | perPacket
  deriving DecidableEq, Repr

/-- The path that the rules of a policy require. The scan stops at the first rule that needs
every packet. -/
def classifyEnforcing : ApplicationInterception → List Rule → ApplicationInterception
  | interception, [] => interception
  | interception, rule :: rest =>
    if !rule.spec.enabled || decide (rule.spec.direction ≠ .outbound) ||
        rule.spec.application.isNone then
      classifyEnforcing interception rest
    else
      match rule.spec.protocol with
      | .tcp => classifyEnforcing .tcpInitial rest
      | .any | .udp | .icmp | .icmpV6 => .perPacket

def classifyApplicationInterception (mode : Mode) (rules : List Rule) :
    ApplicationInterception :=
  match mode with
  | .blockAll => .none
  | .learning => .perPacket
  | .enforcing => classifyEnforcing .none rules

def isUnpinnedApplicationTemplate (spec : RuleSpec) : Bool :=
  match spec.application with
  | none => false
  | some selector =>
    decide (spec.origin = .template) && !spec.enabled && decide (spec.action = .accept) &&
      decide (spec.direction = .outbound) && decide (spec.protocol = .any) &&
      spec.peerNetwork.isNone && spec.port.isNone && spec.interface.isNone &&
      selector.executable.isSome && selector.executableFile.isNone &&
      selector.commandLine.isNone && selector.uid.isNone && !selector.metadataRedacted

def rejectRedactedSpec (spec : RuleSpec) : Except CoreError Unit :=
  ensure (spec.application.any (·.metadataRedacted) = false) .redactedApplicationMetadata

def rejectUnpinnedApplicationSpec (spec : RuleSpec) : Except CoreError Unit :=
  ensure (¬(spec.application.any (·.executableFile.isNone) = true ∧
    isUnpinnedApplicationTemplate spec = false)) .unpinnedApplicationIdentity

def clearDisabledTemplatePinIfSkeleton (spec : RuleSpec) : RuleSpec :=
  if spec.origin ≠ .template ∨ spec.enabled ∨ spec.action ≠ .accept ∨
      spec.direction ≠ .outbound ∨ spec.protocol ≠ .any ∨ spec.peerNetwork ≠ none ∨
      spec.port ≠ none ∨ spec.interface ≠ none then
    spec
  else
    match spec.application with
    | none => spec
    | some selector =>
      if selector.executable.isSome && selector.commandLine.isNone && selector.uid.isNone &&
          !selector.metadataRedacted then
        { spec with application := some { selector with executableFile := none } }
      else spec

structure Snapshot where
  revision : BitVec 64
  flowGeneration : BitVec 32
  mode : Mode
  rules : List Rule
  deriving DecidableEq

def Snapshot.applicationInterception (snapshot : Snapshot) : ApplicationInterception :=
  classifyApplicationInterception snapshot.mode snapshot.rules

def validFlowGeneration (generation : BitVec 32) : Bool :=
  decide (1 ≤ generation) && decide (generation ≤ MAX_FLOW_GENERATION)

def validatePolicyRule (rule : Rule) : Except CoreError Unit := do
  liftValidation rule.validate
  rejectRedactedSpec rule.spec
  rejectUnpinnedApplicationSpec rule.spec

/-- Check the rules of a snapshot; `ids` are the identifiers seen before. -/
def validateSnapshotRules : List Uuid → List Rule → Except CoreError Unit
  | _, [] => .ok ()
  | ids, rule :: rest => do
    validatePolicyRule rule
    ensure (rule.id ∉ ids) (.duplicateRuleId rule.id)
    validateSnapshotRules (rule.id :: ids) rest

def Snapshot.validate (snapshot : Snapshot) : Except CoreError Unit := do
  ensure (snapshot.rules.length ≤ MAX_RULES) (.rulesLimitReached MAX_RULES)
  ensure (validFlowGeneration snapshot.flowGeneration) .invalidFlowGeneration
  validateSnapshotRules [] snapshot.rules

structure CounterValue where
  packets : BitVec 64
  bytes : BitVec 64
  deriving DecidableEq

/-- The traffic counters of an installed policy. -/
structure FirewallCounters where
  acceptedIn : CounterValue
  acceptedOut : CounterValue
  droppedIn : CounterValue
  droppedOut : CounterValue
  learnedOut : CounterValue
  deriving DecidableEq

inductive EventKind
  | modeChanged (previous current : Mode)
  | ruleCreated (rule : Rule)
  | ruleUpdated (rule : Rule)
  | ruleDeleted (rule : Rule)
  | ruleEnabledChanged (rule : Rule)
  | countersUpdated (counters : FirewallCounters)
  deriving DecidableEq

/-- A published change, numbered by the revision it produced. -/
structure Event where
  revision : BitVec 64
  occurredAt : Timestamp
  kind : EventKind
  deriving DecidableEq

structure State where
  revision : BitVec 64
  flowGeneration : BitVec 32
  mode : Mode
  enforcementStrategy : EnforcementStrategy
  rules : OrderedMap Uuid Rule
  deriving DecidableEq

/-- Sizes of serialized values. -/
structure Serializer where
  stateSize : State → ℕ
  ruleSize : Rule → ℕ

def Sample.json : Serializer := ⟨fun _ => 0, fun _ => 0⟩

def boundedSerializedStateSize (json : Serializer) (state : State) : Except CoreError ℕ :=
  if MAX_STATE_BYTES < json.stateSize state then .error (.stateSizeLimitReached MAX_STATE_BYTES)
  else .ok (json.stateSize state)

namespace State

def new : State :=
  { revision := 0, flowGeneration := 1, mode := .blockAll, enforcementStrategy := .strict,
    rules := OrderedMap.empty }

def snapshot (s : State) : Snapshot :=
  { revision := s.revision, flowGeneration := s.flowGeneration, mode := s.mode,
    rules := s.rules.values }

def validateEntries : List (Uuid × Rule) → Except CoreError Unit
  | [] => .ok ()
  | (id, rule) :: rest => do
    ensure (id = rule.id) (.mismatchedRuleId id rule.id)
    validatePolicyRule rule
    validateEntries rest

def validate (json : Serializer) (s : State) : Except CoreError Unit := do
  ensure (s.rules.size ≤ MAX_RULES) (.rulesLimitReached MAX_RULES)
  ensure (validFlowGeneration s.flowGeneration) .invalidFlowGeneration
  validateEntries s.rules.entries
  let _ ← boundedSerializedStateSize json s
  return ()

def nextRevision (s : State) : Except CoreError (BitVec 64) :=
  match checkedSucc s.revision with
  | some revision => .ok revision
  | none => .error .revisionOverflow

def nextFlowGeneration (s : State) : Except CoreError (BitVec 32) :=
  if MAX_FLOW_GENERATION ≤ s.flowGeneration then .error .flowGenerationExhausted
  else .ok (s.flowGeneration + 1)

/-- The flow generation of a new mode. Entering `blockAll` never fails for want of
generations. -/
def generationForMode (s : State) (mode : Mode) : Except CoreError (BitVec 32) :=
  match s.nextFlowGeneration with
  | .ok generation => .ok generation
  | .error .flowGenerationExhausted =>
    if mode = .blockAll then .ok s.flowGeneration else .error .flowGenerationExhausted
  | .error error => .error error

def generationAfter (s : State) (withdraws : Bool) : Except CoreError (BitVec 32) :=
  if withdraws then s.nextFlowGeneration else .ok s.flowGeneration

def setModeWithStrategyAt (s : State) (mode : Mode) (strategy : EnforcementStrategy)
    (now : Timestamp) : Except CoreError (State × Event) := do
  let revision ← s.nextRevision
  let flowGeneration ← s.generationForMode mode
  return ({ s with mode, enforcementStrategy := strategy, flowGeneration, revision },
    { revision, occurredAt := now, kind := .modeChanged s.mode mode })

/-- Select a mode; plain `enforcing` is strict, and other modes keep the strategy. -/
def setModeAt (s : State) (mode : Mode) (now : Timestamp) : Except CoreError (State × Event) :=
  s.setModeWithStrategyAt mode
    (if mode = .enforcing then .strict else s.enforcementStrategy) now

/-- Select `enforcing` together with its strategy. -/
def enforce (s : State) (strategy : EnforcementStrategy) (now : Timestamp) :
    Except CoreError (State × Event) :=
  s.setModeWithStrategyAt .enforcing strategy now

/-- Insert a rule. An enabled deny invalidates the flows that were authorised before. -/
def createRuleAt (s : State) (id : Uuid) (spec : RuleSpec) (now : Timestamp) :
    Except CoreError (State × Rule × Event) := do
  rejectRedactedSpec spec
  rejectUnpinnedApplicationSpec spec
  ensure (s.rules.size < MAX_RULES) (.rulesLimitReached MAX_RULES)
  ensure (s.rules.contains id = false) (.duplicateRuleId id)
  let rule ← liftValidation (Rule.withIdAndTime id spec now)
  let revision ← s.nextRevision
  let flowGeneration ←
    s.generationAfter (rule.spec.enabled && decide (rule.spec.action ≠ .accept))
  return ({ s with rules := s.rules.insert id rule, flowGeneration, revision }, rule,
    { revision, occurredAt := now, kind := .ruleCreated rule })

def updateRuleAt (s : State) (id : Uuid) (spec : RuleSpec) (now : Timestamp) :
    Except CoreError (State × Rule × Event) := do
  let spec := clearDisabledTemplatePinIfSkeleton spec
  liftValidation spec.validate
  rejectRedactedSpec spec
  rejectUnpinnedApplicationSpec spec
  let revision ← s.nextRevision
  match s.rules.get? id with
  | none => throw (.ruleNotFound id)
  | some current =>
    let flowGeneration ← s.nextFlowGeneration
    let rule : Rule := { current with spec, updatedAt := max now current.updatedAt }
    liftValidation rule.validate
    return ({ s with rules := s.rules.insert id rule, flowGeneration, revision }, rule,
      { revision, occurredAt := now, kind := .ruleUpdated rule })

def deleteRuleAt (s : State) (id : Uuid) (now : Timestamp) :
    Except CoreError (State × Rule × Event) := do
  let revision ← s.nextRevision
  match s.rules.get? id with
  | none => throw (.ruleNotFound id)
  | some rule =>
    let flowGeneration ← s.nextFlowGeneration
    return ({ s with rules := s.rules.erase id, flowGeneration, revision }, rule,
      { revision, occurredAt := now, kind := .ruleDeleted rule })

def switchMovesGeneration (current : Rule) (enabled : Bool) : Bool :=
  (current.spec.enabled && !enabled) ||
    (!current.spec.enabled && enabled && decide (current.spec.action ≠ .accept))

def setRuleEnabledAt (s : State) (id : Uuid) (enabled : Bool) (now : Timestamp) :
    Except CoreError (State × Rule × Event) := do
  let revision ← s.nextRevision
  match s.rules.get? id with
  | none => throw (.ruleNotFound id)
  | some current =>
    let flowGeneration ← s.generationAfter (switchMovesGeneration current enabled)
    let rule : Rule :=
      { current with
        spec := clearDisabledTemplatePinIfSkeleton { current.spec with enabled }
        updatedAt := max now current.updatedAt }
    liftValidation rule.validate
    rejectUnpinnedApplicationSpec rule.spec
    return ({ s with rules := s.rules.insert id rule, flowGeneration, revision }, rule,
      { revision, occurredAt := now, kind := .ruleEnabledChanged rule })

def countersEvent (s : State) (counters : FirewallCounters) (occurredAt : Timestamp) : Event :=
  { revision := s.revision, occurredAt, kind := .countersUpdated counters }

end State

end OpenShield
