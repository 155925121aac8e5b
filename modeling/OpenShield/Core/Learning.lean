import OpenShield.Core.State

/-!
# Automatic learning

How observed endpoints become rules: exact deduplication, count budgets per user and per
application, and one disabled template skeleton per application group. Identifiers and times
come from outside, so they are drawn from a supply that is a parameter.

Sets and counting maps of the source are lists here: a set is used only through membership,
and a counting map is the list of the keys it was incremented at.
-/

namespace OpenShield

structure LearningLimits where
  perUid : ℕ
  perApplication : ℕ
  valid : perApplication ≠ 0 ∧ perApplication ≤ perUid ∧ perUid ≤ MAX_AUTOMATIC_LEARNED_RULES
  deriving DecidableEq

def LearningLimits.default : LearningLimits := ⟨4096, 1024, by decide⟩

def APPLICATION_GROUP_TEMPLATE_NAME : String := "application-wide template"

/-- The identifier and time of the `n`-th rule that learning creates. -/
abbrev Supply := ℕ → Uuid × Timestamp

structure LearnOutcome where
  rule : Rule
  event : Option Event
  deriving DecidableEq

structure LearnedRuleKey where
  protocol : TransportProtocol
  peerNetwork : Option IpNet
  port : Option PortRange
  interface : Option InterfaceName
  application : Option ApplicationSelector
  deriving DecidableEq

namespace LearnedRuleKey

def fromEndpoint (endpoint : LearnedEndpoint) : LearnedRuleKey :=
  { protocol := endpoint.protocol, peerNetwork := some endpoint.address.toIpNet,
    port := endpoint.port, interface := endpoint.interface, application := none }

def fromApplicationEndpoint (learned : LearnedApplicationEndpoint) : LearnedRuleKey :=
  { fromEndpoint learned.endpoint with application := some learned.application }

def fromRule (rule : Rule) : LearnedRuleKey :=
  { protocol := rule.spec.protocol, peerNetwork := rule.spec.peerNetwork,
    port := rule.spec.port, interface := rule.spec.interface,
    application := rule.spec.application }

end LearnedRuleKey

/-- The identity of a template skeleton. -/
structure ApplicationTemplateKey where
  executable : ApplicationPath
  cgroup : Option CgroupPath
  deriving DecidableEq

namespace ApplicationTemplateKey

def fromSelector (selector : ApplicationSelector) :
    Except ValidationError ApplicationTemplateKey :=
  match selector.executable with
  | some executable => .ok { executable, cgroup := selector.cgroup }
  | none => .error (.invalidApplicationSelector .applicationSelectorNeedsExecutable)

def fromTemplate (rule : Rule) : Option ApplicationTemplateKey :=
  match rule.spec.application with
  | none => none
  | some selector =>
    if rule.spec.origin ≠ .template ∨ rule.spec.direction ≠ .outbound ∨
        selector.metadataRedacted then none
    else (fromSelector selector).toOption

end ApplicationTemplateKey

def isAutomaticRule (rule : Rule) : Bool :=
  decide (rule.spec.origin = .learned ∨ rule.spec.origin = .template)

def isLearnedOutbound (rule : Rule) : Bool :=
  decide (rule.spec.origin = .learned) && decide (rule.spec.direction = .outbound)

def learnedOwner? (rule : Rule) : Option (BitVec 32 × ExecutableFileId) :=
  if isLearnedOutbound rule then
    match rule.spec.application with
    | some application =>
      match application.uid, application.executableFile with
      | some uid, some file => some (uid, file)
      | _, _ => none
    | none => none
  else none

def portSuffix : Option PortRange → String
  | none => ""
  | some port =>
    if port.start = port.stop then ":" ++ toString port.start.toNat
    else ":" ++ toString port.start.toNat ++ "-" ++ toString port.stop.toNat

def learnedName (endpoint : LearnedEndpoint) : String :=
  "learned " ++ endpoint.protocol.display ++ " " ++ endpoint.address.display ++
    portSuffix endpoint.port

namespace State

def insertApplicationGroupTemplate (s : State) (key : ApplicationTemplateKey)
    (draw : Uuid × Timestamp) : Except CoreError (State × LearnOutcome) := do
  let application ← liftValidation (liftApplication
    (ApplicationSelector.new (some key.executable) none none none key.cgroup))
  let name ← liftValidation (RuleName.new APPLICATION_GROUP_TEMPLATE_NAME)
  let spec : RuleSpec :=
    { name, direction := .outbound, action := .accept, protocol := .any, peerNetwork := none,
      port := none, interface := none, application := some application, origin := .template,
      enabled := false }
  let (s', rule, event) ← s.createRuleAt draw.1 spec draw.2
  return (s', { rule, event := some event })

def insertLearnedEndpoint (s : State) (endpoint : LearnedEndpoint)
    (application : Option ApplicationSelector) (draw : Uuid × Timestamp) :
    Except CoreError (State × LearnOutcome) := do
  let name ← liftValidation (RuleName.new (learnedName endpoint))
  let base ← liftValidation (RuleSpec.new name .outbound endpoint.protocol
    (some endpoint.address.toIpNet) endpoint.port endpoint.interface .learned true)
  let spec : RuleSpec := { base with action := .accept, application }
  liftValidation spec.validate
  let (s', rule, event) ← s.createRuleAt draw.1 spec draw.2
  return (s', { rule, event := some event })

def automaticCount (s : State) : ℕ := s.rules.values.countP isAutomaticRule

def learnEndpoint (s : State) (endpoint : LearnedEndpoint) (draw : Uuid × Timestamp) :
    Except CoreError (State × LearnOutcome) := do
  liftValidation endpoint.validate
  match s.rules.values.find? (fun rule => isLearnedOutbound rule &&
      decide (LearnedRuleKey.fromRule rule = LearnedRuleKey.fromEndpoint endpoint)) with
  | some rule => return (s, { rule, event := none })
  | none =>
    ensure (s.automaticCount < MAX_AUTOMATIC_LEARNED_RULES)
      (.rulesLimitReached MAX_AUTOMATIC_LEARNED_RULES)
    s.insertLearnedEndpoint endpoint none draw

end State

/-- What a learning batch has done so far. -/
structure LearnProgress where
  state : State
  known : List LearnedRuleKey
  knownTemplates : List ApplicationTemplateKey
  learnedPerUid : List (BitVec 32)
  learnedPerApplication : List (BitVec 32 × ExecutableFileId)
  outcomes : List LearnOutcome
  /-- How many identifiers have been drawn. -/
  draws : ℕ

inductive LearnStep
  | next (progress : LearnProgress)
  /-- The batch ends early, without an error. -/
  | stop (progress : LearnProgress)
  /-- The batch fails; what it did before stays in the state. -/
  | fail (error : CoreError) (progress : LearnProgress)

def incompleteIdentity : CoreError :=
  .validation (.invalidApplicationSelector .incompleteLearnedApplicationIdentity)

namespace LearnProgress

def start (s : State) : LearnProgress :=
  let owners := s.rules.values.filterMap learnedOwner?
  { state := s
    known := (s.rules.values.filter isLearnedOutbound).map LearnedRuleKey.fromRule
    knownTemplates := s.rules.values.filterMap ApplicationTemplateKey.fromTemplate
    learnedPerUid := owners.map Prod.fst
    learnedPerApplication := owners
    outcomes := []
    draws := 0 }

def withTemplate (progress : LearnProgress) (supply : Supply) (key : ApplicationTemplateKey) :
    Except CoreError LearnProgress :=
  if key ∈ progress.knownTemplates then .ok progress
  else do
    let (state, outcome) ←
      progress.state.insertApplicationGroupTemplate key (supply progress.draws)
    return { progress with
      state
      knownTemplates := key :: progress.knownTemplates
      outcomes := progress.outcomes ++ [outcome]
      draws := progress.draws + 1 }

def withEndpoint (progress : LearnProgress) (supply : Supply)
    (learned : LearnedApplicationEndpoint) (owner : BitVec 32 × ExecutableFileId) :
    Except CoreError LearnProgress := do
  let (state, outcome) ← progress.state.insertLearnedEndpoint learned.endpoint
    (some learned.application) (supply progress.draws)
  return { progress with
    state
    known := LearnedRuleKey.fromApplicationEndpoint learned :: progress.known
    learnedPerUid := owner.1 :: progress.learnedPerUid
    learnedPerApplication := owner :: progress.learnedPerApplication
    outcomes := progress.outcomes ++ [outcome]
    draws := progress.draws + 1 }

def learnOne (limits : LearningLimits) (maximumNew : ℕ) (supply : Supply)
    (progress : LearnProgress) (learned : LearnedApplicationEndpoint) : LearnStep :=
  if LearnedRuleKey.fromApplicationEndpoint learned ∈ progress.known then .next progress
  else
    match ApplicationTemplateKey.fromSelector learned.application with
    | .error error => .fail (.validation error) progress
    | .ok key =>
      let requiredSlots := (if key ∈ progress.knownTemplates then 0 else 1) + 1
      if maximumNew < progress.outcomes.length + requiredSlots then .stop progress
      else
        match learned.application.uid, learned.application.executableFile with
        | some uid, some file =>
          if limits.perUid ≤ progress.learnedPerUid.count uid ∨
              limits.perApplication ≤ progress.learnedPerApplication.count (uid, file) then
            .next progress
          else
            match progress.withTemplate supply key with
            | .error error => .fail error progress
            | .ok progress' =>
              match progress'.withEndpoint supply learned (uid, file) with
              | .error error => .fail error progress'
              | .ok progress'' => .next progress''
        | _, _ => .fail incompleteIdentity progress

/-- A whole batch; the state keeps what was done before an error. -/
def learnAll (limits : LearningLimits) (maximumNew : ℕ) (supply : Supply) :
    LearnProgress → List LearnedApplicationEndpoint → Except CoreError Unit × LearnProgress
  | progress, [] => (.ok (), progress)
  | progress, learned :: rest =>
    match progress.learnOne limits maximumNew supply learned with
    | .next progress' => learnAll limits maximumNew supply progress' rest
    | .stop progress' => (.ok (), progress')
    | .fail error progress' => (.error error, progress')

end LearnProgress

def validateEndpoints : List LearnedApplicationEndpoint → Except CoreError Unit
  | [] => .ok ()
  | learned :: rest => do
    liftValidation (liftApplication learned.validate)
    validateEndpoints rest

def newGroups : List ApplicationTemplateKey → List ApplicationTemplateKey →
    List ApplicationTemplateKey
  | _, [] => []
  | known, key :: rest =>
    if key ∈ known then newGroups known rest else key :: newGroups (key :: known) rest

def serializedRuleMapEntryDelta (json : Serializer) (rule : Rule)
    (previousRevision currentRevision : BitVec 64) (hadRules : Bool) : Except CoreError ℕ :=
  let total := do
    let size ← checkedAddUsize (json.ruleSize rule) ((Uuid.display rule.id).utf8ByteSize + 3)
    let size ← checkedAddUsize size (if hadRules then 1 else 0)
    let size ← checkedAddUsize size (toString currentRevision.toNat).utf8ByteSize
    let previous := (toString previousRevision.toNat).utf8ByteSize
    if previous ≤ size then some (size - previous) else none
  match total with
  | some delta => .ok delta
  | none => .error (.stateSerialization "state size arithmetic overflowed")

namespace State

/-- Learn a batch of application endpoints within count budgets. On failure the state keeps
the rules created before. -/
def learnNewApplicationEndpointsWithLimits (s : State)
    (endpoints : List LearnedApplicationEndpoint) (maximumNew : ℕ) (limits : LearningLimits)
    (supply : Supply) : Except CoreError (List LearnOutcome) × State :=
  let endpoints := endpoints.take MAX_RULES
  match validateEndpoints endpoints with
  | .error error => (.error error, s)
  | .ok () =>
    let maximumNew := min (min maximumNew (MAX_RULES - s.rules.size))
      (MAX_AUTOMATIC_LEARNED_RULES - s.automaticCount)
    match (LearnProgress.start s).learnAll limits maximumNew supply endpoints with
    | (.ok (), progress') => (.ok progress'.outcomes, progress'.state)
    | (.error error, progress') => (.error error, progress'.state)

/-- Add template skeletons group by group while the serialized state stays within bounds. The
skeleton that would cross the bound is rolled back and ends the loop. -/
def addTemplates (json : Serializer) (maximumStateBytes : ℕ) (supply : Supply) :
    State → ℕ → ℕ → List LearnOutcome → List ApplicationTemplateKey →
      Except CoreError (List LearnOutcome) × State
  | s, _, _, outcomes, [] => (.ok outcomes, s)
  | s, serializedSize, draws, outcomes, group :: rest =>
    match s.insertApplicationGroupTemplate group (supply draws) with
    | .error error => (.error error, s)
    | .ok (s', outcome) =>
      let rolledBack : State :=
        { s' with
          rules := s'.rules.erase outcome.rule.id
          revision := s.revision
          flowGeneration := s.flowGeneration }
      match serializedRuleMapEntryDelta json outcome.rule s.revision s'.revision
          (decide (s.rules.size ≠ 0)) with
      | .error error => (.error error, rolledBack)
      | .ok delta =>
        -- the source saturates this sum at `usize::MAX`, far above every bound
        let candidateSize := min (serializedSize + delta) (2 ^ 64 - 1)
        if maximumStateBytes < candidateSize then (.ok outcomes, rolledBack)
        else addTemplates json maximumStateBytes supply s' candidateSize (draws + 1)
          (outcomes ++ [outcome]) rest

def ensureApplicationGroupTemplatesWithSizeLimit (json : Serializer) (s : State)
    (maximumNew maximumStateBytes : ℕ) (supply : Supply) :
    Except CoreError (List LearnOutcome) × State :=
  let known := s.rules.values.filterMap ApplicationTemplateKey.fromTemplate
  let selectors := (s.rules.values.filter isLearnedOutbound).filterMap (·.spec.application)
  let groups := newGroups known
    (selectors.filterMap fun selector => (ApplicationTemplateKey.fromSelector selector).toOption)
  let maximumNew := min (min maximumNew (MAX_RULES - s.rules.size))
    (MAX_AUTOMATIC_LEARNED_RULES - s.automaticCount)
  match boundedSerializedStateSize json s with
  | .error error => (.error error, s)
  | .ok serializedSize =>
    addTemplates json maximumStateBytes supply s serializedSize 0 [] (groups.take maximumNew)

def ensureApplicationGroupTemplates (json : Serializer) (s : State) (maximumNew : ℕ)
    (supply : Supply) : Except CoreError (List LearnOutcome) × State :=
  s.ensureApplicationGroupTemplatesWithSizeLimit json maximumNew MAX_STATE_BYTES supply

end State

end OpenShield
