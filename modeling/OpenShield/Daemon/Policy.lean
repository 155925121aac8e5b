import OpenShield.Core.Marks

/-!
# The application decision policy

The immutable view of a policy that decides queued packets: application rules indexed by the
executable they are pinned to, and the network accepts that serve as fallback.
-/

namespace OpenShield

structure OutboundConnection where
  sourceAddress : IpAddr
  sourcePort : Option (BitVec 16)
  destinationAddress : IpAddr
  destinationPort : Option (BitVec 16)
  protocol : TransportProtocol
  outputInterface : InterfaceName
  socketUid : BitVec 32
  deriving DecidableEq

/-- Check the tuple of a connection; the error is the message. -/
def OutboundConnection.validate (connection : OutboundConnection) : Except String Unit := do
  ensure (connection.sourceAddress.family = connection.destinationAddress.family)
    "connection address families differ"
  match connection.protocol with
  | .tcp | .udp =>
    ensure (connection.sourcePort.any (fun port => decide (port ≠ 0)) ∧
        connection.destinationPort.any (fun port => decide (port ≠ 0)))
      "transport connection has missing or reserved ports"
  | .icmp =>
    ensure (connection.sourceAddress.family = .ipv4 ∧ connection.sourcePort.isSome ∧
      connection.destinationPort = none) "invalid ICMP echo connection tuple"
  | .icmpV6 =>
    ensure (connection.sourceAddress.family = .ipv6 ∧ connection.sourcePort.isSome ∧
      connection.destinationPort = none) "invalid ICMPv6 echo connection tuple"
  | .any => throw "untyped outbound connection cannot be attributed"

def outboundNetworkSelectorsMatch (rule : Rule) (connection : OutboundConnection) : Bool :=
  rule.spec.enabled && decide (rule.spec.direction = .outbound) &&
    (decide (rule.spec.protocol = .any) || decide (rule.spec.protocol = connection.protocol)) &&
    rule.spec.peerNetwork.all (fun network => network.contains connection.destinationAddress) &&
    rule.spec.port.all (fun range => connection.destinationPort.any fun port =>
      decide (range.start ≤ port) && decide (port ≤ range.stop)) &&
    rule.spec.interface.all fun interface => decide (interface = connection.outputInterface)

def outboundNetworkRuleMatches (rule : Rule) (connection : OutboundConnection) : Bool :=
  rule.spec.application.isNone && decide (rule.spec.action = .accept) &&
    outboundNetworkSelectorsMatch rule connection

def applicationRuleNetworkAndUidMatches (rule : Rule) (connection : OutboundConnection) : Bool :=
  outboundNetworkSelectorsMatch rule connection &&
    rule.spec.application.any fun selector =>
      selector.uid.all fun expected => decide (expected = connection.socketUid)

def applicationRuleMatches (rule : Rule) (connection : OutboundConnection)
    (identity : ApplicationIdentity) : Bool :=
  applicationRuleNetworkAndUidMatches rule connection &&
    rule.spec.application.any fun selector => selector.matches identity

def fastLearnedAcceptRuleMatches (rule : Rule) (connection : OutboundConnection)
    (identity : ApplicationIdentity) : Bool :=
  decide (rule.spec.origin = .learned) && decide (rule.spec.action = .accept) &&
    applicationRuleNetworkAndUidMatches rule connection &&
    rule.spec.application.any fun selector =>
      !selector.metadataRedacted &&
        selector.executable.any (fun expected => decide (expected = identity.executable)) &&
        selector.executableFile.any
          (fun expected => decide (expected = identity.executableFile)) &&
        selector.uid.any fun expected => decide (expected = identity.uid)

/-- Optional process fields that a decision needs. -/
structure IdentityCaptureRequirements where
  commandLine : Bool
  cgroups : Bool
  deriving DecidableEq

def IdentityCaptureRequirements.minimal : IdentityCaptureRequirements := ⟨false, false⟩

structure ApplicationDecisionPolicy where
  enforcementStrategy : EnforcementStrategy
  snapshot : Snapshot
  rulesByExecutable : List (ExecutableFileId × ℕ)
  networkAcceptRules : List ℕ
  deriving DecidableEq

namespace ApplicationDecisionPolicy

def pinnedFile? (rule : Rule) : Option ExecutableFileId :=
  rule.spec.application.bind (·.executableFile)

def isNetworkAccept (rule : Rule) : Bool :=
  rule.spec.application.isNone && rule.spec.enabled &&
    decide (rule.spec.direction = .outbound) && decide (rule.spec.action = .accept)

def new (snapshot : Snapshot) : ApplicationDecisionPolicy :=
  { enforcementStrategy := .strict
    snapshot
    -- an unpinned application rule is left out of the index
    rulesByExecutable := snapshot.rules.zipIdx.filterMap fun entry =>
      (pinnedFile? entry.1).map fun file => (file, entry.2)
    networkAcceptRules := snapshot.rules.zipIdx.filterMap fun entry =>
      if isNetworkAccept entry.1 then some entry.2 else none }

def withEnforcementStrategy (policy : ApplicationDecisionPolicy)
    (strategy : EnforcementStrategy) : ApplicationDecisionPolicy :=
  { policy with enforcementStrategy := strategy }

def candidates (policy : ApplicationDecisionPolicy) (file : ExecutableFileId) : List Rule :=
  (policy.rulesByExecutable.filter fun entry => decide (entry.1 = file)).filterMap
    fun entry => policy.snapshot.rules[entry.2]?

def matchingNetworkAccept (policy : ApplicationDecisionPolicy)
    (connection : OutboundConnection) : Option Rule :=
  ((policy.networkAcceptRules.filterMap fun index => policy.snapshot.rules[index]?).filter
    fun rule => outboundNetworkRuleMatches rule connection).argmin Rule.id

/-- The rule that decides a connection of a known process in `enforcing`. -/
def matchingRule (policy : ApplicationDecisionPolicy) (connection : OutboundConnection)
    (identity : ApplicationIdentity) : Option Rule :=
  let candidates := policy.candidates identity.executableFile
  let applicationMatch := (candidates.filter fun rule =>
    applicationRuleMatches rule connection identity).argmin decisionKey
  let fastMatch :=
    if policy.enforcementStrategy = .fast then
      (candidates.filter fun rule =>
        fastLearnedAcceptRuleMatches rule connection identity).argmin Rule.id
    else none
  applicationMatch <|> fastMatch <|> policy.matchingNetworkAccept connection

def matchingDenyRule (policy : ApplicationDecisionPolicy) (connection : OutboundConnection)
    (identity : ApplicationIdentity) : Option Rule :=
  (((policy.candidates identity.executableFile).filter fun rule =>
      decide (rule.spec.action = .drop ∨ rule.spec.action = .reject)).filter fun rule =>
    applicationRuleMatches rule connection identity).argmin decisionKey

/-- The process fields that rules of a list need; `none` when the list is empty. -/
def captureRequirements (needsDetails : Rule → Bool) (rules : List Rule) :
    Option IdentityCaptureRequirements :=
  if rules.isEmpty then none
  else
    let selectors := (rules.filter needsDetails).filterMap (·.spec.application)
    some ⟨selectors.any (·.commandLine.isSome), selectors.any (·.cgroup.isSome)⟩

/-- What has to be known about a process in `enforcing`; `none` when no application rule can
match. Learned accepts of the fast strategy need no details. -/
def enforcementCaptureRequirements (policy : ApplicationDecisionPolicy)
    (connection : OutboundConnection) : Option IdentityCaptureRequirements :=
  captureRequirements
    (fun rule => !(decide (policy.enforcementStrategy = .fast) &&
      decide (rule.spec.origin = .learned) && decide (rule.spec.action = .accept)))
    (policy.snapshot.rules.filter fun rule =>
      applicationRuleNetworkAndUidMatches rule connection)

/-- What has to be known about a process in `learning`; `none` when no application deny can
match. -/
def denyCaptureRequirements (policy : ApplicationDecisionPolicy)
    (connection : OutboundConnection) : Option IdentityCaptureRequirements :=
  captureRequirements (fun _ => true)
    (policy.snapshot.rules.filter fun rule =>
      decide (rule.spec.action = .drop ∨ rule.spec.action = .reject) &&
        applicationRuleNetworkAndUidMatches rule connection)

end ApplicationDecisionPolicy

def retainedForDecision (mode : Mode) (rule : Rule) : Bool :=
  match mode with
  | .enforcing => rule.spec.enabled && (rule.spec.application.isSome ||
      (decide (rule.spec.direction = .outbound) && decide (rule.spec.action = .accept)))
  | .learning => rule.spec.enabled && decide (rule.spec.direction = .outbound) &&
      rule.spec.application.isSome &&
      decide (rule.spec.action = .drop ∨ rule.spec.action = .reject)
  | .blockAll => false

def buildApplicationDecisionPolicy (snapshot : Snapshot) (strategy : EnforcementStrategy) :
    ApplicationDecisionPolicy :=
  (ApplicationDecisionPolicy.new
    { snapshot with rules := snapshot.rules.filter (retainedForDecision snapshot.mode) })
    |>.withEnforcementStrategy (if snapshot.mode = .enforcing then strategy else .strict)

def State.applicationPolicy (s : State) : ApplicationDecisionPolicy :=
  buildApplicationDecisionPolicy s.snapshot s.enforcementStrategy

namespace ApplicationDecisionPolicy

private theorem filterMap_zipIdx_getElem? {α β : Type} (l : List α) (f : α → Option β) :
    l.zipIdx.filterMap (fun entry => (f entry.1).bind fun _ => l[entry.2]?) =
      l.filter fun x => (f x).isSome := by
  have hcongr : ∀ entry ∈ l.zipIdx,
      ((f entry.1).bind fun _ => l[entry.2]?) = (f entry.1).bind fun _ => some entry.1 := by
    rintro ⟨x, i⟩ hentry
    have hget : l[i]? = some x := by simpa using List.mem_zipIdx_iff_getElem?.mp hentry
    simp [hget]
  rw [List.filterMap_congr hcongr]
  have hfst : (fun entry : α × ℕ => (f entry.1).bind fun _ => some entry.1) =
      (fun x => (f x).bind fun _ => some x) ∘ Prod.fst := rfl
  rw [hfst, ← List.filterMap_map, List.zipIdx_map_fst, ← List.filterMap_eq_filter]
  congr 1
  funext x
  cases hx : f x <;> simp [Option.guard, hx]

theorem candidates_eq (snapshot : Snapshot) (strategy : EnforcementStrategy)
    (file : ExecutableFileId) :
    ((new snapshot).withEnforcementStrategy strategy).candidates file =
      snapshot.rules.filter fun rule => decide (pinnedFile? rule = some file) := by
  simp only [candidates, withEnforcementStrategy, new, List.filterMap_filter,
    List.filterMap_filterMap]
  have hfun : (fun entry : Rule × ℕ => (Option.map (fun file' => (file', entry.2))
        (pinnedFile? entry.1)).bind fun indexed =>
          if decide (indexed.1 = file) = true then snapshot.rules[indexed.2]? else none) =
      fun entry => (if pinnedFile? entry.1 = some file then some () else none).bind
        fun _ => snapshot.rules[entry.2]? := by
    funext entry
    cases hpin : pinnedFile? entry.1 with
    | none => simp
    | some other => by_cases h : other = file <;> simp [h]
  rw [hfun, filterMap_zipIdx_getElem? snapshot.rules
    fun rule => if pinnedFile? rule = some file then some () else none]
  congr 1
  funext rule
  by_cases h : pinnedFile? rule = some file <;> simp [h]

theorem networkAccepts_eq (snapshot : Snapshot) (strategy : EnforcementStrategy) :
    (((new snapshot).withEnforcementStrategy strategy).networkAcceptRules.filterMap
      fun index => snapshot.rules[index]?) = snapshot.rules.filter isNetworkAccept := by
  simp only [withEnforcementStrategy, new, List.filterMap_filterMap]
  have hfun : (fun entry : Rule × ℕ => (if isNetworkAccept entry.1 = true then some entry.2
        else none).bind fun index => snapshot.rules[index]?) =
      fun entry => (if isNetworkAccept entry.1 = true then some () else none).bind
        fun _ => snapshot.rules[entry.2]? := by
    funext entry
    split <;> rfl
  rw [hfun, filterMap_zipIdx_getElem? snapshot.rules
    fun rule => if isNetworkAccept rule = true then some () else none]
  congr 1
  funext rule
  cases isNetworkAccept rule <;> simp

end ApplicationDecisionPolicy

end OpenShield
