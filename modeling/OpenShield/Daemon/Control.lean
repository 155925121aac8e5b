import OpenShield.Core.Operations

/-!
# Control requests

What a privileged client can ask for, and how a request turns the current policy into the
candidate that the engine then tries to commit. Nothing here touches the kernel or the disk: a
request that fails leaves no trace.

Identifiers, times and the executables found on disk come from outside. They are numbered by the
change they serve, because one request about a group makes several.
-/

namespace OpenShield

open Except (bind_eq_ok_iff bind_unit_eq_ok_iff)

/-! ### Errors -/

def MAX_ERROR_MESSAGE_BYTES : ℕ := 512

inductive ErrorCode
  | invalidRequest
  | unauthorized
  | notFound
  | conflict
  | backendUnavailable
  | internal
  deriving DecidableEq, Repr

/-- The printable beginning of a message; `used` bytes are taken already. -/
def sanitizedCharacters : ℕ → List Char → List Char
  | _, [] => []
  | used, character :: rest =>
    if Text.isControl character || Text.isDirectional character then
      sanitizedCharacters used rest
    else if MAX_ERROR_MESSAGE_BYTES < used + character.utf8Size then []
    else character :: sanitizedCharacters (used + character.utf8Size) rest

def sanitizeErrorMessage (message : String) : String :=
  match sanitizedCharacters 0 message.toList with
  | [] => "unspecified error"
  | characters => String.ofList characters

structure ProtocolError where
  code : ErrorCode
  message : String
  deriving DecidableEq, Repr

def ProtocolError.new (code : ErrorCode) (message : String) : ProtocolError :=
  { code, message := sanitizeErrorMessage message }

def CoreError.code : CoreError → ErrorCode
  | .validation _ => .invalidRequest
  | .ruleNotFound _ => .notFound
  | .duplicateRuleId _ | .rulesLimitReached _ | .stateSizeLimitReached _ | .revisionOverflow
  | .flowGenerationExhausted => .conflict
  | .invalidFlowGeneration | .invalidObserverRedaction | .stateSerialization _
  | .mismatchedRuleId .. => .internal
  | .redactedApplicationMetadata | .unpinnedApplicationIdentity => .invalidRequest

def coreProtocolError (error : CoreError) : ProtocolError := .new error.code error.message

def liftCore {α : Type} : Except CoreError α → Except ProtocolError α
  | .ok value => .ok value
  | .error error => .error (coreProtocolError error)

def liftInvalidRequest {α : Type} : Except String α → Except ProtocolError α
  | .ok value => .ok value
  | .error message => .error (.new .invalidRequest message)

/-! ### Requests -/

inductive OutboundGroupSelector
  | cgroup (cgroup : CgroupPath) (executable : Option ApplicationPath)
  | executable (executable : ApplicationPath)
  | destination (peerNetwork : Option IpNet)
  deriving DecidableEq

def OutboundGroupSelector.matchesRule (group : OutboundGroupSelector) (rule : Rule) : Bool :=
  let application := rule.spec.application.filter fun application => !application.metadataRedacted
  decide (rule.spec.direction = .outbound) &&
    match group with
    | .cgroup root only => application.any fun application =>
        decide (application.cgroup = some root) && only.all fun path =>
          decide (application.executable = some path)
    | .executable path => application.any fun application =>
        application.cgroup.isNone && decide (application.executable = some path)
    | .destination network =>
        (application.all fun application =>
          application.cgroup.isNone && application.executable.isNone) &&
            decide (rule.spec.peerNetwork.map IpNet.trunc = network.map IpNet.trunc)

inductive OutboundGroupAction
  | delete
  | accept
  | reject
  | drop
  | enable
  | disable
  deriving DecidableEq, Repr

/-- Requests of a privileged client. Each names the revision it was made for. -/
inductive ControlRequest
  | setMode (expectedRevision : BitVec 64) (mode : Mode)
  | setEnforcement (expectedRevision : BitVec 64) (strategy : EnforcementStrategy)
  | createRule (expectedRevision : BitVec 64) (rule : RuleSpec)
  | updateRule (expectedRevision : BitVec 64) (id : Uuid) (rule : RuleSpec)
  | deleteRule (expectedRevision : BitVec 64) (id : Uuid)
  | setRuleEnabled (expectedRevision : BitVec 64) (id : Uuid) (enabled : Bool)
  | manageOutboundGroup (expectedRevision : BitVec 64) (group : OutboundGroupSelector)
      (action : OutboundGroupAction)
  deriving DecidableEq

def ControlRequest.expectedRevision : ControlRequest → BitVec 64
  | setMode revision _ | setEnforcement revision _ | createRule revision _
  | updateRule revision _ _ | deleteRule revision _ | setRuleEnabled revision _ _
  | manageOutboundGroup revision _ _ => revision

/-- The answer to a request that was carried out. -/
structure Ack where
  revision : BitVec 64
  affectedRule : Option Rule
  deriving DecidableEq

/-- What the outside contributes to a request. -/
structure ControlInput where
  draw : Supply
  /-- The canonical path and the version of an executable at the `n`-th change; the error is the
  message of a failed inspection. -/
  executable : ℕ → ApplicationPath → Except String (ApplicationPath × ExecutableFileId)

/-! ### Candidates -/

def pinRuleApplication
    (executable : ApplicationPath → Except String (ApplicationPath × ExecutableFileId))
    (spec : RuleSpec) : Except String RuleSpec :=
  match spec.application with
  | none => .ok spec
  | some selector =>
    match selector.executable with
    | none => .error "application selector has no executable path"
    | some path => do
      let (canonical, actual) ← executable path
      ensure (selector.executableFile.all fun expected => decide (expected = actual))
        "supplied executable version does not match the opened path"
      let pinned : RuleSpec :=
        { spec with
          application := some
            { selector with executable := some canonical, executableFile := some actual } }
      match pinned.validate with
      | .ok () => return pinned
      | .error error => throw error.message

def needsPinToEnable (rule : Rule) : Bool :=
  decide (rule.spec.origin = .template) ||
    rule.spec.application.any fun selector => selector.executableFile.isNone

def OutboundGroupAction.ruleAction : OutboundGroupAction → RuleAction
  | .reject => .reject
  | .drop => .drop
  | _ => .accept

def missingRule (id : Uuid) : ProtocolError :=
  .new .notFound ("rule " ++ Uuid.display id ++ " does not exist")

section Candidate

variable (input : ControlInput) (n : ℕ) (candidate : State)

def applyCreateRule (rule : RuleSpec) :
    Except ProtocolError (State × List Event × Option Rule) := do
  ensure (rule.origin = .manual) (.new .invalidRequest
    "only the daemon may create rules marked as learned or template")
  let rule ← liftInvalidRequest (pinRuleApplication (input.executable n) rule)
  let (candidate, created, event) ←
    liftCore (candidate.createRuleAt (input.draw n).1 rule (input.draw n).2)
  return (candidate, [event], some created)

def applyUpdateRule (id : Uuid) (rule : RuleSpec) :
    Except ProtocolError (State × List Event × Option Rule) :=
  match candidate.rules.get? id with
  | none => .error (missingRule id)
  | some current => do
    ensure (current.spec.origin = rule.origin) (.new .invalidRequest
      "a rule's origin cannot be changed")
    -- pinned before it reaches the state, which takes the pin of a skeleton off again
    let rule ← liftInvalidRequest (pinRuleApplication (input.executable n) rule)
    let (candidate, updated, event) ← liftCore (candidate.updateRuleAt id rule (input.draw n).2)
    return (candidate, [event], some updated)

def applySetRuleEnabled (id : Uuid) (enabled : Bool) :
    Except ProtocolError (State × List Event × Option Rule) :=
  match candidate.rules.get? id with
  | none => .error (missingRule id)
  | some current =>
    if enabled && needsPinToEnable current then do
      let spec ← liftInvalidRequest (pinRuleApplication (input.executable n) current.spec)
      let (candidate, updated, event) ←
        liftCore (candidate.updateRuleAt id { spec with enabled := true } (input.draw n).2)
      return (candidate, [event], some updated)
    else do
      let (candidate, updated, event) ←
        liftCore (candidate.setRuleEnabledAt id enabled (input.draw n).2)
      return (candidate, [event], some updated)

/-- The specification of a rule with another verdict. An existing pin survives; a rule that
starts to deny needs one. -/
def specForVerdict (spec : RuleSpec) (action : RuleAction) : Except ProtocolError RuleSpec :=
  if action ≠ .accept ∧ spec.application.any (fun selector => selector.executableFile.isNone) then
    liftInvalidRequest (pinRuleApplication (input.executable n) { spec with action })
  else .ok { spec with action }

def applyGroupVerdict (member : Rule) (action : RuleAction) :
    Except ProtocolError (State × List Event × Option Rule) := do
  let spec ← specForVerdict input n member.spec action
  let (candidate, updated, event) ←
    liftCore (candidate.updateRuleAt member.id spec (input.draw n).2)
  return (candidate, [event], some updated)

def applyGroupMember (member : Rule) (action : OutboundGroupAction) :
    Except ProtocolError (State × List Event × Option Rule) :=
  match action with
  | .delete => do
    let (candidate, deleted, event) ←
      liftCore (candidate.deleteRuleAt member.id (input.draw n).2)
    return (candidate, [event], some deleted)
  | .accept | .reject | .drop => applyGroupVerdict input n candidate member action.ruleAction
  | .enable => applySetRuleEnabled input n candidate member.id true
  | .disable => applySetRuleEnabled input n candidate member.id false

end Candidate

def applyGroupMembers (input : ControlInput) (action : OutboundGroupAction) :
    ℕ → State → List Event → List Rule → Except ProtocolError (State × List Event)
  | _, candidate, events, [] => .ok (candidate, events)
  | n, candidate, events, member :: rest => do
    let (candidate, changed, _) ← applyGroupMember input n candidate member action
    applyGroupMembers input action (n + 1) candidate (events ++ changed) rest

/-- Change a whole group. Its members are those of the state that the request was made for. -/
def applyOutboundGroupToCandidate (input : ControlInput) (candidate : State)
    (group : OutboundGroupSelector) (action : OutboundGroupAction) :
    Except ProtocolError (State × List Event) := do
  let members := candidate.rules.values.filter group.matchesRule
  ensure (members ≠ []) (.new .notFound
    "outbound group has no matching rules; reload before retrying")
  applyGroupMembers input action 0 candidate [] members

def applyControlToCandidate (input : ControlInput) (candidate : State) :
    ControlRequest → Except ProtocolError (State × List Event × Option Rule)
  | .setEnforcement _ strategy => do
    let (candidate, event) ← liftCore (candidate.enforce strategy (input.draw 0).2)
    return (candidate, [event], none)
  | .setMode _ mode => do
    let (candidate, event) ← liftCore (candidate.setModeAt mode (input.draw 0).2)
    return (candidate, [event], none)
  | .createRule _ rule => applyCreateRule input 0 candidate rule
  | .updateRule _ id rule => applyUpdateRule input 0 candidate id rule
  | .deleteRule _ id => do
    let (candidate, deleted, event) ← liftCore (candidate.deleteRuleAt id (input.draw 0).2)
    return (candidate, [event], some deleted)
  | .setRuleEnabled _ id enabled => applySetRuleEnabled input 0 candidate id enabled
  | .manageOutboundGroup _ group action => do
    let (candidate, events) ← applyOutboundGroupToCandidate input candidate group action
    return (candidate, events, none)

/-! ### Candidates are reached by numbered changes -/

theorem liftCore_eq_ok_iff {α : Type} {x : Except CoreError α} {a : α} :
    liftCore x = .ok a ↔ x = .ok a := by
  cases x <;> simp [liftCore]

section Changes

variable {input : ControlInput} {n : ℕ} {s t : State} {events : List Event}
  {affected : Option Rule}

theorem applyCreateRule_changes {rule : RuleSpec}
    (h : applyCreateRule input n s rule = .ok (t, events, affected)) : s.Changes events t := by
  unfold applyCreateRule at h
  obtain ⟨-, h⟩ := bind_unit_eq_ok_iff.mp h
  obtain ⟨_, -, h⟩ := bind_eq_ok_iff.mp h
  obtain ⟨⟨t, created, event⟩, hcreate, h⟩ := bind_eq_ok_iff.mp h
  cases h
  exact State.createRuleAt_changes (liftCore_eq_ok_iff.mp hcreate)

theorem applyUpdateRule_changes {id : Uuid} {rule : RuleSpec}
    (h : applyUpdateRule input n s id rule = .ok (t, events, affected)) : s.Changes events t := by
  unfold applyUpdateRule at h
  split at h
  · cases h
  · obtain ⟨-, h⟩ := bind_unit_eq_ok_iff.mp h
    obtain ⟨_, -, h⟩ := bind_eq_ok_iff.mp h
    obtain ⟨⟨t, updated, event⟩, hupdate, h⟩ := bind_eq_ok_iff.mp h
    cases h
    exact State.updateRuleAt_changes (liftCore_eq_ok_iff.mp hupdate)

theorem applySetRuleEnabled_changes {id : Uuid} {enabled : Bool}
    (h : applySetRuleEnabled input n s id enabled = .ok (t, events, affected)) :
    s.Changes events t := by
  unfold applySetRuleEnabled at h
  split at h
  · cases h
  · split_ifs at h
    · obtain ⟨_, -, h⟩ := bind_eq_ok_iff.mp h
      obtain ⟨⟨t, updated, event⟩, hupdate, h⟩ := bind_eq_ok_iff.mp h
      cases h
      exact State.updateRuleAt_changes (liftCore_eq_ok_iff.mp hupdate)
    · obtain ⟨⟨t, updated, event⟩, hswitch, h⟩ := bind_eq_ok_iff.mp h
      cases h
      exact State.setRuleEnabledAt_changes (liftCore_eq_ok_iff.mp hswitch)

theorem applyGroupVerdict_changes {member : Rule} {action : RuleAction}
    (h : applyGroupVerdict input n s member action = .ok (t, events, affected)) :
    s.Changes events t := by
  unfold applyGroupVerdict at h
  obtain ⟨_, -, h⟩ := bind_eq_ok_iff.mp h
  obtain ⟨⟨t, updated, event⟩, hupdate, h⟩ := bind_eq_ok_iff.mp h
  cases h
  exact State.updateRuleAt_changes (liftCore_eq_ok_iff.mp hupdate)

theorem applyGroupMember_changes {member : Rule} {action : OutboundGroupAction}
    (h : applyGroupMember input n s member action = .ok (t, events, affected)) :
    s.Changes events t := by
  cases action with
  | delete =>
    obtain ⟨⟨t, deleted, event⟩, hdelete, h⟩ := bind_eq_ok_iff.mp h
    cases h
    exact State.deleteRuleAt_changes (liftCore_eq_ok_iff.mp hdelete)
  | accept | reject | drop => exact applyGroupVerdict_changes h
  | enable | disable => exact applySetRuleEnabled_changes h

theorem applyGroupMembers_changes {s₀ : State} {action : OutboundGroupAction}
    {members : List Rule} {events' : List Event} (hs : s₀.Changes events s)
    (h : applyGroupMembers input action n s events members = .ok (t, events')) :
    s₀.Changes events' t := by
  induction members generalizing n s events with
  | nil =>
    cases h
    exact hs
  | cons member rest ih =>
    obtain ⟨⟨s', changed, affected⟩, hmember, h⟩ := bind_eq_ok_iff.mp h
    exact ih (hs.trans (applyGroupMember_changes hmember)) h

theorem applyControlToCandidate_changes {request : ControlRequest}
    (h : applyControlToCandidate input s request = .ok (t, events, affected)) :
    s.Changes events t := by
  cases request with
  | setMode _ mode =>
    obtain ⟨⟨t, event⟩, hset, h⟩ := bind_eq_ok_iff.mp h
    cases h
    exact State.setModeAt_changes (liftCore_eq_ok_iff.mp hset)
  | setEnforcement _ strategy =>
    obtain ⟨⟨t, event⟩, hset, h⟩ := bind_eq_ok_iff.mp h
    cases h
    exact State.enforce_changes (liftCore_eq_ok_iff.mp hset)
  | createRule _ rule => exact applyCreateRule_changes h
  | updateRule _ id rule => exact applyUpdateRule_changes h
  | deleteRule _ id =>
    obtain ⟨⟨t, deleted, event⟩, hdelete, h⟩ := bind_eq_ok_iff.mp h
    cases h
    exact State.deleteRuleAt_changes (liftCore_eq_ok_iff.mp hdelete)
  | setRuleEnabled _ id enabled => exact applySetRuleEnabled_changes h
  | manageOutboundGroup _ group action =>
    obtain ⟨⟨t, events⟩, hgroup, h⟩ := bind_eq_ok_iff.mp h
    cases h
    obtain ⟨-, hgroup⟩ := bind_unit_eq_ok_iff.mp hgroup
    exact applyGroupMembers_changes .refl hgroup

end Changes

end OpenShield
