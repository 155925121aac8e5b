import OpenShield.Core.Admission
import OpenShield.Daemon.Control
import OpenShield.Daemon.Policy
import OpenShield.Daemon.World

/-!
# The policy engine

The engine holds the policy in memory and keeps kernel and file in step with it. A request is
committed to the kernel first and to the file second, and undone in the same order. When an undo
fails too, the engine blocks everything, writes that down and refuses all further requests.

Learning commits in two phases. `prepareApplicationLearning` reserves the next write under the
engine lock, the worker writes without the lock, and `finalizeApplicationLearning` publishes the
result. Only `blockAll` is accepted in between.

The counters of the packet queues, the observers' cached counters and the index of endpoints
that are known already do not take part in any of this and are left out.
-/

namespace OpenShield

def MAX_LEARNED_RULES_PER_POLL : ℕ := 256

/-- Whether the policy of the state has been installed since the start. -/
inductive StartupPolicy
  | pending
  | active
  deriving DecidableEq, Repr

inductive LearningPersistence
  | active
  /-- A transaction has been prepared and not been finalized. -/
  | inFlight (token : BitVec 64)
  | paused
  deriving DecidableEq, Repr

inductive LearningQueueAdmission
  | alreadyKnown
  | saturated
  | persistencePaused
  | enqueue
  deriving DecidableEq, Repr

structure Engine where
  state : State
  learningLimits : LearningLimits
  applicationPolicy : ApplicationDecisionPolicy
  applicationLearningAdmission : ApplicationLearningAdmissionIndex
  pendingApplicationLearningAdmission : Option ApplicationLearningAdmissionIndex
  pendingApplicationLearningCandidate : Option State
  pendingApplicationLearningEvents : List Event
  /-- All further changes are refused. -/
  poisoned : Bool
  /-- The kernel policy is unknown. -/
  fatal : Bool
  restartRequired : Bool
  startupPolicy : StartupPolicy
  learningPersistence : LearningPersistence
  nextLearningTransaction : BitVec 64
  supersededLearningTransaction : Option (BitVec 64)

/-! ### Errors -/

def fatalProtocolError : ProtocolError :=
  .new .backendUnavailable
    "kernel policy state is unknown; daemon is terminating for service-manager recovery"

def restartProtocolError : ProtocolError :=
  .new .backendUnavailable
    "firewall integrity repair failed; emergency BlockAll is active and the daemon is restarting"

namespace Engine

variable (e : Engine)

def emergencyProtocolError : ProtocolError :=
  if e.fatal then fatalProtocolError
  else if e.restartRequired then restartProtocolError
  else .new .backendUnavailable ("emergency BlockAll is active but could not be persisted; " ++
    "daemon is quarantined and requires storage repair")

/-! ### Reading -/

def applicationDecisionSnapshot : Except ProtocolError ApplicationDecisionPolicy :=
  if e.fatal || e.poisoned then .error e.emergencyProtocolError else .ok e.applicationPolicy

def applicationDecisionIdentity : Except ProtocolError (Mode × BitVec 32) :=
  if e.fatal || e.poisoned then .error e.emergencyProtocolError
  else .ok (e.state.mode, e.state.flowGeneration)

def queueAdmissionIndex : Except ProtocolError ApplicationLearningAdmissionIndex :=
  match e.learningPersistence with
  | .inFlight _ =>
    match e.pendingApplicationLearningAdmission with
    | some index => .ok index
    | none => .error (.new .internal
        "application learning transaction has no pending admission index")
  | .active | .paused => .ok e.applicationLearningAdmission

def applicationLearningQueueAdmission (expectedMode : Mode)
    (expectedFlowGeneration : BitVec 32) (endpoint : LearnedApplicationEndpoint) :
    Except ProtocolError LearningQueueAdmission :=
  if e.fatal || e.poisoned then .error e.emergencyProtocolError
  else if expectedMode ≠ .learning ∨ e.state.mode ≠ expectedMode ∨
      e.state.flowGeneration ≠ expectedFlowGeneration then
    .error (.new .conflict
      "policy changed while the application learning endpoint was attributed")
  else if e.applicationLearningAdmission.revision ≠ e.state.revision ∨
      e.applicationLearningAdmission.mode ≠ e.state.mode ∨
      e.applicationLearningAdmission.flowGeneration ≠ e.state.flowGeneration then
    .error (.new .internal "application learning admission cache is not current")
  else if e.learningPersistence = .paused then .ok .persistencePaused
  else do
    let admission ← e.queueAdmissionIndex
    match admission.classify endpoint with
    | .error error => .error (.new .invalidRequest error.message)
    | .ok .alreadyKnown => .ok .alreadyKnown
    | .ok .saturated => .ok .saturated
    | .ok .candidate => .ok .enqueue

/-! ### Replacing the state -/

def clearPendingApplicationLearning : Engine :=
  { e with
    pendingApplicationLearningAdmission := none
    pendingApplicationLearningCandidate := none
    pendingApplicationLearningEvents := [] }

def replaceState (state : State) : Engine :=
  { e with
    state
    applicationPolicy := state.applicationPolicy
    applicationLearningAdmission :=
      .fromState state e.learningLimits }.clearPendingApplicationLearning

end Engine

structure Runtime where
  engine : Engine
  world : World

/-- Rebuild a state from an immutable view; the strategy is not part of the view. -/
def State.fromSnapshot (json : Serializer) (snapshot : Snapshot) : Except CoreError State := do
  snapshot.validate
  let state : State :=
    { revision := snapshot.revision
      flowGeneration := snapshot.flowGeneration
      mode := snapshot.mode
      enforcementStrategy := .strict
      rules := snapshot.rules.foldl (fun rules rule => rules.insert rule.id rule)
        OrderedMap.empty }
  state.validate json
  return state

def maxRevision (a b : BitVec 64) : BitVec 64 := if a ≤ b then b else a

namespace Runtime

/-! ### Emergency -/

def retainedState (e : Engine) : State :=
  e.pendingApplicationLearningCandidate.getD e.state

def emergencySnapshot (retained : State) (revisionFloor : BitVec 64) : Snapshot :=
  { revision := saturatingSucc (maxRevision revisionFloor retained.revision)
    flowGeneration := retained.flowGeneration
    mode := .blockAll
    rules := retained.snapshot.rules }

variable (json : Serializer) (rt : Runtime)

def enterEmergencyFailClosed (revisionFloor : BitVec 64) :
    Runtime :=
  let retained := retainedState rt.engine
  let engine := { rt.engine with
    poisoned := true, learningPersistence := .paused, restartRequired := false }
  match rt.world.failClosed with
  | (true, world) =>
    match State.fromSnapshot json (emergencySnapshot retained revisionFloor) with
    | .ok failClosed =>
      let engine := engine.replaceState failClosed
      match world.clearCounterSnapshot.saveExclusive failClosed with
      | (true, world) => ⟨{ engine with restartRequired := true }, world⟩
      -- a restart could load something more permissive than what is installed now
      | (false, world) => ⟨engine, world⟩
    | .error _ => ⟨{ engine with fatal := true, restartRequired := true }, world⟩
  | (false, world) => ⟨{ engine with fatal := true, restartRequired := true }, world⟩

/-! ### Commits -/

/-- Undo a failed write: the kernel goes back first, then the file is judged and, unless it still
holds the previous state, written again. -/
def rollBack (w : World) (previous : State) : (Bool × Bool) × World :=
  match w.apply previous.snapshot with
  | (backend, w) =>
    match w.waitUntilExclusive.persistedStateAfterFailedSave previous with
    | (.previous, w) => ((backend, true), w)
    | (.candidateOrUnknown, w) =>
      match w.saveExclusive previous with
      | (storage, w) => ((backend, storage), w)

def commit (candidate : State) (events : List Event) :
    Except ProtocolError Unit × Runtime :=
  let previous := rt.engine.state
  let revisionFloor := maxRevision previous.revision candidate.revision
  match rt.world.apply candidate.snapshot with
  | (false, world) =>
    -- the policy may have been installed all the same
    match world.apply previous.snapshot with
    | (true, world) =>
      (.error (.new .backendUnavailable
        "firewall transaction failed; previous policy was reinstalled"),
        ⟨rt.engine, world.clearCounterSnapshot⟩)
    | (false, world) =>
      let rt := enterEmergencyFailClosed json ⟨rt.engine, world⟩ revisionFloor
      (.error rt.engine.emergencyProtocolError, rt)
  | (true, world) =>
    match world.saveExclusive candidate with
    | (false, world) =>
      match rollBack world previous with
      | ((true, true), world) =>
        (.error (.new .internal "state persistence failed; previous policy restored"),
          ⟨rt.engine, world⟩)
      | (_, world) =>
        let rt := enterEmergencyFailClosed json ⟨rt.engine, world⟩ revisionFloor
        (.error rt.engine.emergencyProtocolError, rt)
    | (true, world) =>
      (.ok (), ⟨{ rt.engine.replaceState candidate with learningPersistence := .active },
        world.clearCounterSnapshot.publishAll events⟩)

def saveTwice (w : World) (state : State) : Bool × World :=
  match w.saveExclusive state with
  | (true, w) => (true, w)
  | (false, w) => w.saveExclusive state

def blockedCandidate (pending : State) (now : Timestamp) :
    Except ProtocolError (State × Event) := do
  let (blocked, event) ← liftCore (pending.setModeAt .blockAll now)
  liftCore (blocked.validate json)
  return (blocked, event)

/-- Block everything while a learning transaction is in flight. The kernel goes first; the
transaction's own write is waited for and then superseded. -/
def commitBlockAllDuringLearning (token : BitVec 64)
    (now : Timestamp) : Except ProtocolError (BitVec 64) × Runtime :=
  match rt.engine.pendingApplicationLearningCandidate with
  | none =>
    (.error (.new .internal "application learning transaction has no pending candidate"), rt)
  | some pending =>
    match blockedCandidate json pending now with
    | .error error => (.error error, rt)
    | .ok (blocked, event) =>
      let pendingEvents := rt.engine.pendingApplicationLearningEvents
      match rt.world.failClosed with
      | (false, world) =>
        (.error fatalProtocolError,
          ⟨{ rt.engine with
              poisoned := true
              fatal := true
              restartRequired := true
              learningPersistence := .paused }, world⟩)
      | (true, world) =>
        let (persisted, world) := saveTwice world blocked
        let engine := { rt.engine.replaceState blocked with
          supersededLearningTransaction := some token }
        if persisted then
          (.ok blocked.revision,
            ⟨{ engine with learningPersistence := .active },
              (world.clearCounterSnapshot.publishAll pendingEvents).publish event⟩)
        else
          let engine := { engine with
            poisoned := true, learningPersistence := .paused, restartRequired := false }
          (.error engine.emergencyProtocolError, ⟨engine, world⟩)

def controlCandidate (input : ControlInput) (state : State)
    (request : ControlRequest) : Except ProtocolError (State × List Event × Option Rule) := do
  let (candidate, events, affectedRule) ← applyControlToCandidate input state request
  liftCore (candidate.validate json)
  return (candidate, events, affectedRule)

def commitRequest (input : ControlInput)
    (request : ControlRequest) : Except ProtocolError Ack × Runtime :=
  match controlCandidate json input rt.engine.state request with
  | .error error => (.error error, rt)
  | .ok (candidate, events, affectedRule) =>
    let (committed, rt) := commit json rt candidate events
    (committed.map fun _ => ⟨candidate.revision, affectedRule⟩, rt)

/-- A request while a learning transaction is in flight: only `blockAll` is accepted. -/
def requestDuringLearning (token : BitVec 64)
    (now : Timestamp) (request : ControlRequest) : Except ProtocolError Ack × Runtime :=
  match request with
  | .setMode _ .blockAll =>
    let (committed, rt) := commitBlockAllDuringLearning json rt token now
    (committed.map fun revision => ⟨revision, none⟩, rt)
  | _ =>
    (.error (.new .conflict
      "automatic learning is being persisted; retry the privileged change"), rt)

def handleControl (input : ControlInput)
    (request : ControlRequest) : Except ProtocolError Ack × Runtime :=
  if rt.engine.poisoned then
    (.error (.new .backendUnavailable "policy engine is locked after a failed rollback"), rt)
  else if request.expectedRevision ≠ rt.engine.state.revision then
    (.error (.new .conflict ("policy revision changed: expected " ++
      toString request.expectedRevision.toNat ++ ", current " ++
      toString rt.engine.state.revision.toNat ++ "; reload before retrying")), rt)
  else
    match rt.engine.learningPersistence with
    | .inFlight token => requestDuringLearning json rt token (input.draw 0).2 request
    | .active | .paused => commitRequest json rt input request

/-! ### Learning -/

def isLearnedCreation (rule : Rule) : Bool :=
  let learned := decide (rule.spec.origin = .learned) &&
    decide (rule.spec.direction = .outbound) && decide (rule.spec.action = .accept) &&
    rule.spec.enabled && rule.spec.application.isSome
  let template := decide (rule.spec.origin = .template) &&
    decide (rule.spec.direction = .outbound) && decide (rule.spec.action = .accept) &&
    decide (rule.spec.protocol = .any) && rule.spec.peerNetwork.isNone &&
    rule.spec.port.isNone && rule.spec.interface.isNone && !rule.spec.enabled &&
    rule.spec.application.any fun selector => selector.executable.isSome &&
      selector.executableFile.isNone && selector.commandLine.isNone && selector.uid.isNone &&
      !selector.metadataRedacted
  learned || template

/-- Check the events of a transaction; the result is the revision after the last one. -/
def checkLearningEvents (previous candidate : State) : BitVec 64 → List Event → Option (BitVec 64)
  | revision, [] => some revision
  | revision, event :: rest =>
    match checkedSucc revision, event.kind with
    | some next, .ruleCreated rule =>
      if event.revision ≠ next ∨ !isLearnedCreation rule ∨ (previous.rules.get? rule.id).isSome ∨
          candidate.rules.get? rule.id ≠ some rule then none
      else checkLearningEvents previous candidate next rest
    | _, _ => none

def validateApplicationLearningTransition (previous candidate : State) (events : List Event) :
    Bool :=
  decide (candidate.mode = .learning) &&
    decide (candidate.enforcementStrategy = previous.enforcementStrategy) &&
    decide (candidate.flowGeneration = previous.flowGeneration) &&
    decide (candidate.rules.size = previous.rules.size + events.length) &&
    (previous.rules.values.all fun rule => decide (candidate.rules.get? rule.id = some rule)) &&
    decide (checkLearningEvents previous candidate previous.revision events =
      some candidate.revision)

def reserveTransaction (candidate : State) (events : List Event) :
    Except ProtocolError (Option ApplicationLearningTransaction) × Runtime :=
  match checkedSucc rt.engine.nextLearningTransaction with
  | none =>
    (.error (.new .conflict "automatic-learning transaction counter is exhausted"), rt)
  | some token =>
    match rt.world.reserveLearning token with
    | none =>
      (.error (.new .conflict
        "another automatic-learning transaction is already being persisted"), rt)
    | some world =>
      (.ok (some { token, previous := rt.engine.state, candidate, events }),
        ⟨{ rt.engine with
            nextLearningTransaction := token
            pendingApplicationLearningAdmission :=
              some (.fromState candidate rt.engine.learningLimits)
            pendingApplicationLearningCandidate := some candidate
            pendingApplicationLearningEvents := events
            learningPersistence := .inFlight token }, world⟩)

def prepareApplicationLearning
    (expectedFlowGeneration : BitVec 32) (endpoints : List LearnedApplicationEndpoint)
    (supply : Supply) :
    Except ProtocolError (Option ApplicationLearningTransaction) × Runtime :=
  if rt.engine.poisoned ∨ rt.engine.learningPersistence ≠ .active ∨
      rt.engine.state.mode ≠ .learning ∨
      rt.engine.state.flowGeneration ≠ expectedFlowGeneration then
    (.ok none, rt)
  else
    let valid := (endpoints.take MAX_RULES).filter fun endpoint => endpoint.validate.toBool
    match rt.engine.state.learnNewApplicationEndpointsWithLimits valid
        MAX_LEARNED_RULES_PER_POLL rt.engine.learningLimits supply with
    | (.error error, _) => (.error (coreProtocolError error), rt)
    | (.ok outcomes, candidate) =>
      let events := outcomes.filterMap (·.event)
      if events = [] then (.ok none, rt)
      else
        match candidate.validate json with
        | .error (.stateSizeLimitReached _) =>
          (.ok none, ⟨{ rt.engine with learningPersistence := .paused }, rt.world⟩)
        | .error error => (.error (coreProtocolError error), rt)
        | .ok () =>
          if validateApplicationLearningTransition rt.engine.state candidate events then
            reserveTransaction rt candidate events
          else
            (.error (.new .internal "automatic learning produced an invalid policy transition"), rt)

def finalizeApplicationLearning
    (transaction : ApplicationLearningTransaction) (outcome : LearningStoreOutcome) :
    Except ProtocolError ℕ × Runtime :=
  if rt.engine.supersededLearningTransaction = some transaction.token then
    (.ok 0, ⟨{ rt.engine with supersededLearningTransaction := none }, rt.world⟩)
  else if rt.engine.fatal ∨ rt.engine.poisoned then
    (.error rt.engine.emergencyProtocolError, rt)
  else
    let revisionFloor := maxRevision rt.engine.state.revision transaction.candidate.revision
    if rt.engine.learningPersistence ≠ .inFlight transaction.token ∨
        rt.engine.state ≠ transaction.previous then
      let rt := enterEmergencyFailClosed json rt revisionFloor
      (.error rt.engine.emergencyProtocolError, rt)
    else
      match outcome with
      | .saved =>
        (.ok transaction.events.length,
          ⟨{ rt.engine.replaceState transaction.candidate with learningPersistence := .active },
            rt.world.clearCounterSnapshot.publishAll transaction.events⟩)
      | .previousRetained =>
        (.ok 0, ⟨{ rt.engine.clearPendingApplicationLearning with
          learningPersistence := .paused }, rt.world⟩)
      | .unsafeOutcome =>
        let rt := enterEmergencyFailClosed json rt revisionFloor
        (.error rt.engine.emergencyProtocolError, rt)

/-! ### Failures -/

def repairPolicy (expectedRevision : BitVec 64) :
    Except ProtocolError Bool × Runtime :=
  if rt.engine.poisoned then (.error rt.engine.emergencyProtocolError, rt)
  else if rt.engine.fatal then (.error fatalProtocolError, rt)
  else if rt.engine.restartRequired then (.error restartProtocolError, rt)
  else if rt.engine.state.revision ≠ expectedRevision then (.ok false, rt)
  else
    match rt.world.apply rt.engine.state.snapshot with
    | (true, world) => (.ok true, ⟨rt.engine, world.clearCounterSnapshot⟩)
    | (false, world) =>
      let rt := enterEmergencyFailClosed json ⟨rt.engine, world⟩ rt.engine.state.revision
      (.error rt.engine.emergencyProtocolError, rt)

def quarantineAfterRuntimeFailure : Runtime :=
  match rt.engine.startupPolicy with
  | .pending =>
    let engine := { rt.engine with poisoned := true, learningPersistence := .paused }
    match rt.world.failClosed with
    | (true, world) => ⟨engine, world⟩
    | (false, world) => ⟨{ engine with fatal := true }, world⟩
  | .active =>
    if rt.engine.poisoned ∨ rt.engine.fatal then rt
    else enterEmergencyFailClosed json rt rt.engine.state.revision

/-! ### How an engine comes to be -/

/-- Why a daemon does not start. A flag tells whether everything could be blocked again. -/
inductive StartupError
  | quarantineFailed
  | persistedStateInvalid (failClosed : Bool)
  | flowEpochsExhausted
  | templateMigration (error : CoreError)
  | initialPolicy (error : CoreError)
  | flowEpochNotPersisted (failClosed : Bool)
  | initialPolicyNotPersisted
  deriving DecidableEq

/-- The next flow generation for a new instance of the daemon: marks of an older instance may
still be around. -/
def rotateStartupFlowGeneration (s : State) : Except StartupError State :=
  match s.nextFlowGeneration with
  | .ok generation => .ok { s with flowGeneration := generation }
  | .error _ => .error .flowEpochsExhausted

def startupState (persisted : Option State) (now : Timestamp)
    (supply : Supply) : Except StartupError State :=
  match persisted with
  | some state =>
    match rotateStartupFlowGeneration state with
    | .error error => .error error
    | .ok state =>
      match state.ensureApplicationGroupTemplates json MAX_RULES supply with
      | (.ok _, state) => .ok state
      | (.error error, _) => .error (.templateMigration error)
  | none =>
    match State.new.setModeAt .learning now with
    | .ok (state, _) => rotateStartupFlowGeneration state
    | .error error => .error (.initialPolicy error)

def loadedEngine (state : State) (learningLimits : LearningLimits) : Engine :=
  { state
    learningLimits
    applicationPolicy := state.applicationPolicy
    applicationLearningAdmission := .fromState state learningLimits
    pendingApplicationLearningAdmission := none
    pendingApplicationLearningCandidate := none
    pendingApplicationLearningEvents := []
    poisoned := false
    fatal := false
    restartRequired := false
    startupPolicy := .pending
    learningPersistence := .active
    nextLearningTransaction := 0
    supersededLearningTransaction := none }

/-- Load the engine. Everything is blocked until its policy is activated. -/
def loadWithLearningLimits (world : World) (learningLimits : LearningLimits)
    (now : Timestamp) (supply : Supply) : Except StartupError Engine × World :=
  match world.failClosed with
  | (false, world) => (.error .quarantineFailed, world)
  | (true, world) =>
    match world.loadExclusive with
    | (none, world) =>
      let (failClosed, world) := world.failClosed
      (.error (.persistedStateInvalid failClosed), world)
    | (some persisted, world) =>
      match startupState json persisted now supply with
      | .error error => (.error error, world)
      | .ok state =>
        match world.saveExclusive state, persisted with
        | (true, world), _ => (.ok (loadedEngine state learningLimits), world)
        | (false, world), some _ =>
          let (failClosed, world) := world.failClosed
          (.error (.flowEpochNotPersisted failClosed), world)
        | (false, world), none => (.error .initialPolicyNotPersisted, world)

/-- Install the policy of the loaded state; everything is blocked again if that fails. -/
def activateStartupPolicy : Bool × Runtime :=
  match rt.engine.startupPolicy with
  | .active => (true, rt)
  | .pending =>
    match rt.world.apply rt.engine.state.snapshot with
    | (true, world) => (true, ⟨{ rt.engine with startupPolicy := .active }, world⟩)
    | (false, world) => (false, ⟨rt.engine, world.failClosed.2⟩)

end Runtime

end OpenShield
