import OpenShield.Daemon.Paging
import OpenShield.Verdict.Backend

/-!
# Observation sessions

An observer asks for the status of the daemon and then for the rules, page by page. The daemon
checks the order of the requests; the client checks every answer before it shows the policy.
-/

namespace OpenShield

/-! ### Runtime compatibility -/

namespace RuntimeCompatibility

def forPolicy (backend : FirewallBackendKind) (mode : Mode)
    (applicationInterception : ApplicationInterception) : RuntimeCompatibility :=
  match backend with
  | .unknown => ⟨.unknown, .unknown⟩
  | _ =>
    match mode, applicationInterception with
    | .blockAll, _ => ⟨.kernelNative, .blockAll⟩
    | .learning, _ => ⟨.nfqueue, .learning⟩
    | .enforcing, .none => ⟨.kernelNative, .networkOnly⟩
    | .enforcing, .tcpInitial => ⟨.conntrackHybrid, .applicationTcp⟩
    | .enforcing, .perPacket => ⟨.nfqueue, .applicationPerPacket⟩

def isConsistentWith (self : RuntimeCompatibility) (mode : Mode) (backend : FirewallBackendKind) :
    Bool :=
  match backend, mode, self.level, self.reason with
  | .nftables, .blockAll, .kernelNative, .blockAll
  | .nftables, .blockAll, .kernelNative, .emergencyBlockAll
  | .iptables, .blockAll, .kernelNative, .blockAll
  | .iptables, .blockAll, .kernelNative, .emergencyBlockAll
  | .nftables, .learning, .nfqueue, .learning
  | .iptables, .learning, .nfqueue, .learning
  | .nftables, .enforcing, .kernelNative, .networkOnly
  | .iptables, .enforcing, .kernelNative, .networkOnly
  | .nftables, .enforcing, .conntrackHybrid, .applicationTcp
  | .iptables, .enforcing, .conntrackHybrid, .applicationTcp
  | .nftables, .enforcing, .nfqueue, .applicationPerPacket
  | .iptables, .enforcing, .nfqueue, .applicationPerPacket
  | .unknown, _, .unknown, .unknown => true
  | _, _, _, _ => false

end RuntimeCompatibility

def Backend.kind : Backend → FirewallBackendKind
  | .nftables => .nftables
  | .iptables => .iptables

/-! ### The engine's answers -/

/-- A number as a machine integer; what does not fit is replaced by the largest one. -/
def u32Saturating (n : ℕ) : BitVec 32 :=
  if n < 2 ^ 32 then BitVec.ofNat 32 n else BitVec.allOnes 32

/-- How far the budgets of learning are used. -/
structure LearningQuotaSummary where
  automaticRules : ℕ
  saturatedUids : ℕ
  saturatedApplications : ℕ

/-- The keys that occur at least `limit` times, each counted once. -/
def saturatedKeys {κ : Type} [DecidableEq κ] (limit : ℕ) (keys : List κ) : ℕ :=
  keys.dedup.countP fun key => decide (limit ≤ keys.count key)

def State.learningSummary (s : State) (limits : LearningLimits) : LearningQuotaSummary :=
  let owners := s.rules.values.filterMap learnedOwner?
  { automaticRules := s.automaticCount
    saturatedUids := saturatedKeys limits.perUid (owners.map Prod.fst)
    saturatedApplications := saturatedKeys limits.perApplication owners }

/-- The daemon's side of an observation. -/
structure ObserveServer where
  codec : FrameCodec
  engine : Engine
  backend : Backend
  nfqueue : NfqueueCounters
  quotaSkippedObservations : BitVec 64
  /-- Set for observers other than root. -/
  redactSensitive : Bool

namespace ObserveServer

variable (server : ObserveServer)

def ruleCount : BitVec 32 := u32Saturating server.engine.state.rules.size

def learningStatus : LearningStatus :=
  let summary := server.engine.state.learningSummary server.engine.learningLimits
  { perUidLimit := u32Saturating server.engine.learningLimits.perUid
    perApplicationLimit := u32Saturating server.engine.learningLimits.perApplication
    automaticRuleLimit := u32Saturating MAX_AUTOMATIC_LEARNED_RULES
    totalRuleLimit := u32Saturating MAX_RULES
    automaticRules := u32Saturating summary.automaticRules
    saturatedUids := u32Saturating summary.saturatedUids
    saturatedApplications := u32Saturating summary.saturatedApplications
    quotaSkippedObservations := server.quotaSkippedObservations }

def runtimeCompatibility : RuntimeCompatibility :=
  if server.engine.poisoned && decide (server.engine.state.mode = .blockAll) then
    ⟨.kernelNative, .emergencyBlockAll⟩
  else
    .forPolicy server.backend.kind server.engine.state.mode
      (classifyApplicationInterception server.engine.state.mode server.engine.state.rules.values)

def statusResponse : Response :=
  if server.engine.fatal then .error fatalProtocolError
  else .status server.engine.state.revision server.engine.state.mode server.ruleCount
    server.backend.kind server.nfqueue

def statusV2Response : Response :=
  if server.engine.fatal then .error fatalProtocolError
  else .statusV2 server.engine.state.revision server.engine.state.mode server.ruleCount
    server.backend.kind server.nfqueue server.runtimeCompatibility

def statusV3Response : Response :=
  if server.engine.fatal then .error fatalProtocolError
  else .statusV3 server.engine.state.revision server.engine.state.mode server.ruleCount
    server.backend.kind server.nfqueue server.runtimeCompatibility server.learningStatus

def statusV4Response : Response :=
  if server.engine.fatal then .error fatalProtocolError
  else .statusV4 server.engine.state.revision server.engine.state.mode server.ruleCount
    server.backend.kind server.nfqueue server.runtimeCompatibility server.learningStatus
    server.engine.state.enforcementStrategy

end ObserveServer

/-! ### The daemon's side of a session -/

def MAX_OBSERVE_REQUESTS_PER_CONNECTION : ℕ := MAX_RULES + 2

inductive ReadRequest
  | status
  | statusV2
  | statusV3
  | statusV4
  | rulesPage (after : Option Uuid) (limit : BitVec 16)
  | subscribe (afterRevision : Option (BitVec 64))
  deriving DecidableEq

structure ObserveSession where
  requests : ℕ
  statusRequests : ℕ
  pagesStarted : Bool
  expectedAfter : Option Uuid
  pagesFinished : Bool
  deriving DecidableEq

def ObserveSession.new : ObserveSession :=
  { requests := 0, statusRequests := 0, pagesStarted := false, expectedAfter := none
    pagesFinished := false }

inductive SessionOutcome
  | answered (response : Response) (session : ObserveSession)
  | closed (response : Response)
  /-- The connection is closed without a response: it could not be written. -/
  | failed
  /-- The connection becomes an event stream. -/
  | subscribed (afterRevision : Option (BitVec 64))
  deriving DecidableEq

namespace ObserveServer

variable (server : ObserveServer)

/-- Write a response and go on. Only what fits a frame can be written. -/
def write (response : Response) (session : ObserveSession) : SessionOutcome :=
  if server.codec.fits response then .answered response session else .failed

def refuse (code : ErrorCode) (message : String) : SessionOutcome :=
  let response := Response.error (.new code message)
  if server.codec.fits response then .closed response else .failed

variable (session : ObserveSession)

def respondStatus (response : Response) : SessionOutcome :=
  if session.pagesStarted || decide (2 ≤ session.statusRequests) then
    server.refuse .invalidRequest
      "observation session permits at most two status reads before pagination"
  else
    server.write response { session with statusRequests := session.statusRequests + 1 }

def writeRulePage (after : Option Uuid) : SessionOutcome :=
  match rulePage server.codec server.engine after server.redactSensitive with
  | .rulesPage revision rules nextAfter =>
    server.write (.rulesPage revision rules nextAfter)
      { session with
        pagesStarted := true
        expectedAfter := nextAfter
        pagesFinished := nextAfter.isNone }
  | .error error => if server.codec.fits (.error error) then .closed (.error error) else .failed
  | _ => .failed

/-- Answer a request. Rate tokens and permits are granted. -/
def respond (request : ReadRequest) : SessionOutcome :=
  if session.requests = MAX_OBSERVE_REQUESTS_PER_CONNECTION then
    server.refuse .conflict "observation connection request limit reached"
  else
    let session := { session with requests := session.requests + 1 }
    match request with
    | .status => server.respondStatus session server.statusResponse
    | .statusV2 => server.respondStatus session server.statusV2Response
    | .statusV3 => server.respondStatus session server.statusV3Response
    | .statusV4 => server.respondStatus session server.statusV4Response
    | .rulesPage after _ =>
      let cursorIsValid :=
        if session.pagesStarted then
          !session.pagesFinished && decide (after = session.expectedAfter)
        else decide (session.statusRequests ≠ 0) && after.isNone
      if !cursorIsValid then
        server.refuse .invalidRequest
          "rule pages require status followed by one strictly advancing cursor"
      else server.writeRulePage session after
    | .subscribe afterRevision =>
      if decide (session.statusRequests ≠ 0) || session.pagesStarted then
        server.refuse .invalidRequest
          "event subscription must be the first request on its connection"
      else .subscribed afterRevision

end ObserveServer

/-! ### The client's side -/

inductive IpcError
  | rejected (code : ErrorCode) (message : String)
  | unexpected (message : String)
  | inconsistentPages
  | ruleCountMismatch (advertised received : ℕ)
  | invalidSnapshot (message : String)
  | connect
  | closed
  | generationExhausted
  deriving DecidableEq

inductive StatusProtocol
  | probeV4
  | v4
  | v3
  | v2
  | legacy
  deriving DecidableEq, Repr

structure PolicyStatus where
  revision : BitVec 64
  mode : Mode
  ruleCount : BitVec 32
  backend : FirewallBackendKind
  runtimeCompatibility : RuntimeCompatibility
  learning : Option LearningStatus
  enforcementStrategy : Option EnforcementStrategy
  deriving DecidableEq

def StatusProtocol.request : StatusProtocol → ReadRequest
  | .probeV4 | .v4 => .statusV4
  | .v3 => .statusV3
  | .v2 => .statusV2
  | .legacy => .status

def validatedV2PolicyStatus (revision : BitVec 64) (mode : Mode) (ruleCount : BitVec 32)
    (backend : FirewallBackendKind) (runtimeCompatibility : RuntimeCompatibility) :
    Except IpcError PolicyStatus := do
  ensure (runtimeCompatibility.isConsistentWith mode backend = true) (.invalidSnapshot
    "StatusV2 runtime compatibility is inconsistent with its mode or backend")
  return { revision, mode, ruleCount, backend, runtimeCompatibility, learning := none
           enforcementStrategy := none }

def validatedLearningPolicyStatus (status : PolicyStatus) (learning : LearningStatus)
    (enforcementStrategy : Option EnforcementStrategy) : Except IpcError PolicyStatus := do
  let maxRules := u32Saturating MAX_RULES
  let limits := [learning.perUidLimit, learning.perApplicationLimit, learning.automaticRuleLimit,
    learning.totalRuleLimit]
  ensure (¬((∃ limit ∈ limits, limit = 0 ∨ maxRules < limit) ∨
      status.ruleCount < learning.automaticRules ∨
      learning.automaticRules < learning.saturatedUids ∨
      learning.automaticRules < learning.saturatedApplications))
    (.invalidSnapshot "invalid learning quotas")
  return { status with learning := some learning, enforcementStrategy }

def readStatus (protocol : StatusProtocol) (response : Response) : Except IpcError PolicyStatus :=
  match protocol, response with
  | .legacy, .status revision mode ruleCount backend _ =>
    .ok { revision, mode, ruleCount, backend, runtimeCompatibility := ⟨.unknown, .unknown⟩
          learning := none, enforcementStrategy := none }
  | .v2, .statusV2 revision mode ruleCount backend _ runtimeCompatibility =>
    validatedV2PolicyStatus revision mode ruleCount backend runtimeCompatibility
  | .v3, .statusV3 revision mode ruleCount backend _ runtimeCompatibility learning => do
    let status ← validatedV2PolicyStatus revision mode ruleCount backend runtimeCompatibility
    validatedLearningPolicyStatus status learning none
  | .probeV4, .statusV4 revision mode ruleCount backend _ runtimeCompatibility learning strategy
  | .v4, .statusV4 revision mode ruleCount backend _ runtimeCompatibility learning strategy => do
    let status ← validatedV2PolicyStatus revision mode ruleCount backend runtimeCompatibility
    validatedLearningPolicyStatus status learning (some strategy)
  | _, .error error => .error (.rejected error.code error.message)
  | _, .ack _ => .error (.unexpected "ack on observation socket")
  | _, .event _ => .error (.unexpected "event instead of status")
  | _, .rulesPage .. => .error (.unexpected "rules page instead of status")
  | _, _ => .error (.unexpected "status protocol version does not match request")

def readRulesPage : Response → Except IpcError (BitVec 64 × List Rule × Option Uuid)
  | .rulesPage revision rules nextAfter => .ok (revision, rules, nextAfter)
  | .error error => .error (.rejected error.code error.message)
  | .ack _ => .error (.unexpected "ack on observation socket")
  | .event _ => .error (.unexpected "event instead of rules page")
  | _ => .error (.unexpected "status instead of rules page")

def checkPage (status : PolicyStatus) (after : Option Uuid) (pageRevision : BitVec 64)
    (page : List Rule) (nextAfter : Option Uuid) : Except IpcError Unit := do
  ensure (pageRevision = status.revision) .inconsistentPages
  ensure (page.length ≤ MAX_RULES_PER_PAGE.toNat)
    (.unexpected "rules page exceeds negotiated limit")
  ensure (¬(page = [] ∧ nextAfter.isSome = true)) (.unexpected "empty non-terminal rules page")
  ensure (¬(nextAfter.isSome = true ∧ nextAfter = after))
    (.unexpected "rules pagination cursor did not advance")

theorem checkPage_eq_ok_iff {status : PolicyStatus} {after nextAfter : Option Uuid}
    {pageRevision : BitVec 64} {page : List Rule} :
    checkPage status after pageRevision page nextAfter = .ok () ↔
      pageRevision = status.revision ∧ page.length ≤ MAX_RULES_PER_PAGE.toNat ∧
        (nextAfter.isSome = true → page ≠ []) ∧ (nextAfter.isSome = true → nextAfter ≠ after) := by
  simp only [checkPage, Except.bind_unit_eq_ok_iff, ensure_eq_ok_iff, not_and, ne_eq]
  exact ⟨fun ⟨h₁, h₂, h₃, h₄⟩ => ⟨h₁, h₂, fun hnext hpage => h₃ hpage hnext, h₄⟩,
    fun ⟨h₁, h₂, h₃, h₄⟩ => ⟨h₁, h₂, fun hpage hnext => h₃ hnext hpage, h₄⟩⟩

def validateSnapshotRuntimeCompatibility (snapshot : Snapshot) (status : PolicyStatus)
    (statusProtocol : StatusProtocol) : Except IpcError Unit :=
  if statusProtocol = .legacy then .ok ()
  else
    let expected := RuntimeCompatibility.forPolicy status.backend snapshot.mode
      snapshot.applicationInterception
    let emergencyQuarantine := decide (expected = ⟨.kernelNative, .blockAll⟩) &&
      decide (status.runtimeCompatibility = ⟨.kernelNative, .emergencyBlockAll⟩)
    ensure (¬(status.runtimeCompatibility ≠ expected ∧ emergencyQuarantine = false))
      (.invalidSnapshot
        "StatusV2 runtime compatibility does not match the returned policy snapshot")

def validateObserverSnapshot (snapshot : Snapshot) : Except IpcError Unit :=
  match snapshot.validateForObserver with
  | .ok () => .ok ()
  | .error error => .error (.invalidSnapshot error.message)

namespace ObserveServer

variable (server : ObserveServer) (session : Option ObserveSession)

/-- Send a request and read the response. Nothing can be read from a closed connection. -/
def ask (request : ReadRequest) :
    Except IpcError (Response × Option ObserveSession) :=
  match session with
  | none => .error .closed
  | some session =>
    match server.respond session request with
    | .answered response session => .ok (response, some session)
    | .closed response => .ok (response, none)
    | .failed | .subscribed _ => .error .closed

def fetchStatus (protocol : StatusProtocol) :
    Except IpcError (PolicyStatus × Option ObserveSession) := do
  let (response, session) ← server.ask session protocol.request
  let status ← readStatus protocol response
  return (status, session)

def fetchPages (session : Option ObserveSession) (status : PolicyStatus) (expectedCount : ℕ)
    (rules : List Rule) (after : Option Uuid) : Except IpcError (List Rule) :=
  match server.ask session (.rulesPage after MAX_RULES_PER_PAGE) with
  | .error error => .error error
  | .ok (response, session) =>
    match readRulesPage response with
    | .error error => .error error
    | .ok (pageRevision, page, nextAfter) =>
      match _hpage : checkPage status after pageRevision page nextAfter with
      | .error error => .error error
      | .ok () =>
        if _hcount : (rules ++ page).length > expectedCount ∨ (rules ++ page).length > MAX_RULES then
          .error (.ruleCountMismatch expectedCount (rules ++ page).length)
        else
          match nextAfter with
          | some cursor => fetchPages session status expectedCount (rules ++ page) (some cursor)
          | none => .ok (rules ++ page)
termination_by expectedCount + 1 - rules.length
decreasing_by
  -- a page that is not the last one has a rule
  have hrule := (checkPage_eq_ok_iff.mp _hpage).2.2.1 rfl
  have hpositive := List.length_pos_iff.mpr hrule
  rw [List.length_append] at _hcount ⊢
  omega

def fetchConsistentSnapshotFromStatus (status : PolicyStatus)
    (statusProtocol : StatusProtocol) : Except IpcError Snapshot := do
  let expectedCount := status.ruleCount.toNat
  ensure (expectedCount ≤ MAX_RULES) (.ruleCountMismatch expectedCount 0)
  let rules ← server.fetchPages session status expectedCount [] none
  ensure (rules.length = expectedCount) (.ruleCountMismatch expectedCount rules.length)
  let snapshot : Snapshot :=
    { revision := status.revision, flowGeneration := 1, mode := status.mode, rules }
  validateObserverSnapshot snapshot
  validateSnapshotRuntimeCompatibility snapshot status statusProtocol
  return snapshot

end ObserveServer

end OpenShield
