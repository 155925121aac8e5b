import OpenShield.Data.Search
import OpenShield.Daemon.Subscription

/-!
# Pages of rules

Observers read the policy page by page, in the order of the identifiers. A page is cut so that it
fits a frame. Observers other than root see application rules without what identifies the
application, and a page is cut after that.
-/

namespace OpenShield

/-! ### Responses -/

inductive FirewallBackendKind
  | unknown
  | nftables
  | iptables
  deriving DecidableEq, Repr

/-- How packets are processed. -/
inductive CompatibilityLevel
  | unknown
  | kernelNative
  | conntrackHybrid
  | nfqueue
  deriving DecidableEq, Repr

/-- Why packets are processed that way. -/
inductive CompatibilityReason
  | unknown
  | blockAll
  | emergencyBlockAll
  | networkOnly
  | learning
  | applicationTcp
  | applicationPerPacket
  deriving DecidableEq, Repr

structure RuntimeCompatibility where
  level : CompatibilityLevel
  reason : CompatibilityReason
  deriving DecidableEq, Repr

structure NfqueueCounters where
  queueOverflow : BitVec 64
  attributionTimeout : BitVec 64
  terminalQueueError : BitVec 64
  denied : BitVec 64
  deriving DecidableEq

/-- The budgets of learning, and how far they are used. -/
structure LearningStatus where
  perUidLimit : BitVec 32
  perApplicationLimit : BitVec 32
  automaticRuleLimit : BitVec 32
  totalRuleLimit : BitVec 32
  automaticRules : BitVec 32
  saturatedUids : BitVec 32
  saturatedApplications : BitVec 32
  quotaSkippedObservations : BitVec 64
  deriving DecidableEq

inductive Response
  | status (revision : BitVec 64) (mode : Mode) (ruleCount : BitVec 32)
      (backend : FirewallBackendKind) (nfqueue : NfqueueCounters)
  | statusV2 (revision : BitVec 64) (mode : Mode) (ruleCount : BitVec 32)
      (backend : FirewallBackendKind) (nfqueue : NfqueueCounters)
      (runtimeCompatibility : RuntimeCompatibility)
  | statusV3 (revision : BitVec 64) (mode : Mode) (ruleCount : BitVec 32)
      (backend : FirewallBackendKind) (nfqueue : NfqueueCounters)
      (runtimeCompatibility : RuntimeCompatibility) (learning : LearningStatus)
  | statusV4 (revision : BitVec 64) (mode : Mode) (ruleCount : BitVec 32)
      (backend : FirewallBackendKind) (nfqueue : NfqueueCounters)
      (runtimeCompatibility : RuntimeCompatibility) (learning : LearningStatus)
      (enforcementStrategy : EnforcementStrategy)
  | rulesPage (revision : BitVec 64) (rules : List Rule) (nextAfter : Option Uuid)
  | ack (ack : Ack)
  | event (event : Event)
  | error (error : ProtocolError)
  deriving DecidableEq

def Response.isStatus : Response → Bool
  | .status .. | .statusV2 .. | .statusV3 .. | .statusV4 .. => true
  | .rulesPage .. | .ack _ | .event _ | .error _ => false

/-! ### Frames -/

def MAX_FRAME_SIZE : ℕ := 64 * 1024

def pageFrame : String :=
  "\x7b\"type\":\"rules_page\",\"data\":\x7b\"revision\":,\"rules\":[],\"next_after\":\x7d\x7d"

def pageOverhead (revision : BitVec 64) : ℕ :=
  pageFrame.length + (Nat.toDigits 10 revision.toNat).length

/-- The bytes of a cursor: `null`, or an identifier in quotes. -/
def cursorSize : Option Uuid → ℕ
  | none => 4
  | some _ => 38

/-- The sizes of serialized responses. What is known about them is how a page is made up of its
rules, that a rule contains its identifier, and that a status has a few short fields. -/
structure FrameCodec where
  size : Response → ℕ
  ruleSize : Rule → ℕ
  identified : ∀ rule, 38 ≤ ruleSize rule
  status : ∀ response, response.isStatus = true → size response ≤ MAX_FRAME_SIZE
  page : ∀ revision rules nextAfter, size (.rulesPage revision rules nextAfter) =
    pageOverhead revision + (rules.map ruleSize).sum + (rules.length - 1) + cursorSize nextAfter

variable (codec : FrameCodec)

def FrameCodec.fits (response : Response) : Bool :=
  decide (codec.size response ≤ MAX_FRAME_SIZE)

/-! ### Pages -/

def MAX_RULES_PER_PAGE : BitVec 16 := 128

def clampPageLimit (limit : BitVec 16) : BitVec 16 :=
  if limit < 1 then 1 else if MAX_RULES_PER_PAGE < limit then MAX_RULES_PER_PAGE else limit

def State.rulesAfter (s : State) (cursor : Option Uuid) : List Rule :=
  (s.rules.entries.filter fun entry => cursor.all fun after => decide (after < entry.1)).map
    Prod.snd

def Engine.rulesPageResponse (e : Engine) (after : Option Uuid) (requestedLimit : BitVec 16) :
    Response :=
  if e.fatal then .error fatalProtocolError
  else
    let limit := (clampPageLimit requestedLimit).toNat
    let matching := e.state.rulesAfter after
    let rules := matching.take limit
    let nextAfter := (matching.drop limit).head?.bind fun _ => rules.getLast?.map Rule.id
    .rulesPage e.state.revision rules nextAfter

def redactRulePage (response : Response) (redactSensitive : Bool) : Response :=
  if !redactSensitive then response
  else
    match response with
    | .rulesPage revision rules nextAfter =>
      .rulesPage revision (rules.map Rule.redactedForObserver) nextAfter
    | other => other

/-- A page cut after `count` rules. Its cursor is the last of them, unless nothing follows. -/
def cutPage (revision : BitVec 64) (rules : List Rule) (upstreamHasMore : Bool) (count : ℕ) :
    Response :=
  let truncated := decide (count < rules.length)
  .rulesPage revision (rules.take count)
    (if upstreamHasMore || truncated then rules[count - 1]?.map Rule.id else none)

def fitRulePageWith (fitsBoundedFrame : Response → Bool) (response : Response) : Response :=
  match response with
  | .rulesPage revision rules nextAfter =>
    if rules.length = 0 then
      let candidate := Response.rulesPage revision rules none
      if fitsBoundedFrame candidate then candidate
      else .error (.new .internal "an empty rule page does not fit the bounded observation frame")
    else
      (lastFit fitsBoundedFrame (cutPage revision rules nextAfter.isSome) 1 rules.length none).getD
        (.error (.new .internal "one validated rule does not fit the bounded observation frame"))
  | other => other

def rulePage (e : Engine) (after : Option Uuid) (redactSensitive : Bool) :
    Response :=
  fitRulePageWith codec.fits
    (redactRulePage (e.rulesPageResponse after MAX_RULES_PER_PAGE) redactSensitive)

/-! ### Fitting -/

namespace FrameCodec

variable {codec : FrameCodec} {revision : BitVec 64} {rules : List Rule} {upstreamHasMore : Bool}

theorem size_cutPage {count : ℕ} (hcount : 0 < count) (hle : count ≤ rules.length) :
    codec.size (cutPage revision rules upstreamHasMore count) =
      pageOverhead revision + ((rules.take count).map codec.ruleSize).sum + (count - 1) +
        (if upstreamHasMore || decide (count < rules.length) then 38 else 4) := by
  have hlast : rules[count - 1]? = some (rules.get ⟨count - 1, by omega⟩) :=
    List.getElem?_eq_getElem (by omega)
  simp only [cutPage, codec.page, List.length_take, Nat.min_eq_left hle, hlast, Option.map_some]
  split_ifs <;> rfl

theorem sum_take_lt (codec : FrameCodec) {i j : ℕ} (hij : i < j) (hj : j ≤ rules.length) :
    ((rules.take i).map codec.ruleSize).sum + 38 ≤ ((rules.take j).map codec.ruleSize).sum := by
  have hsplit : rules.take j = rules.take i ++ (rules.take j).drop i := by
    rw [← List.take_append_drop i (rules.take j), List.take_take, Nat.min_eq_left hij.le,
      List.drop_append_of_le_length (by rw [List.length_take]; omega), List.drop_take_self,
      List.nil_append]
  obtain ⟨rule, rest, hrest⟩ := List.exists_cons_of_ne_nil (l := (rules.take j).drop i) (by
    rw [← List.length_pos_iff, List.length_drop, List.length_take]
    omega)
  have hrule := codec.identified rule
  rw [hsplit, hrest, List.map_append, List.sum_append, List.map_cons, List.sum_cons]
  omega

theorem fits_cutPage_of_le {i j : ℕ} (hi : 0 < i) (hij : i ≤ j) (hj : j ≤ rules.length)
    (h : codec.fits (cutPage revision rules upstreamHasMore j) = true) :
    codec.fits (cutPage revision rules upstreamHasMore i) = true := by
  rcases hij.eq_or_lt with rfl | hlt
  · exact h
  · simp only [fits, decide_eq_true_eq] at h ⊢
    rw [size_cutPage (hi.trans hlt) hj] at h
    rw [size_cutPage hi (hij.trans hj)]
    have hsum := sum_take_lt codec hlt hj
    split_ifs at h ⊢ <;> omega

end FrameCodec

def IsLongestBeginning (page response : Response) : Prop :=
  ∃ revision rules nextAfter count, page = .rulesPage revision rules nextAfter ∧
    response = cutPage revision rules nextAfter.isSome count ∧ count ≤ rules.length ∧
    codec.fits response = true ∧
    ∀ longer, count < longer → longer ≤ rules.length →
      codec.fits (cutPage revision rules nextAfter.isSome longer) = false

theorem fitRulePageWith_cutPage {revision : BitVec 64} {rules : List Rule}
    {nextAfter : Option Uuid} (hrules : rules ≠ [])
    (hone : codec.fits (cutPage revision rules nextAfter.isSome 1) = true) :
    ∃ count, 0 < count ∧ count ≤ rules.length ∧
      fitRulePageWith codec.fits (.rulesPage revision rules nextAfter) =
        cutPage revision rules nextAfter.isSome count ∧
      codec.fits (cutPage revision rules nextAfter.isSome count) = true ∧
      ∀ longer, count < longer → longer ≤ rules.length →
        codec.fits (cutPage revision rules nextAfter.isSome longer) = false := by
  have hlength := List.length_pos_iff.mpr hrules
  have hfirst : ∀ i j, 1 ≤ i → i ≤ j → j ≤ rules.length →
      codec.fits (cutPage revision rules nextAfter.isSome j) = true →
      codec.fits (cutPage revision rules nextAfter.isSome i) = true :=
    fun i j hi hij hj => FrameCodec.fits_cutPage_of_le hi hij hj
  rcases lastFit_spec none Nat.one_pos hfirst with
    ⟨count, hpos, hle, hfits, hlonger, hfound⟩ | ⟨hnone, -⟩
  · refine ⟨count, hpos, hle, ?_, hfits, hlonger⟩
    rw [fitRulePageWith, if_neg hlength.ne', hfound]
    rfl
  · rw [hnone 1 le_rfl hlength] at hone
    cases hone

theorem fitRulePageWith_nil (revision : BitVec 64) (nextAfter : Option Uuid) :
    fitRulePageWith codec.fits (.rulesPage revision [] nextAfter) = .rulesPage revision [] none ∧
      codec.fits (.rulesPage revision [] none) = true := by
  have hdigits : (Nat.toDigits 10 revision.toNat).length ≤ 20 := by
    rw [Nat.length_toDigits_le_iff (by decide) (by decide)]
    exact revision.isLt.trans (by decide)
  have hframe : pageFrame.length = 67 := by decide +kernel
  have hfits : codec.fits (.rulesPage revision [] none) = true := by
    simp only [FrameCodec.fits, codec.page, pageOverhead, hframe, cursorSize, MAX_FRAME_SIZE,
      List.map_nil, List.sum_nil, List.length_nil, decide_eq_true_eq]
    omega
  exact ⟨by simp [fitRulePageWith, hfits], hfits⟩

/-! ### Policies for observers -/

def Snapshot.redactedForObserver (snapshot : Snapshot) : Snapshot :=
  { snapshot with rules := snapshot.rules.map Rule.redactedForObserver }

/-- Check the redaction of an application rule; `redactionState` is that of the rules before. -/
def validateRedaction (redactionState : Option Bool) (rule : Rule) (selector : ApplicationSelector) :
    Except CoreError Unit := do
  let redacted := selector.metadataRedacted
  ensure (¬(redacted = true ∧ rule.spec.name ≠ REDACTED_APPLICATION_RULE_NAME))
    .invalidObserverRedaction
  if redacted = false then rejectUnpinnedApplicationSpec rule.spec
  ensure (¬redactionState.any (· ≠ redacted) = true) .invalidObserverRedaction

def validateObserverRule (redactionState : Option Bool) (rule : Rule) : Except CoreError Unit := do
  liftValidation rule.validate
  match rule.spec.application with
  | none => pure ()
  | some selector => validateRedaction redactionState rule selector

/-- Check the rules that an observer received; `ids` are the identifiers seen before. -/
def validateObserverRules : List Uuid → Option Bool → List Rule → Except CoreError Unit
  | _, _, [] => .ok ()
  | ids, redactionState, rule :: rest => do
    validateObserverRule redactionState rule
    ensure (rule.id ∉ ids) (.duplicateRuleId rule.id)
    validateObserverRules (rule.id :: ids)
      ((rule.spec.application.map (·.metadataRedacted)).or redactionState) rest

def Snapshot.validateForObserver (snapshot : Snapshot) : Except CoreError Unit := do
  ensure (snapshot.rules.length ≤ MAX_RULES) (.rulesLimitReached MAX_RULES)
  ensure (validFlowGeneration snapshot.flowGeneration) .invalidFlowGeneration
  validateObserverRules [] none snapshot.rules

structure ObserverRuleValid (rule : Rule) : Prop where
  valid : rule.validate = .ok ()
  named : ∀ selector ∈ rule.spec.application, selector.metadataRedacted = true →
    rule.spec.name = REDACTED_APPLICATION_RULE_NAME
  pinned : ∀ selector ∈ rule.spec.application, selector.metadataRedacted = false →
    rejectUnpinnedApplicationSpec rule.spec = .ok ()

theorem validateRedaction_eq_ok_iff {redactionState : Option Bool} {rule : Rule}
    {selector : ApplicationSelector} :
    validateRedaction redactionState rule selector = .ok () ↔
      (selector.metadataRedacted = true → rule.spec.name = REDACTED_APPLICATION_RULE_NAME) ∧
        (selector.metadataRedacted = false →
          rejectUnpinnedApplicationSpec rule.spec = .ok ()) ∧
        ∀ flag ∈ redactionState, selector.metadataRedacted = flag := by
  unfold validateRedaction
  simp only [Except.bind_unit_eq_ok_iff, ensure_eq_ok_iff]
  cases hredacted : selector.metadataRedacted <;> cases redactionState with
  | none => simp [Except.bind_unit_eq_ok_iff]
  | some flag => cases flag <;> simp [Except.bind_unit_eq_ok_iff]

theorem validateObserverRule_eq_ok_iff {redactionState : Option Bool} {rule : Rule} :
    validateObserverRule redactionState rule = .ok () ↔
      ObserverRuleValid rule ∧ ∀ selector ∈ rule.spec.application, ∀ flag ∈ redactionState,
        selector.metadataRedacted = flag := by
  simp only [validateObserverRule, Except.bind_unit_eq_ok_iff, liftValidation_eq_ok_iff]
  cases happ : rule.spec.application with
  | none =>
    refine ⟨fun h => ⟨⟨h.1, ?_, ?_⟩, by simp⟩, fun h => ⟨h.1.valid, rfl⟩⟩ <;> simp [happ]
  | some selector =>
    rw [validateRedaction_eq_ok_iff]
    constructor
    · rintro ⟨hvalid, hnamed, hpinned, hsame⟩
      exact ⟨⟨hvalid, by simpa [happ] using hnamed, by simpa [happ] using hpinned⟩,
        by simpa using hsame⟩
    · rintro ⟨hrule, hsame⟩
      exact ⟨hrule.valid, hrule.named selector happ, hrule.pinned selector happ,
        hsame selector rfl⟩

/-- The scan over the rules that an observer received: every rule is valid, no identifier repeats
or was seen before, and all applications are redacted or none is. -/
theorem validateObserverRules_eq_ok_iff (ids : List Uuid) (redactionState : Option Bool)
    (rules : List Rule) :
    validateObserverRules ids redactionState rules = .ok () ↔
      (∀ rule ∈ rules, ObserverRuleValid rule ∧ rule.id ∉ ids) ∧ (rules.map Rule.id).Nodup ∧
        ∃ redacted, (∀ flag ∈ redactionState, flag = redacted) ∧
          ∀ rule ∈ rules, ∀ selector ∈ rule.spec.application,
            selector.metadataRedacted = redacted := by
  induction rules generalizing ids redactionState with
  | nil =>
    refine ⟨fun _ => ⟨by simp, by simp, redactionState.getD true, ?_, by simp⟩, fun _ => rfl⟩
    intro flag hflag
    rw [Option.mem_def.mp hflag, Option.getD_some]
  | cons rule rest ih =>
    rw [← and_assoc, forall_fresh_cons_iff]
    simp only [validateObserverRules, Except.bind_unit_eq_ok_iff, ensure_eq_ok_iff, ih,
      validateObserverRule_eq_ok_iff]
    constructor
    · rintro ⟨⟨hrule, hsame⟩, hid, hrest, hnodup, redacted, hstate, huniform⟩
      refine ⟨⟨⟨hrule, hid⟩, hrest, hnodup⟩, redacted, fun flag hflag => ?_,
        List.forall_mem_cons.mpr ⟨fun selector hselector => ?_, huniform⟩⟩
      · -- the flag so far is the one that the rest continues with
        cases happ : rule.spec.application with
        | none => exact hstate flag (by simpa [happ] using hflag)
        | some selector =>
          rw [← hsame selector happ flag hflag]
          exact hstate selector.metadataRedacted (by simp [happ])
      · exact hstate selector.metadataRedacted (by simp [Option.mem_def.mp hselector])
    · rintro ⟨⟨⟨hrule, hid⟩, hrest, hnodup⟩, redacted, hstate, huniform⟩
      obtain ⟨hhead, huniform⟩ := List.forall_mem_cons.mp huniform
      refine ⟨⟨hrule, fun selector hselector flag hflag => ?_⟩, hid, hrest, hnodup, redacted,
        fun flag hflag => ?_, huniform⟩
      · rw [hhead selector hselector, hstate flag hflag]
      · cases happ : rule.spec.application with
        | none => exact hstate flag (by simpa [happ] using hflag)
        | some selector =>
          obtain rfl : selector.metadataRedacted = flag := by simpa [happ] using hflag
          exact hhead selector happ

theorem Snapshot.validateForObserver_eq_ok_iff (snapshot : Snapshot) :
    snapshot.validateForObserver = .ok () ↔
      snapshot.rules.length ≤ MAX_RULES ∧
        validFlowGeneration snapshot.flowGeneration = true ∧
        (∀ rule ∈ snapshot.rules, ObserverRuleValid rule) ∧
        (snapshot.rules.map Rule.id).Nodup ∧
        ∃ redacted, ∀ rule ∈ snapshot.rules, ∀ selector ∈ rule.spec.application,
          selector.metadataRedacted = redacted := by
  simp [Snapshot.validateForObserver, Except.bind_unit_eq_ok_iff, validateObserverRules_eq_ok_iff]

/-! ### Redacted policies -/

section Redaction

variable {rule : Rule}

theorem Rule.redactedForObserver_id : rule.redactedForObserver.id = rule.id := by
  unfold Rule.redactedForObserver
  split_ifs <;> rfl

theorem Rule.redactedForObserver_application {selector : ApplicationSelector}
    (h : selector ∈ rule.redactedForObserver.spec.application) : selector = .redacted := by
  unfold Rule.redactedForObserver at h
  split_ifs at h with happ
  · exact (Option.mem_some_iff.mp h).symm
  · rw [Option.not_isSome_iff_eq_none.mp happ] at h
    cases h

theorem RuleSpec.validate_redacted {spec : RuleSpec} (happ : spec.application.isSome = true)
    (h : spec.validate = .ok ()) :
    ({ spec with
        name := REDACTED_APPLICATION_RULE_NAME
        application := some .redacted } : RuleSpec).validate = .ok () := by
  have hredacted : ApplicationSelector.redacted.validate = .ok () := by decide +kernel
  obtain ⟨selector, happ⟩ := Option.isSome_iff_exists.mp happ
  unfold RuleSpec.validate at h ⊢
  simp only [happ, reduceCtorEq, and_false, if_false, ne_eq, not_false_eq_true, and_true,
    liftApplication, hredacted] at h ⊢
  split_ifs at h ⊢
  rfl

theorem PolicyRuleValid.redacted (h : PolicyRuleValid rule) :
    ObserverRuleValid rule.redactedForObserver := by
  refine ⟨?_, fun selector hselector _ => ?_, fun selector hselector hflag => ?_⟩
  · refine (Rule.validate_eq_ok_iff _).mpr ⟨?_, ?_, ?_⟩
    · rw [Rule.redactedForObserver_id]
      exact h.id_ne_zero
    · unfold Rule.redactedForObserver
      split_ifs <;> exact h.times
    · unfold Rule.redactedForObserver
      split_ifs with happ
      · exact RuleSpec.validate_redacted happ h.spec
      · exact h.spec
  · unfold Rule.redactedForObserver at hselector ⊢
    split_ifs at hselector ⊢ with happ
    · rfl
    · rw [Option.not_isSome_iff_eq_none.mp happ] at hselector
      cases hselector
  · -- what is redacted says so
    rw [Rule.redactedForObserver_application hselector] at hflag
    cases hflag

theorem PolicyRuleValid.observed (h : PolicyRuleValid rule) : ObserverRuleValid rule := by
  refine ⟨(Rule.validate_eq_ok_iff _).mpr ⟨h.id_ne_zero, h.times, h.spec⟩,
    fun selector hselector hflag => ?_, fun _ _ _ => ?_⟩
  · have hunredacted := h.unredacted
    rw [Option.mem_def.mp hselector, Option.any_some, hflag] at hunredacted
    cases hunredacted
  · exact (ensure_eq_ok_iff _ _ _).mpr h.pinned

end Redaction

namespace ValidSnapshot

variable (snapshot : ValidSnapshot)

theorem redacted_validateForObserver :
    snapshot.redactedForObserver.validateForObserver = .ok () := by
  obtain ⟨hlength, hgeneration, hrules, hids⟩ := (Snapshot.validate_eq_ok_iff _).mp snapshot.valid
  refine (Snapshot.validateForObserver_eq_ok_iff _).mpr ⟨?_, hgeneration, ?_, ?_, true, ?_⟩
  · exact (List.length_map _).trans_le hlength
  · intro rule hrule
    obtain ⟨rule, hmem, rfl⟩ := List.mem_map.mp hrule
    exact (hrules rule hmem).redacted
  · have hsame : Rule.id ∘ Rule.redactedForObserver = Rule.id :=
      funext fun _ => Rule.redactedForObserver_id
    rwa [Snapshot.redactedForObserver, List.map_map, hsame]
  · intro rule hrule selector hselector
    obtain ⟨rule, -, rfl⟩ := List.mem_map.mp hrule
    rw [Rule.redactedForObserver_application hselector]
    rfl

theorem unredacted_validateForObserver : snapshot.validateForObserver = .ok () := by
  obtain ⟨hlength, hgeneration, hrules, hids⟩ := (Snapshot.validate_eq_ok_iff _).mp snapshot.valid
  refine (Snapshot.validateForObserver_eq_ok_iff _).mpr
    ⟨hlength, hgeneration, fun rule hrule => (hrules rule hrule).observed, hids, false, ?_⟩
  intro rule hrule selector hselector
  have hunredacted := (hrules rule hrule).unredacted
  rwa [Option.mem_def.mp hselector, Option.any_some] at hunredacted

end ValidSnapshot

end OpenShield
