import OpenShield.Core.Operations
import OpenShield.Daemon.Decision

/-!
# Revocation moves the flow generation

A connection that was authorised under a flow generation keeps its authorisation until the
generation moves. So within one generation and mode the decisions of the policy may not be taken
back: what was accepted stays accepted, and what was denied stays denied the same way.
-/

namespace OpenShield

open ApplicationDecisionPolicy

/-- What a policy decides about a connection of a known process. In `learning` everything is
accepted that no application deny matches; in `blockAll` nothing is decided. -/
def ApplicationDecisionPolicy.decision (policy : ApplicationDecisionPolicy)
    (connection : OutboundConnection) (identity : ApplicationIdentity) : Option RuleAction :=
  match policy.snapshot.mode with
  | .enforcing => (policy.matchingRule connection identity).map (·.spec.action)
  | .learning =>
    some (((policy.matchingDenyRule connection identity).map (·.spec.action)).getD .accept)
  | .blockAll => none

/-! ### Decisions as questions about the rules -/

def decisionOf (drops rejects accepts : Bool) : Option RuleAction :=
  if drops then some .drop else if rejects then some .reject
  else if accepts then some .accept else none

theorem decisionOf_mono {drops rejects accepts accepts' : Bool} {action : RuleAction}
    (haccepts : accepts = true → accepts' = true)
    (h : decisionOf drops rejects accepts = some action) :
    decisionOf drops rejects accepts' = some action := by
  cases drops with
  | true => exact h
  | false =>
    cases rejects with
    | true => exact h
    | false =>
      cases accepts with
      | true => rw [haccepts rfl]; exact h
      | false => cases h

section Rules

variable (rules : List Rule) (connection : OutboundConnection) (identity : ApplicationIdentity)

def applicationAction (action : RuleAction) : Bool :=
  rules.any fun r => applicationRuleMatches r connection identity && decide (r.spec.action = action)

def acceptsSomehow (strategy : EnforcementStrategy) : Bool :=
  applicationAction rules connection identity .accept ||
    (decide (strategy = .fast) &&
      rules.any fun r => fastLearnedAcceptRuleMatches r connection identity) ||
    rules.any fun r => outboundNetworkRuleMatches r connection

theorem strongestAction_filter :
    strongestAction (rules.filter fun r => applicationRuleMatches r connection identity) =
      decisionOf (applicationAction rules connection identity .drop)
        (applicationAction rules connection identity .reject)
        (applicationAction rules connection identity .accept) := by
  simp only [strongestAction, List.any_filter]
  rfl

end Rules

theorem policyDecision_eq (snapshot : Snapshot) (strategy : EnforcementStrategy)
    (connection : OutboundConnection) (identity : ApplicationIdentity) :
    policyDecision snapshot strategy connection identity =
      decisionOf (applicationAction snapshot.rules connection identity .drop)
        (applicationAction snapshot.rules connection identity .reject)
        (acceptsSomehow snapshot.rules connection identity strategy) := by
  have hstrongest := (map_action_argmin _).trans
    (strongestAction_filter snapshot.rules connection identity)
  unfold policyDecision acceptsSomehow
  cases hmin : (snapshot.rules.filter fun rule =>
      applicationRuleMatches rule connection identity).argmin decisionKey with
  | some rule =>
    rw [hmin, Option.map_some] at hstrongest
    refine (decisionOf_mono (fun haccept => ?_) hstrongest.symm).symm
    rw [haccept, Bool.true_or, Bool.true_or]
  | none =>
    -- nothing matched, so only the fallbacks are left
    rw [hmin, Option.map_none] at hstrongest
    generalize applicationAction snapshot.rules connection identity .drop = drops at hstrongest ⊢
    generalize applicationAction snapshot.rules connection identity .reject = rejects
      at hstrongest ⊢
    generalize applicationAction snapshot.rules connection identity .accept = accepts
      at hstrongest ⊢
    cases drops <;> cases rejects <;> cases accepts <;>
      simp only [decisionOf, reduceCtorEq, if_true, Bool.false_eq_true, if_false] at hstrongest
    generalize snapshot.rules.any _ = fast
    generalize snapshot.rules.any _ = network
    cases fast <;> cases network <;> simp [decisionOf]

theorem denyDecision_eq (snapshot : Snapshot) (connection : OutboundConnection)
    (identity : ApplicationIdentity) :
    denyDecision snapshot connection identity =
      decisionOf (applicationAction snapshot.rules connection identity .drop)
        (applicationAction snapshot.rules connection identity .reject) false := by
  have hkeep {action : RuleAction} (haction : action = .drop ∨ action = .reject) (r : Rule) :
      (decide (r.spec.action = .drop ∨ r.spec.action = .reject) &&
          applicationRuleMatches r connection identity && decide (r.spec.action = action)) =
        (applicationRuleMatches r connection identity && decide (r.spec.action = action)) := by
    by_cases h : r.spec.action = action
    · simp [h, haction]
    · simp [h]
  have hnone (r : Rule) :
      (decide (r.spec.action = .drop ∨ r.spec.action = .reject) &&
        applicationRuleMatches r connection identity && decide (r.spec.action = .accept)) =
          false := by
    cases h : r.spec.action <;> simp
  simp only [denyDecision, strongestAction, List.any_filter, hkeep (.inl rfl), hkeep (.inr rfl),
    hnone]
  simp [decisionOf, applicationAction]

/-! ### What growth keeps -/

section Grows

variable {s t : State} {P : Rule → Bool}

theorem State.Grows.any_mono (h : s.Grows t) (hspec : ∀ r r', r'.spec = r.spec → P r' = P r)
    (henabled : ∀ r, P r = true → r.spec.enabled = true) (hany : s.rules.values.any P = true) :
    t.rules.values.any P = true := by
  obtain ⟨r, hr, hP⟩ := List.any_eq_true.mp hany
  obtain ⟨r', hr', hsame⟩ := h.keeps r hr (henabled r hP)
  exact List.any_eq_true.mpr ⟨r', hr', (hspec r r' hsame).trans hP⟩

theorem State.Grows.any_deny (h : s.Grows t) (hspec : ∀ r r', r'.spec = r.spec → P r' = P r)
    (hdeny : ∀ r, P r = true → r.spec.enabled = true ∧ r.spec.action ≠ .accept) :
    t.rules.values.any P = s.rules.values.any P := by
  rw [Bool.eq_iff_iff]
  constructor
  · intro hany
    obtain ⟨r', hr', hP⟩ := List.any_eq_true.mp hany
    obtain ⟨henabled, haction⟩ := hdeny r' hP
    obtain ⟨r, hr, hsame⟩ := h.adds r' hr' henabled haction
    exact List.any_eq_true.mpr ⟨r, hr, (hspec r' r hsame).trans hP⟩
  · exact h.any_mono hspec fun r hP => (hdeny r hP).1

variable {connection : OutboundConnection} {identity : ApplicationIdentity}

theorem applicationRuleMatches_congr {r r' : Rule} (h : r'.spec = r.spec) :
    applicationRuleMatches r' connection identity =
      applicationRuleMatches r connection identity := by
  simp only [applicationRuleMatches, applicationRuleNetworkAndUidMatches,
    outboundNetworkSelectorsMatch, h]

theorem State.Grows.applicationAction_eq (h : s.Grows t) {action : RuleAction}
    (haction : action ≠ .accept) :
    applicationAction t.rules.values connection identity action =
      applicationAction s.rules.values connection identity action := by
  refine h.any_deny (fun r r' hsame => ?_) fun r hP => ?_
  · rw [applicationRuleMatches_congr hsame, hsame]
  · rw [Bool.and_eq_true, decide_eq_true_eq] at hP
    exact ⟨(networkAndUidMatches_enabled (networkAndUidMatches_of_matches hP.1)).1,
      hP.2 ▸ haction⟩

theorem State.Grows.acceptsSomehow_mono (h : s.Grows t)
    (haccepts : acceptsSomehow s.rules.values connection identity s.enforcementStrategy = true) :
    acceptsSomehow t.rules.values connection identity t.enforcementStrategy = true := by
  simp only [acceptsSomehow, Bool.or_eq_true, Bool.and_eq_true, h.strategy] at haccepts ⊢
  rcases haccepts with (happlication | ⟨hfast, hmatch⟩) | hnetwork
  · refine .inl (.inl (h.any_mono (fun r r' hsame => ?_) (fun r hP => ?_) happlication))
    · rw [applicationRuleMatches_congr hsame, hsame]
    · rw [Bool.and_eq_true] at hP
      exact (networkAndUidMatches_enabled (networkAndUidMatches_of_matches hP.1)).1
  · refine .inl (.inr ⟨hfast, h.any_mono (fun r r' hsame => ?_) (fun r hP => ?_) hmatch⟩)
    · simp only [fastLearnedAcceptRuleMatches, applicationRuleNetworkAndUidMatches,
        outboundNetworkSelectorsMatch, hsame]
    · exact (networkAndUidMatches_enabled (networkAndUidMatches_of_fastMatches hP)).1
  · refine .inr (h.any_mono (fun r r' hsame => ?_) (fun r hP => ?_) hnetwork)
    · simp only [outboundNetworkRuleMatches, outboundNetworkSelectorsMatch, hsame]
    · rw [outboundNetworkRuleMatches, Bool.and_eq_true] at hP
      exact (selectorsMatch_enabled hP.2).1

/-- What a policy decides in `enforcing` lasts as the policy grows. -/
theorem policyDecision_of_grows (h : s.Grows t) {action : RuleAction}
    (hs : policyDecision s.snapshot s.enforcementStrategy connection identity = some action) :
    policyDecision t.snapshot t.enforcementStrategy connection identity = some action := by
  rw [policyDecision_eq] at hs ⊢
  have hdrop : applicationAction t.snapshot.rules connection identity .drop = _ :=
    h.applicationAction_eq (by decide)
  have hreject : applicationAction t.snapshot.rules connection identity .reject = _ :=
    h.applicationAction_eq (by decide)
  rw [hdrop, hreject]
  exact decisionOf_mono h.acceptsSomehow_mono hs

/-- Growth leaves the denies of `learning` alone. -/
theorem denyDecision_of_grows (h : s.Grows t) :
    denyDecision t.snapshot connection identity = denyDecision s.snapshot connection identity := by
  have hdrop : applicationAction t.snapshot.rules connection identity .drop = _ :=
    h.applicationAction_eq (by decide)
  have hreject : applicationAction t.snapshot.rules connection identity .reject = _ :=
    h.applicationAction_eq (by decide)
  rw [denyDecision_eq, denyDecision_eq, hdrop, hreject]
  rfl

end Grows

/-! ### Decisions over runs -/

section Decisions

variable {s t : State} {connection : OutboundConnection} {identity : ApplicationIdentity}

theorem applicationPolicy_eq (hs : s.WellFormed) :
    s.applicationPolicy = (new hs.validSnapshot.retained.toSnapshot).withEnforcementStrategy
      (if s.mode = .enforcing then s.enforcementStrategy else .strict) :=
  build_eq hs.validSnapshot s.enforcementStrategy

theorem decision_enforcing (hs : s.WellFormed) (hmode : s.mode = .enforcing) :
    s.applicationPolicy.decision connection identity =
      policyDecision s.snapshot s.enforcementStrategy connection identity := by
  have hvalid : hs.validSnapshot.mode = .enforcing := hmode
  have hsnapshot : s.applicationPolicy.snapshot.mode = .enforcing := hmode
  simp only [ApplicationDecisionPolicy.decision, hsnapshot]
  rw [applicationPolicy_eq hs, if_pos hmode, map_action_matchingRule,
    policyDecision_retained hvalid]
  rfl

theorem decision_learning (hs : s.WellFormed) (hmode : s.mode = .learning) :
    s.applicationPolicy.decision connection identity =
      some ((denyDecision s.snapshot connection identity).getD .accept) := by
  have hvalid : hs.validSnapshot.mode = .learning := hmode
  have hsnapshot : s.applicationPolicy.snapshot.mode = .learning := hmode
  simp only [ApplicationDecisionPolicy.decision, hsnapshot]
  rw [applicationPolicy_eq hs, map_action_matchingDenyRule, denyDecision_retained hvalid]
  rfl

theorem decision_of_follows (hs : s.WellFormed) (h : s.Follows t)
    (hgeneration : t.flowGeneration = s.flowGeneration) (hmode : t.mode = s.mode)
    {action : RuleAction} (hdecision : s.applicationPolicy.decision connection identity =
      some action) :
    t.applicationPolicy.decision connection identity = some action := by
  have hgrows := h.grows hgeneration
  cases hs' : s.mode with
  | enforcing =>
    rw [decision_enforcing hs hs'] at hdecision
    rw [decision_enforcing (h.wellFormed hs) (hmode.trans hs')]
    exact policyDecision_of_grows hgrows hdecision
  | learning =>
    rw [decision_learning hs hs'] at hdecision
    rw [decision_learning (h.wellFormed hs) (hmode.trans hs'), denyDecision_of_grows hgrows]
    exact hdecision
  | blockAll =>
    have hsnapshot : s.applicationPolicy.snapshot.mode = .blockAll := hs'
    simp only [ApplicationDecisionPolicy.decision, hsnapshot] at hdecision
    cases hdecision

end Decisions

/-- Revocation always moves the flow generation. Between any two states of a run the
generation does not decrease and stays in the mark domain. If it did not move and the mode is
the same, every decision of the earlier state is also that of the later one. At the last
generation `blockAll` can be entered as long as a revision is left, and it is never left. -/
theorem revocation_moves_generation {json : Serializer} {s₀ s t : State}
    (h : s₀.validate json = .ok ()) (before after : List StateOperation)
    (hs : s = StateOperation.run json before s₀) (ht : t = StateOperation.run json after s) :
    (s.flowGeneration ≤ t.flowGeneration ∧ validFlowGeneration s.flowGeneration = true ∧
      validFlowGeneration t.flowGeneration = true) ∧
    (t.flowGeneration = s.flowGeneration → t.mode = s.mode →
      ∀ connection identity action,
        s.applicationPolicy.decision connection identity = some action →
          t.applicationPolicy.decision connection identity = some action) ∧
    (s.flowGeneration = MAX_FLOW_GENERATION →
      (s.revision ≠ BitVec.allOnes 64 → ∀ now, ∃ u event,
        s.setModeAt .blockAll now = .ok (u, event) ∧ u.mode = .blockAll) ∧
      (s.mode = .blockAll → t.mode = .blockAll)) := by
  have hwellFormed : s.WellFormed := by
    rw [hs]
    exact (StateOperation.follows_run json before s₀).wellFormed (State.wellFormed_of_validate h)
  have hfollows : s.Follows t := by
    rw [ht]
    exact StateOperation.follows_run json after s
  refine ⟨⟨hfollows.generation, hwellFormed.generation,
    (hfollows.wellFormed hwellFormed).generation⟩, ?_, ?_⟩
  · intro hgeneration hmode connection identity action
    exact decision_of_follows hwellFormed hfollows hgeneration hmode
  · intro hmax
    refine ⟨fun hrevision now => State.setModeAt_blockAll hrevision now, fun hmode => ?_⟩
    -- the generation cannot move any more, so neither can the mode
    have hlast : t.flowGeneration = s.flowGeneration := by
      have hvalid := (hfollows.wellFormed hwellFormed).generation
      simp only [validFlowGeneration, Bool.and_eq_true, decide_eq_true_eq] at hvalid
      exact BitVec.le_antisymm (hmax ▸ hvalid.2) hfollows.generation
    rcases hfollows.mode hlast with hsame | ⟨hblock, -⟩
    · exact hsame.trans hmode
    · exact hblock

namespace Sample

def lastGeneration (revision : BitVec 64) : State :=
  { State.new with mode := .learning, flowGeneration := MAX_FLOW_GENERATION, revision }

end Sample

/-- Blocking everything at the last generation cannot be undone. -/
theorem revocation_moves_generation_sample :
    (StateOperation.run Sample.json [.setMode .learning 0]
      (StateOperation.run Sample.json [.setMode .blockAll 0] (Sample.lastGeneration 0))).mode =
        .blockAll :=
  ((revocation_moves_generation (show (Sample.lastGeneration 0).validate Sample.json = .ok () by
    decide +kernel) [.setMode .blockAll 0] [.setMode .learning 0] rfl rfl).2.2
      (by decide +kernel)).2 (by decide +kernel)

/-- Without a revision left not even `blockAll` can be entered. -/
theorem blockAll_refused_at_last_revision :
    (Sample.lastGeneration (BitVec.allOnes 64)).validate Sample.json = .ok () ∧
      (Sample.lastGeneration (BitVec.allOnes 64)).flowGeneration = MAX_FLOW_GENERATION ∧
      (Sample.lastGeneration (BitVec.allOnes 64)).setModeAt .blockAll 0 =
        .error .revisionOverflow := by
  refine ⟨?_, ?_, ?_⟩ <;> decide +kernel

def Sample.renamed (id : Uuid) : State :=
  { State.new with
    mode := .enforcing
    rules := OrderedMap.empty.insert id { rule .outbound .drop none with id } }

end OpenShield
