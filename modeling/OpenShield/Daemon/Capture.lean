import OpenShield.Daemon.Decision

/-!
# Decisions on captured identities

The daemon captures the command line and the control groups of a process only if a rule asks for
them. A decision on such a reduced identity has to be the one on the full identity. In `learning`
it is. In `enforcing` an acceptance can be lost: the fast strategy does not ask for the details of
learned accepts, because it can match them by user and executable, but a learned accept without a
user cannot be matched that way.
-/

namespace OpenShield

open ApplicationDecisionPolicy

def ApplicationIdentity.captured (identity : ApplicationIdentity)
    (requirements : Option IdentityCaptureRequirements) : ApplicationIdentity :=
  { identity with
    commandLine := if requirements.any (·.commandLine) then identity.commandLine else []
    cgroups := if requirements.any (·.cgroups) then identity.cgroups else [] }

def ApplicationDecisionPolicy.action (policy : ApplicationDecisionPolicy)
    (connection : OutboundConnection) (identity : ApplicationIdentity) : Option RuleAction :=
  (policy.matchingRule connection identity).map (·.spec.action)

def ApplicationDecisionPolicy.denyAction (policy : ApplicationDecisionPolicy)
    (connection : OutboundConnection) (identity : ApplicationIdentity) : Option RuleAction :=
  (policy.matchingDenyRule connection identity).map (·.spec.action)

def Decides (strategy : EnforcementStrategy) (connection : OutboundConnection)
    (identity : ApplicationIdentity) (rule : Rule) : Bool :=
  applicationRuleMatches rule connection identity ||
    (decide (strategy = .fast) && fastLearnedAcceptRuleMatches rule connection identity) ||
    outboundNetworkRuleMatches rule connection

/-- Learned accepts that match a process but not what was captured of it, and name no user. -/
structure Overlooked (strategy : EnforcementStrategy) (connection : OutboundConnection)
    (identity captured : ApplicationIdentity) (rule : Rule) : Prop where
  fast : strategy = .fast
  learned : rule.spec.origin = .learned ∧ rule.spec.action = .accept
  user : rule.spec.application.all (·.uid.isNone) = true
  full : applicationRuleMatches rule connection identity = true
  reduced : applicationRuleMatches rule connection captured = false

/-! ### Decisions by the rules that have a say -/

def isDeny (rule : Rule) : Bool := decide (rule.spec.action = .drop ∨ rule.spec.action = .reject)

theorem strongestAction_eq (rules : List Rule) :
    strongestAction rules =
      (strongestAction (rules.filter isDeny)).or (if rules.isEmpty then none else some .accept) := by
  have hsame (action : RuleAction) (hdeny : action = .drop ∨ action = .reject) :
      (rules.filter isDeny).any (fun r => decide (r.spec.action = action)) =
        rules.any fun r => decide (r.spec.action = action) := by
    rw [List.any_filter]
    refine List.any_congr_of_mem fun rule _ => ?_
    by_cases h : rule.spec.action = action
    · rcases hdeny with rfl | rfl <;> simp [isDeny, h]
    · simp [h]
  have hnone : (rules.filter isDeny).any (fun r => decide (r.spec.action = .accept)) = false := by
    rw [List.any_filter]
    refine List.any_eq_false.mpr fun rule _ => ?_
    cases h : rule.spec.action <;> simp [isDeny, h]
  unfold strongestAction
  rw [hsame .drop (.inl rfl), hsame .reject (.inr rfl), hnone]
  by_cases hdrop : rules.any (fun r => decide (r.spec.action = .drop)) = true
  · simp [hdrop]
  by_cases hreject : rules.any (fun r => decide (r.spec.action = .reject)) = true
  · simp [hdrop, hreject]
  -- without denies every rule accepts
  have haccept : rules.any (fun r => decide (r.spec.action = .accept)) = !rules.isEmpty := by
    cases rules with
    | nil => rfl
    | cons rule rest =>
      simp only [List.any_cons, Bool.or_eq_true, decide_eq_true_eq, not_or] at hdrop hreject
      cases h : rule.spec.action with
      | drop => exact absurd h hdrop.1
      | reject => exact absurd h hreject.1
      | accept => simp [h]
  simp only [hdrop, hreject, haccept]
  cases rules.isEmpty <;> rfl

/-- Denies come first; what is left to decide is whether any rule accepts. -/
theorem policyDecision_eq_action (snapshot : Snapshot) (strategy : EnforcementStrategy)
    (connection : OutboundConnection) (identity : ApplicationIdentity) :
    policyDecision snapshot strategy connection identity =
      (denyDecision snapshot connection identity).or
        (if snapshot.rules.any (Decides strategy connection identity) then some .accept
        else none) := by
  have hmatch : policyDecision snapshot strategy connection identity =
      (strongestAction (snapshot.rules.filter fun rule =>
        applicationRuleMatches rule connection identity)).or
      (if strategy = .fast ∧ snapshot.rules.any
          (fun rule => fastLearnedAcceptRuleMatches rule connection identity) = true then
        some .accept
      else if snapshot.rules.any (fun rule => outboundNetworkRuleMatches rule connection) then
        some .accept
      else none) := by
    rw [← map_action_argmin, policyDecision]
    cases (snapshot.rules.filter fun rule =>
      applicationRuleMatches rule connection identity).argmin decisionKey <;> rfl
  have hdeny : (snapshot.rules.filter fun rule =>
      applicationRuleMatches rule connection identity).filter isDeny =
      snapshot.rules.filter fun rule =>
        decide (rule.spec.action = .drop ∨ rule.spec.action = .reject) &&
          applicationRuleMatches rule connection identity := by
    rw [List.filter_filter]
    rfl
  have hany : snapshot.rules.any (Decides strategy connection identity) =
      (snapshot.rules.any (fun rule => applicationRuleMatches rule connection identity) ||
        (decide (strategy = .fast) && snapshot.rules.any
          fun rule => fastLearnedAcceptRuleMatches rule connection identity) ||
        snapshot.rules.any fun rule => outboundNetworkRuleMatches rule connection) := by
    rw [Bool.eq_iff_iff]
    simp only [Decides, List.any_eq_true, Bool.or_eq_true, Bool.and_eq_true, decide_eq_true_eq]
    constructor
    · rintro ⟨rule, hmem, (happ | hfast) | hnetwork⟩
      · exact .inl (.inl ⟨rule, hmem, happ⟩)
      · exact .inl (.inr ⟨hfast.1, rule, hmem, hfast.2⟩)
      · exact .inr ⟨rule, hmem, hnetwork⟩
    · rintro ((⟨rule, hmem, happ⟩ | ⟨hfast, rule, hmem, hmatch⟩) | ⟨rule, hmem, hnetwork⟩)
      · exact ⟨rule, hmem, .inl (.inl happ)⟩
      · exact ⟨rule, hmem, .inl (.inr ⟨hfast, hmatch⟩)⟩
      · exact ⟨rule, hmem, .inr hnetwork⟩
  have hempty : (snapshot.rules.filter fun rule =>
      applicationRuleMatches rule connection identity).isEmpty =
      !snapshot.rules.any fun rule => applicationRuleMatches rule connection identity := by
    rw [Bool.eq_iff_iff]
    simp [List.filter_eq_nil_iff]
  rw [hmatch, strongestAction_eq, hdeny, ← denyDecision, hempty, hany, Option.or_assoc]
  congr 1
  cases snapshot.rules.any fun rule => applicationRuleMatches rule connection identity with
  | true => simp
  | false =>
    cases snapshot.rules.any fun rule => fastLearnedAcceptRuleMatches rule connection identity <;>
      cases snapshot.rules.any fun rule => outboundNetworkRuleMatches rule connection <;>
      by_cases hfast : strategy = .fast <;> simp [hfast]

/-! ### Matching captured identities -/

section Captured

variable {connection : OutboundConnection} {identity : ApplicationIdentity}
  {requirements : Option IdentityCaptureRequirements}

def Covers (requirements : Option IdentityCaptureRequirements) (selector : ApplicationSelector) :
    Prop :=
  (selector.commandLine.isSome = true → requirements.any (·.commandLine) = true) ∧
    (selector.cgroup.isSome = true → requirements.any (·.cgroups) = true)

variable {selector : ApplicationSelector} {rule : Rule}

theorem matches_captured_of_covers (h : Covers requirements selector) :
    selector.matches (identity.captured requirements) = selector.matches identity := by
  have hcommand : selector.commandLine.all (fun expected =>
      expected.matches (identity.captured requirements).commandLine) =
      selector.commandLine.all fun expected => expected.matches identity.commandLine := by
    cases hsome : selector.commandLine with
    | none => rfl
    | some commandLine =>
      have hneeded := h.1 (by rw [hsome]; rfl)
      simp [ApplicationIdentity.captured, hneeded]
  have hcgroup : selector.cgroup.all (fun expected =>
      (identity.captured requirements).cgroups.any fun actual => decide (actual = expected)) =
      selector.cgroup.all fun expected =>
        identity.cgroups.any fun actual => decide (actual = expected) := by
    cases hsome : selector.cgroup with
    | none => rfl
    | some cgroup =>
      have hneeded := h.2 (by rw [hsome]; rfl)
      simp [ApplicationIdentity.captured, hneeded]
  simp only [ApplicationSelector.matches, hcommand, hcgroup]
  rfl

theorem commandLine_matches_nil {selector : CommandLineSelector}
    (h : selector.validate = .ok ()) : selector.matches [] = false := by
  have hne : selector.arguments ≠ [] := by
    intro hnil
    simp [CommandLineSelector.validate, hnil] at h
  unfold CommandLineSelector.matches
  cases selector.kind with
  | exactMatch => simpa using hne
  | prefixMatch =>
    cases harguments : selector.arguments with
    | nil => exact absurd harguments hne
    | cons argument rest => rfl

theorem matches_of_captured
    (hvalid : ∀ commandLine ∈ selector.commandLine, commandLine.validate = .ok ())
    (h : selector.matches (identity.captured requirements) = true) :
    selector.matches identity = true := by
  simp only [ApplicationSelector.matches, Bool.and_eq_true] at h ⊢
  obtain ⟨⟨⟨⟨hexecutable, hfile⟩, hcommand⟩, huid⟩, hcgroup⟩ := h
  refine ⟨⟨⟨⟨hexecutable, hfile⟩, ?_⟩, huid⟩, ?_⟩
  · cases hsome : selector.commandLine with
    | none => rfl
    | some commandLine =>
      rw [hsome, Option.all_some] at hcommand
      rw [Option.all_some]
      by_cases hneeded : requirements.any (·.commandLine) = true
      · simpa [ApplicationIdentity.captured, hneeded] using hcommand
      · have hblank : (identity.captured requirements).commandLine = [] := by
          simp [ApplicationIdentity.captured, hneeded]
        rw [hblank, commandLine_matches_nil (hvalid commandLine hsome)] at hcommand
        cases hcommand
  · cases hsome : selector.cgroup with
    | none => rfl
    | some cgroup =>
      rw [hsome, Option.all_some] at hcgroup
      rw [Option.all_some]
      by_cases hneeded : requirements.any (·.cgroups) = true
      · simpa [ApplicationIdentity.captured, hneeded] using hcgroup
      · simp [ApplicationIdentity.captured, hneeded] at hcgroup

theorem captureRequirements_covers {needsDetails : Rule → Bool} {rules : List Rule}
    (hmem : rule ∈ rules) (hneeds : needsDetails rule = true)
    (hselector : rule.spec.application = some selector) :
    Covers (captureRequirements needsDetails rules) selector := by
  have hne : rules.isEmpty = false := by
    cases rules with
    | nil => cases hmem
    | cons _ _ => rfl
  have hin : selector ∈ (rules.filter needsDetails).filterMap (·.spec.application) :=
    List.mem_filterMap.mpr ⟨rule, List.mem_filter.mpr ⟨hmem, hneeds⟩, hselector⟩
  simp only [captureRequirements, hne, Bool.false_eq_true, if_false, Covers, Option.any_some,
    List.any_eq_true]
  exact ⟨fun h => ⟨selector, hin, h⟩, fun h => ⟨selector, hin, h⟩⟩

theorem selector_of_valid (hvalid : PolicyRuleValid rule)
    (hselector : rule.spec.application = some selector) :
    selector.metadataRedacted = false ∧ selector.executable ≠ none ∧
      ∀ commandLine ∈ selector.commandLine, commandLine.validate = .ok () := by
  have hredacted : selector.metadataRedacted = false := by
    simpa [hselector] using hvalid.unredacted
  have hselectorValid : selector.validate = .ok () := by
    have hspec := hvalid.spec
    simp only [RuleSpec.validate, hselector] at hspec
    split_ifs at hspec
    cases happlication : selector.validate with
    | ok _ => rfl
    | error e =>
      rw [happlication] at hspec
      cases hspec
  simp only [ApplicationSelector.validate, hredacted] at hselectorValid
  by_cases hexecutable : selector.executable = none
  · simp [hexecutable] at hselectorValid
  refine ⟨hredacted, hexecutable, fun commandLine hsome => ?_⟩
  rw [Option.mem_def] at hsome
  cases hfile : selector.executableFile with
  | none => simpa [hexecutable, hfile, hsome] using hselectorValid
  | some file =>
    simp only [hexecutable, hfile, hsome, and_false, if_false, Bool.false_eq_true] at hselectorValid
    exact (Except.bind_unit_eq_ok_iff.mp hselectorValid).2

theorem applicationRuleMatches_captured {needsDetails : Rule → Bool} {rules : List Rule}
    (hmem : applicationRuleNetworkAndUidMatches rule connection = true → rule ∈ rules)
    (hneeds : needsDetails rule = true) :
    applicationRuleMatches rule connection
        (identity.captured (captureRequirements needsDetails rules)) =
      applicationRuleMatches rule connection identity := by
  unfold applicationRuleMatches
  cases hmatch : applicationRuleNetworkAndUidMatches rule connection with
  | false => rfl
  | true =>
    cases hselector : rule.spec.application with
    | none => rfl
    | some selector =>
      simp only [Option.any_some, Bool.true_and]
      exact matches_captured_of_covers
        (captureRequirements_covers (hmem hmatch) hneeds hselector)

theorem applicationRuleMatches_of_captured (hvalid : PolicyRuleValid rule)
    (h : applicationRuleMatches rule connection (identity.captured requirements) = true) :
    applicationRuleMatches rule connection identity = true := by
  rw [applicationRuleMatches, Bool.and_eq_true] at h ⊢
  refine ⟨h.1, ?_⟩
  cases hselector : rule.spec.application with
  | none => simp [hselector] at h
  | some selector =>
    rw [hselector, Option.any_some] at h
    rw [Option.any_some]
    exact matches_of_captured (selector_of_valid hvalid hselector).2.2 h.2

theorem fastMatches_of_matches (hvalid : PolicyRuleValid rule)
    (hlearned : rule.spec.origin = .learned ∧ rule.spec.action = .accept)
    (huser : rule.spec.application.all (·.uid.isNone) = false)
    (h : applicationRuleMatches rule connection identity = true) :
    fastLearnedAcceptRuleMatches rule connection identity = true := by
  have hpinned := pinnedFile_of_matches connection identity hvalid h
  rw [applicationRuleMatches, Bool.and_eq_true] at h
  cases hselector : rule.spec.application with
  | none => simp [hselector] at huser
  | some selector =>
    obtain ⟨hredacted, hexecutable, _⟩ := selector_of_valid hvalid hselector
    obtain ⟨executable, hexecutable⟩ := Option.ne_none_iff_exists'.mp hexecutable
    have hfile : selector.executableFile = some identity.executableFile := by
      simpa [pinnedFile?, hselector] using hpinned
    obtain ⟨uid, huid⟩ : ∃ uid, selector.uid = some uid := by
      cases huid : selector.uid with
      | none => simp [hselector, huid] at huser
      | some uid => exact ⟨uid, rfl⟩
    have hmatches := h.2
    simp only [hselector, Option.any_some, ApplicationSelector.matches, hexecutable, huid,
      Option.all_some, Bool.and_eq_true, decide_eq_true_eq] at hmatches
    simp [fastLearnedAcceptRuleMatches, hlearned, h.1, hselector, hredacted, hexecutable, hfile,
      huid, hmatches.1.1.1.1.2, hmatches.1.2]

theorem fastMatches_captured (rule : Rule) :
    fastLearnedAcceptRuleMatches rule connection (identity.captured requirements) =
      fastLearnedAcceptRuleMatches rule connection identity := rfl

end Captured

/-! ### Decisions on captured identities -/

section Decisions

variable (snapshot : ValidSnapshot) (strategy : EnforcementStrategy)
  (connection : OutboundConnection) (identity : ApplicationIdentity)

def needsDetails (rule : Rule) : Bool :=
  !(decide (strategy = .fast) && decide (rule.spec.origin = .learned) &&
    decide (rule.spec.action = .accept))

def requirementsOf (needs : Rule → Bool) : Option IdentityCaptureRequirements :=
  captureRequirements needs
    (snapshot.rules.filter fun rule => applicationRuleNetworkAndUidMatches rule connection)

/-- Denies are decided as before. -/
theorem denyDecision_captured {needs : Rule → Bool} {rules : List Rule}
    (hneeds : ∀ rule, isDeny rule = true → needs rule = true)
    (hmem : ∀ rule ∈ snapshot.rules, isDeny rule = true →
      applicationRuleNetworkAndUidMatches rule connection = true → rule ∈ rules) :
    denyDecision snapshot.toSnapshot connection
        (identity.captured (captureRequirements needs rules)) =
      denyDecision snapshot.toSnapshot connection identity := by
  unfold denyDecision
  congr 1
  refine List.filter_congr fun rule hrule => ?_
  cases hdeny : isDeny rule with
  | false => rw [isDeny] at hdeny; rw [hdeny]; rfl
  | true =>
    have hmatch : applicationRuleMatches rule connection
        (identity.captured (captureRequirements needs rules)) =
        applicationRuleMatches rule connection identity :=
      applicationRuleMatches_captured (hmem rule hrule hdeny) (hneeds rule hdeny)
    rw [hmatch]

theorem denyDecision_matches {snapshot : Snapshot} {connection : OutboundConnection}
    {identity : ApplicationIdentity} {action : RuleAction}
    (h : denyDecision snapshot connection identity = some action) :
    ∃ rule ∈ snapshot.rules, applicationRuleMatches rule connection identity = true := by
  have hne : (snapshot.rules.filter fun rule =>
      decide (rule.spec.action = .drop ∨ rule.spec.action = .reject) &&
        applicationRuleMatches rule connection identity) ≠ [] := by
    intro hnil
    rw [denyDecision, hnil] at h
    cases h
  obtain ⟨rule, hrule⟩ := List.exists_mem_of_ne_nil _ hne
  obtain ⟨hmem, hmatch⟩ := List.mem_filter.mp hrule
  rw [Bool.and_eq_true] at hmatch
  exact ⟨rule, hmem, hmatch.2⟩

theorem denyDecision_requirementsOf :
    denyDecision snapshot.toSnapshot connection
        (identity.captured (requirementsOf snapshot connection (needsDetails strategy))) =
      denyDecision snapshot.toSnapshot connection identity := by
  refine denyDecision_captured snapshot connection identity (fun rule h => ?_)
    fun rule hrule _ hmatch => List.mem_filter.mpr ⟨hrule, hmatch⟩
  have haction : rule.spec.action ≠ .accept := by
    intro haccept
    simp [isDeny, haccept] at h
  simp [needsDetails, haction]

/-- In `enforcing` a decision on a captured identity is the one on the full identity unless the
only rules that match are overlooked. -/
theorem policyDecision_captured_iff (captured : ApplicationIdentity)
    (hcaptured : captured =
      identity.captured (requirementsOf snapshot connection (needsDetails strategy))) :
    policyDecision snapshot.toSnapshot strategy connection captured =
        policyDecision snapshot.toSnapshot strategy connection identity ↔
      ∀ rule ∈ snapshot.rules, Overlooked strategy connection identity captured rule →
        ∃ other ∈ snapshot.rules, Decides strategy connection captured other = true := by
  have hdeny : denyDecision snapshot.toSnapshot connection captured =
      denyDecision snapshot.toSnapshot connection identity := by
    rw [hcaptured]
    exact denyDecision_requirementsOf snapshot strategy connection identity
  -- a rule that decides on the full identity decides on the captured one, or is overlooked
  have hfull : ∀ rule ∈ snapshot.rules, Decides strategy connection identity rule = true →
      Decides strategy connection captured rule = true ∨
        Overlooked strategy connection identity captured rule := by
    intro rule hrule hdecides
    simp only [Decides, Bool.or_eq_true] at hdecides ⊢
    rcases hdecides with (happlication | hfast) | hnetwork
    · by_cases hmatch : applicationRuleMatches rule connection captured = true
      · exact .inl (.inl (.inl hmatch))
      have hneeds : needsDetails strategy rule = false := by
        by_contra hneeds
        have hsame : applicationRuleMatches rule connection
            (identity.captured (requirementsOf snapshot connection (needsDetails strategy))) =
            applicationRuleMatches rule connection identity :=
          applicationRuleMatches_captured (fun h => List.mem_filter.mpr ⟨hrule, h⟩)
            (Bool.eq_true_of_not_eq_false hneeds)
        rw [← hcaptured] at hsame
        exact hmatch (hsame.trans happlication)
      simp only [needsDetails, Bool.not_eq_false', Bool.and_eq_true, decide_eq_true_eq] at hneeds
      cases huser : rule.spec.application.all (·.uid.isNone) with
      | true =>
        exact .inr ⟨hneeds.1.1, ⟨hneeds.1.2, hneeds.2⟩, huser, happlication,
          Bool.eq_false_of_not_eq_true hmatch⟩
      | false =>
        have hfast := fastMatches_of_matches (snapshot.rule_valid hrule)
          ⟨hneeds.1.2, hneeds.2⟩ huser happlication
        rw [hcaptured, fastMatches_captured, hfast]
        simp [hneeds.1.1]
    · rw [hcaptured, fastMatches_captured]
      exact .inl (.inl (.inr hfast))
    · exact .inl (.inr hnetwork)
  have hreduced : ∀ rule ∈ snapshot.rules, Decides strategy connection captured rule = true →
      Decides strategy connection identity rule = true := by
    intro rule hrule hdecides
    simp only [Decides, Bool.or_eq_true] at hdecides ⊢
    rw [hcaptured, fastMatches_captured] at hdecides
    rcases hdecides with (happlication | hfast) | hnetwork
    · exact .inl (.inl
        (applicationRuleMatches_of_captured (snapshot.rule_valid hrule) happlication))
    · exact .inl (.inr hfast)
    · exact .inr hnetwork
  rw [policyDecision_eq_action, policyDecision_eq_action, hdeny]
  cases hdenied : denyDecision snapshot.toSnapshot connection identity with
  | some action =>
    -- a deny that matches the full identity matches the captured one
    rw [Option.some_or, Option.some_or]
    refine iff_of_true rfl fun _ _ _ => ?_
    obtain ⟨other, hother, hmatch⟩ := denyDecision_matches (hdeny.trans hdenied)
    exact ⟨other, hother, by simp [Decides, hmatch]⟩
  | none =>
    rw [Option.none_or, Option.none_or]
    by_cases hany : ∃ other ∈ snapshot.rules, Decides strategy connection captured other = true
    · obtain ⟨other, hother, hdecides⟩ := hany
      rw [if_pos (List.any_eq_true.mpr ⟨other, hother, hdecides⟩),
        if_pos (List.any_eq_true.mpr ⟨other, hother, hreduced other hother hdecides⟩)]
      exact iff_of_true rfl fun _ _ _ => ⟨other, hother, hdecides⟩
    · rw [if_neg fun h => hany (List.any_eq_true.mp h)]
      constructor
      · intro heq rule hrule hoverlooked
        have hdecides : Decides strategy connection identity rule = true := by
          simp [Decides, hoverlooked.full]
        rw [if_pos (List.any_eq_true.mpr ⟨rule, hrule, hdecides⟩)] at heq
        cases heq
      · intro hnone
        rw [if_neg]
        intro h
        obtain ⟨rule, hrule, hdecides⟩ := List.any_eq_true.mp h
        rcases hfull rule hrule hdecides with hcapturedToo | hoverlooked
        · exact hany ⟨rule, hrule, hcapturedToo⟩
        · exact hany (hnone rule hrule hoverlooked)

theorem retained_of_matches (hmode : snapshot.mode = .enforcing) (rule : Rule)
    (h : applicationRuleNetworkAndUidMatches rule connection = true) :
    retainedForDecision snapshot.mode rule = true := by
  obtain ⟨henabled, -, hsome⟩ := networkAndUidMatches_enabled h
  simp [retainedForDecision, hmode, henabled, hsome]

theorem enforcementCaptureRequirements_eq (hmode : snapshot.mode = .enforcing) :
    (buildApplicationDecisionPolicy snapshot.toSnapshot
        strategy).enforcementCaptureRequirements connection =
      requirementsOf snapshot connection (needsDetails strategy) := by
  have hrules := filter_retained
    (fun rule => applicationRuleNetworkAndUidMatches rule connection)
    (retained_of_matches snapshot connection hmode)
  rw [build_eq, if_pos hmode, requirementsOf, ← hrules]
  rfl

theorem action_eq (hmode : snapshot.mode = .enforcing) :
    (buildApplicationDecisionPolicy snapshot.toSnapshot strategy).action connection identity =
      policyDecision snapshot.toSnapshot strategy connection identity := by
  rw [ApplicationDecisionPolicy.action, build_eq, if_pos hmode,
    map_action_matchingRule, policyDecision_retained hmode]

theorem denyAction_eq (hmode : snapshot.mode = .learning) :
    (buildApplicationDecisionPolicy snapshot.toSnapshot strategy).denyAction connection identity =
      denyDecision snapshot.toSnapshot connection identity := by
  rw [ApplicationDecisionPolicy.denyAction, build_eq, map_action_matchingDenyRule,
    denyDecision_retained hmode]

theorem denyAction_captured (hmode : snapshot.mode = .learning) :
    (buildApplicationDecisionPolicy snapshot.toSnapshot strategy).denyAction connection
        (identity.captured ((buildApplicationDecisionPolicy snapshot.toSnapshot
          strategy).denyCaptureRequirements connection)) =
      (buildApplicationDecisionPolicy snapshot.toSnapshot strategy).denyAction connection
        identity := by
  rw [denyAction_eq snapshot strategy connection _ hmode,
    denyAction_eq snapshot strategy connection _ hmode]
  refine denyDecision_captured snapshot connection identity (fun _ _ => rfl) ?_
  intro rule hrule hdeny hmatch
  obtain ⟨henabled, hdirection, hsome⟩ := networkAndUidMatches_enabled hmatch
  have hretained : retainedForDecision snapshot.mode rule = true := by
    rw [isDeny] at hdeny
    simp [retainedForDecision, hmode, henabled, hdirection, hsome, of_decide_eq_true hdeny]
  rw [isDeny] at hdeny
  exact List.mem_filter.mpr ⟨List.mem_filter.mpr ⟨hrule, hretained⟩, by rw [hdeny, hmatch]; rfl⟩

end Decisions

namespace Sample

def groupedIdentity : ApplicationIdentity :=
  { pid := 1
    processStartTimeTicks := 0
    executable := ⟨"/a", Sample.accepts_a⟩
    executableFile := ⟨1, 1, 1, 0, 0⟩
    commandLine := []
    uid := 0
    cgroups := [⟨"/b", by decide +kernel⟩] }

def localConnection : OutboundConnection :=
  { sourceAddress := .v4 1
    sourcePort := some 1
    destinationAddress := .v4 2
    destinationPort := some 2
    protocol := .tcp
    outputInterface := ⟨"lo", by decide +kernel⟩
    socketUid := 0 }

def learnedAccept (uid : Option (BitVec 32)) : Rule :=
  { rule .outbound .accept
      (some { selector with uid, cgroup := some ⟨"/b", by decide +kernel⟩ }) with
    spec := { (rule .outbound .accept
      (some { selector with uid, cgroup := some ⟨"/b", by decide +kernel⟩ })).spec with
      origin := .learned } }

def fastState (uid : Option (BitVec 32)) : State :=
  { revision := 0
    flowGeneration := 1
    mode := .enforcing
    enforcementStrategy := .fast
    rules := OrderedMap.empty.insert 1 (learnedAccept uid) }

end Sample

end OpenShield
