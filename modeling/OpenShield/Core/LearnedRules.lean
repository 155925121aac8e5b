import OpenShield.Core.Operations
import OpenShield.Data.TextLength

/-!
# The rules that learning creates

The learner creates two kinds of rules: the accept rule of an observed endpoint and the disabled
skeleton of its application group. Both are known in advance up to identifier and time. A
skeleton is always a valid rule, and the rule of a valid endpoint is unless it would restrict a
port without TCP or UDP.
-/

namespace OpenShield

open Except (bind_eq_ok_iff bind_unit_eq_ok_iff)

/-! ### Names -/

def endpointCharacters : List Char := IpAddr.addressCharacters ++ ['-']

variable {c : Char} {learned : LearnedApplicationEndpoint}

theorem mem_endpointCharacters_of_digits (n : ℕ) (h : c ∈ (toString n).toList) :
    c ∈ endpointCharacters := by
  have hhex : ∀ c ∈ Text.hexCharacters, c ∈ endpointCharacters :=
    List.all_iff_forall_prop.mp (by decide)
  rw [Text.toList_toString] at h
  exact hhex c (Text.mem_hexCharacters_of_mem_toDigits (by omega) (by omega) n c h)

theorem mem_endpointCharacters_of_port {port : Option PortRange} (h : c ∈ (portSuffix port).toList) :
    c ∈ endpointCharacters := by
  have hcolon : ':' ∈ endpointCharacters := by decide
  have hdash : '-' ∈ endpointCharacters := by decide
  cases port with
  | none => cases h
  | some port =>
    simp only [portSuffix] at h
    split_ifs at h
    · simp only [String.toList_append, List.mem_append] at h
      rcases h with h | h
      · rwa [List.mem_singleton.mp h]
      · exact mem_endpointCharacters_of_digits _ h
    · simp only [String.toList_append, List.mem_append] at h
      rcases h with ((h | h) | h) | h
      · rwa [List.mem_singleton.mp h]
      · exact mem_endpointCharacters_of_digits _ h
      · rwa [List.mem_singleton.mp h]
      · exact mem_endpointCharacters_of_digits _ h

variable (endpoint : LearnedEndpoint)

def endpointText : List Char :=
  endpoint.address.display.toList ++ (portSuffix endpoint.port).toList

theorem mem_endpointCharacters {endpoint : LearnedEndpoint} (h : c ∈ endpointText endpoint) :
    c ∈ endpointCharacters := by
  rcases List.mem_append.mp h with h | h
  · exact List.mem_append_left _ (IpAddr.display_characters endpoint.address h)
  · exact mem_endpointCharacters_of_port h

def learnedLead (protocol : TransportProtocol) : List Char :=
  ("learned " ++ protocol.display ++ " ").toList

theorem toList_learnedName :
    (learnedName endpoint).toList = learnedLead endpoint.protocol ++ endpointText endpoint := by
  simp only [learnedName, learnedLead, endpointText, String.toList_append, List.append_assoc]

theorem length_portSuffix_le (port : Option PortRange) : (portSuffix port).toList.length ≤ 12 := by
  have hdigits (n : BitVec 16) : (toString n.toNat).toList.length ≤ 5 := by
    have hlt := n.isLt
    rw [Text.toList_toString]
    exact (Nat.length_toDigits_le_iff (by omega) (by omega)).mpr (by omega)
  cases port with
  | none => decide
  | some port =>
    have hstart := hdigits port.start
    have hstop := hdigits port.stop
    have hcolon : ":".toList.length = 1 := by decide
    have hdash : "-".toList.length = 1 := by decide
    simp only [portSuffix]
    split_ifs
    · simp only [String.toList_append, List.length_append]
      omega
    · simp only [String.toList_append, List.length_append]
      omega

theorem learnedName_check :
    RuleName.check (learnedName endpoint) = .ok () := by
  have hplain : ∀ c ∈ endpointCharacters, c.val ≤ 127 ∧ Text.isWhitespace c = false ∧
      isUnsafeRuleNameCharacter c = false := List.all_iff_forall_prop.mp (by decide)
  have hlead : ∀ c ∈ learnedLead endpoint.protocol, c.val ≤ 127 ∧
      isUnsafeRuleNameCharacter c = false := by
    cases endpoint.protocol <;> exact List.all_iff_forall_prop.mp (by decide)
  have htext := toList_learnedName endpoint
  have hne : endpointText endpoint ≠ [] :=
    List.append_ne_nil_of_left_ne_nil (IpAddr.display_ne_nil endpoint.address) _
  -- one byte per character, and few characters
  have hascii : ∀ c ∈ (learnedName endpoint).toList, c.val ≤ 127 := by
    intro c hc
    rw [htext] at hc
    rcases List.mem_append.mp hc with hc | hc
    · exact (hlead c hc).1
    · exact (hplain c (mem_endpointCharacters hc)).1
  have hsize : (learnedName endpoint).utf8ByteSize ≤ MAX_RULE_NAME_BYTES := by
    have haddress := IpAddr.length_display_le endpoint.address
    have hport := length_portSuffix_le endpoint.port
    have hshort : (learnedLead endpoint.protocol).length ≤ 15 := by
      cases endpoint.protocol <;> decide
    rw [Text.utf8ByteSize_of_ascii hascii, htext, endpointText, List.length_append,
      List.length_append, MAX_RULE_NAME_BYTES]
    omega
  have htrim : Text.trim (learnedName endpoint).toList = (learnedName endpoint).toList := by
    rw [htext]
    refine Text.trim_eq_self (fun c hc => ?_) fun c hc => ?_
    · revert hc
      cases endpoint.protocol <;> rintro ⟨⟩ <;> decide
    · rw [List.getLast?_append_of_ne_nil _ hne] at hc
      exact (hplain c (mem_endpointCharacters (List.mem_of_getLast? hc))).2.1
  have hsafe : (learnedName endpoint).toList.any isUnsafeRuleNameCharacter = false := by
    rw [List.any_eq_false]
    intro c hc
    rw [htext] at hc
    rw [Bool.not_eq_true]
    rcases List.mem_append.mp hc with hc | hc
    · exact (hlead c hc).2
    · exact (hplain c (mem_endpointCharacters hc)).2.2
  have hempty : (learnedName endpoint).isEmpty = false := by
    rw [Bool.eq_false_iff, ne_eq, String.isEmpty_iff]
    intro h
    rw [h] at htext
    exact hne (List.append_eq_nil_iff.mp htext.symm).2
  simp [RuleName.check, hempty, hsize, htrim, hsafe]

theorem RuleName.new_of_check {value : String} (h : RuleName.check value = .ok ()) :
    RuleName.new value = .ok ⟨value, by rw [h]; rfl⟩ := by
  unfold RuleName.new
  split
  · rfl
  · next error herror =>
    rw [h] at herror
    cases herror

/-! ### The two kinds of rules -/

def learnedRuleName : RuleName :=
  ⟨learnedName endpoint, by rw [learnedName_check]; rfl⟩

def templateRuleName : RuleName := ⟨APPLICATION_GROUP_TEMPLATE_NAME, by decide +kernel⟩

variable (key : ApplicationTemplateKey)

def ApplicationTemplateKey.selector : ApplicationSelector :=
  { executable := some key.executable, executableFile := none, commandLine := none, uid := none,
    cgroup := key.cgroup, metadataRedacted := false }

def templateSpec : RuleSpec :=
  { name := templateRuleName, direction := .outbound, action := .accept, protocol := .any,
    peerNetwork := none, port := none, interface := none, application := some key.selector,
    origin := .template, enabled := false }

def endpointSpec (learned : LearnedApplicationEndpoint) : RuleSpec :=
  { name := learnedRuleName learned.endpoint, direction := .outbound, action := .accept,
    protocol := learned.endpoint.protocol,
    peerNetwork := some learned.endpoint.address.toIpNet, port := learned.endpoint.port,
    interface := learned.endpoint.interface, application := some learned.application,
    origin := .learned, enabled := true }

def LearnedEndpoint.PortFits : Prop :=
  endpoint.port = none ∨ endpoint.protocol = .tcp ∨ endpoint.protocol = .udp

instance (endpoint : LearnedEndpoint) : Decidable endpoint.PortFits :=
  inferInstanceAs (Decidable (_ ∨ _ ∨ _))

theorem ApplicationSelector.validate_of_unredacted {selector : ApplicationSelector}
    (h : selector.validate = .ok ()) (hunredacted : selector.metadataRedacted = false) :
    selector.executable ≠ none := by
  intro hnone
  simp [validate, hunredacted, hnone] at h

theorem LearnedApplicationEndpoint.validate_eq_ok (h : learned.validate = .ok ()) :
    learned.endpoint.validate = .ok () ∧ learned.application.validate = .ok () ∧
      (∃ executable, learned.application.executable = some executable) ∧
      (∃ uid, learned.application.uid = some uid) ∧
      (∃ file, learned.application.executableFile = some file) ∧
      learned.application.metadataRedacted = false := by
  unfold validate at h
  cases hendpoint : learned.endpoint.validate with
  | error error =>
    rw [hendpoint] at h
    cases h
  | ok _ =>
    rw [hendpoint] at h
    obtain ⟨happlication, h⟩ := bind_unit_eq_ok_iff.mp h
    split_ifs at h with hincomplete
    push Not at hincomplete
    -- a redacted selector has no user
    have hunredacted : learned.application.metadataRedacted = false := by
      rw [Bool.eq_false_iff]
      intro hredacted
      simp only [ApplicationSelector.validate, hredacted, if_true] at happlication
      split_ifs at happlication with hshape
      exact hincomplete.1 hshape.2.2.2.1
    exact ⟨rfl, happlication, Option.ne_none_iff_exists'.mp
      (ApplicationSelector.validate_of_unredacted happlication hunredacted),
      Option.ne_none_iff_exists'.mp hincomplete.1, Option.ne_none_iff_exists'.mp hincomplete.2,
      hunredacted⟩

theorem LearnedEndpoint.family_of_validate {endpoint : LearnedEndpoint}
    (h : endpoint.validate = .ok ()) :
    protocolNetworkMismatch endpoint.protocol (some endpoint.address.toIpNet) = false := by
  obtain ⟨address, protocol, port, interface⟩ := endpoint
  cases protocol with
  | any => rfl
  | tcp => rfl
  | udp => rfl
  | icmp =>
    cases address with
    | v4 address => rfl
    | v6 address => cases interface <;> cases h
  | icmpV6 =>
    cases address with
    | v4 address => cases interface <;> cases h
    | v6 address => rfl

theorem RuleSpec.validate_application {spec : RuleSpec} {application : ApplicationSelector}
    (hdirection : spec.direction = .outbound) (happlication : spec.application = some application) :
    spec.validate =
      if spec.port ≠ none ∧ ¬(spec.protocol = .tcp ∨ spec.protocol = .udp) then
        .error .portWithIncompatibleProtocol
      else if protocolNetworkMismatch spec.protocol spec.peerNetwork then
        .error .protocolNetworkFamilyMismatch
      else liftApplication application.validate := by
  simp [RuleSpec.validate, hdirection, happlication]

theorem RuleSpec.validate_withoutApplication {spec : RuleSpec} {application : ApplicationSelector}
    (hdirection : spec.direction = .outbound) (happlication : spec.application = some application)
    (hnetwork : spec.peerNetwork ≠ none) (h : spec.validate = .ok ()) :
    RuleSpec.validate { spec with application := none } = .ok () := by
  rw [validate_application hdirection happlication] at h
  split_ifs at h with hport hfamily
  unfold validate
  dsimp only
  rw [if_neg (by simp [hdirection]), if_neg (by simp [hnetwork]), if_neg hport, if_neg hfamily,
    if_neg (by simp)]

theorem templateSpec_validate :
    (templateSpec key).validate = .ok () := by
  rw [RuleSpec.validate_application rfl rfl]
  rfl

theorem endpointSpec_validate (h : learned.validate = .ok ()) :
    (endpointSpec learned).validate =
      if learned.endpoint.PortFits then .ok () else .error .portWithIncompatibleProtocol := by
  obtain ⟨hendpoint, happlication, -, -, -, -⟩ := LearnedApplicationEndpoint.validate_eq_ok h
  have hfamily : protocolNetworkMismatch (endpointSpec learned).protocol
      (endpointSpec learned).peerNetwork = false := LearnedEndpoint.family_of_validate hendpoint
  have hunfit : ((endpointSpec learned).port ≠ none ∧ ¬((endpointSpec learned).protocol = .tcp ∨
      (endpointSpec learned).protocol = .udp)) ↔ ¬learned.endpoint.PortFits :=
    not_or.symm
  rw [RuleSpec.validate_application rfl rfl]
  by_cases hport : learned.endpoint.PortFits
  · rw [if_neg (hunfit.not.mpr (not_not.mpr hport)), if_neg (by simp [hfamily]), if_pos hport,
      happlication]
    rfl
  · rw [if_pos (hunfit.mpr hport), if_neg hport]

/-! ### Creations -/

def RuleSpec.created (spec : RuleSpec) (draw : Uuid × Timestamp) : Rule :=
  { id := draw.1, spec, createdAt := draw.2, updatedAt := draw.2 }

namespace State

variable {s t : State}

def withRule (s : State) (rule : Rule) : State :=
  { s with rules := s.rules.insert rule.id rule, revision := s.revision + 1 }

theorem get?_withRule {rule : Rule} (id : Uuid) :
    (s.withRule rule).rules.get? id = if id = rule.id then some rule else s.rules.get? id :=
  s.rules.get?_insert rule.id id rule

def withRuleEvent (s : State) (rule : Rule) : Event :=
  { revision := s.revision + 1, occurredAt := rule.createdAt, kind := .ruleCreated rule }

def withRuleOutcome (s : State) (rule : Rule) : LearnOutcome :=
  { rule, event := some (s.withRuleEvent rule) }

/-- Everything that a creation of a rule that denies nothing needs. -/
structure Takes (s : State) (rule : Rule) : Prop where
  valid : PolicyRuleValid rule
  size : s.rules.size < MAX_RULES
  free : s.rules.get? rule.id = none
  revision : s.revision ≠ BitVec.allOnes 64

theorem Takes.keeps {rule other : Rule} {id : Uuid} (h : s.Takes rule)
    (hget : s.rules.get? id = some other) : (s.withRule rule).rules.get? id = some other := by
  rw [get?_withRule, if_neg fun heq => ?_]
  · exact hget
  · have hfree := h.free
    rw [← heq, hget] at hfree
    cases hfree

theorem nextRevision_eq (h : s.revision ≠ BitVec.allOnes 64) :
    s.nextRevision = .ok (s.revision + 1) := by
  unfold nextRevision checkedSucc
  rw [if_neg h]

theorem nextRevision_eq_ok {revision : BitVec 64} (h : s.nextRevision = .ok revision) :
    s.revision ≠ BitVec.allOnes 64 ∧ revision = s.revision + 1 := by
  unfold nextRevision checkedSucc at h
  split_ifs at h with hlast
  cases h
  exact ⟨hlast, rfl⟩

variable {draw : Uuid × Timestamp}

theorem createRuleAt_eq_ok_iff {spec : RuleSpec} {created : State × Rule × Event}
    (hpermissive : spec.enabled = true → spec.action = .accept) :
    s.createRuleAt draw.1 spec draw.2 = .ok created ↔ s.Takes (spec.created draw) ∧
      created = (s.withRule (spec.created draw), spec.created draw,
        s.withRuleEvent (spec.created draw)) := by
  have hkeeps : s.generationAfter (spec.enabled && decide (spec.action ≠ .accept)) =
      .ok s.flowGeneration := by
    have hno : (spec.enabled && decide (spec.action ≠ .accept)) = false := by
      cases henabled : spec.enabled with
      | false => rfl
      | true => simp [hpermissive henabled]
    rw [hno]
    rfl
  constructor
  · intro h
    obtain ⟨t, rule, event⟩ := created
    obtain ⟨generation, revision, rfl, hvalid, hsize, hfree, hrevision, hgeneration, rfl, rfl⟩ :=
      createRuleAt_eq_ok h
    obtain ⟨hlast, rfl⟩ := nextRevision_eq_ok hrevision
    cases hgeneration.symm.trans hkeeps
    exact ⟨⟨hvalid, hsize, hfree, hlast⟩, rfl⟩
  · rintro ⟨⟨hvalid, hsize, hfree, hlast⟩, rfl⟩
    have hid : draw.1 ≠ 0 := hvalid.id_ne_zero
    have hrule : Rule.withIdAndTime draw.1 spec draw.2 = .ok (spec.created draw) := by
      refine bind_unit_eq_ok_iff.mpr ⟨hvalid.spec, ?_⟩
      rw [if_neg hid]
      rfl
    refine bind_unit_eq_ok_iff.mpr ⟨(ensure_eq_ok_iff _ _ _).mpr hvalid.unredacted, ?_⟩
    refine bind_unit_eq_ok_iff.mpr ⟨(ensure_eq_ok_iff _ _ _).mpr hvalid.pinned, ?_⟩
    refine bind_unit_eq_ok_iff.mpr ⟨(ensure_eq_ok_iff _ _ _).mpr hsize, ?_⟩
    refine bind_unit_eq_ok_iff.mpr ⟨(ensure_eq_ok_iff _ _ _).mpr ?_, ?_⟩
    · exact Option.isSome_eq_false_iff.mpr (Option.isNone_iff_eq_none.mpr hfree)
    refine bind_eq_ok_iff.mpr ⟨_, liftValidation_eq_ok_iff.mpr hrule, ?_⟩
    refine bind_eq_ok_iff.mpr ⟨_, nextRevision_eq hlast, ?_⟩
    exact bind_eq_ok_iff.mpr ⟨_, hkeeps, rfl⟩

theorem insertApplicationGroupTemplate_eq_ok_iff {key : ApplicationTemplateKey}
    {made : State × LearnOutcome} :
    s.insertApplicationGroupTemplate key draw = .ok made ↔
      s.Takes ((templateSpec key).created draw) ∧
        made = (s.withRule ((templateSpec key).created draw),
          s.withRuleOutcome ((templateSpec key).created draw)) := by
  have hselector : liftValidation (liftApplication (ApplicationSelector.new
      (some key.executable) none none none key.cgroup)) = .ok key.selector := rfl
  have hname : liftValidation (RuleName.new APPLICATION_GROUP_TEMPLATE_NAME) =
      .ok templateRuleName :=
    liftValidation_eq_ok_iff.mpr (RuleName.new_of_check (by decide +kernel))
  have hcreate := @createRuleAt_eq_ok_iff s draw (templateSpec key)
  unfold insertApplicationGroupTemplate
  constructor
  · intro h
    obtain ⟨_, hsame, h⟩ := bind_eq_ok_iff.mp h
    cases hsame.symm.trans hselector
    obtain ⟨_, hsame, h⟩ := bind_eq_ok_iff.mp h
    cases hsame.symm.trans hname
    obtain ⟨created, hcreated, h⟩ := bind_eq_ok_iff.mp h
    obtain ⟨htakes, rfl⟩ := (hcreate fun _ => rfl).mp hcreated
    cases h
    exact ⟨htakes, rfl⟩
  · rintro ⟨htakes, rfl⟩
    refine bind_eq_ok_iff.mpr ⟨_, hselector, ?_⟩
    refine bind_eq_ok_iff.mpr ⟨_, hname, ?_⟩
    exact bind_eq_ok_iff.mpr ⟨_, (hcreate fun _ => rfl).mpr ⟨htakes, rfl⟩, rfl⟩

/-- The network part of an endpoint rule is checked first. It is no weaker than the whole. -/
theorem insertLearnedEndpoint_eq_ok_iff {learned : LearnedApplicationEndpoint}
    {made : State × LearnOutcome} :
    s.insertLearnedEndpoint learned.endpoint (some learned.application) draw = .ok made ↔
      s.Takes ((endpointSpec learned).created draw) ∧
        made = (s.withRule ((endpointSpec learned).created draw),
          s.withRuleOutcome ((endpointSpec learned).created draw)) := by
  have hname : liftValidation (RuleName.new (learnedName learned.endpoint)) =
      .ok (learnedRuleName learned.endpoint) :=
    liftValidation_eq_ok_iff.mpr (RuleName.new_of_check (learnedName_check learned.endpoint))
  have hcreate := @createRuleAt_eq_ok_iff s draw (endpointSpec learned)
  unfold insertLearnedEndpoint
  constructor
  · intro h
    obtain ⟨_, hsame, h⟩ := bind_eq_ok_iff.mp h
    cases hsame.symm.trans hname
    obtain ⟨base, hbase, h⟩ := bind_eq_ok_iff.mp h
    obtain ⟨-, hbase⟩ := bind_unit_eq_ok_iff.mp (liftValidation_eq_ok_iff.mp hbase)
    cases hbase
    obtain ⟨-, h⟩ := bind_unit_eq_ok_iff.mp h
    obtain ⟨created, hcreated, h⟩ := bind_eq_ok_iff.mp h
    obtain ⟨htakes, rfl⟩ := (hcreate fun _ => rfl).mp hcreated
    cases h
    exact ⟨htakes, rfl⟩
  · rintro ⟨htakes, rfl⟩
    have hspec : (endpointSpec learned).validate = .ok () := htakes.valid.spec
    have hbase := RuleSpec.validate_withoutApplication rfl rfl (by rintro ⟨⟩) hspec
    refine bind_eq_ok_iff.mpr ⟨_, hname, ?_⟩
    refine bind_eq_ok_iff.mpr ⟨{ endpointSpec learned with application := none },
      liftValidation_eq_ok_iff.mpr (bind_unit_eq_ok_iff.mpr ⟨hbase, rfl⟩), ?_⟩
    refine bind_unit_eq_ok_iff.mpr ⟨liftValidation_eq_ok_iff.mpr hspec, ?_⟩
    exact bind_eq_ok_iff.mpr ⟨_, (hcreate fun _ => rfl).mpr ⟨htakes, rfl⟩, rfl⟩

end State

theorem templateSpec_policyValid {draw : Uuid × Timestamp}
    (hid : draw.1 ≠ 0) : PolicyRuleValid ((templateSpec key).created draw) :=
  ⟨hid, le_rfl, templateSpec_validate key, rfl, fun h => Bool.noConfusion h.2⟩

theorem endpointSpec_policyValid (h : learned.validate = .ok ()) (hport : learned.endpoint.PortFits)
    {draw : Uuid × Timestamp} (hid : draw.1 ≠ 0) :
    PolicyRuleValid ((endpointSpec learned).created draw) := by
  obtain ⟨-, -, -, -, ⟨file, hfile⟩, hunredacted⟩ := LearnedApplicationEndpoint.validate_eq_ok h
  refine ⟨hid, le_rfl, ?_, hunredacted, fun hunpinned => ?_⟩
  · change (endpointSpec learned).validate = .ok ()
    rw [endpointSpec_validate h, if_pos hport]
  · have hnone : learned.application.executableFile.isNone = true := hunpinned.1
    rw [hfile] at hnone
    cases hnone

end OpenShield
