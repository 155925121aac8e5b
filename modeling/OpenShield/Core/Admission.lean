import OpenShield.Core.Learner

/-!
# The admission index

The packet path asks an index of the policy whether an observation is worth a place in the
learning queue. The index is built by one scan of the rules and answers with counts and sets of
its own. Here it is compared with the learner: an observation is a candidate exactly if the
learner would create its rule, with one exception. An ICMP observation that carries a port passes
as valid, but its rule does not.
-/

namespace OpenShield

inductive ApplicationLearningAdmission
  /-- The exact endpoint was learned before. -/
  | alreadyKnown
  /-- At least one count budget is used up. -/
  | saturated
  /-- The endpoint can still become a rule. -/
  | candidate
  deriving DecidableEq, Repr

/-- Exact deduplication and count budgets of one revision. -/
structure ApplicationLearningAdmissionIndex where
  limits : LearningLimits
  revision : BitVec 64
  flowGeneration : BitVec 32
  mode : Mode
  totalRuleCount : ℕ
  learnedRuleCount : ℕ
  known : List LearnedRuleKey
  knownTemplates : List ApplicationTemplateKey
  learnedPerUid : List (BitVec 32)
  learnedPerApplication : List (BitVec 32 × ExecutableFileId)
  deriving DecidableEq

namespace ApplicationLearningAdmissionIndex

def observe (index : ApplicationLearningAdmissionIndex) (rule : Rule) :
    ApplicationLearningAdmissionIndex :=
  if !isAutomaticRule rule then index
  else
    let index := { index with learnedRuleCount := index.learnedRuleCount + 1 }
    let index :=
      match ApplicationTemplateKey.fromTemplate rule with
      | some template => { index with knownTemplates := template :: index.knownTemplates }
      | none => index
    if rule.spec.origin ≠ .learned ∨ rule.spec.direction ≠ .outbound then index
    else
      let index := { index with known := LearnedRuleKey.fromRule rule :: index.known }
      match rule.spec.application with
      | none => index
      | some application =>
        match application.uid, application.executableFile with
        | some uid, some file =>
          { index with
            learnedPerUid := uid :: index.learnedPerUid
            learnedPerApplication := (uid, file) :: index.learnedPerApplication }
        | _, _ => index

def fromState (s : State) (limits : LearningLimits) : ApplicationLearningAdmissionIndex :=
  s.rules.values.foldl observe
    { limits, revision := s.revision, flowGeneration := s.flowGeneration, mode := s.mode,
      totalRuleCount := s.rules.size, learnedRuleCount := 0, known := [], knownTemplates := [],
      learnedPerUid := [], learnedPerApplication := [] }

def classify (index : ApplicationLearningAdmissionIndex) (learned : LearnedApplicationEndpoint) :
    Except ApplicationValidationError ApplicationLearningAdmission := do
  learned.validate
  if LearnedRuleKey.fromApplicationEndpoint learned ∈ index.known then return .alreadyKnown
  match learned.application.executable with
  | none => throw .incompleteLearnedApplicationIdentity
  | some executable =>
    let template : ApplicationTemplateKey := { executable, cgroup := learned.application.cgroup }
    let requiredSlots := 1 + if template ∈ index.knownTemplates then 0 else 1
    if MAX_RULES < index.totalRuleCount + requiredSlots ∨
        MAX_AUTOMATIC_LEARNED_RULES < index.learnedRuleCount + requiredSlots then
      return .saturated
    match learned.application.uid with
    | none => throw .incompleteLearnedApplicationIdentity
    | some uid =>
      match learned.application.executableFile with
      | none => throw .incompleteLearnedApplicationIdentity
      | some file =>
        if index.limits.perUid ≤ index.learnedPerUid.count uid ∨
            index.limits.perApplication ≤ index.learnedPerApplication.count (uid, file) then
          return .saturated
        return .candidate

/-! ### The scan -/

structure Summarizes (rules : List Rule) (base index : ApplicationLearningAdmissionIndex) :
    Prop where
  limits : index.limits = base.limits
  totalRuleCount : index.totalRuleCount = base.totalRuleCount
  learnedRuleCount : index.learnedRuleCount = base.learnedRuleCount + rules.countP isAutomaticRule
  known : index.known.Perm
    ((rules.filter isLearnedOutbound).map LearnedRuleKey.fromRule ++ base.known)
  knownTemplates : index.knownTemplates.Perm
    (rules.filterMap ApplicationTemplateKey.fromTemplate ++ base.knownTemplates)
  learnedPerUid : index.learnedPerUid.Perm
    ((rules.filterMap learnedOwner?).map Prod.fst ++ base.learnedPerUid)
  learnedPerApplication : index.learnedPerApplication.Perm
    (rules.filterMap learnedOwner? ++ base.learnedPerApplication)

namespace Summarizes

variable {front back : List Rule} {base middle index : ApplicationLearningAdmissionIndex}
  {rule : Rule}

theorem refl (base : ApplicationLearningAdmissionIndex) : Summarizes [] base base :=
  ⟨rfl, rfl, rfl, .refl _, .refl _, .refl _, .refl _⟩

/-- Findings in front of others, in any order. -/
theorem perm_append {α : Type} {found first second old : List α} {mid : List α}
    (h : found.Perm (second ++ mid)) (hmid : mid.Perm (first ++ old)) :
    found.Perm ((first ++ second) ++ old) :=
  calc
    found.Perm (second ++ mid) := h
    (second ++ mid).Perm (second ++ (first ++ old)) := hmid.append_left second
    (second ++ (first ++ old)).Perm ((second ++ first) ++ old) := .of_eq (by simp)
    ((second ++ first) ++ old).Perm ((first ++ second) ++ old) :=
      List.perm_append_comm.append_right old

theorem trans (h : Summarizes front base middle) (h' : Summarizes back middle index) :
    Summarizes (front ++ back) base index where
  limits := h'.limits.trans h.limits
  totalRuleCount := h'.totalRuleCount.trans h.totalRuleCount
  learnedRuleCount := by
    rw [h'.learnedRuleCount, h.learnedRuleCount, List.countP_append, Nat.add_assoc]
  known := by
    rw [List.filter_append, List.map_append]
    exact perm_append h'.known h.known
  knownTemplates := by
    rw [List.filterMap_append]
    exact perm_append h'.knownTemplates h.knownTemplates
  learnedPerUid := by
    rw [List.filterMap_append, List.map_append]
    exact perm_append h'.learnedPerUid h.learnedPerUid
  learnedPerApplication := by
    rw [List.filterMap_append]
    exact perm_append h'.learnedPerApplication h.learnedPerApplication

theorem observe (base : ApplicationLearningAdmissionIndex) (rule : Rule) :
    Summarizes [rule] base (base.observe rule) := by
  unfold ApplicationLearningAdmissionIndex.observe
  cases hautomatic : isAutomaticRule rule with
  | false =>
    -- the three scans pass over rules that nobody learned
    have horigin : rule.spec.origin ≠ .learned ∧ rule.spec.origin ≠ .template := by
      simpa [isAutomaticRule, not_or] using hautomatic
    have hlearned : isLearnedOutbound rule = false := by simp [isLearnedOutbound, horigin.1]
    have htemplate : ApplicationTemplateKey.fromTemplate rule = none := by
      unfold ApplicationTemplateKey.fromTemplate
      split
      · rfl
      · rw [if_pos (.inl horigin.2)]
    have howner : learnedOwner? rule = none := by simp [learnedOwner?, hlearned]
    refine ⟨rfl, rfl, ?_, ?_, ?_, ?_, ?_⟩ <;> simp [hautomatic, hlearned, htemplate, howner]
  | true =>
    simp only [Bool.not_true, Bool.false_eq_true, if_false]
    cases hlearned : isLearnedOutbound rule with
    | false =>
      have hother : rule.spec.origin ≠ .learned ∨ rule.spec.direction ≠ .outbound := by
        simpa [isLearnedOutbound, ← not_and_or] using hlearned
      have howner : learnedOwner? rule = none := by simp [learnedOwner?, hlearned]
      rw [if_pos hother]
      cases htemplate : ApplicationTemplateKey.fromTemplate rule <;>
        refine ⟨rfl, rfl, ?_, ?_, ?_, ?_, ?_⟩ <;>
        simp [hautomatic, hlearned, htemplate, howner]
    | true =>
      have hboth : rule.spec.origin = .learned ∧ rule.spec.direction = .outbound := by
        simpa [isLearnedOutbound] using hlearned
      have htemplate : ApplicationTemplateKey.fromTemplate rule = none := by
        unfold ApplicationTemplateKey.fromTemplate
        split
        · rfl
        · rw [if_pos (.inl (by simp [hboth.1]))]
      rw [if_neg (by simp [hboth]), htemplate]
      -- a learned rule counts against its owner, if it has one
      cases happlication : rule.spec.application with
      | none =>
        have howner : learnedOwner? rule = none := by
          simp [learnedOwner?, hlearned, happlication]
        refine ⟨rfl, rfl, ?_, ?_, ?_, ?_, ?_⟩ <;> simp [hautomatic, hlearned, htemplate, howner]
      | some application =>
        cases huid : application.uid <;> cases hfile : application.executableFile <;>
          simp only [huid, hfile] <;> refine ⟨rfl, rfl, ?_, ?_, ?_, ?_, ?_⟩ <;>
          simp [hautomatic, hlearned, htemplate, learnedOwner?, happlication, huid, hfile]

theorem foldl (base : ApplicationLearningAdmissionIndex) (rules : List Rule) :
    Summarizes rules base (rules.foldl ApplicationLearningAdmissionIndex.observe base) := by
  induction rules generalizing base with
  | nil => exact refl base
  | cons rule rest ih => exact (observe base rule).trans (ih (base.observe rule))

end Summarizes

variable {s : State} {limits : LearningLimits} {learned : LearnedApplicationEndpoint}
  {key : ApplicationTemplateKey} {owner : BitVec 32 × ExecutableFileId}

theorem fromState_summarizes (s : State) (limits : LearningLimits) :
    let index := fromState s limits
    let scan := LearnProgress.start s
    index.limits = limits ∧ index.totalRuleCount = s.rules.size ∧
      index.learnedRuleCount = s.automaticCount ∧ index.known.Perm scan.known ∧
      index.knownTemplates.Perm scan.knownTemplates ∧
      index.learnedPerUid.Perm scan.learnedPerUid ∧
      index.learnedPerApplication.Perm scan.learnedPerApplication := by
  have h := Summarizes.foldl
    { limits, revision := s.revision, flowGeneration := s.flowGeneration, mode := s.mode,
      totalRuleCount := s.rules.size, learnedRuleCount := 0, known := [], knownTemplates := [],
      learnedPerUid := [], learnedPerApplication := [] } s.rules.values
  have hcount := h.learnedRuleCount
  have hknown := h.known
  have htemplates := h.knownTemplates
  have huid := h.learnedPerUid
  have happlication := h.learnedPerApplication
  simp only [List.append_nil, Nat.zero_add] at hcount hknown htemplates huid happlication
  exact ⟨h.limits, h.totalRuleCount, hcount, hknown, htemplates, huid, happlication⟩

def Crowded (s : State) (key : ApplicationTemplateKey) : Prop :=
  MAX_RULES < s.rules.size + LearnProgress.slots (LearnProgress.start s).knownTemplates key ∨
    MAX_AUTOMATIC_LEARNED_RULES <
      s.automaticCount + LearnProgress.slots (LearnProgress.start s).knownTemplates key

instance (s : State) (key : ApplicationTemplateKey) : Decidable (Crowded s key) :=
  inferInstanceAs (Decidable (_ ∨ _))

theorem classify_fromState (hvalid : learned.validate = .ok ())
    (hid : LearnProgress.Identifies learned key owner) :
    (fromState s limits).classify learned = .ok
      (if LearnedRuleKey.fromApplicationEndpoint learned ∈ (LearnProgress.start s).known then
        .alreadyKnown
      else if Crowded s key then .saturated
      else if (LearnProgress.start s).Exhausted limits owner then .saturated
      else .candidate) := by
  obtain ⟨hlimits, htotal, hcount, hknown, htemplates, huid, happlication⟩ :=
    fromState_summarizes s limits
  obtain ⟨hexecutable, hcgroup⟩ := hid.parts
  have hslots : 1 + (if key ∈ (fromState s limits).knownTemplates then 0 else 1) =
      LearnProgress.slots (LearnProgress.start s).knownTemplates key := by
    rw [LearnProgress.slots, Nat.add_comm]
    simp only [htemplates.mem_iff]
  simp only [classify, hvalid, hexecutable, hcgroup, hid.uid, hid.file, hknown.mem_iff, htotal,
    hcount, hlimits, huid.count_eq, happlication.count_eq, hslots]
  refine Except.bind_unit_eq_ok_iff.mpr ⟨rfl, ?_⟩
  by_cases hmem : LearnedRuleKey.fromApplicationEndpoint learned ∈ (LearnProgress.start s).known
  · rw [if_pos hmem, if_pos hmem]
    rfl
  rw [if_neg hmem, if_neg hmem]
  by_cases hcrowded : Crowded s key
  · rw [if_pos hcrowded]
    rw [Crowded] at hcrowded
    rw [if_pos hcrowded]
    rfl
  rw [if_neg hcrowded]
  rw [Crowded] at hcrowded
  rw [if_neg hcrowded]
  by_cases hexhausted : (LearnProgress.start s).Exhausted limits owner
  · rw [if_pos hexhausted]
    rw [LearnProgress.Exhausted] at hexhausted
    rw [if_pos hexhausted]
    rfl
  · rw [if_neg hexhausted]
    rw [LearnProgress.Exhausted] at hexhausted
    rw [if_neg hexhausted]
    rfl

end ApplicationLearningAdmissionIndex

/-! ### The index and the learner -/

open ApplicationLearningAdmissionIndex

/-- Index and learner agree on an endpoint: it is already known exactly if a learned outbound rule
has its key, a candidate exactly if the learner adds an enabled accept rule with its key, and
saturated exactly if the learner adds nothing although the key is new. -/
def AdmissionAgrees (s : State) (limits : LearningLimits) (learned : LearnedApplicationEndpoint)
    (maximumNew : ℕ) (supply : Supply) : Prop :=
  let admission := (fromState s limits).classify learned
  let after := (s.learnNewApplicationEndpointsWithLimits [learned] maximumNew limits supply).2
  let known := ∃ rule ∈ s.rules.values, isLearnedOutbound rule = true ∧
    LearnedRuleKey.fromRule rule = .fromApplicationEndpoint learned
  (admission = .ok .alreadyKnown ↔ known) ∧
    (admission = .ok .candidate ↔ ∃ rule ∈ after.rules.values, rule ∉ s.rules.values ∧
      isLearnedOutbound rule = true ∧ rule.spec.enabled = true ∧ rule.spec.action = .accept ∧
      LearnedRuleKey.fromRule rule = .fromApplicationEndpoint learned) ∧
    (admission = .ok .saturated ↔ after = s ∧ ¬known)

/-- Identifiers that a state can still use, one for each of the next `count` rules. -/
structure Supply.Fresh (supply : Supply) (s : State) (count : ℕ) : Prop where
  nonzero : ∀ k < count, (supply k).1 ≠ 0
  unused : ∀ k < count, s.rules.get? (supply k).1 = none
  distinct : ∀ j < count, ∀ k < count, (supply j).1 = (supply k).1 → j = k

section Agreement

variable {s : State} {limits : LearningLimits} {learned : LearnedApplicationEndpoint}
  {key : ApplicationTemplateKey} {owner : BitVec 32 × ExecutableFileId} {maximumNew : ℕ}
  {supply : Supply}

theorem mem_start_known :
    LearnedRuleKey.fromApplicationEndpoint learned ∈ (LearnProgress.start s).known ↔
      ∃ rule ∈ s.rules.values, isLearnedOutbound rule = true ∧
        LearnedRuleKey.fromRule rule = .fromApplicationEndpoint learned := by
  simp only [LearnProgress.start, List.mem_map, List.mem_filter]
  exact exists_congr fun rule => and_assoc

theorem learningRoom_lt_slots_iff (hroom : 2 ≤ maximumNew) :
    s.learningRoom maximumNew <
        LearnProgress.slots (LearnProgress.start s).knownTemplates key ↔ Crowded s key := by
  have hpos : 1 ≤ LearnProgress.slots (LearnProgress.start s).knownTemplates key := by
    simp [LearnProgress.slots]
  have hle : LearnProgress.slots (LearnProgress.start s).knownTemplates key ≤ 2 := by
    rw [LearnProgress.slots]
    split_ifs <;> omega
  rw [Crowded, State.learningRoom]
  omega

theorem learn_singleton (hvalid : learned.validate = .ok ()) :
    (s.learnNewApplicationEndpointsWithLimits [learned] maximumNew limits supply).2 =
      match (LearnProgress.start s).learnOne limits (s.learningRoom maximumNew) supply learned with
      | .next p | .stop p | .fail _ p => p.state := by
  have htake : [learned].take MAX_RULES = [learned] := rfl
  rw [State.learnNewApplicationEndpointsWithLimits_eq (by simpa [htake] using hvalid), htake]
  simp only [LearnProgress.learnAll]
  cases (LearnProgress.start s).learnOne limits (s.learningRoom maximumNew) supply learned <;> rfl

theorem learn_unchanged (hvalid : learned.validate = .ok ())
    (hid : LearnProgress.Identifies learned key owner) (hroom : 2 ≤ maximumNew)
    (h : LearnedRuleKey.fromApplicationEndpoint learned ∈ (LearnProgress.start s).known ∨
      Crowded s key ∨ (LearnProgress.start s).Exhausted limits owner) :
    (s.learnNewApplicationEndpointsWithLimits [learned] maximumNew limits supply).2 = s := by
  rw [learn_singleton hvalid]
  have hhandles := LearnProgress.learnOne_handles limits (s.learningRoom maximumNew) supply
    (LearnProgress.start s) hid
  generalize (LearnProgress.start s).learnOne limits (s.learningRoom maximumNew) supply
    learned = step at hhandles
  -- what the last three cases know about the endpoint
  have hnot (hnew : LearnedRuleKey.fromApplicationEndpoint learned ∉
      (LearnProgress.start s).known)
      (hfits : (LearnProgress.start s).outcomes.length +
        LearnProgress.slots (LearnProgress.start s).knownTemplates key ≤
          s.learningRoom maximumNew)
      (hfree : ¬(LearnProgress.start s).Exhausted limits owner) : False := by
    rcases h with h | h | h
    · exact hnew h
    · have := (learningRoom_lt_slots_iff hroom).mpr h
      have hnone : (LearnProgress.start s).outcomes.length = 0 := rfl
      omega
    · exact hfree h
  cases hhandles with
  | known => rfl
  | full => rfl
  | exhausted => rfl
  | templateFails hnew hfits hfree => exact (hnot hnew hfits hfree).elim
  | endpointFails hnew hfits hfree => exact (hnot hnew hfits hfree).elim
  | learns hnew hfits hfree => exact (hnot hnew hfits hfree).elim

theorem State.WellFormed.notMem_of_free {rule : Rule} (hs : s.WellFormed)
    (hfree : s.rules.get? rule.id = none) : rule ∉ s.rules.values := by
  intro hmem
  obtain ⟨entry, hentry, rfl⟩ := List.mem_map.mp hmem
  exact (s.rules.get?_eq_none_iff _).mp hfree entry hentry (hs.entries entry hentry).1

theorem fromRule_template_ne (hid : LearnProgress.Identifies learned key owner)
    (group : ApplicationTemplateKey) (draw : Uuid × Timestamp) :
    LearnedRuleKey.fromRule ((templateSpec group).created draw) ≠
      .fromApplicationEndpoint learned := by
  intro heq
  have happlication : some group.selector = some learned.application :=
    congrArg LearnedRuleKey.application heq
  have huid : none = learned.application.uid :=
    congrArg ApplicationSelector.uid (Option.some.inj happlication)
  rw [hid.uid] at huid
  cases huid

theorem learn_candidate (hs : s.WellFormed) (hrevision : s.revision.toNat + 2 < 2 ^ 64)
    (hvalid : learned.validate = .ok ()) (hid : LearnProgress.Identifies learned key owner)
    (hroom : 2 ≤ maximumNew) (hfresh : supply.Fresh s 2)
    (hnew : LearnedRuleKey.fromApplicationEndpoint learned ∉ (LearnProgress.start s).known)
    (hfits : ¬Crowded s key) (hfree : ¬(LearnProgress.start s).Exhausted limits owner) :
    (∃ rule ∈ (s.learnNewApplicationEndpointsWithLimits [learned] maximumNew limits
        supply).2.rules.values, rule ∉ s.rules.values ∧ isLearnedOutbound rule = true ∧
        rule.spec.enabled = true ∧ rule.spec.action = .accept ∧
        LearnedRuleKey.fromRule rule = .fromApplicationEndpoint learned) ↔
      learned.endpoint.PortFits := by
  have hslots : LearnProgress.slots (LearnProgress.start s).knownTemplates key ≤ 2 := by
    rw [LearnProgress.slots]
    split_ifs <;> omega
  have hsupplied : LearnProgress.Supplied supply
      (LearnProgress.slots (LearnProgress.start s).knownTemplates key + 0)
      (LearnProgress.start s) := by
    have hdraws (k : ℕ) : (LearnProgress.start s).draws + k = k := Nat.zero_add k
    refine ⟨fun k hk => ?_, fun k hk => ?_, fun j hj k hk heq => ?_, ?_, ?_⟩
    · rw [hdraws]
      exact hfresh.nonzero k (by omega)
    · rw [hdraws]
      exact hfresh.unused k (by omega)
    · rw [hdraws, hdraws] at heq
      exact hfresh.distinct j (by omega) k (by omega) heq
    · rw [Crowded, not_or] at hfits
      exact not_lt.mp hfits.1
    · change s.revision.toNat + _ < _
      omega
  obtain ⟨p', htemplate, hsupplied', -⟩ := hsupplied.withTemplate
  have hspace : (LearnProgress.start s).outcomes.length +
      LearnProgress.slots (LearnProgress.start s).knownTemplates key ≤
        s.learningRoom maximumNew := by
    have hnone : (LearnProgress.start s).outcomes.length = 0 := rfl
    have := not_lt.mp ((learningRoom_lt_slots_iff hroom).not.mpr hfits)
    omega
  rw [learn_singleton hvalid, LearnProgress.learnOne_of_free hid hnew hspace hfree htemplate]
  by_cases hport : learned.endpoint.PortFits
  · obtain ⟨hendpoint, -⟩ := hsupplied'.withEndpoint hvalid hport owner
    simp only [hendpoint, hport, iff_true]
    have hunused := hsupplied'.unused 0 (by omega)
    refine ⟨(endpointSpec learned).created (supply p'.draws),
      (LearnProgress.values_withRule hunused).mem_iff.mpr List.mem_cons_self, ?_, rfl, rfl, rfl,
      rfl⟩
    refine hs.notMem_of_free ?_
    rcases LearnProgress.withTemplate_eq_ok_iff.mp htemplate with ⟨-, rfl⟩ | ⟨-, -, rfl⟩
    · exact hfresh.unused 0 (by omega)
    · exact hfresh.unused 1 (by omega)
  · simp only [hport, iff_false]
    have hrefused : ∃ error, p'.withEndpoint supply learned owner = .error error := by
      cases hendpoint : p'.withEndpoint supply learned owner with
      | error error => exact ⟨error, rfl⟩
      | ok p'' =>
        obtain ⟨htakes, -⟩ := LearnProgress.withEndpoint_eq_ok_iff.mp hendpoint
        have hspec : (endpointSpec learned).validate = .ok () := htakes.valid.spec
        rw [endpointSpec_validate hvalid, if_neg hport] at hspec
        cases hspec
    obtain ⟨error, herror⟩ := hrefused
    simp only [herror]
    rintro ⟨rule, hmem, hadded, -, -, -, hkey⟩
    rcases LearnProgress.withTemplate_eq_ok_iff.mp htemplate with ⟨-, rfl⟩ | ⟨-, htakes, rfl⟩
    · exact hadded hmem
    · rcases List.mem_cons.mp ((LearnProgress.values_withRule htakes.free).mem_iff.mp hmem) with
        rfl | hold
      · exact fromRule_template_ne hid key _ hkey
      · exact hadded hold

end Agreement

namespace Sample

def learner : State := { State.new with mode := .learning }

def numbers : Supply := fun n => (Fin.ofNat _ (n + 1), 0)

def seenEndpoint (protocol : TransportProtocol) : LearnedApplicationEndpoint :=
  { endpoint :=
      { address := .v4 0x0a000001, protocol, port := some ⟨80, 80, by decide⟩
        interface := some ⟨"eth0", by decide +kernel⟩ }
    application := { selector with uid := some 1000 } }

theorem numbers_fresh : numbers.Fresh learner 2 :=
  ⟨by decide, by decide, by decide⟩

end Sample

end OpenShield
