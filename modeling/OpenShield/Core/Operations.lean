import OpenShield.Core.Learning
import OpenShield.Core.Validity

/-!
# What the state operations do

Each mutator of the policy state is described once: what its success tells about the new
state. The description says whether the flow generation moved and, if it did not, that the
policy only grew. Runs of operations inherit both.
-/

namespace OpenShield

open Except (bind_eq_ok_iff bind_unit_eq_ok_iff)

namespace State

/-- A change that withdraws nothing: enabled rules stay, and new enabled rules accept. -/
structure Grows (s t : State) : Prop where
  strategy : t.enforcementStrategy = s.enforcementStrategy
  keeps : ∀ r ∈ s.rules.values, r.spec.enabled = true → ∃ r' ∈ t.rules.values, r'.spec = r.spec
  adds : ∀ r' ∈ t.rules.values, r'.spec.enabled = true → r'.spec.action ≠ .accept →
    ∃ r ∈ s.rules.values, r.spec = r'.spec

theorem Grows.refl (s : State) : s.Grows s :=
  ⟨rfl, fun r hr _ => ⟨r, hr, rfl⟩, fun r hr _ _ => ⟨r, hr, rfl⟩⟩

variable {s t : State} {generation : BitVec 32} {draw : Uuid × Timestamp} {outcome : LearnOutcome}

theorem Grows.trans {u : State} (hst : s.Grows t) (htu : t.Grows u) : s.Grows u := by
  refine ⟨htu.strategy.trans hst.strategy, fun r hr henabled => ?_, fun r hr henabled hdeny => ?_⟩
  · obtain ⟨r', hr', hspec'⟩ := hst.keeps r hr henabled
    obtain ⟨r'', hr'', hspec''⟩ := htu.keeps r' hr' (by rw [hspec']; exact henabled)
    exact ⟨r'', hr'', hspec''.trans hspec'⟩
  · obtain ⟨r', hr', hspec'⟩ := htu.adds r hr henabled hdeny
    obtain ⟨r'', hr'', hspec''⟩ := hst.adds r' hr' (by rw [hspec']; exact henabled)
      (by rw [hspec']; exact hdeny)
    exact ⟨r'', hr'', hspec''.trans hspec'⟩

/-- How an operation relates the state before it to the state after it: the flow generation
moves on, or the policy grows. The mode changes with the generation, except that the last
generation still allows `blockAll`. -/
structure Follows (s t : State) : Prop where
  generation : s.flowGeneration ≤ t.flowGeneration
  wellFormed : s.WellFormed → t.WellFormed
  grows : t.flowGeneration = s.flowGeneration → s.Grows t
  mode : t.flowGeneration = s.flowGeneration →
    t.mode = s.mode ∨ (t.mode = .blockAll ∧ MAX_FLOW_GENERATION ≤ s.flowGeneration)

theorem Follows.refl (s : State) : s.Follows s :=
  ⟨BitVec.le_refl _, id, fun _ => Grows.refl s, fun _ => .inl rfl⟩

theorem Follows.trans {u : State} (hst : s.Follows t) (htu : t.Follows u) : s.Follows u := by
  -- the generation can only be the same at the ends if it never moved
  have hbetween (h : u.flowGeneration = s.flowGeneration) :
      t.flowGeneration = s.flowGeneration ∧ u.flowGeneration = t.flowGeneration := by
    have hle := htu.generation
    rw [h] at hle
    have hts := BitVec.le_antisymm hle hst.generation
    exact ⟨hts, h.trans hts.symm⟩
  refine ⟨BitVec.le_trans hst.generation htu.generation,
    fun h => htu.wellFormed (hst.wellFormed h), fun h => ?_, fun h => ?_⟩
  · obtain ⟨hts, hut⟩ := hbetween h
    exact (hst.grows hts).trans (htu.grows hut)
  · obtain ⟨hts, hut⟩ := hbetween h
    rcases htu.mode hut with hmode | ⟨hmode, hmax⟩
    · rw [hmode]
      exact hst.mode hts
    · exact .inr ⟨hmode, hts ▸ hmax⟩

/-! ### Generations -/

theorem nextFlowGeneration_spec (h : s.nextFlowGeneration = .ok generation) :
    s.flowGeneration < generation ∧ validFlowGeneration generation = true := by
  unfold nextFlowGeneration at h
  split_ifs at h with hmax
  cases h
  have hlt : s.flowGeneration.toNat < MAX_FLOW_GENERATION.toNat := by
    simpa [BitVec.le_def] using hmax
  have hbound : MAX_FLOW_GENERATION.toNat = 2 ^ 30 - 1 := by decide
  have hsucc : (s.flowGeneration + 1).toNat = s.flowGeneration.toNat + 1 := by
    rw [BitVec.toNat_add]
    exact Nat.mod_eq_of_lt (by simp; omega)
  have hone : (1 : BitVec 32).toNat = 1 := by decide
  refine ⟨BitVec.lt_def.mpr (by omega), ?_⟩
  simp only [validFlowGeneration, Bool.and_eq_true, decide_eq_true_eq, BitVec.le_def]
  omega

theorem nextRevision_toNat {revision : BitVec 64} (h : s.nextRevision = .ok revision) :
    revision.toNat = s.revision.toNat + 1 := by
  unfold nextRevision at h
  split at h
  · next next hnext =>
    cases h
    exact toNat_of_checkedSucc hnext
  · cases h

theorem follows_of_next (h : s.nextFlowGeneration = .ok generation)
    (ht : t.flowGeneration = generation) (hwellFormed : s.WellFormed → t.WellFormed) :
    s.Follows t := by
  obtain ⟨hlt, -⟩ := nextFlowGeneration_spec h
  rw [← ht] at hlt
  have hne : t.flowGeneration ≠ s.flowGeneration := (BitVec.ne_of_lt hlt).symm
  exact ⟨BitVec.le_of_lt hlt, hwellFormed, fun h => absurd h hne, fun h => absurd h hne⟩

theorem follows_of_grows (hgeneration : t.flowGeneration = s.flowGeneration)
    (hmode : t.mode = s.mode) (hgrows : s.Grows t) (hwellFormed : s.WellFormed → t.WellFormed) :
    s.Follows t :=
  ⟨hgeneration ▸ BitVec.le_refl _, hwellFormed, fun _ => hgrows, fun _ => .inl hmode⟩

/-! ### Changes of the rule map -/

section Rules

variable {s : State} {id : Uuid} {rule : Rule} {generation : BitVec 32}

theorem WellFormed.insert (h : s.WellFormed) (hid : rule.id = id) (hrule : PolicyRuleValid rule)
    (hsize : (s.rules.insert id rule).size ≤ MAX_RULES)
    (hgeneration : validFlowGeneration generation = true) (revision : BitVec 64) :
    WellFormed
      { s with rules := s.rules.insert id rule, flowGeneration := generation, revision } := by
  refine ⟨hsize, hgeneration, fun entry hentry => ?_⟩
  rcases (s.rules.mem_entries_insert id rule entry).mp hentry with rfl | ⟨-, hold⟩
  · exact ⟨hid.symm, hrule⟩
  · exact h.entries entry hold

theorem WellFormed.erase (h : s.WellFormed) (hgeneration : validFlowGeneration generation = true)
    (revision : BitVec 64) :
    WellFormed { s with rules := s.rules.erase id, flowGeneration := generation, revision } := by
  refine ⟨(s.rules.size_erase_le id).trans h.size, hgeneration, fun entry hentry => ?_⟩
  exact h.entries entry ((s.rules.mem_entries_erase id entry).mp hentry).2

theorem WellFormed.id_of_get? (h : s.WellFormed) (hget : s.rules.get? id = some rule) :
    rule.id = id ∧ PolicyRuleValid rule := by
  obtain ⟨hid, hrule⟩ := h.entries _ ((s.rules.get?_eq_some_iff id rule).mp hget)
  exact ⟨hid.symm, hrule⟩

theorem grows_of_create {t : State} (hfree : s.rules.get? id = none)
    (hrules : t.rules = s.rules.insert id rule)
    (hstrategy : t.enforcementStrategy = s.enforcementStrategy)
    (hpermissive : rule.spec.enabled = true → rule.spec.action = .accept) : s.Grows t := by
  have hmem := fun w => s.rules.mem_values_insert_of_get?_eq_none rule w hfree
  refine ⟨hstrategy, fun r hr _ => ⟨r, ?_, rfl⟩, fun r hr henabled hdeny => ⟨r, ?_, rfl⟩⟩
  · rw [hrules, hmem]
    exact .inr hr
  · rw [hrules, hmem] at hr
    rcases hr with rfl | hr
    · exact absurd (hpermissive henabled) hdeny
    · exact hr

theorem grows_of_replace {t : State} {current : Rule} (hget : s.rules.get? id = some current)
    (hrules : t.rules = s.rules.insert id rule)
    (hstrategy : t.enforcementStrategy = s.enforcementStrategy)
    (hchange : rule.spec = current.spec ∨ (current.spec.enabled = false ∧
      (rule.spec.enabled = true → rule.spec.action = .accept))) : s.Grows t := by
  have hcurrent := (s.rules.get?_eq_some_iff id current).mp hget
  refine ⟨hstrategy, fun r hr henabled => ?_, fun r hr henabled hdeny => ?_⟩
  · obtain ⟨entry, hentry, rfl⟩ := List.mem_map.mp hr
    by_cases hkey : entry.1 = id
    · -- the replaced rule itself
      cases s.rules.eq_of_mem_of_key_eq hentry hcurrent hkey
      rcases hchange with hspec | ⟨hdisabled, -⟩
      · exact ⟨rule, hrules ▸ List.mem_map.mpr
          ⟨(id, rule), (s.rules.mem_entries_insert id rule _).mpr (.inl rfl), rfl⟩, hspec⟩
      · rw [hdisabled] at henabled
        cases henabled
    · exact ⟨entry.2, hrules ▸ List.mem_map.mpr
        ⟨entry, (s.rules.mem_entries_insert id rule _).mpr (.inr ⟨hkey, hentry⟩), rfl⟩, rfl⟩
  · rw [hrules] at hr
    obtain ⟨entry, hentry, rfl⟩ := List.mem_map.mp hr
    rcases (s.rules.mem_entries_insert id rule entry).mp hentry with rfl | ⟨-, hold⟩
    · rcases hchange with hspec | ⟨-, haccept⟩
      · exact ⟨current, List.mem_map.mpr ⟨_, hcurrent, rfl⟩, hspec.symm⟩
      · exact absurd (haccept henabled) hdeny
    · exact ⟨entry.2, List.mem_map.mpr ⟨entry, hold, rfl⟩, rfl⟩

end Rules

/-! ### The operations one by one -/

theorem generationForMode_cases {mode : Mode} (h : s.generationForMode mode = .ok generation) :
    s.nextFlowGeneration = .ok generation ∨ (mode = .blockAll ∧
      generation = s.flowGeneration ∧ MAX_FLOW_GENERATION ≤ s.flowGeneration) := by
  by_cases hmax : MAX_FLOW_GENERATION ≤ s.flowGeneration
  · have hexhausted : s.nextFlowGeneration = .error .flowGenerationExhausted := if_pos hmax
    simp only [generationForMode, hexhausted] at h
    split_ifs at h with hmode
    cases h
    exact .inr ⟨hmode, rfl, hmax⟩
  · have hnext : s.nextFlowGeneration = .ok (s.flowGeneration + 1) := if_neg hmax
    simp only [generationForMode, hnext] at h
    exact .inl (hnext.trans h)

theorem generationAfter_cases {withdraws : Bool} (h : s.generationAfter withdraws =
  .ok generation) :
    s.nextFlowGeneration = .ok generation ∨
      (withdraws = false ∧ generation = s.flowGeneration) := by
  unfold generationAfter at h
  split_ifs at h with hwithdraws
  · exact .inl h
  · exact .inr ⟨by simpa using hwithdraws, by simpa using h.symm⟩

theorem generationAfter_valid {withdraws : Bool} (hs : s.WellFormed)
    (h : s.generationAfter withdraws = .ok generation) : validFlowGeneration generation = true := by
  rcases generationAfter_cases h with hnext | ⟨-, rfl⟩
  · exact (nextFlowGeneration_spec hnext).2
  · exact hs.generation

section Operations

variable {s t : State} {id : Uuid} {spec : RuleSpec} {now : Timestamp} {rule : Rule}
  {event : Event}

theorem setModeWithStrategyAt_eq_ok {mode : Mode} {strategy : EnforcementStrategy}
    (h : s.setModeWithStrategyAt mode strategy now = .ok (t, event)) :
    ∃ generation revision, s.nextRevision = .ok revision ∧
      s.generationForMode mode = .ok generation ∧
      t = { s with mode, enforcementStrategy := strategy, flowGeneration := generation,
                   revision } ∧
      event = { revision, occurredAt := now, kind := .modeChanged s.mode mode } := by
  unfold setModeWithStrategyAt at h
  obtain ⟨revision, hrevision, h⟩ := bind_eq_ok_iff.mp h
  obtain ⟨generation, hgeneration, h⟩ := bind_eq_ok_iff.mp h
  cases h
  exact ⟨generation, revision, hrevision, hgeneration, rfl, rfl⟩

theorem setModeWithStrategyAt_follows {mode : Mode} {strategy : EnforcementStrategy}
    (hstrategy : mode = .blockAll → strategy = s.enforcementStrategy)
    (h : s.setModeWithStrategyAt mode strategy now = .ok (t, event)) : s.Follows t := by
  obtain ⟨generation, revision, -, hgeneration, rfl, -⟩ := setModeWithStrategyAt_eq_ok h
  rcases generationForMode_cases hgeneration with hnext | ⟨rfl, rfl, hmax⟩
  · exact follows_of_next hnext rfl
      fun hs => ⟨hs.size, (nextFlowGeneration_spec hnext).2, hs.entries⟩
  · exact ⟨BitVec.le_refl _, fun hs => ⟨hs.size, hs.generation, hs.entries⟩,
      fun _ => ⟨hstrategy rfl, fun r hr _ => ⟨r, hr, rfl⟩, fun r hr _ _ => ⟨r, hr, rfl⟩⟩,
      fun _ => .inr ⟨rfl, hmax⟩⟩

/-- As long as a revision is left, `blockAll` can be entered at any generation. -/
theorem setModeAt_blockAll (hrevision : s.revision ≠ BitVec.allOnes 64) (now : Timestamp) :
    ∃ u event, s.setModeAt .blockAll now = .ok (u, event) ∧ u.mode = .blockAll := by
  have hnext : s.nextRevision = .ok (s.revision + 1) := by
    unfold nextRevision checkedSucc
    rw [if_neg hrevision]
  obtain ⟨generation, hgeneration⟩ :
      ∃ generation, s.generationForMode .blockAll = .ok generation := by
    by_cases hmax : MAX_FLOW_GENERATION ≤ s.flowGeneration
    · have hexhausted : s.nextFlowGeneration = .error .flowGenerationExhausted := if_pos hmax
      exact ⟨s.flowGeneration, by simp [generationForMode, hexhausted]⟩
    · have hsucc : s.nextFlowGeneration = .ok (s.flowGeneration + 1) := if_neg hmax
      exact ⟨s.flowGeneration + 1, by simp [generationForMode, hsucc]⟩
  simp only [setModeAt, setModeWithStrategyAt, hnext, hgeneration]
  exact ⟨_, _, rfl, rfl⟩

theorem createRuleAt_eq_ok (h : s.createRuleAt id spec now = .ok (t, rule, event)) :
    ∃ generation revision, rule = { id, spec, createdAt := now, updatedAt := now } ∧
      PolicyRuleValid rule ∧ s.rules.size < MAX_RULES ∧ s.rules.get? id = none ∧
      s.nextRevision = .ok revision ∧
      s.generationAfter (spec.enabled && decide (spec.action ≠ .accept)) = .ok generation ∧
      t = { s with rules := s.rules.insert id rule, flowGeneration := generation, revision } ∧
      event = { revision, occurredAt := now, kind := .ruleCreated rule } := by
  unfold createRuleAt at h
  obtain ⟨hredacted, h⟩ := bind_unit_eq_ok_iff.mp h
  obtain ⟨hpinned, h⟩ := bind_unit_eq_ok_iff.mp h
  obtain ⟨hsize, h⟩ := bind_unit_eq_ok_iff.mp h
  obtain ⟨hfree, h⟩ := bind_unit_eq_ok_iff.mp h
  obtain ⟨rule', hrule, h⟩ := bind_eq_ok_iff.mp h
  obtain ⟨revision, hrevision, h⟩ := bind_eq_ok_iff.mp h
  obtain ⟨generation, hgeneration, h⟩ := bind_eq_ok_iff.mp h
  cases h
  obtain ⟨hspec, hid, rfl⟩ := Rule.withIdAndTime_eq_ok (liftValidation_eq_ok_iff.mp hrule)
  rw [ensure_eq_ok_iff] at hsize hfree
  refine ⟨generation, revision, rfl, ⟨hid, le_rfl, hspec, ?_, ?_⟩, hsize, ?_, hrevision,
    hgeneration, rfl, rfl⟩
  · simpa [rejectRedactedSpec] using hredacted
  · simpa only [rejectUnpinnedApplicationSpec, ensure_eq_ok_iff] using hpinned
  · simpa [OrderedMap.contains] using hfree

theorem createRuleAt_follows (h : s.createRuleAt id spec now = .ok (t, rule, event)) :
    s.Follows t := by
  obtain ⟨generation, revision, rfl, hrule, hsize, hfree, -, hgeneration, rfl, -⟩ :=
    createRuleAt_eq_ok h
  have hwellFormed := fun hs : s.WellFormed => hs.insert rfl hrule
    ((s.rules.size_insert_le id _).trans hsize) (generationAfter_valid hs hgeneration) revision
  rcases generationAfter_cases hgeneration with hnext | ⟨hpermissive, rfl⟩
  · exact follows_of_next hnext rfl hwellFormed
  · refine follows_of_grows rfl rfl (grows_of_create hfree rfl rfl fun henabled => ?_) hwellFormed
    change spec.enabled = true at henabled
    simpa [henabled] using hpermissive

theorem updateRuleAt_eq_ok (h : s.updateRuleAt id spec now = .ok (t, rule, event)) :
    ∃ current generation revision, s.rules.get? id = some current ∧ rule.id = current.id ∧
      rule = { current with
        spec := clearDisabledTemplatePinIfSkeleton spec
        updatedAt := max now current.updatedAt } ∧ PolicyRuleValid rule ∧
      s.nextRevision = .ok revision ∧ s.nextFlowGeneration = .ok generation ∧
      t = { s with rules := s.rules.insert id rule, flowGeneration := generation, revision } ∧
      event = { revision, occurredAt := now, kind := .ruleUpdated rule } := by
  unfold updateRuleAt at h
  obtain ⟨-, h⟩ := bind_unit_eq_ok_iff.mp h
  obtain ⟨hredacted, h⟩ := bind_unit_eq_ok_iff.mp h
  obtain ⟨hpinned, h⟩ := bind_unit_eq_ok_iff.mp h
  obtain ⟨revision, hrevision, h⟩ := bind_eq_ok_iff.mp h
  cases hcurrent : s.rules.get? id with
  | none =>
    rw [hcurrent] at h
    cases h
  | some current =>
    rw [hcurrent] at h
    obtain ⟨generation, hgeneration, h⟩ := bind_eq_ok_iff.mp h
    obtain ⟨hvalid, h⟩ := bind_unit_eq_ok_iff.mp h
    cases h
    refine ⟨current, generation, revision, rfl, rfl, rfl,
      (validatePolicyRule_eq_ok_iff _).mp ?_, hrevision, hgeneration, rfl, rfl⟩
    exact bind_unit_eq_ok_iff.mpr
      ⟨hvalid, bind_unit_eq_ok_iff.mpr ⟨hredacted, hpinned⟩⟩

variable {current : Rule} {enabled : Bool}

theorem WellFormed.replace {generation : BitVec 32} (hs : s.WellFormed)
    (hcurrent : s.rules.get? id = some current) (hid : rule.id = current.id)
    (hrule : PolicyRuleValid rule) (hgeneration : validFlowGeneration generation = true)
    (revision : BitVec 64) :
    WellFormed { s with rules := s.rules.insert id rule, flowGeneration := generation,
                        revision } := by
  refine hs.insert (hid.trans (hs.id_of_get? hcurrent).1) hrule ?_ hgeneration revision
  rw [s.rules.size_insert_of_get?_eq_some rule hcurrent]
  exact hs.size

theorem updateRuleAt_follows (h : s.updateRuleAt id spec now = .ok (t, rule, event)) :
    s.Follows t := by
  obtain ⟨current, generation, revision, hcurrent, hid, -, hrule, -, hnext, rfl, -⟩ :=
    updateRuleAt_eq_ok h
  exact follows_of_next hnext rfl
    fun hs => hs.replace hcurrent hid hrule (nextFlowGeneration_spec hnext).2 revision

theorem deleteRuleAt_eq_ok (h : s.deleteRuleAt id now = .ok (t, rule, event)) :
    ∃ generation revision, s.rules.get? id = some rule ∧ s.nextRevision = .ok revision ∧
      s.nextFlowGeneration = .ok generation ∧
      t = { s with rules := s.rules.erase id, flowGeneration := generation, revision } ∧
      event = { revision, occurredAt := now, kind := .ruleDeleted rule } := by
  unfold deleteRuleAt at h
  obtain ⟨revision, hrevision, h⟩ := bind_eq_ok_iff.mp h
  cases hcurrent : s.rules.get? id with
  | none =>
    rw [hcurrent] at h
    cases h
  | some current =>
    rw [hcurrent] at h
    obtain ⟨generation, hgeneration, h⟩ := bind_eq_ok_iff.mp h
    cases h
    exact ⟨generation, revision, rfl, hrevision, hgeneration, rfl, rfl⟩

theorem deleteRuleAt_follows (h : s.deleteRuleAt id now = .ok (t, rule, event)) :
    s.Follows t := by
  obtain ⟨generation, revision, -, -, hnext, rfl, -⟩ := deleteRuleAt_eq_ok h
  exact follows_of_next hnext rfl fun hs => hs.erase (nextFlowGeneration_spec hnext).2 revision

theorem clearDisabledTemplatePinIfSkeleton_of_enabled (henabled : spec.enabled = true) :
    clearDisabledTemplatePinIfSkeleton spec = spec := by
  unfold clearDisabledTemplatePinIfSkeleton
  rw [if_pos (by simp [henabled])]

theorem clearDisabledTemplatePinIfSkeleton_enabled :
    (clearDisabledTemplatePinIfSkeleton spec).enabled = spec.enabled := by
  unfold clearDisabledTemplatePinIfSkeleton
  split_ifs
  · rfl
  · split
    · rfl
    · split_ifs <;> rfl

theorem clearDisabledTemplatePinIfSkeleton_unredacted
    (h : spec.application.any (·.metadataRedacted) = false) :
    (clearDisabledTemplatePinIfSkeleton spec).application.any (·.metadataRedacted) = false := by
  unfold clearDisabledTemplatePinIfSkeleton
  split_ifs
  · exact h
  · split
    · exact h
    · next selector hselector =>
      split_ifs
      · simpa [hselector] using h
      · exact h

theorem setRuleEnabledAt_eq_ok (h : s.setRuleEnabledAt id enabled now = .ok (t, rule, event)) :
    ∃ current generation revision, s.rules.get? id = some current ∧ rule.id = current.id ∧
      rule = { current with
        spec := clearDisabledTemplatePinIfSkeleton { current.spec with enabled }
        updatedAt := max now current.updatedAt } ∧ (PolicyRuleValid current → PolicyRuleValid rule) ∧ s.nextRevision = .ok revision ∧
      s.generationAfter (switchMovesGeneration current enabled) = .ok generation ∧
      t = { s with rules := s.rules.insert id rule, flowGeneration := generation, revision } ∧
      event = { revision, occurredAt := now, kind := .ruleEnabledChanged rule } := by
  unfold setRuleEnabledAt at h
  obtain ⟨revision, hrevision, h⟩ := bind_eq_ok_iff.mp h
  cases hcurrent : s.rules.get? id with
  | none =>
    rw [hcurrent] at h
    cases h
  | some current =>
    rw [hcurrent] at h
    obtain ⟨generation, hgeneration, h⟩ := bind_eq_ok_iff.mp h
    obtain ⟨hvalid, h⟩ := bind_unit_eq_ok_iff.mp h
    obtain ⟨hpinned, h⟩ := bind_unit_eq_ok_iff.mp h
    cases h
    refine ⟨current, generation, revision, rfl, rfl, rfl, fun hold => ?_, hrevision,
      hgeneration, rfl, rfl⟩
    refine (validatePolicyRule_eq_ok_iff _).mp (bind_unit_eq_ok_iff.mpr
      ⟨hvalid, bind_unit_eq_ok_iff.mpr ⟨?_, hpinned⟩⟩)
    exact (ensure_eq_ok_iff _ _ ()).mpr
      (clearDisabledTemplatePinIfSkeleton_unredacted hold.unredacted)

/-- A switch that keeps the generation leaves the rule as it is, or changes a disabled rule
that does not start to deny. -/
theorem switch_permissive (h : switchMovesGeneration current enabled = false) :
    clearDisabledTemplatePinIfSkeleton { current.spec with enabled } = current.spec ∨
      (current.spec.enabled = false ∧
        ((clearDisabledTemplatePinIfSkeleton { current.spec with enabled }).enabled = true →
          (clearDisabledTemplatePinIfSkeleton { current.spec with enabled }).action =
            .accept)) := by
  cases hcurrent : current.spec.enabled <;> cases enabled
  · refine .inr ⟨rfl, fun henabled => ?_⟩
    rw [clearDisabledTemplatePinIfSkeleton_enabled] at henabled
    cases henabled
  · refine .inr ⟨rfl, fun _ => ?_⟩
    rw [clearDisabledTemplatePinIfSkeleton_of_enabled rfl]
    simpa [switchMovesGeneration, hcurrent] using h
  · simp [switchMovesGeneration, hcurrent] at h
  · refine .inl ?_
    rw [clearDisabledTemplatePinIfSkeleton_of_enabled rfl, ← hcurrent]

theorem setRuleEnabledAt_follows (h : s.setRuleEnabledAt id enabled now = .ok (t, rule, event)) :
    s.Follows t := by
  obtain ⟨current, generation, revision, hcurrent, hid, hmade, hrule, -, hgeneration, rfl, -⟩ :=
    setRuleEnabledAt_eq_ok h
  have hwellFormed := fun hs : s.WellFormed => hs.replace hcurrent hid
    (hrule (hs.id_of_get? hcurrent).2) (generationAfter_valid hs hgeneration) revision
  rcases generationAfter_cases hgeneration with hnext | ⟨hpermissive, rfl⟩
  · exact follows_of_next hnext rfl hwellFormed
  · refine follows_of_grows rfl rfl (grows_of_replace hcurrent rfl rfl ?_) hwellFormed
    rw [hmade]
    exact switch_permissive hpermissive

theorem createRuleAt_rollback (h : s.createRuleAt id spec now = .ok (t, rule, event)) :
    { t with rules := t.rules.erase rule.id, revision := s.revision,
             flowGeneration := s.flowGeneration } = s := by
  obtain ⟨generation, revision, rfl, -, -, hfree, -, -, rfl, -⟩ := createRuleAt_eq_ok h
  simp only [s.rules.erase_insert _ hfree]

end Operations

/-! ### Learning -/

/-- What learning does to a state: one after the other it creates rules that deny nothing. -/
inductive Learns (s : State) : List LearnOutcome → State → Prop
  | refl : Learns s [] s
  | create {t u : State} {outcomes : List LearnOutcome} {id : Uuid} {spec : RuleSpec}
      {now : Timestamp} {rule : Rule} {event : Event} (previous : Learns s outcomes t)
      (permissive : spec.enabled = true → spec.action = .accept)
      (created : t.createRuleAt id spec now = .ok (u, rule, event)) :
      Learns s (outcomes ++ [{ rule, event := some event }]) u

theorem Learns.follows {outcomes : List LearnOutcome} (h : Learns s outcomes t) : s.Follows t := by
  induction h with
  | refl => exact Follows.refl s
  | create _ _ created ih => exact ih.trans (createRuleAt_follows created)

theorem insertApplicationGroupTemplate_eq_ok {key : ApplicationTemplateKey}
    (h : s.insertApplicationGroupTemplate key draw = .ok (t, outcome)) :
    ∃ spec rule event, (spec.enabled = true → spec.action = .accept) ∧
      s.createRuleAt draw.1 spec draw.2 = .ok (t, rule, event) ∧
      outcome = { rule, event := some event } := by
  unfold insertApplicationGroupTemplate at h
  obtain ⟨application, -, h⟩ := bind_eq_ok_iff.mp h
  obtain ⟨name, -, h⟩ := bind_eq_ok_iff.mp h
  obtain ⟨⟨t, rule, event⟩, hcreate, h⟩ := bind_eq_ok_iff.mp h
  cases h
  exact ⟨_, rule, event, fun _ => rfl, hcreate, rfl⟩

theorem insertLearnedEndpoint_eq_ok {endpoint : LearnedEndpoint}
    {application : Option ApplicationSelector}
    (h : s.insertLearnedEndpoint endpoint application draw = .ok (t, outcome)) :
    ∃ spec rule event, (spec.enabled = true → spec.action = .accept) ∧
      s.createRuleAt draw.1 spec draw.2 = .ok (t, rule, event) ∧
      outcome = { rule, event := some event } := by
  unfold insertLearnedEndpoint at h
  obtain ⟨name, -, h⟩ := bind_eq_ok_iff.mp h
  obtain ⟨base, -, h⟩ := bind_eq_ok_iff.mp h
  obtain ⟨-, h⟩ := bind_unit_eq_ok_iff.mp h
  obtain ⟨⟨t, rule, event⟩, hcreate, h⟩ := bind_eq_ok_iff.mp h
  cases h
  exact ⟨_, rule, event, fun _ => rfl, hcreate, rfl⟩

theorem learnEndpoint_follows {endpoint : LearnedEndpoint}
    (h : s.learnEndpoint endpoint draw = .ok (t, outcome)) : s.Follows t := by
  unfold learnEndpoint at h
  obtain ⟨-, h⟩ := bind_unit_eq_ok_iff.mp h
  split at h
  · cases h
    exact Follows.refl s
  · obtain ⟨-, h⟩ := bind_unit_eq_ok_iff.mp h
    obtain ⟨spec, rule, event, -, hcreate, -⟩ := insertLearnedEndpoint_eq_ok h
    exact createRuleAt_follows hcreate

end State

namespace LearnProgress

variable {s : State} {p p' : LearnProgress} {supply : Supply}

theorem withTemplate_learns {key : ApplicationTemplateKey} (h : p.withTemplate supply key = .ok p')
    (hp : s.Learns p.outcomes p.state) : s.Learns p'.outcomes p'.state := by
  unfold withTemplate at h
  split_ifs at h
  · cases h
    exact hp
  · obtain ⟨⟨t, outcome⟩, hinsert, h⟩ := bind_eq_ok_iff.mp h
    cases h
    obtain ⟨spec, rule, event, hpermissive, hcreate, rfl⟩ :=
      State.insertApplicationGroupTemplate_eq_ok hinsert
    exact hp.create hpermissive hcreate

theorem withEndpoint_learns {learned : LearnedApplicationEndpoint}
    {owner : BitVec 32 × ExecutableFileId} (h : p.withEndpoint supply learned owner = .ok p')
    (hp : s.Learns p.outcomes p.state) : s.Learns p'.outcomes p'.state := by
  unfold withEndpoint at h
  obtain ⟨⟨t, outcome⟩, hinsert, h⟩ := bind_eq_ok_iff.mp h
  cases h
  obtain ⟨spec, rule, event, hpermissive, hcreate, rfl⟩ :=
    State.insertLearnedEndpoint_eq_ok hinsert
  exact hp.create hpermissive hcreate

theorem learnOne_learns (supply : Supply) (limits : LearningLimits) (maximumNew : ℕ)
    (learned : LearnedApplicationEndpoint) (hp : s.Learns p.outcomes p.state) :
    match p.learnOne limits maximumNew supply learned with
    | .next p' | .stop p' | .fail _ p' => s.Learns p'.outcomes p'.state := by
  unfold learnOne
  split_ifs
  · exact hp
  · cases ApplicationTemplateKey.fromSelector learned.application with
    | error error => exact hp
    | ok key =>
      simp only
      generalize (if key ∈ p.knownTemplates then 0 else 1) + 1 = slots
      split_ifs
      · exact hp
      · cases learned.application.uid with
        | none => exact hp
        | some uid =>
          cases learned.application.executableFile with
          | none => exact hp
          | some file =>
            simp only
            split_ifs
            · exact hp
            · cases htemplate : p.withTemplate supply key with
              | error error => exact hp
              | ok p' =>
                have hp' := withTemplate_learns htemplate hp
                cases hendpoint : p'.withEndpoint supply learned (uid, file) with
                | error error => simpa only [hendpoint] using hp'
                | ok p'' =>
                  simpa only [hendpoint] using withEndpoint_learns hendpoint hp'

theorem learnAll_learns (supply : Supply) (limits : LearningLimits) (maximumNew : ℕ)
    (endpoints : List LearnedApplicationEndpoint) (hp : s.Learns p.outcomes p.state) :
    s.Learns (p.learnAll limits maximumNew supply endpoints).2.outcomes
      (p.learnAll limits maximumNew supply endpoints).2.state := by
  induction endpoints generalizing p with
  | nil => exact hp
  | cons learned rest ih =>
    have hstep := learnOne_learns supply limits maximumNew learned hp
    unfold learnAll
    cases hone : p.learnOne limits maximumNew supply learned with
    | next p' =>
      rw [hone] at hstep
      exact ih hstep
    | stop p' =>
      rw [hone] at hstep
      exact hstep
    | fail error p' =>
      rw [hone] at hstep
      exact hstep

end LearnProgress

namespace State

theorem learnNewApplicationEndpointsWithLimits_learns (s : State)
    (endpoints : List LearnedApplicationEndpoint) (maximumNew : ℕ) (limits : LearningLimits)
    (supply : Supply) :
    ∃ outcomes, s.Learns outcomes
        (s.learnNewApplicationEndpointsWithLimits endpoints maximumNew limits supply).2 ∧
      ∀ done, (s.learnNewApplicationEndpointsWithLimits endpoints maximumNew limits supply).1 =
        .ok done → done = outcomes := by
  unfold learnNewApplicationEndpointsWithLimits
  simp only
  cases hvalid : validateEndpoints (endpoints.take MAX_RULES) with
  | error error => exact ⟨[], .refl, fun _ hdone => by cases hdone⟩
  | ok _ =>
    simp only
    generalize min (min maximumNew _) _ = maximumNew
    have hlearns := LearnProgress.learnAll_learns (p := LearnProgress.start s) (s := s) supply
      limits maximumNew (endpoints.take MAX_RULES) .refl
    generalize (LearnProgress.start s).learnAll limits maximumNew supply
      (endpoints.take MAX_RULES) = finish at hlearns
    obtain ⟨outcome, p'⟩ := finish
    cases outcome with
    | ok _ => exact ⟨p'.outcomes, hlearns, fun _ hdone => by cases hdone; rfl⟩
    | error error => exact ⟨p'.outcomes, hlearns, fun _ hdone => by cases hdone⟩

theorem addTemplates_learns {json : Serializer} {maximumStateBytes : ℕ} {supply : Supply}
    {s₀ s t : State} {serializedSize draws : ℕ} {outcomes : List LearnOutcome}
    {groups : List ApplicationTemplateKey} {result : Except CoreError (List LearnOutcome)}
    (h : addTemplates json maximumStateBytes supply s serializedSize draws outcomes groups =
      (result, t)) (hs : s₀.Learns outcomes s) :
    ∃ outcomes', s₀.Learns outcomes' t ∧ ∀ done, result = .ok done → done = outcomes' := by
  induction groups generalizing s serializedSize draws outcomes with
  | nil =>
    cases h
    exact ⟨outcomes, hs, fun _ hdone => by cases hdone; rfl⟩
  | cons group rest ih =>
    unfold addTemplates at h
    cases hinsert : s.insertApplicationGroupTemplate group (supply draws) with
    | error error =>
      rw [hinsert] at h
      cases h
      exact ⟨outcomes, hs, fun _ hdone => by cases hdone⟩
    | ok created =>
      obtain ⟨s', outcome⟩ := created
      obtain ⟨spec, rule, event, hpermissive, hcreate, rfl⟩ :=
        insertApplicationGroupTemplate_eq_ok hinsert
      simp only [hinsert, createRuleAt_rollback hcreate] at h
      split at h
      · cases h
        exact ⟨outcomes, hs, fun _ hdone => by cases hdone⟩
      · split_ifs at h
        · cases h
          exact ⟨outcomes, hs, fun _ hdone => by cases hdone; rfl⟩
        · exact ih h (hs.create hpermissive hcreate)

theorem ensureApplicationGroupTemplates_learns (s : State) (json : Serializer) (maximumNew : ℕ)
    (supply : Supply) :
    ∃ outcomes, s.Learns outcomes (s.ensureApplicationGroupTemplates json maximumNew supply).2 ∧
      ∀ done, (s.ensureApplicationGroupTemplates json maximumNew supply).1 = .ok done →
        done = outcomes := by
  unfold ensureApplicationGroupTemplates ensureApplicationGroupTemplatesWithSizeLimit
  simp only
  split
  · exact ⟨[], .refl, fun _ hdone => by cases hdone⟩
  · exact addTemplates_learns rfl .refl

end State

/-! ### Numbered changes -/

namespace State

/-- What the events of a policy tell an observer about it. -/
structure Observed where
  mode : Mode
  rules : OrderedMap Uuid Rule
  revision : BitVec 64
  deriving DecidableEq

def Observed.follow (o : Observed) (event : Event) : Observed :=
  match event.kind with
  | .modeChanged _ current => { o with mode := current, revision := event.revision }
  | .ruleCreated rule | .ruleUpdated rule | .ruleEnabledChanged rule =>
    { o with rules := o.rules.insert rule.id rule, revision := event.revision }
  | .ruleDeleted rule => { o with rules := o.rules.erase rule.id, revision := event.revision }
  -- counters are not part of the policy
  | .countersUpdated _ => o

def observed (s : State) : Observed := ⟨s.mode, s.rules, s.revision⟩

/-- A change of the policy together with the events that report it: every event is numbered by
the revision it produced, and tells what it changed. -/
inductive Changes (s : State) : List Event → State → Prop
  | refl : Changes s [] s
  | step {t u : State} {events : List Event} {event : Event} (previous : Changes s events t)
      (follows : t.Follows u) (numbered : t.nextRevision = .ok event.revision)
      (revision : u.revision = event.revision)
      (reported : t.WellFormed → t.observed.follow event = u.observed) :
      Changes s (events ++ [event]) u

namespace Changes

variable {s t u : State} {events events' : List Event}

theorem follows (h : s.Changes events t) : s.Follows t := by
  induction h with
  | refl => exact Follows.refl s
  | step _ follows _ _ _ ih => exact ih.trans follows

theorem trans (h : s.Changes events t) (h' : t.Changes events' u) :
    s.Changes (events ++ events') u := by
  induction h' with
  | refl => rwa [List.append_nil]
  | step _ follows numbered revision reported ih =>
    rw [← List.append_assoc]
    exact ih.step follows numbered revision reported

theorem single {event : Event} (follows : s.Follows t)
    (numbered : s.nextRevision = .ok event.revision) (revision : t.revision = event.revision)
    (reported : s.WellFormed → s.observed.follow event = t.observed) :
    s.Changes [event] t :=
  Changes.refl.step follows numbered revision reported

theorem observed_eq (h : s.Changes events t) (hs : s.WellFormed) :
    events.foldl Observed.follow s.observed = t.observed := by
  induction h with
  | refl => rfl
  | step previous _ _ _ reported ih =>
    rw [List.foldl_append, ih]
    exact reported (previous.follows.wellFormed hs)

theorem revision_toNat (h : s.Changes events t) :
    t.revision.toNat = s.revision.toNat + events.length := by
  induction h with
  | refl => rfl
  | step _ _ numbered revision _ ih =>
    rw [revision, List.length_append, List.length_singleton, nextRevision_toNat numbered, ih]
    rfl

theorem revision_le (h : s.Changes events t) : s.revision ≤ t.revision := by
  rw [BitVec.le_def, h.revision_toNat]
  exact Nat.le_add_right _ _

theorem revisions (h : s.Changes events t) :
    events.map (fun event => event.revision.toNat) =
      List.range' (s.revision.toNat + 1) events.length := by
  induction h with
  | refl => rfl
  | @step t u events event previous _ numbered _ _ ih =>
    rw [List.map_append, ih, List.length_append, List.length_singleton, List.range'_concat,
      List.map_singleton, nextRevision_toNat numbered, previous.revision_toNat]
    congr 2
    omega

end Changes

section Changes

variable {s t : State} {id : Uuid} {spec : RuleSpec} {now : Timestamp} {rule : Rule}
  {event : Event}

theorem setModeAt_changes {mode : Mode} (h : s.setModeAt mode now = .ok (t, event)) :
    s.Changes [event] t := by
  have hfollows := setModeWithStrategyAt_follows (fun hmode => by rw [hmode]; rfl) h
  obtain ⟨_, revision, hrevision, -, rfl, rfl⟩ := setModeWithStrategyAt_eq_ok h
  exact .single hfollows hrevision rfl fun _ => rfl

theorem enforce_changes {strategy : EnforcementStrategy}
    (h : s.enforce strategy now = .ok (t, event)) : s.Changes [event] t := by
  have hfollows := setModeWithStrategyAt_follows (fun hmode => by cases hmode) h
  obtain ⟨_, revision, hrevision, -, rfl, rfl⟩ := setModeWithStrategyAt_eq_ok h
  exact .single hfollows hrevision rfl fun _ => rfl

theorem createRuleAt_changes (h : s.createRuleAt id spec now = .ok (t, rule, event)) :
    s.Changes [event] t := by
  have hfollows := createRuleAt_follows h
  obtain ⟨_, revision, rfl, -, -, -, hrevision, -, rfl, rfl⟩ := createRuleAt_eq_ok h
  exact .single hfollows hrevision rfl fun _ => rfl

theorem updateRuleAt_changes (h : s.updateRuleAt id spec now = .ok (t, rule, event)) :
    s.Changes [event] t := by
  have hfollows := updateRuleAt_follows h
  obtain ⟨_, _, revision, hcurrent, hid, -, -, hrevision, -, rfl, rfl⟩ := updateRuleAt_eq_ok h
  refine .single hfollows hrevision rfl fun hs => ?_
  rw [← (hs.id_of_get? hcurrent).1, ← hid]
  rfl

theorem deleteRuleAt_changes (h : s.deleteRuleAt id now = .ok (t, rule, event)) :
    s.Changes [event] t := by
  have hfollows := deleteRuleAt_follows h
  obtain ⟨_, revision, hcurrent, hrevision, -, rfl, rfl⟩ := deleteRuleAt_eq_ok h
  refine .single hfollows hrevision rfl fun hs => ?_
  rw [← (hs.id_of_get? hcurrent).1]
  rfl

theorem setRuleEnabledAt_changes {enabled : Bool}
    (h : s.setRuleEnabledAt id enabled now = .ok (t, rule, event)) : s.Changes [event] t := by
  have hfollows := setRuleEnabledAt_follows h
  obtain ⟨_, _, revision, hcurrent, hid, -, -, hrevision, -, rfl, rfl⟩ := setRuleEnabledAt_eq_ok h
  refine .single hfollows hrevision rfl fun hs => ?_
  rw [← (hs.id_of_get? hcurrent).1, ← hid]
  rfl

theorem Learns.changes {outcomes : List LearnOutcome} (h : s.Learns outcomes t) :
    s.Changes (outcomes.filterMap (·.event)) t := by
  induction h with
  | refl => exact .refl
  | create _ _ created ih =>
    rw [List.filterMap_append]
    exact ih.trans (createRuleAt_changes created)

end Changes

end State

/-! ### Runs -/

/-- The operations of a policy state with their arguments. Identifiers and times that the
source draws itself are arguments here. -/
inductive StateOperation
  | setMode (mode : Mode) (now : Timestamp)
  | enforce (strategy : EnforcementStrategy) (now : Timestamp)
  | createRule (id : Uuid) (spec : RuleSpec) (now : Timestamp)
  | updateRule (id : Uuid) (spec : RuleSpec) (now : Timestamp)
  | deleteRule (id : Uuid) (now : Timestamp)
  | setRuleEnabled (id : Uuid) (enabled : Bool) (now : Timestamp)
  | learnEndpoint (endpoint : LearnedEndpoint) (draw : Uuid × Timestamp)
  | learnNewApplicationEndpointsWithLimits (endpoints : List LearnedApplicationEndpoint)
      (maximumNew : ℕ) (limits : LearningLimits) (supply : Supply)
  | ensureApplicationGroupTemplates (maximumNew : ℕ) (supply : Supply)

/-- The state that an operation leaves behind; a failed one leaves it as it was. -/
def State.orElse {α : Type} (s : State) : Except CoreError (State × α) → State
  | .ok (t, _) => t
  | .error _ => s

theorem State.orElse_follows {α : Type} {s : State} {result : Except CoreError (State × α)}
    (h : ∀ t value, result = .ok (t, value) → s.Follows t) : s.Follows (s.orElse result) := by
  cases result with
  | error error => exact State.Follows.refl s
  | ok value => exact h value.1 value.2 rfl

namespace StateOperation

variable (json : Serializer)

def perform (s : State) : StateOperation → State
  | setMode mode now => s.orElse (s.setModeAt mode now)
  | enforce strategy now => s.orElse (s.enforce strategy now)
  | createRule id spec now => s.orElse (s.createRuleAt id spec now)
  | updateRule id spec now => s.orElse (s.updateRuleAt id spec now)
  | deleteRule id now => s.orElse (s.deleteRuleAt id now)
  | setRuleEnabled id enabled now => s.orElse (s.setRuleEnabledAt id enabled now)
  | learnEndpoint endpoint draw => s.orElse (s.learnEndpoint endpoint draw)
  -- batches keep what they did before an error
  | learnNewApplicationEndpointsWithLimits endpoints maximumNew limits supply =>
    (s.learnNewApplicationEndpointsWithLimits endpoints maximumNew limits supply).2
  | ensureApplicationGroupTemplates maximumNew supply =>
    (s.ensureApplicationGroupTemplates json maximumNew supply).2

theorem follows (s : State) (operation : StateOperation) :
    s.Follows (operation.perform json s) := by
  cases operation with
  | setMode mode now =>
    exact State.orElse_follows fun t event h =>
      State.setModeWithStrategyAt_follows (fun hmode => by rw [hmode]; rfl) h
  | enforce strategy now =>
    exact State.orElse_follows fun t event h =>
      State.setModeWithStrategyAt_follows (fun hmode => by cases hmode) h
  | createRule id spec now =>
    exact State.orElse_follows fun t value h => State.createRuleAt_follows h
  | updateRule id spec now =>
    exact State.orElse_follows fun t value h => State.updateRuleAt_follows h
  | deleteRule id now =>
    exact State.orElse_follows fun t value h => State.deleteRuleAt_follows h
  | setRuleEnabled id enabled now =>
    exact State.orElse_follows fun t value h => State.setRuleEnabledAt_follows h
  | learnEndpoint endpoint draw =>
    exact State.orElse_follows fun t outcome h => State.learnEndpoint_follows h
  | learnNewApplicationEndpointsWithLimits endpoints maximumNew limits supply =>
    obtain ⟨outcomes, hlearns, -⟩ := s.learnNewApplicationEndpointsWithLimits_learns endpoints
      maximumNew limits supply
    exact hlearns.follows
  | ensureApplicationGroupTemplates maximumNew supply =>
    obtain ⟨outcomes, hlearns, -⟩ := s.ensureApplicationGroupTemplates_learns json maximumNew
      supply
    exact hlearns.follows

def run (operations : List StateOperation) (s : State) : State :=
  operations.foldl (fun s operation => operation.perform json s) s

theorem follows_run (operations : List StateOperation) (s : State) :
    s.Follows (run json operations s) := by
  induction operations generalizing s with
  | nil => exact State.Follows.refl s
  | cons operation rest ih => exact (operation.follows json s).trans (ih _)

end StateOperation

end OpenShield
