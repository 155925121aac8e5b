import OpenShield.Core.StateJson

/-!
# Size accounting of the template migration

States of older versions get the skeletons of their groups when they are loaded, as long as the
file stays within a bound. The size is not measured again for every skeleton: a delta is added for
the new entry, its separators and the digits of the revision. Here the loop is run with a log of
its attempts, and every size it tracks is that of the text the state would be stored as.
-/

namespace OpenShield

open CompactJson

structure TemplateAttempt where
  before : State
  candidate : State
  size : ℕ
  kept : Bool
  after : State

namespace Serializer

variable (times : TimestampText)

theorem utf8ByteSize_revision_le (revision : BitVec 64) :
    (toString revision.toNat).utf8ByteSize ≤ 20 := by
  have hascii : ∀ c ∈ (toString revision.toNat).toList, c.val ≤ 127 := by
    intro c hc
    rw [Text.toList_toString] at hc
    exact (List.all_iff_forall_prop.mp (by decide) : ∀ d ∈ Text.hexCharacters, d.val ≤ 127) c
      (Text.mem_hexCharacters_of_mem_toDigits (by omega) (by omega) _ c hc)
  have hlt := revision.isLt
  rw [Text.utf8ByteSize_of_ascii hascii, Text.toList_toString]
  exact (Nat.length_toDigits_le_iff (by omega) (by omega)).mpr (by omega)

theorem delta_exact {s : State} {key : ApplicationTemplateKey} {draw : Uuid × Timestamp}
    (hfree : s.rules.get? draw.1 = none) :
    ∃ delta, serializedRuleMapEntryDelta (compact times) ((templateSpec key).created draw)
        s.revision (s.withRule ((templateSpec key).created draw)).revision
        (decide (s.rules.size ≠ 0)) = .ok delta ∧ delta ≤ 2 ^ 26 ∧
      (compact times).stateSize (s.withRule ((templateSpec key).created draw)) =
        (compact times).stateSize s + delta := by
  have hgrowth := @compact_stateSize_withRule times s ((templateSpec key).created draw) hfree
  have hrule := compact_ruleSize_template_le times key draw
  have hprevious := utf8ByteSize_revision_le s.revision
  have hcurrent := utf8ByteSize_revision_le (s.revision + 1)
  have hid : (Uuid.display ((templateSpec key).created draw).id).utf8ByteSize = 36 :=
    utf8ByteSize_uuid draw.1
  have hrevision : (s.withRule ((templateSpec key).created draw)).revision = s.revision + 1 := rfl
  have hcomma : (if s.rules.size ≠ 0 then 1 else 0) ≤ 1 := by split_ifs <;> omega
  rw [hid] at hgrowth
  simp only [serializedRuleMapEntryDelta, hid, hrevision, decide_eq_true_eq]
  generalize (compact times).ruleSize ((templateSpec key).created draw) = rule at hrule hgrowth ⊢
  generalize (toString s.revision.toNat).utf8ByteSize = previous at hprevious hgrowth ⊢
  generalize (toString (s.revision + 1).toNat).utf8ByteSize = current at hcurrent hgrowth ⊢
  generalize (if s.rules.size ≠ 0 then 1 else 0) = comma at hcomma hgrowth ⊢
  have hsum (a b : ℕ) (h : a + b < 2 ^ 64) : checkedAddUsize a b = some (a + b) := if_pos h
  simp only [hsum rule (36 + 3) (by omega), hsum (rule + (36 + 3)) comma (by omega),
    hsum (rule + (36 + 3) + comma) current (by omega), Option.bind_eq_bind, Option.bind_some]
  rw [if_pos (by omega)]
  exact ⟨_, rfl, by omega, by omega⟩

end Serializer

namespace State

/-- The loop of `addTemplates` with a log of its attempts. -/
def addTemplatesLogged (json : Serializer) (maximumStateBytes : ℕ) (supply : Supply) :
    State → ℕ → ℕ → List LearnOutcome → List ApplicationTemplateKey →
      (Except CoreError (List LearnOutcome) × State) × List TemplateAttempt
  | s, _, _, outcomes, [] => ((.ok outcomes, s), [])
  | s, serializedSize, draws, outcomes, group :: rest =>
    match s.insertApplicationGroupTemplate group (supply draws) with
    | .error error => ((.error error, s), [])
    | .ok (s', outcome) =>
      let rolledBack : State :=
        { s' with
          rules := s'.rules.erase outcome.rule.id
          revision := s.revision
          flowGeneration := s.flowGeneration }
      match serializedRuleMapEntryDelta json outcome.rule s.revision s'.revision
          (decide (s.rules.size ≠ 0)) with
      | .error error => ((.error error, rolledBack), [])
      | .ok delta =>
        let candidateSize := min (serializedSize + delta) (2 ^ 64 - 1)
        if maximumStateBytes < candidateSize then
          ((.ok outcomes, rolledBack), [⟨s, s', candidateSize, false, rolledBack⟩])
        else
          let later := addTemplatesLogged json maximumStateBytes supply s' candidateSize (draws + 1)
            (outcomes ++ [outcome]) rest
          (later.1, ⟨s, s', candidateSize, true, s'⟩ :: later.2)

/-- The log does not change the loop. -/
theorem addTemplatesLogged_result (json : Serializer) (maximumStateBytes : ℕ) (supply : Supply)
    (s : State) (serializedSize draws : ℕ) (outcomes : List LearnOutcome)
    (groups : List ApplicationTemplateKey) :
    (addTemplatesLogged json maximumStateBytes supply s serializedSize draws outcomes groups).1 =
      addTemplates json maximumStateBytes supply s serializedSize draws outcomes groups := by
  induction groups generalizing s serializedSize draws outcomes with
  | nil => rfl
  | cons group rest ih =>
    unfold addTemplatesLogged addTemplates
    cases s.insertApplicationGroupTemplate group (supply draws) with
    | error error => rfl
    | ok made =>
      obtain ⟨s', outcome⟩ := made
      dsimp only
      cases serializedRuleMapEntryDelta json outcome.rule s.revision s'.revision
        (decide (s.rules.size ≠ 0)) with
      | error error => rfl
      | ok delta =>
        dsimp only
        split_ifs
        · rfl
        · exact ih s' _ _ _

structure GainsSkeletons (s t : State) (outcomes : List LearnOutcome) : Prop where
  keeps : ∀ id rule, s.rules.get? id = some rule → t.rules.get? id = some rule
  adds : ∀ id rule, t.rules.get? id = some rule → s.rules.get? id = none →
    (∃ key, rule.spec = templateSpec key) ∧ ∃ outcome ∈ outcomes, outcome.rule = rule
  /-- One skeleton per event. -/
  size : t.rules.size = s.rules.size + outcomes.length
  reported : ∀ outcome ∈ outcomes, ∃ event, outcome.event = some event ∧
    event.kind = .ruleCreated outcome.rule
  revisions : (outcomes.filterMap (·.event)).map (fun event => event.revision.toNat) =
    List.range' (s.revision.toNat + 1) outcomes.length
  revision : t.revision.toNat = s.revision.toNat + outcomes.length
  mode : t.mode = s.mode
  strategy : t.enforcementStrategy = s.enforcementStrategy
  generation : t.flowGeneration = s.flowGeneration

theorem GainsSkeletons.refl (s : State) : s.GainsSkeletons s [] :=
  ⟨fun _ _ h => h, fun _ _ h hnone => (nomatch h.symm.trans hnone), rfl, List.forall_mem_nil _, rfl,
    rfl, rfl, rfl, rfl⟩

section Run

variable {s t : State} {outcomes : List LearnOutcome} {key : ApplicationTemplateKey}
  {draw : Uuid × Timestamp}

theorem GainsSkeletons.withRule (h : s.GainsSkeletons t outcomes)
    (htakes : t.Takes ((templateSpec key).created draw)) :
    s.GainsSkeletons (t.withRule ((templateSpec key).created draw))
      (outcomes ++ [t.withRuleOutcome ((templateSpec key).created draw)]) where
  keeps id rule hget := htakes.keeps (h.keeps id rule hget)
  adds id rule hget hnew := by
    rw [get?_withRule] at hget
    split_ifs at hget with heq
    · cases hget
      exact ⟨⟨key, rfl⟩, _, List.mem_append_right _ List.mem_cons_self, rfl⟩
    · obtain ⟨hspec, outcome, houtcome, hrule⟩ := h.adds id rule hget hnew
      exact ⟨hspec, outcome, List.mem_append_left _ houtcome, hrule⟩
  size := by
    rw [List.length_append, List.length_singleton, ← Nat.add_assoc, ← h.size]
    exact t.rules.size_insert_of_get?_eq_none _ htakes.free
  reported outcome houtcome := by
    rcases List.mem_append.mp houtcome with hmem | hmem
    · exact h.reported outcome hmem
    · rw [List.mem_singleton.mp hmem]
      exact ⟨_, rfl, rfl⟩
  revisions := by
    have hsucc : (t.revision + 1).toNat = t.revision.toNat + 1 :=
      toNat_add_one_of_ne_allOnes htakes.revision
    have hnext : (t.revision + 1).toNat = s.revision.toNat + 1 + outcomes.length := by
      have := h.revision
      omega
    rw [List.filterMap_append, List.map_append, h.revisions, List.length_append,
      List.length_singleton, List.range'_concat, Nat.one_mul]
    change _ ++ [(t.revision + 1).toNat] = _
    rw [hnext]
  revision := by
    rw [List.length_append, List.length_singleton, ← Nat.add_assoc, ← h.revision]
    exact toNat_add_one_of_ne_allOnes htakes.revision
  mode := h.mode
  strategy := h.strategy
  generation := h.generation

end Run

end State

namespace TemplateAttempt

/-- An attempt with the right size that was kept if it fits and undone otherwise. -/
structure Exact (json : Serializer) (limit : ℕ) (attempt : TemplateAttempt) : Prop where
  size : attempt.size = json.stateSize attempt.candidate
  kept : attempt.kept = true → attempt.size ≤ limit ∧ attempt.after = attempt.candidate
  undone : attempt.kept = false → limit < attempt.size ∧ attempt.after = attempt.before

def Chained : State → List TemplateAttempt → State → Prop
  | s, [], t => t = s
  | s, attempt :: rest, t => attempt.before = s ∧ Chained attempt.after rest t

end TemplateAttempt

open TemplateAttempt State

/-- The loop from a state whose size it knows. The bound in `hsmall` says that the sizes of all
remaining skeletons cannot overflow. -/
theorem addTemplatesLogged_exact (times : TimestampText) (limit : ℕ) (supply : Supply)
    {s₀ s : State} {serializedSize draws : ℕ} {outcomes : List LearnOutcome}
    {groups : List ApplicationTemplateKey} (hgains : s₀.GainsSkeletons s outcomes)
    (hsize : serializedSize = (Serializer.compact times).stateSize s)
    (hsmall : serializedSize + groups.length * 2 ^ 26 < 2 ^ 60) :
    let run := addTemplatesLogged (Serializer.compact times) limit supply s serializedSize draws
      outcomes groups
    (∀ attempt ∈ run.2, attempt.Exact (Serializer.compact times) limit) ∧
      Chained s run.2 run.1.2 ∧
      (serializedSize ≤ limit → (Serializer.compact times).stateSize run.1.2 ≤ limit) ∧
      ∃ outcomes', s₀.GainsSkeletons run.1.2 outcomes' ∧
        ∀ done, run.1.1 = .ok done → done = outcomes' := by
  induction groups generalizing s serializedSize draws outcomes with
  | nil =>
    exact ⟨List.forall_mem_nil _, rfl, fun h => hsize ▸ h, outcomes, hgains,
      fun _ hdone => by cases hdone; rfl⟩
  | cons group rest ih =>
    rw [List.length_cons, Nat.succ_mul] at hsmall
    unfold addTemplatesLogged
    cases hinsert : s.insertApplicationGroupTemplate group (supply draws) with
    | error error =>
      exact ⟨List.forall_mem_nil _, rfl, fun h => hsize ▸ h, outcomes, hgains,
        fun _ hdone => by cases hdone⟩
    | ok made =>
      obtain ⟨htakes, rfl⟩ := insertApplicationGroupTemplate_eq_ok_iff.mp hinsert
      obtain ⟨delta, hdelta, hbound, hgrowth⟩ :=
        @Serializer.delta_exact times s group (supply draws) htakes.free
      -- undoing the creation restores the state
      have hundo : ({ s.withRule ((templateSpec group).created (supply draws)) with
          rules := (s.withRule ((templateSpec group).created (supply draws))).rules.erase
            ((templateSpec group).created (supply draws)).id
          revision := s.revision, flowGeneration := s.flowGeneration } : State) = s := by
        simp only [withRule, s.rules.erase_insert _ htakes.free]
      have hcandidate : min (serializedSize + delta) (2 ^ 64 - 1) =
          (Serializer.compact times).stateSize
            (s.withRule ((templateSpec group).created (supply draws))) := by
        rw [hgrowth, ← hsize]
        omega
      simp only [withRuleOutcome, hdelta, hundo, hcandidate]
      split_ifs with hlimit
      · refine ⟨?_, ⟨rfl, rfl⟩, fun h => hsize ▸ h, outcomes, hgains,
          fun _ hdone => by cases hdone; rfl⟩
        rw [List.forall_mem_singleton]
        exact ⟨rfl, fun hkept => Bool.noConfusion hkept, fun _ => ⟨hlimit, rfl⟩⟩
      · obtain ⟨hlog, hchain, hwithin, hgained⟩ := ih (hgains.withRule htakes) rfl (by omega)
        refine ⟨?_, ⟨rfl, hchain⟩, fun _ => hwithin (not_lt.mp hlimit), hgained⟩
        rw [List.forall_mem_cons]
        exact ⟨⟨rfl, fun _ => ⟨not_lt.mp hlimit, rfl⟩, fun hkept => Bool.noConfusion hkept⟩, hlog⟩

def State.ensureTemplatesLogged (json : Serializer) (s : State) (maximumNew limit : ℕ)
    (supply : Supply) : (Except CoreError (List LearnOutcome) × State) × List TemplateAttempt :=
  let known := s.rules.values.filterMap ApplicationTemplateKey.fromTemplate
  let selectors := (s.rules.values.filter isLearnedOutbound).filterMap (·.spec.application)
  let groups := newGroups known
    (selectors.filterMap fun selector => (ApplicationTemplateKey.fromSelector selector).toOption)
  let maximumNew := min (min maximumNew (MAX_RULES - s.rules.size))
    (MAX_AUTOMATIC_LEARNED_RULES - s.automaticCount)
  match boundedSerializedStateSize json s with
  | .error error => ((.error error, s), [])
  | .ok serializedSize =>
    addTemplatesLogged json limit supply s serializedSize 0 [] (groups.take maximumNew)

theorem State.ensureTemplatesLogged_result (json : Serializer) (s : State) (maximumNew limit : ℕ)
    (supply : Supply) :
    (s.ensureTemplatesLogged json maximumNew limit supply).1 =
      s.ensureApplicationGroupTemplatesWithSizeLimit json maximumNew limit supply := by
  unfold ensureTemplatesLogged ensureApplicationGroupTemplatesWithSizeLimit
  dsimp only
  cases boundedSerializedStateSize json s with
  | error error => rfl
  | ok serializedSize => exact addTemplatesLogged_result json limit supply s serializedSize 0 [] _

/-- The size accounting of the migration is exact. With the compact layout of JSON, every size that
the loop tracks is the number of bytes of the state it is about; what fits is kept, and what does
not leaves the state as it was. On return the state has only gained skeletons, one per event with
consecutive revisions, and it is within the limit if it was before. -/
theorem template_migration_exact (times : TimestampText) {s : State}
    (hs : s.validate (Serializer.compact times) = .ok ()) (maximumNew limit : ℕ)
    (supply : Supply) :
    let json := Serializer.compact times
    let run := s.ensureTemplatesLogged json maximumNew limit supply
    run.1 = s.ensureApplicationGroupTemplatesWithSizeLimit json maximumNew limit supply ∧
      boundedSerializedStateSize json s = .ok (json.stateSize s) ∧
      (∀ attempt ∈ run.2, attempt.Exact json limit) ∧ Chained s run.2 run.1.2 ∧
      (json.stateSize s ≤ limit → json.stateSize run.1.2 ≤ limit) ∧
      ∃ outcomes, s.GainsSkeletons run.1.2 outcomes ∧
        ∀ done, run.1.1 = .ok done → done = outcomes := by
  have hbytes : (Serializer.compact times).stateSize s ≤ MAX_STATE_BYTES :=
    ((State.validate_eq_ok_iff _ s).mp hs).2.2.2
  have hsize : boundedSerializedStateSize (Serializer.compact times) s =
      .ok ((Serializer.compact times).stateSize s) := if_neg (not_lt.mpr hbytes)
  refine ⟨State.ensureTemplatesLogged_result _ _ _ _ _, hsize, ?_⟩
  unfold State.ensureTemplatesLogged
  simp only [hsize]
  generalize newGroups _ _ = groups
  -- at most as many skeletons as there can be rules
  have hgroups : (groups.take (min (min maximumNew (MAX_RULES - s.rules.size))
      (MAX_AUTOMATIC_LEARNED_RULES - s.automaticCount))).length ≤ 10000 := by
    rw [List.length_take, MAX_RULES]
    omega
  refine addTemplatesLogged_exact times limit supply (.refl s) rfl ?_
  rw [MAX_STATE_BYTES] at hbytes
  omega

namespace Sample

def noTimes : TimestampText := ⟨fun _ => "", fun _ => Nat.zero_le _⟩

def older : State :=
  { State.new with
    mode := .learning
    rules := OrderedMap.empty.insert 1
      { rule .outbound .accept (some selector) with
        spec := { (rule .outbound .accept (some selector)).spec with origin := .learned } } }

end Sample

/-- One skeleton fits, and none does below the size of the older state. -/
theorem template_migration_exact_sample :
    let json := Serializer.compact Sample.noTimes
    let supply : Supply := fun n => (Fin.ofNat _ (n + 2), 0)
    ((Sample.older.ensureTemplatesLogged json 10 MAX_STATE_BYTES supply).2.map
        (fun attempt => attempt.kept)) = [true] ∧
      ((Sample.older.ensureTemplatesLogged json 10 0 supply).2.map
        (fun attempt => attempt.kept)) = [false] ∧
      ∀ attempt ∈ (Sample.older.ensureTemplatesLogged json 10 MAX_STATE_BYTES supply).2,
        attempt.Exact json MAX_STATE_BYTES := by
  refine ⟨by decide +kernel, by decide +kernel, ?_⟩
  exact (template_migration_exact Sample.noTimes (by decide +kernel) 10 MAX_STATE_BYTES _).2.2.1

end OpenShield
