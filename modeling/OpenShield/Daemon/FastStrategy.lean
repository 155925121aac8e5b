import OpenShield.Daemon.Capture

/-!
# The fast and the strict strategy

The fast strategy of `enforcing` asks for fewer process fields and accepts on less: a learned
accept is matched by user and executable alone. Both relaxations concern learned accepts only.
A deny keeps what it asks about under either strategy and comes before every accept, so the fast
strategy denies what the strict one denies. What it accepts in addition it owes to a learned
accept for the executable and the user of the process.
-/

namespace OpenShield

open ApplicationDecisionPolicy

def State.capturedAction (s : State) (strategy : EnforcementStrategy)
    (connection : OutboundConnection) (identity : ApplicationIdentity) : Option RuleAction :=
  let policy := buildApplicationDecisionPolicy s.snapshot strategy
  policy.action connection
    (identity.captured (policy.enforcementCaptureRequirements connection))

/-- Enabled learned accepts of a connection for the executable and the user of a process. -/
structure AdmitsExecutable (connection : OutboundConnection) (identity : ApplicationIdentity)
    (rule : Rule) : Prop where
  enabled : rule.spec.enabled = true
  learned : rule.spec.origin = .learned
  accepts : rule.spec.action = .accept
  network : outboundNetworkSelectorsMatch rule connection = true
  process : ∃ selector, rule.spec.application = some selector ∧
    selector.executable = some identity.executable ∧
    selector.executableFile = some identity.executableFile ∧
    selector.uid = some identity.uid

theorem admitsExecutable_of_fastMatches {rule : Rule} {connection : OutboundConnection}
    {identity : ApplicationIdentity}
    (h : fastLearnedAcceptRuleMatches rule connection identity = true) :
    AdmitsExecutable connection identity rule := by
  simp only [fastLearnedAcceptRuleMatches, Bool.and_eq_true, decide_eq_true_eq] at h
  obtain ⟨⟨⟨hlearned, haccept⟩, hmatch⟩, hprocess⟩ := h
  have henabled := (networkAndUidMatches_enabled hmatch).1
  rw [applicationRuleNetworkAndUidMatches, Bool.and_eq_true] at hmatch
  refine ⟨henabled, hlearned, haccept, hmatch.1, ?_⟩
  cases hselector : rule.spec.application with
  | none => simp [hselector] at hprocess
  | some selector =>
    simp only [hselector, Option.any_some, Bool.and_eq_true, Option.any_eq_true,
      decide_eq_true_eq] at hprocess
    obtain ⟨⟨⟨-, executable, hexecutable, rfl⟩, file, hfile, rfl⟩, uid, huid, rfl⟩ := hprocess
    exact ⟨selector, rfl, hexecutable, hfile, huid⟩

section Compare

variable (snapshot : ValidSnapshot) (connection : OutboundConnection)
  (identity : ApplicationIdentity)

theorem decides_strict_captured {rule : Rule} (hrule : rule ∈ snapshot.rules)
    (h : applicationRuleMatches rule connection identity = true) :
    Decides .strict connection (identity.captured
      (requirementsOf snapshot connection (needsDetails .strict))) rule = true := by
  have hsame : applicationRuleMatches rule connection
      (identity.captured (requirementsOf snapshot connection (needsDetails .strict))) =
      applicationRuleMatches rule connection identity :=
    applicationRuleMatches_captured (fun hmatch => List.mem_filter.mpr ⟨hrule, hmatch⟩) rfl
  simp [Decides, hsame, h]

/-- A rule that has a say under the fast strategy has one under the strict strategy, or accepts by
user and executable. -/
theorem decides_strict_of_fast {rule : Rule} (hrule : rule ∈ snapshot.rules)
    (h : Decides .fast connection (identity.captured
      (requirementsOf snapshot connection (needsDetails .fast))) rule = true) :
    Decides .strict connection (identity.captured
        (requirementsOf snapshot connection (needsDetails .strict))) rule = true ∨
      fastLearnedAcceptRuleMatches rule connection identity = true := by
  simp only [Decides, Bool.or_eq_true, Bool.and_eq_true] at h
  rcases h with (happlication | hfast) | hnetwork
  · -- what matches the reduced identity matches the full one, and so what `strict` captures
    exact .inl (decides_strict_captured snapshot connection identity hrule
      (applicationRuleMatches_of_captured (snapshot.rule_valid hrule) happlication))
  · exact .inr (fastMatches_captured rule ▸ hfast.2)
  · exact .inl (by simp [Decides, hnetwork])

end Compare

/-- What a valid state decides under the two strategies, each on what it captures of a process. The
fast strategy denies what the strict strategy denies, in the same way. A connection that only the
fast strategy accepts is one of an executable and a user that a learned accept names. -/
theorem fast_denies_with_strict (json : Serializer) (s : State)
    (hvalid : s.validate json = .ok ()) (hmode : s.mode = .enforcing)
    (connection : OutboundConnection) (identity : ApplicationIdentity) :
    (∀ deny, deny = .drop ∨ deny = .reject →
        s.capturedAction .strict connection identity = some deny →
          s.capturedAction .fast connection identity = some deny) ∧
      (s.capturedAction .fast connection identity = some .accept →
        s.capturedAction .strict connection identity ≠ some .accept →
          ∃ rule ∈ s.rules.values, AdmitsExecutable connection identity rule) := by
  have hs := State.wellFormed_of_validate hvalid
  -- under either strategy the denies are those of the full identity
  have haction (strategy : EnforcementStrategy) :
      s.capturedAction strategy connection identity =
        (denyDecision s.snapshot connection identity).or
          (if s.rules.values.any (Decides strategy connection (identity.captured
              (requirementsOf hs.validSnapshot connection (needsDetails strategy)))) then
            some .accept
          else none) := by
    have hpolicy : s.capturedAction strategy connection identity =
        policyDecision hs.validSnapshot.toSnapshot strategy connection (identity.captured
          (requirementsOf hs.validSnapshot connection (needsDetails strategy))) := by
      rw [← enforcementCaptureRequirements_eq hs.validSnapshot strategy connection hmode,
        ← action_eq hs.validSnapshot strategy connection _ hmode]
      rfl
    rw [hpolicy, policyDecision_eq_action, denyDecision_requirementsOf]
    rfl
  rw [haction .strict, haction .fast]
  cases hdenied : denyDecision s.snapshot connection identity with
  | some action =>
    simp only [Option.some_or]
    exact ⟨fun _ _ h => h, fun h hnot => absurd h hnot⟩
  | none =>
    simp only [Option.none_or]
    constructor
    · -- without a matching deny the strict strategy accepts or says nothing
      intro deny hdeny h
      split_ifs at h
      rcases hdeny with rfl | rfl <;> cases h
    · intro hfast hstrict
      by_cases hany : s.rules.values.any (Decides .fast connection (identity.captured
          (requirementsOf hs.validSnapshot connection (needsDetails .fast)))) = true
      · obtain ⟨rule, hrule, hdecides⟩ := List.any_eq_true.mp hany
        rcases decides_strict_of_fast hs.validSnapshot connection identity hrule hdecides with
          hboth | hadmits
        · exact absurd (if_pos (List.any_eq_true.mpr ⟨rule, hrule, hboth⟩)) hstrict
        · exact ⟨rule, hrule, admitsExecutable_of_fastMatches hadmits⟩
      · rw [if_neg hany] at hfast
        cases hfast

namespace Sample

def movedIdentity : ApplicationIdentity := { groupedIdentity with cgroups := [] }

end Sample

/-- A process that left its control group: the strict strategy does not accept it, the fast one
does, by the learned accept for its executable and its user. -/
theorem fast_denies_with_strict_sample :
    (Sample.fastState (some 0)).validate Sample.json = .ok () ∧
      (Sample.fastState (some 0)).capturedAction .strict Sample.localConnection
        Sample.movedIdentity ≠ some .accept ∧
      ∃ rule ∈ (Sample.fastState (some 0)).rules.values,
        AdmitsExecutable Sample.localConnection Sample.movedIdentity rule := by
  have hvalid : (Sample.fastState (some 0)).validate Sample.json = .ok () := by decide +kernel
  have hstrict : (Sample.fastState (some 0)).capturedAction .strict Sample.localConnection
      Sample.movedIdentity ≠ some .accept := by decide +kernel
  exact ⟨hvalid, hstrict, (fast_denies_with_strict Sample.json _ hvalid rfl Sample.localConnection
    Sample.movedIdentity).2 (by decide +kernel) hstrict⟩

end OpenShield
