import OpenShield.Core.LearnedRules

/-!
# The learner

A batch handles its endpoints one after the other. Each of them is known already, does not fit
any more, or leads to the creation of a rule, perhaps with the skeleton of its group in front.
What the learner counts and remembers on the way is what a new scan of the state would find, so
that a batch can be described by the states it goes through.
-/

namespace OpenShield

/-! ### One endpoint -/

namespace LearnProgress

variable {s : State} {p p' : LearnProgress} {supply : Supply}

def afterTemplate (p : LearnProgress) (supply : Supply) (key : ApplicationTemplateKey) :
    LearnProgress :=
  let rule := (templateSpec key).created (supply p.draws)
  { p with
    state := p.state.withRule rule
    knownTemplates := key :: p.knownTemplates
    outcomes := p.outcomes ++ [p.state.withRuleOutcome rule]
    draws := p.draws + 1 }

def afterEndpoint (p : LearnProgress) (supply : Supply) (learned : LearnedApplicationEndpoint)
    (owner : BitVec 32 × ExecutableFileId) : LearnProgress :=
  let rule := (endpointSpec learned).created (supply p.draws)
  { p with
    state := p.state.withRule rule
    known := LearnedRuleKey.fromApplicationEndpoint learned :: p.known
    learnedPerUid := owner.1 :: p.learnedPerUid
    learnedPerApplication := owner :: p.learnedPerApplication
    outcomes := p.outcomes ++ [p.state.withRuleOutcome rule]
    draws := p.draws + 1 }

theorem withTemplate_eq_ok_iff {key : ApplicationTemplateKey} :
    p.withTemplate supply key = .ok p' ↔ (key ∈ p.knownTemplates ∧ p' = p) ∨
      (key ∉ p.knownTemplates ∧ p.state.Takes ((templateSpec key).created (supply p.draws)) ∧
        p' = p.afterTemplate supply key) := by
  unfold withTemplate
  split_ifs with hknown
  · simp [hknown, eq_comm]
  · simp only [hknown, false_and, not_false_eq_true, true_and, false_or]
    constructor
    · intro h
      obtain ⟨made, hmade, h⟩ := Except.bind_eq_ok_iff.mp h
      obtain ⟨htakes, rfl⟩ := State.insertApplicationGroupTemplate_eq_ok_iff.mp hmade
      cases h
      exact ⟨htakes, rfl⟩
    · rintro ⟨htakes, rfl⟩
      exact Except.bind_eq_ok_iff.mpr
        ⟨_, State.insertApplicationGroupTemplate_eq_ok_iff.mpr ⟨htakes, rfl⟩, rfl⟩

variable {learned : LearnedApplicationEndpoint}

theorem withEndpoint_eq_ok_iff
    {owner : BitVec 32 × ExecutableFileId} :
    p.withEndpoint supply learned owner = .ok p' ↔
      p.state.Takes ((endpointSpec learned).created (supply p.draws)) ∧
        p' = p.afterEndpoint supply learned owner := by
  unfold withEndpoint
  constructor
  · intro h
    obtain ⟨made, hmade, h⟩ := Except.bind_eq_ok_iff.mp h
    obtain ⟨htakes, rfl⟩ := State.insertLearnedEndpoint_eq_ok_iff.mp hmade
    cases h
    exact ⟨htakes, rfl⟩
  · rintro ⟨htakes, rfl⟩
    exact Except.bind_eq_ok_iff.mpr
      ⟨_, State.insertLearnedEndpoint_eq_ok_iff.mpr ⟨htakes, rfl⟩, rfl⟩

structure Identifies (learned : LearnedApplicationEndpoint) (key : ApplicationTemplateKey)
    (owner : BitVec 32 × ExecutableFileId) : Prop where
  group : ApplicationTemplateKey.fromSelector learned.application = .ok key
  uid : learned.application.uid = some owner.1
  file : learned.application.executableFile = some owner.2

theorem Identifies.parts {key : ApplicationTemplateKey}
    {owner : BitVec 32 × ExecutableFileId} (h : Identifies learned key owner) :
    learned.application.executable = some key.executable ∧
      learned.application.cgroup = key.cgroup := by
  have hgroup := h.group
  unfold ApplicationTemplateKey.fromSelector at hgroup
  split at hgroup
  · next executable hexecutable =>
    cases hgroup
    exact ⟨hexecutable, rfl⟩
  · cases hgroup

theorem exists_identifies (h : learned.validate = .ok ()) :
    ∃ key owner, Identifies learned key owner := by
  obtain ⟨-, -, ⟨executable, hexecutable⟩, ⟨uid, huid⟩, ⟨file, hfile⟩, -⟩ :=
    LearnedApplicationEndpoint.validate_eq_ok h
  refine ⟨{ executable, cgroup := learned.application.cgroup }, (uid, file), ?_, huid, hfile⟩
  simp [ApplicationTemplateKey.fromSelector, hexecutable]

def slots (knownTemplates : List ApplicationTemplateKey) (key : ApplicationTemplateKey) : ℕ :=
  (if key ∈ knownTemplates then 0 else 1) + 1

def Exhausted (p : LearnProgress) (limits : LearningLimits)
    (owner : BitVec 32 × ExecutableFileId) : Prop :=
  limits.perUid ≤ p.learnedPerUid.count owner.1 ∨
    limits.perApplication ≤ p.learnedPerApplication.count owner

instance (p : LearnProgress) (limits : LearningLimits) (owner : BitVec 32 × ExecutableFileId) :
    Decidable (p.Exhausted limits owner) :=
  inferInstanceAs (Decidable (_ ∨ _))

section Endpoint

variable {limits : LearningLimits} {maximumNew : ℕ} {learned : LearnedApplicationEndpoint}
  {key : ApplicationTemplateKey} {owner : BitVec 32 × ExecutableFileId}

inductive Handles (limits : LearningLimits) (maximumNew : ℕ) (supply : Supply)
    (p : LearnProgress) (learned : LearnedApplicationEndpoint) (key : ApplicationTemplateKey)
    (owner : BitVec 32 × ExecutableFileId) : LearnStep → Prop
  | known (known : LearnedRuleKey.fromApplicationEndpoint learned ∈ p.known) :
      Handles limits maximumNew supply p learned key owner (.next p)
  | full (new : LearnedRuleKey.fromApplicationEndpoint learned ∉ p.known)
      (full : maximumNew < p.outcomes.length + slots p.knownTemplates key) :
      Handles limits maximumNew supply p learned key owner (.stop p)
  | exhausted (new : LearnedRuleKey.fromApplicationEndpoint learned ∉ p.known)
      (room : p.outcomes.length + slots p.knownTemplates key ≤ maximumNew)
      (exhausted : p.Exhausted limits owner) :
      Handles limits maximumNew supply p learned key owner (.next p)
  | templateFails {error : CoreError}
      (new : LearnedRuleKey.fromApplicationEndpoint learned ∉ p.known)
      (room : p.outcomes.length + slots p.knownTemplates key ≤ maximumNew)
      (free : ¬p.Exhausted limits owner) (failed : p.withTemplate supply key = .error error) :
      Handles limits maximumNew supply p learned key owner (.fail error p)
  | endpointFails {p' : LearnProgress} {error : CoreError}
      (new : LearnedRuleKey.fromApplicationEndpoint learned ∉ p.known)
      (room : p.outcomes.length + slots p.knownTemplates key ≤ maximumNew)
      (free : ¬p.Exhausted limits owner) (template : p.withTemplate supply key = .ok p')
      (failed : p'.withEndpoint supply learned owner = .error error) :
      Handles limits maximumNew supply p learned key owner (.fail error p')
  | learns {p' p'' : LearnProgress}
      (new : LearnedRuleKey.fromApplicationEndpoint learned ∉ p.known)
      (room : p.outcomes.length + slots p.knownTemplates key ≤ maximumNew)
      (free : ¬p.Exhausted limits owner) (template : p.withTemplate supply key = .ok p')
      (endpoint : p'.withEndpoint supply learned owner = .ok p'') :
      Handles limits maximumNew supply p learned key owner (.next p'')

theorem learnOne_handles (limits : LearningLimits) (maximumNew : ℕ) (supply : Supply)
    (p : LearnProgress) (hid : Identifies learned key owner) :
    Handles limits maximumNew supply p learned key owner
      (p.learnOne limits maximumNew supply learned) := by
  obtain ⟨uid, file⟩ := owner
  unfold learnOne
  by_cases hknown : LearnedRuleKey.fromApplicationEndpoint learned ∈ p.known
  · rw [if_pos hknown]
    exact .known hknown
  rw [if_neg hknown, hid.group]
  simp only [hid.uid, hid.file]
  by_cases hfull : maximumNew < p.outcomes.length + slots p.knownTemplates key
  · rw [slots] at hfull
    rw [if_pos hfull]
    exact .full hknown hfull
  have hroom := not_lt.mp hfull
  rw [slots] at hfull
  rw [if_neg hfull]
  by_cases hexhausted : p.Exhausted limits (uid, file)
  · rw [Exhausted] at hexhausted
    rw [if_pos hexhausted]
    exact .exhausted hknown hroom hexhausted
  rw [Exhausted] at hexhausted
  rw [if_neg hexhausted]
  cases htemplate : p.withTemplate supply key with
  | error error => exact .templateFails hknown hroom hexhausted htemplate
  | ok p' =>
    cases hendpoint : p'.withEndpoint supply learned (uid, file) with
    | error error =>
      simp only [hendpoint]
      exact .endpointFails hknown hroom hexhausted htemplate hendpoint
    | ok p'' =>
      simp only [hendpoint]
      exact .learns hknown hroom hexhausted htemplate hendpoint

theorem learnOne_of_free (hid : Identifies learned key owner)
    (hnew : LearnedRuleKey.fromApplicationEndpoint learned ∉ p.known)
    (hroom : p.outcomes.length + slots p.knownTemplates key ≤ maximumNew)
    (hfree : ¬p.Exhausted limits owner) (htemplate : p.withTemplate supply key = .ok p') :
    p.learnOne limits maximumNew supply learned =
      match p'.withEndpoint supply learned owner with
      | .error error => .fail error p'
      | .ok p'' => .next p'' := by
  have hhandles := learnOne_handles limits maximumNew supply p hid
  generalize p.learnOne limits maximumNew supply learned = step at hhandles
  cases hhandles with
  | known hknown => exact absurd hknown hnew
  | full _ hfull => exact absurd hroom (not_le.mpr hfull)
  | exhausted _ _ hexhausted => exact absurd hexhausted hfree
  | templateFails _ _ _ hfailed => cases hfailed.symm.trans htemplate
  | endpointFails _ _ _ hsame hfailed =>
    cases hsame.symm.trans htemplate
    rw [hfailed]
  | learns _ _ _ hsame hendpoint =>
    cases hsame.symm.trans htemplate
    rw [hendpoint]

end Endpoint

/-! ### What the learner remembers -/

/-- The learner remembers what a scan of its state would find. -/
structure Agrees (p : LearnProgress) : Prop where
  known : p.known.Perm (start p.state).known
  knownTemplates : p.knownTemplates.Perm (start p.state).knownTemplates
  learnedPerUid : p.learnedPerUid.Perm (start p.state).learnedPerUid
  learnedPerApplication : p.learnedPerApplication.Perm (start p.state).learnedPerApplication

theorem start_agrees (s : State) : (start s).Agrees :=
  ⟨.refl _, .refl _, .refl _, .refl _⟩

section Scan

variable {rule : Rule}

theorem values_withRule (hfree : s.rules.get? rule.id = none) :
    (s.withRule rule).rules.values.Perm (rule :: s.rules.values) :=
  s.rules.values_insert_perm rule hfree

theorem known_withRule (hfree : s.rules.get? rule.id = none) :
    (start (s.withRule rule)).known.Perm
      ((([rule].filter isLearnedOutbound).map LearnedRuleKey.fromRule) ++ (start s).known) := by
  have hscan := ((values_withRule hfree).filter isLearnedOutbound).map LearnedRuleKey.fromRule
  rwa [← List.singleton_append, List.filter_append, List.map_append] at hscan

theorem knownTemplates_withRule (hfree : s.rules.get? rule.id = none) :
    (start (s.withRule rule)).knownTemplates.Perm
      ([rule].filterMap ApplicationTemplateKey.fromTemplate ++ (start s).knownTemplates) := by
  have hscan := (values_withRule hfree).filterMap ApplicationTemplateKey.fromTemplate
  rwa [← List.singleton_append, List.filterMap_append] at hscan

theorem learnedPerApplication_withRule (hfree : s.rules.get? rule.id = none) :
    (start (s.withRule rule)).learnedPerApplication.Perm
      ([rule].filterMap learnedOwner? ++ (start s).learnedPerApplication) := by
  have hscan := (values_withRule hfree).filterMap learnedOwner?
  rwa [← List.singleton_append, List.filterMap_append] at hscan

theorem learnedPerUid_withRule (hfree : s.rules.get? rule.id = none) :
    (start (s.withRule rule)).learnedPerUid.Perm
      (([rule].filterMap learnedOwner?).map Prod.fst ++ (start s).learnedPerUid) := by
  have hscan := (learnedPerApplication_withRule hfree).map Prod.fst
  rwa [List.map_append] at hscan

end Scan

section Agrees

variable {learned : LearnedApplicationEndpoint} {key : ApplicationTemplateKey}
  {owner : BitVec 32 × ExecutableFileId}

theorem Agrees.afterTemplate (h : p.Agrees)
    (hfree : p.state.rules.get? (supply p.draws).1 = none) :
    (p.afterTemplate supply key).Agrees :=
  let rule := (templateSpec key).created (supply p.draws)
  { known := h.known.trans (@known_withRule p.state rule hfree).symm
    knownTemplates :=
      (h.knownTemplates.cons key).trans (@knownTemplates_withRule p.state rule hfree).symm
    learnedPerUid := h.learnedPerUid.trans (@learnedPerUid_withRule p.state rule hfree).symm
    learnedPerApplication :=
      h.learnedPerApplication.trans (@learnedPerApplication_withRule p.state rule hfree).symm }

theorem learnedOwner_endpointSpec (hid : Identifies learned key owner)
    (draw : Uuid × Timestamp) : learnedOwner? ((endpointSpec learned).created draw) = some owner := by
  simp [learnedOwner?, isLearnedOutbound, RuleSpec.created, endpointSpec, hid.uid, hid.file]

theorem Agrees.afterEndpoint (h : p.Agrees) (hid : Identifies learned key owner)
    (hfree : p.state.rules.get? (supply p.draws).1 = none) :
    (p.afterEndpoint supply learned owner).Agrees := by
  have howner := learnedOwner_endpointSpec hid (supply p.draws)
  let rule := (endpointSpec learned).created (supply p.draws)
  have happlication := @learnedPerApplication_withRule p.state rule hfree
  have huid := @learnedPerUid_withRule p.state rule hfree
  simp only [rule, List.filterMap_cons, howner, List.filterMap_nil, List.map_cons, List.map_nil,
    List.singleton_append] at happlication huid
  exact
    { known := (h.known.cons _).trans (@known_withRule p.state rule hfree).symm
      knownTemplates :=
        h.knownTemplates.trans (@knownTemplates_withRule p.state rule hfree).symm
      learnedPerUid := (h.learnedPerUid.cons owner.1).trans huid.symm
      learnedPerApplication := (h.learnedPerApplication.cons owner).trans happlication.symm }

end Agrees

end LearnProgress

/-! ### Batches -/

/-- What a batch does to a state: one after the other it creates the skeletons of groups that
have none and the rules of endpoints that are new and within the budgets of their owner. -/
inductive State.Collects (limits : LearningLimits) (batch : List LearnedApplicationEndpoint)
    (s : State) : List LearnOutcome → State → Prop
  | refl : Collects limits batch s [] s
  | template {t : State} {outcomes : List LearnOutcome} {learned : LearnedApplicationEndpoint}
      {key : ApplicationTemplateKey} {draw : Uuid × Timestamp}
      (previous : Collects limits batch s outcomes t) (observed : learned ∈ batch)
      (group : ApplicationTemplateKey.fromSelector learned.application = .ok key)
      (new : key ∉ (LearnProgress.start t).knownTemplates)
      (takes : t.Takes ((templateSpec key).created draw)) :
      Collects limits batch s
        (outcomes ++ [t.withRuleOutcome ((templateSpec key).created draw)])
        (t.withRule ((templateSpec key).created draw))
  | endpoint {t : State} {outcomes : List LearnOutcome} {learned : LearnedApplicationEndpoint}
      {key : ApplicationTemplateKey} {owner : BitVec 32 × ExecutableFileId}
      {draw : Uuid × Timestamp} (previous : Collects limits batch s outcomes t)
      (observed : learned ∈ batch) (identified : LearnProgress.Identifies learned key owner)
      (new : LearnedRuleKey.fromApplicationEndpoint learned ∉ (LearnProgress.start t).known)
      (free : ¬(LearnProgress.start t).Exhausted limits owner)
      (takes : t.Takes ((endpointSpec learned).created draw)) :
      Collects limits batch s
        (outcomes ++ [t.withRuleOutcome ((endpointSpec learned).created draw)])
        (t.withRule ((endpointSpec learned).created draw))

namespace LearnProgress

structure Collecting (limits : LearningLimits) (batch : List LearnedApplicationEndpoint)
    (maximumNew : ℕ) (s : State) (p : LearnProgress) : Prop where
  agrees : p.Agrees
  collects : s.Collects limits batch p.outcomes p.state
  bound : p.outcomes.length ≤ maximumNew

variable {limits : LearningLimits} {batch : List LearnedApplicationEndpoint} {maximumNew : ℕ}
  {s : State} {p p' : LearnProgress} {supply : Supply} {learned : LearnedApplicationEndpoint}
  {key : ApplicationTemplateKey} {owner : BitVec 32 × ExecutableFileId}

theorem Agrees.exhausted_iff (h : p.Agrees) :
    p.Exhausted limits owner ↔ (start p.state).Exhausted limits owner := by
  rw [Exhausted, Exhausted, h.learnedPerUid.count_eq, h.learnedPerApplication.count_eq]

theorem Collecting.withTemplate (h : Collecting limits batch maximumNew s p)
    (hobserved : learned ∈ batch) (hid : Identifies learned key owner)
    (hroom : p.outcomes.length + slots p.knownTemplates key ≤ maximumNew)
    (htemplate : p.withTemplate supply key = .ok p') :
    Collecting limits batch maximumNew s p' ∧ p'.outcomes.length + 1 ≤ maximumNew ∧
      p'.known = p.known ∧ (p'.Exhausted limits owner ↔ p.Exhausted limits owner) := by
  rw [slots] at hroom
  rcases withTemplate_eq_ok_iff.mp htemplate with ⟨hknown, rfl⟩ | ⟨hnew, htakes, rfl⟩
  · rw [if_pos hknown] at hroom
    exact ⟨h, hroom, rfl, Iff.rfl⟩
  · rw [if_neg hnew] at hroom
    have hlength : (p.afterTemplate supply key).outcomes.length = p.outcomes.length + 1 :=
      List.length_append
    have hcollects := h.collects.template hobserved hid.group
      (fun hmem => hnew (h.agrees.knownTemplates.mem_iff.mpr hmem)) htakes
    exact ⟨⟨h.agrees.afterTemplate htakes.free, hcollects, by omega⟩, by omega, rfl, Iff.rfl⟩

theorem Collecting.learnOne (h : Collecting limits batch maximumNew s p)
    (hobserved : learned ∈ batch) (hvalid : learned.validate = .ok ()) (supply : Supply) :
    match p.learnOne limits maximumNew supply learned with
    | .next p' | .stop p' | .fail _ p' => Collecting limits batch maximumNew s p' := by
  obtain ⟨key, owner, hid⟩ := exists_identifies hvalid
  have hhandles := learnOne_handles limits maximumNew supply p hid
  generalize p.learnOne limits maximumNew supply learned = step at hhandles
  cases hhandles with
  | known => exact h
  | full => exact h
  | exhausted => exact h
  | templateFails => exact h
  | endpointFails _ hroom _ htemplate => exact (h.withTemplate hobserved hid hroom htemplate).1
  | @learns p' p'' hnew hroom hfree htemplate hendpoint =>
    obtain ⟨h', hroom', hknown, hexhausted⟩ := h.withTemplate hobserved hid hroom htemplate
    obtain ⟨htakes, rfl⟩ := withEndpoint_eq_ok_iff.mp hendpoint
    have hlength : (p'.afterEndpoint supply learned owner).outcomes.length =
        p'.outcomes.length + 1 := List.length_append
    have hcollects := h'.collects.endpoint hobserved hid
      (fun hmem => hnew (hknown ▸ h'.agrees.known.mem_iff.mpr hmem))
      (fun hfull => hfree (hexhausted.mp (h'.agrees.exhausted_iff.mpr hfull))) htakes
    exact ⟨h'.agrees.afterEndpoint hid htakes.free, hcollects, by omega⟩

theorem Collecting.learnAll {endpoints : List LearnedApplicationEndpoint}
    (h : Collecting limits batch maximumNew s p) (hbatch : endpoints ⊆ batch)
    (hvalid : ∀ learned ∈ endpoints, learned.validate = .ok ()) (supply : Supply) :
    Collecting limits batch maximumNew s (p.learnAll limits maximumNew supply endpoints).2 := by
  induction endpoints generalizing p with
  | nil => exact h
  | cons learned rest ih =>
    have hstep := h.learnOne (hbatch List.mem_cons_self) (hvalid _ List.mem_cons_self) supply
    unfold LearnProgress.learnAll
    cases hone : p.learnOne limits maximumNew supply learned with
    | next p' =>
      rw [hone] at hstep
      exact ih hstep (fun l hl => hbatch (List.mem_cons_of_mem _ hl))
        fun l hl => hvalid l (List.mem_cons_of_mem _ hl)
    | stop p' =>
      rw [hone] at hstep
      exact hstep
    | fail error p' =>
      rw [hone] at hstep
      exact hstep

theorem Collecting.start (limits : LearningLimits) (batch : List LearnedApplicationEndpoint)
    (maximumNew : ℕ) (s : State) : Collecting limits batch maximumNew s (start s) :=
  ⟨start_agrees s, .refl, Nat.zero_le _⟩

/-! ### Success -/

/-- At least `count` more rules can be created. -/
structure Supplied (supply : Supply) (count : ℕ) (p : LearnProgress) : Prop where
  nonzero : ∀ k < count, (supply (p.draws + k)).1 ≠ 0
  unused : ∀ k < count, p.state.rules.get? (supply (p.draws + k)).1 = none
  distinct : ∀ j < count, ∀ k < count,
    (supply (p.draws + j)).1 = (supply (p.draws + k)).1 → j = k
  size : p.state.rules.size + count ≤ MAX_RULES
  revision : p.state.revision.toNat + count < 2 ^ 64

namespace Supplied

variable {count : ℕ} {spec : RuleSpec}

theorem takes (h : Supplied supply (count + 1) p)
    (hvalid : PolicyRuleValid (spec.created (supply p.draws))) :
    p.state.Takes (spec.created (supply p.draws)) := by
  refine ⟨hvalid, by have := h.size; omega, h.unused 0 (by omega), fun hlast => ?_⟩
  have hrevision := h.revision
  rw [hlast, BitVec.toNat_allOnes] at hrevision
  omega

theorem withRule (h : Supplied supply (count + 1) p)
    (hstate : p'.state = p.state.withRule (spec.created (supply p.draws)))
    (hdraws : p'.draws = p.draws + 1) : Supplied supply count p' := by
  have hshift (k : ℕ) : p'.draws + k = p.draws + (k + 1) := by omega
  refine ⟨fun k hk => ?_, fun k hk => ?_, fun j hj k hk heq => ?_, ?_, ?_⟩
  · rw [hshift]
    exact h.nonzero (k + 1) (by omega)
  · rw [hshift, hstate]
    change (p.state.rules.insert (supply p.draws).1 _).get? _ = none
    rw [OrderedMap.get?_insert, if_neg fun heq => ?_]
    · exact h.unused (k + 1) (by omega)
    · exact absurd (h.distinct (k + 1) (by omega) 0 (by omega) heq) (by omega)
  · rw [hshift, hshift] at heq
    have := h.distinct (j + 1) (by omega) (k + 1) (by omega) heq
    omega
  · have hsize : p'.state.rules.size = p.state.rules.size + 1 := by
      rw [hstate]
      exact p.state.rules.size_insert_of_get?_eq_none _ (h.unused 0 (by omega))
    have := h.size
    omega
  · have hrevision : p'.state.revision.toNat = p.state.revision.toNat + 1 := by
      rw [hstate]
      refine toNat_add_one_of_ne_allOnes fun hlast => ?_
      have hbound := h.revision
      rw [hlast, BitVec.toNat_allOnes] at hbound
      omega
    have := h.revision
    omega

theorem mono {small : ℕ} (h : Supplied supply count p) (hle : small ≤ count) :
    Supplied supply small p :=
  ⟨fun k hk => h.nonzero k (by omega), fun k hk => h.unused k (by omega),
    fun j hj k hk => h.distinct j (by omega) k (by omega), by have := h.size; omega,
    by have := h.revision; omega⟩

theorem withTemplate (h : Supplied supply (slots p.knownTemplates key + count) p) :
    ∃ p', p.withTemplate supply key = .ok p' ∧ Supplied supply (count + 1) p' ∧
      p'.outcomes.length + 1 = p.outcomes.length + slots p.knownTemplates key := by
  rw [slots] at h ⊢
  by_cases hknown : key ∈ p.knownTemplates
  · rw [if_pos hknown] at h ⊢
    exact ⟨p, withTemplate_eq_ok_iff.mpr (.inl ⟨hknown, rfl⟩), h.mono (by omega), by omega⟩
  · rw [if_neg hknown] at h ⊢
    have htwo : Supplied supply (count + 1 + 1) p := h.mono (by omega)
    have htakes := htwo.takes (templateSpec_policyValid key (h.nonzero 0 (by omega)))
    refine ⟨p.afterTemplate supply key, withTemplate_eq_ok_iff.mpr (.inr ⟨hknown, htakes, rfl⟩),
      htwo.withRule rfl rfl, ?_⟩
    simp [LearnProgress.afterTemplate]

theorem withEndpoint (h : Supplied supply (count + 1) p) (hvalid : learned.validate = .ok ())
    (hport : learned.endpoint.PortFits) (owner : BitVec 32 × ExecutableFileId) :
    p.withEndpoint supply learned owner = .ok (p.afterEndpoint supply learned owner) ∧
      Supplied supply count (p.afterEndpoint supply learned owner) :=
  ⟨withEndpoint_eq_ok_iff.mpr
    ⟨h.takes (endpointSpec_policyValid hvalid hport (h.nonzero 0 (by omega))), rfl⟩,
    h.withRule rfl rfl⟩

end Supplied

end LearnProgress

theorem validateEndpoints_eq_ok_iff (endpoints : List LearnedApplicationEndpoint) :
    validateEndpoints endpoints = .ok () ↔ ∀ learned ∈ endpoints, learned.validate = .ok () := by
  have hlift (result : Except ApplicationValidationError Unit) :
      liftValidation (liftApplication result) = .ok () ↔ result = .ok () := by
    rw [liftValidation_eq_ok_iff]
    cases result <;> simp [liftApplication]
  induction endpoints with
  | nil => simp [validateEndpoints]
  | cons learned rest ih =>
    simp only [validateEndpoints, Except.bind_unit_eq_ok_iff, hlift, ih, List.forall_mem_cons]

namespace State

def learningRoom (s : State) (maximumNew : ℕ) : ℕ :=
  min (min maximumNew (MAX_RULES - s.rules.size)) (MAX_AUTOMATIC_LEARNED_RULES - s.automaticCount)

theorem learnNewApplicationEndpointsWithLimits_eq {s : State}
    {endpoints : List LearnedApplicationEndpoint}
    (hvalid : ∀ learned ∈ endpoints.take MAX_RULES, learned.validate = .ok ())
    (maximumNew : ℕ) (limits : LearningLimits) (supply : Supply) :
    s.learnNewApplicationEndpointsWithLimits endpoints maximumNew limits supply =
      let finish := (LearnProgress.start s).learnAll limits (s.learningRoom maximumNew) supply
        (endpoints.take MAX_RULES)
      (finish.1.map fun _ => finish.2.outcomes, finish.2.state) := by
  rw [learnNewApplicationEndpointsWithLimits, (validateEndpoints_eq_ok_iff _).mpr hvalid]
  simp only
  rw [← learningRoom]
  generalize (LearnProgress.start s).learnAll limits (s.learningRoom maximumNew) supply
    (endpoints.take MAX_RULES) = finish
  obtain ⟨result, p⟩ := finish
  cases result <;> rfl

end State

end OpenShield
