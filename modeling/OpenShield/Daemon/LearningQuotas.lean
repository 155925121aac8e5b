import OpenShield.Daemon.Engine

/-!
# What a learning batch may change

A batch of observations turns into rules against four bounds at once: the number of rules, the
number of automatic rules, and the budgets of the user and of the application. Here every batch is
followed from creation to creation. It leaves every rule as it was, adds only what it observed,
and stays within each bound that was kept before. The daemon checks a batch once more before it
stores it, and never finds fault with one.
-/

namespace OpenShield

namespace State

def learnedKeys (s : State) : List LearnedRuleKey :=
  (s.rules.values.filter isLearnedOutbound).map LearnedRuleKey.fromRule

def learnedByUid (s : State) (uid : BitVec 32) : ℕ :=
  ((s.rules.values.filterMap learnedOwner?).map Prod.fst).count uid

def learnedByApplication (s : State) (owner : BitVec 32 × ExecutableFileId) : ℕ :=
  (s.rules.values.filterMap learnedOwner?).count owner

def Learnable (batch : List LearnedApplicationEndpoint) (spec : RuleSpec) : Prop :=
  (∃ learned ∈ batch, spec = endpointSpec learned) ∨ ∃ key, spec = templateSpec key

structure LearnedWithin (limits : LearningLimits) (batch : List LearnedApplicationEndpoint)
    (s t : State) (events : List Event) : Prop where
  keeps : ∀ id rule, s.rules.get? id = some rule → t.rules.get? id = some rule
  mode : t.mode = s.mode
  strategy : t.enforcementStrategy = s.enforcementStrategy
  generation : t.flowGeneration = s.flowGeneration
  adds : ∀ id rule, t.rules.get? id = some rule → s.rules.get? id = none →
    Learnable batch rule.spec
  keys : s.learnedKeys.Nodup → t.learnedKeys.Nodup
  /-- A new skeleton is the only one of its group. -/
  templates : ∀ id id' rule rule' key, t.rules.get? id = some rule → s.rules.get? id = none →
    t.rules.get? id' = some rule' → rule.spec = templateSpec key →
    rule'.spec = templateSpec key → id = id'
  total : t.rules.size ≤ MAX_RULES
  automatic : t.automaticCount ≤ max MAX_AUTOMATIC_LEARNED_RULES s.automaticCount
  perUid : ∀ uid, t.learnedByUid uid ≤ max limits.perUid (s.learnedByUid uid)
  perApplication : ∀ owner,
    t.learnedByApplication owner ≤ max limits.perApplication (s.learnedByApplication owner)
  accepted : Runtime.validateApplicationLearningTransition s t events = true

namespace Collects

variable {limits : LearningLimits} {batch : List LearnedApplicationEndpoint} {s t : State}
  {outcomes : List LearnOutcome}

theorem induct {motive : List LearnOutcome → State → Prop}
    (h : s.Collects limits batch outcomes t) (base : motive [] s)
    (step : ∀ outcomes t rule, s.Collects limits batch outcomes t → motive outcomes t →
      Learnable batch rule.spec → t.Takes rule →
      motive (outcomes ++ [t.withRuleOutcome rule]) (t.withRule rule)) : motive outcomes t := by
  induction h with
  | refl => exact base
  | template previous _ _ _ htakes ih => exact step _ _ _ previous ih (.inr ⟨_, rfl⟩) htakes
  | endpoint previous hobserved _ _ _ htakes ih =>
    exact step _ _ _ previous ih (.inl ⟨_, hobserved, rfl⟩) htakes

theorem keeps (h : s.Collects limits batch outcomes t) {id : Uuid} {rule : Rule}
    (hget : s.rules.get? id = some rule) : t.rules.get? id = some rule :=
  induct (motive := fun _ t => t.rules.get? id = some rule) h hget
    fun _ _ _ _ ih _ htakes => htakes.keeps ih

theorem adds (h : s.Collects limits batch outcomes t) {id : Uuid} {rule : Rule}
    (hget : t.rules.get? id = some rule) (hnew : s.rules.get? id = none) :
    Learnable batch rule.spec := by
  revert hget
  refine induct (motive := fun _ t => t.rules.get? id = some rule → Learnable batch rule.spec) h
    (fun hget => ?_) fun outcomes t created _ ih hlearnable htakes hget => ?_
  · rw [hnew] at hget
    cases hget
  · rw [get?_withRule] at hget
    split_ifs at hget with heq
    · cases hget
      exact hlearnable
    · exact ih hget

/-- Nothing but rules and revision changes. -/
theorem frame (h : s.Collects limits batch outcomes t) :
    t.mode = s.mode ∧ t.enforcementStrategy = s.enforcementStrategy ∧
      t.flowGeneration = s.flowGeneration :=
  induct (motive := fun _ t => t.mode = s.mode ∧ t.enforcementStrategy = s.enforcementStrategy ∧
    t.flowGeneration = s.flowGeneration) h ⟨rfl, rfl, rfl⟩ fun _ _ _ _ ih _ _ => ih

theorem keys (h : s.Collects limits batch outcomes t) (hs : s.learnedKeys.Nodup) :
    t.learnedKeys.Nodup := by
  induction h with
  | refl => exact hs
  | template _ _ _ _ htakes ih =>
    exact (LearnProgress.known_withRule htakes.free).nodup_iff.mpr ih
  | endpoint _ _ _ hnew _ htakes ih =>
    exact (LearnProgress.known_withRule htakes.free).nodup_iff.mpr (List.nodup_cons.mpr ⟨hnew, ih⟩)

theorem counts (h : s.Collects limits batch outcomes t) :
    t.rules.size = s.rules.size + outcomes.length ∧
      t.automaticCount = s.automaticCount + outcomes.length := by
  refine induct (motive := fun outcomes t => t.rules.size = s.rules.size + outcomes.length ∧
    t.automaticCount = s.automaticCount + outcomes.length) h ⟨rfl, rfl⟩
    fun outcomes t created _ ih hlearnable htakes => ?_
  have hautomatic : isAutomaticRule created = true := by
    unfold isAutomaticRule
    rcases hlearnable with ⟨learned, -, hspec⟩ | ⟨key, hspec⟩ <;> rw [hspec] <;> rfl
  rw [List.length_append, List.length_singleton, ← Nat.add_assoc, ← Nat.add_assoc, ← ih.1, ← ih.2]
  refine ⟨t.rules.size_insert_of_get?_eq_none created htakes.free, ?_⟩
  rw [automaticCount, (LearnProgress.values_withRule htakes.free).countP_eq,
    List.countP_cons_of_pos hautomatic]
  rfl

theorem perUid (h : s.Collects limits batch outcomes t) (uid : BitVec 32) :
    t.learnedByUid uid ≤ max limits.perUid (s.learnedByUid uid) := by
  induction h with
  | refl => exact le_max_right _ _
  | template _ _ _ _ htakes ih =>
    exact ((LearnProgress.learnedPerUid_withRule htakes.free).count_eq uid).trans_le ih
  | @endpoint t _ learned key owner draw _ _ hid _ hfree htakes ih =>
    have hcount := (LearnProgress.learnedPerUid_withRule htakes.free).count_eq uid
    simp only [List.filterMap_cons, LearnProgress.learnedOwner_endpointSpec hid,
      List.filterMap_nil, List.map_cons, List.map_nil, List.singleton_append] at hcount
    refine hcount.trans_le ?_
    by_cases howner : owner.1 = uid
    · -- the budget of this user was not used up
      rw [LearnProgress.Exhausted, not_or, not_le, not_le, howner] at hfree
      rw [howner, List.count_cons_self]
      exact le_max_of_le_left hfree.1
    · rw [List.count_cons_of_ne howner]
      exact ih

theorem perApplication (h : s.Collects limits batch outcomes t)
    (owner : BitVec 32 × ExecutableFileId) :
    t.learnedByApplication owner ≤ max limits.perApplication (s.learnedByApplication owner) := by
  induction h with
  | refl => exact le_max_right _ _
  | template _ _ _ _ htakes ih =>
    exact ((LearnProgress.learnedPerApplication_withRule htakes.free).count_eq owner).trans_le ih
  | @endpoint t _ learned key other draw _ _ hid _ hfree htakes ih =>
    have hcount := (LearnProgress.learnedPerApplication_withRule htakes.free).count_eq owner
    simp only [List.filterMap_cons, LearnProgress.learnedOwner_endpointSpec hid,
      List.filterMap_nil, List.singleton_append] at hcount
    refine hcount.trans_le ?_
    by_cases howner : other = owner
    · rw [LearnProgress.Exhausted, not_or, not_le, not_le, howner] at hfree
      rw [howner, List.count_cons_self]
      exact le_max_of_le_left hfree.2
    · rw [List.count_cons_of_ne howner]
      exact ih

theorem mem_knownTemplates {id : Uuid} {rule : Rule} {key : ApplicationTemplateKey}
    (hget : t.rules.get? id = some rule) (hspec : rule.spec = templateSpec key) :
    key ∈ (LearnProgress.start t).knownTemplates := by
  refine List.mem_filterMap.mpr ⟨rule, (t.rules.mem_values_iff rule).mpr ⟨id, hget⟩, ?_⟩
  rw [ApplicationTemplateKey.fromTemplate, hspec]
  rfl

theorem templateSpec_injective : Function.Injective templateSpec := by
  intro key key' h
  have hselector : key.selector = key'.selector := Option.some.inj (congrArg RuleSpec.application h)
  have hexecutable := Option.some.inj (congrArg ApplicationSelector.executable hselector)
  have hcgroup : key.cgroup = key'.cgroup := congrArg ApplicationSelector.cgroup hselector
  cases key
  cases key'
  simp_all

theorem templates (h : s.Collects limits batch outcomes t) {id id' : Uuid} {rule rule' : Rule}
    {key : ApplicationTemplateKey} (hget : t.rules.get? id = some rule)
    (hnew : s.rules.get? id = none) (hget' : t.rules.get? id' = some rule')
    (hspec : rule.spec = templateSpec key) (hspec' : rule'.spec = templateSpec key) :
    id = id' := by
  induction h with
  | refl =>
    rw [hnew] at hget
    cases hget
  | @template t outcomes learned group draw previous observed hgroup hfirst htakes ih =>
    rw [get?_withRule] at hget hget'
    -- the second skeleton of a group would have been known before
    split_ifs at hget with heq <;> split_ifs at hget' with heq'
    · rw [heq, heq']
    · cases hget
      cases templateSpec_injective hspec
      exact absurd (mem_knownTemplates hget' hspec') hfirst
    · cases hget'
      cases templateSpec_injective hspec'
      exact absurd (mem_knownTemplates hget hspec) hfirst
    · exact ih hget hget'
  | @endpoint t outcomes learned group owner draw previous observed hid hfirst hfree htakes ih =>
    have hother (group : ApplicationTemplateKey) : endpointSpec learned ≠ templateSpec group :=
      fun heq => nomatch congrArg RuleSpec.origin heq
    rw [get?_withRule] at hget hget'
    split_ifs at hget with heq
    · cases hget
      exact absurd hspec (hother key)
    · split_ifs at hget' with heq'
      · cases hget'
        exact absurd hspec' (hother key)
      · exact ih hget hget'

theorem isLearnedCreation_of_learnable {rule : Rule} (h : Learnable batch rule.spec) :
    Runtime.isLearnedCreation rule = true := by
  unfold Runtime.isLearnedCreation
  rcases h with ⟨learned, -, hspec⟩ | ⟨key, hspec⟩ <;> rw [hspec] <;> rfl

theorem checkLearningEvents_append (previous candidate : State) (revision : BitVec 64)
    (front back : List Event) :
    Runtime.checkLearningEvents previous candidate revision (front ++ back) =
      (Runtime.checkLearningEvents previous candidate revision front).bind fun middle =>
        Runtime.checkLearningEvents previous candidate middle back := by
  induction front generalizing revision with
  | nil => rfl
  | cons event rest ih =>
    simp only [List.cons_append, Runtime.checkLearningEvents]
    split
    · split_ifs
      · rfl
      · exact ih _
    · rfl

theorem checkLearningEvents (h : s.Collects limits batch outcomes t) {candidate : State}
    (hhas : ∀ id rule, t.rules.get? id = some rule → candidate.rules.get? id = some rule) :
    Runtime.checkLearningEvents s candidate s.revision (outcomes.filterMap (·.event)) =
      some t.revision := by
  revert hhas
  refine induct (motive := fun outcomes t =>
    (∀ id rule, t.rules.get? id = some rule → candidate.rules.get? id = some rule) →
    Runtime.checkLearningEvents s candidate s.revision (outcomes.filterMap (·.event)) =
      some t.revision) h (fun _ => rfl) fun outcomes t created previous ih hlearnable htakes hhas => ?_
  have hearlier : ∀ id rule, t.rules.get? id = some rule →
      candidate.rules.get? id = some rule := by
    intro id rule hget
    exact hhas id rule (htakes.keeps hget)
  have hcreated : candidate.rules.get? created.id = some created :=
    hhas _ _ (by rw [get?_withRule, if_pos rfl])
  -- the rule was not there before the batch either
  have hnew : s.rules.get? created.id = none := by
    cases hget : s.rules.get? created.id with
    | none => rfl
    | some rule =>
      have hfree := htakes.free
      rw [previous.keeps hget] at hfree
      cases hfree
  rw [List.filterMap_append, checkLearningEvents_append, ih hearlier]
  have hnext : checkedSucc t.revision = some (t.revision + 1) := if_neg htakes.revision
  simp [Runtime.checkLearningEvents, withRuleOutcome, withRuleEvent, hnext,
    isLearnedCreation_of_learnable hlearnable, hnew, hcreated, withRule]

theorem learnedWithin (h : s.Collects limits batch outcomes t) (hs : s.WellFormed)
    (hmode : s.mode = .learning) {maximumNew : ℕ}
    (hroom : outcomes.length ≤ s.learningRoom maximumNew) :
    s.LearnedWithin limits batch t (outcomes.filterMap (·.event)) := by
  obtain ⟨hsame, hstrategy, hgeneration⟩ := h.frame
  obtain ⟨hsize, hautomatic⟩ := h.counts
  rw [learningRoom] at hroom
  have hbound := hs.size
  refine ⟨fun _ _ => h.keeps, hsame, hstrategy, hgeneration, fun _ _ => h.adds, h.keys,
    fun _ _ _ _ _ => h.templates, by omega, by omega, h.perUid, h.perApplication, ?_⟩
  have hevents : (outcomes.filterMap (·.event)).length = outcomes.length := by
    refine induct (motive := fun outcomes _ =>
      (outcomes.filterMap (·.event)).length = outcomes.length) h rfl fun _ _ _ _ ih _ _ => ?_
    rw [List.filterMap_append, List.length_append, List.length_append, ih]
    rfl
  have hrules : ∀ rule ∈ s.rules.values, t.rules.get? rule.id = some rule := by
    intro rule hrule
    obtain ⟨entry, hentry, rfl⟩ := List.mem_map.mp hrule
    refine h.keeps ((s.rules.get?_eq_some_iff _ _).mpr ?_)
    rw [← (hs.entries entry hentry).1]
    exact hentry
  simp only [Runtime.validateApplicationLearningTransition, Bool.and_eq_true, decide_eq_true_eq,
    List.all_eq_true]
  exact ⟨⟨⟨⟨⟨hsame.trans hmode, hstrategy⟩, hgeneration⟩, by omega⟩, hrules⟩,
    h.checkLearningEvents fun _ _ hget => hget⟩

end Collects

end State

/-- Automatic learning stays within its quotas and touches nothing else: a batch that the learner
reports as done keeps every rule, the mode, the strategy and the flow generation, adds only
accept rules of its endpoints and disabled skeletons, neither duplicates keys nor skeletons,
exceeds no bound that was kept before, and passes the daemon's check of the transition. -/
theorem learning_within_quotas {s t : State} {endpoints : List LearnedApplicationEndpoint}
    {maximumNew : ℕ} {limits : LearningLimits} {supply : Supply} {outcomes : List LearnOutcome}
    (hs : s.WellFormed) (hmode : s.mode = .learning)
    (h : s.learnNewApplicationEndpointsWithLimits endpoints maximumNew limits supply =
      (.ok outcomes, t)) :
    s.LearnedWithin limits endpoints t (outcomes.filterMap (·.event)) := by
  have hvalid : ∀ learned ∈ endpoints.take MAX_RULES, learned.validate = .ok () := by
    rw [← validateEndpoints_eq_ok_iff]
    unfold State.learnNewApplicationEndpointsWithLimits at h
    cases hcheck : validateEndpoints (endpoints.take MAX_RULES) with
    | ok => rfl
    | error error =>
      simp only [hcheck] at h
      cases h
  rw [State.learnNewApplicationEndpointsWithLimits_eq hvalid] at h
  have hcollecting := (LearnProgress.Collecting.start limits endpoints (s.learningRoom maximumNew)
    s).learnAll (List.take_subset _ _) hvalid supply
  generalize (LearnProgress.start s).learnAll limits (s.learningRoom maximumNew) supply
    (endpoints.take MAX_RULES) = finish at h hcollecting
  obtain ⟨result, p⟩ := finish
  cases result with
  | error error => cases h
  | ok done =>
    cases h
    exact hcollecting.collects.learnedWithin hs hmode hcollecting.bound

theorem learning_within_quotas_sample :
    ∃ outcomes t, Sample.learner.learnNewApplicationEndpointsWithLimits [Sample.seenEndpoint .tcp] 2
        .default Sample.numbers = (.ok outcomes, t) ∧ outcomes.length = 2 ∧
      Sample.learner.LearnedWithin .default [Sample.seenEndpoint .tcp] t
        (outcomes.filterMap (·.event)) := by
  have hdone : (Sample.learner.learnNewApplicationEndpointsWithLimits [Sample.seenEndpoint .tcp] 2
      .default Sample.numbers).1.toOption.map List.length = some 2 := by decide +kernel
  cases hlearn : Sample.learner.learnNewApplicationEndpointsWithLimits [Sample.seenEndpoint .tcp] 2
    .default Sample.numbers with
  | mk result t =>
    rw [hlearn] at hdone
    cases result with
    | error error => cases hdone
    | ok outcomes =>
      exact ⟨outcomes, t, rfl, Option.some.inj hdone, learning_within_quotas
        (@State.wellFormed_of_validate Sample.json _ (by decide +kernel)) rfl hlearn⟩

end OpenShield
