import OpenShield.Core.LearningCore
import OpenShield.Daemon.TwoPhase

/-!
# The installed policy

A commit installs the policy of its candidate before it puts the candidate in force. Learning
does not: a finalized transaction changes the state and leaves the kernel alone. That is sound
because a learning policy prints none of the rules that a transaction adds, so the kernel still
runs the compilation of the state.

The check of a transaction alone does not give this. It asks neither that the old state was
learning, nor that the events report different rules; both hold of every transaction that the
engine prepares.
-/

namespace OpenShield

def Event.createdId (event : Event) : Option Uuid :=
  match event.kind with
  | .ruleCreated rule => some rule.id
  | _ => none

def Snapshot.CompilesAs (s s' : Snapshot) : Prop :=
  Nftables.compile s = Nftables.compile s' ∧ Iptables.compile s = Iptables.compile s'

namespace Snapshot.CompilesAs

theorem refl (s : Snapshot) : s.CompilesAs s := ⟨rfl, rfl⟩

theorem trans {s s' s'' : Snapshot} (h : s.CompilesAs s') (h' : s'.CompilesAs s'') :
    s.CompilesAs s'' :=
  ⟨h.1.trans h'.1, h.2.trans h'.2⟩

theorem symm {s s' : Snapshot} (h : s.CompilesAs s') : s'.CompilesAs s := ⟨h.1.symm, h.2.symm⟩

theorem of_policy {s s' : Snapshot} (hs : s.validate = .ok ()) (hs' : s'.validate = .ok ())
    (hnftables : Nftables.policy s = Nftables.policy s')
    (hiptables : Iptables.policy s = Iptables.policy s') : s.CompilesAs s' := by
  rw [CompilesAs, Nftables.compile, Nftables.compile, Iptables.compile, Iptables.compile, hs, hs',
    hnftables, hiptables]
  exact ⟨rfl, rfl⟩

end Snapshot.CompilesAs

namespace State

variable {s t : State}

theorem compilesAs_of_learnable (hs : s.WellFormed) (ht : t.WellFormed)
    (hmode : s.mode = .learning) (hmode' : t.mode = .learning)
    (hgeneration : t.flowGeneration = s.flowGeneration)
    (hkeeps : ∀ e ∈ s.rules.entries, e ∈ t.rules.entries)
    (hadds : ∀ e ∈ t.rules.entries, e ∈ s.rules.entries ∨ e.2.isLearnable = true) :
    t.snapshot.CompilesAs s.snapshot := by
  have hcore : t.snapshot.learningCore = s.snapshot.learningCore := by
    have hrules : t.rules.values.filter (fun r => !r.isLearnable) =
        s.rules.values.filter (fun r => !r.isLearnable) := by
      refine OrderedMap.values_filter_eq hkeeps fun e he => (hadds e he).imp_right fun hlearn => ?_
      rw [hlearn]
      rfl
    simp only [Snapshot.learningCore, snapshot, hgeneration, hmode, hmode', hrules]
  refine .of_policy ht.snapshot_validate hs.snapshot_validate ?_ ?_
  · rw [← Nftables.policy_learningCore hmode', hcore, Nftables.policy_learningCore hmode]
  · rw [← Iptables.policy_learningCore hmode', hcore, Iptables.policy_learningCore hmode]

theorem compilesAs_of_blockAll (hs : s.WellFormed) (ht : t.WellFormed)
    (hmode : s.mode = .blockAll) (hmode' : t.mode = .blockAll) :
    s.snapshot.CompilesAs t.snapshot :=
  .of_policy hs.snapshot_validate ht.snapshot_validate
    (Nftables.policy_blockAll hmode hmode') (Iptables.policy_blockAll hmode hmode')

end State

namespace Runtime

variable {previous candidate : State} {events : List Event} {json : Serializer} {rt : Runtime}

/-! ### What the check of a transaction says -/

theorem isLearnable_of_isLearnedCreation {rule : Rule} (h : isLearnedCreation rule = true) :
    rule.isLearnable = true := by
  simp only [isLearnedCreation, Bool.or_eq_true, Bool.and_eq_true, decide_eq_true_eq] at h
  rcases h with ⟨⟨⟨⟨-, hdirection⟩, haction⟩, -⟩, happlication⟩ |
    ⟨⟨⟨⟨⟨⟨⟨⟨-, hdirection⟩, haction⟩, -⟩, -⟩, -⟩, -⟩, -⟩, happlication⟩
  · simp [Rule.isLearnable, hdirection, haction, happlication]
  · cases hselector : rule.spec.application with
    | none => simp [hselector] at happlication
    | some selector => simp [Rule.isLearnable, hdirection, haction, hselector]

theorem checkLearningEvents_spec {revision last : BitVec 64}
    (h : checkLearningEvents previous candidate revision events = some last) :
    ∀ event ∈ events, ∃ rule, event.kind = .ruleCreated rule ∧ rule.isLearnable = true ∧
      previous.rules.get? rule.id = none ∧ candidate.rules.get? rule.id = some rule := by
  induction events generalizing revision with
  | nil => exact fun event hevent => absurd hevent List.not_mem_nil
  | cons first rest ih =>
    simp only [checkLearningEvents] at h
    split at h
    · next next rule _ hkind =>
      by_cases hbad : first.revision ≠ next ∨ (!isLearnedCreation rule) = true ∨
          (previous.rules.get? rule.id).isSome = true ∨ candidate.rules.get? rule.id ≠ some rule
      · rw [if_pos hbad] at h
        cases h
      · rw [if_neg hbad] at h
        obtain ⟨-, hlearned, hnew, hstored⟩ : _ ∧ _ ∧ _ ∧ _ := by
          simpa only [not_or, not_not, Bool.not_eq_true, Bool.not_eq_false,
            Option.isSome_eq_false_iff, Option.isNone_iff_eq_none] using hbad
        intro event hevent
        rcases List.mem_cons.mp hevent with rfl | hrest
        · exact ⟨rule, hkind, isLearnable_of_isLearnedCreation (by simpa using hlearned), hnew,
            hstored⟩
        · exact ih h event hrest
    · cases h

/-- What an accepted transaction looks like. -/
structure Learned (previous candidate : State) (events : List Event) : Prop where
  mode : candidate.mode = .learning
  generation : candidate.flowGeneration = previous.flowGeneration
  size : candidate.rules.size = previous.rules.size + events.length
  keeps : ∀ rule ∈ previous.rules.values, candidate.rules.get? rule.id = some rule
  created : ∀ event ∈ events, ∃ rule, event.kind = .ruleCreated rule ∧
    rule.isLearnable = true ∧ previous.rules.get? rule.id = none ∧
    candidate.rules.get? rule.id = some rule

theorem learned_of_validate
    (h : validateApplicationLearningTransition previous candidate events = true) :
    Learned previous candidate events := by
  simp only [validateApplicationLearningTransition, Bool.and_eq_true, decide_eq_true_eq,
    List.all_eq_true] at h
  obtain ⟨⟨⟨⟨⟨hmode, -⟩, hgeneration⟩, hsize⟩, hkeeps⟩, hevents⟩ := h
  exact ⟨hmode, hgeneration, hsize, hkeeps, checkLearningEvents_spec hevents⟩

theorem Learned.keeps_entries (h : Learned previous candidate events)
    (hprevious : previous.WellFormed) :
    ∀ e ∈ previous.rules.entries, e ∈ candidate.rules.entries := by
  intro e he
  have hkey : e.1 = e.2.id := (hprevious.entries e he).1
  have hstored := h.keeps e.2 (List.mem_map_of_mem he)
  rw [← hkey, OrderedMap.get?_eq_some_iff] at hstored
  exact hstored

theorem Learned.compilesAs (h : Learned previous candidate events)
    (hprevious : previous.WellFormed) (hcandidate : candidate.WellFormed)
    (hmode : previous.mode = .learning)
    (hadds : ∀ e ∈ candidate.rules.entries, e ∈ previous.rules.entries ∨
      e.2.isLearnable = true) : candidate.snapshot.CompilesAs previous.snapshot :=
  State.compilesAs_of_learnable hprevious hcandidate hmode h.mode h.generation
    (h.keeps_entries hprevious) hadds

/-- Events that report different rules account for every rule that was gained: the old keys and
the reported ones are different keys of the new state, and there are as many of them. -/
theorem Learned.adds_of_distinct (h : Learned previous candidate events)
    (hprevious : previous.WellFormed) (hdistinct : (events.filterMap Event.createdId).Nodup) :
    ∀ e ∈ candidate.rules.entries, e ∈ previous.rules.entries ∨ e.2.isLearnable = true := by
  have hcreated (id : Uuid) (hid : id ∈ events.filterMap Event.createdId) :
      ∃ rule, rule.id = id ∧ rule.isLearnable = true ∧ previous.rules.get? id = none ∧
        candidate.rules.get? id = some rule := by
    obtain ⟨event, hevent, hsome⟩ := List.mem_filterMap.mp hid
    obtain ⟨rule, hkind, hlearnable, hnew, hstored⟩ := h.created event hevent
    rw [Event.createdId, hkind, Option.some.injEq] at hsome
    exact ⟨rule, hsome, hlearnable, hsome ▸ hnew, hsome ▸ hstored⟩
  have hlength : (events.filterMap Event.createdId).length = events.length := by
    refine List.filterMap_length_eq_length.mpr fun event hevent => ?_
    obtain ⟨rule, hkind, -⟩ := h.created event hevent
    rw [Event.createdId, hkind]
    rfl
  have hkeys (s : State) : (s.rules.entries.map Prod.fst).Nodup :=
    List.pairwise_map.mpr (s.rules.sorted.imp fun hlt => hlt.ne)
  have hnodup : (previous.rules.entries.map Prod.fst ++
      events.filterMap Event.createdId).Nodup := by
    refine (hkeys previous).append hdistinct fun id hold hnew => ?_
    obtain ⟨e, he, rfl⟩ := List.mem_map.mp hold
    obtain ⟨_, -, -, hfree, -⟩ := hcreated e.1 hnew
    exact (OrderedMap.get?_eq_none_iff _ _).mp hfree e he rfl
  have hsubset : previous.rules.entries.map Prod.fst ++ events.filterMap Event.createdId ⊆
      candidate.rules.entries.map Prod.fst := by
    intro id hid
    rcases List.mem_append.mp hid with hold | hnew
    · obtain ⟨e, he, rfl⟩ := List.mem_map.mp hold
      exact List.mem_map_of_mem (h.keeps_entries hprevious e he)
    · obtain ⟨rule, -, -, -, hstored⟩ := hcreated id hnew
      exact List.mem_map.mpr ⟨(id, rule), (OrderedMap.get?_eq_some_iff _ _ _).mp hstored, rfl⟩
  have hperm := (List.subperm_of_subset hnodup hsubset).perm_of_length_le (by
    rw [List.length_append, List.length_map, List.length_map, hlength]
    exact h.size.le)
  intro e he
  rcases List.mem_append.mp (hperm.mem_iff.mpr (List.mem_map_of_mem he)) with hold | hnew
  · obtain ⟨old, hmem, hkey⟩ := List.mem_map.mp hold
    have heq := candidate.rules.eq_of_mem_of_key_eq (h.keeps_entries hprevious old hmem) he hkey
    exact .inl (heq ▸ hmem)
  · obtain ⟨rule, -, hlearnable, -, hstored⟩ := hcreated e.1 hnew
    have heq := candidate.rules.eq_of_mem_of_key_eq he
      ((OrderedMap.get?_eq_some_iff _ _ _).mp hstored) rfl
    rw [heq]
    exact .inr hlearnable

/-! ### Over runs -/

theorem follow_created (o : State.Observed)
    (hcreated : ∀ event ∈ events, ∃ rule, event.kind = .ruleCreated rule ∧
      rule.isLearnable = true) :
    (events.foldl State.Observed.follow o).mode = o.mode ∧
      ∀ e ∈ (events.foldl State.Observed.follow o).rules.entries,
        e ∈ o.rules.entries ∨ e.2.isLearnable = true := by
  induction events generalizing o with
  | nil => exact ⟨rfl, fun e he => .inl he⟩
  | cons event rest ih =>
    obtain ⟨rule, hkind, hlearnable⟩ := hcreated event List.mem_cons_self
    have hfollow : o.follow event =
        { o with rules := o.rules.insert rule.id rule, revision := event.revision } := by
      rw [State.Observed.follow, hkind]
    obtain ⟨hmode, hrules⟩ :=
      ih (o.follow event) fun event hevent => hcreated event (List.mem_cons_of_mem _ hevent)
    rw [hfollow] at hmode hrules
    rw [List.foldl_cons, hfollow]
    refine ⟨hmode, fun e he => ?_⟩
    rcases hrules e he with hmem | hlearn
    · rcases (OrderedMap.mem_entries_insert _ _ _ _).mp hmem with rfl | ⟨-, hold⟩
      · exact .inr hlearnable
      · exact .inl hold
    · exact .inr hlearn

theorem compilesAs_of_changes (hprevious : previous.WellFormed)
    (hchanges : previous.Changes events candidate)
    (hlearned : validateApplicationLearningTransition previous candidate events = true) :
    candidate.snapshot.CompilesAs previous.snapshot := by
  have h := learned_of_validate hlearned
  have hfollow := follow_created previous.observed fun event hevent =>
    (h.created event hevent).imp fun rule hrule => ⟨hrule.1, hrule.2.1⟩
  rw [hchanges.observed_eq hprevious] at hfollow
  exact h.compilesAs hprevious (hchanges.follows.wellFormed hprevious)
    (hfollow.1.symm.trans h.mode) hfollow.2

def Installed (rt : Runtime) : Prop :=
  rt.engine.poisoned = false → rt.engine.startupPolicy = .active →
    rt.world.kernel.CompilesAs rt.engine.state.snapshot

theorem step_installed (h : rt.Sound json) (hinstalled : rt.Installed) (action : Action) :
    (rt.step json action).Installed := by
  intro hhealthy hactive
  obtain ⟨hsound', hprogress⟩ := step_advances h action
  rcases hprogress.kernel hhealthy with hsame | ⟨hkernel, hmode⟩ | ⟨hbefore, hkernel, hstate⟩
  · rw [hsame]
    exact .refl _
  · rw [hkernel]
    exact State.compilesAs_of_blockAll new_wellFormed hsound'.consistent.wellFormed rfl
      (hmode hactive)
  · have hold := hinstalled (hprogress.healthy hhealthy) (hbefore hactive)
    rw [hkernel]
    rcases hstate with hstate | ⟨events, hchanges, hlearned⟩
    · rw [hstate]
      exact hold
    · exact hold.trans
        (compilesAs_of_changes h.consistent.wellFormed hchanges hlearned).symm

theorem run_installed (h : rt.Sound json) (hinstalled : rt.Installed) (actions : List Action) :
    (rt.run json actions).Installed := by
  induction actions generalizing rt with
  | nil => exact hinstalled
  | cons action rest ih => exact ih (step_advances h action).1 (step_installed h hinstalled action)

theorem loadWithLearningLimits_pending {w w' : World} {learningLimits : LearningLimits}
    {now : Timestamp} {supply : Supply} {engine : Engine}
    (h : loadWithLearningLimits json w learningLimits now supply = (.ok engine, w')) :
    engine.startupPolicy = .pending := by
  unfold loadWithLearningLimits at h
  split at h
  · cases h
  · split at h
    · cases h
    · split at h
      · cases h
      · split at h <;> cases h
        rfl

theorem Reachable.installed (h : rt.Reachable json) : rt.Installed := by
  obtain ⟨hfresh, hload, actions⟩ := h
  refine run_installed (loadWithLearningLimits_sound hfresh hload).1 ?_ actions
  intro _ hactive
  rw [loadWithLearningLimits_pending hload] at hactive
  cases hactive

/-- The kernel runs a valid policy: that of the state, or one that blocks everything. -/
structure Compiled (rt : Runtime) : Prop where
  valid : rt.world.kernel.validate = .ok ()
  healthy : rt.engine.poisoned = false →
    rt.world.kernel.CompilesAs rt.engine.state.snapshot ∨ rt.world.kernel.mode = .blockAll

theorem Advances.compiled {rt' : Runtime} (h : rt.Sound json) (hcompiled : rt.Compiled)
    (hadvances : rt.Advances json rt') : rt'.Compiled := by
  have hprogress := hadvances.2
  constructor
  · rcases hprogress.ran.kernel (.inl rfl) with hsame | hblock | ⟨s, hs, -, hnew⟩
    · rw [hsame]
      exact hcompiled.valid
    · rw [hblock]
      exact new_wellFormed.snapshot_validate
    · rw [hnew]
      exact hs.snapshot_validate
  · intro hhealthy
    rcases hprogress.kernel hhealthy with hsame | ⟨hkernel, -⟩ | ⟨-, hkernel, hstate⟩
    · rw [hsame]
      exact .inl (.refl _)
    · rw [hkernel]
      exact .inr rfl
    · rw [hkernel]
      refine (hcompiled.healthy (hprogress.healthy hhealthy)).imp_left fun hold => ?_
      rcases hstate with hstate | ⟨events, hchanges, hlearned⟩
      · rw [hstate]
        exact hold
      · exact hold.trans
          (compilesAs_of_changes h.consistent.wellFormed hchanges hlearned).symm

theorem run_compiled (h : rt.Sound json) (hcompiled : rt.Compiled) (actions : List Action) :
    (rt.run json actions).Compiled := by
  induction actions generalizing rt with
  | nil => exact hcompiled
  | cons action rest ih =>
    have hadvances := step_advances h action
    exact ih hadvances.1 (hadvances.compiled h hcompiled)

theorem Reachable.compiled (h : rt.Reachable json) : rt.Compiled := by
  obtain ⟨hfresh, hload, actions⟩ := h
  obtain ⟨hsound, -, hkernel, -⟩ := loadWithLearningLimits_sound hfresh hload
  refine run_compiled hsound ⟨?_, fun _ => .inr ?_⟩ actions
  · rw [hkernel]
    exact new_wellFormed.snapshot_validate
  · rw [hkernel]
    rfl

end Runtime

/-- A transaction of a learning state that reports different rules compiles as the state did, and
in every run the kernel keeps running the compilation of the state. -/
theorem learning_needs_no_reinstall (json : Serializer) :
    (∀ previous candidate events, previous.validate json = .ok () →
      candidate.validate json = .ok () → previous.mode = .learning →
      (events.filterMap Event.createdId).Nodup →
      Runtime.validateApplicationLearningTransition previous candidate events = true →
      Nftables.compile candidate.snapshot = Nftables.compile previous.snapshot ∧
        Iptables.compile candidate.snapshot = Iptables.compile previous.snapshot) ∧
    ∀ rt : Runtime, rt.Reachable json → rt.engine.poisoned = false →
      rt.engine.startupPolicy = .active →
      Nftables.compile rt.world.kernel = Nftables.compile rt.engine.state.snapshot ∧
        Iptables.compile rt.world.kernel = Iptables.compile rt.engine.state.snapshot := by
  refine ⟨fun previous candidate events hprevious hcandidate hmode hdistinct hlearned => ?_,
    fun rt hreach => hreach.installed⟩
  have hwellFormed := State.wellFormed_of_validate hprevious
  have h := Runtime.learned_of_validate hlearned
  exact h.compilesAs hwellFormed (State.wellFormed_of_validate hcandidate) hmode
    (h.adds_of_distinct hwellFormed hdistinct)

namespace Sample

def finalized : Runtime := prepared.run json [.persist, .finalize]

def learningState (revision : BitVec 64) (rules : OrderedMap Uuid Rule) : State :=
  { State.new with revision, mode := .learning, rules }

def learnedRule : Rule :=
  { rule .outbound .accept (some selector) with
    spec := { (rule .outbound .accept (some selector)).spec with origin := .learned } }

def deniedRule : Rule := { rule .outbound .drop none with id := 2 }

def creation (revision : BitVec 64) : Event := ⟨revision, 0, .ruleCreated learnedRule⟩

end Sample

/-- The transaction of the sample changes the state and not what it compiles to. -/
theorem learning_needs_no_reinstall_sample :
    Sample.finalized.engine.state ≠ Sample.prepared.engine.state ∧
      Nftables.compile Sample.finalized.engine.state.snapshot =
        Nftables.compile Sample.prepared.engine.state.snapshot ∧
      Nftables.compile Sample.finalized.world.kernel =
        Nftables.compile Sample.finalized.engine.state.snapshot := by
  have hreach : Sample.finalized.Reachable Sample.json := Sample.prepared_reachable.step _
  refine ⟨by decide +kernel, ?_, ?_⟩
  · exact ((learning_needs_no_reinstall Sample.json).1 _ _ Sample.transaction.events
      (by decide +kernel) (by decide +kernel) (by decide +kernel) (by decide +kernel)
      (by decide +kernel)).1
  · exact ((learning_needs_no_reinstall Sample.json).2 _ hreach (by decide +kernel)
      (by decide +kernel)).1

/-- The check of a transaction lets a state enter learning, and it lets a network rule hide behind
an event that is reported twice. -/
theorem transition_check_passes_reinstalls :
    (State.new.validate Sample.json = .ok () ∧
      (Sample.learningState 0 .empty).validate Sample.json = .ok () ∧
      Runtime.validateApplicationLearningTransition State.new (Sample.learningState 0 .empty) [] =
        true ∧
      Nftables.compile (Sample.learningState 0 .empty).snapshot ≠
        Nftables.compile State.new.snapshot ∧
      Iptables.compile (Sample.learningState 0 .empty).snapshot ≠
        Iptables.compile State.new.snapshot) ∧
    ∃ candidate : State, candidate.validate Sample.json = .ok () ∧
      Runtime.validateApplicationLearningTransition (Sample.learningState 0 .empty) candidate
        [Sample.creation 1, Sample.creation 2] = true ∧
      Nftables.compile candidate.snapshot ≠
        Nftables.compile (Sample.learningState 0 .empty).snapshot ∧
      Iptables.compile candidate.snapshot ≠
        Iptables.compile (Sample.learningState 0 .empty).snapshot := by
  refine ⟨⟨?_, ?_, ?_, ?_, ?_⟩, Sample.learningState 2
    ((OrderedMap.empty.insert 1 Sample.learnedRule).insert 2 Sample.deniedRule), ?_, ?_, ?_, ?_⟩ <;>
    decide +kernel

end OpenShield
