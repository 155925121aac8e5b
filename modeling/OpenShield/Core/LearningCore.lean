import OpenShield.Core.Iptables

/-!
# What a learning policy prints

Learning creates rules of one kind: outbound accepts for applications, enabled ones for what it
saw and disabled templates. Outside of learning such a rule opens a queue for its application.
While learning everything outbound is accepted anyway, and neither compiler prints it: the policy
of a snapshot is the policy of its core, without those rules and without the revision.
-/

namespace OpenShield

def Rule.isLearnable (r : Rule) : Bool :=
  decide (r.spec.direction = .outbound) && decide (r.spec.action = .accept) &&
    r.spec.application.isSome

namespace Snapshot

def learningCore (s : Snapshot) : Snapshot :=
  { s with revision := 0, rules := s.rules.filter fun r => !r.isLearnable }

variable (s : Snapshot)

@[simp]
theorem learningCore_mode : s.learningCore.mode = s.mode := rfl

@[simp]
theorem learningCore_flowGeneration : s.learningCore.flowGeneration = s.flowGeneration := rfl

theorem filter_learningCore {p : Rule → Bool} (hp : ∀ r, p r = true → r.isLearnable = false) :
    s.learningCore.rules.filter p = s.rules.filter p := by
  rw [learningCore, List.filter_filter]
  refine List.filter_congr fun r _ => ?_
  cases hr : p r with
  | false => rfl
  | true => rw [hp r hr]; rfl

theorem any_learningCore {p : Rule → Bool} (hp : ∀ r, p r = true → r.isLearnable = false) :
    s.learningCore.rules.any p = s.rules.any p := by
  have hsome (rules : List Rule) : rules.any p = !(rules.filter p).isEmpty := by
    induction rules with
    | nil => rfl
    | cons r rest ih => cases hr : p r <;> simp [hr, ih]
  rw [hsome, hsome, filter_learningCore s hp]

theorem applicationInterception_learningCore {s : Snapshot} (h : s.mode = .learning) :
    s.learningCore.applicationInterception = s.applicationInterception := by
  rw [applicationInterception, applicationInterception, learningCore_mode, h]
  rfl

@[simp]
theorem hasEnabledOutboundReject_learningCore :
    hasEnabledOutboundReject s.learningCore = hasEnabledOutboundReject s := by
  refine s.any_learningCore fun r hr => ?_
  simp only [Bool.and_eq_true, decide_eq_true_eq] at hr
  simp [Rule.isLearnable, hr.2]

end Snapshot

namespace Nftables

variable (s : Snapshot)

@[simp]
theorem directCandidates_learningCore (direction : Direction) (actions : List RuleAction) :
    directCandidates s.learningCore direction actions = directCandidates s direction actions := by
  rw [directCandidates, directCandidates, s.filter_learningCore fun r hr => ?_]
  simp only [Bool.and_eq_true, Option.isNone_iff_eq_none] at hr
  simp [Rule.isLearnable, hr.1.2]

@[simp]
theorem reverseCandidates_learningCore (direction : Direction) :
    reverseCandidates s.learningCore direction = reverseCandidates s direction := by
  rw [reverseCandidates, reverseCandidates, s.filter_learningCore fun r hr => ?_]
  simp only [Bool.and_eq_true, Option.isNone_iff_eq_none] at hr
  simp [Rule.isLearnable, hr.1.2]

theorem applicationCandidates_learningCore {actions : List RuleAction}
    (h : .accept ∉ actions) :
    applicationCandidates s.learningCore actions = applicationCandidates s actions := by
  rw [applicationCandidates, applicationCandidates, s.filter_learningCore fun r hr => ?_]
  simp only [Bool.and_eq_true, decide_eq_true_eq] at hr
  have haction : r.spec.action ≠ .accept := fun haccept => h (haccept ▸ hr.2)
  simp [Rule.isLearnable, haction]

theorem policy_learningCore {s : Snapshot} (h : s.mode = .learning) :
    policy s.learningCore = policy s := by
  have hdenies : applicationCandidates s.learningCore [.drop, .reject] =
      applicationCandidates s [.drop, .reject] :=
    applicationCandidates_learningCore s (by decide)
  simp only [policy, appendChain, inputRules, outputRules, appendDirectRules, appendReverseRules,
    appendFastPaths, appendApplicationLoopbackAccept, appendApplicationFlowAccept, flowMarkMatch,
    appendOutboundCandidates, appendApplicationRuleQueues, appendApplicationCandidateGuardDrops,
    appendApplicationAuthorizationChain, authorizationRules, refusal, admission, h,
    Snapshot.applicationInterception_learningCore h, Snapshot.hasEnabledOutboundReject_learningCore,
    Snapshot.learningCore_mode, Snapshot.learningCore_flowGeneration,
    directCandidates_learningCore, reverseCandidates_learningCore, hdenies, reduceCtorEq,
    false_and, if_false]

end Nftables

namespace Iptables

variable (s : Snapshot) (family : Family)

@[simp]
theorem directCandidates_learningCore (direction : Direction) (actions : List RuleAction) :
    directCandidates s.learningCore family direction actions =
      directCandidates s family direction actions := by
  rw [directCandidates, directCandidates, s.filter_learningCore fun r hr => ?_]
  simp only [Bool.and_eq_true, Option.isNone_iff_eq_none] at hr
  simp [Rule.isLearnable, hr.1.1.2]

@[simp]
theorem reverseCandidates_learningCore (direction : Direction) :
    reverseCandidates s.learningCore family direction = reverseCandidates s family direction := by
  rw [reverseCandidates, reverseCandidates, s.filter_learningCore fun r hr => ?_]
  simp only [Bool.and_eq_true, Option.isNone_iff_eq_none] at hr
  simp [Rule.isLearnable, hr.1.1.2]

theorem applicationCandidates_learningCore {actions : List RuleAction}
    (h : .accept ∉ actions) :
    applicationCandidates s.learningCore family actions =
      applicationCandidates s family actions := by
  rw [applicationCandidates, applicationCandidates, s.filter_learningCore fun r hr => ?_]
  simp only [Bool.and_eq_true, decide_eq_true_eq] at hr
  have haction : r.spec.action ≠ .accept := fun haccept => h (haccept ▸ hr.2)
  simp [Rule.isLearnable, haction]

@[simp]
theorem appendLearningObserverKernelGuards_learningCore :
    appendLearningObserverKernelGuards s.learningCore family =
      appendLearningObserverKernelGuards s family := by
  rw [appendLearningObserverKernelGuards, appendLearningObserverKernelGuards,
    s.filter_learningCore fun r hr => ?_]
  simp only [Bool.and_eq_true, decide_eq_true_eq] at hr
  have haction : r.spec.action ≠ .accept := by
    intro haccept
    simp [haccept] at hr
  simp [Rule.isLearnable, haction]

theorem compileFamily_learningCore {s : Snapshot} (h : s.mode = .learning)
    (interception : ApplicationInterception) :
    compileFamily s.learningCore family interception = compileFamily s family interception := by
  have hdenies : applicationCandidates s.learningCore family [.drop, .reject] =
      applicationCandidates s family [.drop, .reject] :=
    applicationCandidates_learningCore s family (by decide)
  simp only [compileFamily, observeChain, appendInputChain, inputRules, appendOutputChain,
    outputRules, appendDirectRulesForActions, appendReverseRules, appendApplicationLoopbackAccept,
    appendReplyFlowAccept, appendVerdictConsumers, appendRefusals, appendPacketHandoffs,
    appendOutputFastPaths, appendOutputCandidates, appendApplicationRuleQueues,
    appendApplicationCandidateGuardDrops, appendApplicationChain, flowMarkMatch, h,
    Snapshot.hasEnabledOutboundReject_learningCore, Snapshot.learningCore_mode,
    Snapshot.learningCore_flowGeneration, directCandidates_learningCore,
    reverseCandidates_learningCore, appendLearningObserverKernelGuards_learningCore, hdenies,
    reduceCtorEq, ne_eq, not_false_eq_true, false_and, if_true, if_false]

theorem policy_learningCore {s : Snapshot} (h : s.mode = .learning) :
    policy s.learningCore = policy s := by
  simp only [policy, Snapshot.applicationInterception_learningCore h,
    compileFamily_learningCore _ h]

end Iptables

/-! ### Blocking everything -/

theorem Snapshot.applicationInterception_blockAll {s : Snapshot} (h : s.mode = .blockAll) :
    s.applicationInterception = .none := by
  rw [applicationInterception, h]
  rfl

theorem Nftables.policy_blockAll {s s' : Snapshot} (h : s.mode = .blockAll)
    (h' : s'.mode = .blockAll) : policy s = policy s' := by
  simp [policy, appendChain, appendApplicationAuthorizationChain, authorizationRules, h, h',
    Snapshot.applicationInterception_blockAll h,
    Snapshot.applicationInterception_blockAll h']

theorem Iptables.policy_blockAll {s s' : Snapshot} (h : s.mode = .blockAll)
    (h' : s'.mode = .blockAll) : policy s = policy s' := by
  simp [policy, compileFamily, observeChain, appendInputChain, appendOutputChain,
    appendApplicationChain, h, h', Snapshot.applicationInterception_blockAll h,
    Snapshot.applicationInterception_blockAll h']

end OpenShield
