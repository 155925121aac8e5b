import OpenShield.Verdict.Rules

/-!
# Blocks of the iptables chains

What each generated block of rules does to a packet of its family. Rules of the other family
are left out of a program; they select no packet of this one, so nothing is lost.
-/

namespace OpenShield.Iptables

open Netfilter
open Xtables (Exit)

/-! ### Candidate lists -/

section Candidates

variable (snapshot : Snapshot) (p : Packet)

theorem any_directCandidates (direction : Direction) (action : RuleAction) :
    ((directCandidates snapshot p.family direction [action]).any fun r =>
      selectorsMatch p r.spec direction false) = networkMatch snapshot p direction action := by
  rw [directCandidates, List.any_insertionSort, List.any_filter_eq, networkMatch]
  congr 1
  funext r
  -- a rule of the other family does not match, so it is not missed
  cases hsel : selectorsMatch p r.spec direction false with
  | false => simp [networkRuleMatches, hsel]
  | true => simp [networkRuleMatches, hsel, supportsFamily_of_selectorsMatch hsel]

theorem any_reverseCandidates (direction : Direction) :
    ((reverseCandidates snapshot p.family direction).any fun r =>
      selectorsMatch p r.spec direction true) = reverseMatch snapshot p direction := by
  rw [reverseCandidates, List.any_insertionSort, List.any_filter_eq, reverseMatch]
  congr 1
  funext r
  cases hsel : selectorsMatch p r.spec direction true with
  | false => simp
  | true => simp [supportsFamily_of_selectorsMatch hsel]

variable (actions : List RuleAction)

theorem any_applicationCandidates {q : Rule → Bool}
    (hq : ∀ r, q r = true → supportsFamily r.spec p.family = true) :
    (applicationCandidates snapshot p.family actions).any q =
      snapshot.rules.any fun r => isApplicationRule actions r && q r := by
  rw [applicationCandidates, List.any_insertionSort, List.any_filter_eq]
  congr 1
  funext r
  cases hr : q r with
  | false => simp
  | true => simp [isApplicationRule, hq r hr]

theorem any_envelope :
    ((applicationCandidates snapshot p.family actions).any fun r => envelope p r.spec) =
      applicationEnvelope snapshot p actions :=
  any_applicationCandidates snapshot p actions fun _ hr => supportsFamily_of_selectorsMatch hr

theorem any_originalEnvelope :
    ((applicationCandidates snapshot p.family actions).any fun r =>
      selectsDestination r.spec && originalEnvelope p r.spec) =
      originalGuard snapshot p actions :=
  any_applicationCandidates snapshot p actions fun _ hr =>
    supportsFamily_of_originalEnvelope ((Bool.and_eq_true _ _).mp hr).2

theorem mem_directCandidates {direction : Direction} {actions : List RuleAction} {r : Rule}
    (h : r ∈ directCandidates snapshot p.family direction actions) :
    supportsFamily r.spec p.family = true ∧ r.spec.action ∈ actions := by
  rw [directCandidates, List.mem_insertionSort, List.mem_filter] at h
  simp only [Bool.and_eq_true, decide_eq_true_eq] at h
  exact ⟨h.2.1.2, h.2.2⟩

theorem mem_reverseCandidates {direction : Direction} {r : Rule}
    (h : r ∈ reverseCandidates snapshot p.family direction) :
    supportsFamily r.spec p.family = true := by
  rw [reverseCandidates, List.mem_insertionSort, List.mem_filter] at h
  simp only [Bool.and_eq_true, decide_eq_true_eq] at h
  exact h.2.1.2

theorem mem_applicationCandidates {actions : List RuleAction} {r : Rule}
    (h : r ∈ applicationCandidates snapshot p.family actions) :
    supportsFamily r.spec p.family = true := by
  rw [applicationCandidates, List.mem_insertionSort, List.mem_filter] at h
  simp only [Bool.and_eq_true, decide_eq_true_eq] at h
  exact h.2.1.2

theorem find?_directCandidates (snapshot : ValidSnapshot)
    (hdrop : networkMatch snapshot.toSnapshot p .outbound .drop = false) :
    ((directCandidates snapshot.toSnapshot p.family .outbound [.reject]).find? fun r =>
      selectorsMatch p r.spec .outbound false) = networkDeny snapshot.toSnapshot p := by
  rw [directCandidates, List.find?_insertionSort_eq_argmin ruleOrder_iff, List.filter_filter,
    networkDeny]
  · congr 1
    refine List.filter_congr fun r hr => ?_
    have hnot : networkRuleMatches p .outbound .drop r = false := by
      simpa using List.any_eq_false.mp hdrop r hr
    rw [networkDenies, hnot, Bool.false_or]
    cases hsel : selectorsMatch p r.spec .outbound false with
    | false => simp [networkRuleMatches, hsel]
    | true => simp [networkRuleMatches, hsel, supportsFamily_of_selectorsMatch hsel]
  · intro a ha b hb hkey
    have hid : a.id = b.id := congrArg (fun key => (ofLex key).2) hkey
    exact snapshot.eq_of_id_eq (List.mem_of_mem_filter ha) (List.mem_of_mem_filter hb) hid

end Candidates

/-! ### Blocks of rules -/

section Blocks

variable (p : Packet) (goto : AppChain → Step (Meta Counter) Exit) (d : Meta Counter)

theorem exec_connmark {value : BitVec 32} (h : value &&& ~~~APPLICATION_CONNMARK_MASK = 0) :
    Xtables.Target.exec p goto (.connmark value APPLICATION_CONNMARK_MASK) d =
      (withConnmark p value d, none) := by
  rw [withConnmark, foreignMask_eq, ← xor_replace_eq_or _ _ _ h]
  rfl

theorem exec_mark {domain : BitVec 32} (h : domain &&& ~~~APPLICATION_MARK_DOMAIN_MASK = 0) :
    Xtables.Target.exec p goto (.mark domain APPLICATION_MARK_DOMAIN_MASK) d =
      (withDomain domain d, none) := by
  rw [withDomain, payloadMask_eq, ← xor_replace_eq_or _ _ _ h]
  rfl

theorem exec_ownership : ownership.exec p goto d = (d, none) := rfl

theorem exec_appendInvalidDrop (counter : Counter) :
    (appendInvalidDrop counter).exec p goto d =
      if decide (p.ct.bit = .invalid) then decided (d.count counter, .final .drop)
      else (d, none) := by
  have htests : Xtables.allHold p d (appendInvalidDrop counter).tests =
      decide (p.ct.bit = .invalid) := by
    show Xtables.allHold p d [ct (some [.invalid]) none] = _
    rw [Xtables.allHold_cons, Xtables.allHold_nil, holds_ctstate, Bool.and_true]
    simp
  rw [← htests]
  exact Xtables.Rule.exec_of_decided rfl

theorem any_generatedRejectReplySelectors :
    (generatedRejectReplySelectors p.family).any (Xtables.allHold p d) = rejectErrorShape p := by
  cases hfamily : p.family <;>
    simp [generatedRejectReplySelectors, rejectErrorShape, Xtables.Match.holds, hfamily]

variable (snapshot : Snapshot)

theorem run_appendGeneratedRejectReplyAccept (counter : Counter) :
    run (Xtables.Rule.exec p goto) (appendGeneratedRejectReplyAccept p.family counter
        (applicationRejectConnmark snapshot.flowGeneration)) d =
      if generatedRejectReply snapshot p d.connmark then decided (d.count counter, .ret)
      else (d, none) := by
  have hany := Xtables.any_allHold_between p d [] [ct (some [.related]) (some .reply),
    .connmark (applicationRejectConnmark snapshot.flowGeneration) APPLICATION_CONNMARK_MASK]
    (generatedRejectReplySelectors p.family)
  rw [any_generatedRejectReplySelectors, Xtables.allHold_nil, Bool.true_and] at hany
  have hshape : (rejectErrorShape p && Xtables.allHold p d [ct (some [.related]) (some .reply),
      .connmark (applicationRejectConnmark snapshot.flowGeneration) APPLICATION_CONNMARK_MASK]) =
        generatedRejectReply snapshot p d.connmark := by
    rw [Xtables.allHold_cons, holds_ct p d _ _ (by decide)]
    -- a reply has a conntrack entry, so the mark match needs no further condition
    cases hct : p.ct <;>
      simp [generatedRejectReply, connmarkIs, Packet.isReply, Xtables.Match.holds, hct,
        Conntrack.bit, Conntrack.isTracked]
    ac_rfl
  rw [← hshape, ← hany]
  apply run_map_eq_any
  intro selector _
  exact Xtables.Rule.exec_of_decided rfl

theorem any_interceptedProtocols (interception : ApplicationInterception) :
    ((interceptedProtocols p.family interception).any fun protocol =>
      decide (p.l4proto = protocol)) = intercepted p interception := by
  cases interception <;> cases hfamily : p.family <;>
    simp [interceptedProtocols, applicationReplyProtocols, intercepted, attributable, hfamily,
      Bool.or_assoc]

theorem any_nonTcpProtocols :
    ((applicationNonTcpProtocols p.family).any fun protocol => decide (p.l4proto = protocol)) =
      (attributable p && decide (p.l4proto ≠ protoTcp)) := by
  by_cases htcp : p.l4proto = protoTcp <;> cases hfamily : p.family <;>
    simp [applicationNonTcpProtocols, attributable, htcp, hfamily]

theorem holds_flowMarkMatch :
    (flowMarkMatch snapshot).holds p d = flowMarked snapshot p d.connmark := rfl

theorem allHold_loopbackMatch (protocol : L4Proto) (direction : Direction) :
    Xtables.allHold p d (loopbackMatch snapshot protocol direction) =
      (decide (p.l4proto = protocol) &&
        (loopbackShape p direction && flowMarked snapshot p d.connmark)) := by
  cases direction with
  | inbound =>
    have hct := holds_ct p d [.new, .established] .original (by decide)
    simp only [loopbackMatch, Xtables.allHold_cons, Xtables.allHold_nil, hct,
      holds_flowMarkMatch]
    simp only [Xtables.Match.holds, loopbackShape, Packet.isOriginal, Bool.and_true]
    ac_rfl
  | outbound =>
    have hct := holds_ct p d [.established] .reply (by decide)
    simp only [loopbackMatch, Xtables.allHold_cons, Xtables.allHold_nil, hct,
      holds_flowMarkMatch]
    simp only [Xtables.Match.holds, loopbackShape, establishedReply, Packet.isReply,
      Bool.and_true, List.mem_singleton]
    ac_rfl

theorem run_appendApplicationLoopbackAccept (direction : Direction)
    (interception : ApplicationInterception) :
    run (Xtables.Rule.exec p goto)
        (appendApplicationLoopbackAccept snapshot p.family direction interception) d =
      if flowMarked snapshot p d.connmark && (decide (snapshot.mode = .enforcing) &&
          loopbackShape p direction && intercepted p interception) then
        decided (d.count (acceptedCounter direction), .ret)
      else (d, none) := by
  by_cases hmode : snapshot.mode = .enforcing
  · have hany : (flowMarked snapshot p d.connmark && (decide (snapshot.mode = .enforcing) &&
        loopbackShape p direction && intercepted p interception)) =
          (interceptedProtocols p.family interception).any fun protocol =>
            decide (p.l4proto = protocol) &&
              (loopbackShape p direction && flowMarked snapshot p d.connmark) := by
      rw [List.any_and_right, any_interceptedProtocols, decide_eq_true hmode]
      ac_rfl
    unfold appendApplicationLoopbackAccept
    rw [hany, if_neg (not_not.mpr hmode)]
    apply run_map_eq_any
    intro protocol _
    rw [← allHold_loopbackMatch]
    exact Xtables.Rule.exec_of_decided rfl
  · simp [appendApplicationLoopbackAccept, hmode]

theorem run_ruleVerdict_accept {r : Rule} (hfamily : supportsFamily r.spec p.family = true)
    (direction : Direction) (reverse : Bool) (rejectConnmark : BitVec 32) :
    run (Xtables.Rule.exec p goto) (ruleVerdict r direction reverse .accept rejectConnmark) d =
      if selectorsMatch p r.spec direction reverse then
        decided (d.count (acceptedCounter direction), .ret)
      else (d, none) := by
  rw [← allHold_ruleMatch p d hfamily]
  cases direction <;> exact (run_singleton _ _ _).trans (Xtables.Rule.exec_of_decided rfl)

theorem run_ruleVerdict_drop {r : Rule} (hfamily : supportsFamily r.spec p.family = true)
    (rejectConnmark : BitVec 32) :
    run (Xtables.Rule.exec p goto) (ruleVerdict r .outbound false .drop rejectConnmark) d =
      if selectorsMatch p r.spec .outbound false then
        decided (d.count .droppedOut, .final .drop)
      else (d, none) := by
  rw [← allHold_ruleMatch p d hfamily]
  exact (run_singleton _ _ _).trans (Xtables.Rule.exec_of_decided rfl)

theorem rejectTarget_eq (protocol : TransportProtocol) :
    rejectTarget protocol = .reject (rejectKind protocol) := by
  unfold rejectTarget rejectKind
  split <;> rfl

theorem run_ruleVerdict_reject {r : Rule} (hfamily : supportsFamily r.spec p.family = true)
    (snapshot : Snapshot) :
    run (Xtables.Rule.exec p goto) (ruleVerdict r .outbound false .reject
        (applicationRejectConnmark snapshot.flowGeneration)) d =
      if selectorsMatch p r.spec .outbound false then
        decided ((withConnmark p (applicationRejectConnmark snapshot.flowGeneration) d).count
          .droppedOut, .final (.reject (rejectKind r.spec.protocol)))
      else (d, none) := by
  -- no selector looks at marks, so the second rule matches what the first one did
  rw [← allHold_ruleMatch p d hfamily]
  refine Xtables.run_effect_then ?_
    (exec_connmark p goto d (applicationRejectConnmark_own snapshot.flowGeneration)) ?_
  · rw [allHold_ruleMatch p _ hfamily, allHold_ruleMatch p _ hfamily]
  · show Xtables.Target.exec p goto (rejectTarget r.spec.protocol) _ = _
    rw [rejectTarget_eq]
    rfl

end Blocks

section Policy

variable (snapshot : ValidSnapshot) (p : Packet) (goto : AppChain → Step (Meta Counter) Exit)
  (d : Meta Counter)

theorem run_denies :
    run (Xtables.Rule.exec p goto)
        (appendDirectRulesForActions snapshot.toSnapshot p.family .outbound [.drop] ++
          appendDirectRulesForActions snapshot.toSnapshot p.family .outbound [.reject]) d =
      (networkDeny snapshot.toSnapshot p).elim (d, none) fun r =>
        decided ((refuse snapshot.toSnapshot p r d).1,
          Exit.ofVerdict (refuse snapshot.toSnapshot p r d).2) := by
  have hdrops : run (Xtables.Rule.exec p goto)
      (appendDirectRulesForActions snapshot.toSnapshot p.family .outbound [.drop]) d =
        if networkMatch snapshot.toSnapshot p .outbound .drop then
          decided (d.count .droppedOut, .final .drop)
        else (d, none) := by
    rw [← any_directCandidates]
    apply run_flatMap_eq_any
    intro r hr
    obtain ⟨hfamily, haction⟩ := mem_directCandidates _ p hr
    rw [List.mem_singleton.mp haction]
    exact run_ruleVerdict_drop p goto d hfamily _
  rw [run_append_guard _ hdrops]
  cases hdrop : networkMatch snapshot.toSnapshot p .outbound .drop with
  | true =>
    obtain ⟨r, hdeny, haction⟩ := networkDeny_of_drop hdrop
    simp [hdeny, refuse, haction, Exit.ofVerdict]
  | false =>
    rw [if_neg Bool.false_ne_true, ← find?_directCandidates p snapshot hdrop]
    apply run_flatMap_eq_find?
    intro r hr
    obtain ⟨hfamily, haction⟩ := mem_directCandidates _ p hr
    have hreject : r.spec.action = .reject := List.mem_singleton.mp haction
    rw [refuse, if_pos hreject, hreject]
    exact run_ruleVerdict_reject p goto d hfamily _

theorem run_accepts (direction : Direction) :
    run (Xtables.Rule.exec p goto)
        (appendDirectRulesForActions snapshot.toSnapshot p.family direction [.accept]) d =
      if networkMatch snapshot.toSnapshot p direction .accept then
        decided (d.count (acceptedCounter direction), .ret)
      else (d, none) := by
  rw [← any_directCandidates]
  apply run_flatMap_eq_any
  intro r hr
  obtain ⟨hfamily, haction⟩ := mem_directCandidates _ p hr
  rw [List.mem_singleton.mp haction]
  exact run_ruleVerdict_accept p goto d hfamily _ _ _

theorem run_reverse (direction : Direction) :
    run (Xtables.Rule.exec p goto)
        (appendReverseRules snapshot.toSnapshot p.family direction) d =
      if reverseMatch snapshot.toSnapshot p direction then
        decided (d.count (acceptedCounter direction), .ret)
      else (d, none) := by
  rw [← any_reverseCandidates]
  apply run_flatMap_eq_any
  intro r hr
  exact run_ruleVerdict_accept p goto d (mem_reverseCandidates _ p hr) _ _ _

end Policy

end OpenShield.Iptables
