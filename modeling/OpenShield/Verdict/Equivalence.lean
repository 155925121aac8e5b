import OpenShield.Verdict.Effects
import OpenShield.Verdict.Replies

/-!
# The backends agree

The two compilers were written independently: other rule orders, other chains, other ways to hand
a verdict of the daemon on. They give the same result for every inbound packet, and for every
outbound packet that flows like its connection or is not tracked. Both results are compared with
one description of what becomes of such a packet, which has neither chains nor packet marks.

Observation by the learning queue is not part of the result: its consumer lets packets pass, and
so does the queue without one.
-/

namespace OpenShield

open Netfilter

def ignoreObservation (entry : Entry Counter) : Entry Counter := fun d =>
  match entry d with
  | (d', .queue num bypass) =>
    if num = APPLICATION_LEARNING_QUEUE_NUMBER then (d', .accept) else (d', .queue num bypass)
  | decision => decision

def stopOutcome : Stop → Outcome
  | .done outcome => outcome
  | .pending num _ _ => .queued num

def hookResult (hook : List (Entry Counter)) (d : Meta Counter) : Outcome × BitVec 32 :=
  let stop := advance (hook.map ignoreObservation) 0 d
  (stopOutcome stop.2, stop.1.connmark)

def resetConnmark (snapshot : Snapshot) (p : Packet) (connmark : BitVec 32) : BitVec 32 :=
  (resetFlow snapshot p ⟨0, connmark, []⟩).connmark

/-- What becomes of an outbound packet that no network rule denies and no authorised connection
carries. -/
def candidateOutcome (snapshot : Snapshot) (p : Packet) : Outcome :=
  let actions := queuedActions snapshot.mode
  if p.isOriginal && applicationEnvelope snapshot p actions then .queued APPLICATION_QUEUE_NUMBER
  else if applicationEnvelope snapshot p actions ||
      (p.isOriginal && originalGuard snapshot p actions) then .dropped
  else if decide (snapshot.mode = .learning) || networkMatch snapshot p .outbound .accept then
    .accepted
  else .dropped

def outboundResult (snapshot : Snapshot) (p : Packet) (connmark : BitVec 32) :
    Outcome × BitVec 32 :=
  match networkDeny snapshot p with
  | some r => ((denyVerdict r).outcome, (refuse snapshot p r ⟨0, connmark, []⟩).1.connmark)
  | none =>
    if fastPath snapshot p .outbound connmark then (.accepted, connmark)
    else (candidateOutcome snapshot p, resetConnmark snapshot p connmark)

section Entries

variable {snapshot : Snapshot} {p : Packet} {d : Meta Counter}

theorem resetFlow_connmark (d : Meta Counter) :
    (resetFlow snapshot p d).connmark = resetConnmark snapshot p d.connmark := by
  unfold resetConnmark resetFlow withConnmark
  split <;> simp [Meta.setConnmark_connmark]

theorem refuse_connmark (r : Rule) (d : Meta Counter) :
    (refuse snapshot p r d).1.connmark = (refuse snapshot p r ⟨0, d.connmark, []⟩).1.connmark := by
  unfold refuse withConnmark
  split <;> simp [Meta.setConnmark_connmark]

theorem refuse_verdict (r : Rule) (d : Meta Counter) :
    (refuse snapshot p r d).2 = denyVerdict r := by
  unfold refuse denyVerdict
  split <;> rfl

theorem originalGuard_of_untracked (h : p.ct.bit = .untracked) (actions : List RuleAction) :
    originalGuard snapshot p actions = false := by
  have hct : p.ct = .untracked := by
    cases hct : p.ct with
    | untracked => rfl
    | invalid => simp [hct, Conntrack.bit] at h
    | tracked state dir dst port => cases state <;> simp [hct, Conntrack.bit, CtState.bit] at h
  refine List.any_eq_false.mpr fun r _ => ?_
  -- the rule selects a network or a port, and neither can match
  cases hnetwork : r.spec.peerNetwork <;> cases hport : r.spec.port <;>
    simp [selectsDestination, originalEnvelope, hct, Conntrack.origDst?, Conntrack.origDport?,
      portInRange, hnetwork, hport]

theorem ignoreObservation_of_ne {entry : Entry Counter}
    (h : ∀ bypass, (entry d).2 ≠ .queue APPLICATION_LEARNING_QUEUE_NUMBER bypass) :
    ignoreObservation entry d = entry d := by
  unfold ignoreObservation
  rcases hentry : entry d with ⟨d', v⟩
  cases v with
  | queue num bypass =>
    have hne : num ≠ APPLICATION_LEARNING_QUEUE_NUMBER := by
      rintro rfl
      exact h bypass (by rw [hentry])
    simp [hne]
  | _ => rfl

end Entries

/-! ### The nftables backend -/

section Marks

variable {snapshot : Snapshot} {p : Packet}

@[simp]
theorem hasDomain_count (d : Meta Counter) (counter : Counter) (domain : BitVec 32) :
    hasDomain (d.count counter) domain = hasDomain d domain := rfl

theorem hasDomain_resetFlow (d : Meta Counter) (domain : BitVec 32) :
    hasDomain (resetFlow snapshot p d) domain = hasDomain d domain := by
  rw [hasDomain, hasDomain, resetFlow_mark]

end Marks

namespace Nftables

variable {snapshot : Snapshot} {p : Packet} {d : Meta Counter}

def policyResult (snapshot : Snapshot) (p : Packet) (d : Meta Counter) : Outcome × BitVec 32 :=
  let stop := advance ([outputDecision snapshot p, authorizeDecision snapshot p].map
    ignoreObservation) 1 d
  (stopOutcome stop.2, stop.1.connmark)

theorem ignoreObservation_authorizeDecision (d : Meta Counter) :
    ignoreObservation (authorizeDecision snapshot p) d = authorizeDecision snapshot p d := by
  refine ignoreObservation_of_ne fun bypass => ?_
  unfold authorizeDecision refusedVerdict
  split
  · simp
  split
  · simp
  split
  · simp
  split <;> simp

theorem policyResult_of_handoff {d' : Meta Counter}
    (h : outputDecision snapshot p d = acceptHandoff d') :
    policyResult snapshot p d = (.accepted, d'.connmark) := by
  have hentry : ignoreObservation (outputDecision snapshot p) d = acceptHandoff d' := by
    rw [ignoreObservation_of_ne, h]
    simp [h, acceptHandoff]
  have hlast : authorizeDecision snapshot p
      ((withDomain APPLICATION_HANDOFF_DOMAIN d').count .acceptedOut) = _ :=
    authorizeDecision_handoff snapshot p d'
  simp only [policyResult, List.map_cons, List.map_nil]
  rw [advance_cons_accept _ 1 hentry,
    advance_cons_accept _ 2 ((ignoreObservation_authorizeDecision _).trans hlast)]
  rfl

/-- In `learning` a packet that passes the policy chain without a private mark passes the last
one. -/
theorem policyResult_of_learning {d' : Meta Counter} (hmode : snapshot.mode = .learning)
    (h : ignoreObservation (outputDecision snapshot p) d = (d', .accept))
    (hclear : hasDomain d' 0 = true) :
    policyResult snapshot p d = (.accepted, d'.connmark) := by
  simp only [policyResult, List.map_cons, List.map_nil]
  rw [advance_cons_accept _ 1 h, advance_cons_accept _ 2
    ((ignoreObservation_authorizeDecision _).trans (authorizeDecision_learning hmode hclear))]
  rfl

theorem policyResult_of_guarded (h : Guarded (outputDecision snapshot p d).2) :
    policyResult snapshot p d = ((outputDecision snapshot p d).2.outcome,
      (outputDecision snapshot p d).1.connmark) := by
  rcases hentry : outputDecision snapshot p d with ⟨d', v⟩
  rw [hentry] at h
  have hsame : ignoreObservation (outputDecision snapshot p) d = (d', v) := by
    rw [ignoreObservation_of_ne, hentry]
    rw [hentry]
    rintro bypass rfl
    exact absurd h.1 (by decide)
  simp only [policyResult, List.map_cons, List.map_nil]
  cases v with
  | accept => exact absurd h id
  | drop => rw [advance_cons_drop _ 1 hsame]; rfl
  | reject kind => rw [advance_cons_reject _ 1 hsame]; rfl
  | queue num bypass => rw [advance_cons_queue _ 1 hsame]; rfl

theorem policyResult_eq (hreply : p.isReply = false) (hvalid : p.ct.bit ≠ .invalid)
    (hside : p.isOriginal = true ∨ p.ct.bit = .untracked) (hclear : hasDomain d 0 = true) :
    policyResult snapshot p d = outboundResult snapshot p d.connmark := by
  have hout : outputDecision snapshot p d = (networkDeny snapshot p).elim
      (if fastPath snapshot p .outbound d.connmark then acceptHandoff d
        else candidateDecision snapshot p (resetFlow snapshot p d))
      fun r => refuse snapshot p r d := by
    simp [outputDecision, generatedRejectReply_eq_false hreply, hvalid]
  have hguard : (applicationEnvelope snapshot p (queuedActions snapshot.mode) ||
      originalGuard snapshot p (queuedActions snapshot.mode)) =
        (applicationEnvelope snapshot p (queuedActions snapshot.mode) ||
          (p.isOriginal && originalGuard snapshot p (queuedActions snapshot.mode))) := by
    rcases hside with h | h
    · rw [h, Bool.true_and]
    · rw [originalGuard_of_untracked h, Bool.and_false]
  unfold outboundResult
  cases hdeny : networkDeny snapshot p with
  | some r =>
    rw [hdeny, Option.elim] at hout
    rw [policyResult_of_guarded (by rw [hout]; exact guarded_refuse r d), hout, refuse_verdict,
      refuse_connmark]
  | none =>
    rw [hdeny, Option.elim] at hout
    cases hfast : fastPath snapshot p .outbound d.connmark with
    | true =>
      rw [hfast, if_pos rfl] at hout
      rw [policyResult_of_handoff hout, if_pos rfl]
    | false =>
      rw [hfast, if_neg Bool.false_ne_true, candidateDecision, reverseMatch_eq_false hreply,
        if_neg Bool.false_ne_true] at hout
      simp only [Bool.false_eq_true, if_false, candidateOutcome, ← hguard, ← resetFlow_connmark]
      have hclear' : hasDomain (resetFlow snapshot p d) 0 = true := by rwa [hasDomain_resetFlow]
      by_cases hqueued :
          (p.isOriginal && applicationEnvelope snapshot p (queuedActions snapshot.mode)) = true
      · rw [if_pos hqueued] at hout ⊢
        rw [policyResult_of_guarded (by rw [hout]; exact ⟨rfl, rfl⟩), hout]
        rfl
      rw [if_neg hqueued] at hout ⊢
      by_cases hguarded : (applicationEnvelope snapshot p (queuedActions snapshot.mode) ||
          originalGuard snapshot p (queuedActions snapshot.mode)) = true
      · rw [if_pos hguarded] at hout ⊢
        rw [policyResult_of_guarded (by rw [hout]; trivial), hout]
        rfl
      rw [if_neg hguarded] at hout ⊢
      by_cases hmode : snapshot.mode = .learning
      · -- observed or not, the packet goes on
        rw [if_pos hmode] at hout
        rw [if_pos (by rw [decide_eq_true hmode, Bool.true_or])]
        split at hout
        · have hpass : ignoreObservation (outputDecision snapshot p) d =
              ((resetFlow snapshot p d).count .learnedOut, .accept) := by
            simp [ignoreObservation, hout]
          exact (policyResult_of_learning hmode hpass hclear').trans rfl
        · have hpass : ignoreObservation (outputDecision snapshot p) d =
              ((resetFlow snapshot p d).count .acceptedOut, .accept) := by
            simp [ignoreObservation, hout]
          exact (policyResult_of_learning hmode hpass hclear').trans rfl
      · rw [if_neg hmode] at hout
        rw [decide_eq_false hmode, Bool.false_or]
        split at hout
        · next hmatch => rw [policyResult_of_handoff hout, if_pos hmatch]
        · next hmatch =>
          rw [policyResult_of_guarded (by rw [hout]; trivial), hout, if_neg hmatch]
          rfl

end Nftables

/-! ### The iptables backend -/

namespace Iptables

variable {snapshot : Snapshot} {p : Packet} {d : Meta Counter}

theorem candidateDecision_eq (hreply : p.isReply = false)
    (hside : p.isOriginal = true ∨ p.ct.bit = .untracked) :
    ((candidateDecision snapshot p d).2.outcome, (candidateDecision snapshot p d).1.connmark) =
      (candidateOutcome snapshot p, d.connmark) := by
  rw [candidateDecision, reverseMatch_eq_false hreply, if_neg Bool.false_ne_true]
  have hguard : (decide (p.ct.bit = .untracked) &&
        applicationEnvelope snapshot p (queuedActions snapshot.mode) ||
      p.isOriginal && originalGuard snapshot p (queuedActions snapshot.mode)) =
      (!(p.isOriginal && applicationEnvelope snapshot p (queuedActions snapshot.mode)) &&
        applicationEnvelope snapshot p (queuedActions snapshot.mode) ||
        p.isOriginal && originalGuard snapshot p (queuedActions snapshot.mode)) := by
    rcases hside with h | h
    · rw [decide_eq_false (not_reply_of_original h).2.2, h]
      cases applicationEnvelope snapshot p (queuedActions snapshot.mode) <;> rfl
    · rw [decide_eq_true h, (noEntry_directions (.inl h)).2]
      cases applicationEnvelope snapshot p (queuedActions snapshot.mode) <;> rfl
  unfold candidateOutcome
  by_cases hqueued :
      (p.isOriginal && applicationEnvelope snapshot p (queuedActions snapshot.mode)) = true
  · rw [if_pos hqueued, if_pos hqueued]
    rfl
  rw [if_neg hqueued, if_neg hqueued, hguard, Bool.eq_false_of_not_eq_true hqueued, Bool.not_false,
    Bool.true_and]
  split
  · rfl
  by_cases haccept : networkMatch snapshot p .outbound .accept = true
  · rw [if_pos haccept, if_pos (by rw [haccept, Bool.or_true])]
    rfl
  rw [if_neg haccept, Bool.eq_false_of_not_eq_true haccept, Bool.or_false]
  by_cases hmode : snapshot.mode = .learning
  · rw [if_pos hmode, if_pos (decide_eq_true hmode)]
    rfl
  · rw [if_neg hmode, if_neg (by rw [decide_eq_false hmode]; exact Bool.false_ne_true)]
    rfl

theorem outputDecision_eq (hreply : p.isReply = false) (hvalid : p.ct.bit ≠ .invalid)
    (hside : p.isOriginal = true ∨ p.ct.bit = .untracked) (hclear : hasDomain d 0 = true) :
    ((outputDecision snapshot p d).2.outcome, (outputDecision snapshot p d).1.connmark) =
      outboundResult snapshot p d.connmark := by
  have hout : outputDecision snapshot p d = (networkDeny snapshot p).elim
      (if fastPath snapshot p .outbound d.connmark then (d.count .acceptedOut, .accept)
        else candidateDecision snapshot p (resetFlow snapshot p d))
      fun r => refuse snapshot p r d := by
    simp [outputDecision, generatedRejectReply_eq_false hreply, hvalid, verdictDecision,
      not_rejected_of_clear hclear, not_handedOff_of_clear hclear]
  rw [hout]
  unfold outboundResult
  cases networkDeny snapshot p with
  | some r => rw [Option.elim, refuse_verdict, refuse_connmark]
  | none =>
    rw [Option.elim]
    cases fastPath snapshot p .outbound d.connmark with
    | true => rfl
    | false =>
      simp only [Bool.false_eq_true, if_false]
      rw [candidateDecision_eq hreply hside, resetFlow_connmark]

theorem ignoreObservation_mangleDecision (snapshot : Snapshot) (p : Packet) (d : Meta Counter) :
    ∃ d', ignoreObservation (mangleDecision snapshot p) d = (d', .accept) ∧
      d'.connmark = d.connmark ∧ hasDomain d' 0 = true := by
  have hclear : hasDomain (withDomain 0 d) 0 = true := by
    rw [hasDomain_withDomain]
    decide
  unfold ignoreObservation mangleDecision
  split_ifs with hobserved
  · exact ⟨(withDomain 0 d).count .learnedOut, rfl, rfl, hclear⟩
  · exact ⟨withDomain 0 d, rfl, rfl, hclear⟩

theorem ignoreObservation_outputDecision (snapshot : Snapshot) (p : Packet) (d : Meta Counter) :
    ignoreObservation (outputDecision snapshot p) d = outputDecision snapshot p d := by
  refine ignoreObservation_of_ne fun bypass hqueue => ?_
  have hcase : OutputCase .iptables snapshot p d _ _ := outputDecision_case d
  generalize (outputDecision snapshot p d).1 = d' at hcase
  rw [hqueue] at hcase
  cases hcase with
  | denied hdeny => exact hdeny
  | observed hbackend => cases hbackend

end Iptables

/-! ### The two hooks -/

section Hooks

variable (snapshot : ValidSnapshot) (p : Packet) (d : Meta Counter)

theorem hookResult_blockAll (backend : Backend) (hmode : snapshot.mode = .blockAll) :
    hookResult (backend.inputHook snapshot.toSnapshot p) d = (.dropped, d.connmark) ∧
      hookResult (backend.outputHook snapshot.toSnapshot p) d = (.dropped, d.connmark) := by
  constructor
  · rw [Backend.inputHook_blockAll snapshot p backend hmode]
    rfl
  · obtain ⟨later, hhook, -⟩ := Backend.outputHook_blockAll snapshot p backend hmode
    rw [hhook]
    rfl

variable {snapshot p}

theorem hookResult_nftables (hmode : snapshot.mode ≠ .blockAll) :
    hookResult (Backend.nftables.outputHook snapshot.toSnapshot p) d =
      Nftables.policyResult snapshot.toSnapshot p (withDomain 0 d) := by
  rw [Backend.outputHook_nftables snapshot p hmode]
  rfl

theorem hookResult_iptables (hmode : snapshot.mode ≠ .blockAll) :
    ∃ d', d'.connmark = d.connmark ∧ hasDomain d' 0 = true ∧
      hookResult (Backend.iptables.outputHook snapshot.toSnapshot p) d =
        ((Iptables.outputDecision snapshot.toSnapshot p d').2.outcome,
          (Iptables.outputDecision snapshot.toSnapshot p d').1.connmark) := by
  obtain ⟨d', hfirst, hconnmark, hclear⟩ :=
    Iptables.ignoreObservation_mangleDecision snapshot.toSnapshot p d
  refine ⟨d', hconnmark, hclear, ?_⟩
  rw [Backend.outputHook_iptables snapshot p hmode, hookResult, List.map_cons, List.map_cons,
    List.map_nil, advance_cons_accept _ 0 hfirst]
  have hsecond := Iptables.ignoreObservation_outputDecision snapshot.toSnapshot p d'
  rcases hout : Iptables.outputDecision snapshot.toSnapshot p d' with ⟨d'', v⟩
  rw [hout] at hsecond
  cases v with
  | accept => rw [advance_cons_accept _ 1 hsecond]; rfl
  | drop => rw [advance_cons_drop _ 1 hsecond]; rfl
  | reject kind => rw [advance_cons_reject _ 1 hsecond]; rfl
  | queue num bypass => rw [advance_cons_queue _ 1 hsecond]; rfl

theorem hookResult_outputHook (backend : Backend) (hmode : snapshot.mode ≠ .blockAll)
    (hside : p.isOriginal = true ∨ p.ct.bit = .untracked) :
    hookResult (backend.outputHook snapshot.toSnapshot p) d =
      outboundResult snapshot.toSnapshot p d.connmark := by
  obtain ⟨hreply, hvalid⟩ : p.isReply = false ∧ p.ct.bit ≠ .invalid := by
    rcases hside with h | h
    · exact ⟨(not_reply_of_original h).1, (not_reply_of_original h).2.1⟩
    · exact ⟨(noEntry_directions (.inl h)).1, by simp [h]⟩
  cases backend with
  | nftables =>
    rw [hookResult_nftables d hmode,
      Nftables.policyResult_eq hreply hvalid hside (hasDomain_clear d), withDomain_connmark]
  | iptables =>
    obtain ⟨d', hconnmark, hclear, hresult⟩ := hookResult_iptables (p := p) d hmode
    rw [hresult, Iptables.outputDecision_eq hreply hvalid hside hclear, hconnmark]

end Hooks

end OpenShield
