import OpenShield.Verdict.EndToEnd

/-!
# Replies while learning

While learning everything outbound is accepted that no rule denies, and application denies are
about flows that start on this host. A packet that flows against its connection belongs to a
flow that another host started. The iptables backend lets such packets pass. The nftables backend
drops those in the envelope of an application deny: its guards against packets that could not be
queued do not look at the direction.
-/

namespace OpenShield

open Netfilter

section Packets

variable {p : Packet}

theorem not_original_of_reply (h : p.isReply = true) :
    p.isOriginal = false ∧ p.ct.bit ≠ .untracked := by
  cases hct : p.ct with
  | untracked => simp [Packet.isReply, hct, Conntrack.dir?] at h
  | invalid => simp [Packet.isReply, hct, Conntrack.dir?] at h
  | tracked state dir dst port =>
    cases dir with
    | original => simp [Packet.isReply, hct, Conntrack.dir?] at h
    | reply => cases state <;> simp [Packet.isOriginal, hct, Conntrack.dir?, Conntrack.bit,
        CtState.bit]

theorem fastPath_eq_false_of_reply {snapshot : Snapshot} (hmode : snapshot.mode = .learning)
    (h : p.isReply = true) (connmark : BitVec 32) :
    fastPath snapshot p .outbound connmark = false := by
  simp [fastPath, hmode, flowShape, (not_original_of_reply h).1]

end Packets

section Decisions

variable {snapshot : Snapshot} {p : Packet} {d : Meta Counter}

/-- The reasons for which the nftables backend lets a reply pass while learning: it is the error
of a reject, a network rule accepts its connection, or no application deny is about it. -/
def replyPasses (snapshot : Snapshot) (p : Packet) (connmark : BitVec 32) : Bool :=
  (hasEnabledOutboundReject snapshot && generatedRejectReply snapshot p connmark) ||
    reverseMatch snapshot p .outbound ||
    !(applicationEnvelope snapshot p [.drop, .reject] ||
      originalGuard snapshot p [.drop, .reject])

theorem Nftables.authorizeDecision_learning (hmode : snapshot.mode = .learning)
    (hclear : hasDomain d 0 = true) :
    Nftables.authorizeDecision snapshot p d = (d.count .acceptedOut, .accept) := by
  simp [Nftables.authorizeDecision, hmode, not_rejected_of_clear hclear,
    hasDomain_eq_false hclear (show 0 ≠ APPLICATION_PENDING_DOMAIN by decide),
    not_handedOff_of_clear hclear]

theorem Iptables.outputDecision_reply (hmode : snapshot.mode = .learning)
    (hreply : p.isReply = true) (hdeny : networkDeny snapshot p = none)
    (hclear : hasDomain d 0 = true) : (Iptables.outputDecision snapshot p d).2 = .accept := by
  obtain ⟨horiginal, huntracked⟩ := not_original_of_reply hreply
  unfold Iptables.outputDecision
  simp only [hmode, hdeny, Option.elim, Iptables.verdictDecision, Iptables.candidateDecision,
    fastPath_eq_false_of_reply hmode hreply, horiginal, huntracked,
    not_rejected_of_clear hclear, not_handedOff_of_clear hclear, reduceCtorEq, decide_false, decide_true, Bool.false_and, Bool.and_false, Bool.or_self, Bool.false_eq_true,
    if_false, if_true]
  split
  · rfl
  split
  · rfl
  split <;> rfl

theorem Nftables.outputDecision_reply (hmode : snapshot.mode = .learning)
    (hreply : p.isReply = true) (hdeny : networkDeny snapshot p = none) :
    Nftables.outputDecision snapshot p d =
      if hasEnabledOutboundReject snapshot && generatedRejectReply snapshot p d.connmark then
        Nftables.acceptHandoff d
      else if replyPasses snapshot p d.connmark then (d.count .acceptedOut, .accept)
      else (d.count .droppedOut, .drop) := by
  obtain ⟨horiginal, -⟩ := not_original_of_reply hreply
  have hreset : resetFlow snapshot p d = d := by simp [resetFlow, horiginal]
  have hshape : learningShape p = false := by simp [learningShape, horiginal]
  unfold Nftables.outputDecision
  cases herror : hasEnabledOutboundReject snapshot && generatedRejectReply snapshot p d.connmark
  · simp only [Bool.false_eq_true, if_false, hmode, hdeny, Option.elim,
      fastPath_eq_false_of_reply hmode hreply, hreset, Nftables.candidateDecision, horiginal,
      hshape, replyPasses, herror, queuedActions]
    cases reverseMatch snapshot p .outbound <;>
      cases applicationEnvelope snapshot p [.drop, .reject] <;>
      cases originalGuard snapshot p [.drop, .reject] <;> simp
  · simp

end Decisions

/-- Replies while learning: whatever marks it carries and whatever the queues answer, a reply that
no network rule denies passes the iptables backend, and it passes the nftables backend exactly if
it is the error of a reject, a network rule accepts its connection, or it lies in the envelope of
no application deny, before and after address translation. -/
theorem learning_reply_accepted_iff (backend : Backend) (snapshot : ValidSnapshot)
    (hmode : snapshot.mode = .learning) (p : Packet) (d : Meta Counter)
    (hreply : p.isReply = true)
    (hdrop : networkMatch snapshot.toSnapshot p .outbound .drop = false)
    (hreject : networkMatch snapshot.toSnapshot p .outbound .reject = false)
    (answers : List (BitVec 16 → Meta Counter → Answer)) :
    (runFrom (backend.outputHook snapshot.toSnapshot p) 0 d answers).2 = .accepted ↔
      backend = .iptables ∨ replyPasses snapshot.toSnapshot p d.connmark = true := by
  have hdeny : networkDeny snapshot.toSnapshot p = none :=
    (networkDeny_eq_none_iff _ _).mpr ⟨hdrop, hreject⟩
  have hadvance := backend.advance_outputHook snapshot p d (by simp [hmode])
    (by simp [(not_original_of_reply hreply).1])
  cases backend with
  | iptables =>
    have hverdict := Iptables.outputDecision_reply hmode hreply hdeny (hasDomain_clear d)
    rw [Backend.outputDecision, Backend.laterEntries,
      advance_singleton 1 (by rw [hverdict]; simp), hverdict] at hadvance
    rw [runFrom_zero_of_done hadvance]
    exact ⟨fun _ => .inl rfl, fun _ => rfl⟩
  | nftables =>
    have hentry := Nftables.outputDecision_reply (d := withDomain 0 d) hmode hreply hdeny
    rw [withDomain_connmark] at hentry
    rw [Backend.outputDecision, Backend.laterEntries] at hadvance
    cases herror : hasEnabledOutboundReject snapshot.toSnapshot &&
        generatedRejectReply snapshot.toSnapshot p d.connmark with
    | true =>
      -- errors of rejects are handed to the last chain
      rw [herror, if_pos rfl] at hentry
      have hlast := Nftables.authorizeDecision_handoff snapshot.toSnapshot p (withDomain 0 d)
      rw [advance_cons_accept _ 1 hentry] at hadvance
      rw [runFrom_zero_of_done (hadvance.trans (advance_cons_accept [] 2 hlast))]
      exact ⟨fun _ => .inr (by simp [replyPasses, herror]), fun _ => rfl⟩
    | false =>
      rw [herror, if_neg Bool.false_ne_true] at hentry
      cases hpasses : replyPasses snapshot.toSnapshot p d.connmark with
      | true =>
        rw [hpasses, if_pos rfl] at hentry
        have hlast := Nftables.authorizeDecision_learning (p := p)
          (d := (withDomain 0 d).count .acceptedOut) hmode (hasDomain_clear d)
        rw [advance_cons_accept _ 1 hentry, advance_cons_accept _ 2 hlast, advance_nil] at hadvance
        rw [runFrom_zero_of_done hadvance]
        exact ⟨fun _ => .inr rfl, fun _ => rfl⟩
      | false =>
        rw [hpasses, if_neg Bool.false_ne_true] at hentry
        rw [advance_cons_drop _ 1 hentry] at hadvance
        rw [runFrom_zero_of_done hadvance]
        simp

/-- With an application deny for TCP, the iptables backend lets the answer of a service pass. -/
theorem learning_reply_accepted_sample :
    (runFrom (Backend.iptables.outputHook (Sample.applicationDeny .learning).toSnapshot
      Sample.replyPacket) 0 ⟨0, 0, []⟩ []).2 = .accepted :=
  (learning_reply_accepted_iff .iptables (Sample.applicationDeny .learning) rfl
    Sample.replyPacket ⟨0, 0, []⟩ (by decide +kernel) (by decide +kernel) (by decide +kernel)
    []).mpr (.inl rfl)

/-- The nftables backend drops it. -/
theorem learning_reply_dropped :
    Sample.replyPacket.isReply = true ∧
      networkMatch (Sample.applicationDeny .learning).toSnapshot Sample.replyPacket .outbound
        .drop = false ∧
      networkMatch (Sample.applicationDeny .learning).toSnapshot Sample.replyPacket .outbound
        .reject = false ∧
      (runFrom (Backend.nftables.outputHook (Sample.applicationDeny .learning).toSnapshot
        Sample.replyPacket) 0 ⟨0, 0, []⟩ []).2 = .dropped := by
  decide +kernel

end OpenShield
