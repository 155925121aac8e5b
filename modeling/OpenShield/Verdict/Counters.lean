import OpenShield.Verdict.Hygiene

/-!
# What the traffic counters count

A packet that leaves the output hook was counted as accepted by one of the chains on its way, and
by none as dropped. There is one exception: in `learning` the policy chain of the nftables backend
accepts some packets without the handoff mark, and the last chain counts them again.
-/

namespace OpenShield

open Netfilter

/-- On the way from one point to another, a packet was counted as accepted `n` times, and never as
dropped. -/
structure Counted (n : ℕ) (before after : Meta Counter) : Prop where
  accepted : after.log.count .acceptedOut = before.log.count .acceptedOut + n
  dropped : after.log.count .droppedOut = before.log.count .droppedOut

namespace Counted

variable {d d' d'' : Meta Counter}

theorem of_log (h : d'.log = d.log) : Counted 0 d d' := ⟨by rw [h]; rfl, by rw [h]⟩

theorem trans {m n : ℕ} (h : Counted m d d') (h' : Counted n d' d'') : Counted (m + n) d d'' :=
  ⟨by rw [h'.accepted, h.accepted, Nat.add_assoc], h'.dropped.trans h.dropped⟩

theorem countAccepted (h : d'.log = d.log) : Counted 1 d (d'.count .acceptedOut) := by
  constructor <;> simp [Meta.count, h]

theorem countLearned (h : d'.log = d.log) : Counted 0 d (d'.count .learnedOut) := by
  constructor <;> simp [Meta.count, h]

end Counted

section Logs

variable {snapshot : Snapshot} {p : Packet} {d : Meta Counter}

@[simp]
theorem withDomain_log (domain : BitVec 32) (d : Meta Counter) : (withDomain domain d).log =
  d.log :=
  rfl

@[simp]
theorem withConnmark_log (value : BitVec 32) (d : Meta Counter) :
    (withConnmark p value d).log = d.log := by
  unfold withConnmark Meta.setConnmark
  split <;> rfl

@[simp]
theorem resetFlow_log (d : Meta Counter) : (resetFlow snapshot p d).log = d.log := by
  unfold resetFlow
  split
  · exact withConnmark_log 0 d
  · rfl

@[simp]
theorem authorised_log (d : Meta Counter) : (authorised snapshot p d).log = d.log :=
  withConnmark_log _ d

end Logs

/-- The packets that two chains of the nftables backend accept and count: in `learning`, replies to
accepted inbound connections, and packets that are not offered to any queue. -/
def countedTwice (backend : Backend) (snapshot : Snapshot) (p : Packet) (connmark : BitVec 32) :
    Bool :=
  decide (backend = .nftables) && decide (snapshot.mode = .learning) &&
    !(hasEnabledOutboundReject snapshot && generatedRejectReply snapshot p connmark) &&
    !fastPath snapshot p .outbound connmark &&
    (reverseMatch snapshot p .outbound ||
      !(p.isOriginal && applicationEnvelope snapshot p (queuedActions snapshot.mode)) &&
        !Nftables.learningShape p)

/-! ### The nftables backend -/

namespace Nftables

variable {snapshot : Snapshot} {p : Packet} {d : Meta Counter}

theorem authorizeDecision_counted (haccept : (authorizeDecision snapshot p d).2 = .accept) :
    Counted (if hasDomain d APPLICATION_HANDOFF_DOMAIN then 0 else 1) d
      (authorizeDecision snapshot p d).1 := by
  unfold authorizeDecision at haccept ⊢
  split at haccept
  · cases haccept
  next hreject =>
  rw [if_neg hreject]
  split at haccept
  · next hpending =>
    obtain ⟨-, hdomain⟩ := Bool.and_eq_true_iff.mp hpending
    rw [if_pos hpending, hasDomain_eq_false hdomain (by decide), if_neg Bool.false_ne_true]
    split
    · exact (Counted.countLearned (authorised_log d)).trans (.countAccepted rfl)
    · exact .countAccepted (authorised_log d)
  next hpending =>
  rw [if_neg hpending]
  split at haccept
  · next hhandoff =>
    rw [if_pos hhandoff, if_pos hhandoff]
    exact .of_log rfl
  next hhandoff =>
  rw [if_neg hhandoff, if_neg hhandoff]
  split at haccept
  · next hmode =>
    rw [if_pos hmode]
    exact .countAccepted rfl
  · cases haccept

inductive Tally (snapshot : Snapshot) (p : Packet) (d : Meta Counter) :
    Meta Counter → Verdict → Prop
  | denied {d' v} (hdeny : IsDeny v) : Tally snapshot p d d' v
  | handed {d'} (hdomain : hasDomain d' APPLICATION_HANDOFF_DOMAIN = true)
    (hcounted : Counted 1 d d') (hsingle : countedTwice .nftables snapshot p d.connmark = false) :
    Tally snapshot p d d' .accept
  | passed {d'} (hdomain : hasDomain d' 0 = true) (hcounted : Counted 1 d d')
    (hdouble : countedTwice .nftables snapshot p d.connmark = true) :
    Tally snapshot p d d' .accept
  | observed {d'} (hdomain : hasDomain d' 0 = true) (hcounted : Counted 0 d d')
    (hsingle : countedTwice .nftables snapshot p d.connmark = false) :
    Tally snapshot p d d' (.queue APPLICATION_LEARNING_QUEUE_NUMBER true)
  | queued {d'} (hdomain : hasDomain d' APPLICATION_PENDING_DOMAIN = true)
    (hcounted : Counted 0 d d')
    (henvelope : applicationEnvelope snapshot p (queuedActions snapshot.mode) = true)
    (hsingle : countedTwice .nftables snapshot p d.connmark = false) :
    Tally snapshot p d d' (.queue APPLICATION_QUEUE_NUMBER false)

theorem tally_acceptHandoff {d₀ : Meta Counter} (hlog : d₀.log = d.log)
    (hsingle : countedTwice .nftables snapshot p d.connmark = false) :
    Tally snapshot p d (acceptHandoff d₀).1 (acceptHandoff d₀).2 :=
  .handed ((hasDomain_withDomain d₀ APPLICATION_HANDOFF_DOMAIN _).trans (by decide))
    (.countAccepted hlog) hsingle

theorem candidateDecision_tally (hclear : hasDomain d 0 = true)
    (hreply : (hasEnabledOutboundReject snapshot &&
      generatedRejectReply snapshot p d.connmark) = false)
    (hfast : fastPath snapshot p .outbound d.connmark = false) :
    Tally snapshot p d (candidateDecision snapshot p (resetFlow snapshot p d)).1
      (candidateDecision snapshot p (resetFlow snapshot p d)).2 := by
  have hclear' : hasDomain (resetFlow snapshot p d) 0 = true := by
    rwa [hasDomain, resetFlow_mark]
  have hcountedTwice : countedTwice .nftables snapshot p d.connmark =
      (decide (snapshot.mode = .learning) && (reverseMatch snapshot p .outbound ||
        !(p.isOriginal && applicationEnvelope snapshot p (queuedActions snapshot.mode)) &&
          !learningShape p)) := by
    simp [countedTwice, hreply, hfast]
  unfold candidateDecision
  split
  · next hreverse =>
    split
    · next hmode =>
      refine .passed hclear' (.countAccepted (resetFlow_log d)) ?_
      simp [hcountedTwice, hmode, hreverse]
    · next hmode => exact tally_acceptHandoff (resetFlow_log d) (by simp [hcountedTwice, hmode])
  next hreverse =>
  split
  · next hqueued =>
    refine .queued ((hasDomain_withDomain _ APPLICATION_PENDING_DOMAIN _).trans (by decide))
      (.of_log (resetFlow_log d)) (Bool.and_eq_true_iff.mp hqueued).2 ?_
    simp [hcountedTwice, Bool.eq_false_of_not_eq_true hreverse, hqueued]
  next hqueued =>
  split
  · exact .denied trivial
  split
  · next hmode =>
    split
    · next hshape =>
      refine .observed hclear' (.countLearned (resetFlow_log d)) ?_
      simp [hcountedTwice, Bool.eq_false_of_not_eq_true hreverse, hshape]
    · next hshape =>
      refine .passed hclear' (.countAccepted (resetFlow_log d)) ?_
      rw [hcountedTwice, Bool.eq_false_of_not_eq_true hqueued,
        Bool.eq_false_of_not_eq_true hshape, hmode]
      simp
  next hmode =>
  split
  · exact tally_acceptHandoff (resetFlow_log d) (by simp [hcountedTwice, hmode])
  · exact .denied trivial

/-- What the policy chain counts. -/
theorem outputDecision_tally (hclear : hasDomain d 0 = true) :
    Tally snapshot p d (outputDecision snapshot p d).1 (outputDecision snapshot p d).2 := by
  unfold outputDecision
  split
  · next hreply => exact tally_acceptHandoff rfl (by simp [countedTwice, hreply])
  next hreply =>
  split
  · exact .denied trivial
  cases networkDeny snapshot p with
  | some r =>
    refine .denied ?_
    show IsDeny (refuse snapshot p r d).2
    unfold refuse
    split <;> trivial
  | none =>
    simp only [Option.elim]
    split
    · next hfast => exact tally_acceptHandoff rfl (by simp [countedTwice, hfast])
    · next hfast =>
      exact candidateDecision_tally hclear (Bool.eq_false_of_not_eq_true hreply)
        (Bool.eq_false_of_not_eq_true hfast)

variable {hook : List (Entry Counter)}

theorem runFrom_last_counted (hlast : hook.drop 2 = [authorizeDecision snapshot p])
    {answers : List (BitVec 16 → Meta Counter → Answer)}
    (haccepted : (runFrom hook 2 d answers).2 = .accepted) :
    Counted (if hasDomain d APPLICATION_HANDOFF_DOMAIN then 0 else 1) d
      (runFrom hook 2 d answers).1 := by
  have hfinal : ∀ num bypass, (authorizeDecision snapshot p d).2 ≠ .queue num bypass := by
    intro num bypass hqueue
    unfold authorizeDecision at hqueue
    split_ifs at hqueue
    cases hqueue
  rw [runFrom_eq_of_last hlast hfinal] at haccepted ⊢
  refine authorizeDecision_counted ?_
  cases hverdict : (authorizeDecision snapshot p d).2 with
  | accept => rfl
  | _ => simp [hverdict, Verdict.outcome] at haccepted

theorem runFrom_policy_counted (hmode : snapshot.mode ≠ .blockAll)
    (hhook : hook.drop 1 = [outputDecision snapshot p, authorizeDecision snapshot p])
    (hclear : hasDomain d 0 = true) {answers : List (BitVec 16 → Meta Counter → Answer)}
    (hanswers : ∀ answer ∈ answers, ∀ num d, DaemonAnswer .nftables p num d (answer num d))
    (haccepted : (runFrom hook 1 d answers).2 = .accepted) :
    Counted (if countedTwice .nftables snapshot p d.connmark then 2 else 1) d
      (runFrom hook 1 d answers).1 := by
  have hlast : hook.drop 2 = [authorizeDecision snapshot p] := by
    rw [← List.tail_drop, hhook, List.tail_cons]
  -- outside the handoff domain the last chain counts
  have hcount {d' : Meta Counter} {domain : BitVec 32} (hdomain : hasDomain d' domain = true)
      (hne : domain ≠ APPLICATION_HANDOFF_DOMAIN)
      {answers : List (BitVec 16 → Meta Counter → Answer)}
      (haccepted : (runFrom hook 2 d' answers).2 = .accepted) :
      Counted 1 d' (runFrom hook 2 d' answers).1 := by
    have hcounted := runFrom_last_counted hlast haccepted
    rwa [hasDomain_eq_false hdomain hne, if_neg Bool.false_ne_true] at hcounted
  have htally : Tally snapshot p d _ _ := outputDecision_tally hclear
  rcases hentry : outputDecision snapshot p d with ⟨d', v⟩
  rw [hentry] at htally
  cases htally with
  | denied hdeny =>
    exact absurd haccepted (not_accepted_of_deny hhook hentry hdeny)
  | handed hdomain hcounted hsingle =>
    rw [runFrom_of_accept hhook hentry] at haccepted ⊢
    have hrest := runFrom_last_counted hlast haccepted
    rw [if_pos hdomain] at hrest
    rw [hsingle]
    exact hcounted.trans hrest
  | passed hdomain hcounted hdouble =>
    rw [runFrom_of_accept hhook hentry] at haccepted ⊢
    rw [hdouble]
    exact hcounted.trans (hcount hdomain (by decide) haccepted)
  | observed hdomain hcounted hsingle =>
    obtain ⟨later, -, hrun⟩ := accepted_of_observed hhook hentry hanswers haccepted
    rw [hrun] at haccepted ⊢
    rw [hsingle]
    exact hcounted.trans (hcount hdomain (by decide) haccepted)
  | queued hdomain hcounted henvelope hsingle =>
    obtain ⟨hsome, -⟩ := intercepted_of_envelope hmode henvelope
    obtain ⟨-, answer, later, -, hrun⟩ := accepted_of_queued hhook hentry hanswers haccepted
    rcases hrun with hrun | hrun <;> rw [hrun] at haccepted ⊢
    · rw [hsingle]
      exact hcounted.trans (hcount hdomain (by decide) haccepted)
    · -- the last chain refuses what the daemon refused
      refine absurd haccepted (not_accepted_of_deny hlast Prod.mk.eta.symm ?_)
      rw [authorizeDecision_refused hsome]
      trivial

end Nftables

/-! ### The iptables backend -/

namespace Iptables

variable {snapshot : Snapshot} {p : Packet} {hook : List (Entry Counter)}

/-- What the filter chain counts: every packet that it accepts, and none that it queues. -/
inductive Tally (d : Meta Counter) : Meta Counter → Verdict → Prop
  | denied {d' v} (hdeny : IsDeny v) : Tally d d' v
  | passed {d'} (hcounted : Counted 1 d d') : Tally d d' .accept
  | queued {d'} (hcounted : Counted 0 d d') : Tally d d' (.queue APPLICATION_QUEUE_NUMBER false)

theorem outputDecision_tally (d : Meta Counter) :
    Tally d (outputDecision snapshot p d).1 (outputDecision snapshot p d).2 := by
  have hreset : (resetFlow snapshot p d).log = d.log := resetFlow_log d
  unfold outputDecision
  split
  · exact .denied trivial
  split
  · exact .passed (.countAccepted rfl)
  cases networkDeny snapshot p with
  | some r =>
    refine .denied ?_
    show IsDeny (refuse snapshot p r d).2
    unfold refuse
    split <;> trivial
  | none =>
    simp only [Option.elim, verdictDecision]
    split
    · exact .denied trivial
    split
    · refine .passed ?_
      unfold admitted
      split
      · exact (Counted.countAccepted (authorised_log d)).trans (.countLearned rfl)
      · exact .countAccepted (authorised_log d)
    split
    · exact .passed (.countAccepted rfl)
    unfold candidateDecision
    split
    · exact .passed (.countAccepted hreset)
    split
    · exact .queued (.of_log hreset)
    split
    · exact .denied trivial
    split
    · exact .passed (.countAccepted hreset)
    split
    · exact .passed (.countAccepted hreset)
    · exact .denied trivial

theorem outputDecision_final_or_queue (d : Meta Counter) :
    (∀ num bypass, (outputDecision snapshot p d).2 ≠ .queue num bypass) ∨
      ∃ d', outputDecision snapshot p d = (d', .queue APPLICATION_QUEUE_NUMBER false) ∧
        Counted 0 d d' := by
  have htally : Tally d (outputDecision snapshot p d).1 _ := outputDecision_tally d
  rcases hentry : outputDecision snapshot p d with ⟨d', v⟩
  rw [hentry] at htally
  cases htally with
  | denied hdeny =>
    refine .inl fun num bypass hqueue => ?_
    rw [show v = .queue num bypass from hqueue] at hdeny
    exact hdeny
  | passed => exact .inl nofun
  | queued hcounted => exact .inr ⟨d', rfl, hcounted⟩

theorem runFrom_filter_final {d : Meta Counter} (hhook : hook.drop 1 = [outputDecision snapshot p])
    (hfinal : ∀ num bypass, (outputDecision snapshot p d).2 ≠ .queue num bypass)
    {answers : List (BitVec 16 → Meta Counter → Answer)}
    (haccepted : (runFrom hook 1 d answers).2 = .accepted) :
    Counted 1 d (runFrom hook 1 d answers).1 := by
  have htally : Tally d (outputDecision snapshot p d).1 _ := outputDecision_tally d
  rw [runFrom_eq_of_last hhook hfinal] at haccepted ⊢
  generalize outputDecision snapshot p d = result at htally haccepted
  obtain ⟨d', v⟩ := result
  cases htally with
  | denied hdeny => cases v <;> first | exact hdeny.elim | cases haccepted
  | passed hcounted => exact hcounted
  | queued => cases haccepted

theorem runFrom_filter_counted (hhook : hook.drop 1 = [outputDecision snapshot p])
    {d : Meta Counter} {answers : List (BitVec 16 → Meta Counter → Answer)}
    (hanswers : ∀ answer ∈ answers, ∀ num d, DaemonAnswer .iptables p num d (answer num d))
    (haccepted : (runFrom hook 1 d answers).2 = .accepted) :
    Counted 1 d (runFrom hook 1 d answers).1 := by
  -- a verdict of the daemon makes the packet run the chain again
  induction answers generalizing d with
  | nil =>
    rcases outputDecision_final_or_queue d with hfinal | ⟨d', hentry, -⟩
    · exact runFrom_filter_final hhook hfinal haccepted
    · rw [runFrom_nil_of_queue hhook hentry] at haccepted
      cases haccepted
  | cons answer answers ih =>
    rcases outputDecision_final_or_queue d with hfinal | ⟨d', hentry, hcounted⟩
    · exact runFrom_filter_final hhook hfinal haccepted
    obtain ⟨-, _, later, heq, domain, -, hrun⟩ :=
      accepted_of_queued hhook hentry hanswers haccepted
    cases heq
    rw [hrun] at haccepted ⊢
    exact hcounted.trans ((Counted.of_log (withDomain_log domain d')).trans
      (ih (fun other hother => hanswers other (List.mem_cons_of_mem _ hother)) haccepted))

end Iptables

/-! ### The hooks -/

theorem Backend.runFrom_counted (backend : Backend) (snapshot : ValidSnapshot) (p : Packet)
    (d : Meta Counter) {answers : List (BitVec 16 → Meta Counter → Answer)}
    (hanswers : ∀ answer ∈ answers, ∀ num d, DaemonAnswer backend p num d (answer num d))
    (haccepted : (runFrom (backend.outputHook snapshot.toSnapshot p) 0 d answers).2 =
      .accepted) :
    Counted (if countedTwice backend snapshot.toSnapshot p d.connmark then 2 else 1) d
      (runFrom (backend.outputHook snapshot.toSnapshot p) 0 d answers).1 := by
  obtain ⟨hmode, d', later, hfirst, hlater, hrun⟩ := Backend.runFrom_first hanswers haccepted
  have hcounted : Counted 0 d d' := by
    rcases hfirst with rfl | rfl
    · exact .of_log rfl
    · exact .countLearned rfl
  have hclear : hasDomain d' 0 = true := by rcases hfirst with rfl | rfl <;> exact hasDomain_clear d
  have hconnmark : d'.connmark = d.connmark := by rcases hfirst with rfl | rfl <;> rfl
  rw [hrun] at haccepted ⊢
  suffices hrest : Counted (if countedTwice backend snapshot.toSnapshot p d'.connmark then 2 else 1)
      d' (runFrom (backend.outputHook snapshot.toSnapshot p) 1 d' later).1 by
    have hboth := hcounted.trans hrest
    rwa [Nat.zero_add, hconnmark] at hboth
  cases backend with
  | nftables =>
    refine Nftables.runFrom_policy_counted hmode ?_ hclear hlater haccepted
    rw [Backend.outputHook_nftables snapshot p hmode]
    rfl
  | iptables =>
    have hhook : (Backend.iptables.outputHook snapshot.toSnapshot p).drop 1 =
        [Iptables.outputDecision snapshot.toSnapshot p] := by
      rw [Backend.outputHook_iptables snapshot p hmode]
      rfl
    exact Iptables.runFrom_filter_counted hhook hlater haccepted

/-- An accepted packet is counted as accepted once, and not as dropped, unless two chains of the
nftables backend count it in `learning`. -/
theorem accepted_counted_once_iff (backend : Backend) (snapshot : ValidSnapshot) (p : Packet)
    (d : Meta Counter) {answers : List (BitVec 16 → Meta Counter → Answer)}
    (hanswers : ∀ answer ∈ answers, ∀ num d, DaemonAnswer backend p num d (answer num d))
    (haccepted : (runFrom (backend.outputHook snapshot.toSnapshot p) 0 d answers).2 =
      .accepted) :
    ((runFrom (backend.outputHook snapshot.toSnapshot p) 0 d answers).1.log.count .acceptedOut =
          d.log.count .acceptedOut + 1 ∧
        (runFrom (backend.outputHook snapshot.toSnapshot p) 0 d answers).1.log.count .droppedOut =
          d.log.count .droppedOut) ↔
      countedTwice backend snapshot.toSnapshot p d.connmark = false := by
  obtain ⟨hcount, hdropped⟩ := backend.runFrom_counted snapshot p d hanswers haccepted
  constructor
  · rintro ⟨honce, -⟩
    rw [hcount] at honce
    by_contra htwice
    rw [if_pos (Bool.eq_true_of_not_eq_false htwice)] at honce
    omega
  · intro hsingle
    rw [hsingle] at hcount
    exact ⟨hcount, hdropped⟩

def Sample.answeringPacket : Packet := replyPacket

/-- In `learning` the answer to an accepted inbound connection is counted by the policy chain and
again by the last chain. -/
theorem accepted_reply_counted_twice :
    (runFrom (Backend.nftables.outputHook (Sample.inboundAccept .learning).toSnapshot
        Sample.answeringPacket) 0 ⟨0, 0, []⟩ []).2 = .accepted ∧
      (runFrom (Backend.nftables.outputHook (Sample.inboundAccept .learning).toSnapshot
        Sample.answeringPacket) 0 ⟨0, 0, []⟩ []).1.log.count .acceptedOut = 2 := by
  decide +kernel

/-- A packet that the daemon accepts is counted once, in the second of its traversals. -/
theorem accepted_counted_once_sample :
    (runFrom (Backend.iptables.outputHook (Sample.applicationDeny .learning).toSnapshot
        Sample.newPacket) 0 ⟨0, 0, []⟩ [Sample.answer]).2 = .accepted ∧
      (runFrom (Backend.iptables.outputHook (Sample.applicationDeny .learning).toSnapshot
        Sample.newPacket) 0 ⟨0, 0, []⟩ [Sample.answer]).1.log.count .acceptedOut = 1 := by
  have haccepted : (runFrom (Backend.iptables.outputHook
      (Sample.applicationDeny .learning).toSnapshot Sample.newPacket) 0 ⟨0, 0, []⟩
      [Sample.answer]).2 = .accepted := by decide +kernel
  have hcount := (accepted_counted_once_iff .iptables (Sample.applicationDeny .learning)
    Sample.newPacket ⟨0, 0, []⟩ Sample.answer_daemonAnswer haccepted).mpr rfl
  exact ⟨haccepted, hcount.1⟩

end OpenShield
