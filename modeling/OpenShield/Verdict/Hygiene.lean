import OpenShield.Verdict.Effects
import OpenShield.Verdict.EndToEnd

/-!
# Mark hygiene

Two bits of the packet mark are private. Whatever mark a packet arrives with, the private bits
are cleared before any chain reads them, and an accepted packet leaves without them, with the
rest of its mark untouched. Between the two, a private domain is on the packet only because a
rule or a verdict of the daemon put it there.
-/

namespace OpenShield

open Netfilter

inductive DaemonAnswer (backend : Backend) (p : Packet) (num : BitVec 16) (d : Meta Counter) :
    Answer → Prop
  /-- Nobody listens, or the queue is full. -/
  | absent : DaemonAnswer backend p num d .absent
  | flushed : DaemonAnswer backend p num d (.verdict .drop none)
  | decided (hnum : num = APPLICATION_QUEUE_NUMBER) (policy : ApplicationDecisionPolicy)
    (attributes : QueueAttributes)
    (resolve : OutboundConnection → IdentityCaptureRequirements →
      Except String ApplicationIdentity)
    (observe : Except String (Option String)) (current : Except String (Mode × BitVec 32))
    (stopping : Bool) :
    DaemonAnswer backend p num d (returnPacketVerdict
      (decidePacket policy (parseQueuedPacket p attributes d.mark) resolve observe) current
      stopping backend.queueVerdictStrategy).answer
  | observed (hnum : num = APPLICATION_LEARNING_QUEUE_NUMBER) (mode : Mode) (stopping : Bool) :
    DaemonAnswer backend p num d (.verdict (returnLearningVerdict mode stopping) none)
  | released (hnum : num = APPLICATION_LEARNING_QUEUE_NUMBER) (ticketGeneration : BitVec 32)
    (mode : Mode) (generation : BitVec 32) (stopping : Bool) :
    DaemonAnswer backend p num d
      (.verdict (releaseLearningVerdict ticketGeneration mode generation stopping) none)

/-! ### The answers -/

section Answers

variable {backend : Backend} {p : Packet} {d : Meta Counter} {answer : Answer}

theorem decidePacket_parsed {policy : ApplicationDecisionPolicy}
    {parsed : Except String QueuedPacket}
    {resolve : OutboundConnection → IdentityCaptureRequirements →
      Except String ApplicationIdentity}
    {observe : Except String (Option String)} {authorization : PacketAuthorization}
    (h : decidePacket policy parsed resolve observe = .ok authorization) :
    ∃ packet, parsed = .ok packet ∧ authorization.packetMark = packet.packetMark := by
  unfold decidePacket at h
  split at h
  · cases h
  next packet =>
  refine ⟨packet, rfl, ?_⟩
  split at h
  · cases h
  · cases h
    rfl
  · cases h
    rfl
  split at h
  · cases h
  · unfold authorizeAttributedPacket at h
    split at h
    · cases h
    · split at h
      · cases h
        rfl
      · cases h
    · split at h
      · cases h
        rfl
      · split at h
        · cases h
          rfl
        · cases h

/-- The application queue discards a packet, or answers with the verdict of a decision about a
packet whose protocol can be attributed. -/
theorem DaemonAnswer.application_cases
    (h : DaemonAnswer backend p APPLICATION_QUEUE_NUMBER d answer) :
    answer = .absent ∨ (∃ mark, answer = .verdict .drop mark) ∨
      (attributable p = true ∧ ∃ action, answer = .verdict
        (authorizationVerdict action backend.queueVerdictStrategy d.mark).1
        (authorizationVerdict action backend.queueVerdictStrategy d.mark).2) := by
  cases h with
  | absent => exact .inl rfl
  | flushed => exact .inr (.inl ⟨none, rfl⟩)
  | observed hnum => exact absurd hnum (by decide)
  | released hnum => exact absurd hnum (by decide)
  | decided hnum policy attributes resolve observe current stopping =>
    refine .inr ?_
    cases hdecision : decidePacket policy (parseQueuedPacket p attributes d.mark) resolve
        observe with
    | error error => exact .inl ⟨none, rfl⟩
    | ok authorization =>
      obtain ⟨packet, hparsed, hmark⟩ := decidePacket_parsed hdecision
      obtain ⟨hspec, hpacket⟩ := parseQueuedPacket_spec hparsed
      rw [hpacket] at hmark
      unfold returnPacketVerdict
      cases current with
      | error message => exact .inl ⟨none, rfl⟩
      | ok identity =>
        simp only
        split
        · refine .inr ⟨attributable_of_protocolMatches hspec.typed hspec.protocol,
            authorization.action, ?_⟩
          rw [← hmark]
          rfl
        · exact .inl ⟨none, rfl⟩

theorem DaemonAnswer.learning_cases
    (h : DaemonAnswer backend p APPLICATION_LEARNING_QUEUE_NUMBER d answer) :
    answer = .absent ∨ answer = .verdict .drop none ∨ answer = .verdict .accept none := by
  cases h with
  | absent => exact .inl rfl
  | flushed => exact .inr (.inl rfl)
  | decided hnum => exact absurd hnum (by decide)
  | observed hnum mode stopping =>
    unfold returnLearningVerdict
    split
    · exact .inr (.inl rfl)
    · exact .inr (.inr rfl)
  | released hnum ticketGeneration mode generation stopping =>
    unfold releaseLearningVerdict
    split
    · exact .inr (.inr rfl)
    · exact .inr (.inl rfl)

end Answers

/-! ### Marks -/

section Marks

variable {d : Meta Counter}

theorem withDomain_zero_mark (d : Meta Counter) :
    (withDomain 0 d).mark = d.mark &&& APPLICATION_MARK_PAYLOAD_MASK := by
  simp [withDomain]

theorem payload_withDomain {domain : BitVec 32} (d : Meta Counter)
    (hdomain : domain &&& APPLICATION_MARK_PAYLOAD_MASK = 0) :
    (withDomain domain d).mark &&& APPLICATION_MARK_PAYLOAD_MASK =
      d.mark &&& APPLICATION_MARK_PAYLOAD_MASK := by
  rw [withDomain, Meta.setMark_mark, BitVec.and_or_distrib_right, hdomain, BitVec.and_assoc,
    BitVec.and_self]
  simp

theorem payload_of_clear (hclear : hasDomain d 0 = true) :
    d.mark &&& APPLICATION_MARK_PAYLOAD_MASK = d.mark := by
  rw [payloadMask_eq]
  exact and_not_eq_self (of_decide_eq_true hclear)

end Marks

/-! ### Packets that go on -/

section Continued

variable {backend : Backend} {p : Packet} {hook rest : List (Entry Counter)} {position : ℕ}
  {entry : Entry Counter} {d d' : Meta Counter} {answers : List (BitVec 16 → Meta Counter → Answer)}

theorem not_accepted_of_deny {v : Verdict} (hhook : hook.drop position = entry :: rest)
    (hentry : entry d = (d', v)) (hdeny : IsDeny v) :
    (runFrom hook position d answers).2 ≠ .accepted := by
  obtain ⟨outcome, hnot, hstop⟩ := advance_of_deny hentry hdeny rest position
  rwa [runFrom_of_done (by rw [hhook]; exact hstop)]

theorem accepted_of_observed (hhook : hook.drop position = entry :: rest)
    (hentry : entry d = (d', .queue APPLICATION_LEARNING_QUEUE_NUMBER true))
    (hanswers : ∀ answer ∈ answers, ∀ num d, DaemonAnswer backend p num d (answer num d))
    (haccepted : (runFrom hook position d answers).2 = .accepted) :
    ∃ later, (∀ answer ∈ later, ∀ num d, DaemonAnswer backend p num d (answer num d)) ∧
      runFrom hook position d answers = runFrom hook (position + 1) d' later := by
  cases answers with
  | nil =>
    rw [runFrom_nil_of_queue hhook hentry] at haccepted
    cases haccepted
  | cons answer later =>
    refine ⟨later, fun other hother => hanswers other (List.mem_cons_of_mem _ hother), ?_⟩
    rw [runFrom_of_queue hhook hentry] at haccepted ⊢
    rcases (hanswers answer List.mem_cons_self _ d').learning_cases with h | h | h <;>
      rw [h] at haccepted ⊢
    · rfl
    · cases haccepted
    · rfl

/-- A packet that the application queue does not discard goes on behind its chain or enters it
again, with the domain of its verdict. -/
theorem accepted_of_queued (hhook : hook.drop position = entry :: rest)
    (hentry : entry d = (d', .queue APPLICATION_QUEUE_NUMBER false))
    (hanswers : ∀ answer ∈ answers, ∀ num d, DaemonAnswer backend p num d (answer num d))
    (haccepted : (runFrom hook position d answers).2 = .accepted) :
    attributable p = true ∧ ∃ answer later, answers = answer :: later ∧
      match backend with
      | .nftables =>
        runFrom hook position d answers = runFrom hook (position + 1) d' later ∨
          runFrom hook position d answers =
            runFrom hook (position + 1) (withDomain APPLICATION_REJECT_DOMAIN d') later
      | .iptables =>
        ∃ domain, (domain = APPLICATION_HANDOFF_DOMAIN ∨ domain = APPLICATION_REJECT_DOMAIN) ∧
          runFrom hook position d answers = runFrom hook position (withDomain domain d') later := by
  cases answers with
  | nil =>
    rw [runFrom_nil_of_queue hhook hentry] at haccepted
    cases haccepted
  | cons answer later =>
    rw [runFrom_of_queue hhook hentry] at haccepted ⊢
    rcases (hanswers answer List.mem_cons_self _ d').application_cases with
      h | ⟨mark, h⟩ | ⟨hattributable, action, h⟩ <;> rw [h] at haccepted ⊢
    · cases haccepted
    · cases haccepted
    refine ⟨hattributable, answer, later, rfl, ?_⟩
    have hhandoff := setMark_applicationHandoffMark d'
    have hreject := setMark_applicationRejectMark d'
    cases backend <;> cases action
    · exact .inl rfl
    · cases haccepted
    · exact .inr (by rw [← hreject]; rfl)
    · exact ⟨_, .inl rfl, by rw [← hhandoff]; rfl⟩
    · cases haccepted
    · exact ⟨_, .inr rfl, by rw [← hreject]; rfl⟩

end Continued

/-! ### The nftables backend -/

namespace Nftables

variable {snapshot : Snapshot} {p : Packet} {hook : List (Entry Counter)}

/-- A packet that the last chain accepts leaves without a private domain, if the chain consumes
the domain that the packet arrives with. -/
theorem accepted_mark_last (hlast : hook.drop 2 = [authorizeDecision snapshot p])
    {d : Meta Counter}
    (hreject : hasDomain d APPLICATION_REJECT_DOMAIN = true →
      snapshot.applicationInterception ≠ .none)
    (hpending : hasDomain d APPLICATION_PENDING_DOMAIN = true →
      intercepted p snapshot.applicationInterception = true)
    (answers : List (BitVec 16 → Meta Counter → Answer))
    (haccepted : (runFrom hook 2 d answers).2 = .accepted) :
    (runFrom hook 2 d answers).1.mark = d.mark &&& APPLICATION_MARK_PAYLOAD_MASK := by
  have hcase : AuthorizeCase snapshot p d _ _ := authorizeDecision_case d
  rcases hentry : authorizeDecision snapshot p d with ⟨d', v⟩
  rw [hentry] at hcase
  have hrun (hv : v = .accept) : runFrom hook 2 d answers = (d', .accepted) := by
    subst hv
    have hfinal := runFrom_eq_of_last (d := d) hlast (by rw [hentry]; nofun) answers
    rwa [hentry] at hfinal
  cases hcase with
  | denied hdeny hkeeps =>
    exact absurd haccepted (not_accepted_of_deny hlast hentry hdeny)
  | admitted hdomain hmark hdates => rw [hrun rfl, hmark, withDomain_zero_mark]
  | handed hdomain hmark hkeeps => rw [hrun rfl, hmark, withDomain_zero_mark]
  | passed hmark hkeeps hnoReject hnoPending hnoHandoff =>
    rw [hrun rfl, hmark]
    refine (payload_of_clear ?_).symm
    -- the chain would have consumed every other domain
    rcases domain_cases d.mark with h | h | h | h
    · exact decide_eq_true h
    · have hhas : hasDomain d APPLICATION_REJECT_DOMAIN = true := decide_eq_true h
      rw [hnoReject (hreject hhas)] at hhas
      cases hhas
    · have hhas : hasDomain d APPLICATION_PENDING_DOMAIN = true := decide_eq_true h
      rw [hnoPending (hpending hhas)] at hhas
      cases hhas
    · have hhas : hasDomain d APPLICATION_HANDOFF_DOMAIN = true := decide_eq_true h
      rw [hnoHandoff] at hhas
      cases hhas

theorem accepted_mark_policy (hmode : snapshot.mode ≠ .blockAll)
    (hhook : hook.drop 1 = [outputDecision snapshot p, authorizeDecision snapshot p])
    {d : Meta Counter} (hclear : hasDomain d 0 = true)
    {answers : List (BitVec 16 → Meta Counter → Answer)}
    (hanswers : ∀ answer ∈ answers, ∀ num d,
      DaemonAnswer .nftables p num d (answer num d))
    (haccepted : (runFrom hook 1 d answers).2 = .accepted) :
    (runFrom hook 1 d answers).1.mark = d.mark := by
  have hlast : hook.drop 2 = [authorizeDecision snapshot p] := by
    rw [← List.tail_drop, hhook, List.tail_cons]
  have hclean {d' : Meta Counter} (hmark : d'.mark = d.mark)
      (answers : List (BitVec 16 → Meta Counter → Answer))
      (haccepted : (runFrom hook 2 d' answers).2 = .accepted) :
      (runFrom hook 2 d' answers).1.mark = d.mark := by
    have hclear' : hasDomain d' 0 = true := by rwa [hasDomain, hmark]
    rw [accepted_mark_last hlast
      (fun h => by rw [hasDomain_eq_false hclear' (by decide)] at h; cases h)
      (fun h => by rw [hasDomain_eq_false hclear' (by decide)] at h; cases h) answers haccepted,
      payload_of_clear hclear', hmark]
  have hcase : OutputCase .nftables snapshot p d _ _ := outputDecision_case d
  rcases hentry : outputDecision snapshot p d with ⟨d', v⟩
  rw [hentry] at hcase
  cases hcase with
  | denied hdeny hkeeps =>
    exact absurd haccepted (not_accepted_of_deny hhook hentry hdeny)
  | admitted hbackend => cases hbackend
  | passed hmark hkeeps hfresh =>
    rw [runFrom_of_accept hhook hentry] at haccepted ⊢
    exact hclean hmark answers haccepted
  | handed hbackend hmark hkeeps =>
    rw [runFrom_of_accept hhook hentry] at haccepted ⊢
    have hdomain : hasDomain d' APPLICATION_HANDOFF_DOMAIN = true := by
      rw [hasDomain, hmark]
      exact (hasDomain_withDomain d _ _).trans (by decide)
    rw [accepted_mark_last hlast
      (fun h => by rw [hasDomain_eq_false hdomain (by decide)] at h; cases h)
      (fun h => by rw [hasDomain_eq_false hdomain (by decide)] at h; cases h) answers haccepted,
      hmark, payload_withDomain d (by decide), payload_of_clear hclear]
  | observed hbackend hmark hkeeps =>
    obtain ⟨later, -, hrun⟩ := accepted_of_observed hhook hentry hanswers haccepted
    rw [hrun] at haccepted ⊢
    exact hclean hmark later haccepted
  | queued horiginal henvelope hmark hkeeps hfresh =>
    obtain ⟨hsome, hintercepted⟩ := intercepted_of_envelope hmode henvelope
    have hpayload : d'.mark &&& APPLICATION_MARK_PAYLOAD_MASK = d.mark := by
      rw [hmark, payload_withDomain d (by decide), payload_of_clear hclear]
    obtain ⟨hattributable, answer, later, -, hrun⟩ :=
      accepted_of_queued hhook hentry hanswers haccepted
    -- the pending mark of an authorised packet is consumed by the last chain
    rcases hrun with hrun | hrun <;> rw [hrun] at haccepted ⊢ <;>
      rw [accepted_mark_last hlast (fun _ => hsome) (fun _ => hintercepted hattributable) later
        haccepted]
    · exact hpayload
    · rw [payload_withDomain d' (by decide), hpayload]

end Nftables

/-! ### The iptables backend -/

namespace Iptables

variable {snapshot : Snapshot} {p : Packet} {hook : List (Entry Counter)}

theorem accepted_mark_repeated (hhook : hook.drop 1 = [outputDecision snapshot p])
    {d : Meta Counter} (horiginal : p.isOriginal = true)
    (hconsumes : consumesVerdict snapshot p d = true)
    (answers : List (BitVec 16 → Meta Counter → Answer))
    (haccepted : (runFrom hook 1 d answers).2 = .accepted) :
    (runFrom hook 1 d answers).1.mark = d.mark &&& APPLICATION_MARK_PAYLOAD_MASK := by
  have hcase : OutputCase .iptables snapshot p d _ _ := outputDecision_case d
  rcases hentry : outputDecision snapshot p d with ⟨d', v⟩
  rw [hentry] at hcase
  cases hcase with
  | denied hdeny hkeeps =>
    exact absurd haccepted (not_accepted_of_deny hhook hentry hdeny)
  | handed hbackend => cases hbackend
  | observed hbackend => cases hbackend
  | passed hmark hkeeps hfresh =>
    rw [hfresh rfl horiginal] at hconsumes
    cases hconsumes
  | queued _ henvelope hmark hkeeps hfresh =>
    rw [hfresh rfl] at hconsumes
    cases hconsumes
  | admitted hbackend hhandoff hmark hdates =>
    have hfinal := runFrom_eq_of_last (d := d) hhook (by rw [hentry]; nofun) answers
    rw [hfinal, hentry, hmark, withDomain_zero_mark]

theorem accepted_mark_filter (hmode : snapshot.mode ≠ .blockAll)
    (hhook : hook.drop 1 = [outputDecision snapshot p]) {d : Meta Counter}
    (hclear : hasDomain d 0 = true) {answers : List (BitVec 16 → Meta Counter → Answer)}
    (hanswers : ∀ answer ∈ answers, ∀ num d,
      DaemonAnswer .iptables p num d (answer num d))
    (haccepted : (runFrom hook 1 d answers).2 = .accepted) :
    (runFrom hook 1 d answers).1.mark = d.mark := by
  have hcase : OutputCase .iptables snapshot p d _ _ := outputDecision_case d
  rcases hentry : outputDecision snapshot p d with ⟨d', v⟩
  rw [hentry] at hcase
  cases hcase with
  | denied hdeny hkeeps =>
    exact absurd haccepted (not_accepted_of_deny hhook hentry hdeny)
  | handed hbackend => cases hbackend
  | observed hbackend => cases hbackend
  | admitted hbackend hhandoff hmark hdates =>
    rw [hasDomain_eq_false hclear (by decide)] at hhandoff
    cases hhandoff
  | passed hmark hkeeps hfresh =>
    have hfinal := runFrom_eq_of_last (d := d) hhook (by rw [hentry]; nofun) answers
    rw [hfinal, hentry, hmark]
  | queued horiginal henvelope hmark hkeeps hfresh =>
    obtain ⟨hsome, hintercepted⟩ := intercepted_of_envelope hmode henvelope
    have hpayload : d'.mark &&& APPLICATION_MARK_PAYLOAD_MASK = d.mark := by
      rw [hmark, payload_withDomain d (by decide), payload_of_clear hclear]
    obtain ⟨hattributable, answer, later, -, domain, hdomain, hrun⟩ :=
      accepted_of_queued hhook hentry hanswers haccepted
    have hconsumes : consumesVerdict snapshot p (withDomain domain d') = true := by
      rw [consumesVerdict, hintercepted hattributable, decide_eq_true hsome, hasDomain_withDomain,
        hasDomain_withDomain]
      rcases hdomain with rfl | rfl <;> decide
    have hpayload' : domain &&& APPLICATION_MARK_PAYLOAD_MASK = 0 := by
      rcases hdomain with rfl | rfl <;> decide
    rw [hrun] at haccepted ⊢
    rw [accepted_mark_repeated hhook horiginal hconsumes later haccepted,
      payload_withDomain d' hpayload', hpayload]

end Iptables

/-! ### The hooks -/

/-- The first entry of the output hook, which nothing that a process sets can pass: it clears
the private domain and may observe. -/
theorem Backend.runFrom_sanitised (backend : Backend) (snapshot : ValidSnapshot) (p : Packet)
    (d : Meta Counter) (answers : List (BitVec 16 → Meta Counter → Answer)) :
    runFrom (backend.outputHook snapshot.toSnapshot p) 0 d answers =
      runFrom (backend.outputHook snapshot.toSnapshot p) 0 (withDomain 0 d) answers := by
  obtain ⟨first, later, hhook, hfirst⟩ : ∃ first later,
      backend.outputHook snapshot.toSnapshot p = first :: later ∧
        first d = first (withDomain 0 d) := by
    by_cases hmode : snapshot.mode = .blockAll
    · obtain ⟨later, hhook, -⟩ := Backend.outputHook_blockAll snapshot p backend hmode
      exact ⟨_, _, hhook, by rw [withDomain_zero_idem]⟩
    · cases backend with
      | nftables =>
        exact ⟨_, _, Backend.outputHook_nftables snapshot p hmode,
          by rw [withDomain_zero_idem]⟩
      | iptables =>
        refine ⟨_, _, Backend.outputHook_iptables snapshot p hmode, ?_⟩
        simp only [Iptables.mangleDecision, withDomain_zero_idem]
  have hstop : advance (first :: later) 0 d = advance (first :: later) 0 (withDomain 0 d) := by
    rw [advance, advance, hfirst]
  rw [hhook]
  cases answers <;> simp only [runFrom, List.drop_zero, hstop]

theorem Backend.runFrom_first {backend : Backend} {snapshot : ValidSnapshot} {p : Packet}
    {d : Meta Counter} {answers : List (BitVec 16 → Meta Counter → Answer)}
    (hanswers : ∀ answer ∈ answers, ∀ num d, DaemonAnswer backend p num d (answer num d))
    (haccepted : (runFrom (backend.outputHook snapshot.toSnapshot p) 0 d answers).2 = .accepted) :
    snapshot.mode ≠ .blockAll ∧ ∃ d' later,
      (d' = withDomain 0 d ∨ d' = (withDomain 0 d).count .learnedOut) ∧
      (∀ answer ∈ later, ∀ num d, DaemonAnswer backend p num d (answer num d)) ∧
      runFrom (backend.outputHook snapshot.toSnapshot p) 0 d answers =
        runFrom (backend.outputHook snapshot.toSnapshot p) 1 d' later := by
  have hmode : snapshot.mode ≠ .blockAll := by
    intro hmode
    obtain ⟨later, hhook, -⟩ := Backend.outputHook_blockAll snapshot p backend hmode
    rw [hhook, runFrom_of_accept rfl rfl] at haccepted
    exact absurd haccepted (not_accepted_of_deny rfl rfl trivial)
  refine ⟨hmode, ?_⟩
  cases backend with
  | nftables =>
    rw [Backend.outputHook_nftables snapshot p hmode, runFrom_of_accept rfl rfl]
    exact ⟨_, answers, .inl rfl, hanswers, rfl⟩
  | iptables =>
    rw [Backend.outputHook_iptables snapshot p hmode] at haccepted ⊢
    rcases Iptables.mangleDecision_cases snapshot.toSnapshot p d with hfirst | hfirst
    · exact ⟨_, answers, .inl rfl, hanswers, runFrom_of_accept rfl hfirst answers⟩
    · -- the observer of learning is asked first
      obtain ⟨later, hlater, hrun⟩ := accepted_of_observed rfl hfirst hanswers haccepted
      exact ⟨_, later, .inr rfl, hlater, hrun⟩

/-- Mark hygiene: whatever mark a packet arrives with and whatever the daemon's queues answer,
the private domain that it arrives with has no effect, and an accepted packet leaves with its
mark outside the private domains. -/
theorem accepted_mark (backend : Backend) (snapshot : ValidSnapshot) (p : Packet)
    (d : Meta Counter) {answers : List (BitVec 16 → Meta Counter → Answer)}
    (hanswers : ∀ answer ∈ answers, ∀ num d, DaemonAnswer backend p num d (answer num d)) :
    ((runFrom (backend.outputHook snapshot.toSnapshot p) 0 d answers).2 = .accepted →
        (runFrom (backend.outputHook snapshot.toSnapshot p) 0 d answers).1.mark =
          d.mark &&& 0x3fffffff) ∧
      runFrom (backend.outputHook snapshot.toSnapshot p) 0 d answers =
        runFrom (backend.outputHook snapshot.toSnapshot p) 0 (withDomain 0 d) answers := by
  refine ⟨fun haccepted => ?_, backend.runFrom_sanitised snapshot p d answers⟩
  obtain ⟨hmode, d', later, hfirst, hlater, hrun⟩ := Backend.runFrom_first hanswers haccepted
  have hmark : d'.mark = (withDomain 0 d).mark := by rcases hfirst with rfl | rfl <;> rfl
  have hclear : hasDomain d' 0 = true := by
    rw [hasDomain, hmark]
    exact hasDomain_clear d
  rw [hrun] at haccepted ⊢
  refine .trans ?_ (hmark.trans (withDomain_zero_mark d))
  cases backend with
  | nftables =>
    refine Nftables.accepted_mark_policy hmode ?_ hclear hlater haccepted
    rw [Backend.outputHook_nftables snapshot p hmode]
    rfl
  | iptables =>
    refine Iptables.accepted_mark_filter hmode ?_ hclear hlater haccepted
    rw [Backend.outputHook_iptables snapshot p hmode]
    rfl

def Sample.answer (num : BitVec 16) (d : Meta Counter) : Answer :=
  if num = APPLICATION_QUEUE_NUMBER then
    daemonAnswer (buildApplicationDecisionPolicy (Sample.applicationDeny .learning).toSnapshot
      .strict) Backend.iptables.queueVerdictStrategy Sample.newPacket ⟨some 0, 0⟩
      (fun _ _ => .ok { Sample.identity with executable := ⟨"/b", Sample.accepts_b⟩ })
      (.ok none) d.mark
  else .absent

theorem Sample.answer_daemonAnswer : ∀ answer ∈ [Sample.answer], ∀ num d,
    DaemonAnswer .iptables Sample.newPacket num d (answer num d) := by
  intro answer hanswer num d
  rw [List.mem_singleton.mp hanswer, Sample.answer]
  split
  · next hnum => exact .decided hnum _ _ _ _ _ _
  · exact .absent

/-- A packet with a forged handoff mark asks the daemon like any other, and leaves without it. -/
theorem accepted_mark_sample :
    (runFrom (Backend.iptables.outputHook (Sample.applicationDeny .learning).toSnapshot
        Sample.newPacket) 0 ⟨0xdeadbeef, 0, []⟩ [Sample.answer]).2 = .accepted ∧
      (runFrom (Backend.iptables.outputHook (Sample.applicationDeny .learning).toSnapshot
        Sample.newPacket) 0 ⟨0xdeadbeef, 0, []⟩ [Sample.answer]).1.mark = 0x1eadbeef := by
  have haccepted : (runFrom (Backend.iptables.outputHook
      (Sample.applicationDeny .learning).toSnapshot Sample.newPacket) 0 ⟨0xdeadbeef, 0, []⟩
      [Sample.answer]).2 = .accepted := by decide +kernel
  exact ⟨haccepted, (accepted_mark .iptables (Sample.applicationDeny .learning) Sample.newPacket
    ⟨0xdeadbeef, 0, []⟩ Sample.answer_daemonAnswer).1 haccepted⟩

end OpenShield
