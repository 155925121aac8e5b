import OpenShield.Verdict.Outbound

/-!
# Safety of the output hook

Three properties of every packet that leaves the host, on both backends and for every valid
policy: network denies win over everything else, application envelopes cannot be bypassed in
`enforcing`, and explicit application denies stay fail-closed in `learning`. The last one has
a gap on the iptables backend, which the theorem describes exactly.
-/

namespace OpenShield

open Netfilter

def GuardedStop : Stop → Prop
  | .done .dropped => True
  | .done (.rejected _) => True
  | .done _ => False
  | .pending num bypass _ => num = APPLICATION_QUEUE_NUMBER ∧ bypass = false

theorem guardedStop_of_guarded {entry : Entry Counter} {d : Meta Counter}
    (rest : List (Entry Counter)) (position : ℕ) (h : Guarded (entry d).2) :
    GuardedStop (advance (entry :: rest) position d).2 := by
  rcases hentry : entry d with ⟨d', v⟩
  rw [hentry] at h
  cases v with
  | accept => exact absurd h id
  | drop =>
    rw [advance_cons_drop rest position hentry]
    trivial
  | reject kind =>
    rw [advance_cons_reject rest position hentry]
    trivial
  | queue num bypass =>
    rw [advance_cons_queue rest position hentry]
    exact h

/-! ### What the first table lets through -/

section Mangle

variable {snapshot : Snapshot} {p : Packet}

theorem mangleDecision_eq_accept (d : Meta Counter)
    (h : snapshot.mode = .learning → p.isOriginal = true →
      Iptables.denyEnvelope snapshot p = true) :
    Iptables.mangleDecision snapshot p d = (withDomain 0 d, .accept) := by
  unfold Iptables.mangleDecision
  cases horiginal : p.isOriginal with
  | false => simp [Iptables.learningShape, horiginal]
  | true =>
    by_cases hmode : snapshot.mode = .learning
    · simp [h hmode horiginal]
    · simp [hmode]

theorem denyEnvelope_of_networkMatch {action : RuleAction}
    (haction : action = .drop ∨ action = .reject)
    (h : networkMatch snapshot p .outbound action = true) :
    Iptables.denyEnvelope snapshot p = true := by
  obtain ⟨r, hr, hmatch⟩ := List.any_eq_true.mp h
  simp only [networkRuleMatches, Bool.and_eq_true, decide_eq_true_eq] at hmatch
  obtain ⟨⟨⟨⟨henabled, hdirection⟩, -⟩, heq⟩, hselectors⟩ := hmatch
  refine List.any_eq_true.mpr ⟨r, hr, ?_⟩
  simp [henabled, hdirection, heq, haction, envelope, hselectors]

theorem denyEnvelope_of_applicationEnvelope
    (h : applicationEnvelope snapshot p [.drop, .reject] = true) :
    Iptables.denyEnvelope snapshot p = true := by
  obtain ⟨r, hr, hmatch⟩ := List.any_eq_true.mp h
  simp only [isApplicationRule, Bool.and_eq_true, decide_eq_true_eq, List.mem_cons,
    List.not_mem_nil, or_false] at hmatch
  obtain ⟨⟨⟨⟨henabled, hdirection⟩, -⟩, haction⟩, henvelope⟩ := hmatch
  refine List.any_eq_true.mpr ⟨r, hr, ?_⟩
  simp [henabled, hdirection, haction, henvelope]

end Mangle

theorem hasDomain_clear (d : Meta Counter) : hasDomain (withDomain 0 d) 0 = true := by
  rw [hasDomain_withDomain]
  decide

/-- A packet that no earlier table queues reaches the policy chain with a clear mark. -/
theorem Backend.advance_outputHook (backend : Backend) (snapshot : ValidSnapshot) (p : Packet)
    (d : Meta Counter) (hmode : snapshot.mode ≠ .blockAll)
    (hpass : snapshot.mode = .learning → p.isOriginal = true →
      Iptables.denyEnvelope snapshot.toSnapshot p = true) :
    advance (backend.outputHook snapshot.toSnapshot p) 0 d =
      advance (backend.outputDecision snapshot.toSnapshot p ::
        backend.laterEntries snapshot.toSnapshot p) 1 (withDomain 0 d) := by
  cases backend with
  | nftables =>
    rw [Backend.outputHook_nftables snapshot p hmode]
    exact advance_cons_accept _ 0 rfl
  | iptables =>
    rw [Backend.outputHook_iptables snapshot p hmode]
    exact advance_cons_accept _ 0 (mangleDecision_eq_accept d hpass)

/-! ### Network denies -/

section NetworkDeny

variable (backend : Backend) (snapshot : ValidSnapshot) (p : Packet) (d : Meta Counter)

/-- What becomes of a packet that a network rule denies: the deny is carried out, unless the
packet is invalid and dropped before. -/
theorem outcome_of_networkDeny (hmode : snapshot.mode ≠ .blockAll)
    (hreply : generatedRejectReply snapshot.toSnapshot p d.connmark = false) {r : Rule}
    (hdeny : networkDeny snapshot.toSnapshot p = some r)
    (answers : List (BitVec 16 → Meta Counter → Answer)) :
    (runFrom (backend.outputHook snapshot.toSnapshot p) 0 d answers).2 =
      if snapshot.mode = .enforcing ∧ p.ct.bit = .invalid then .dropped
      else (denyVerdict r).outcome := by
  -- a denied packet is not observed before the policy chain
  have hpass : snapshot.mode = .learning → p.isOriginal = true →
      Iptables.denyEnvelope snapshot.toSnapshot p = true := by
    intro _ _
    obtain ⟨hr, hmatch, -⟩ := networkDeny_eq_some hdeny
    simp only [networkDenies, Bool.or_eq_true] at hmatch
    rcases hmatch with h | h
    · exact denyEnvelope_of_networkMatch (.inl rfl) (List.any_eq_true.mpr ⟨r, hr, h⟩)
    · exact denyEnvelope_of_networkMatch (.inr rfl) (List.any_eq_true.mpr ⟨r, hr, h⟩)
  have hadvance := backend.advance_outputHook snapshot p d hmode hpass
  have hverdict := backend.outputDecision_denied (d := withDomain 0 d) hreply hdeny
  rcases hentry : backend.outputDecision snapshot.toSnapshot p (withDomain 0 d) with ⟨d', v⟩
  rw [hentry] at hverdict
  have hdropped (hv : v = .drop) :
      (runFrom (backend.outputHook snapshot.toSnapshot p) 0 d answers).2 = .dropped := by
    subst hv
    rw [advance_cons_drop _ 1 hentry] at hadvance
    rw [runFrom_zero_of_done hadvance]
  unfold denyVerdict at hverdict ⊢
  split_ifs at hverdict ⊢ with hinvalid haction
  · exact hdropped hverdict
  · cases hverdict
    rw [advance_cons_reject _ 1 hentry] at hadvance
    rw [runFrom_zero_of_done hadvance]
    rfl
  · exact hdropped hverdict

end NetworkDeny

/-! ### Application envelopes in `enforcing` -/

theorem direction_of_application {spec : RuleSpec} (hvalid : spec.validate = .ok ())
    (happlication : spec.application.isSome = true) : spec.direction = .outbound := by
  by_contra hdirection
  have hinbound : spec.direction = .inbound := by
    cases h : spec.direction with
    | inbound => rfl
    | outbound => exact absurd h hdirection
  have hcheck : spec.direction = .inbound ∧ spec.application ≠ none :=
    ⟨hinbound, Option.isSome_iff_ne_none.mp happlication⟩
  unfold RuleSpec.validate at hvalid
  split_ifs at hvalid

/-- Application envelopes cannot be bypassed in `enforcing`: a packet that is not a reply and
lies in the envelope of an application rule, or did so before its destination was translated,
is denied or waits in the fail-closed queue. The exception is an established TCP connection
with the current flow mark that no network rule denies. -/
theorem enforcing_envelope_guarded (backend : Backend) (snapshot : ValidSnapshot)
    (hmode : snapshot.mode = .enforcing) (p : Packet) (d : Meta Counter)
    (hreply : p.isReply = false) {r : Rule} (hr : r ∈ snapshot.rules)
    (henabled : r.spec.enabled = true) (happlication : r.spec.application.isSome = true)
    (henvelope : envelope p r.spec = true ∨ (p.isOriginal = true ∧
      (r.spec.peerNetwork ≠ none ∨ r.spec.port ≠ none) ∧ originalEnvelope p r.spec = true)) :
    GuardedStop (advance (backend.outputHook snapshot.toSnapshot p) 0 d).2 ∨
      (establishedFlow snapshot.toSnapshot p d.connmark = true ∧
        networkMatch snapshot.toSnapshot p .outbound .drop = false ∧
        networkMatch snapshot.toSnapshot p .outbound .reject = false) := by
  have hdirection := direction_of_application (snapshot.rule_valid hr).spec happlication
  have hrule : isApplicationRule (queuedActions snapshot.mode) r = true := by
    cases haction : r.spec.action <;>
      simp [isApplicationRule, henabled, hdirection, happlication, haction, queuedActions, hmode]
  have hcandidate : IsCandidate snapshot.toSnapshot p := by
    rcases henvelope with h | ⟨horiginal, hselects, h⟩
    · exact .inl (List.any_eq_true.mpr ⟨r, hr, by simp [hrule, h]⟩)
    · refine .inr ⟨horiginal, List.any_eq_true.mpr ⟨r, hr, ?_⟩⟩
      have hdestination : selectsDestination r.spec = true := by
        rcases hselects with h | h <;>
          simp [selectsDestination, Option.isSome_iff_ne_none.mpr h]
      simp [hrule, hdestination, h]
  have hadvance := backend.advance_outputHook snapshot p d (by simp [hmode]) (by simp [hmode])
  have hclear := hasDomain_clear d
  rw [hadvance]
  rcases backend.outputDecision_guarded hreply hcandidate (fun _ => .inr hmode) hclear with
    hguarded | ⟨hdeny, hflow⟩
  · exact .inl (guardedStop_of_guarded _ 1 hguarded)
  · exact .inr ⟨hflow, (networkDeny_eq_none_iff _ _).mp hdeny⟩

/-- The first packet of a connection waits for the daemon or is denied. -/
theorem enforcing_envelope_guarded_sample :
    GuardedStop (advance (Backend.iptables.outputHook
        (Sample.applicationDeny .enforcing).toSnapshot Sample.newPacket) 0 ⟨0, 0, []⟩).2 :=
  (enforcing_envelope_guarded .iptables (Sample.applicationDeny .enforcing) rfl Sample.newPacket
    ⟨0, 0, []⟩ (by decide +kernel) (List.mem_singleton.mpr rfl) rfl rfl
    (.inl (by decide +kernel))).resolve_right fun h => absurd h.1 (by decide +kernel)

/-! ### Application denies in `learning` -/

/-- An answer of the application queue that does not authorise the packet: no consumer, or the
verdict of a decision other than accept. -/
def Backend.Refuses (backend : Backend) (d : Meta Counter) (answer : Answer) : Prop :=
  answer = .absent ∨ ∃ action, action ≠ RuleAction.accept ∧
    answer = .verdict (authorizationVerdict action backend.queueVerdictStrategy d.mark).1
      (authorizationVerdict action backend.queueVerdictStrategy d.mark).2

section Learning

variable {snapshot : ValidSnapshot} {p : Packet} {d : Meta Counter}

theorem fastPath_eq_false_of_noEntry (snapshot : Snapshot) (connmark : BitVec 32)
    (hbit : p.ct.bit = .untracked ∨ p.ct.bit = .invalid) :
    fastPath snapshot p .outbound connmark = false := by
  have htracked : p.ct.isTracked = false := by
    cases hct : p.ct with
    | untracked => rfl
    | invalid => rfl
    | tracked state dir dst port => cases state <;> simp [hct, Conntrack.bit, CtState.bit] at hbit
  simp [fastPath, flowMarked, htracked]

theorem noEntry_directions (hbit : p.ct.bit = .untracked ∨ p.ct.bit = .invalid) :
    p.isReply = false ∧ p.isOriginal = false := by
  cases hct : p.ct with
  | untracked => simp [Packet.isReply, Packet.isOriginal, hct, Conntrack.dir?]
  | invalid => simp [Packet.isReply, Packet.isOriginal, hct, Conntrack.dir?]
  | tracked state dir dst port => cases state <;> simp [hct, Conntrack.bit, CtState.bit] at hbit

theorem outputDecision_noEntry (backend : Backend) {snapshot : Snapshot}
    (henvelope : applicationEnvelope snapshot p (queuedActions snapshot.mode) = true)
    (hbit : p.ct.bit = .untracked ∨ (p.ct.bit = .invalid ∧ backend = .nftables))
    (hdeny : networkDeny snapshot p = none) (hclear : hasDomain d 0 = true) :
    (backend.outputDecision snapshot p d).2 = .drop := by
  have hnone : p.ct.bit = .untracked ∨ p.ct.bit = .invalid := hbit.imp_right And.left
  obtain ⟨hreply, horiginal⟩ := noEntry_directions hnone
  have hfast := fastPath_eq_false_of_noEntry snapshot d.connmark hnone
  rw [backend.outputDecision_eq hreply hclear, hdeny, hfast]
  split
  · rfl
  cases backend with
  | nftables =>
    simp [Backend.candidateDecision, Nftables.candidateDecision, reverseMatch_eq_false hreply,
      horiginal, henvelope]
  | iptables =>
    have huntracked : p.ct.bit = .untracked := hbit.resolve_right fun h => by cases h.2
    simp [Backend.candidateDecision, Iptables.candidateDecision, reverseMatch_eq_false hreply,
      horiginal, henvelope, huntracked]

theorem outcome_of_refused (backend : Backend) (hmode : snapshot.mode = .learning)
    (horiginal : p.isOriginal = true)
    (hdeny : networkDeny snapshot.toSnapshot p = none) {d' : Meta Counter}
    (hpending : hasDomain d' APPLICATION_PENDING_DOMAIN = true)
    (hadvance : advance (backend.outputHook snapshot.toSnapshot p) 0 d =
      (d', .pending APPLICATION_QUEUE_NUMBER false 1))
    {answers : List (BitVec 16 → Meta Counter → Answer)}
    (hrefuses : ∀ answer ∈ answers, ∀ d, backend.Refuses d (answer APPLICATION_QUEUE_NUMBER d)) :
    (runFrom (backend.outputHook snapshot.toSnapshot p) 0 d answers).2 ≠ .accepted := by
  have hsome : snapshot.applicationInterception ≠ .none := by
    simp [Snapshot.applicationInterception, classifyApplicationInterception, hmode]
  cases answers with
  | nil => simp [runFrom, hadvance]
  | cons answer answers =>
    rcases hrefuses answer List.mem_cons_self d' with habsent | ⟨action, haction, hanswer⟩
    · simp [runFrom, hadvance, habsent]
    · have hcarried := backend.runFrom_of_verdict (by simp [hmode]) horiginal hdeny hsome hpending
        hadvance (fun h => absurd h haction) hanswer answers
      intro haccepted
      rw [haccepted] at hcarried
      exact haction (Option.some.inj hcarried).symm

/-- The catch-all accept of `learning` decides about invalid packets on the iptables backend:
no rule before it concerns them. -/
theorem Iptables.outputDecision_invalid {snapshot : Snapshot} (hmode : snapshot.mode = .learning)
    (hinvalid : p.ct.bit = .invalid) (hdeny : networkDeny snapshot p = none)
    (hclear : hasDomain d 0 = true) : (Iptables.outputDecision snapshot p d).2 = .accept := by
  obtain ⟨hreply, horiginal⟩ := noEntry_directions (.inr hinvalid)
  have hfast := fastPath_eq_false_of_noEntry snapshot d.connmark (.inr hinvalid)
  have hentry := Backend.iptables.outputDecision_candidate hreply hclear (by simp [hmode]) hdeny hfast
  rw [Backend.outputDecision] at hentry
  simp [hentry, Backend.candidateDecision, Iptables.candidateDecision,
    reverseMatch_eq_false hreply, horiginal, hinvalid, hmode]

/-- An invalid packet that no network rule denies passes the iptables backend in `learning`. -/
theorem Iptables.outcome_of_invalid (hmode : snapshot.mode = .learning)
    (hinvalid : p.ct.bit = .invalid) (hdeny : networkDeny snapshot.toSnapshot p = none)
    (answers : List (BitVec 16 → Meta Counter → Answer)) :
    (runFrom (Backend.iptables.outputHook snapshot.toSnapshot p) 0 d answers).2 = .accepted := by
  obtain ⟨-, horiginal⟩ := noEntry_directions (.inr hinvalid)
  have hadvance := Backend.iptables.advance_outputHook snapshot p d (by simp [hmode])
    (by simp [horiginal])
  have hverdict := Iptables.outputDecision_invalid hmode hinvalid hdeny (hasDomain_clear d)
  rcases hentry : Iptables.outputDecision snapshot.toSnapshot p (withDomain 0 d) with ⟨d', v⟩
  rw [hentry] at hverdict
  cases hverdict
  rw [Backend.outputDecision, Backend.laterEntries, advance_cons_accept _ 1 hentry,
    advance_nil] at hadvance
  rw [runFrom_zero_of_done hadvance]

/-- Application denies in `learning`: a packet in the envelope of an application deny never
passes without an accepting verdict, except that the iptables backend lets invalid packets
pass, because its guards only catch untracked ones. -/
theorem learning_deny_failClosed_iff (backend : Backend) (snapshot : ValidSnapshot)
    (hmode : snapshot.mode = .learning) (p : Packet) (d : Meta Counter)
    (hreply : p.isReply = false) {r : Rule} (hr : r ∈ snapshot.rules)
    (henabled : r.spec.enabled = true) (happlication : r.spec.application.isSome = true)
    (haction : r.spec.action = .drop ∨ r.spec.action = .reject)
    (henvelope : envelope p r.spec = true)
    (hflow : establishedFlow snapshot.toSnapshot p d.connmark = false) :
    (∀ answers : List (BitVec 16 → Meta Counter → Answer),
        (∀ answer ∈ answers, ∀ d, backend.Refuses d (answer APPLICATION_QUEUE_NUMBER d)) →
          (runFrom (backend.outputHook snapshot.toSnapshot p) 0 d answers).2 ≠ .accepted) ↔
      backend = .nftables ∨ p.ct.bit ≠ .invalid ∨
        networkMatch snapshot.toSnapshot p .outbound .drop = true ∨
        networkMatch snapshot.toSnapshot p .outbound .reject = true := by
  have hdirection := direction_of_application (snapshot.rule_valid hr).spec happlication
  have hdenied : applicationEnvelope snapshot.toSnapshot p [.drop, .reject] = true :=
    List.any_eq_true.mpr ⟨r, hr, by
      simp [isApplicationRule, henabled, hdirection, happlication, haction, henvelope]⟩
  have hqueued : applicationEnvelope snapshot.toSnapshot p (queuedActions snapshot.mode) = true :=
    by rw [hmode]; exact hdenied
  have hadvance := backend.advance_outputHook snapshot p d (by simp [hmode])
    fun _ _ => denyEnvelope_of_applicationEnvelope hdenied
  have hclear := hasDomain_clear d
  cases hdeny : networkDeny snapshot.toSnapshot p with
  | some rule =>
    -- a network deny decides on both sides
    have hside : networkMatch snapshot.toSnapshot p .outbound .drop = true ∨
        networkMatch snapshot.toSnapshot p .outbound .reject = true := by
      by_contra hnone
      simp only [not_or, Bool.not_eq_true] at hnone
      simp [(networkDeny_eq_none_iff _ _).mpr hnone] at hdeny
    refine ⟨fun _ => .inr (.inr hside), fun _ answers _ => ?_⟩
    rw [outcome_of_networkDeny backend snapshot p d (by simp [hmode])
      (generatedRejectReply_eq_false hreply _) hdeny answers]
    unfold denyVerdict
    split_ifs <;> simp [Verdict.outcome]
  | none =>
    obtain ⟨hdrop, hreject⟩ := (networkDeny_eq_none_iff _ _).mp hdeny
    simp only [hdrop, hreject, Bool.false_eq_true, or_false]
    refine ⟨fun hclosed => ?_, fun hguarded answers hrefuses => ?_⟩
    · -- the gap: an invalid packet passes although no queue was asked
      by_contra hgap
      simp only [not_or, not_not] at hgap
      cases backend with
      | nftables => exact hgap.1 rfl
      | iptables => exact hclosed [] (by simp) (Iptables.outcome_of_invalid hmode hgap.2 hdeny [])
    · rcases original_or_untracked_or_invalid hreply with horiginal | hnoEntry
      · have hwaits := backend.outputDecision_queued (d := withDomain 0 d) horiginal hqueued hdeny
          hflow hclear
        rw [advance_cons_queue _ 1 hwaits] at hadvance
        refine outcome_of_refused backend hmode horiginal hdeny ?_ hadvance hrefuses
        rw [hasDomain_withDomain]
        decide
      · have hbit : p.ct.bit = .untracked ∨ (p.ct.bit = .invalid ∧ backend = .nftables) := by
          rcases hnoEntry with h | h
          · exact .inl h
          · exact .inr ⟨h, hguarded.resolve_right fun hne => hne h⟩
        have hverdict := outputDecision_noEntry backend hqueued hbit hdeny hclear
        rcases hentry : backend.outputDecision snapshot.toSnapshot p (withDomain 0 d) with ⟨d', v⟩
        rw [hentry] at hverdict
        cases hverdict
        rw [advance_cons_drop _ 1 hentry] at hadvance
        simp [runFrom_zero_of_done hadvance]

/-- The daemon decides about the first packet of a connection to a denied application. -/
theorem learning_deny_failClosed_sample :
    (runFrom (Backend.iptables.outputHook (Sample.applicationDeny .learning).toSnapshot
      Sample.newPacket) 0 ⟨0, 0, []⟩ []).2 ≠ .accepted :=
  (learning_deny_failClosed_iff .iptables (Sample.applicationDeny .learning) rfl
    Sample.newPacket ⟨0, 0, []⟩ (by decide +kernel) (List.mem_singleton.mpr rfl) rfl rfl
    (.inl rfl) (by decide +kernel) (by decide +kernel)).mpr (.inr (.inl (by decide))) []
    (List.forall_mem_nil _)

/-- The gap: with an application drop rule for TCP, the iptables backend accepts an invalid TCP
packet without asking any queue, while the nftables backend drops it. -/
theorem learning_deny_open_invalid :
    envelope Sample.invalidPacket (Sample.rule .outbound .drop (some Sample.selector)).spec = true ∧
      Sample.invalidPacket.isReply = false ∧
      establishedFlow (Sample.applicationDeny .learning).toSnapshot Sample.invalidPacket 0 =
        false ∧
      (runFrom (Backend.iptables.outputHook (Sample.applicationDeny .learning).toSnapshot
        Sample.invalidPacket) 0 ⟨0, 0, []⟩ []).2 = .accepted ∧
      (runFrom (Backend.nftables.outputHook (Sample.applicationDeny .learning).toSnapshot
        Sample.invalidPacket) 0 ⟨0, 0, []⟩ []).2 = .dropped := by
  decide +kernel

end Learning

end OpenShield
