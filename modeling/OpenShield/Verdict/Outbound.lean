import OpenShield.Verdict.Backend

/-!
# Outbound packets that are not replies

How the output decisions of both backends treat packets that do not flow against their
connection. Fast paths for replies do not apply to them, so such a packet is decided by the
network denies, by the flow mark of an established TCP connection, or by the application
candidates.
-/

namespace OpenShield

open Netfilter

def establishedFlow (snapshot : Snapshot) (p : Packet) (connmark : BitVec 32) : Bool :=
  decide (p.l4proto = protoTcp) && decide (p.ct.bit = .established) &&
    flowMarked snapshot p connmark

def Guarded : Verdict → Prop
  | .accept => False
  | .drop => True
  | .reject _ => True
  | .queue num bypass => num = APPLICATION_QUEUE_NUMBER ∧ bypass = false

/-! ### Packets and marks -/

section Packets

variable {snapshot : Snapshot} {p : Packet}

@[simp]
theorem withDomain_connmark (domain : BitVec 32) (d : Meta Counter) :
    (withDomain domain d).connmark = d.connmark := rfl

theorem hasDomain_eq_false {d : Meta Counter} {domain other : BitVec 32}
    (h : hasDomain d domain = true) (hne : domain ≠ other) : hasDomain d other = false := by
  simp only [hasDomain, maskedEq, decide_eq_true_eq, decide_eq_false_iff_not] at h ⊢
  rw [h]
  exact hne

theorem not_rejected_of_clear {d : Meta Counter} (hclear : hasDomain d 0 = true) :
    hasDomain d APPLICATION_REJECT_DOMAIN = false := hasDomain_eq_false hclear (by decide)

theorem not_handedOff_of_clear {d : Meta Counter} (hclear : hasDomain d 0 = true) :
    hasDomain d APPLICATION_HANDOFF_DOMAIN = false := hasDomain_eq_false hclear (by decide)

@[simp]
theorem resetFlow_mark (d : Meta Counter) : (resetFlow snapshot p d).mark = d.mark := by
  unfold resetFlow withConnmark
  split <;> simp

theorem original_or_untracked_or_invalid (h : p.isReply = false) :
    p.isOriginal = true ∨ p.ct.bit = .untracked ∨ p.ct.bit = .invalid := by
  cases hct : p.ct with
  | untracked => exact .inr (.inl rfl)
  | invalid => exact .inr (.inr rfl)
  | tracked state dir dst port =>
    cases dir with
    | original => exact .inl (by simp [Packet.isOriginal, hct, Conntrack.dir?])
    | reply => simp [Packet.isReply, hct, Conntrack.dir?] at h

theorem not_reply_of_original (h : p.isOriginal = true) :
    p.isReply = false ∧ p.ct.bit ≠ .invalid ∧ p.ct.bit ≠ .untracked := by
  cases hct : p.ct with
  | untracked => simp [Packet.isOriginal, hct, Conntrack.dir?] at h
  | invalid => simp [Packet.isOriginal, hct, Conntrack.dir?] at h
  | tracked state dir dst port =>
    cases dir with
    | original => cases state <;> simp [Packet.isReply, hct, Conntrack.dir?, Conntrack.bit,
        CtState.bit]
    | reply => simp [Packet.isOriginal, hct, Conntrack.dir?] at h

theorem generatedRejectReply_eq_false (h : p.isReply = false) (connmark : BitVec 32) :
    generatedRejectReply snapshot p connmark = false := by
  simp [generatedRejectReply, h]

theorem reverseMatch_eq_false (h : p.isReply = false) (direction : Direction) :
    reverseMatch snapshot p direction = false := by
  simp [reverseMatch, selectorsMatch, establishedReply, h]

theorem establishedFlow_of_fastPath (h : p.isReply = false) {connmark : BitVec 32}
    (hfast : fastPath snapshot p .outbound connmark = true) :
    establishedFlow snapshot p connmark = true := by
  simp only [fastPath, loopbackShape, establishedReply, h, flowShape, Bool.false_and,
    Bool.and_false, Bool.false_or, Bool.and_eq_true] at hfast
  obtain ⟨hmark, ⟨-, hstate⟩, -, htcp⟩ := hfast
  simp [establishedFlow, htcp, hstate, hmark]

def denyVerdict (r : Rule) : Verdict :=
  if r.spec.action = .reject then .reject (rejectKind r.spec.protocol) else .drop

theorem guarded_refuse (r : Rule) (d : Meta Counter) : Guarded (refuse snapshot p r d).2 := by
  unfold refuse
  split <;> trivial

end Packets

/-! ### The decisions of the backends -/

section Decisions

variable {snapshot : Snapshot} {p : Packet} {d : Meta Counter}

/-- What makes a packet a candidate for the daemon: it lies in the envelope of a queued
application rule, or did so before its destination was translated. -/
def IsCandidate (snapshot : Snapshot) (p : Packet) : Prop :=
  applicationEnvelope snapshot p (queuedActions snapshot.mode) = true ∨
    (p.isOriginal = true ∧ originalGuard snapshot p (queuedActions snapshot.mode) = true)

end Decisions

/-! ### Both backends -/

namespace Backend

variable (backend : Backend)

def outputDecision (snapshot : Snapshot) (p : Packet) : Entry Counter :=
  match backend with
  | .nftables => Nftables.outputDecision snapshot p
  | .iptables => Iptables.outputDecision snapshot p

def passDecision : Entry Counter :=
  match backend with
  | .nftables => Nftables.acceptHandoff
  | .iptables => fun d => (d.count .acceptedOut, .accept)

def candidateDecision (snapshot : Snapshot) (p : Packet) : Entry Counter :=
  match backend with
  | .nftables => Nftables.candidateDecision snapshot p
  | .iptables => Iptables.candidateDecision snapshot p

def laterEntries (snapshot : Snapshot) (p : Packet) : List (Entry Counter) :=
  match backend with
  | .nftables => [Nftables.authorizeDecision snapshot p]
  | .iptables => []

theorem drop_outputHook (snapshot : ValidSnapshot) (p : Packet)
    (hmode : snapshot.mode ≠ .blockAll) :
    (backend.outputHook snapshot.toSnapshot p).drop 1 =
      backend.outputDecision snapshot.toSnapshot p ::
        backend.laterEntries snapshot.toSnapshot p := by
  cases backend with
  | nftables => rw [outputHook_nftables snapshot p hmode]; rfl
  | iptables => rw [outputHook_iptables snapshot p hmode]; rfl

variable {snapshot : Snapshot} {p : Packet} {d : Meta Counter}

/-- Both backends decide alike, up to the candidates, about packets that are no replies and come
without a verdict of the daemon. -/
theorem outputDecision_eq (backend : Backend) (hreply : p.isReply = false)
    (hclear : hasDomain d 0 = true) :
    backend.outputDecision snapshot p d =
      if snapshot.mode = .enforcing ∧ p.ct.bit = .invalid then (d.count .droppedOut, .drop)
      else (networkDeny snapshot p).elim
        (if fastPath snapshot p .outbound d.connmark then backend.passDecision d
        else backend.candidateDecision snapshot p (resetFlow snapshot p d))
        fun r => refuse snapshot p r d := by
  cases backend with
  | nftables =>
    simp [outputDecision, Nftables.outputDecision, generatedRejectReply_eq_false hreply,
      passDecision, candidateDecision]
  | iptables =>
    simp [outputDecision, Iptables.outputDecision, generatedRejectReply_eq_false hreply,
      Iptables.verdictDecision, not_rejected_of_clear hclear, not_handedOff_of_clear hclear,
      passDecision, candidateDecision]

/-- The decision about such a packet that no network rule denies and no connection carries. -/
theorem outputDecision_candidate (backend : Backend) (hreply : p.isReply = false)
    (hclear : hasDomain d 0 = true) (hvalid : p.ct.bit = .invalid → snapshot.mode ≠ .enforcing)
    (hdeny : networkDeny snapshot p = none)
    (hfast : fastPath snapshot p .outbound d.connmark = false) :
    backend.outputDecision snapshot p d =
      backend.candidateDecision snapshot p (resetFlow snapshot p d) := by
  rw [backend.outputDecision_eq hreply hclear, if_neg fun h => hvalid h.2 h.1, hdeny, Option.elim,
    hfast, if_neg Bool.false_ne_true]

/-- A candidate is denied or waits for the daemon, unless an authorised TCP connection carries
it. On the iptables backend this needs a valid conntrack classification in `learning`. -/
theorem outputDecision_guarded (backend : Backend) (hreply : p.isReply = false)
    (hcandidate : IsCandidate snapshot p)
    (hvalid : p.ct.bit = .invalid → backend = .nftables ∨ snapshot.mode = .enforcing)
    (hclear : hasDomain d 0 = true) :
    Guarded (backend.outputDecision snapshot p d).2 ∨
      (networkDeny snapshot p = none ∧ establishedFlow snapshot p d.connmark = true) := by
  rw [backend.outputDecision_eq hreply hclear]
  split
  · exact .inl trivial
  next henforcing =>
  cases hdeny : networkDeny snapshot p with
  | some r => exact .inl (guarded_refuse r d)
  | none =>
    simp only [Option.elim]
    split
    · exact .inr ⟨trivial, establishedFlow_of_fastPath hreply ‹_›⟩
    -- what cannot be queued is dropped by the guards
    left
    cases backend with
    | nftables =>
      have hguard : (applicationEnvelope snapshot p (queuedActions snapshot.mode) ||
          originalGuard snapshot p (queuedActions snapshot.mode)) = true := by
        rcases hcandidate with h | ⟨-, h⟩ <;> simp [h]
      rw [candidateDecision, Nftables.candidateDecision, reverseMatch_eq_false hreply,
        if_neg Bool.false_ne_true, if_pos hguard]
      split
      · exact ⟨rfl, rfl⟩
      · trivial
    | iptables =>
      rw [candidateDecision, Iptables.candidateDecision, reverseMatch_eq_false hreply,
        if_neg Bool.false_ne_true]
      split
      · exact ⟨rfl, rfl⟩
      next hnotQueued =>
      have hguard : (decide (p.ct.bit = .untracked) &&
          applicationEnvelope snapshot p (queuedActions snapshot.mode) ||
            p.isOriginal && originalGuard snapshot p (queuedActions snapshot.mode)) = true := by
        rcases hcandidate with henvelope | ⟨horiginal, hguard⟩
        · -- neither queued nor invalid, so untracked
          rcases original_or_untracked_or_invalid hreply with horiginal | hbit | hbit
          · simp [horiginal, henvelope] at hnotQueued
          · simp [hbit, henvelope]
          · exact absurd ⟨(hvalid hbit).resolve_left (by decide), hbit⟩ henforcing
        · simp [horiginal, hguard]
      rw [if_pos hguard]
      trivial

theorem outputDecision_queued (backend : Backend) (horiginal : p.isOriginal = true)
    (henvelope : applicationEnvelope snapshot p (queuedActions snapshot.mode) = true)
    (hdeny : networkDeny snapshot p = none)
    (hflow : establishedFlow snapshot p d.connmark = false) (hclear : hasDomain d 0 = true) :
    backend.outputDecision snapshot p d =
      (withDomain APPLICATION_PENDING_DOMAIN (resetFlow snapshot p d),
        .queue APPLICATION_QUEUE_NUMBER false) := by
  obtain ⟨hreply, hinvalid, -⟩ := not_reply_of_original horiginal
  have hfast : fastPath snapshot p .outbound d.connmark = false := by
    by_contra h
    simp [establishedFlow_of_fastPath hreply (Bool.eq_true_of_not_eq_false h)] at hflow
  rw [backend.outputDecision_candidate hreply hclear (fun h => absurd h hinvalid) hdeny hfast]
  cases backend <;> simp [candidateDecision, Nftables.candidateDecision,
    Iptables.candidateDecision, reverseMatch_eq_false hreply, horiginal, henvelope]

/-- A network deny decides, except about invalid packets in `enforcing`, which are dropped
before. -/
theorem outputDecision_denied (backend : Backend) {r : Rule}
    (hreply : generatedRejectReply snapshot p d.connmark = false)
    (hdeny : networkDeny snapshot p = some r) :
    (backend.outputDecision snapshot p d).2 =
      if snapshot.mode = .enforcing ∧ p.ct.bit = .invalid then .drop
      else denyVerdict r := by
  have hrefuse : (refuse snapshot p r d).2 = denyVerdict r := by
    unfold refuse denyVerdict
    split <;> rfl
  cases backend with
  | nftables =>
    show (Nftables.outputDecision snapshot p d).2 = _
    unfold Nftables.outputDecision
    rw [hreply, Bool.and_false, if_neg Bool.false_ne_true, hdeny, Option.elim, ← hrefuse]
    split_ifs <;> simp_all
  | iptables =>
    show (Iptables.outputDecision snapshot p d).2 = _
    unfold Iptables.outputDecision
    rw [hreply, Bool.and_false, if_neg Bool.false_ne_true, hdeny, Option.elim, ← hrefuse]
    split_ifs <;> simp_all

end Backend

/-! ### Resuming a queued packet -/

/-- The action that an outcome amounts to; a packet that still waits has none. -/
def outcomeAction : Outcome → Option RuleAction
  | .accepted => some .accept
  | .dropped => some .drop
  | .rejected _ => some .reject
  | .queued _ => none

theorem setMark_applicationRejectMark (d : Meta Counter) :
    d.setMark (applicationRejectMark d.mark) = withDomain APPLICATION_REJECT_DOMAIN d := by
  rw [applicationRejectMark, BitVec.or_comm]
  rfl

theorem setMark_applicationHandoffMark (d : Meta Counter) :
    d.setMark (applicationHandoffMark d.mark) = withDomain APPLICATION_HANDOFF_DOMAIN d := by
  rw [applicationHandoffMark, BitVec.or_comm]
  rfl

/-! ### Which packets a policy attributes -/

def NeedsAttribution (r : Rule) : Prop :=
  r.spec.enabled = true ∧ r.spec.direction = .outbound ∧ r.spec.application.isSome = true

theorem classifyEnforcing_of_mem {rules : List Rule} (start : ApplicationInterception) {r : Rule}
    (hr : r ∈ rules) (hneeds : NeedsAttribution r) :
    classifyEnforcing start rules ≠ .none ∧
      (r.spec.protocol ≠ .tcp → classifyEnforcing start rules = .perPacket) := by
  -- once a path was found, the scan never loses it
  have hkeep : ∀ (rest : List Rule) (found : ApplicationInterception), found ≠ .none →
      classifyEnforcing found rest ≠ .none := by
    intro rest
    induction rest with
    | nil => exact fun _ hfound => hfound
    | cons other rest ih =>
      intro found hfound
      rw [classifyEnforcing]
      split
      · exact ih found hfound
      · split
        · exact ih _ (by decide)
        all_goals decide
  induction rules generalizing start with
  | nil => cases hr
  | cons other rest ih =>
    obtain ⟨henabled, hdirection, happlication⟩ := hneeds
    rcases List.mem_cons.mp hr with rfl | hmem
    · have hskip : (!r.spec.enabled || decide (r.spec.direction ≠ .outbound) ||
          r.spec.application.isNone) = false := by
        cases happ : r.spec.application with
        | none => simp [happ] at happlication
        | some selector => simp [henabled, hdirection]
      rw [classifyEnforcing, hskip, if_neg Bool.false_ne_true]
      cases hprotocol : r.spec.protocol with
      | tcp => exact ⟨hkeep rest _ (by decide), fun h => absurd rfl h⟩
      | _ => exact ⟨ApplicationInterception.noConfusion, fun _ => rfl⟩
    · have hrest := fun found => ih found hmem
      rw [classifyEnforcing]
      split
      · exact hrest start
      · split
        · exact hrest _
        all_goals exact ⟨by decide, fun _ => rfl⟩

theorem intercepted_of_envelope {snapshot : Snapshot} {p : Packet}
    (hmode : snapshot.mode ≠ .blockAll)
    (henvelope : applicationEnvelope snapshot p (queuedActions snapshot.mode) = true) :
    snapshot.applicationInterception ≠ .none ∧
      (attributable p = true → intercepted p snapshot.applicationInterception = true) := by
  obtain ⟨r, hr, hmatch⟩ := List.any_eq_true.mp henvelope
  simp only [isApplicationRule, Bool.and_eq_true, decide_eq_true_eq] at hmatch
  obtain ⟨⟨⟨⟨henabled, hdirection⟩, happlication⟩, -⟩, hselectors⟩ := hmatch
  cases hcase : snapshot.mode with
  | blockAll => exact absurd hcase hmode
  | learning =>
    simp [Snapshot.applicationInterception, classifyApplicationInterception, hcase, intercepted]
  | enforcing =>
    have hinterception : snapshot.applicationInterception =
        classifyEnforcing .none snapshot.rules := by
      simp [Snapshot.applicationInterception, classifyApplicationInterception, hcase]
    obtain ⟨hsome, hpacket⟩ :=
      classifyEnforcing_of_mem .none hr ⟨henabled, hdirection, happlication⟩
    rw [hinterception]
    refine ⟨hsome, fun hattributable => ?_⟩
    by_cases hprotocol : r.spec.protocol = .tcp
    · -- a TCP envelope holds TCP packets, which every path intercepts
      have htcp : p.l4proto = protoTcp := by
        simp only [envelope, selectorsMatch, hprotocol, protocolMatches, Bool.and_eq_true,
          decide_eq_true_eq] at hselectors
        exact hselectors.1.2
      cases hpath : classifyEnforcing .none snapshot.rules with
      | none => exact absurd hpath hsome
      | tcpInitial => simp [intercepted, htcp]
      | perPacket => exact hattributable
    · rw [hpacket hprotocol]
      exact hattributable

section Resume

variable {snapshot : Snapshot} {p : Packet} {d : Meta Counter}

theorem Nftables.authorizeDecision_handoff (snapshot : Snapshot) (p : Packet) (d : Meta Counter) :
    Nftables.authorizeDecision snapshot p (Nftables.acceptHandoff d).1 =
      (withDomain 0 (Nftables.acceptHandoff d).1, .accept) := by
  have hhandoff : hasDomain (Nftables.acceptHandoff d).1 APPLICATION_HANDOFF_DOMAIN = true := by
    show hasDomain (withDomain APPLICATION_HANDOFF_DOMAIN d) _ = true
    rw [hasDomain_withDomain]
    decide
  simp [Nftables.authorizeDecision, hhandoff,
    hasDomain_eq_false hhandoff (show _ ≠ APPLICATION_REJECT_DOMAIN by decide),
    hasDomain_eq_false hhandoff (show _ ≠ APPLICATION_PENDING_DOMAIN by decide)]

theorem Nftables.authorizeDecision_refused (hsome : snapshot.applicationInterception ≠ .none) :
    (Nftables.authorizeDecision snapshot p (withDomain APPLICATION_REJECT_DOMAIN d)).2 =
      refusedVerdict p := by
  simp [Nftables.authorizeDecision, hsome, hasDomain_withDomain,
    show APPLICATION_REJECT_DOMAIN &&& APPLICATION_MARK_DOMAIN_MASK = APPLICATION_REJECT_DOMAIN
      by decide]

theorem Nftables.authorizeDecision_authorised
    (hpass : intercepted p snapshot.applicationInterception = true ∨ snapshot.mode = .learning)
    (hpending : hasDomain d APPLICATION_PENDING_DOMAIN = true) :
    (Nftables.authorizeDecision snapshot p d).2 = .accept := by
  unfold Nftables.authorizeDecision
  rw [hasDomain_eq_false hpending (show _ ≠ APPLICATION_REJECT_DOMAIN by decide),
    hasDomain_eq_false hpending (show _ ≠ APPLICATION_HANDOFF_DOMAIN by decide), hpending]
  rcases hpass with hpass | hpass
  · simp [hpass]
  · simp only [hpass, Bool.and_false, Bool.and_true, Bool.false_eq_true, if_false, if_true]
    split <;> rfl

theorem Iptables.outputDecision_repeated (horiginal : p.isOriginal = true)
    (hdeny : networkDeny snapshot p = none) :
    Iptables.outputDecision snapshot p d = Iptables.verdictDecision snapshot p d := by
  obtain ⟨hreply, hinvalid, -⟩ := not_reply_of_original horiginal
  simp [Iptables.outputDecision, hinvalid, generatedRejectReply_eq_false hreply, hdeny]

theorem Iptables.verdictDecision_refused (hsome : snapshot.applicationInterception ≠ .none) :
    (Iptables.verdictDecision snapshot p (withDomain APPLICATION_REJECT_DOMAIN d)).2 =
      refusedVerdict p := by
  simp [Iptables.verdictDecision, hsome, hasDomain_withDomain,
    show APPLICATION_REJECT_DOMAIN &&& APPLICATION_MARK_DOMAIN_MASK = APPLICATION_REJECT_DOMAIN
      by decide]

theorem Iptables.verdictDecision_authorised
    (hpass : intercepted p snapshot.applicationInterception = true ∨ snapshot.mode = .learning) :
    (Iptables.verdictDecision snapshot p (withDomain APPLICATION_HANDOFF_DOMAIN d)).2 =
      .accept := by
  have hhandoff : hasDomain (withDomain APPLICATION_HANDOFF_DOMAIN d)
      APPLICATION_HANDOFF_DOMAIN = true := by
    rw [hasDomain_withDomain]
    decide
  unfold Iptables.verdictDecision
  rw [hasDomain_eq_false hhandoff (show _ ≠ APPLICATION_REJECT_DOMAIN by decide), hhandoff]
  rcases hpass with hpass | hpass <;> simp [hpass]

end Resume

theorem Backend.runFrom_of_verdict (backend : Backend) {snapshot : ValidSnapshot} {p : Packet}
    {d d' : Meta Counter} (hmode : snapshot.mode ≠ .blockAll) (horiginal : p.isOriginal = true)
    (hdeny : networkDeny snapshot.toSnapshot p = none)
    (hsome : snapshot.applicationInterception ≠ .none)
    (hpending : hasDomain d' APPLICATION_PENDING_DOMAIN = true)
    (hadvance : advance (backend.outputHook snapshot.toSnapshot p) 0 d =
      (d', .pending APPLICATION_QUEUE_NUMBER false 1))
    {answer : BitVec 16 → Meta Counter → Answer} {action : RuleAction}
    (hpass : action = .accept →
      intercepted p snapshot.applicationInterception = true ∨ snapshot.mode = .learning)
    (hanswer : answer APPLICATION_QUEUE_NUMBER d' = .verdict
      (authorizationVerdict action backend.queueVerdictStrategy d'.mark).1
      (authorizationVerdict action backend.queueVerdictStrategy d'.mark).2)
    (answers : List (BitVec 16 → Meta Counter → Answer)) :
    outcomeAction (runFrom (backend.outputHook snapshot.toSnapshot p) 0 d
      (answer :: answers)).2 = some action := by
  have hpolicy := backend.drop_outputHook snapshot p hmode
  have hrefused : ∀ num bypass, refusedVerdict p ≠ .queue num bypass := by
    intro num bypass h
    cases h
  cases backend with
  | nftables =>
    -- the packet goes on behind the chain that queued it
    have hlast : (Backend.nftables.outputHook snapshot.toSnapshot p).drop 2 =
        [Nftables.authorizeDecision snapshot.toSnapshot p] := congrArg (List.drop 1) hpolicy
    cases action with
    | drop => simp [runFrom, hadvance, hanswer, authorizationVerdict, outcomeAction]
    | reject =>
      have hverdict := Nftables.authorizeDecision_refused (d := d') (p := p) hsome
      simp only [runFrom, List.drop_zero, hadvance, hanswer, authorizationVerdict,
        queueVerdictStrategy, Meta.withVerdictMark, setMark_applicationRejectMark]
      rw [runFrom_of_last hlast (by rwa [hverdict]), hverdict]
      rfl
    | accept =>
      have hverdict := Nftables.authorizeDecision_authorised (hpass rfl) hpending
      simp only [runFrom, List.drop_zero, hadvance, hanswer, authorizationVerdict,
        queueVerdictStrategy, Meta.withVerdictMark]
      rw [runFrom_of_last hlast (by simp [hverdict]), hverdict]
      rfl
  | iptables =>
    -- the packet runs the chain that queued it again
    have hlast : (Backend.iptables.outputHook snapshot.toSnapshot p).drop 1 =
        [Iptables.outputDecision snapshot.toSnapshot p] := hpolicy
    cases action with
    | drop => simp [runFrom, hadvance, hanswer, authorizationVerdict, outcomeAction]
    | reject =>
      have hverdict := Iptables.verdictDecision_refused (d := d') (p := p) hsome
      rw [← Iptables.outputDecision_repeated horiginal hdeny] at hverdict
      simp only [runFrom, List.drop_zero, hadvance, hanswer, authorizationVerdict,
        queueVerdictStrategy, Meta.withVerdictMark, setMark_applicationRejectMark]
      rw [runFrom_of_last hlast (by rwa [hverdict]), hverdict]
      rfl
    | accept =>
      have hverdict := Iptables.verdictDecision_authorised (d := d') (hpass rfl)
      rw [← Iptables.outputDecision_repeated horiginal hdeny] at hverdict
      simp only [runFrom, List.drop_zero, hadvance, hanswer, authorizationVerdict,
        queueVerdictStrategy, Meta.withVerdictMark, setMark_applicationHandoffMark]
      rw [runFrom_of_last hlast (by simp [hverdict]), hverdict]
      rfl

end OpenShield
