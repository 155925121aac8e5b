import OpenShield.Verdict.OutboundSafety

/-!
# What the output hook does to marks

The packet mark and the connmark are written by sanitation, by queue rules, by the handoff
between the chains and by the rules that consume the daemon's verdicts. Every decision of the
output hook falls under one of a few cases, and each case says what it does to both marks. Only
packets that the daemon authorised leave a flow mark on their connection.
-/

namespace OpenShield

open Netfilter

/-! ### Connmarks -/

def Dated (generation connmark : BitVec 32) : Prop :=
  connmark &&& APPLICATION_CONNMARK_MASK = applicationFlowMark generation

instance (generation connmark : BitVec 32) : Decidable (Dated generation connmark) :=
  inferInstanceAs (Decidable (_ = _))

/-- A change of the connmark that adds no flow mark and leaves the foreign bit alone. -/
structure Keeps (before after : BitVec 32) : Prop where
  foreign : after &&& APPLICATION_CONNMARK_FOREIGN_MASK =
    before &&& APPLICATION_CONNMARK_FOREIGN_MASK
  dated : ∀ g, Dated g after → Dated g before

/-- A change of the connmark that adds at most the flow mark of one generation. -/
structure Dates (generation before after : BitVec 32) : Prop where
  foreign : after &&& APPLICATION_CONNMARK_FOREIGN_MASK =
    before &&& APPLICATION_CONNMARK_FOREIGN_MASK
  dated : ∀ g, Dated g after →
    Dated g before ∨ applicationFlowMark g = applicationFlowMark generation

namespace Keeps

theorem refl (connmark : BitVec 32) : Keeps connmark connmark := ⟨rfl, fun _ h => h⟩

theorem trans {a b c : BitVec 32} (hab : Keeps a b) (hbc : Keeps b c) : Keeps a c :=
  ⟨hbc.foreign.trans hab.foreign, fun g h => hab.dated g (hbc.dated g h)⟩

theorem dates {a b : BitVec 32} (h : Keeps a b) (generation : BitVec 32) :
    Dates generation a b :=
  ⟨h.foreign, fun g hg => .inl (h.dated g hg)⟩

end Keeps

section Connmarks

variable {snapshot : Snapshot} {p : Packet}

theorem replaced_connmark (connmark : BitVec 32) {value : BitVec 32}
    (hvalue : value &&& ~~~APPLICATION_CONNMARK_MASK = 0) :
    (connmark &&& APPLICATION_CONNMARK_FOREIGN_MASK ||| value) &&&
        APPLICATION_CONNMARK_FOREIGN_MASK = connmark &&& APPLICATION_CONNMARK_FOREIGN_MASK ∧
      (connmark &&& APPLICATION_CONNMARK_FOREIGN_MASK ||| value) &&& APPLICATION_CONNMARK_MASK =
        value := by
  constructor
  · rw [BitVec.and_or_distrib_right, BitVec.and_assoc, BitVec.and_self, foreignMask_eq, hvalue]
    simp
  · have hown : value &&& ~~~(~~~APPLICATION_CONNMARK_MASK) = value := and_not_eq_self hvalue
    rw [foreignMask_eq, field_of_replaced]
    rwa [BitVec.not_not] at hown

theorem withConnmark_connmark (value : BitVec 32) (d : Meta Counter) :
    (withConnmark p value d).connmark = d.connmark ∨
      (withConnmark p value d).connmark =
        d.connmark &&& APPLICATION_CONNMARK_FOREIGN_MASK ||| value := by
  rw [withConnmark, Meta.setConnmark_connmark]
  split
  · exact .inr rfl
  · exact .inl rfl

@[simp]
theorem withConnmark_mark (value : BitVec 32) (d : Meta Counter) :
    (withConnmark p value d).mark = d.mark := Meta.setConnmark_mark ..

variable (d : Meta Counter)

theorem keeps_withConnmark {value : BitVec 32} (hvalue : value &&& ~~~APPLICATION_CONNMARK_MASK = 0)
    (hflow : ∀ g, applicationFlowMark g ≠ value) :
    Keeps d.connmark (withConnmark p value d).connmark := by
  rcases withConnmark_connmark (p := p) value d with h | h
  · rw [h]
    exact .refl _
  · rw [h]
    obtain ⟨hforeign, hown⟩ := replaced_connmark d.connmark hvalue
    refine ⟨hforeign, fun g hg => ?_⟩
    rw [Dated, hown] at hg
    exact absurd hg.symm (hflow g)

theorem keeps_reject (generation : BitVec 32) (d : Meta Counter) :
    Keeps d.connmark (withConnmark p (applicationRejectConnmark generation) d).connmark :=
  keeps_withConnmark d (applicationRejectConnmark_own generation)
    fun g => applicationFlowMark_ne_rejectConnmark g generation

theorem keeps_resetFlow : Keeps d.connmark (resetFlow snapshot p d).connmark := by
  unfold resetFlow
  split
  · exact keeps_withConnmark d (by simp) applicationFlowMark_ne_zero
  · exact .refl _

theorem dates_authorised :
    Dates snapshot.flowGeneration d.connmark (authorised snapshot p d).connmark := by
  show Dates _ _ (withConnmark p (applicationFlowMark snapshot.flowGeneration) d).connmark
  rcases withConnmark_connmark (p := p) (applicationFlowMark snapshot.flowGeneration) d with h | h
  · rw [h]
    exact (Keeps.refl _).dates _
  · rw [h]
    obtain ⟨hforeign, hown⟩ := replaced_connmark d.connmark
      (applicationFlowMark_own snapshot.flowGeneration)
    refine ⟨hforeign, fun g hg => .inr ?_⟩
    rw [Dated, hown] at hg
    exact hg.symm

theorem authorised_mark : (authorised snapshot p d).mark = (withDomain 0 d).mark := by
  simp [authorised, withDomain]

end Connmarks

/-! ### The policy chain -/

def consumesVerdict (snapshot : Snapshot) (p : Packet) (d : Meta Counter) : Bool :=
  decide (snapshot.applicationInterception ≠ .none) && hasDomain d APPLICATION_REJECT_DOMAIN ||
    intercepted p snapshot.applicationInterception && hasDomain d APPLICATION_HANDOFF_DOMAIN

def IsDeny : Verdict → Prop
  | .drop => True
  | .reject _ => True
  | _ => False

/-- A denied packet goes no further. -/
theorem advance_of_deny {entry : Entry Counter} {d d' : Meta Counter} {v : Verdict}
    (hentry : entry d = (d', v)) (hdeny : IsDeny v) (rest : List (Entry Counter))
    (position : ℕ) :
    ∃ outcome, outcome ≠ .accepted ∧
      advance (entry :: rest) position d = (d', .done outcome) := by
  cases v with
  | accept => exact absurd hdeny id
  | queue num bypass => exact absurd hdeny id
  | drop => exact ⟨.dropped, nofun, advance_cons_drop rest position hentry⟩
  | reject kind => exact ⟨.rejected kind, nofun, advance_cons_reject rest position hentry⟩

/-- The cases of the policy chain. -/
inductive OutputCase (backend : Backend) (snapshot : Snapshot) (p : Packet) (d : Meta Counter) :
    Meta Counter → Verdict → Prop
  | denied {d' v} (hdeny : IsDeny v) (hkeeps : Keeps d.connmark d'.connmark) :
    OutputCase backend snapshot p d d' v
  | passed {d'} (hmark : d'.mark = d.mark) (hkeeps : Keeps d.connmark d'.connmark)
    (hfresh : backend = .iptables → p.isOriginal = true → consumesVerdict snapshot p d = false) :
    OutputCase backend snapshot p d d' .accept
  | handed {d'} (hbackend : backend = .nftables)
    (hmark : d'.mark = (withDomain APPLICATION_HANDOFF_DOMAIN d).mark)
    (hkeeps : Keeps d.connmark d'.connmark) : OutputCase backend snapshot p d d' .accept
  | observed {d'} (hbackend : backend = .nftables) (hmark : d'.mark = d.mark)
    (hkeeps : Keeps d.connmark d'.connmark) :
    OutputCase backend snapshot p d d' (.queue APPLICATION_LEARNING_QUEUE_NUMBER true)
  | queued {d'} (horiginal : p.isOriginal = true)
    (henvelope : applicationEnvelope snapshot p (queuedActions snapshot.mode) = true)
    (hmark : d'.mark = (withDomain APPLICATION_PENDING_DOMAIN d).mark)
    (hkeeps : Keeps d.connmark d'.connmark)
    (hfresh : backend = .iptables → consumesVerdict snapshot p d = false) :
    OutputCase backend snapshot p d d' (.queue APPLICATION_QUEUE_NUMBER false)
  | admitted {d'} (hbackend : backend = .iptables)
    (hhandoff : hasDomain d APPLICATION_HANDOFF_DOMAIN = true)
    (hmark : d'.mark = (withDomain 0 d).mark)
    (hdates : Dates snapshot.flowGeneration d.connmark d'.connmark) :
    OutputCase backend snapshot p d d' .accept

section Cases

variable {snapshot : Snapshot} {p : Packet} {d : Meta Counter}

theorem refuse_case (backend : Backend) (r : Rule) (d : Meta Counter) :
    OutputCase backend snapshot p d (refuse snapshot p r d).1 (refuse snapshot p r d).2 := by
  unfold refuse
  split
  · exact .denied trivial (keeps_reject _ d)
  · exact .denied trivial (.refl _)

theorem withDomain_resetFlow_mark (domain : BitVec 32) (d : Meta Counter) :
    (withDomain domain (resetFlow snapshot p d)).mark = (withDomain domain d).mark := by
  simp [withDomain, resetFlow_mark]

theorem Nftables.outputDecision_case (d : Meta Counter) :
    OutputCase .nftables snapshot p d (outputDecision snapshot p d).1
      (outputDecision snapshot p d).2 := by
  have hreset : Keeps d.connmark (resetFlow snapshot p d).connmark := keeps_resetFlow d
  have hmark : (resetFlow snapshot p d).mark = d.mark := resetFlow_mark d
  have hhanded : OutputCase .nftables snapshot p d (acceptHandoff d).1 (acceptHandoff d).2 :=
    .handed rfl rfl (.refl _)
  have hcandidate : OutputCase .nftables snapshot p d
      (candidateDecision snapshot p (resetFlow snapshot p d)).1
      (candidateDecision snapshot p (resetFlow snapshot p d)).2 := by
    unfold candidateDecision
    split_ifs with hreverse hlearning hqueued hguard hlearning hshape haccept
    · exact .passed hmark hreset nofun
    · exact .handed rfl (withDomain_resetFlow_mark _ d) hreset
    · rw [Bool.and_eq_true] at hqueued
      exact .queued hqueued.1 hqueued.2 (withDomain_resetFlow_mark _ d) hreset nofun
    · exact .denied trivial hreset
    · exact .observed rfl hmark hreset
    · exact .passed hmark hreset nofun
    · exact .handed rfl (withDomain_resetFlow_mark _ d) hreset
    · exact .denied trivial hreset
  unfold outputDecision
  split
  · exact hhanded
  split
  · exact .denied trivial (.refl _)
  cases networkDeny snapshot p with
  | some r => exact refuse_case .nftables r d
  | none =>
    rw [Option.elim]
    split
    · exact hhanded
    · exact hcandidate

theorem Iptables.outputDecision_case (d : Meta Counter) :
    OutputCase .iptables snapshot p d (outputDecision snapshot p d).1
      (outputDecision snapshot p d).2 := by
  have hreset : Keeps d.connmark (resetFlow snapshot p d).connmark := keeps_resetFlow d
  have hmark : (resetFlow snapshot p d).mark = d.mark := resetFlow_mark d
  have hcandidate (hfresh : consumesVerdict snapshot p d = false) :
      OutputCase .iptables snapshot p d
        (candidateDecision snapshot p (resetFlow snapshot p d)).1
        (candidateDecision snapshot p (resetFlow snapshot p d)).2 := by
    unfold candidateDecision
    split_ifs with hreverse hqueued hguard haccept hlearning
    · exact .passed hmark hreset fun _ _ => hfresh
    · rw [Bool.and_eq_true] at hqueued
      exact .queued hqueued.1 hqueued.2 (withDomain_resetFlow_mark _ d) hreset fun _ => hfresh
    · exact .denied trivial hreset
    · exact .passed hmark hreset fun _ _ => hfresh
    · exact .passed hmark hreset fun _ _ => hfresh
    · exact .denied trivial hreset
  have hverdict : OutputCase .iptables snapshot p d (verdictDecision snapshot p d).1
      (verdictDecision snapshot p d).2 := by
    unfold verdictDecision
    split
    · exact .denied trivial (keeps_reject _ d)
    next hreject =>
    split
    · next hhandoff =>
      rw [Bool.and_eq_true] at hhandoff
      have hadmitted : (admitted snapshot p d).mark = (authorised snapshot p d).mark ∧
          (admitted snapshot p d).connmark = (authorised snapshot p d).connmark := by
        unfold admitted
        split <;> exact ⟨rfl, rfl⟩
      exact .admitted rfl hhandoff.2 (hadmitted.1.trans (authorised_mark d))
        (hadmitted.2 ▸ dates_authorised d)
    next hhandoff =>
    -- no verdict of the daemon is left to consume
    have hfresh : consumesVerdict snapshot p d = false := by
      rw [consumesVerdict, Bool.eq_false_of_not_eq_true hreject, Bool.false_or]
      cases hintercepted : intercepted p snapshot.applicationInterception with
      | false => rfl
      | true =>
        rw [hintercepted, Bool.true_or, Bool.true_and] at hhandoff
        exact Bool.eq_false_of_not_eq_true hhandoff
    split
    · exact .passed rfl (.refl _) fun _ _ => hfresh
    · exact hcandidate hfresh
  unfold outputDecision
  split
  · exact .denied trivial (.refl _)
  split
  · next hreply =>
    refine .passed rfl (.refl _) fun _ horiginal => ?_
    rw [generatedRejectReply_eq_false (not_reply_of_original horiginal).1, Bool.and_false] at hreply
    cases hreply
  cases networkDeny snapshot p with
  | some r => exact refuse_case .iptables r d
  | none => exact hverdict

end Cases

/-! ### The other entries -/

inductive AuthorizeCase (snapshot : Snapshot) (p : Packet) (d : Meta Counter) :
    Meta Counter → Verdict → Prop
  | denied {d' v} (hdeny : IsDeny v) (hkeeps : Keeps d.connmark d'.connmark) :
    AuthorizeCase snapshot p d d' v
  | admitted {d'} (hpending : hasDomain d APPLICATION_PENDING_DOMAIN = true)
    (hmark : d'.mark = (withDomain 0 d).mark)
    (hdates : Dates snapshot.flowGeneration d.connmark d'.connmark) :
    AuthorizeCase snapshot p d d' .accept
  | handed {d'} (hhandoff : hasDomain d APPLICATION_HANDOFF_DOMAIN = true)
    (hmark : d'.mark = (withDomain 0 d).mark) (hkeeps : Keeps d.connmark d'.connmark) :
    AuthorizeCase snapshot p d d' .accept
  | passed {d'} (hmark : d'.mark = d.mark) (hkeeps : Keeps d.connmark d'.connmark)
    (hreject : snapshot.applicationInterception ≠ .none →
      hasDomain d APPLICATION_REJECT_DOMAIN = false)
    (hpending : intercepted p snapshot.applicationInterception = true →
      hasDomain d APPLICATION_PENDING_DOMAIN = false)
    (hhandoff : hasDomain d APPLICATION_HANDOFF_DOMAIN = false) :
    AuthorizeCase snapshot p d d' .accept

section Others

variable {snapshot : Snapshot} {p : Packet}

theorem Nftables.authorizeDecision_case (d : Meta Counter) :
    AuthorizeCase snapshot p d (authorizeDecision snapshot p d).1
      (authorizeDecision snapshot p d).2 := by
  unfold authorizeDecision
  split
  · exact .denied trivial (keeps_reject _ d)
  next hreject =>
  split
  · next hpending =>
    rw [Bool.and_eq_true] at hpending
    refine .admitted hpending.2 ?_ ?_
    · split <;> exact authorised_mark d
    · split <;> exact dates_authorised d
  next hpending =>
  split
  · next hhandoff => exact .handed hhandoff rfl (.refl _)
  next hhandoff =>
  split
  · refine .passed rfl (.refl _) (fun hsome => ?_) (fun hpass => ?_)
      (Bool.eq_false_of_not_eq_true hhandoff)
    · rw [decide_eq_true hsome, Bool.true_and] at hreject
      exact Bool.eq_false_of_not_eq_true hreject
    · rw [hpass, Bool.true_and] at hpending
      exact Bool.eq_false_of_not_eq_true hpending
  · exact .denied trivial (.refl _)

theorem Iptables.mangleDecision_cases (snapshot : Snapshot) (p : Packet) (d : Meta Counter) :
    mangleDecision snapshot p d = (withDomain 0 d, .accept) ∨
      mangleDecision snapshot p d = ((withDomain 0 d).count .learnedOut,
        .queue APPLICATION_LEARNING_QUEUE_NUMBER true) := by
  unfold mangleDecision
  split
  · exact .inr rfl
  · exact .inl rfl

theorem inputDecision_marks (d : Meta Counter) :
    (inputDecision snapshot p d).1.mark = d.mark ∧
      (inputDecision snapshot p d).1.connmark = d.connmark := by
  unfold inputDecision
  split_ifs <;> exact ⟨rfl, rfl⟩

end Others

/-! ### Traversals -/

def Backend.resumePosition : Backend → ℕ
  | .nftables => 2
  | .iptables => 1

/-- Where a packet that enters the hook may wait: in the learning queue without a private domain,
or in the application queue. -/
def Backend.WaitsAt (backend : Backend) (mark : BitVec 32) (num : BitVec 16)
    (position : ℕ) : Prop :=
  (num = APPLICATION_LEARNING_QUEUE_NUMBER ∧ mark &&& APPLICATION_MARK_DOMAIN_MASK = 0 ∧
    position + 1 = backend.resumePosition) ∨
  (num = APPLICATION_QUEUE_NUMBER ∧ position = 1)

structure Backend.KeepsOn (backend : Backend) (d : Meta Counter) (result : Meta Counter × Stop) :
    Prop where
  keeps : Keeps d.connmark result.1.connmark
  waits : ∀ num bypass position, result.2 = .pending num bypass position →
    backend.WaitsAt result.1.mark num position

/-- What a traversal does that may consume an authorisation: the packet may wait for a decision,
and it dates its connection at most with the generation of the policy. -/
structure Resumes (generation : BitVec 32) (unauthorised : Prop) (d : Meta Counter)
    (result : Meta Counter × Stop) : Prop where
  waits : ∀ num bypass position, result.2 = .pending num bypass position →
    num = APPLICATION_QUEUE_NUMBER ∧ position = 1
  dates : Dates generation d.connmark result.1.connmark
  keeps : unauthorised → Keeps d.connmark result.1.connmark

section Traversals

variable {snapshot : Snapshot} {p : Packet} {d d' : Meta Counter} {rest : List (Entry Counter)}
  {entry : Entry Counter} {position : ℕ} {generation : BitVec 32} {unauthorised : Prop}

theorem Resumes.of_done {outcome : Outcome} (hkeeps : Keeps d.connmark d'.connmark) :
    Resumes generation unauthorised d (d', .done outcome) :=
  ⟨fun num bypass position h => (by cases h), hkeeps.dates _, fun _ => hkeeps⟩

theorem Resumes.keepsOn {result : Meta Counter × Stop} (h : Resumes generation unauthorised d result)
    (hnone : unauthorised) (backend : Backend) : backend.KeepsOn d result :=
  ⟨h.keeps hnone, fun num bypass position hstop => .inr (h.waits num bypass position hstop)⟩

variable (backend : Backend)

/-- A denied packet waits nowhere. -/
theorem Backend.KeepsOn.of_deny {v : Verdict} (hentry : entry d = (d', v)) (hdeny : IsDeny v)
    (hkeeps : Keeps d.connmark d'.connmark) :
    backend.KeepsOn d (advance (entry :: rest) position d) := by
  obtain ⟨outcome, -, hstop⟩ := advance_of_deny hentry hdeny rest position
  rw [hstop]
  exact ⟨hkeeps, fun num bypass position h => by cases h⟩

theorem Backend.KeepsOn.of_queue {num : BitVec 16} {bypass : Bool}
    (hentry : entry d = (d', .queue num bypass)) (hkeeps : Keeps d.connmark d'.connmark)
    (hwaits : backend.WaitsAt d'.mark num position) :
    backend.KeepsOn d (advance (entry :: rest) position d) := by
  rw [advance_cons_queue rest position hentry]
  exact ⟨hkeeps, fun num bypass position h => by cases h; exact hwaits⟩

theorem Backend.KeepsOn.of_accept (hentry : entry d = (d', .accept))
    (hkeeps : Keeps d.connmark d'.connmark)
    (hrest : backend.KeepsOn d' (advance rest (position + 1) d')) :
    backend.KeepsOn d (advance (entry :: rest) position d) := by
  rw [advance_cons_accept rest position hentry]
  exact ⟨hkeeps.trans hrest.keeps, hrest.waits⟩

theorem Nftables.advance_last (snapshot : Snapshot) (p : Packet) (d : Meta Counter) :
    Resumes snapshot.flowGeneration (hasDomain d APPLICATION_PENDING_DOMAIN = false) d
      (advance [authorizeDecision snapshot p] 2 d) := by
  have hcase : AuthorizeCase snapshot p d _ _ := authorizeDecision_case d
  rcases hentry : authorizeDecision snapshot p d with ⟨d', v⟩
  rw [hentry] at hcase
  cases hcase with
  | denied hdeny hkeeps =>
    obtain ⟨outcome, -, hstop⟩ := advance_of_deny hentry hdeny [] 2
    rw [hstop]
    exact .of_done hkeeps
  | admitted hpending hmark hdates =>
    rw [advance_cons_accept [] 2 hentry]
    refine ⟨fun num bypass position h => (by cases h), hdates, fun hnot => ?_⟩
    rw [hpending] at hnot
    cases hnot
  | handed hhandoff hmark hkeeps =>
    rw [advance_cons_accept [] 2 hentry]
    exact .of_done hkeeps
  | passed hmark hkeeps =>
    rw [advance_cons_accept [] 2 hentry]
    exact .of_done hkeeps

theorem Iptables.advance_filter (snapshot : Snapshot) (p : Packet) (d : Meta Counter) :
    Resumes snapshot.flowGeneration (hasDomain d APPLICATION_HANDOFF_DOMAIN = false) d
      (advance [outputDecision snapshot p] 1 d) := by
  have hcase : OutputCase .iptables snapshot p d _ _ := outputDecision_case d
  rcases hentry : outputDecision snapshot p d with ⟨d', v⟩
  rw [hentry] at hcase
  cases hcase with
  | denied hdeny hkeeps =>
    obtain ⟨outcome, -, hstop⟩ := advance_of_deny hentry hdeny [] 1
    rw [hstop]
    exact .of_done hkeeps
  | handed hbackend => cases hbackend
  | observed hbackend => cases hbackend
  | passed hmark hkeeps hfresh =>
    rw [advance_cons_accept [] 1 hentry]
    exact .of_done hkeeps
  | queued horiginal henvelope hmark hkeeps hfresh =>
    rw [advance_cons_queue [] 1 hentry]
    refine ⟨fun num bypass position h => ?_, hkeeps.dates _, fun _ => hkeeps⟩
    cases h
    exact ⟨rfl, rfl⟩
  | admitted hbackend hhandoff hmark hdates =>
    rw [advance_cons_accept [] 1 hentry]
    refine ⟨fun num bypass position h => (by cases h), hdates, fun hnot => ?_⟩
    rw [hhandoff] at hnot
    cases hnot

theorem Backend.advance_fresh (snapshot : ValidSnapshot) (p : Packet) (d : Meta Counter) :
    backend.KeepsOn d (advance (backend.outputHook snapshot.toSnapshot p) 0 d) := by
  have hclear (d' : Meta Counter) (hmark : d'.mark = (withDomain 0 d).mark) :
      hasDomain d' 0 = true := by
    rw [hasDomain, hmark]
    exact hasDomain_clear d
  by_cases hmode : snapshot.mode = .blockAll
  · obtain ⟨later, hhook, -⟩ := Backend.outputHook_blockAll snapshot p backend hmode
    rw [hhook]
    exact .of_accept backend rfl (.refl _) (.of_deny backend rfl trivial (.refl _))
  cases backend with
  | nftables =>
    rw [Backend.outputHook_nftables snapshot p hmode]
    refine .of_accept .nftables rfl (.refl _) ?_
    have hlast (d' : Meta Counter) (hnot : hasDomain d' APPLICATION_PENDING_DOMAIN = false) :=
      (Nftables.advance_last snapshot.toSnapshot p d').keepsOn hnot .nftables
    have hcase : OutputCase .nftables snapshot.toSnapshot p (withDomain 0 d) _ _ :=
      Nftables.outputDecision_case _
    rcases hentry : Nftables.outputDecision snapshot.toSnapshot p (withDomain 0 d) with ⟨d', v⟩
    rw [hentry] at hcase
    cases hcase with
    | denied hdeny hkeeps => exact .of_deny .nftables hentry hdeny hkeeps
    | passed hmark hkeeps hfresh =>
      exact .of_accept .nftables hentry hkeeps
        (hlast d' (hasDomain_eq_false (hclear d' hmark) (by decide)))
    | handed hbackend hmark hkeeps =>
      have hdomain : hasDomain d' APPLICATION_HANDOFF_DOMAIN = true := by
        rw [hasDomain, hmark]
        exact (hasDomain_withDomain _ _ _).trans (by decide)
      exact .of_accept .nftables hentry hkeeps (hlast d' (hasDomain_eq_false hdomain (by decide)))
    | observed hbackend hmark hkeeps =>
      exact .of_queue .nftables hentry hkeeps
        (.inl ⟨rfl, of_decide_eq_true (hclear d' hmark), rfl⟩)
    | queued horiginal henvelope hmark hkeeps hfresh =>
      exact .of_queue .nftables hentry hkeeps (.inr ⟨rfl, rfl⟩)
    | admitted hbackend => cases hbackend
  | iptables =>
    rw [Backend.outputHook_iptables snapshot p hmode]
    rcases Iptables.mangleDecision_cases snapshot.toSnapshot p d with hfirst | hfirst
    · have hfilter := Iptables.advance_filter snapshot.toSnapshot p (withDomain 0 d)
      exact .of_accept .iptables hfirst (.refl _)
        (hfilter.keepsOn (not_handedOff_of_clear (hasDomain_clear d)) .iptables)
    · exact .of_queue .iptables hfirst (.refl _)
        (.inl ⟨rfl, of_decide_eq_true (hasDomain_clear d), rfl⟩)

/-- A packet that a queue let pass dates its connection at most with the generation of the
policy, and only if it carries an authorisation. -/
theorem Backend.advance_resumed (snapshot : ValidSnapshot) (p : Packet) (d : Meta Counter) :
    Resumes snapshot.flowGeneration
      (snapshot.mode = .blockAll ∨ (hasDomain d APPLICATION_PENDING_DOMAIN = false ∧
        hasDomain d APPLICATION_HANDOFF_DOMAIN = false)) d
      (advance ((backend.outputHook snapshot.toSnapshot p).drop backend.resumePosition)
        backend.resumePosition d) := by
  by_cases hmode : snapshot.mode = .blockAll
  · obtain ⟨later, hhook, hlater⟩ := Backend.outputHook_blockAll snapshot p backend hmode
    -- whatever is left of the hook drops
    have hdrops : ∀ entry ∈ (backend.outputHook snapshot.toSnapshot p).drop
        backend.resumePosition, entry = fun d => (d.count .droppedOut, .drop) := by
      intro entry hentry
      rw [hhook] at hentry
      cases backend with
      | nftables => exact hlater entry hentry
      | iptables =>
        rcases List.mem_cons.mp hentry with rfl | hrest
        · rfl
        · exact hlater entry hrest
    cases hdrop : (backend.outputHook snapshot.toSnapshot p).drop backend.resumePosition with
    | nil => exact .of_done (.refl _)
    | cons entry rest =>
      have hfirst := hdrops entry (by rw [hdrop]; exact List.mem_cons_self)
      rw [hfirst, advance_cons_drop rest _ rfl]
      exact .of_done (.refl _)
  cases backend with
  | nftables =>
    rw [Backend.outputHook_nftables snapshot p hmode]
    have hlast := Nftables.advance_last snapshot.toSnapshot p d
    exact { hlast with keeps := fun hcase => hlast.keeps (hcase.resolve_left hmode).1 }
  | iptables =>
    rw [Backend.outputHook_iptables snapshot p hmode]
    have hfilter := Iptables.advance_filter snapshot.toSnapshot p d
    exact { hfilter with keeps := fun hcase => hfilter.keeps (hcase.resolve_left hmode).2 }

theorem Backend.advance_inputHook_connmark (snapshot : ValidSnapshot) (p : Packet)
    (d : Meta Counter) :
    (advance (backend.inputHook snapshot.toSnapshot p) 0 d).1.connmark = d.connmark := by
  by_cases hmode : snapshot.mode = .blockAll
  · rw [Backend.inputHook_blockAll snapshot p backend hmode]
    rfl
  · rw [Backend.inputHook_eq snapshot p backend hmode, advance_singleton_fst]
    exact (inputDecision_marks d).2

end Traversals

end OpenShield
