import OpenShield.Daemon.Installed
import OpenShield.Daemon.Packets
import OpenShield.Verdict.Effects

/-!
# Where flow marks come from

A connection is authorised by the flow mark in its conntrack entry, and the mark names the
generation of the policy that authorised it. The host below puts everything together that can
write such a mark: packets that traverse the compiled policy, the queues they wait in, the daemon
that answers, and the engine that replaces policies meanwhile.

A verdict of the application queue is sent under the engine lock, and the kernel resumes the
packet before the call returns. It does so under the policy that is installed then, which is that
of the state, or blocks everything. All other traversals leave no flow mark, whatever policy they
find: packets may arrive in the middle of a transaction that is going to be rolled back.
-/

namespace OpenShield

open Netfilter

/-! ### The host -/

structure Flow where
  packet : Packet
  attributes : QueueAttributes
  connection : ℕ

/-- A packet that waits in a queue. -/
structure Held extends Flow where
  mark : BitVec 32
  position : ℕ

/-- An accepting verdict about a packet of a connection. -/
structure Grant where
  connection : ℕ
  returned : Returned

structure Host where
  system : PacketSystem
  /-- The connmark of each connection. -/
  conntrack : ℕ → BitVec 32
  /-- The application queue. -/
  waiting : BitVec 32 → Option Held
  /-- The learning queue. -/
  observed : BitVec 32 → Option Held
  /-- The accepting verdicts so far. -/
  granted : List Grant

structure QueueIds where
  application : BitVec 32
  learning : BitVec 32

/-- What happens on the host. The policy that a packet finds is arbitrary, except when the daemon
answers: transactions replace policies at any time. -/
inductive HostAction
  | engine (action : Action)
  | capture (ids : List (BitVec 32))
  | decide (id : BitVec 32) (resolved : Except String ApplicationIdentity)
      (observe : Except String (Option String))
  | stop
  /-- A packet enters the output hook. -/
  | send (policy : ValidSnapshot) (ids : QueueIds) (flow : Flow) (mark : BitVec 32)
  /-- A packet enters the input hook, for the first time or again. -/
  | receive (policy : ValidSnapshot) (packet : Packet) (connection : ℕ) (mark : BitVec 32)
  /-- The learning queue lets a packet pass, or has no consumer. -/
  | observe (policy : ValidSnapshot) (id : BitVec 32) (ids : QueueIds)
  /-- The daemon sends its verdict about a packet of the application queue. -/
  | answer (id : BitVec 32) (ids : QueueIds)
  | discard (ids : QueueIds)
  | track (connection : ℕ) (foreign : BitVec 32)
  | setForeign (connection : ℕ) (foreign : BitVec 32)

namespace Host

def start (runtime : Runtime) (conntrack : ℕ → BitVec 32) : Host :=
  ⟨PacketSystem.start runtime, conntrack, fun _ => none, fun _ => none, []⟩

variable (json : Serializer) (backend : Backend)

def enqueue (host : Host) (id : BitVec 32) (held : Held) :
    Host :=
  match host.waiting id, host.system.work id with
  | none, none =>
    { host with
      waiting := Function.update host.waiting id (some held)
      system := host.system.step json backend.queueVerdictStrategy
        (.enqueue id (parseQueuedPacket held.packet held.attributes held.mark)) }
  -- identifiers of packets in flight are not reused
  | _, _ => host

def traverse (policy : Snapshot) (host : Host)
    (ids : QueueIds) (flow : Flow) (position : ℕ) (mark : BitVec 32) : Host :=
  let result := advance ((backend.outputHook policy flow.packet).drop position) position
    ⟨mark, host.conntrack flow.connection, []⟩
  let host :=
    { host with conntrack := Function.update host.conntrack flow.connection result.1.connmark }
  match result.2 with
  | .done _ => host
  | .pending num _ position =>
    if num = APPLICATION_QUEUE_NUMBER then
      host.enqueue json backend ids.application ⟨flow, result.1.mark, position⟩
    else
      { host with
        observed := Function.update host.observed ids.learning
          (some ⟨flow, result.1.mark, position⟩) }

/-- Send the daemon's verdict about a packet; the kernel resumes it under the installed policy. -/
def answer (host : Host) (id : BitVec 32)
    (ids : QueueIds) : Host :=
  let policy := host.system.runtime.world.kernel
  let system := host.system.step json backend.queueVerdictStrategy (.answer id)
  match host.waiting id, host.system.returning backend.queueVerdictStrategy id with
  | some held, some returned =>
    let host :=
      { host with
        system
        waiting := Function.update host.waiting id none
        granted :=
          if returned.verdict.accepted then host.granted ++ [⟨held.connection, returned⟩]
          else host.granted }
    let mark := returned.verdict.mark.getD held.mark
    match returned.verdict.verdict with
    | .accept => host.traverse json backend policy ids held.toFlow (held.position + 1) mark
    | .repeat => host.traverse json backend policy ids held.toFlow held.position mark
    | .drop => host
  | _, _ => { host with system }

def step (host : Host) : HostAction → Host
  | .engine action =>
    { host with system := host.system.step json backend.queueVerdictStrategy (.engine action) }
  | .capture ids =>
    { host with system := host.system.step json backend.queueVerdictStrategy (.capture ids) }
  | .decide id resolved observe =>
    { host with system :=
        host.system.step json backend.queueVerdictStrategy (.decide id resolved observe) }
  | .stop => { host with system := host.system.step json backend.queueVerdictStrategy .stop }
  | .send policy ids flow mark => host.traverse json backend policy.toSnapshot ids flow 0 mark
  | .receive policy packet connection mark =>
    let result := advance (backend.inputHook policy.toSnapshot packet) 0
      ⟨mark, host.conntrack connection, []⟩
    { host with conntrack := Function.update host.conntrack connection result.1.connmark }
  | .observe policy id ids =>
    match host.observed id with
    | some held =>
      { host with observed := Function.update host.observed id none }.traverse json backend
        policy.toSnapshot ids held.toFlow (held.position + 1) held.mark
    | none => host
  | .answer id ids => host.answer json backend id ids
  | .discard ids =>
    { host with
      waiting := Function.update host.waiting ids.application none
      observed := Function.update host.observed ids.learning none }
  | .track connection foreign =>
    { host with
      conntrack := Function.update host.conntrack connection
        (foreign &&& APPLICATION_CONNMARK_FOREIGN_MASK) }
  | .setForeign connection foreign =>
    { host with
      conntrack := Function.update host.conntrack connection
        (host.conntrack connection &&& APPLICATION_CONNMARK_MASK |||
          foreign &&& APPLICATION_CONNMARK_FOREIGN_MASK) }

def run (host : Host) (actions : List HostAction) : Host :=
  actions.foldl (step json backend) host

end Host

/-! ### Verdicts and marks -/

section Verdicts

variable {decision : Except DecisionError PacketAuthorization}
  {current : Except String (Mode × BitVec 32)} {stopping : Bool} {backend : Backend}

/-- A verdict that lets the packet go on resumes it where its backend expects it, and hands it a
refusing mark unless it accepts. -/
theorem returnPacketVerdict_resumes {v : PacketVerdict}
    (h : v = returnPacketVerdict decision current stopping backend.queueVerdictStrategy) :
    v.verdict = .drop ∨
      ((v.verdict = .accept ∧ backend = .nftables ∨ v.verdict = .repeat ∧ backend = .iptables) ∧
        (v.accepted = false → ∃ mark, v.mark = some (applicationRejectMark mark))) := by
  unfold returnPacketVerdict at h
  cases decision with
  | error error =>
    subst h
    exact .inl rfl
  | ok authorization =>
    cases current with
    | error message =>
      subst h
      exact .inl rfl
    | ok identity =>
      simp only at h
      split at h
      · subst h
        cases haction : authorization.action <;> cases backend <;>
          simp [authorizationVerdict, Backend.queueVerdictStrategy]
      · subst h
        exact .inl rfl

theorem rejectMark_domains (mark connmark : BitVec 32) (log : List Counter) :
    hasDomain ⟨applicationRejectMark mark, connmark, log⟩ APPLICATION_PENDING_DOMAIN = false ∧
      hasDomain ⟨applicationRejectMark mark, connmark, log⟩ APPLICATION_HANDOFF_DOMAIN = false := by
  have hreject : hasDomain ⟨applicationRejectMark mark, connmark, log⟩
      APPLICATION_REJECT_DOMAIN = true := by
    have hmark := setMark_applicationRejectMark ⟨mark, connmark, log⟩
    have hdomain := hasDomain_withDomain ⟨mark, connmark, log⟩ APPLICATION_REJECT_DOMAIN
      APPLICATION_REJECT_DOMAIN
    rw [← hmark] at hdomain
    exact hdomain.trans (by decide)
  exact ⟨hasDomain_eq_false hreject (by decide), hasDomain_eq_false hreject (by decide)⟩

end Verdicts

theorem foreign_and_own (foreign : BitVec 32) :
    foreign &&& APPLICATION_CONNMARK_FOREIGN_MASK &&& APPLICATION_CONNMARK_MASK = 0 := by
  have hdisjoint : APPLICATION_CONNMARK_FOREIGN_MASK &&& APPLICATION_CONNMARK_MASK = 0 := by decide
  rw [BitVec.and_assoc, hdisjoint]
  simp

theorem outputHook_of_compilesAs (backend : Backend) {k s : ValidSnapshot}
    (h : k.toSnapshot.CompilesAs s.toSnapshot) (p : Packet) :
    backend.outputHook k.toSnapshot p = backend.outputHook s.toSnapshot p := by
  cases backend with
  | nftables =>
    have hpolicy := h.1
    rw [Backend.compile_nftables, Backend.compile_nftables, Except.ok.injEq] at hpolicy
    rw [Backend.outputHook, hpolicy]
    rfl
  | iptables =>
    have hpolicy := h.2
    rw [Backend.compile_iptables, Backend.compile_iptables, Except.ok.injEq] at hpolicy
    rw [Backend.outputHook, hpolicy]
    rfl

/-! ### The invariant -/

def Grant.Covers (grant : Grant) (connection : ℕ) (generation : BitVec 32) : Prop :=
  grant.connection = connection ∧ grant.returned.engine.state.flowGeneration = generation

namespace Host

def Explained (initial : ℕ → BitVec 32) (granted : List Grant) (connection : ℕ)
    (connmark : BitVec 32) : Prop :=
  ∀ g, g ≤ MAX_FLOW_GENERATION → Dated g connmark →
    Dated g (initial connection) ∨ ∃ grant ∈ granted, grant.Covers connection g

/-- The invariant of runs, from the first table and the first generation on. -/
structure Sound (json : Serializer) (backend : Backend) (initial : ℕ → BitVec 32)
    (first : BitVec 32) (host : Host) : Prop where
  system : host.system.Sound json
  compiled : host.system.runtime.Compiled
  waiting : ∀ id held, host.waiting id = some held → held.position = 1
  observed : ∀ id held, host.observed id = some held →
    held.mark &&& APPLICATION_MARK_DOMAIN_MASK = 0 ∧ held.position + 1 = backend.resumePosition
  granted : ∀ grant ∈ host.granted, grant.returned ∈ host.system.returned ∧
    grant.returned.verdict.accepted = true ∧ (host.system.runtime.engine.poisoned = false →
      grant.returned.engine.state.flowGeneration ≤ host.system.runtime.engine.state.flowGeneration)
  marks : ∀ connection, Explained initial host.granted connection (host.conntrack connection)
  first : host.system.runtime.engine.poisoned = false →
    first ≤ host.system.runtime.engine.state.flowGeneration

variable {json : Serializer} {backend : Backend} {initial : ℕ → BitVec 32} {first : BitVec 32}
  {host : Host}

theorem Explained.keeps {granted : List Grant} {connection : ℕ} {before after : BitVec 32}
    (h : Explained initial granted connection before) (hkeeps : Keeps before after) :
    Explained initial granted connection after :=
  fun g hg hdated => h g hg (hkeeps.dated g hdated)

theorem forall_update_some {P : Held → Prop} {queue : BitVec 32 → Option Held}
    (h : ∀ id held, queue id = some held → P held) (id : BitVec 32) {entry : Option Held}
    (hentry : ∀ held, entry = some held → P held) :
    ∀ other held, Function.update queue id entry other = some held → P held :=
  (Function.forall_update_iff queue fun _ entry => ∀ held, entry = some held → P held).mpr
    ⟨hentry, fun other _ => h other⟩

theorem Sound.mark (h : host.Sound json backend initial first) (connection : ℕ)
    {connmark : BitVec 32} (hmark : Explained initial host.granted connection connmark) :
    Sound json backend initial first
      { host with conntrack := Function.update host.conntrack connection connmark } :=
  { h with
    marks := (Function.forall_update_iff _ (Explained initial host.granted)).mpr
      ⟨hmark, fun other _ => h.marks other⟩ }

theorem generation_le_of_progress {rt rt' : Runtime} (hprogress : rt.Progress json rt')
    (hhealthy : rt'.engine.poisoned = false) :
    rt.engine.state.flowGeneration ≤ rt'.engine.state.flowGeneration := by
  cases hprogress.move with
  | stay published state =>
    rcases state with hpoisoned | hsame
    · rw [hpoisoned] at hhealthy
      cases hhealthy
    · rw [hsame]
      exact BitVec.le_refl _
  | change healthy published changes learned => exact changes.follows.generation

theorem Sound.daemon (h : host.Sound json backend initial first) {system : PacketSystem}
    (hsystem : system.Sound json)
    (hadvances : host.system.runtime.Advances json system.runtime)
    (hreturned : ∀ entry ∈ host.system.returned, entry ∈ system.returned) :
    Sound json backend initial first { host with system } := by
  have hbefore := hadvances.2.healthy
  refine ⟨hsystem, hadvances.compiled h.system.runtime h.compiled, h.waiting, h.observed,
    fun grant hgrant => ?_, h.marks, fun hhealthy => ?_⟩
  · obtain ⟨hmem, haccepted, hle⟩ := h.granted grant hgrant
    exact ⟨hreturned _ hmem, haccepted, fun hhealthy => BitVec.le_trans (hle (hbefore hhealthy))
      (generation_le_of_progress hadvances.2 hhealthy)⟩
  · exact BitVec.le_trans (h.first (hbefore hhealthy))
      (generation_le_of_progress hadvances.2 hhealthy)

theorem Sound.step_daemon (h : host.Sound json backend initial first) (action : PacketAction) :
    Sound json backend initial first
      { host with system := host.system.step json backend.queueVerdictStrategy action } :=
  h.daemon (PacketSystem.step_sound h.system action) (PacketSystem.step_advances h.system action)
    (PacketSystem.returned_step action)

theorem Sound.enqueue (h : host.Sound json backend initial first) (id : BitVec 32) {held : Held}
    (hheld : held.position = 1) :
    (host.enqueue json backend id held).Sound json backend initial first := by
  unfold Host.enqueue
  split
  · have hstep :=
      h.step_daemon (.enqueue id (parseQueuedPacket held.packet held.attributes held.mark))
    have hwaiting := forall_update_some h.waiting id fun w hw => Option.some.inj hw ▸ hheld
    exact { hstep with waiting := hwaiting }
  · exact h

theorem Sound.traverse (h : host.Sound json backend initial first) {policy : Snapshot}
    (ids : QueueIds) {flow : Flow} {position : ℕ} {mark : BitVec 32}
    (hmark : Explained initial host.granted flow.connection
      (advance ((backend.outputHook policy flow.packet).drop position) position
        ⟨mark, host.conntrack flow.connection, []⟩).1.connmark)
    (hwaits : ∀ num bypass position',
      (advance ((backend.outputHook policy flow.packet).drop position) position
        ⟨mark, host.conntrack flow.connection, []⟩).2 = .pending num bypass position' →
      backend.WaitsAt (advance ((backend.outputHook policy flow.packet).drop position) position
        ⟨mark, host.conntrack flow.connection, []⟩).1.mark num position') :
    (host.traverse json backend policy ids flow position mark).Sound json backend initial
      first := by
  have hmarked := h.mark flow.connection hmark
  unfold Host.traverse
  simp only
  split
  · exact hmarked
  · next num bypass position' hstop =>
    rcases hwaits num bypass position' hstop with ⟨hnum, hclear, hposition⟩ | ⟨hnum, hposition⟩
    · rw [if_neg (by rw [hnum]; decide)]
      refine { hmarked with observed := forall_update_some h.observed ids.learning fun held hheld => ?_ }
      cases hheld
      exact ⟨hclear, hposition⟩
    · rw [if_pos hnum]
      exact hmarked.enqueue ids.application hposition

theorem Sound.traverse_kept (h : host.Sound json backend initial first) {policy : Snapshot}
    (ids : QueueIds) {flow : Flow} {position : ℕ} {mark : BitVec 32}
    (hkeeps : backend.KeepsOn ⟨mark, host.conntrack flow.connection, []⟩
      (advance ((backend.outputHook policy flow.packet).drop position) position
        ⟨mark, host.conntrack flow.connection, []⟩)) :
    (host.traverse json backend policy ids flow position mark).Sound json backend initial first :=
  h.traverse ids ((h.marks flow.connection).keeps hkeeps.keeps) hkeeps.waits

theorem Explained.mono {granted granted' : List Grant} {connection : ℕ} {connmark : BitVec 32}
    (h : Explained initial granted connection connmark)
    (hsubset : ∀ grant ∈ granted, grant ∈ granted') :
    Explained initial granted' connection connmark := by
  intro g hg hdated
  refine (h g hg hdated).imp_right fun hgrant => ?_
  obtain ⟨grant, hmem, hcovers⟩ := hgrant
  exact ⟨grant, hsubset grant hmem, hcovers⟩

theorem healthy_of_accepted {sys : PacketSystem} {strategy : QueueVerdictStrategy}
    {id : BitVec 32} {returned : Returned} (h : sys.returning strategy id = some returned)
    (haccepted : returned.verdict.accepted = true) : sys.runtime.engine.poisoned = false := by
  rw [(PacketSystem.engine_returning h).2] at haccepted
  obtain ⟨authorization, -, hidentity, -⟩ := returnPacketVerdict_accepted haccepted
  exact (applicationDecisionIdentity_eq_ok hidentity).1

theorem Sound.forgetWaiting (h : host.Sound json backend initial first) (id : BitVec 32) :
    Sound json backend initial first
      { host with waiting := Function.update host.waiting id none } :=
  { h with waiting := forall_update_some h.waiting id fun _ hnone => by cases hnone }

theorem Sound.forgetObserved (h : host.Sound json backend initial first) (id : BitVec 32) :
    Sound json backend initial first
      { host with observed := Function.update host.observed id none } :=
  { h with observed := forall_update_some h.observed id fun _ hnone => by cases hnone }

theorem Sound.returned (h : host.Sound json backend initial first) {id : BitVec 32}
    {returned : Returned} (held : Held)
    (hreturning : host.system.returning backend.queueVerdictStrategy id = some returned) :
    Sound json backend initial first
      { host with
        system := host.system.step json backend.queueVerdictStrategy (.answer id)
        waiting := Function.update host.waiting id none
        granted :=
          if returned.verdict.accepted then host.granted ++ [⟨held.connection, returned⟩]
          else host.granted } := by
  obtain ⟨hsystem, hcompiled, hwaiting, hobserved, hgranted, hmarks, hfirst⟩ :=
    h.step_daemon (.answer id)
  refine ⟨hsystem, hcompiled, (h.forgetWaiting id).waiting, hobserved, fun grant hgrant => ?_,
    fun connection => (hmarks connection).mono fun grant hgrant => ?_, hfirst⟩
  · simp only at hgrant
    split at hgrant
    · next haccepted =>
      rcases List.mem_append.mp hgrant with hold | hnew
      · exact hgranted grant hold
      · rw [List.mem_singleton.mp hnew]
        refine ⟨?_, haccepted, fun hhealthy => ?_⟩
        · show returned ∈ (host.system.step json backend.queueVerdictStrategy (.answer id)).returned
          rw [PacketSystem.returned_answer hreturning]
          exact List.mem_append_right _ (List.mem_singleton.mpr rfl)
        · rw [(PacketSystem.engine_returning hreturning).1]
          exact generation_le_of_progress (PacketSystem.step_advances h.system (.answer id)).2
            hhealthy
    · exact hgranted grant hgrant
  · simp only
    split
    · exact List.mem_append_left _ hgrant
    · exact hgrant

theorem Sound.explained_resumed (h : host.Sound json backend initial first) {id : BitVec 32}
    {returned : Returned} (held : Held)
    (hreturning : host.system.returning backend.queueVerdictStrategy id = some returned)
    (hreject : returned.verdict.accepted = false →
      ∃ mark, returned.verdict.mark = some (applicationRejectMark mark)) :
    Explained initial
      (if returned.verdict.accepted then host.granted ++ [⟨held.connection, returned⟩]
        else host.granted) held.connection
      (advance ((backend.outputHook host.system.runtime.world.kernel held.packet).drop
        backend.resumePosition) backend.resumePosition
        ⟨returned.verdict.mark.getD held.mark, host.conntrack held.connection, []⟩).1.connmark := by
  have hold := h.marks held.connection
  obtain ⟨kernel, hkernel⟩ : ∃ kernel : ValidSnapshot,
      kernel.toSnapshot = host.system.runtime.world.kernel := ⟨⟨_, h.compiled.valid⟩, rfl⟩
  rw [← hkernel]
  obtain ⟨-, -, hkeeps⟩ := backend.advance_resumed kernel held.packet
    ⟨returned.verdict.mark.getD held.mark, host.conntrack held.connection, []⟩
  cases haccepted : returned.verdict.accepted with
  | false =>
    obtain ⟨mark, hmark⟩ := hreject haccepted
    rw [hmark, Option.getD_some] at hkeeps ⊢
    exact hold.keeps (hkeeps (.inr (rejectMark_domains mark _ _)))
  | true =>
    have hmore := hold.mono fun grant hgrant =>
      List.mem_append_left [⟨held.connection, returned⟩] hgrant
    rw [if_pos rfl]
    rcases h.compiled.healthy (healthy_of_accepted hreturning haccepted) with hcompiles | hblock
    · -- the installed policy is that of the state that the verdict was returned under
      have hstate := h.system.runtime.consistent.wellFormed
      have hsame : backend.outputHook kernel.toSnapshot held.packet =
          backend.outputHook hstate.validSnapshot.toSnapshot held.packet :=
        outputHook_of_compilesAs backend (hkernel ▸ hcompiles) held.packet
      rw [hsame]
      obtain ⟨-, hdates, -⟩ := backend.advance_resumed hstate.validSnapshot held.packet
        ⟨returned.verdict.mark.getD held.mark, host.conntrack held.connection, []⟩
      intro g hg hdated
      rcases hdates.dated g hdated with hbefore | hflow
      · exact hmore g hg hbefore
      · have hgeneration := applicationFlowMark_injective hg
          (le_of_validFlowGeneration hstate.validSnapshot.validFlowGeneration) hflow
        refine .inr ⟨_, List.mem_append_right _ (List.mem_singleton.mpr rfl), rfl, ?_⟩
        rw [(PacketSystem.engine_returning hreturning).1, hgeneration]
        rfl
    · exact hmore.keeps (hkeeps (.inl (by rw [hkernel]; exact hblock)))

theorem Sound.answer (h : host.Sound json backend initial first) (id : BitVec 32)
    (ids : QueueIds) : (host.answer json backend id ids).Sound json backend initial first := by
  unfold Host.answer
  simp only
  split
  · next held returned hwaiting hreturning =>
    have hrecorded := h.returned held hreturning
    have hposition := h.waiting id held hwaiting
    rcases returnPacketVerdict_resumes (PacketSystem.engine_returning hreturning).2 with
      hdrop | ⟨hside, hreject⟩
    · rw [hdrop]
      exact hrecorded
    have hexplained := h.explained_resumed held hreturning hreject
    have hwaits := (backend.advance_resumed ⟨_, h.compiled.valid⟩ held.packet
      ⟨returned.verdict.mark.getD held.mark, host.conntrack held.connection, []⟩).1
    rcases hside with ⟨hverdict, rfl⟩ | ⟨hverdict, rfl⟩
    · rw [hverdict, hposition]
      exact hrecorded.traverse ids hexplained fun num bypass position hstop =>
        .inr (hwaits num bypass position hstop)
    · rw [hverdict, hposition]
      exact hrecorded.traverse ids hexplained fun num bypass position hstop =>
        .inr (hwaits num bypass position hstop)
  · exact h.step_daemon (.answer id)

theorem step_sound (h : host.Sound json backend initial first) (action : HostAction) :
    (host.step json backend action).Sound json backend initial first := by
  cases action with
  | engine action => exact h.step_daemon (.engine action)
  | capture ids => exact h.step_daemon (.capture ids)
  | decide id resolved observe => exact h.step_daemon (.decide id resolved observe)
  | stop => exact h.step_daemon .stop
  | send policy ids flow mark =>
    exact h.traverse_kept ids (backend.advance_fresh policy flow.packet _)
  | receive policy packet connection mark =>
    refine h.mark connection ?_
    rw [backend.advance_inputHook_connmark policy packet]
    exact h.marks connection
  | observe policy id ids =>
    simp only [step]
    split
    · next held hobserved =>
      obtain ⟨hclear, hposition⟩ := h.observed id held hobserved
      have hdomain : hasDomain ⟨held.mark, host.conntrack held.connection, []⟩ 0 = true :=
        decide_eq_true hclear
      have hresumed := backend.advance_resumed policy held.packet
        ⟨held.mark, host.conntrack held.connection, []⟩
      rw [hposition]
      refine (h.forgetObserved id).traverse_kept ids (hresumed.keepsOn (.inr ⟨?_, ?_⟩) backend)
      · exact hasDomain_eq_false hdomain (by decide)
      · exact hasDomain_eq_false hdomain (by decide)
    · exact h
  | answer id ids => exact h.answer id ids
  | discard ids => exact (h.forgetObserved ids.learning).forgetWaiting ids.application
  | track connection foreign =>
    refine h.mark connection fun g hg hdated => ?_
    rw [Dated, foreign_and_own] at hdated
    exact absurd hdated.symm (applicationFlowMark_ne_zero g)
  | setForeign connection foreign =>
    refine h.mark connection fun g hg hdated => h.marks connection g hg ?_
    -- the flow mark lies in the part that other programs do not write
    have hown : (host.conntrack connection &&& APPLICATION_CONNMARK_MASK |||
        foreign &&& APPLICATION_CONNMARK_FOREIGN_MASK) &&& APPLICATION_CONNMARK_MASK =
          host.conntrack connection &&& APPLICATION_CONNMARK_MASK := by
      rw [BitVec.and_or_distrib_right, foreign_and_own, BitVec.and_assoc, BitVec.and_self]
      simp
    rwa [Dated, hown] at hdated

theorem run_sound (h : host.Sound json backend initial first) (actions : List HostAction) :
    (host.run json backend actions).Sound json backend initial first := by
  induction actions generalizing host with
  | nil => exact h
  | cons action rest ih => exact ih (step_sound h action)

theorem start_sound {rt : Runtime} (h : rt.Reachable json) (conntrack : ℕ → BitVec 32) :
    (start rt conntrack).Sound json backend conntrack rt.engine.state.flowGeneration :=
  { system := PacketSystem.start_sound h.sound
    compiled := h.compiled
    waiting := fun id held hheld => by cases hheld
    observed := fun id held hheld => by cases hheld
    granted := fun grant hgrant => absurd hgrant List.not_mem_nil
    marks := fun connection g _ hdated => .inl hdated
    first := fun _ => BitVec.le_refl _ }

/-! ### The foreign bit -/

theorem traverse_conntrack (policy : Snapshot) (ids : QueueIds) (flow : Flow) (position : ℕ)
    (mark : BitVec 32) :
    (host.traverse json backend policy ids flow position mark).conntrack =
      Function.update host.conntrack flow.connection
        (advance ((backend.outputHook policy flow.packet).drop position) position
          ⟨mark, host.conntrack flow.connection, []⟩).1.connmark := by
  unfold Host.traverse Host.enqueue
  simp only
  split
  · rfl
  · split
    · split <;> rfl
    · rfl

theorem foreign_traverse {before : ℕ → BitVec 32} (hbefore : host.conntrack = before)
    {policy : Snapshot} {ids : QueueIds} {flow : Flow} {position : ℕ} {mark : BitVec 32}
    (h : (advance ((backend.outputHook policy flow.packet).drop position) position
        ⟨mark, before flow.connection, []⟩).1.connmark &&& APPLICATION_CONNMARK_FOREIGN_MASK =
      before flow.connection &&& APPLICATION_CONNMARK_FOREIGN_MASK) (connection : ℕ) :
    (host.traverse json backend policy ids flow position mark).conntrack connection &&&
        APPLICATION_CONNMARK_FOREIGN_MASK =
      before connection &&& APPLICATION_CONNMARK_FOREIGN_MASK := by
  subst hbefore
  rw [traverse_conntrack]
  by_cases heq : connection = flow.connection
  · subst heq
    rw [Function.update_self]
    exact h
  · rw [Function.update_of_ne heq]

end Host

def HostAction.isOwn : HostAction → Bool
  | .track _ _ => false
  | .setForeign _ _ => false
  | _ => true

namespace Host

variable {json : Serializer} {backend : Backend} {initial : ℕ → BitVec 32} {first : BitVec 32}
  {host : Host}

theorem foreign_step (h : host.Sound json backend initial first) {action : HostAction}
    (hown : action.isOwn = true) (connection : ℕ) :
    (host.step json backend action).conntrack connection &&& APPLICATION_CONNMARK_FOREIGN_MASK =
      host.conntrack connection &&& APPLICATION_CONNMARK_FOREIGN_MASK := by
  cases action with
  | engine action => rfl
  | capture ids => rfl
  | decide id resolved observe => rfl
  | stop => rfl
  | discard ids => rfl
  | track connection foreign => cases hown
  | setForeign connection foreign => cases hown
  | send policy ids flow mark =>
    have hfresh := (backend.advance_fresh policy flow.packet
      ⟨mark, host.conntrack flow.connection, []⟩).keeps.foreign
    apply foreign_traverse rfl
    exact hfresh
  | receive policy packet other mark =>
    simp only [step, backend.advance_inputHook_connmark policy packet, Function.update_eq_self]
  | observe policy id ids =>
    simp only [step]
    split
    · next held hobserved =>
      rw [(h.observed id held hobserved).2]
      have hforeign := (backend.advance_resumed policy held.packet
        ⟨held.mark, host.conntrack held.connection, []⟩).dates.foreign
      apply foreign_traverse rfl
      exact hforeign
    · rfl
  | answer id ids =>
    simp only [step, Host.answer]
    split
    · next held returned hwaiting hreturning =>
      rcases returnPacketVerdict_resumes (PacketSystem.engine_returning hreturning).2 with
        hdrop | ⟨hside, -⟩
      · rw [hdrop]
      · have hforeign := (backend.advance_resumed ⟨_, h.compiled.valid⟩ held.packet
          ⟨returned.verdict.mark.getD held.mark, host.conntrack held.connection, []⟩).dates.foreign
        rcases hside with ⟨hverdict, rfl⟩ | ⟨hverdict, rfl⟩
        · rw [hverdict, h.waiting id held hwaiting]
          apply foreign_traverse rfl
          exact hforeign
        · rw [hverdict, h.waiting id held hwaiting]
          apply foreign_traverse rfl
          exact hforeign
    · rfl

/-! ### Flow marks -/

theorem fastPath_blockAll (p : Packet) (direction : Direction) (connmark : BitVec 32) :
    fastPath blockAllSnapshot p direction connmark = false := by
  have hnone : blockAllSnapshot.applicationInterception = .none := by decide
  have hmode : blockAllSnapshot.mode = .blockAll := rfl
  cases direction <;> simp [fastPath, hnone, hmode, flowShape, intercepted]

theorem fastPath_moved (h : host.Sound json backend initial first)
    (hinitial : ∀ connection g, first ≤ g → g ≤ MAX_FLOW_GENERATION →
      ¬Dated g (initial connection))
    {rt' : Runtime} (hadvances : host.system.runtime.Advances json rt')
    (hhealthy : rt'.engine.poisoned = false)
    (hmoved : rt'.engine.state.flowGeneration ≠ host.system.runtime.engine.state.flowGeneration)
    (p : Packet) (direction : Direction) (connection : ℕ) :
    fastPath rt'.world.kernel p direction (host.conntrack connection) = false := by
  obtain ⟨hsound', hprogress⟩ := hadvances
  have hbefore := hprogress.healthy hhealthy
  rcases hprogress.kernel hhealthy with hkernel | ⟨hkernel, -⟩ | ⟨-, -, hstate⟩
  · rw [hkernel, ← Bool.not_eq_true]
    intro hfast
    simp only [fastPath, Bool.and_eq_true, flowMarked] at hfast
    have hdated : Dated rt'.engine.state.flowGeneration (host.conntrack connection) :=
      of_decide_eq_true hfast.1.2
    have hle := generation_le_of_progress hprogress hhealthy
    have hvalid := le_of_validFlowGeneration
      hsound'.consistent.wellFormed.validSnapshot.validFlowGeneration
    rcases h.marks connection _ hvalid hdated with hold | ⟨grant, hgrant, -, hgeneration⟩
    · exact hinitial connection _ (BitVec.le_trans (h.first hbefore) hle) hvalid hold
    · -- all grants so far were made under older generations
      have hold := (h.granted grant hgrant).2.2 hbefore
      rw [hgeneration] at hold
      exact hmoved (BitVec.le_antisymm hold hle)
  · rw [hkernel]
    exact fastPath_blockAll p direction _
  · rcases hstate with hsame | ⟨events, -, hlearned⟩
    · exact absurd (by rw [hsame]) hmoved
    · exact absurd (Runtime.learned_of_validate hlearned).generation hmoved

end Host

/-- Where flow marks come from. Only OpenShield writes the low bits of connmarks, and in the
beginning no connection carries the flow mark of a generation that is still to come. Then,
however packets, verdicts and transactions interleave and whatever fails, a flow mark was left by
a packet that the daemon accepted while the engine was at the generation of the mark. Right after
the generation moved, no packet is accepted on the strength of a flow mark. The foreign bit of
connmarks is never written. -/
theorem flow_marks_are_granted {json : Serializer} {rt : Runtime} (hreach : rt.Reachable json)
    (backend : Backend) (conntrack : ℕ → BitVec 32)
    (hinitial : ∀ connection g, rt.engine.state.flowGeneration ≤ g → g ≤ MAX_FLOW_GENERATION →
      conntrack connection &&& 0x7fffffff ≠ 0x40000000 ||| g)
    (actions : List HostAction) {host : Host}
    (hhost : host = (Host.start rt conntrack).run json backend actions) :
    (∀ connection g, g ≤ MAX_FLOW_GENERATION →
      host.conntrack connection &&& 0x7fffffff = 0x40000000 ||| g →
      (g < rt.engine.state.flowGeneration ∧
          conntrack connection &&& 0x7fffffff = 0x40000000 ||| g) ∨
        ∃ grant ∈ host.granted, grant.connection = connection ∧
          grant.returned ∈ host.system.returned ∧ grant.returned.verdict.accepted = true ∧
          grant.returned.engine.state.flowGeneration = g) ∧
    (∀ action host', host' = host.step json backend (.engine action) →
      host'.system.runtime.engine.poisoned = false →
      host'.system.runtime.engine.state.flowGeneration ≠
        host.system.runtime.engine.state.flowGeneration →
      ∀ p direction connection, fastPath host'.system.runtime.world.kernel p direction
        (host'.conntrack connection) = false) ∧
    (∀ action, action.isOwn = true → ∀ connection,
      (host.step json backend action).conntrack connection &&& 0x80000000 =
        host.conntrack connection &&& 0x80000000) := by
  have hsound : host.Sound json backend conntrack rt.engine.state.flowGeneration := by
    rw [hhost]
    exact Host.run_sound (Host.start_sound hreach conntrack) actions
  have hdated (g connmark : BitVec 32) (hg : g ≤ MAX_FLOW_GENERATION) :
      Dated g connmark ↔ connmark &&& 0x7fffffff = 0x40000000 ||| g := by
    rw [Dated, applicationFlowMark, and_generationMask hg]
    rfl
  refine ⟨fun connection g hg hmark => ?_, ?_,
    fun action hown connection => Host.foreign_step hsound hown connection⟩
  · rcases hsound.marks connection g hg ((hdated g _ hg).mpr hmark) with
      hold | ⟨grant, hgrant, hcovers, hgeneration⟩
    · have hmark := (hdated g _ hg).mp hold
      refine .inl ⟨?_, hmark⟩
      rw [← BitVec.not_le]
      exact fun hle => hinitial connection g hle hg hmark
    · obtain ⟨hreturned, haccepted, -⟩ := hsound.granted grant hgrant
      exact .inr ⟨grant, hgrant, hcovers, hreturned, haccepted, hgeneration⟩
  · rintro action host' rfl hhealthy hmoved p direction connection
    exact Host.fastPath_moved hsound
      (fun connection g hle hg hold => hinitial connection g hle hg ((hdated g _ hg).mp hold))
      (Runtime.step_advances hsound.system.runtime action) hhealthy hmoved p direction connection

def Sample.host : Host :=
  (Host.start Sample.prepared fun _ => 0).run Sample.json .nftables
    [.send (Sample.applicationDeny .learning) ⟨1, 1⟩ ⟨Sample.newPacket, ⟨some 0, 0⟩, 7⟩ 0,
      .capture [1], .decide 1 (.error "") (.ok none), .answer 1 ⟨2, 2⟩]

/-- The connection of the sample is dated with the generation under which it was granted; a
`blockAll` takes the authorisation back. -/
theorem flow_marks_are_granted_sample :
    Sample.host.conntrack 7 = 0x40000003 ∧
      (∃ grant ∈ Sample.host.granted, grant.connection = 7 ∧
        grant.returned.engine.state.flowGeneration = 3) ∧
      ∀ p direction connection, fastPath (Sample.host.step Sample.json .nftables (.engine
          (.control ⟨Sample.supply, fun _ _ => .error ""⟩
            (.setMode 1 .blockAll)))).system.runtime.world.kernel p direction
        (Sample.host.conntrack connection) = false := by
  obtain ⟨hmarks, hmoved, -⟩ := flow_marks_are_granted Sample.prepared_reachable .nftables
    (fun _ => 0) (fun connection g hle hg h => by
      have hbit := congrArg (fun mark : BitVec 32 => mark.getLsbD 30) h
      simp at hbit) _ (rfl : Sample.host = _)
  refine ⟨by decide +kernel, ?_, fun p direction connection => ?_⟩
  · rcases hmarks 7 3 (by decide) (by decide +kernel) with ⟨hold, -⟩ | ⟨grant, hgrant, hconnection,
      -, -, hgeneration⟩
    · exact absurd hold (by decide +kernel)
    · exact ⟨grant, hgrant, hconnection, hgeneration⟩
  · exact hmoved _ _ rfl (by decide +kernel) (by decide +kernel) p direction connection

end OpenShield
