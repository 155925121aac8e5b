import OpenShield.Daemon.Barrier
import OpenShield.Daemon.Reply
import OpenShield.Verdict.Backend

/-!
# Runs of the reply worker

Every reply that the worker receives gets at most one verdict, which is never to accept it, and a
reply goes through the rules again only on grounds that held when the worker decided. The mark of
a repeated packet counts the attempts, and the rules do not queue a packet after the third.
-/

namespace OpenShield

open Netfilter

/-! ### The grounds for a repetition -/

theorem QueueProgress.identity_eq_of_reachedForFlow {p : QueueProgress}
    {barrier : ReadThroughBarrier} {key : FlowKey} (h : p.reachedForFlow barrier key = true) :
    barrier.identity = p.identity := by
  rcases barrier with ⟨⟨portId, epoch⟩, sequence⟩
  rw [reachedForFlow] at h
  split_ifs at h with hreached hforeign
  · simp only [reached, Bool.and_eq_true, decide_eq_true_eq] at hreached
    rw [← hreached.1.1, ← hreached.1.2]
  · simp only [not_or, not_not] at hforeign
    rw [← hforeign.1, ← hforeign.2.1]

theorem QueueProgress.Tracks.settledFor_of_reachedForFlow {p : QueueProgress} {l : Ledger}
    (h : p.Tracks l) {barrier : ReadThroughBarrier} {key : FlowKey}
    (hreached : p.reachedForFlow barrier key = true) {b : ℕ} (hsequence : barrier.sequence =
      serial b)
    (hwindow : l.Window b) : b ≤ l.lastNumber ∧ l.SettledFor b key := by
  have hidentity := identity_eq_of_reachedForFlow hreached
  rw [← h.reachedForFlow_iff hwindow key, ← hsequence, ← hidentity]
  exact hreached

theorem PendingReply.disposition_progress (reply : PendingReply) (registry : Registry)
    (mode : Mode) (generation : BitVec 32) (stopping : Bool) (now : Instant) :
    (reply.disposition registry mode generation stopping now).2.progress = registry.progress := by
  unfold disposition
  split_ifs
  · rfl
  · rfl
  · rfl
  · unfold Registry.readiness
    dsimp only
    split_ifs
    · rfl
    · cases Table.find (registry.prune now).flows reply.packet.key <;> rfl

/-- The grounds for a repetition. -/
theorem PendingReply.disposition_repeat {reply : PendingReply} {registry : Registry} {mode : Mode}
    {generation : BitVec 32} {stopping : Bool} {now : Instant}
    (h : (reply.disposition registry mode generation stopping now).1 = .repeat) :
    mode = .enforcing ∧ generation = reply.generation ∧ now - reply.started < REPLY_LIFETIME ∧
      registry.progress.reachedForFlow reply.readThrough reply.packet.key = true ∧
      registry.generation = some reply.generation ∧
      ∃ wave, Table.find (registry.prune now).flows reply.packet.key = some wave ∧
        wave.failed = false := by
  unfold disposition at h
  split_ifs at h with hdrop hbackoff hbarrier
  simp only [not_or, not_not, Nat.not_le] at hdrop
  refine ⟨hdrop.2.1, hdrop.2.2.1, hdrop.2.2.2, by simpa using hbarrier, ?_⟩
  unfold Registry.readiness at h
  dsimp only at h
  split_ifs at h with hgeneration
  refine ⟨not_not.mp hgeneration, ?_⟩
  cases hwave : Table.find (registry.prune now).flows reply.packet.key with
  | none => simp [hwave] at h
  | some wave =>
    refine ⟨wave, rfl, ?_⟩
    by_contra hfailed
    simp [hwave, hfailed] at h

/-! ### The surroundings and the tracker -/

namespace Registry

/-- Drawing a ticket leaves the tracker alone, whether it succeeds or not. -/
theorem begin_progress (r : Registry) (key : FlowKey) (generation : BitVec 32) (now : Instant) :
    ((begin key generation now).exec r).2.progress = r.progress := by
  have hprune : ((r.enter generation).prune now).progress =
    r.progress := enter_progress r generation
  have hevict : (((r.enter generation).prune now).evictFor key).progress = r.progress := by
    rw [evictFor_eq]
    exact hprune
  rcases begin_cases r key generation now with ⟨e, s, h, rfl | rfl⟩ | ⟨serial, -, -, -, h⟩ <;>
    rw [h]
  · exact hprune
  · exact hevict
  · simp only [joinFlow]
    split_ifs <;> exact hevict

theorem complete_progress (r : Registry) (ticket : OutgoingTicket) (succeeded : Bool)
    (now : Instant) : (r.complete ticket succeeded now).2.progress = r.progress := by
  unfold complete
  split_ifs
  · rfl
  · cases Table.find r.flows ticket.key with
    | none => rfl
    | some wave =>
      dsimp only
      split_ifs <;> rfl

end Registry

/-! ### Receptions and verdicts -/

/-- What the trace says about one packet. -/
inductive ReplyStage where
  | received
  | answered
  deriving DecidableEq

def ReplyEvent.stage (id : BitVec 32) : ReplyEvent → Option ReplyStage
  | .received other => if other = id then some .received else none
  | .admitted .. => none
  | .answered other _ _ _ _ => if other = id then some .answered else none

def stagesOf (id : BitVec 32) (trace : List ReplyEvent) : List ReplyStage :=
  trace.filterMap (ReplyEvent.stage id)

def replyRounds (n : ℕ) : List ReplyStage :=
  (List.replicate n [ReplyStage.received, .answered]).flatten

def Stages (trace : List ReplyEvent) (outstanding : List (BitVec 32)) : Prop :=
  ∀ id, ∃ n, stagesOf id trace =
    replyRounds n ++ if id ∈ outstanding then [.received] else []

def Abandoned (trace : List ReplyEvent) : Prop :=
  ∀ id, ∃ n k, stagesOf id trace = replyRounds n ++ List.replicate k .received

theorem replyRounds_succ (n : ℕ) :
    replyRounds (n + 1) = replyRounds n ++ [.received, .answered] := by
  simp [replyRounds, List.replicate_succ']

theorem stagesOf_append (id : BitVec 32) (trace more : List ReplyEvent) :
    stagesOf id (trace ++ more) = stagesOf id trace ++ stagesOf id more :=
  List.filterMap_append

namespace Stages

variable {trace : List ReplyEvent} {outstanding rest : List (BitVec 32)} {id : BitVec 32}

theorem append (h : Stages trace outstanding) {more : List ReplyEvent}
    (hmore : ∀ id, stagesOf id more = []) : Stages (trace ++ more) outstanding := by
  intro id
  obtain ⟨n, hn⟩ := h id
  exact ⟨n, by rw [stagesOf_append, hmore, List.append_nil, hn]⟩

theorem congr (h : Stages trace outstanding) (hsame : ∀ id, id ∈ rest ↔ id ∈ outstanding) :
    Stages trace rest := by
  intro id
  obtain ⟨n, hn⟩ := h id
  exact ⟨n, by simpa only [hsame id] using hn⟩

/-- A packet arrives whose number is not in use. -/
theorem received (h : Stages trace outstanding) (hnew : id ∉ outstanding) :
    Stages (trace ++ [.received id]) (id :: outstanding) := by
  intro other
  obtain ⟨n, hn⟩ := h other
  refine ⟨n, ?_⟩
  rw [stagesOf_append, hn]
  by_cases hother : other = id
  · subst hother
    simp [hnew, stagesOf, ReplyEvent.stage]
  · have hne : id ≠ other := Ne.symm hother
    simp [hother, hne, stagesOf, ReplyEvent.stage]

theorem answered (h : Stages trace outstanding) (hmem : id ∈ outstanding)
    (hrest : ∀ other, other ∈ rest ↔ other ∈ outstanding ∧ other ≠ id) (verdict : QueueVerdict)
    (mark : Option (BitVec 32)) (engine : Except String (Mode × BitVec 32))
    (grounds : Option ReplyDecision) :
    Stages (trace ++ [.answered id verdict mark engine grounds]) rest := by
  intro other
  obtain ⟨n, hn⟩ := h other
  by_cases hother : other = id
  · subst hother
    have hout : other ∉ rest := fun hin => ((hrest other).mp hin).2 rfl
    refine ⟨n + 1, ?_⟩
    rw [stagesOf_append, hn, replyRounds_succ]
    simp [hmem, hout, stagesOf, ReplyEvent.stage]
  · have hne : id ≠ other := Ne.symm hother
    refine ⟨n, ?_⟩
    rw [stagesOf_append, hn]
    simp [hrest, hother, hne, stagesOf, ReplyEvent.stage]

/-- The worker may stop at any time. -/
theorem abandoned (h : Stages trace outstanding) : Abandoned trace := by
  intro id
  obtain ⟨n, hn⟩ := h id
  by_cases hmem : id ∈ outstanding
  · exact ⟨n, 1, by simpa [hmem] using hn⟩
  · exact ⟨n, 0, by simpa [hmem] using hn⟩

end Stages

variable {trace : List ReplyEvent} {id : BitVec 32}

/-- It may also stop at a packet whose number is in use. -/
theorem Abandoned.received (h : Abandoned trace) (id : BitVec 32) :
    Abandoned (trace ++ [.received id]) := by
  intro other
  obtain ⟨n, k, hn⟩ := h other
  by_cases hother : id = other
  · refine ⟨n, k + 1, ?_⟩
    rw [stagesOf_append, hn, List.replicate_succ', ← List.append_assoc]
    simp [hother, stagesOf, ReplyEvent.stage]
  · refine ⟨n, k, ?_⟩
    rw [stagesOf_append, hn]
    simp [hother, stagesOf, ReplyEvent.stage]

/-! ### The invariant -/

def AdmittedAs (trace : List ReplyEvent) (id : BitVec 32) (reply : PendingReply) : Prop :=
  .admitted id reply .enforcing reply.generation reply.started ∈ trace

/-- A verdict is to drop a reply, or to repeat it after a decision on what the worker saw: the
decision was about a reply that was kept, and the engine did not change after it. -/
def Justified (trace : List ReplyEvent) (id : BitVec 32) (verdict : QueueVerdict)
    (mark : Option (BitVec 32)) (engine : Except String (Mode × BitVec 32))
    (grounds : Option ReplyDecision) : Prop :=
  (verdict = .drop ∧ mark = none) ∨
    ∃ decision, grounds = some decision ∧ verdict = .repeat ∧
      mark = some (applicationReplyRetryMark decision.reply.packet.packetMark) ∧
      decision.disposition.1 = .repeat ∧
      decision.registry.progress.Tracks decision.ledger ∧
      engine = .ok (decision.mode, decision.generation) ∧
      AdmittedAs trace id decision.reply

namespace ReplyWorld

variable (w : ReplyWorld)

def held : List (BitVec 32) := w.pending.map Prod.fst

def outstanding : List (BitVec 32) :=
  match w.phase with
  | .denying id _ => id :: w.held
  | .admitting id _ _ _ => id :: w.held
  | .draining ids => ids
  | _ => w.held

def Knows : Prop :=
  match w.phase with
  | .answering id decision _ _ =>
    (id, decision.reply) ∈ w.pending ∧ decision.registry.progress.Tracks decision.ledger ∧
      w.engine = .ok (decision.mode, decision.generation)
  | .denying id _ => id ∉ w.held
  | .admitting id _ _ _ => id ∉ w.held
  | .draining ids => ids.Nodup ∧ w.pending = []
  | .ended (.ok _) => w.pending = []
  | _ => True

def Accounted : Prop :=
  match w.phase with
  | .ended (.error _) => Abandoned w.trace
  | _ => Stages w.trace w.outstanding

structure Sound (w : ReplyWorld) : Prop where
  tracks : w.registry.progress.Tracks w.ledger
  bound : w.pending.length ≤ REPLY_CAPACITY
  unique : Table.Unique w.pending
  knows : w.Knows
  accounted : w.Accounted
  admitted : ∀ id reply, (id, reply) ∈ w.pending → AdmittedAs w.trace id reply
  justified : ∀ id verdict mark engine grounds,
    .answered id verdict mark engine grounds ∈ w.trace →
      Justified w.trace id verdict mark engine grounds

end ReplyWorld

/-- What was kept remains kept. -/
theorem AdmittedAs.append {reply : PendingReply} (h : AdmittedAs trace id reply)
    (more : List ReplyEvent) : AdmittedAs (trace ++ more) id reply :=
  List.mem_append_left more h

theorem Justified.append {verdict : QueueVerdict} {mark : Option (BitVec 32)}
    {engine : Except String (Mode × BitVec 32)} {grounds : Option ReplyDecision}
    (h : Justified trace id verdict mark engine grounds) (more : List ReplyEvent) :
    Justified (trace ++ more) id verdict mark engine grounds := by
  refine h.imp_right ?_
  rintro ⟨decision, hgrounds, hverdict, hmark, hrepeat, htracks, hengine, hadmitted⟩
  exact ⟨decision, hgrounds, hverdict, hmark, hrepeat, htracks, hengine, hadmitted.append more⟩


/-! ### Steps of the worker -/

namespace ReplyWorld

variable {w : ReplyWorld}

theorem Sound.stages (h : w.Sound) (hphase : ∀ error, w.phase ≠ .ended (.error error)) :
    Stages w.trace w.outstanding := by
  have haccounted := h.accounted
  unfold Accounted at haccounted
  split at haccounted
  · rename_i error heq
    exact absurd heq (hphase error)
  · exact haccounted

variable {w' : ReplyWorld} {id : BitVec 32}

/-- A step that keeps no reply. What it adds to the trace has to be justified. -/
theorem Sound.extend (h : w.Sound) (more : List ReplyEvent)
    (hprogress : w'.registry.progress = w.registry.progress) (hledger : w'.ledger = w.ledger)
    (hpending : w'.pending.Sublist w.pending) (htrace : w'.trace = w.trace ++ more)
    (hmore : ∀ id verdict mark engine grounds, .answered id verdict mark engine grounds ∈ more →
      Justified w.trace id verdict mark engine grounds)
    (hknows : w'.Knows) (haccounted : w'.Accounted) : w'.Sound where
  tracks := by rw [hprogress, hledger]; exact h.tracks
  bound := hpending.length_le.trans h.bound
  unique := h.unique.sublist hpending
  knows := hknows
  accounted := haccounted
  admitted := by
    intro id reply hmem
    rw [htrace]
    exact (h.admitted id reply (hpending.subset hmem)).append more
  justified := by
    intro id verdict mark engine grounds hmem
    rw [htrace] at hmem ⊢
    rcases List.mem_append.mp hmem with hmem | hmem
    · exact (h.justified _ _ _ _ _ hmem).append more
    · exact (hmore _ _ _ _ _ hmem).append more

theorem Sound.move (h : w.Sound) (hprogress : w'.registry.progress = w.registry.progress)
    (hledger : w'.ledger = w.ledger) (hpending : w'.pending = w.pending)
    (htrace : w'.trace = w.trace) (hknows : w'.Knows) (haccounted : w'.Accounted) : w'.Sound := by
  refine h.extend [] hprogress hledger ?_ ?_ ?_ hknows haccounted
  · rw [hpending]
  · rw [htrace, List.append_nil]
  · intro id verdict mark engine grounds hmem
    exact absurd hmem List.not_mem_nil

theorem Sound.fail (h : w.Sound) (hphase : ∀ error, w.phase ≠ .ended (.error error))
    (error : String) : (w.fail error).Sound :=
  h.move rfl rfl rfl rfl trivial (h.stages hphase).abandoned

theorem Sound.enterRound (h : w.Sound) (ids : List (BitVec 32)) : (w.enterRound ids).Sound := by
  cases hphase : w.phase with
  | loop =>
    have hstages : Stages w.trace w.held := by
      simpa [outstanding, hphase] using h.stages (by simp [hphase])
    simp only [ReplyWorld.enterRound, hphase]
    split_ifs with hperm hstopping
    · exact
        { tracks := h.tracks
          bound := Nat.zero_le _
          unique := List.nodup_nil
          knows := ⟨hperm.nodup_iff.mpr h.unique, rfl⟩
          accounted := hstages.congr fun id => hperm.mem_iff
          admitted := fun id reply hmem => absurd hmem List.not_mem_nil
          justified := h.justified }
    · exact h.move rfl rfl rfl rfl trivial hstages
    · exact h
  | _ =>
    simp only [ReplyWorld.enterRound, hphase]
    exact h

theorem Sound.visit (h : w.Sound) : w.visit.Sound := by
  cases hphase : w.phase with
  | releasing since ids =>
    have hrunning : ∀ error, w.phase ≠ .ended (.error error) := by simp [hphase]
    have hstages : Stages w.trace w.held := by simpa [outstanding, hphase] using h.stages hrunning
    cases ids with
    | nil =>
      simp only [ReplyWorld.visit, hphase]
      exact h.move rfl rfl rfl rfl trivial hstages
    | cons id ids =>
      simp only [ReplyWorld.visit, hphase]
      cases hengine : w.engine with
      | error error => exact h.fail hrunning error
      | ok identity =>
        cases hfind : Table.find w.pending id with
        | none => exact h.fail hrunning _
        | some reply =>
          have hmem : (id, reply) ∈ w.pending := h.unique.find_eq_some_iff.mp hfind
          dsimp only
          set decision : ReplyDecision :=
            { reply, mode := identity.1, generation := identity.2, stopping := w.stopping,
              now := max since w.now, registry := w.registry, ledger := w.ledger }
          have hprogress : decision.disposition.2.progress = w.registry.progress :=
            PendingReply.disposition_progress ..
          -- the worker goes on, or keeps the lock until it has sent a verdict
          cases decision.disposition.1 with
          | wait => exact h.move hprogress rfl rfl rfl trivial hstages
          | drop => exact h.move hprogress rfl rfl rfl ⟨hmem, h.tracks, rfl⟩ hstages
          | «repeat» => exact h.move hprogress rfl rfl rfl ⟨hmem, h.tracks, rfl⟩ hstages
  | _ =>
    simp only [ReplyWorld.visit, hphase]
    exact h

theorem Sound.justified_replyVerdict (h : w.Sound) {decision : ReplyDecision}
    (hmem : (id, decision.reply) ∈ w.pending)
    (htracks : decision.registry.progress.Tracks decision.ledger)
    (hengine : w.engine = .ok (decision.mode, decision.generation)) :
    Justified w.trace id (replyVerdict decision).1 (replyVerdict decision).2 w.engine
      (some decision) := by
  unfold replyVerdict
  cases hdisposition : decision.disposition.1 with
  | wait => exact .inl ⟨rfl, rfl⟩
  | drop => exact .inl ⟨rfl, rfl⟩
  | «repeat» =>
    exact .inr ⟨decision, rfl, rfl, rfl, hdisposition, htracks, hengine, h.admitted _ _ hmem⟩

theorem Sound.answer (h : w.Sound) {verdict : QueueVerdict} {mark : Option (BitVec 32)}
    {grounds : Option ReplyDecision} (hprogress : w'.registry.progress = w.registry.progress)
    (hledger : w'.ledger = w.ledger) (hpending : w'.pending.Sublist w.pending)
    (htrace : w'.trace = w.trace ++ [.answered id verdict mark w.engine grounds])
    (hjustified : Justified w.trace id verdict mark w.engine grounds) (hknows : w'.Knows)
    (haccounted : w'.Accounted) : w'.Sound := by
  refine h.extend _ hprogress hledger hpending htrace ?_ hknows haccounted
  intro other verdict' mark' engine' grounds' hmem
  cases List.mem_singleton.mp hmem
  exact hjustified

theorem Sound.send (h : w.Sound) (result : Except String Unit) : (w.send result).Sound := by
  cases hphase : w.phase with
  | answering id decision since ids =>
    have hrunning : ∀ error, w.phase ≠ .ended (.error error) := by simp [hphase]
    cases result with
    | error error =>
      simp only [ReplyWorld.send, hphase]
      exact h.fail hrunning error
    | ok _ =>
      have hknows := h.knows
      simp only [Knows, hphase] at hknows
      obtain ⟨hmem, htracks, hengine⟩ := hknows
      have hstages : Stages w.trace w.held := by
        simpa [outstanding, hphase] using h.stages hrunning
      simp only [ReplyWorld.send, hphase]
      refine h.answer rfl rfl List.filter_sublist rfl (h.justified_replyVerdict hmem htracks hengine)
        trivial ?_
      refine hstages.answered (List.mem_map_of_mem hmem) (fun other => ?_) _ _ _ _
      simp only [held, outstanding, List.mem_map, Table.mem_drop]
      constructor
      · rintro ⟨entry, ⟨hentry, hne⟩, rfl⟩
        exact ⟨⟨entry, hentry, rfl⟩, hne⟩
      · rintro ⟨⟨entry, hentry, rfl⟩, hne⟩
        exact ⟨entry, ⟨hentry, hne⟩, rfl⟩
  | denying id messages =>
    have hrunning : ∀ error, w.phase ≠ .ended (.error error) := by simp [hphase]
    cases result with
    | error error =>
      simp only [ReplyWorld.send, hphase]
      exact h.fail hrunning error
    | ok _ =>
      have hnew := h.knows
      simp only [Knows, hphase] at hnew
      have hstages : Stages w.trace (id :: w.held) := by
        simpa [outstanding, hphase] using h.stages hrunning
      simp only [ReplyWorld.send, hphase]
      refine h.answer rfl rfl (List.Sublist.refl _) rfl (.inl ⟨rfl, rfl⟩) trivial ?_
      refine hstages.answered List.mem_cons_self (fun other => ?_) _ _ _ _
      change other ∈ w.held ↔ _
      rw [List.mem_cons]
      constructor
      · intro hmem
        exact ⟨.inr hmem, fun heq => hnew (heq ▸ hmem)⟩
      · rintro ⟨hmem, hne⟩
        exact hmem.resolve_left hne
  | draining ids =>
    have hrunning : ∀ error, w.phase ≠ .ended (.error error) := by simp [hphase]
    have hknows := h.knows
    simp only [Knows, hphase] at hknows
    obtain ⟨hnodup, hnone⟩ := hknows
    have hstages : Stages w.trace ids := by simpa [outstanding, hphase] using h.stages hrunning
    cases ids with
    | nil =>
      simp only [ReplyWorld.send, hphase]
      refine h.move rfl rfl rfl rfl hnone (hstages.congr fun id => ?_)
      simp [outstanding, held, hnone]
    | cons id ids =>
      cases result with
      | error error =>
        simp only [ReplyWorld.send, hphase]
        exact h.fail hrunning error
      | ok _ =>
        obtain ⟨hnew, hrest⟩ := List.nodup_cons.mp hnodup
        simp only [ReplyWorld.send, hphase]
        refine h.answer rfl rfl (List.Sublist.refl _) rfl (.inl ⟨rfl, rfl⟩) ⟨hrest, hnone⟩ ?_
        refine hstages.answered List.mem_cons_self (fun other => ?_) _ _ _ _
        change other ∈ ids ↔ _
        rw [List.mem_cons]
        constructor
        · intro hmem
          exact ⟨.inr hmem, fun heq => hnew (heq ▸ hmem)⟩
        · rintro ⟨hmem, hne⟩
          exact hmem.resolve_left hne
  | _ =>
    simp only [ReplyWorld.send, hphase]
    exact h

theorem Sound.receive (h : w.Sound) (result : Except String QueueReceive) :
    (w.receive result).Sound := by
  cases hphase : w.phase with
  | receiving =>
    have hrunning : ∀ error, w.phase ≠ .ended (.error error) := by simp [hphase]
    have hstages : Stages w.trace w.held := by simpa [outstanding, hphase] using h.stages hrunning
    simp only [ReplyWorld.receive, hphase]
    rcases result with error | received
    · exact h.fail hrunning error
    · cases received <;> exact h.move rfl rfl rfl rfl trivial hstages
  | _ =>
    simp only [ReplyWorld.receive, hphase]
    exact h

theorem Sound.arrive (h : w.Sound) (hprogress : w'.registry.progress = w.registry.progress)
    (hledger : w'.ledger = w.ledger) (hpending : w'.pending = w.pending)
    (htrace : w'.trace = w.trace ++ [.received id]) (hknows : w'.Knows) (haccounted : w'.Accounted) :
    w'.Sound := by
  refine h.extend _ hprogress hledger (hpending ▸ List.Sublist.refl _) htrace ?_ hknows haccounted
  intro other verdict mark engine grounds hmem
  cases List.mem_singleton.mp hmem

theorem mem_held_of_contains : w.pending.contains id = true ↔ id ∈ w.held := by
  rw [PendingReplies.contains, Option.isSome_iff_ne_none, ne_eq, Table.find_eq_none_iff, held]
  constructor
  · intro hfound
    push Not at hfound
    obtain ⟨reply, hmem⟩ := hfound
    exact List.mem_map_of_mem hmem
  · rintro hmem hnone
    obtain ⟨⟨other, reply⟩, hentry, rfl⟩ := List.mem_map.mp hmem
    exact hnone reply hentry

theorem Sound.read (h : w.Sound) (sequence : Except String (BitVec 32)) :
    (w.read sequence).Sound := by
  cases hphase : w.phase with
  | reading messages =>
    have hrunning : ∀ error, w.phase ≠ .ended (.error error) := by simp [hphase]
    have hstages : Stages w.trace w.held := by simpa [outstanding, hphase] using h.stages hrunning
    cases messages with
    | nil =>
      simp only [ReplyWorld.read, hphase]
      exact h.move rfl rfl rfl rfl trivial hstages
    | cons message messages =>
      simp only [ReplyWorld.read, hphase]
      cases message with
      | malformed error => exact h.fail hrunning error
      | other => exact h.move rfl rfl rfl rfl trivial hstages
      | packet message =>
        dsimp only
        cases message.packetId with
        | none => exact h.fail hrunning _
        | some id =>
          dsimp only
          split_ifs with hcontains
          · -- the number is in use: the worker stops
            exact h.arrive rfl rfl rfl rfl trivial (hstages.abandoned.received id)
          · have hnew : id ∉ w.held := mt mem_held_of_contains.mpr hcontains
            have hreceived := hstages.received hnew
            cases parseReply message with
            | error error => exact h.arrive rfl rfl rfl rfl hnew hreceived
            | ok packet =>
              cases sequence with
              | error error => exact h.arrive rfl rfl rfl rfl hnew hreceived
              | ok sequence => exact h.arrive rfl rfl rfl rfl hnew hreceived
  | _ =>
    simp only [ReplyWorld.read, hphase]
    exact h

theorem insert_eq_ok_true {pending pending' : PendingReplies} {packet : ReplyPacket}
    {generation : BitVec 32} {now : Instant} {readThrough : ReadThroughBarrier}
    (h : pending.insert id packet generation now readThrough = .ok (true, pending')) :
    pending.contains id = false ∧ pending.length < REPLY_CAPACITY ∧
      ∃ reply, pending' = pending ++ [(id, reply)] ∧ reply.generation = generation ∧
        reply.started = now := by
  simp only [PendingReplies.insert, Except.bind_unit_eq_ok_iff, ensure_eq_ok_iff] at h
  obtain ⟨hnew, h⟩ := h
  split at h
  · cases h
  · rename_i hfull
    cases h
    exact ⟨hnew, Nat.lt_of_not_le hfull, _, rfl, rfl, rfl⟩

theorem find_append_new {pending : PendingReplies} {reply : PendingReply}
    (hnew : pending.contains id = false) :
    Table.find (pending ++ [(id, reply)]) id = some reply := by
  have hnone : pending.find? (fun entry => decide (entry.1 = id)) = none := by
    simpa [PendingReplies.contains, Table.find] using hnew
  simp [Table.find, List.find?_append, hnone]

theorem Sound.admitBatch (h : w.Sound) : w.admitBatch.Sound := by
  cases hphase : w.phase with
  | admitting id packet readThrough messages =>
    have hrunning : ∀ error, w.phase ≠ .ended (.error error) := by simp [hphase]
    have hstages : Stages w.trace (id :: w.held) := by
      simpa [outstanding, hphase] using h.stages hrunning
    have hfresh := h.knows
    simp only [Knows, hphase] at hfresh
    simp only [ReplyWorld.admitBatch, hphase]
    cases hengine : w.engine with
    | error error => exact h.fail hrunning error
    | ok identity =>
      dsimp only
      split_ifs with hforbidden
      · exact h.move rfl rfl rfl rfl hfresh hstages
      · obtain ⟨hmode, -⟩ := not_or.mp hforbidden
        cases hinsert : w.pending.insert id packet identity.2 w.now readThrough with
        | error error => exact h.fail hrunning error
        | ok inserted =>
          obtain ⟨_ | _, pending'⟩ := inserted
          · exact h.move rfl rfl rfl rfl hfresh hstages
          · obtain ⟨hnew, hroom, reply, rfl, hgeneration, hstarted⟩ := insert_eq_ok_true hinsert
            have hadmitted : (Table.find (w.pending ++ [(id, reply)]) id).toList.map (fun reply =>
                ReplyEvent.admitted id reply identity.1 identity.2 w.now) =
                  [.admitted id reply .enforcing reply.generation reply.started] := by
              rw [find_append_new hnew, hgeneration, hstarted, not_not.mp hmode]
              rfl
            have htrace (other : BitVec 32) : stagesOf other
                [.admitted id reply .enforcing reply.generation reply.started] = [] := rfl
            dsimp only
            rw [hadmitted]
            refine
              { tracks := h.tracks
                bound := by simpa using Nat.succ_le_of_lt hroom
                unique := ?_
                knows := trivial
                accounted := (hstages.append htrace).congr fun other => ?_
                admitted := ?_
                justified := ?_ }
            · have hnodup : (w.held ++ [id]).Nodup :=
                List.nodup_append_comm.mp (List.nodup_cons.mpr ⟨hfresh, h.unique⟩)
              simpa [Table.Unique, held] using hnodup
            · simp [outstanding, held, or_comm]
            · intro other kept hmem
              rcases List.mem_append.mp hmem with hmem | hmem
              · exact (h.admitted other kept hmem).append _
              · cases List.mem_singleton.mp hmem
                exact List.mem_append_right _ List.mem_cons_self
            · intro other verdict mark engine grounds hmem
              rcases List.mem_append.mp hmem with hmem | hmem
              · exact (h.justified _ _ _ _ _ hmem).append _
              · cases List.mem_singleton.mp hmem
  | _ =>
    simp only [ReplyWorld.admitBatch, hphase]
    exact h

/-! ### Steps of the surroundings, and runs -/

/-- Nothing that the worker knows is about the registry, the time or the end of the daemon. -/
theorem Sound.surround (h : w.Sound) {registry : Registry} {ledger : Ledger}
    (htracks : registry.progress.Tracks ledger) (stopping : Bool) (now : Instant) :
    Sound { w with registry, ledger, stopping, now } :=
  ⟨htracks, h.bound, h.unique, h.knows, h.accounted, h.admitted, h.justified⟩

theorem Sound.commit (h : w.Sound) (engine : Except String (Mode × BitVec 32)) :
    (w.commit engine).Sound := by
  have hknows := h.knows
  have haccounted := h.accounted
  cases hphase : w.phase with
  | answering id decision since ids =>
    simp only [ReplyWorld.commit, hphase]
    exact h
  | ended result =>
    cases result <;>
      (simp only [Knows, Accounted, outstanding, hphase] at hknows haccounted
       simp only [ReplyWorld.commit, hphase]
       exact h.move rfl rfl rfl rfl hknows haccounted)
  | _ =>
    simp only [Knows, Accounted, outstanding, hphase] at hknows haccounted
    simp only [ReplyWorld.commit, hphase]
    exact h.move rfl rfl rfl rfl hknows haccounted

theorem Sound.step (h : w.Sound) (step : ReplyStep) : (w.step step).Sound := by
  cases step with
  | enterRound ids => exact h.enterRound ids
  | visit => exact h.visit
  | send result => exact h.send result
  | receive result => exact h.receive result
  | read sequence => exact h.read sequence
  | admitBatch => exact h.admitBatch
  | progress call =>
    exact h.surround (ProgressRun.tracks_step (r := ⟨w.registry.progress, w.ledger⟩) h.tracks call)
      w.stopping w.now
  | drawTicket key generation =>
    refine h.surround ?_ w.stopping w.now
    rw [Registry.begin_progress]
    exact h.tracks
  | returnTicket ticket succeeded =>
    refine h.surround ?_ w.stopping w.now
    rw [Registry.complete_progress]
    exact h.tracks
  | commit engine => exact h.commit engine
  | stop => exact h.surround h.tracks true w.now
  | tick elapsed => exact h.surround h.tracks w.stopping (w.now + elapsed)

theorem Sound.run (h : w.Sound) (steps : List ReplyStep) : (w.run steps).Sound := by
  induction steps generalizing w with
  | nil => exact h
  | cons step steps ih => exact ih (h.step step)

theorem sound_start {portId : BitVec 32} {epoch : ℕ} {registry : Registry}
    (h : Registry.new portId epoch = .ok registry) (engine : Except String (Mode × BitVec 32))
    (stopping : Bool) (now : Instant) : (start registry engine stopping now).Sound := by
  simp only [Registry.new, Except.bind_eq_ok_iff] at h
  obtain ⟨progress, hprogress, hstart⟩ := h
  obtain rfl := Except.ok.inj hstart
  exact
    { tracks := (QueueProgress.tracks_new hprogress).1
      bound := Nat.zero_le _
      unique := List.nodup_nil
      knows := trivial
      accounted := fun id => ⟨0, rfl⟩
      admitted := fun id reply hmem => absurd hmem List.not_mem_nil
      justified := fun _ _ _ _ _ hmem => absurd hmem List.not_mem_nil }

end ReplyWorld

/-! ### Attempts -/

theorem domain_eq_shift (mark : BitVec 32) :
    mark &&& APPLICATION_MARK_DOMAIN_MASK = (mark >>> 30) <<< 30 := by
  have hmask : ∀ i < 32, APPLICATION_MARK_DOMAIN_MASK.getLsbD i = decide (30 ≤ i) := by decide
  ext i hi
  have hback (h : 30 ≤ i) : 30 + (i - 30) = i := Nat.add_sub_cancel' h
  by_cases h : 30 ≤ i
  · simp [← BitVec.getLsbD_eq_getElem, hmask i hi, h, hback h, hi]
  · simp [← BitVec.getLsbD_eq_getElem, hmask i hi, h, Nat.lt_of_not_le h]

theorem applicationReplyRetryMark_attempts (mark : BitVec 32) :
    applicationReplyRetryMark mark >>> 30 =
      if mark >>> 30 < 3 then mark >>> 30 + 1 else 3 := by
  have hpayload : (mark &&& APPLICATION_MARK_PAYLOAD_MASK) >>> 30 = 0#32 := by
    have hmask : APPLICATION_MARK_PAYLOAD_MASK >>> 30 = 0#32 := by decide
    rw [BitVec.ushiftRight_and_distrib, hmask, BitVec.and_zero]
  have hattempts : mark >>> 30 = 0 ∨ mark >>> 30 = 1 ∨ mark >>> 30 = 2 ∨ mark >>> 30 = 3 := by
    bv_omega
  rw [applicationReplyRetryMark, BitVec.ushiftRight_or_distrib, hpayload, BitVec.or_zero]
  rcases hattempts with h | h | h | h <;> rw [h] <;> decide

theorem applicationReplyRetryMark_payload (mark : BitVec 32) :
    applicationReplyRetryMark mark &&& APPLICATION_MARK_PAYLOAD_MASK =
      mark &&& APPLICATION_MARK_PAYLOAD_MASK := by
  have hmask : ∀ i < 32, APPLICATION_MARK_PAYLOAD_MASK.getLsbD i = decide (i < 30) := by decide
  have hshift (n : BitVec 32) : (n <<< 30) &&& APPLICATION_MARK_PAYLOAD_MASK = 0#32 := by
    ext i hi
    by_cases h : i < 30
    · simp [h]
    · simp [← BitVec.getLsbD_eq_getElem, hmask i hi, h]
  rw [applicationReplyRetryMark, BitVec.and_or_distrib_right, hshift, BitVec.zero_or,
    BitVec.and_assoc, BitVec.and_self]

/-- What decides about a packet when it passes the input hook: the policy in force, and what the
rules see of the packet and its connection at the time. -/
structure Passage where
  snapshot : ValidSnapshot
  packet : Packet
  connmark : BitVec 32

/-- How often a packet comes to the reply queue, if each time it is sent through the rules again.
Of what the rules see, only the packet mark is the packet's own. -/
def requeued (backend : Backend) : List Passage → BitVec 32 → ℕ
  | [], _ => 0
  | passage :: later, mark =>
    match advance (backend.inputHook passage.snapshot.toSnapshot passage.packet) 0
        ⟨mark, passage.connmark, []⟩ with
    | (d, .pending num _ _) =>
      if num = APPLICATION_REPLY_QUEUE_NUMBER then
        requeued backend later (applicationReplyRetryMark d.mark) + 1
      else 0
    | (_, .done _) => 0

/-- The input chain queues a packet as it is, unless its mark says that it had its attempts. -/
theorem inputDecision_queue {snapshot : Snapshot} {p : Packet} {d d' : Meta Counter}
    {num : BitVec 16} {bypass : Bool} (h : inputDecision snapshot p d = (d', .queue num bypass)) :
    d' = d ∧ hasDomain d APPLICATION_HANDOFF_DOMAIN = false := by
  unfold inputDecision at h
  split_ifs at h with hdhcp hinvalid hadmitted hwaits
  · cases h
  · cases h
  · cases h
  · cases h
    simp only [awaitsAuthorisation, Bool.and_eq_true, Bool.not_eq_true'] at hwaits
    exact ⟨rfl, hwaits.2.2⟩
  · cases h

theorem attempts_of_queued {backend : Backend} {snapshot : ValidSnapshot} {p : Packet}
    {d d' : Meta Counter} {num : BitVec 16} {bypass : Bool} {position : ℕ}
    (h : advance (backend.inputHook snapshot.toSnapshot p) 0 d =
      (d', .pending num bypass position)) : d' = d ∧ d.mark >>> 30 < 3 := by
  by_cases hmode : snapshot.mode = .blockAll
  · rw [backend.inputHook_blockAll snapshot p hmode, advance_cons_drop _ _ rfl] at h
    cases h
  · rw [backend.inputHook_eq snapshot p hmode] at h
    rcases hdecision : inputDecision snapshot.toSnapshot p d with ⟨d₁, verdict⟩
    cases verdict with
    | queue num' bypass' =>
      rw [advance_cons_queue _ _ hdecision] at h
      cases h
      obtain ⟨rfl, hdomain⟩ := inputDecision_queue hdecision
      refine ⟨rfl, ?_⟩
      by_contra hlast
      have hthree : d'.mark >>> 30 = 3 := by bv_omega
      rw [hasDomain, maskedEq, domain_eq_shift, hthree] at hdomain
      simp [APPLICATION_HANDOFF_DOMAIN] at hdomain
    | accept =>
      rw [advance_cons_accept _ _ hdecision] at h
      cases h
    | drop =>
      rw [advance_cons_drop _ _ hdecision] at h
      cases h
    | reject kind =>
      rw [advance_cons_reject _ _ hdecision] at h
      cases h

theorem requeued_add_attempts_le (backend : Backend) (passages : List Passage) (mark : BitVec 32) :
    requeued backend passages mark + (mark >>> 30).toNat ≤ 3 := by
  induction passages generalizing mark with
  | nil =>
    rw [requeued]
    bv_omega
  | cons passage later ih =>
    rw [requeued]
    split
    · rename_i d num bypass position hstop
      obtain ⟨rfl, hattempts⟩ := attempts_of_queued hstop
      split_ifs
      · have hlater := ih (applicationReplyRetryMark mark)
        rw [applicationReplyRetryMark_attempts, if_pos hattempts] at hlater
        bv_omega
      · bv_omega
    · bv_omega

theorem requeued_le_three (backend : Backend) (passages : List Passage) (mark : BitVec 32) :
    requeued backend passages mark ≤ 3 :=
  (Nat.le_add_right _ _).trans (requeued_add_attempts_le backend passages mark)

/-! ### The worker as a whole -/

/-- The grounds on which a reply is repeated. The engine is as it was when the reply was kept, and
so is its generation; the reply has not waited for too long; the flow has a wave, without a
failure; and up to the captured barrier, if that is within the window of the tracker, every
outgoing packet was read, and answered if it may belong to the flow. -/
structure Grounds (trace : List ReplyEvent) (id : BitVec 32) (decision : ReplyDecision)
    (engine : Except String (Mode × BitVec 32)) : Prop where
  admitted : AdmittedAs trace id decision.reply
  engine : engine = .ok (.enforcing, decision.reply.generation)
  lifetime : decision.now - decision.reply.started < REPLY_LIFETIME
  wave : ∃ wave, Table.find (decision.registry.prune decision.now).flows
    decision.reply.packet.key = some wave ∧ wave.failed = false
  barrier : ∀ b, decision.reply.readThrough.sequence = serial b → decision.ledger.Window b →
    b ≤ decision.ledger.lastNumber ∧ decision.ledger.SettledFor b decision.reply.packet.key

theorem Justified.grounds {verdict : QueueVerdict} {mark : Option (BitVec 32)}
    {engine : Except String (Mode × BitVec 32)} {grounds : Option ReplyDecision}
    (h : Justified trace id verdict mark engine grounds) :
    (verdict = .drop ∧ mark = none) ∨
      ∃ decision, grounds = some decision ∧ verdict = .repeat ∧
        mark = some (applicationReplyRetryMark decision.reply.packet.packetMark) ∧
        Grounds trace id decision engine := by
  refine h.imp_right ?_
  rintro ⟨decision, hgrounds, hverdict, hmark, hrepeat, htracks, hengine, hadmitted⟩
  obtain ⟨hmode, hgeneration, hlifetime, hreached, -, hwave⟩ :=
    PendingReply.disposition_repeat hrepeat
  rw [hmode, hgeneration] at hengine
  exact ⟨decision, hgrounds, hverdict, hmark,
    { admitted := hadmitted
      engine := hengine
      lifetime := hlifetime
      wave := hwave
      barrier := fun b hsequence hwindow =>
        htracks.settledFor_of_reachedForFlow hreached hsequence hwindow }⟩

/-- In every run of the worker, whatever happens around it: a packet gets at most one verdict, and
one if the worker ends without an error. The verdict is to drop the packet, or to repeat it on the
grounds above. A repetition changes nothing in the packet mark but the two upper bits, and after
the third the rules do not queue the packet again, whatever policies are in force. No more than
the fixed number of replies wait. -/
theorem reply_release_safety (portId : BitVec 32) (epoch : ℕ) (registry : Registry)
    (hstart : Registry.new portId epoch = .ok registry)
    (engine : Except String (Mode × BitVec 32)) (stopping : Bool) (now : Instant)
    (steps : List ReplyStep) :
    let w := (ReplyWorld.start registry engine stopping now).run steps
    Abandoned w.trace ∧
      (w.phase = .ended (.ok ()) → ∀ id, ∃ n, stagesOf id w.trace = replyRounds n) ∧
      (∀ id verdict mark engine grounds, .answered id verdict mark engine grounds ∈ w.trace →
        (verdict = .drop ∧ mark = none) ∨
          ∃ decision, grounds = some decision ∧ verdict = .repeat ∧
            mark = some (applicationReplyRetryMark decision.reply.packet.packetMark) ∧
            Grounds w.trace id decision engine) ∧
      (∀ mark, applicationReplyRetryMark mark &&& APPLICATION_MARK_PAYLOAD_MASK =
        mark &&& APPLICATION_MARK_PAYLOAD_MASK) ∧
      (∀ backend passages mark, requeued backend passages mark ≤ 3) ∧
      w.pending.length ≤ 128 := by
  intro w
  have hsound : w.Sound := (ReplyWorld.sound_start hstart engine stopping now).run steps
  refine ⟨?_, ?_, ?_, applicationReplyRetryMark_payload, requeued_le_three, hsound.bound⟩
  · have haccounted := hsound.accounted
    unfold ReplyWorld.Accounted at haccounted
    split at haccounted
    · exact haccounted
    · exact haccounted.abandoned
  · intro hphase id
    obtain ⟨n, hn⟩ := hsound.stages (by simp [hphase]) id
    have hnone := hsound.knows
    simp only [ReplyWorld.Knows, hphase] at hnone
    have hempty : w.outstanding = [] := by
      simp [ReplyWorld.outstanding, ReplyWorld.held, hphase, hnone]
    exact ⟨n, by simpa [hempty] using hn⟩
  · intro id verdict mark engine grounds hmem
    exact (hsound.justified id verdict mark engine grounds hmem).grounds

namespace Sample

def replyMessage : ReplyMessage where
  packetId := some 9
  queue := 1339
  packet :=
    { iif := none
      oif := none
      src := .v4 2
      dst := .v4 1
      l4proto := protoUdp
      ports := some (2, 1)
      tcpFlags := none
      icmp := none
      hopLimit := 64
      ct := .untracked
      underLimit := false
      sameFamily := rfl
      ctFamily := by simp [Conntrack.origDst?] }
  echoIdentifier := 0
  mark := none

/-- A packet of the flow is read and its ticket drawn, and a reply arrives while the outgoing
queue counts `sequence` packets. The worker then decides about the reply and sends its verdict. -/
def replyRun (between : List ReplyStep) (sequence : BitVec 32) : ReplyWorld :=
  (ReplyWorld.start ⟨none, 0, [], progress⟩ (.ok (.enforcing, 1)) false 0).run
    ([.progress (.admitClassified [(1, .reply flowKey)]), .drawTicket flowKey 1] ++ between ++
      [.enterRound [], .visit, .receive (.ok (.datagram [.packet replyMessage])),
        .read (.ok sequence), .admitBatch, .read (.ok 0), .enterRound [9], .visit, .send (.ok ())])

def lastVerdict (w : ReplyWorld) : Option (QueueVerdict × Option ReplyDecision) :=
  match w.trace.getLast? with
  | some (.answered _ verdict _ _ grounds) => some (verdict, grounds)
  | _ => none

end Sample

/-- A reply is repeated after its packet was answered. -/
theorem reply_release_safety_sample :
    ((Sample.lastVerdict (Sample.replyRun [.progress (.complete 1)] 1)).map Prod.fst) =
        some .repeat ∧
      Abandoned (Sample.replyRun [.progress (.complete 1)] 1).trace :=
  ⟨by decide +kernel, (reply_release_safety 7 0 ⟨none, 0, [], Sample.progress⟩ rfl
    (.ok (.enforcing, 1)) false 0 _).1⟩

/-- A queue that counts far ahead of what was answered: the comparison wraps around, and a reply is
repeated before the first packet of its flow is answered. -/
theorem reply_repeated_before_verdict :
    ∃ decision, Sample.lastVerdict (Sample.replyRun [] (serial (2 ^ 31 + 1))) =
        some (.repeat, some decision) ∧
      decision.reply.readThrough.sequence = serial (2 ^ 31 + 1) ∧
      decision.reply.packet.key = Sample.flowKey ∧
      decision.ledger = [⟨1, .reply Sample.flowKey, false⟩] ∧
      ¬ decision.ledger.SettledFor (2 ^ 31 + 1) decision.reply.packet.key := by
  have hverdict : (Sample.lastVerdict (Sample.replyRun [] (serial (2 ^ 31 + 1)))).map (fun verdict =>
      (verdict.1, verdict.2.map fun decision => (decision.reply.readThrough.sequence,
        decision.reply.packet.key, decision.ledger))) =
      some (.repeat, some (serial (2 ^ 31 + 1), Sample.flowKey,
        [⟨1, .reply Sample.flowKey, false⟩])) := by
    decide +kernel
  obtain ⟨⟨verdict, grounds⟩, hlast, hgrounds⟩ := Option.map_eq_some_iff.mp hverdict
  obtain ⟨rfl, hgrounds⟩ := Prod.mk.inj hgrounds
  obtain ⟨decision, rfl, hdecision⟩ := Option.map_eq_some_iff.mp hgrounds
  obtain ⟨hsequence, hrest⟩ := Prod.mk.inj hdecision
  obtain ⟨hkey, hledger⟩ := Prod.mk.inj hrest
  refine ⟨decision, hlast, hsequence, hkey, hledger, ?_⟩
  intro hsettled
  rw [hledger, hkey] at hsettled
  have hopen := hsettled ⟨1, .reply Sample.flowKey, false⟩ List.mem_cons_self (by simp) (.inl rfl)
  cases hopen

end OpenShield
