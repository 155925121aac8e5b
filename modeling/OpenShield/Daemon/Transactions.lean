import OpenShield.Daemon.Engine

/-!
# Control transactions

A request changes the policy in memory, in the kernel and on disk, and each of the three can
fail. What is left behind is one of three things: the candidate everywhere, the previous policy
everywhere, or an engine in emergency that blocks everything.
-/

namespace OpenShield

/-! ### Revisions -/

theorem maxRevision_toNat (a b : BitVec 64) :
    (maxRevision a b).toNat = max a.toNat b.toNat := by
  unfold maxRevision
  split_ifs with h
  · exact (max_eq_right (BitVec.le_def.mp h)).symm
  · exact (max_eq_left (by rw [BitVec.le_def] at h; omega)).symm

theorem le_saturatingSucc (a : BitVec 64) : a ≤ saturatingSucc a := by
  unfold saturatingSucc
  split_ifs with h
  · exact BitVec.le_refl a
  · have hsucc : (a + 1).toNat = a.toNat + 1 := toNat_add_one_of_ne_allOnes h
    rw [BitVec.le_def, hsucc]
    exact Nat.le_succ _

theorem le_saturatingSucc_maxRevision {a floor : BitVec 64} (h : a ≤ floor) (b : BitVec 64) :
    a ≤ saturatingSucc (maxRevision floor b) := by
  have hmax : floor ≤ maxRevision floor b := by
    rw [BitVec.le_def, maxRevision_toNat]
    exact Nat.le_max_left _ _
  exact BitVec.le_trans (BitVec.le_trans h hmax) (le_saturatingSucc _)

/-! ### Rebuilding a state -/

theorem State.fromSnapshot_eq_ok {json : Serializer} {snapshot : Snapshot} {t : State}
    (h : State.fromSnapshot json snapshot = .ok t) :
    t.validate json = .ok () ∧
      t = { revision := snapshot.revision
            flowGeneration := snapshot.flowGeneration
            mode := snapshot.mode
            enforcementStrategy := .strict
            rules := snapshot.rules.foldl (fun rules rule => rules.insert rule.id rule)
              OrderedMap.empty } := by
  unfold State.fromSnapshot at h
  obtain ⟨-, h⟩ := Except.bind_unit_eq_ok_iff.mp h
  obtain ⟨hvalid, h⟩ := Except.bind_unit_eq_ok_iff.mp h
  cases h
  exact ⟨hvalid, rfl⟩

theorem State.WellFormed.rules_rebuilt {s : State} (h : s.WellFormed) :
    s.snapshot.rules.foldl (fun rules rule => rules.insert rule.id rule) OrderedMap.empty =
      s.rules :=
  s.rules.foldl_insert_values Rule.id fun entry hentry => (h.entries entry hentry).1

/-- The decision policy and the admission index are those of the state, which is well-formed; a
prepared transaction has an index of its own. -/
structure Engine.Consistent (e : Engine) : Prop where
  wellFormed : e.state.WellFormed
  policy : e.applicationPolicy = e.state.applicationPolicy
  admission : e.applicationLearningAdmission = .fromState e.state e.learningLimits
  pending : e.pendingApplicationLearningAdmission =
    e.pendingApplicationLearningCandidate.map (.fromState · e.learningLimits)

theorem Engine.Consistent.flagged {e : Engine} (h : e.Consistent)
    (poisoned fatal restartRequired : Bool) (startupPolicy : StartupPolicy)
    (learningPersistence : LearningPersistence)
    (supersededLearningTransaction : Option (BitVec 64)) :
    Engine.Consistent { e with
      poisoned, fatal, restartRequired, startupPolicy, learningPersistence
      supersededLearningTransaction } :=
  ⟨h.wellFormed, h.policy, h.admission, h.pending⟩

theorem Engine.emergencyProtocolError_code (e : Engine) :
    e.emergencyProtocolError.code = .backendUnavailable := by
  unfold Engine.emergencyProtocolError
  split_ifs <;> rfl

namespace Runtime

structure Idle (rt : Runtime) : Prop where
  persistence : ∀ token, rt.engine.learningPersistence ≠ .inFlight token
  candidate : rt.engine.pendingApplicationLearningCandidate = none
  reservation : rt.world.learningReservation = none

/-! ### Emergency -/

/-- Everything is blocked in memory and in the kernel, the rules are kept, and a restart is only
asked for if it would find the same on disk. -/
structure Blocked (rt : Runtime) (retained : State) (revisionFloor : BitVec 64) : Prop where
  kernel : rt.world.kernel = blockAllSnapshot
  mode : rt.engine.state.mode = .blockAll
  rules : rt.engine.state.rules = retained.rules
  revision : rt.engine.state.revision =
    saturatingSucc (maxRevision revisionFloor retained.revision)
  restart : rt.engine.restartRequired = true → rt.world.disk = some rt.engine.state

/-- What an emergency leaves behind. -/
structure Emergency (rt : Runtime) (revisionFloor : BitVec 64) (allowed : Snapshot → Prop)
    (rt' : Runtime) : Prop where
  poisoned : rt'.engine.poisoned = true
  superseded : rt'.engine.supersededLearningTransaction = rt.engine.supersededLearningTransaction
  next : rt'.engine.nextLearningTransaction = rt.engine.nextLearningTransaction
  published : rt'.world.published = rt.world.published
  consistent : rt.engine.Consistent → rt'.engine.Consistent
  revision : rt.engine.state.revision ≤ revisionFloor →
    rt.engine.state.revision ≤ rt'.engine.state.revision
  ran : rt.world.Ran allowed rt'.world
  worker : rt.world.Coherent → rt.world.WorkerStep rt'.world
  blocked : rt'.engine.fatal = false → (retainedState rt.engine).WellFormed →
    rt'.Blocked (retainedState rt.engine) revisionFloor

variable {json : Serializer} {rt rt' : Runtime}

theorem enterEmergencyFailClosed_spec
    {revisionFloor : BitVec 64} {allowed : Snapshot → Prop}
    (h : enterEmergencyFailClosed json rt revisionFloor = rt') (hold : allowed rt.world.kernel)
    (hblock : allowed blockAllSnapshot) : rt.Emergency revisionFloor allowed rt' := by
  unfold enterEmergencyFailClosed at h
  rcases hclosed : rt.world.failClosed with ⟨ok, w₁⟩
  obtain ⟨hstep₁, hkernel⟩ := World.failClosed_spec hclosed
  have hran₁ : rt.world.Ran allowed w₁ := World.failClosed_ran hclosed hold hblock
  have hstill : rt.world.WorkerStep w₁ := .still hstep₁.worker hstep₁.learningReservation
  cases ok with
  | false =>
    simp only [hclosed] at h
    subst h
    exact ⟨rfl, rfl, rfl, hstep₁.published, fun h => h.flagged ..,
      fun _ => BitVec.le_refl _, hran₁, fun _ => hstill, nofun⟩
  | true =>
    simp only [hclosed] at h
    cases hbuild : State.fromSnapshot json (emergencySnapshot (retainedState rt.engine)
        revisionFloor) with
    | error error =>
      simp only [hbuild] at h
      subst h
      exact ⟨rfl, rfl, rfl, hstep₁.published, fun h => h.flagged ..,
        fun _ => BitVec.le_refl _, hran₁, fun _ => hstill, nofun⟩
    | ok failClosed =>
      simp only [hbuild] at h
      obtain ⟨hvalid, hstate⟩ := State.fromSnapshot_eq_ok hbuild
      have hwellFormed := State.wellFormed_of_validate hvalid
      have hrevision (hfloor : rt.engine.state.revision ≤ revisionFloor) :
          rt.engine.state.revision ≤ failClosed.revision := by
        rw [hstate]
        exact le_saturatingSucc_maxRevision hfloor _
      rcases hsave : w₁.clearCounterSnapshot.saveExclusive failClosed with ⟨saved, w₂⟩
      obtain ⟨hstep₂, hreservation, hworker, hdisk⟩ := World.saveExclusive_spec hsave
      have hpublished := hstep₂.published.trans hstep₁.published
      have hran := hran₁.trans (hstep₂.ran allowed)
      -- the write waits for that of the worker
      have hwork (hcoherent : rt.world.Coherent) : rt.world.WorkerStep w₂ := by
        have hafter : w₁.clearCounterSnapshot.Coherent :=
          hcoherent.of_eq hstep₁.worker hstep₁.learningReservation
        cases (World.waitUntilExclusive_spec hafter).1 with
        | still hw hr =>
          exact .still ((hworker.trans hw).trans hstep₁.worker)
            ((hreservation.trans hr).trans hstep₁.learningReservation)
        | wrote hp hw hr =>
          exact .wrote (hstep₁.worker.symm.trans hp) (hworker.trans hw) (hreservation.trans hr)
      have hblocked : w₂.kernel = blockAllSnapshot := hstep₂.kernel.trans (hkernel rfl)
      have hrules (hretained : (retainedState rt.engine).WellFormed) :
          failClosed.rules = (retainedState rt.engine).rules := by
        rw [hstate]
        exact hretained.rules_rebuilt
      cases saved with
      | true =>
        simp only [hsave] at h
        subst h
        exact ⟨rfl, rfl, rfl, hpublished, fun _ => ⟨hwellFormed, rfl, rfl, rfl⟩, hrevision, hran,
          hwork,
          fun _ hretained =>
          ⟨hblocked, by rw [hstate]; rfl, hrules hretained, by rw [hstate]; rfl,
            fun _ => hdisk rfl⟩⟩
      | false =>
        simp only [hsave] at h
        subst h
        exact ⟨rfl, rfl, rfl, hpublished, fun _ => ⟨hwellFormed, rfl, rfl, rfl⟩, hrevision, hran,
          hwork,
          fun _ hretained =>
          ⟨hblocked, by rw [hstate]; rfl, hrules hretained, by rw [hstate]; rfl, nofun⟩⟩

theorem Emergency.after {w : World} {revisionFloor : BitVec 64}
    {allowed : Snapshot → Prop} (h : Emergency ⟨rt.engine, w⟩ revisionFloor allowed rt')
    (hpublished : w.published = rt.world.published) (hran : rt.world.Ran allowed w)
    (hworker : w.worker = rt.world.worker)
    (hreservation : w.learningReservation = rt.world.learningReservation) :
    rt.Emergency revisionFloor allowed rt' where
  poisoned := h.poisoned
  superseded := h.superseded
  next := h.next
  published := h.published.trans hpublished
  consistent := h.consistent
  revision := h.revision
  ran := hran.trans h.ran
  worker hcoherent := by
    cases h.worker (hcoherent.of_eq hworker hreservation) with
    | still hw hr => exact .still (hw.trans hworker) (hr.trans hreservation)
    | wrote hp hw hr => exact .wrote (hworker.symm.trans hp) hw hr
  blocked := h.blocked

/-! ### Commits -/

/-- What undoing a failed write has restored. -/
theorem rollBack_spec {w w' : World} {previous : State} {backend storage : Bool}
    {allowed : Snapshot → Prop} (hreservation : w.learningReservation = none)
    (h : rollBack w previous = ((backend, storage), w')) (hold : allowed w.kernel)
    (hprevious : allowed previous.snapshot) (hblock : allowed blockAllSnapshot) :
    w'.published = w.published ∧ w'.learningReservation = none ∧ w'.worker = w.worker ∧
      w.Ran allowed w' ∧ (backend = true → w'.kernel = previous.snapshot) ∧
      (storage = true → w'.disk = some previous) := by
  unfold rollBack at h
  rcases happly : w.apply previous.snapshot with ⟨ok, w₁⟩
  obtain ⟨hstep₁, hkernel⟩ := World.apply_spec happly
  have hran₁ : w.Ran allowed w₁ := World.apply_ran happly hold hprevious hblock
  have hreservation₁ := hstep₁.learningReservation.trans hreservation
  rcases hfound : w₁.persistedStateAfterFailedSave previous with ⟨found, w₂⟩
  obtain ⟨hstep₂, hreservation₂, hworker₂, hsame, hdisk⟩ :=
    World.persistedStateAfterFailedSave_spec hfound
  have hreservation₂ := hreservation₂.trans hreservation₁
  have hworker := hworker₂.trans hstep₁.worker
  have hran := hran₁.trans (hstep₂.ran allowed)
  simp only [happly, World.waitUntilExclusive_of_none hreservation₁, hfound] at h
  have hpublished := hstep₂.published.trans hstep₁.published
  cases found with
  | previous =>
    cases h
    exact ⟨hpublished, hreservation₂, hworker, hran,
      fun hok => hstep₂.kernel.trans (hkernel hok), fun _ => hsame.trans (hdisk rfl)⟩
  | candidateOrUnknown =>
    rcases hsave : w₂.saveExclusive previous with ⟨saved, w₃⟩
    obtain ⟨hstep₃, hreservation₃, hworker₃, hsaved⟩ := World.saveExclusive_spec hsave
    rw [World.waitUntilExclusive_of_none hreservation₂] at hreservation₃ hworker₃
    simp only [hsave] at h
    cases h
    exact ⟨hstep₃.published.trans hpublished, hreservation₃.trans hreservation₂,
      hworker₃.trans hworker, hran.trans (hstep₃.ran allowed),
      fun hok => (hstep₃.kernel.trans hstep₂.kernel).trans (hkernel hok), hsaved⟩

def MayRun (rt : Runtime) (candidate : State) (k : Snapshot) : Prop :=
  k = rt.world.kernel ∨ k = blockAllSnapshot ∨ k = rt.engine.state.snapshot ∨
    k = candidate.snapshot

inductive CommitOutcome (rt : Runtime) (candidate : State) (events : List Event) :
    Except ProtocolError Unit → Runtime → Prop
  /-- The candidate is in force everywhere. -/
  | committed {rt' : Runtime}
      (engine : rt'.engine =
        { rt.engine.replaceState candidate with learningPersistence := .active })
      (kernel : rt'.world.kernel = candidate.snapshot) (disk : rt'.world.disk = some candidate)
      (published : rt'.world.published = rt.world.published ++ events)
      (ran : rt.world.Ran (rt.MayRun candidate) rt'.world)
      (worker : rt'.world.worker = rt.world.worker)
      (reservation : rt'.world.learningReservation = none) :
      CommitOutcome rt candidate events (.ok ()) rt'
  /-- The previous policy is in force everywhere. -/
  | restored {rt' : Runtime} {error : ProtocolError} (engine : rt'.engine = rt.engine)
      (kernel : rt'.world.kernel = rt.engine.state.snapshot)
      (disk : rt.world.disk = some rt.engine.state → rt'.world.disk = some rt.engine.state)
      (published : rt'.world.published = rt.world.published)
      (ran : rt.world.Ran (rt.MayRun candidate) rt'.world)
      (worker : rt'.world.worker = rt.world.worker)
      (reservation : rt'.world.learningReservation = none) :
      CommitOutcome rt candidate events (.error error) rt'
  | emergency {rt' : Runtime} {error : ProtocolError}
      (entered : rt.Emergency (maxRevision rt.engine.state.revision candidate.revision)
        (rt.MayRun candidate) rt') :
      CommitOutcome rt candidate events (.error error) rt'

theorem commit_spec {candidate : State}
    {events : List Event} {result : Except ProtocolError Unit}
    (hreservation : rt.world.learningReservation = none)
    (h : commit json rt candidate events = (result, rt')) :
    CommitOutcome rt candidate events result rt' := by
  have hold : rt.MayRun candidate rt.world.kernel := .inl rfl
  have hblock : rt.MayRun candidate blockAllSnapshot := .inr (.inl rfl)
  have hprevious : rt.MayRun candidate rt.engine.state.snapshot := .inr (.inr (.inl rfl))
  have hcandidate : rt.MayRun candidate candidate.snapshot := .inr (.inr (.inr rfl))
  unfold commit at h
  rcases happly : rt.world.apply candidate.snapshot with ⟨ok, w₁⟩
  obtain ⟨hstep₁, hkernel₁⟩ := World.apply_spec happly
  have hran₁ := World.apply_ran happly hold hcandidate hblock
  have hreservation₁ := hstep₁.learningReservation.trans hreservation
  simp only [happly] at h
  cases ok with
  | false =>
    rcases hback : w₁.apply rt.engine.state.snapshot with ⟨back, w₂⟩
    obtain ⟨hstep₂, hkernel₂⟩ := World.apply_spec hback
    have hran₂ := hran₁.trans (World.apply_ran hback (hran₁.kernel hold) hprevious hblock)
    have hpublished := hstep₂.published.trans hstep₁.published
    have hworker := hstep₂.worker.trans hstep₁.worker
    have hreservation₂ := hstep₂.learningReservation.trans hstep₁.learningReservation
    simp only [hback] at h
    cases back with
    | true =>
      cases h
      exact .restored rfl (hkernel₂ rfl) (fun hdisk => (hstep₂.disk.trans hstep₁.disk).trans hdisk)
        hpublished hran₂ hworker (hreservation₂.trans hreservation)
    | false =>
      cases h
      exact .emergency ((enterEmergencyFailClosed_spec rfl (hran₂.kernel hold) hblock).after
        hpublished hran₂ hworker hreservation₂)
  | true =>
    rcases hsave : w₁.saveExclusive candidate with ⟨saved, w₂⟩
    obtain ⟨hstep₂, hreservation₂, hworker₂, hdisk⟩ := World.saveExclusive_spec hsave
    rw [World.waitUntilExclusive_of_none hreservation₁] at hreservation₂ hworker₂
    have hran₂ := hran₁.trans (hstep₂.ran _)
    have hpublished := hstep₂.published.trans hstep₁.published
    have hworker := hworker₂.trans hstep₁.worker
    have hnone := hreservation₂.trans hreservation₁
    simp only [hsave] at h
    cases saved with
    | true =>
      simp only [World.publishAll_eq] at h
      cases h
      exact .committed rfl (hstep₂.kernel.trans (hkernel₁ rfl)) (hdisk rfl)
        (congrArg (· ++ events) hpublished) hran₂ hworker hnone
    | false =>
      rcases hback : rollBack w₂ rt.engine.state with ⟨⟨backend, storage⟩, w₃⟩
      obtain ⟨hpublished₃, hreservation₃, hworker₃, hran₃, hkernel₃, hdisk₃⟩ :=
        rollBack_spec hnone hback (hran₂.kernel hold) hprevious hblock
      have hran := hran₂.trans hran₃
      have hpublished := hpublished₃.trans hpublished
      have hworker := hworker₃.trans hworker
      -- only a complete rollback avoids the emergency
      have hemergency : rt.Emergency (maxRevision rt.engine.state.revision candidate.revision)
          (rt.MayRun candidate) (enterEmergencyFailClosed json ⟨rt.engine, w₃⟩
            (maxRevision rt.engine.state.revision candidate.revision)) :=
        (enterEmergencyFailClosed_spec rfl (hran.kernel hold) hblock).after hpublished hran hworker
          (hreservation₃.trans hreservation.symm)
      simp only [hback] at h
      cases backend with
      | false =>
        cases h
        exact .emergency hemergency
      | true =>
        cases storage with
        | false =>
          cases h
          exact .emergency hemergency
        | true =>
          cases h
          exact .restored rfl (hkernel₃ rfl) (fun _ => hdisk₃ rfl) hpublished hran hworker
            hreservation₃

/-! ### Requests -/

theorem commitRequest_cases {input : ControlInput}
    {request : ControlRequest} {result : Except ProtocolError Ack}
    (h : commitRequest json rt input request = (result, rt')) :
    (rt' = rt ∧ ∃ error, result = .error error) ∨
    ∃ candidate events affected committed,
      controlCandidate json input rt.engine.state request = .ok (candidate, events, affected) ∧
      commit json rt candidate events = (committed, rt') ∧
      result = committed.map fun _ => ⟨candidate.revision, affected⟩ := by
  unfold commitRequest at h
  split at h
  · cases h
    exact .inl ⟨rfl, _, rfl⟩
  · next candidate events affected hcandidate =>
    cases h
    exact .inr ⟨candidate, events, affected, _, hcandidate, rfl, rfl⟩

/-- A request is refused, or its candidate is committed, or it is a `blockAll` that overtakes a
learning transaction. -/
theorem handleControl_cases {input : ControlInput}
    {request : ControlRequest} {result : Except ProtocolError Ack}
    (h : handleControl json rt input request = (result, rt')) :
    (rt' = rt ∧ ∃ error, result = .error error) ∨
    (rt.engine.poisoned = false ∧ (∀ token, rt.engine.learningPersistence ≠ .inFlight token) ∧
      ∃ candidate events affected committed,
        controlCandidate json input rt.engine.state request = .ok (candidate, events, affected) ∧
        commit json rt candidate events = (committed, rt') ∧
        result = committed.map fun _ => ⟨candidate.revision, affected⟩) ∨
    (rt.engine.poisoned = false ∧ ∃ token committed,
      (∃ expected, request = .setMode expected .blockAll) ∧
      rt.engine.learningPersistence = .inFlight token ∧
      commitBlockAllDuringLearning json rt token (input.draw 0).2 = (committed, rt') ∧
      result = committed.map fun revision => ⟨revision, none⟩) := by
  unfold handleControl at h
  split_ifs at h with hpoisoned hrevision
  · cases h
    exact .inl ⟨rfl, _, rfl⟩
  · cases h
    exact .inl ⟨rfl, _, rfl⟩
  · rw [Bool.not_eq_true] at hpoisoned
    cases hpersistence : rt.engine.learningPersistence with
    | inFlight token =>
      simp only [hpersistence, requestDuringLearning] at h
      split at h
      · cases h
        exact .inr (.inr ⟨hpoisoned, token, _, ⟨_, rfl⟩, rfl, rfl, rfl⟩)
      · cases h
        exact .inl ⟨rfl, _, rfl⟩
    | active | paused =>
      simp only [hpersistence] at h
      rcases commitRequest_cases h with hrefused | hcommitted
      · exact .inl hrefused
      · exact .inr (.inl ⟨hpoisoned, nofun, hcommitted⟩)

theorem controlCandidate_spec {input : ControlInput} {s candidate : State}
    {request : ControlRequest} {events : List Event} {affected : Option Rule}
    (h : controlCandidate json input s request = .ok (candidate, events, affected)) :
    s.Changes events candidate ∧ candidate.validate json = .ok () := by
  unfold controlCandidate at h
  obtain ⟨⟨t, es, a⟩, happly, h⟩ := Except.bind_eq_ok_iff.mp h
  obtain ⟨hvalid, h⟩ := Except.bind_unit_eq_ok_iff.mp h
  cases h
  exact ⟨applyControlToCandidate_changes happly, liftCore_eq_ok_iff.mp hvalid⟩

/-- An activated engine between two transactions: memory, kernel and file agree. -/
structure Settled (rt : Runtime) : Prop extends Idle rt where
  healthy : rt.engine.poisoned = false
  activated : rt.engine.startupPolicy = .active
  wellFormed : rt.engine.state.WellFormed
  kernel : rt.world.kernel = rt.engine.state.snapshot
  disk : rt.world.disk = some rt.engine.state

theorem Idle.retainedState_eq {rt : Runtime} (h : rt.Idle) :
    retainedState rt.engine = rt.engine.state := by
  rw [retainedState, h.candidate]
  rfl

theorem emergency_revision {s candidate : State} (h : s.revision ≤ candidate.revision) :
    saturatingSucc (maxRevision (maxRevision s.revision candidate.revision) s.revision) =
      saturatingSucc candidate.revision := by
  refine congrArg saturatingSucc (BitVec.eq_of_toNat_eq ?_)
  rw [BitVec.le_def] at h
  rw [maxRevision_toNat, maxRevision_toNat]
  omega

theorem le_maxRevision_left (a b : BitVec 64) : a ≤ maxRevision a b := by
  rw [BitVec.le_def, maxRevision_toNat]
  exact Nat.le_max_left _ _

theorem lt_saturatingSucc {a : BitVec 64} (h : a ≠ BitVec.allOnes 64) : a < saturatingSucc a := by
  have hsucc : (a + 1).toNat = a.toNat + 1 := toNat_add_one_of_ne_allOnes h
  rw [saturatingSucc, if_neg h, BitVec.lt_def, hsucc]
  exact Nat.lt_succ_self _

/-- Requests are atomic across memory, file and kernel, whatever fails. -/
theorem handleControl_atomic {json : Serializer} {rt rt' : Runtime} (hsettled : rt.Settled)
    {input : ControlInput} {request : ControlRequest} {result : Except ProtocolError Ack}
    (h : handleControl json rt input request = (result, rt')) :
    (∀ ack, result = .ok ack → ∃ candidate events affected,
      controlCandidate json input rt.engine.state request = .ok (candidate, events, affected) ∧
      rt'.engine.state = candidate ∧ rt'.world.disk = some candidate ∧
      rt'.world.kernel = candidate.snapshot) ∧
    (∀ error, result = .error error → rt'.engine.poisoned = false →
      rt'.engine.state = rt.engine.state ∧ rt'.world.disk = rt.world.disk ∧
      rt'.world.kernel = rt.world.kernel ∧ rt'.world.published = rt.world.published) ∧
    (rt'.engine.poisoned = true → rt'.engine.fatal = false → ∃ candidate events affected,
      controlCandidate json input rt.engine.state request = .ok (candidate, events, affected) ∧
      rt'.world.kernel = blockAllSnapshot ∧ rt'.engine.state.mode = .blockAll ∧
      rt'.engine.state.rules = rt.engine.state.rules ∧
      (candidate.revision ≠ BitVec.allOnes 64 →
        rt.engine.state.revision < rt'.engine.state.revision ∧
        candidate.revision < rt'.engine.state.revision) ∧
      (candidate.revision = BitVec.allOnes 64 → rt'.engine.state.revision = BitVec.allOnes 64) ∧
      (rt'.engine.restartRequired = true → rt'.world.disk = some rt'.engine.state)) := by
  rcases handleControl_cases h with ⟨rfl, error, rfl⟩ |
    ⟨-, -, candidate, events, affected, committed, hcandidate, hcommit, rfl⟩ |
    ⟨-, token, committed, -, hflight, -, -⟩
  · refine ⟨fun ack hack => ?_, fun _ _ _ => ⟨rfl, rfl, rfl, rfl⟩, fun hpoisoned => ?_⟩
    · cases hack
    · rw [hsettled.healthy] at hpoisoned
      cases hpoisoned
  · obtain ⟨hchanges, -⟩ := controlCandidate_spec hcandidate
    have hle := hchanges.revision_le
    cases commit_spec hsettled.reservation hcommit with
    | committed engine kernel disk published ran worker reservation =>
      refine ⟨fun _ _ => ⟨candidate, events, affected, hcandidate, ?_, disk, kernel⟩,
        fun error herror => ?_, fun hpoisoned => ?_⟩
      · rw [engine]
        rfl
      · cases herror
      · have hhealthy : rt'.engine.poisoned = rt.engine.poisoned := by
          rw [engine]
          rfl
        rw [hhealthy, hsettled.healthy] at hpoisoned
        cases hpoisoned
    | restored engine kernel disk published ran worker reservation =>
      refine ⟨fun ack hack => ?_, fun _ _ _ => ⟨congrArg Engine.state engine, ?_, ?_, published⟩,
        fun hpoisoned => ?_⟩
      · cases hack
      · rw [disk hsettled.disk, hsettled.disk]
      · rw [kernel, hsettled.kernel]
      · rw [engine, hsettled.healthy] at hpoisoned
        cases hpoisoned
    | emergency entered =>
      refine ⟨fun ack hack => ?_, fun _ _ hhealthy => ?_, fun _ hfatal => ?_⟩
      · cases hack
      · rw [entered.poisoned] at hhealthy
        cases hhealthy
      · have hretained := hsettled.retainedState_eq
        have hblocked := entered.blocked hfatal (hretained ▸ hsettled.wellFormed)
        have hrevision := hblocked.revision
        rw [hretained, emergency_revision hle] at hrevision
        refine ⟨candidate, events, affected, hcandidate, hblocked.kernel, hblocked.mode,
          hretained ▸ hblocked.rules, fun hnot => ?_, fun hlast => ?_, hblocked.restart⟩
        · have hlt := lt_saturatingSucc hnot
          rw [hrevision]
          exact ⟨BitVec.lt_def.mpr (Nat.lt_of_le_of_lt (BitVec.le_def.mp hle) (BitVec.lt_def.mp hlt)),
            hlt⟩
        · rw [hrevision, hlast]
          rfl
  · exact absurd hflight (hsettled.persistence token)

namespace Sample

def learning (revision : BitVec 64) : State :=
  { State.new with mode := .learning, flowGeneration := 1, revision }

theorem learning_wellFormed (revision : BitVec 64) : (learning revision).WellFormed :=
  ⟨Nat.zero_le _, rfl, by rintro entry ⟨⟩⟩

def runtime (state : State) (faults : ℕ → Fault) : Runtime :=
  { engine := { loadedEngine state .default with startupPolicy := .active }
    world :=
      { kernel := state.snapshot, installs := [], disk := some state, published := []
        learningReservation := none, worker := .idle, faults, tick := 0 } }

theorem runtime_settled {state : State} (h : state.WellFormed) (faults : ℕ → Fault) :
    (runtime state faults).Settled :=
  { persistence := nofun, candidate := rfl, reservation := rfl, healthy := rfl, activated := rfl
    wellFormed := h, kernel := rfl, disk := rfl }

def twoFailures (n : ℕ) : Fault :=
  if n < 2 then { Fault.none with apply := .failedOld } else Fault.none

def input : ControlInput := ⟨fun _ => (0, 0), fun _ _ => .error ""⟩

end Sample

/-- A request that fails with its rollback leaves everything blocked. -/
theorem handleControl_atomic_sample :
    (Sample.runtime (Sample.learning 7) Sample.twoFailures).Settled ∧
      (handleControl Sample.json (Sample.runtime (Sample.learning 7) Sample.twoFailures)
        Sample.input (.setMode 7 .enforcing)).2.world.kernel = blockAllSnapshot := by
  have hsettled : (Sample.runtime (Sample.learning 7) Sample.twoFailures).Settled :=
    Sample.runtime_settled (Sample.learning_wellFormed 7) _
  obtain ⟨-, -, h⟩ := handleControl_atomic hsettled
    (show handleControl Sample.json _ Sample.input (.setMode 7 .enforcing) = (_, _) from rfl)
  obtain ⟨candidate, events, affected, -, hkernel, -⟩ := h (by decide +kernel) (by decide +kernel)
  exact ⟨hsettled, hkernel⟩

/-- At the last revision an emergency is not above the candidate. -/
theorem emergency_revision_not_above :
    (Sample.runtime (Sample.learning (BitVec.allOnes 64 - 1)) Sample.twoFailures).Settled ∧
      ∃ candidate events affected,
        controlCandidate Sample.json Sample.input (Sample.learning (BitVec.allOnes 64 - 1))
          (.setMode (BitVec.allOnes 64 - 1) .enforcing) = .ok (candidate, events, affected) ∧
        (handleControl Sample.json
          (Sample.runtime (Sample.learning (BitVec.allOnes 64 - 1)) Sample.twoFailures)
          Sample.input (.setMode (BitVec.allOnes 64 - 1) .enforcing)).2.engine.poisoned = true ∧
        (handleControl Sample.json
          (Sample.runtime (Sample.learning (BitVec.allOnes 64 - 1)) Sample.twoFailures)
          Sample.input (.setMode (BitVec.allOnes 64 - 1) .enforcing)).2.engine.fatal = false ∧
        ¬ candidate.revision < (handleControl Sample.json
          (Sample.runtime (Sample.learning (BitVec.allOnes 64 - 1)) Sample.twoFailures)
          Sample.input (.setMode (BitVec.allOnes 64 - 1) .enforcing)).2.engine.state.revision := by
  refine ⟨Sample.runtime_settled (Sample.learning_wellFormed _) _, _, _, _, rfl, ?_, ?_, ?_⟩ <;>
    decide +kernel

end Runtime

end OpenShield
