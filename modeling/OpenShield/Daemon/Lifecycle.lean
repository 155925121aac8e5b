import OpenShield.Daemon.TwoPhase
import OpenShield.Verdict.Backend

/-!
# The life of a daemon

A daemon blocks everything before it looks at its state, and opens the kernel only when its queues
are read. When it stops, it raises a flag, blocks everything, joins its threads and blocks
everything again. The threads go on until they are joined. The monitor looks at the flag under the
engine lock, the threads of the queues never install anything but a block, and clients are waited
for, but not longer than for a fixed time.
-/

namespace OpenShield

open Netfilter

/-- How far the main thread is. -/
inductive Stage
  /-- The queues are read, but the policy is not installed yet. -/
  | starting
  /-- The policy is installed; the other threads are set up, then clients are served. -/
  | running
  /-- The flag is raised, but nothing is blocked yet. -/
  | stopping
  /-- Blocking was tried; the threads are joined, and then it may be tried again. -/
  | closing (quarantined : Bool)
  deriving DecidableEq

namespace Stage

def stops : Stage → Bool
  | .stopping | .closing _ => true
  | _ => false

/-- The main thread could block everything for the stop. -/
def quarantined : Stage → Bool
  | .closing quarantined => quarantined
  | _ => false

end Stage

structure Daemon where
  runtime : Runtime
  stage : Stage
  shutdown : Bool
  /-- A client that was not waited for any longer made a request after the block. The source keeps
  no such record. -/
  late : Bool

/-- The threads of the queues call the engine only for these. -/
def Action.isWork : Action → Bool
  | .prepare .. | .persist | .finalize | .quarantine => true
  | _ => false

def Runtime.installShutdownQuarantine (rt : Runtime) : Bool × Runtime :=
  match rt.world.failClosed with
  | (true, world) => (true, ⟨rt.engine, world.clearCounterSnapshot⟩)
  | (false, world) => (false, ⟨{ rt.engine with poisoned := true, fatal := true }, world⟩)

namespace Daemon

inductive Step
  | activate
  /-- A set-up step failed, or the server is done. -/
  | leave
  | quarantine
  /-- A thread of the queues. -/
  | work (action : Action)
  /-- The monitor found that the kernel does not run the policy. -/
  | repair (expectedRevision : BitVec 64)
  | request (input : ControlInput) (request : ControlRequest)
  /-- A signal, or a worker that failed. -/
  | flag

def start (engine : Engine) (world : World) : Daemon := ⟨⟨engine, world⟩, .starting, false, false⟩

variable (json : Serializer) (d : Daemon)

def act (action : Action) : Daemon := { d with runtime := d.runtime.step json action }

/-- Clean up after a failed start, or stop: the flag is raised first. -/
def stop : Daemon := { d with stage := .stopping, shutdown := true }

def step : Step → Daemon
  | .activate =>
    if d.stage ≠ .starting then d
    else if (Runtime.activateStartupPolicy d.runtime).1 then
      { d.act json .activate with stage := .running }
    else (d.act json .activate).stop
  | .leave => if d.stage ≠ .running then d else d.stop
  | .quarantine =>
    if !d.stage.stops then d
    else
      let (ok, runtime) := d.runtime.installShutdownQuarantine
      { d with runtime, stage := .closing (d.stage.quarantined || ok) }
  | .work action => if !action.isWork then d else d.act json action
  | .repair expectedRevision =>
    if d.stage = .starting ∨ d.shutdown then d
    else
      let failed := !(Runtime.repairPolicy json d.runtime expectedRevision).1.toBool
      let d := d.act json (.repair expectedRevision)
      { d with shutdown := failed && d.runtime.engine.restartRequired }
  | .request input request =>
    if d.stage = .starting then d
    else
      let late := d.late || d.stage.quarantined
      let d := d.act json (.control input request)
      { d with shutdown := d.shutdown || d.runtime.engine.restartRequired, late }
  | .flag => { d with shutdown := true }

def run (steps : List Step) : Daemon := steps.foldl (step json) d

end Daemon

/-! ### Nothing passes -/

/-- No packet passes in either direction, whatever the consumers of the queues answer. -/
def Snapshot.Blocks (kernel : Snapshot) : Prop :=
  ∀ (backend : Backend) (p : Packet) (d : Meta Counter)
    (answers : List (BitVec 16 → Meta Counter → Answer)),
    (runFrom (backend.inputHook kernel p) 0 d answers).2 = .dropped ∧
      (runFrom (backend.outputHook kernel p) 0 d answers).2 = .dropped

theorem blocks_blockAllSnapshot : blockAllSnapshot.Blocks := by
  intro backend p d answers
  let snapshot : ValidSnapshot := ⟨blockAllSnapshot, Runtime.new_wellFormed.snapshot_validate⟩
  constructor
  · rw [Backend.inputHook_blockAll snapshot p backend rfl, runFrom_zero_of_done rfl]
  · obtain ⟨later, hhook, -⟩ := Backend.outputHook_blockAll snapshot p backend rfl
    rw [hhook, runFrom_zero_of_done rfl]

def World.Blocked (w : World) : Prop := w.kernel = blockAllSnapshot

variable {json : Serializer} {w w' : World}

theorem World.Blocked.failClosed {ok : Bool} (h : w.Blocked) (hclosed : w.failClosed = (ok, w')) :
    w'.Blocked :=
  (@failClosed_ran w w' ok (· = blockAllSnapshot) hclosed h rfl).kernel h

namespace Runtime

variable {rt : Runtime}

/-- The threads of the queues leave a blocked kernel blocked. -/
theorem work_blocked {action : Action} (hwork : action.isWork = true) (h : rt.world.Blocked) :
    (rt.step json action).world.Blocked := by
  have hemergency (revisionFloor : BitVec 64) :
      (enterEmergencyFailClosed json rt revisionFloor).world.Blocked :=
    (@enterEmergencyFailClosed_spec json rt _ revisionFloor (· = blockAllSnapshot) rfl h
      rfl).ran.kernel h
  cases action with
  | activate | control | repair => cases hwork
  | prepare expectedFlowGeneration endpoints supply =>
    simp only [step]
    split
    · rcases hprepare : prepareApplicationLearning json rt expectedFlowGeneration endpoints supply
        with ⟨result, rt'⟩
      rcases prepareApplicationLearning_cases hprepare with ⟨rfl, hnot⟩ | ⟨rfl, -, rfl, -⟩ |
        ⟨transaction, rfl, hprepared⟩
      · rwa [handOver_of_none hnot]
      · exact h
      · exact (congrArg World.kernel hprepared.world).trans h
    · exact h
  | persist => exact (World.persist_fileStep rt.world).kernel.trans h
  | finalize =>
    simp only [step]
    split
    · next transaction outcome _ =>
      rcases hfinalize : finalizeApplicationLearning json rt transaction outcome with ⟨result, rt'⟩
      rcases finalizeApplicationLearning_cases hfinalize with ⟨-, -, rfl⟩ | ⟨-, -, rfl, -⟩ |
        ⟨-, -, ⟨-, -, -, rfl⟩ | ⟨-, -, -, rfl⟩ | ⟨-, rfl⟩⟩
      · exact h
      · exact h
      · rw [World.publishAll_eq]
        exact h
      · exact h
      · exact hemergency _
    · exact h
  | quarantine =>
    simp only [step, quarantineAfterRuntimeFailure]
    split
    · rcases hfail : rt.world.failClosed with ⟨ok, w⟩
      cases ok <;> exact h.failClosed hfail
    · split_ifs
      · exact h
      · exact hemergency _

theorem installShutdownQuarantine_blocked
    (h : rt.installShutdownQuarantine.1 = true ∨ rt.world.Blocked) :
    rt.installShutdownQuarantine.2.world.Blocked := by
  unfold installShutdownQuarantine at h ⊢
  rcases hfail : rt.world.failClosed with ⟨ok, w⟩
  rw [hfail] at h
  cases ok with
  | true => exact (World.failClosed_spec hfail).2 rfl
  | false => exact (h.resolve_left nofun).failClosed hfail

end Runtime

theorem Stage.stops_of_quarantined {stage : Stage} (h : stage.quarantined = true) :
    stage.stops = true := by
  cases stage <;> first | rfl | cases h

namespace Daemon

variable {d : Daemon}

/-- The invariant of a daemon's life. -/
structure Closed (d : Daemon) : Prop where
  starting : d.stage = .starting → d.runtime.world.Blocked
  quarantined : d.stage.quarantined = true → d.late = false → d.runtime.world.Blocked
  /-- A stop can not be taken back. -/
  shutdown : d.stage.stops = true → d.shutdown = true

/-- The flag keeps the monitor away, so only a late client can open what was blocked. -/
theorem step_closed (h : d.Closed) (step : Step) : (d.step json step).Closed := by
  cases step with
  | activate | leave =>
    simp only [Daemon.step]
    split_ifs
    · exact h
    all_goals exact ⟨nofun, nofun, by simp [stop, Stage.stops]⟩
  | quarantine =>
    simp only [Daemon.step]
    split_ifs with hstops
    · exact h
    · refine ⟨nofun, fun hok hlate => ?_, fun _ => h.shutdown (by simpa using hstops)⟩
      refine Runtime.installShutdownQuarantine_blocked ?_
      exact (Bool.or_eq_true_iff.mp hok).symm.imp_right fun hok => h.quarantined hok hlate
  | work action =>
    simp only [Daemon.step]
    split_ifs with hskip
    · exact h
    · have hwork : action.isWork = true := by simpa using hskip
      exact ⟨fun hstage => Runtime.work_blocked hwork (h.starting hstage),
        fun hok hlate => Runtime.work_blocked hwork (h.quarantined hok hlate), h.shutdown⟩
  | repair expectedRevision =>
    simp only [Daemon.step]
    split_ifs with hskip
    · exact h
    · obtain ⟨hstarting, hflag⟩ := not_or.mp hskip
      have hruns (hstops : d.stage.stops = true) : False := hflag (h.shutdown hstops)
      exact ⟨fun hstage => absurd hstage hstarting,
        fun hok => (hruns (Stage.stops_of_quarantined hok)).elim, fun hstops => (hruns hstops).elim⟩
  | request input request =>
    simp only [Daemon.step]
    split_ifs with hskip
    · exact h
    · refine ⟨fun hstage => absurd hstage hskip, fun hok hlate => ?_,
        fun hstops => Bool.or_eq_true_iff.mpr (.inl (h.shutdown hstops))⟩
      cases (Bool.or_eq_false_iff.mp hlate).2.symm.trans hok
  | flag => exact ⟨h.starting, h.quarantined, fun _ => rfl⟩

theorem run_closed (h : d.Closed) (steps : List Step) : (d.run json steps).Closed := by
  induction steps generalizing d with
  | nil => exact h
  | cons step rest ih => exact ih (step_closed h step)

end Daemon

/-- Outside of service nothing passes: nothing until the policy is activated, and nothing any more
after the daemon could block everything for its stop, in every order of its threads, unless a
client outlived the time it was waited for. -/
theorem closed_outside_service {learningLimits : LearningLimits} {now : Timestamp}
    {supply : Supply} {engine : Engine} (hfresh : w.Fresh)
    (hload : Runtime.loadWithLearningLimits json w learningLimits now supply = (.ok engine, w'))
    (steps : List Daemon.Step) :
    let d := (Daemon.start engine w').run json steps
    d.stage = .starting ∨ (d.stage.quarantined = true ∧ d.late = false) →
      d.runtime.world.kernel.Blocks := by
  intro d
  obtain ⟨-, -, hkernel, -⟩ := Runtime.loadWithLearningLimits_sound hfresh hload
  have hstart : (Daemon.start engine w').Closed := ⟨fun _ => hkernel, nofun, nofun⟩
  have hclosed : d.Closed := Daemon.run_closed hstart steps
  have hblocks (h : d.runtime.world.Blocked) : d.runtime.world.kernel.Blocks :=
    h ▸ blocks_blockAllSnapshot
  rintro (hstage | ⟨hstage, hlate⟩)
  · exact hblocks (hclosed.starting hstage)
  · exact hblocks (hclosed.quarantined hstage hlate)

def Sample.loaded : Engine := Runtime.loadedEngine firstState .default

def Sample.served (steps : List Daemon.Step) : Daemon :=
  (Daemon.start loaded loadedWorld).run Sample.json (.activate :: .leave :: .quarantine :: steps)

/-- The monitor of the sample comes too late to install the policy again. -/
theorem closed_outside_service_sample :
    (Sample.served [.repair 1]).stage = .closing true ∧
      (Sample.served [.repair 1]).runtime.world.kernel.Blocks := by
  have hstage : (Sample.served [.repair 1]).stage = .closing true := by decide +kernel
  refine ⟨hstage, closed_outside_service Sample.world_fresh Sample.loads _ (.inr ⟨?_, ?_⟩)⟩
  · exact (congrArg Stage.quarantined hstage).trans rfl
  · decide +kernel

/-! ### Emergencies -/

namespace Runtime

variable {rt rt' : Runtime}

/-- An engine that is in an emergency leaves everything as it was in `rt`. -/
structure Frozen (rt rt' : Runtime) : Prop where
  poisoned : rt'.engine.poisoned = true
  active : rt'.engine.startupPolicy = .active
  state : rt'.engine.state = rt.engine.state
  kernel : rt'.world.kernel = rt.world.kernel
  installs : rt'.world.installs = rt.world.installs
  published : rt'.world.published = rt.world.published

theorem Frozen.step (h : rt.Frozen rt') (action : Action) : rt.Frozen (rt'.step json action) := by
  cases action with
  | activate =>
    simp only [Runtime.step, activateStartupPolicy, h.active]
    exact h
  | control input request =>
    simp only [Runtime.step, handleControl, h.poisoned, if_true]
    exact h
  | prepare expectedFlowGeneration endpoints supply =>
    simp only [Runtime.step]
    split
    · simp only [prepareApplicationLearning, h.poisoned, true_or, if_true]
      exact h
    · exact h
  | persist =>
    have hstep := World.persist_fileStep rt'.world
    exact ⟨h.poisoned, h.active, h.state, hstep.kernel.trans h.kernel,
      hstep.installs.trans h.installs, hstep.published.trans h.published⟩
  | finalize =>
    simp only [Runtime.step]
    split
    · next transaction outcome _ =>
      rcases hfinalize : finalizeApplicationLearning json rt' transaction outcome with ⟨result, rt''⟩
      rcases finalizeApplicationLearning_cases hfinalize with ⟨-, -, rfl⟩ | ⟨-, -, rfl, -⟩ |
        ⟨-, hhealthy, -⟩
      · exact ⟨h.poisoned, h.active, h.state, h.kernel, h.installs, h.published⟩
      · exact ⟨h.poisoned, h.active, h.state, h.kernel, h.installs, h.published⟩
      · cases hhealthy.symm.trans h.poisoned
    · exact h
  | repair expectedRevision =>
    simp only [Runtime.step, repairPolicy, h.poisoned, if_true]
    exact h
  | quarantine =>
    simp only [Runtime.step, quarantineAfterRuntimeFailure, h.active, h.poisoned, true_or, if_true]
    exact h

end Runtime

/-- An emergency is final: whatever is asked of an engine that is in one, it installs nothing,
publishes nothing and keeps its state, until the daemon is started again. -/
theorem emergency_is_final {rt : Runtime} (hpoisoned : rt.engine.poisoned = true)
    (hactive : rt.engine.startupPolicy = .active) (actions : List Action) :
    rt.Frozen (rt.run json actions) := by
  suffices h : ∀ rt', rt.Frozen rt' → rt.Frozen (rt'.run json actions) from
    h rt ⟨hpoisoned, hactive, rfl, rfl, rfl, rfl⟩
  induction actions with
  | nil => exact fun rt' h => h
  | cons action rest ih => exact fun rt' h => ih _ (h.step action)

theorem emergency_is_final_sample :
    (Sample.prepared.run Sample.json [.quarantine]).Frozen
      ((Sample.prepared.run Sample.json [.quarantine]).run Sample.json
        [.persist, .finalize, .repair 1]) :=
  emergency_is_final rfl rfl _

/-- A failure before the activation does not keep the policy from being installed. -/
example :
    ((Runtime.run Sample.json ⟨Sample.loaded, Sample.loadedWorld⟩ [.quarantine]).step Sample.json
      .activate).world.kernel = Sample.firstState.snapshot := by
  decide +kernel

end OpenShield
