import OpenShield.Core.Operations

/-!
# What the daemon acts on

The kernel, the state file and the subscribers, as far as the engine can tell. Operations on
the kernel and on the file may fail, and a failure does not say what it left behind. Which
operation fails and how is decided by a script of faults that every theorem quantifies over.

The learning worker writes its transaction without the engine lock. Its place in the order of
writes is reserved beforehand, and every other writer waits until the reservation is gone, so a
writer that waits lets the worker write first.
-/

namespace OpenShield

/-! ### Faults -/

inductive ApplyOutcome
  | installed
  | failedOld
  | failedNew
  | failedBlocked
  deriving DecidableEq, Repr

inductive SaveOutcome
  | saved
  | failedOld
  | failedNew
  deriving DecidableEq, Repr

/-- How the next operation turns out, whichever it is. -/
structure Fault where
  apply : ApplyOutcome
  /-- Blocking everything is an installation like any other; it has no policy of its own to
  leave behind. -/
  failClosed : ApplyOutcome
  save : SaveOutcome
  load : Bool
  deriving DecidableEq, Repr

def Fault.none : Fault := ⟨.installed, .installed, .saved, true⟩

def blockAllSnapshot : Snapshot := State.new.snapshot

def ApplyOutcome.succeeded (outcome : ApplyOutcome) : Bool := decide (outcome = .installed)

def ApplyOutcome.left (outcome : ApplyOutcome) (old new : Snapshot) : Snapshot :=
  match outcome with
  | .installed | .failedNew => new
  | .failedOld => old
  | .failedBlocked => blockAllSnapshot

/-- How often an installation resets the kernel counters: whatever replaces the policy does. -/
def ApplyOutcome.resets (outcome : ApplyOutcome) : ℕ := if outcome = .failedOld then 0 else 1

theorem ApplyOutcome.left_cases (outcome : ApplyOutcome) (old new : Snapshot) :
    outcome.left old new = old ∨ outcome.left old new = new ∨
      outcome.left old new = blockAllSnapshot := by
  cases outcome <;> simp [ApplyOutcome.left]

def SaveOutcome.succeeded (outcome : SaveOutcome) : Bool := decide (outcome = .saved)

def SaveOutcome.left (outcome : SaveOutcome) (old : Option State) (new : State) : Option State :=
  match outcome with
  | .saved | .failedNew => some new
  | .failedOld => old

/-! ### The learning worker -/

structure ApplicationLearningTransaction where
  token : BitVec 64
  previous : State
  candidate : State
  events : List Event
  deriving DecidableEq

inductive LearningStoreOutcome
  | saved
  /-- The state before the transaction is on disk. -/
  | previousRetained
  /-- It is not known what is on disk. -/
  | unsafeOutcome
  deriving DecidableEq, Repr

inductive LearningWorker
  | idle
  | prepared (transaction : ApplicationLearningTransaction)
  | persisted (transaction : ApplicationLearningTransaction) (outcome : LearningStoreOutcome)
  deriving DecidableEq

/-! ### The world -/

/-- What the daemon acts on. -/
structure World where
  /-- The installed policy. -/
  kernel : Snapshot
  installs : List Snapshot
  resets : ℕ := 0
  disk : Option State
  published : List Event
  latestCounters : Option Event := none
  /-- The transaction that has the next write. -/
  learningReservation : Option (BitVec 64)
  worker : LearningWorker
  /-- How the operations turn out, by their number. -/
  faults : ℕ → Fault
  /-- The number of the next operation. -/
  tick : ℕ

/-- What a failed write may have left behind. -/
inductive PersistedStateAfterFailure
  | previous
  | candidateOrUnknown
  deriving DecidableEq, Repr

def persistedStateAfterFailedSaveResult (persisted : Option State) (previous : State) :
    PersistedStateAfterFailure :=
  if persisted = some previous then .previous else .candidateOrUnknown

namespace World

variable (w : World)

def fault : Fault := w.faults w.tick

def apply (snapshot : Snapshot) : Bool × World :=
  (w.fault.apply.succeeded,
    { w with
      kernel := w.fault.apply.left w.kernel snapshot
      installs := w.installs ++ [w.fault.apply.left w.kernel snapshot]
      resets := w.resets + w.fault.apply.resets
      tick := w.tick + 1 })

def failClosed : Bool × World :=
  (w.fault.failClosed.succeeded,
    { w with
      kernel := w.fault.failClosed.left w.kernel blockAllSnapshot
      installs := w.installs ++ [w.fault.failClosed.left w.kernel blockAllSnapshot]
      resets := w.resets + w.fault.failClosed.resets
      tick := w.tick + 1 })

def save (state : State) : Bool × World :=
  (w.fault.save.succeeded,
    { w with disk := w.fault.save.left w.disk state, tick := w.tick + 1 })

/-- Read the state file; `none` is a failure. -/
def load : Option (Option State) × World :=
  (if w.fault.load then some w.disk else none, { w with tick := w.tick + 1 })

def publish (event : Event) : World :=
  { w with published := w.published ++ [event] }

def publishAll (events : List Event) : World := events.foldl publish w

def clearCounterSnapshot : World := { w with latestCounters := none }

/-- Judge the file after a failed write. A file that cannot be read may hold anything. -/
def persistedStateAfterFailedSave (previous : State) :
    PersistedStateAfterFailure × World :=
  match w.load with
  | (some persisted, w) => (persistedStateAfterFailedSaveResult persisted previous, w)
  | (none, w) => (.candidateOrUnknown, w)

def cancelLearningReservation (token : BitVec 64) : World :=
  if w.learningReservation = some token then { w with learningReservation := none } else w

def writeLearning (transaction : ApplicationLearningTransaction) :
    LearningStoreOutcome × World :=
  match w.save transaction.candidate with
  | (true, w) => (.saved, w)
  | (false, w) =>
    match w.persistedStateAfterFailedSave transaction.previous with
    | (.previous, w) => (.previousRetained, w)
    | (.candidateOrUnknown, w) =>
      match w.save transaction.previous with
      | (true, w) => (.previousRetained, w)
      | (false, w) => (.unsafeOutcome, w)

def persistLearning (transaction : ApplicationLearningTransaction) :
    LearningStoreOutcome × World :=
  if w.learningReservation ≠ some transaction.token then (.unsafeOutcome, w)
  else
    let (outcome, w) := w.writeLearning transaction
    (outcome, w.cancelLearningReservation transaction.token)

def persist : World :=
  match w.worker with
  | .prepared transaction =>
    let (outcome, w) := w.persistLearning transaction
    { w with worker := .persisted transaction outcome }
  | _ => w

def waitUntilExclusive : World :=
  if w.learningReservation = none then w else w.persist

def loadExclusive : Option (Option State) × World := w.waitUntilExclusive.load

def saveExclusive (state : State) : Bool × World := w.waitUntilExclusive.save state

def reserveLearning (token : BitVec 64) : Option World :=
  if w.learningReservation = none then some { w with learningReservation := some token } else none

/-! ### What the operations do -/

/-- Operations on the kernel do not touch anything else. -/
structure KernelStep (w w' : World) : Prop where
  disk : w'.disk = w.disk
  published : w'.published = w.published
  learningReservation : w'.learningReservation = w.learningReservation
  worker : w'.worker = w.worker

/-- Operations on the file leave the kernel and the subscribers alone. -/
structure FileStep (w w' : World) : Prop where
  kernel : w'.kernel = w.kernel
  installs : w'.installs = w.installs
  published : w'.published = w.published

theorem FileStep.refl : w.FileStep w := ⟨rfl, rfl, rfl⟩

theorem FileStep.trans {u v w : World} (huv : u.FileStep v) (hvw : v.FileStep w) : u.FileStep w :=
  ⟨hvw.kernel.trans huv.kernel, hvw.installs.trans huv.installs,
    hvw.published.trans huv.published⟩

def Ran (allowed : Snapshot → Prop) (w w' : World) : Prop :=
  ∃ installed, w'.installs = w.installs ++ installed ∧ (∀ k ∈ installed, allowed k) ∧
    w'.kernel = installed.getLast?.getD w.kernel

theorem FileStep.ran {w w' : World} (h : w.FileStep w') (allowed : Snapshot → Prop) :
    w.Ran allowed w' :=
  ⟨[], by rw [h.installs, List.append_nil], nofun, h.kernel⟩

theorem Ran.refl (allowed : Snapshot → Prop) (w : World) : w.Ran allowed w :=
  (FileStep.refl w).ran allowed

theorem Ran.trans {allowed : Snapshot → Prop} {u v w : World} (huv : u.Ran allowed v)
    (hvw : v.Ran allowed w) : u.Ran allowed w := by
  obtain ⟨first, hlog₁, hall₁, hkernel₁⟩ := huv
  obtain ⟨second, hlog₂, hall₂, hkernel₂⟩ := hvw
  refine ⟨first ++ second, by rw [hlog₂, hlog₁, List.append_assoc], fun k hk => ?_, ?_⟩
  · rcases List.mem_append.mp hk with hk | hk
    · exact hall₁ k hk
    · exact hall₂ k hk
  · rw [hkernel₂, hkernel₁, List.getLast?_append]
    cases second.getLast? <;> simp

theorem Ran.mono {allowed allowed' : Snapshot → Prop} {w w' : World} (h : w.Ran allowed w')
    (himp : ∀ k, allowed k → allowed' k) : w.Ran allowed' w' := by
  obtain ⟨installed, hlog, hall, hkernel⟩ := h
  exact ⟨installed, hlog, fun k hk => himp k (hall k hk), hkernel⟩

theorem Ran.kernel {allowed : Snapshot → Prop} {w w' : World} (h : w.Ran allowed w')
    (hstart : allowed w.kernel) : allowed w'.kernel := by
  obtain ⟨installed, -, hall, hkernel⟩ := h
  rw [hkernel]
  cases hlast : installed.getLast? with
  | none => exact hstart
  | some k => exact hall k (List.mem_of_getLast? hlast)

section Operations

variable {w w' : World} {ok : Bool}

theorem apply_spec {snapshot : Snapshot} (h : w.apply snapshot = (ok, w')) :
    w.KernelStep w' ∧ (ok = true → w'.kernel = snapshot) := by
  cases h
  refine ⟨⟨rfl, rfl, rfl, rfl⟩, fun hok => ?_⟩
  have houtcome : w.fault.apply = .installed := of_decide_eq_true hok
  simp only [houtcome, ApplyOutcome.left]

theorem apply_ran {snapshot : Snapshot} {allowed : Snapshot → Prop}
    (h : w.apply snapshot = (ok, w')) (hold : allowed w.kernel) (hnew : allowed snapshot)
    (hblock : allowed blockAllSnapshot) : w.Ran allowed w' := by
  cases h
  refine ⟨[w.fault.apply.left w.kernel snapshot], rfl, fun k hk => ?_, rfl⟩
  rw [List.mem_singleton] at hk
  rcases w.fault.apply.left_cases w.kernel snapshot with hleft | hleft | hleft
  · rw [hk, hleft]
    exact hold
  · rw [hk, hleft]
    exact hnew
  · rw [hk, hleft]
    exact hblock

theorem failClosed_spec (h : w.failClosed = (ok, w')) :
    w.KernelStep w' ∧ (ok = true → w'.kernel = blockAllSnapshot) := by
  cases h
  refine ⟨⟨rfl, rfl, rfl, rfl⟩, fun hok => ?_⟩
  have houtcome : w.fault.failClosed = .installed := of_decide_eq_true hok
  simp only [houtcome, ApplyOutcome.left]

theorem failClosed_ran {allowed : Snapshot → Prop} (h : w.failClosed = (ok, w'))
    (hold : allowed w.kernel) (hblock : allowed blockAllSnapshot) : w.Ran allowed w' := by
  cases h
  refine ⟨[w.fault.failClosed.left w.kernel blockAllSnapshot], rfl, fun k hk => ?_, rfl⟩
  rw [List.mem_singleton] at hk
  rcases w.fault.failClosed.left_cases w.kernel blockAllSnapshot with hleft | hleft | hleft
  · rw [hk, hleft]
    exact hold
  · rw [hk, hleft]
    exact hblock
  · rw [hk, hleft]
    exact hblock

theorem save_spec {state : State} (h : w.save state = (ok, w')) :
    w.FileStep w' ∧ w'.learningReservation = w.learningReservation ∧ w'.worker = w.worker ∧
      (ok = true → w'.disk = some state) ∧ (w'.disk = w.disk ∨ w'.disk = some state) := by
  cases h
  refine ⟨⟨rfl, rfl, rfl⟩, rfl, rfl, fun hok => ?_, ?_⟩
  · have houtcome : w.fault.save = .saved := of_decide_eq_true hok
    simp only [houtcome, SaveOutcome.left]
  · cases w.fault.save with
    | saved => exact .inr rfl
    | failedOld => exact .inl rfl
    | failedNew => exact .inr rfl

theorem load_spec {loaded : Option (Option State)} (h : w.load = (loaded, w')) :
    w.FileStep w' ∧ w'.learningReservation = w.learningReservation ∧ w'.worker = w.worker ∧
      (∀ persisted, loaded = some persisted → w.disk = persisted) := by
  unfold load at h
  cases h
  refine ⟨⟨rfl, rfl, rfl⟩, rfl, rfl, fun persisted hloaded => ?_⟩
  split_ifs at hloaded
  exact Option.some.inj hloaded

theorem persistedStateAfterFailedSave_spec {previous : State}
    {found : PersistedStateAfterFailure}
    (h : w.persistedStateAfterFailedSave previous = (found, w')) :
    w.FileStep w' ∧ w'.learningReservation = w.learningReservation ∧ w'.worker = w.worker ∧
      w'.disk = w.disk ∧ (found = .previous → w.disk = some previous) := by
  unfold persistedStateAfterFailedSave load at h
  split_ifs at h
  · cases h
    refine ⟨⟨rfl, rfl, rfl⟩, rfl, rfl, rfl, fun hfound => ?_⟩
    unfold persistedStateAfterFailedSaveResult at hfound
    split_ifs at hfound with hdisk
    exact hdisk
  · cases h
    exact ⟨⟨rfl, rfl, rfl⟩, rfl, rfl, rfl, fun hfound => by cases hfound⟩

theorem publishAll_eq (w : World) (events : List Event) :
    w.publishAll events = { w with published := w.published ++ events } := by
  induction events generalizing w with
  | nil => simp [publishAll]
  | cons event rest ih =>
    rw [publishAll, List.foldl_cons, ← publishAll, ih, publish, List.append_assoc]
    rfl

structure Wrote (transaction : ApplicationLearningTransaction) (outcome : LearningStoreOutcome)
    (w : World) : Prop where
  saved : outcome = .saved → w.disk = some transaction.candidate
  retained : outcome = .previousRetained → w.disk = some transaction.previous

variable {transaction : ApplicationLearningTransaction} {outcome : LearningStoreOutcome}

theorem writeLearning_spec (h : w.writeLearning transaction = (outcome, w')) :
    w.FileStep w' ∧ w'.learningReservation = w.learningReservation ∧ w'.worker = w.worker ∧
      Wrote transaction outcome w' := by
  unfold writeLearning at h
  rcases hsave : w.save transaction.candidate with ⟨ok, w₁⟩
  obtain ⟨hstep₁, hreservation₁, hworker₁, hdisk₁, -⟩ := save_spec hsave
  cases ok with
  | true =>
    simp only [hsave] at h
    cases h
    exact ⟨hstep₁, hreservation₁, hworker₁, ⟨fun _ => hdisk₁ rfl, nofun⟩⟩
  | false =>
    rcases hfound : w₁.persistedStateAfterFailedSave transaction.previous with ⟨found, w₂⟩
    obtain ⟨hstep₂, hreservation₂, hworker₂, hsame, hdisk₂⟩ :=
      persistedStateAfterFailedSave_spec hfound
    have hstep := hstep₁.trans hstep₂
    have hreservation := hreservation₂.trans hreservation₁
    have hworker := hworker₂.trans hworker₁
    cases found with
    | previous =>
      simp only [hsave, hfound] at h
      cases h
      exact ⟨hstep, hreservation, hworker, ⟨nofun, fun _ => hsame.trans (hdisk₂ rfl)⟩⟩
    | candidateOrUnknown =>
      rcases hagain : w₂.save transaction.previous with ⟨again, w₃⟩
      obtain ⟨hstep₃, hreservation₃, hworker₃, hdisk₃, -⟩ := save_spec hagain
      cases again with
      | true =>
        simp only [hsave, hfound, hagain] at h
        cases h
        exact ⟨hstep.trans hstep₃, hreservation₃.trans hreservation, hworker₃.trans hworker,
          ⟨nofun, fun _ => hdisk₃ rfl⟩⟩
      | false =>
        simp only [hsave, hfound, hagain] at h
        cases h
        exact ⟨hstep.trans hstep₃, hreservation₃.trans hreservation, hworker₃.trans hworker,
          ⟨nofun, nofun⟩⟩

theorem persist_of_reserved (hworker : w.worker = .prepared transaction)
    (hreserved : w.learningReservation = some transaction.token) :
    w.FileStep w.persist ∧ w.persist.learningReservation = none ∧
      ∃ outcome, w.persist.worker = .persisted transaction outcome ∧
        Wrote transaction outcome w.persist := by
  rcases hwrite : w.writeLearning transaction with ⟨outcome, w₁⟩
  obtain ⟨hstep, hreservation, -, hwrote⟩ := writeLearning_spec hwrite
  have hcancel : w₁.cancelLearningReservation transaction.token =
      { w₁ with learningReservation := none } := if_pos (hreservation.trans hreserved)
  have hpersist : w.persist =
      { w₁ with learningReservation := none, worker := .persisted transaction outcome } := by
    simp only [persist, hworker, persistLearning, hreserved, ne_eq, not_true_eq_false, if_false,
      hwrite, hcancel]
  rw [hpersist]
  exact ⟨⟨hstep.kernel, hstep.installs, hstep.published⟩, rfl, outcome, rfl,
    ⟨hwrote.saved, hwrote.retained⟩⟩

theorem persist_fileStep (w : World) : w.FileStep w.persist := by
  unfold persist
  split
  · next transaction _ =>
    unfold persistLearning
    split_ifs with hreserved
    · exact ⟨rfl, rfl, rfl⟩
    · obtain ⟨hstep, -⟩ := writeLearning_spec
        (show w.writeLearning transaction = (_, (w.writeLearning transaction).2) from rfl)
      unfold cancelLearningReservation
      simp only
      split_ifs
      · exact ⟨hstep.kernel, hstep.installs, hstep.published⟩
      · exact ⟨hstep.kernel, hstep.installs, hstep.published⟩
  · exact FileStep.refl w

theorem waitUntilExclusive_of_none (h : w.learningReservation = none) :
    w.waitUntilExclusive = w := if_pos h

theorem waitUntilExclusive_fileStep (w : World) : w.FileStep w.waitUntilExclusive := by
  unfold waitUntilExclusive
  split_ifs
  · exact FileStep.refl w
  · exact persist_fileStep w

inductive WorkerStep (w w' : World) : Prop
  | still (worker : w'.worker = w.worker)
      (reservation : w'.learningReservation = w.learningReservation)
  | wrote {transaction : ApplicationLearningTransaction} {outcome : LearningStoreOutcome}
      (prepared : w.worker = .prepared transaction)
      (worker : w'.worker = .persisted transaction outcome)
      (reservation : w'.learningReservation = none)

def Coherent (w : World) : Prop :=
  ∀ token, w.learningReservation = some token →
    ∃ transaction, w.worker = .prepared transaction ∧ transaction.token = token

theorem Coherent.of_eq {u v : World} (h : u.Coherent) (hworker : v.worker = u.worker)
    (hreservation : v.learningReservation = u.learningReservation) : v.Coherent := by
  intro token htoken
  rw [hworker]
  exact h token (hreservation ▸ htoken)

theorem waitUntilExclusive_spec (h : w.Coherent) :
    w.WorkerStep w.waitUntilExclusive ∧ w.waitUntilExclusive.learningReservation = none := by
  unfold waitUntilExclusive
  split_ifs with hreservation
  · exact ⟨.still rfl rfl, hreservation⟩
  · obtain ⟨token, htoken⟩ := Option.ne_none_iff_exists'.mp hreservation
    obtain ⟨transaction, hworker, rfl⟩ := h token htoken
    obtain ⟨-, hnone, outcome, hpersisted, -⟩ := persist_of_reserved hworker htoken
    exact ⟨.wrote hworker hpersisted hnone, hnone⟩

theorem saveExclusive_spec {state : State} (h : w.saveExclusive state = (ok, w')) :
    w.FileStep w' ∧ w'.learningReservation = w.waitUntilExclusive.learningReservation ∧
      w'.worker = w.waitUntilExclusive.worker ∧ (ok = true → w'.disk = some state) := by
  obtain ⟨hstep, hreservation, hworker, hdisk, -⟩ := save_spec h
  exact ⟨(waitUntilExclusive_fileStep w).trans hstep, hreservation, hworker, hdisk⟩

end Operations

end World

end OpenShield
