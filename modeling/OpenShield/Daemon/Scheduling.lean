import OpenShield.Daemon.Enforcing

/-!
# The scheduler of waiting packets

Packets are pushed into the fair queue of the reader and taken out in batches, in any order of
calls.
-/

namespace OpenShield

def PendingPacket.lane (packet : PendingPacket) : UserKey × ScheduledFlow :=
  ScheduledFlow.forPacket packet.work

inductive SchedulerCall where
  | push (packet : PendingPacket)
  | takeBatch

/-- The queue, and what went through it. -/
structure Scheduler where
  queue : PacketQueue
  pushed : List PendingPacket
  taken : List PendingPacket

namespace Scheduler

def new : Scheduler := ⟨FairQueue.empty, [], []⟩

def nextBatch (s : Scheduler) : List PendingPacket × PacketQueue :=
  FairQueue.takeBatch MAX_PACKET_BATCH_SIZE FLOW_QUANTUM s.queue

def step (s : Scheduler) : SchedulerCall → Scheduler
  | .push packet =>
    match PacketQueue.push packet s.queue with
    | .ok queue => { s with queue, pushed := s.pushed ++ [packet] }
    | .error _ => s
  | .takeBatch => { s with queue := s.nextBatch.2, taken := s.taken ++ s.nextBatch.1 }

def run (s : Scheduler) (calls : List SchedulerCall) : Scheduler := calls.foldl step s

structure Serves (s : Scheduler) : Prop where
  filed : s.queue.Filed PendingPacket.lane
  conserved : (s.taken ++ s.queue.items).Perm s.pushed
  ordered : ∀ lane, laneOf PendingPacket.lane lane s.taken ++
    laneOf PendingPacket.lane lane s.queue.items = laneOf PendingPacket.lane lane s.pushed

theorem Serves.step {s : Scheduler} (h : s.Serves) (call : SchedulerCall) :
    (s.step call).Serves := by
  cases call with
  | push packet =>
    simp only [Scheduler.step]
    cases hpush : PacketQueue.push packet s.queue with
    | error _ => exact h
    | ok queue =>
      refine ⟨(h.filed.push hpush packet.lane).1, ?_, fun lane => ?_⟩
      · have hperm := (FairQueue.items_push hpush h.filed.counted).1
        calc (s.taken ++ queue.items).Perm _ := hperm.append_left s.taken
          List.Perm _ (packet :: (s.taken ++ s.queue.items)) := List.perm_middle
          List.Perm _ _ := (h.conserved.cons packet).trans (List.perm_append_singleton ..).symm
      · rw [laneOf_append, (h.filed.push hpush lane).2, ← List.append_assoc, h.ordered]
  | takeBatch =>
    have hbatch := h.filed.takeBatch MAX_PACKET_BATCH_SIZE FLOW_QUANTUM
    refine ⟨hbatch.1, ?_, fun lane => ?_⟩
    · simp only [Scheduler.step, List.append_assoc]
      exact ((FairQueue.items_takeBatch _ _ s.queue h.filed.counted).1.append_left _).trans
        h.conserved
    · simp only [Scheduler.step, laneOf_append, List.append_assoc]
      rw [← h.ordered, ← hbatch.2]
      rfl

theorem Serves.run {s : Scheduler} (h : s.Serves) (calls : List SchedulerCall) :
    (s.run calls).Serves := by
  induction calls generalizing s with
  | nil => exact h
  | cons call calls ih => exact ih (h.step call)

theorem serves_new : new.Serves :=
  ⟨FairQueue.filed_empty, List.Perm.refl _, fun _ => rfl⟩

theorem Serves.run_owed {s : Scheduler} (h : s.Serves) {key : UserKey} {bound : ℕ}
    {out : List PendingPacket}
    (howed : s.queue.Owed PendingPacket.lane FLOW_QUANTUM key bound out)
    (calls : List SchedulerCall) :
    ∃ later, (s.run calls).taken = s.taken ++ later ∧
      (s.run calls).queue.Owed PendingPacket.lane FLOW_QUANTUM key bound (out ++ later) := by
  induction calls generalizing s out with
  | nil => exact ⟨[], (List.append_nil _).symm, by rwa [List.append_nil]⟩
  | cons call calls ih =>
    obtain ⟨now, htaken, hnow⟩ : ∃ now, (s.step call).taken = s.taken ++ now ∧
        (s.step call).queue.Owed PendingPacket.lane FLOW_QUANTUM key bound (out ++ now) := by
      cases call with
      | push packet =>
        refine ⟨[], ?_⟩
        simp only [Scheduler.step, List.append_nil]
        cases hpush : PacketQueue.push packet s.queue with
        | error _ => exact ⟨rfl, howed⟩
        | ok queue => exact ⟨rfl, howed.push hpush⟩
      | takeBatch => exact ⟨s.nextBatch.1, rfl, howed.takeBatch h.filed _ (by decide)⟩
    obtain ⟨later, hlater, howed'⟩ := ih (h.step call) hnow
    refine ⟨now ++ later, ?_, by rwa [← List.append_assoc]⟩
    rw [← List.append_assoc, ← htaken]
    exact hlater

/-- After any calls: what was pushed was taken or waits, and the queue counts it; no user and no
flow waits without packets; a batch is as large as it can be; a flow keeps its order; of the
packets taken from now on, one among the first `4 * k + 1` is a given user's if `k` users are ahead
of it; and only a full queue refuses a packet, without a change. -/
theorem run_fair (calls : List SchedulerCall) :
    let s := new.run calls
    (s.taken ++ s.queue.items).Perm s.pushed ∧ s.queue.pending = s.queue.items.length ∧
    (∀ user ∈ s.queue.users, user.flows ≠ [] ∧ ∀ flow ∈ user.flows, flow.items ≠ []) ∧
    s.nextBatch.1.length = min s.queue.pending 32 ∧
    (∀ lane, laneOf PendingPacket.lane lane s.taken ++
      laneOf PendingPacket.lane lane s.queue.items = laneOf PendingPacket.lane lane s.pushed) ∧
    (∀ ahead key behind, s.queue.users.map (·.key) = ahead ++ key :: behind →
      ∀ more, ∃ later, (s.run more).taken = s.taken ++ later ∧
        (later.length ≤ 4 * ahead.length ∨
          ∃ packet ∈ later.take (4 * ahead.length + 1), packet.lane.1 = key)) ∧
    ∀ packet e, PacketQueue.push packet s.queue = .error e →
      128 ≤ s.queue.pending ∧ s.step (.push packet) = s := by
  intro s
  have h : s.Serves := serves_new.run calls
  refine ⟨h.conserved, h.filed.counted, fun user huser => ?_, ?_, h.ordered, ?_, ?_⟩
  · have hfiled := h.filed.filed user huser
    exact ⟨hfiled.flows_ne_nil, fun flow hflow => (hfiled.filed flow hflow).1⟩
  · rw [Nat.min_comm]
    exact FairQueue.length_takeBatch 32 (by decide) s.queue h.filed.counted
  · intro ahead key behind hkeys more
    obtain ⟨later, htaken, howed⟩ := @Serves.run_owed s h key (4 * ahead.length) []
      (.inr ⟨ahead, behind, hkeys, le_of_eq (Nat.zero_add _)⟩) more
    refine ⟨later, htaken, ?_⟩
    rcases howed with hnext | ⟨_, _, _, hfew⟩
    · exact .inr hnext
    · exact .inl (le_trans (Nat.le_add_right _ _) hfew)
  · intro packet e herror
    refine ⟨Nat.le_of_not_lt fun hroom => ?_, by rw [Scheduler.step, herror]⟩
    obtain ⟨_, hok⟩ := FairQueue.push_eq_ok
      "pending application packet scheduler exceeds its fixed bound"
      packet.lane.1 packet.lane.2 packet hroom
    cases herror.symm.trans hok

end Scheduler

end OpenShield
