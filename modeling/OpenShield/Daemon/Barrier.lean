import OpenShield.Daemon.Progress

/-!
# Barriers of the application queue

What it means that a barrier is reached. The tracker answers from the packets it has not retired,
with numbers modulo `2 ^ 32`; the meaning is a statement about the ledger of all packets, under
their full numbers.
-/

namespace OpenShield

namespace Ledger

theorem mem_takeWhile_le {l : Ledger} (hl : l.Pairwise fun a b => a.number < b.number) (b : ℕ)
    (packet : AdmittedPacket) :
    packet ∈ l.takeWhile (fun packet => decide (packet.number ≤ b)) ↔
      packet ∈ l ∧ packet.number ≤ b := by
  induction l with
  | nil => simp
  | cons first rest ih =>
    obtain ⟨hfirst, hrest⟩ := List.pairwise_cons.mp hl
    by_cases hle : first.number ≤ b
    · rw [List.takeWhile_cons_of_pos (by simpa using hle), List.mem_cons, ih hrest, List.mem_cons]
      constructor
      · rintro (rfl | ⟨hmem, h⟩)
        · exact ⟨.inl rfl, hle⟩
        · exact ⟨.inr hmem, h⟩
      · rintro ⟨rfl | hmem, h⟩
        · exact .inl rfl
        · exact .inr ⟨hmem, h⟩
    · rw [List.takeWhile_cons_of_neg (by simpa using hle)]
      refine ⟨fun h => absurd h List.not_mem_nil, ?_⟩
      rintro ⟨hmem, h⟩
      rcases List.mem_cons.mp hmem with rfl | hmem
      · exact absurd h hle
      · have := hfirst packet hmem
        omega

theorem settledFor_iff_live (l : Ledger) (b : ℕ) (key : FlowKey) :
    l.SettledFor b key ↔ ∀ packet ∈ l.live, packet.number ≤ b →
      QueueProgress.PacketProgress.passes key ⟨packet.flow, packet.completed⟩ = true := by
  constructor
  · intro h packet hmem hle
    have hsettled := h packet (mem_of_mem_live hmem) hle
    cases hflow : packet.flow with
    | reply flow =>
      by_cases hkey : flow = key
      · simp [QueueProgress.PacketProgress.passes, hsettled (.inl (by rw [hflow, hkey]))]
      · simp [QueueProgress.PacketProgress.passes, hkey]
    | unrelated => simp [QueueProgress.PacketProgress.passes]
    | unknown => simp [QueueProgress.PacketProgress.passes, hsettled (.inr hflow)]
  · intro h packet hmem hle hflow
    by_contra hopen
    have hopen' : packet.completed = false := by simpa using hopen
    have hpasses := h packet (mem_live_of_open hmem hopen') hle
    rcases hflow with hflow | hflow <;>
      simp [QueueProgress.PacketProgress.passes, hopen', hflow] at hpasses

end Ledger

private theorem takeWhile_congr {α : Type} {f g : α → Bool} {l : List α}
    (h : ∀ a ∈ l, f a = g a) : l.takeWhile f = l.takeWhile g := by
  induction l with
  | nil => rfl
  | cons a l ih =>
    rw [List.takeWhile_cons, List.takeWhile_cons, h a List.mem_cons_self,
      ih fun b hmem => h b (List.mem_cons_of_mem _ hmem)]

namespace QueueProgress

variable {p : QueueProgress} {l : Ledger} {b : ℕ}

theorem Tracks.reached_iff (h : p.Tracks l) (hb : l.Window b) :
    p.reached ⟨p.identity, serial b⟩ = true ↔ b ≤ l.completedNumber := by
  have hle := h.numbered.completedNumber_le
  have hlow := hb.1
  have hhigh := hb.2
  have hcompare := serial_sub_lt_half_iff (a := l.completedNumber) (b := b) (by omega) (by omega)
  rw [← hcompare, reached, h.completed]
  simp [Ledger.completedNumber]

theorem Tracks.reachedForFlow_iff (h : p.Tracks l) (hb : l.Window b) (key : FlowKey) :
    p.reachedForFlow ⟨p.identity, serial b⟩ key = true ↔
      b ≤ l.lastNumber ∧ l.SettledFor b key := by
  have hle := h.numbered.completedNumber_le
  have hlow := hb.1
  have hhigh := hb.2
  rw [Ledger.settledFor_iff_live, reachedForFlow]
  split_ifs with hreached hout
  · -- All packets up to the barrier are in the completed beginning.
    have hcompleted := (h.reached_iff hb).mp hreached
    refine iff_of_true rfl ⟨hcompleted.trans hle, ?_⟩
    intro packet hmem hnumber
    have := h.numbered.completedNumber_lt hmem
    omega
  · have hcompare := serial_sub_lt_half_iff (a := l.lastNumber) (b := b) (by omega) (by omega)
    have hbehind : ¬ b ≤ l.lastNumber := by
      rw [← hcompare, ← h.lastAdmitted]
      simpa [BitVec.not_lt] using hout
    simp [hbehind]
  · have hcompare := serial_sub_lt_half_iff (a := l.lastNumber) (b := b) (by omega) (by omega)
    have hlast : b ≤ l.lastNumber := by
      rw [← hcompare, ← h.lastAdmitted]
      simpa [BitVec.not_le] using hout
    have hwhile : (p.order.takeWhile fun id => decide (serial b - id < serialHalf)) =
        (l.live.takeWhile fun packet => decide (packet.number ≤ b)).map (·.id) := by
      rw [h.order, List.takeWhile_map]
      refine congrArg _ (takeWhile_congr fun packet hmem => ?_)
      have hbehind := h.numbered.completedNumber_lt hmem
      have hupto := Ledger.le_lastNumber h.numbered.increasing (Ledger.mem_of_mem_live hmem)
      exact decide_eq_decide.mpr (serial_sub_lt_half_iff (by omega) (by omega))
    rw [hwhile, List.all_map, List.all_eq_true]
    simp only [hlast, true_and, Ledger.mem_takeWhile_le h.numbered.live_increasing b,
      Function.comp_apply]
    constructor
    · intro hall packet hmem hnumber
      simpa [h.verdicts_of_mem hmem] using hall packet ⟨hmem, hnumber⟩
    · rintro hall packet ⟨hmem, hnumber⟩
      simpa [h.verdicts_of_mem hmem] using hall packet hmem hnumber

theorem reachedForFlow_of_epoch_ne {barrier : ReadThroughBarrier}
    (h : barrier.identity.epoch ≠ p.identity.epoch) (key : FlowKey) :
    p.reachedForFlow barrier key = false := by
  have hne : p.identity.epoch ≠ barrier.identity.epoch := h.symm
  simp [reachedForFlow, reached, hne]

end QueueProgress

namespace Ledger

variable {l : Ledger} {b : ℕ} {key : FlowKey}

theorem settledFor_admit {packets : List (BitVec 32 × OutgoingFlow)} {q : QueueProgress}
    {last : BitVec 32} (hcheck : q.checkIds (serial l.lastNumber) packets = .ok last)
    (hb : b ≤ l.lastNumber) (h : l.SettledFor b key) :
    b ≤ (l.admitAll packets).lastNumber ∧ (l.admitAll packets).SettledFor b key := by
  induction packets generalizing l with
  | nil => exact ⟨hb, h⟩
  | cons packet packets ih =>
    obtain ⟨packetId, flow⟩ := packet
    simp only [QueueProgress.checkIds, Except.bind_unit_eq_ok_iff, ensure_eq_ok_iff] at hcheck
    obtain ⟨⟨hadvance, -⟩, hcheck⟩ := hcheck
    have hge : l.lastNumber ≤ unwrap l.lastNumber packetId := Nat.le_add_right _ _
    have hne : unwrap l.lastNumber packetId ≠ l.lastNumber :=
      fun heq => hadvance ((sub_serial_eq_zero_iff _ _).mpr heq)
    refine ih ?_ ?_ ?_
    · simpa using hcheck
    · rw [lastNumber_append_singleton]
      exact hb.trans hge
    · intro other hmem hle hflow
      rcases List.mem_append.mp hmem with hmem | hmem
      · exact h other hmem hle hflow
      · rw [List.mem_singleton.mp hmem] at hle
        simp only at hle
        omega

theorem settledFor_mark (h : l.SettledFor b key) (target : AdmittedPacket) :
    SettledFor (l.map (mark target)) b key := by
  intro packet hmem hle hflow
  obtain ⟨original, horiginal, rfl⟩ := List.mem_map.mp hmem
  rw [mark_number] at hle
  rw [mark_flow] at hflow
  exact mark_completed_of_completed target (h original horiginal hle hflow)

end Ledger

namespace ProgressRun

variable {r : ProgressRun} {b : ℕ} {key : FlowKey}

theorem settledFor_step (h : r.progress.Tracks r.ledger) (call : ProgressCall)
    (hb : b ≤ r.ledger.lastNumber) (hsettled : r.ledger.SettledFor b key) :
    b ≤ (r.step call).ledger.lastNumber ∧ (r.step call).ledger.SettledFor b key := by
  rcases step_cases h call with hstep | ⟨packets, last, -, hcheck, hstep⟩ | ⟨target, hmem, -, hstep⟩
  · rw [hstep]
    exact ⟨hb, hsettled⟩
  · rw [h.lastAdmitted] at hcheck
    rw [hstep]
    exact Ledger.settledFor_admit hcheck hb hsettled
  · rw [hstep, Ledger.complete_of_mem_live h.numbered hmem]
    exact ⟨by rwa [Ledger.lastNumber_map_mark], Ledger.settledFor_mark hsettled target⟩

theorem settledFor_run (h : r.progress.Tracks r.ledger) (calls : List ProgressCall)
    (hb : b ≤ r.ledger.lastNumber) (hsettled : r.ledger.SettledFor b key) :
    b ≤ (r.run calls).ledger.lastNumber ∧ (r.run calls).ledger.SettledFor b key := by
  induction calls generalizing r with
  | nil => exact ⟨hb, hsettled⟩
  | cons call calls ih =>
    obtain ⟨hb', hsettled'⟩ := settledFor_step h call hb hsettled
    exact ih (tracks_step h call) hb' hsettled'

end ProgressRun

/-- After any calls to a new tracker: within a window, a barrier of its runtime is reached for a
flow exactly if the queue was read up to it and every packet up to it that may belong to the flow
is completed. A reached barrier stays reached; a failed admission changes nothing; a barrier of
another runtime is not reached. -/
theorem barrier_reached_iff_settled (portId : BitVec 32) (epoch : ℕ) (start : QueueProgress)
    (hstart : QueueProgress.new portId epoch = .ok start) (calls : List ProgressCall) (b : ℕ)
    (key : FlowKey) :
    let r := ProgressRun.run ⟨start, []⟩ calls
    let barrier : ReadThroughBarrier := ⟨⟨portId, epoch⟩, serial b⟩
    (r.ledger.Window b →
      (r.progress.reachedForFlow barrier key = true ↔
        b ≤ r.ledger.lastNumber ∧ r.ledger.SettledFor b key)) ∧
      (∀ more, r.ledger.Window b → (r.run more).ledger.Window b →
        r.progress.reachedForFlow barrier key = true →
        (r.run more).progress.reachedForFlow barrier key = true) ∧
      (∀ packets error after,
        (QueueProgress.admitClassified packets).exec r.progress = (.error error, after) →
        after = r.progress) ∧
      ∀ other : ReadThroughBarrier, other.identity.epoch ≠ epoch →
        r.progress.reachedForFlow other key = false := by
  intro r barrier
  obtain ⟨hempty, hidentity⟩ := QueueProgress.tracks_new hstart
  have htracks : r.progress.Tracks r.ledger := ProgressRun.tracks_run hempty calls
  have hsame : r.progress.identity = ⟨portId, epoch⟩ :=
    (ProgressRun.identity_run hempty calls).trans hidentity
  have hiff (hb : r.ledger.Window b) : r.progress.reachedForFlow barrier key = true ↔
      b ≤ r.ledger.lastNumber ∧ r.ledger.SettledFor b key := by
    have := htracks.reachedForFlow_iff hb key
    rwa [hsame] at this
  refine ⟨hiff, ?_, ?_, ?_⟩
  · intro more hb hb' hreached
    obtain ⟨hlast, hsettled⟩ := (hiff hb).mp hreached
    have hlater := (ProgressRun.tracks_run htracks more).reachedForFlow_iff hb' key
    rw [ProgressRun.identity_run htracks more, hsame] at hlater
    exact hlater.mpr (ProgressRun.settledFor_run htracks more hlast hsettled)
  · intro packets error after hexec
    rw [QueueProgress.exec_admitClassified] at hexec
    split at hexec
    · exact absurd (Prod.mk.inj hexec).1 (by simp)
    · exact (Prod.mk.inj hexec).2.symm
  · intro other hother
    exact QueueProgress.reachedForFlow_of_epoch_ne (by rwa [hsame]) key

namespace Sample

def flowKey : FlowKey := ⟨.v4 1, 1, .v4 2, some 2, .udp⟩

def progressRun : ProgressRun :=
  ProgressRun.run ⟨progress, []⟩ [.admitClassified [(1, .unrelated), (2, .unknown)]]

theorem progressRun_ledger :
    progressRun.ledger = [⟨1, .unrelated, false⟩, ⟨2, .unknown, false⟩] := by
  decide +kernel

end Sample

/-- A reply does not wait for a packet behind its barrier. -/
theorem barrier_reached_iff_settled_sample :
    QueueProgress.new 7 0 = .ok Sample.progress ∧ Sample.progressRun.ledger.Window 1 ∧
      Sample.progressRun.progress.reachedForFlow ⟨⟨7, 0⟩, serial 1⟩ Sample.flowKey = true := by
  have hnew : QueueProgress.new 7 0 = .ok Sample.progress := rfl
  have hwindow : Sample.progressRun.ledger.Window 1 := by
    rw [Sample.progressRun_ledger]
    exact ⟨by decide, by decide⟩
  refine ⟨hnew, hwindow, ((barrier_reached_iff_settled 7 0 Sample.progress hnew
    [.admitClassified [(1, .unrelated), (2, .unknown)]] 1 Sample.flowKey).1 hwindow).mpr ?_⟩
  change 1 ≤ Sample.progressRun.ledger.lastNumber ∧
    Sample.progressRun.ledger.SettledFor 1 Sample.flowKey
  rw [Sample.progressRun_ledger]
  refine ⟨by decide, ?_⟩
  rintro packet hmem hle hflow
  rcases List.mem_cons.mp hmem with rfl | hmem
  · simp at hflow
  · obtain rfl := List.mem_singleton.mp hmem
    simp at hle

end OpenShield
