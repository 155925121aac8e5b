import OpenShield.Daemon.Registry

/-!
# Deferred verdicts of the Learning queue

The reader of the Learning queue holds the first packet of a flow until its attribution completes,
for at most a fixed time. Attribution workers send the ticket of a packet back in any order, more
than once, late or never, while the kernel uses packet ids again.
-/

namespace OpenShield

def LEARNING_FIRST_PACKET_WAIT : ℕ := 250000000

def LEARNING_PENDING_CAPACITY : ℕ := 128

structure LearningVerdictTicket where
  packetId : BitVec 32
  serial : BitVec 64
  flowGeneration : BitVec 32
  deriving DecidableEq

structure PendingLearningVerdict where
  ticket : LearningVerdictTicket
  deadline : Instant
  completed : Bool

structure PendingLearningVerdicts where
  lastSerial : BitVec 64
  packets : List PendingLearningVerdict

namespace PendingLearningVerdicts

variable (s : PendingLearningVerdicts)

def tickets : List LearningVerdictTicket := s.packets.map (·.ticket)

/-- Hold a packet. The packet is not held when there is no room or no serial number left. -/
def reserve (packetId flowGeneration : BitVec 32) (now : Instant) (s : PendingLearningVerdicts) :
    Except String (Option LearningVerdictTicket × PendingLearningVerdicts) :=
  if s.packets.any (·.ticket.packetId = packetId) then
    .error "Learning queue reused an outstanding packet id"
  else if LEARNING_PENDING_CAPACITY ≤ s.packets.length then .ok (none, s)
  else match checkedSucc s.lastSerial with
    | none => .ok (none, s)
    | some serial =>
      let ticket := ⟨packetId, serial, flowGeneration⟩
      .ok (some ticket, ⟨serial, ⟨ticket, now + LEARNING_FIRST_PACKET_WAIT, false⟩ :: s.packets⟩)

/-- Let go of the packet of a ticket. A ticket of an earlier use of its packet id changes
nothing. -/
def cancel (ticket : LearningVerdictTicket) :
    PendingLearningVerdicts :=
  { s with packets := s.packets.filter (·.ticket ≠ ticket) }

def complete (ticket : LearningVerdictTicket) :
    PendingLearningVerdicts :=
  { s with packets := s.packets.map fun packet =>
      if packet.ticket = ticket then { packet with completed := true } else packet }

variable {s s' : PendingLearningVerdicts} {ticket : LearningVerdictTicket}

/-- Without a new ticket nothing changes; with one, its packet is held. -/
theorem reserve_cases {packetId flowGeneration : BitVec 32} {now : Instant}
    {answer : Option LearningVerdictTicket} (h : s.reserve packetId flowGeneration now = .ok (answer, s')) :
    answer = none ∧ s' = s ∨ ∃ ticket, answer = some ticket ∧
      s.packets.length < LEARNING_PENDING_CAPACITY ∧ s'.lastSerial = ticket.serial ∧
      ticket.serial.toNat = s.lastSerial.toNat + 1 ∧
      s'.packets = ⟨ticket, now + LEARNING_FIRST_PACKET_WAIT, false⟩ :: s.packets := by
  unfold reserve at h
  split_ifs at h with hreused hroom
  · cases h
    exact .inl ⟨rfl, rfl⟩
  · cases hserial : checkedSucc s.lastSerial <;> rw [hserial] at h <;> cases h
    · exact .inl ⟨rfl, rfl⟩
    · exact .inr ⟨_, rfl, not_le.mp hroom, rfl, toNat_of_checkedSucc hserial, rfl⟩

theorem tickets_cancel (h : s.tickets.Nodup) : (s.cancel ticket).tickets = s.tickets.erase ticket := by
  rw [h.erase_eq_filter, tickets, tickets, List.filter_map]
  refine congrArg (List.map _) (List.filter_congr fun packet _ => Bool.eq_iff_iff.mpr ?_)
  simp

theorem mem_complete {packet : PendingLearningVerdict} (h : packet ∈ (s.complete ticket).packets) :
    ∃ before ∈ s.packets, packet.ticket = before.ticket ∧ packet.deadline = before.deadline ∧
      (packet.completed → before.completed ∨ packet.ticket = ticket) := by
  obtain ⟨before, hbefore, rfl⟩ := List.mem_map.mp h
  refine ⟨before, hbefore, ?_⟩
  split_ifs with heq
  · exact ⟨rfl, rfl, fun _ => .inr heq⟩
  · exact ⟨rfl, rfl, .inl⟩

@[simp]
theorem tickets_complete : (s.complete ticket).tickets = s.tickets := by
  rw [tickets, tickets, complete, List.map_map]
  refine List.map_congr_left fun packet _ => ?_
  rw [Function.comp_apply]
  split_ifs <;> rfl

end PendingLearningVerdicts

/-- What a release reads. The shutdown flag is read when a packet is selected and again when its
verdict is returned; `sink` is whether the queue takes the verdict of a packet. -/
structure LearningRelease where
  now : Instant
  completions : List LearningVerdictTicket
  identity : Except String (Mode × BitVec 32)
  stoppingAtSelection : LearningVerdictTicket → Bool
  stoppingAtVerdict : LearningVerdictTicket → Bool
  order : LearningVerdictTicket → LearningVerdictTicket → Bool
  sink : LearningVerdictTicket → Bool

namespace LearningRelease

def ready (r : LearningRelease) (mode : Mode) (generation : BitVec 32)
    (packet : PendingLearningVerdict) : Bool :=
  packet.completed || decide (packet.deadline ≤ r.now) || decide (mode ≠ .learning) ||
    decide (packet.ticket.flowGeneration ≠ generation) || r.stoppingAtSelection packet.ticket

def accept (r : LearningRelease) (mode : Mode) (generation : BitVec 32)
    (ticket : LearningVerdictTicket) : Bool :=
  decide (mode = .learning) && decide (ticket.flowGeneration = generation) &&
    !r.stoppingAtVerdict ticket

end LearningRelease

/-- The held packets and the verdicts the kernel was given, beside the record of the calls. -/
structure DeferredRun where
  pending : PendingLearningVerdicts
  verdicts : List (LearningVerdictTicket × Bool)
  reserved : List (LearningVerdictTicket × Instant)
  received : List LearningVerdictTicket
  cancelled : List LearningVerdictTicket

inductive DeferredCall where
  | reserve (packetId flowGeneration : BitVec 32) (now : Instant)
  | cancel (ticket : LearningVerdictTicket)
  | release (r : LearningRelease)

namespace DeferredRun

def start : DeferredRun := ⟨⟨0, []⟩, [], [], [], []⟩

def receive (r : LearningRelease) (s : DeferredRun) : DeferredRun :=
  let completions := r.completions.take LEARNING_PENDING_CAPACITY
  { s with
    pending := completions.foldl .complete s.pending
    received := completions ++ s.received }

def answer (s : DeferredRun) (ticket : LearningVerdictTicket) (accept : Bool) : DeferredRun :=
  { s with
    pending := s.pending.cancel ticket
    verdicts := (ticket, accept) :: s.verdicts }

def returnVerdicts (sink accept : LearningVerdictTicket → Bool) :
    List LearningVerdictTicket → DeferredRun → Except String Unit × DeferredRun
  | [], s => (.ok (), s)
  | ticket :: rest, s =>
    if sink ticket then returnVerdicts sink accept rest (s.answer ticket (accept ticket))
    else (.error "cannot send NFQUEUE verdict", s)

/-- Release the packets that are ready (`release_learning_verdicts`). -/
def release (r : LearningRelease) (s : DeferredRun) : Except String Unit × DeferredRun :=
  let s := s.receive r
  if s.pending.packets.isEmpty then (.ok (), s)
  else match r.identity with
    | .error message => (.error message, s)
    | .ok (mode, generation) =>
      let ready := (s.pending.packets.filter (r.ready mode generation)).map (·.ticket)
      returnVerdicts r.sink (r.accept mode generation) (ready.mergeSort r.order) s

def step (s : DeferredRun) : DeferredCall → DeferredRun
  | .reserve packetId flowGeneration now =>
    match s.pending.reserve packetId flowGeneration now with
    | .ok (some ticket, pending) =>
      { s with
        pending
        reserved := (ticket, now + LEARNING_FIRST_PACKET_WAIT) :: s.reserved }
    | .ok (none, pending) => { s with pending }
    | .error _ => s
  | .cancel ticket =>
    { s with
      pending := s.pending.cancel ticket
      cancelled := if ticket ∈ s.pending.tickets then ticket :: s.cancelled else s.cancelled }
  | .release r => (s.release r).2

def run (calls : List DeferredCall) : DeferredRun := calls.foldl step start

/-- Every reserved ticket is held, has its verdict or was cancelled, and only one of these. -/
structure Sound (s : DeferredRun) : Prop where
  split : (s.reserved.map Prod.fst).Perm
    (s.pending.tickets ++ (s.verdicts.map Prod.fst ++ s.cancelled))
  serials : (s.reserved.map (·.1.serial)).Nodup
  issued : ∀ entry ∈ s.reserved, entry.1.serial.toNat ≤ s.pending.lastSerial.toNat
  dated : ∀ packet ∈ s.pending.packets, (packet.ticket, packet.deadline) ∈ s.reserved
  completed : ∀ packet ∈ s.pending.packets, packet.completed → packet.ticket ∈ s.received
  bounded : s.pending.packets.length ≤ LEARNING_PENDING_CAPACITY

namespace Sound

variable {s : DeferredRun} {ticket : LearningVerdictTicket}

theorem nodup (h : s.Sound) : (s.reserved.map Prod.fst).Nodup := by
  have hserials := h.serials
  rw [show (fun entry : LearningVerdictTicket × Instant => entry.1.serial) =
    LearningVerdictTicket.serial ∘ Prod.fst from rfl, ← List.map_map] at hserials
  exact hserials.of_map _

theorem nodup_split (h : s.Sound) :
    (s.pending.tickets ++ (s.verdicts.map Prod.fst ++ s.cancelled)).Nodup :=
  h.split.nodup_iff.mp h.nodup

theorem nodup_tickets (h : s.Sound) : s.pending.tickets.Nodup := h.nodup_split.of_append_left

theorem erase_split (h : s.Sound) (hheld : ticket ∈ s.pending.tickets) :
    (s.reserved.map Prod.fst).Perm
      ((s.pending.cancel ticket).tickets ++ ticket :: (s.verdicts.map Prod.fst ++ s.cancelled)) := by
  rw [PendingLearningVerdicts.tickets_cancel h.nodup_tickets]
  exact h.split.trans
    (((List.perm_cons_erase hheld).append_right _).trans List.perm_middle.symm)

theorem of_cancel (h : s.Sound) {verdicts : List (LearningVerdictTicket × Bool)}
    {cancelled : List LearningVerdictTicket} (hsplit : (s.reserved.map Prod.fst).Perm
      ((s.pending.cancel ticket).tickets ++ (verdicts.map Prod.fst ++ cancelled))) :
    Sound { s with pending := s.pending.cancel ticket, verdicts, cancelled } where
  split := hsplit
  serials := h.serials
  issued := h.issued
  dated packet hpacket := h.dated packet (List.mem_of_mem_filter hpacket)
  completed packet hpacket := h.completed packet (List.mem_of_mem_filter hpacket)
  bounded := (List.length_filter_le _ _).trans h.bounded

theorem answer (h : s.Sound) (hheld : ticket ∈ s.pending.tickets) (accept : Bool) :
    (s.answer ticket accept).Sound := h.of_cancel (h.erase_split hheld)

theorem cancel (h : s.Sound) (ticket : LearningVerdictTicket) : (s.step (.cancel ticket)).Sound := by
  refine h.of_cancel ?_
  split_ifs with hheld
  · exact (h.erase_split hheld).trans (List.perm_middle.symm.append_left _)
  · rw [PendingLearningVerdicts.tickets_cancel h.nodup_tickets, List.erase_of_not_mem hheld]
    exact h.split

theorem complete (h : s.Sound) (hreceived : ticket ∈ s.received) :
    Sound { s with pending := s.pending.complete ticket } where
  split := by
    rw [PendingLearningVerdicts.tickets_complete]
    exact h.split
  serials := h.serials
  issued := h.issued
  dated packet hpacket := by
    obtain ⟨before, hbefore, hticket, hdeadline, -⟩ := PendingLearningVerdicts.mem_complete hpacket
    rw [hticket, hdeadline]
    exact h.dated before hbefore
  completed packet hpacket hcompleted := by
    obtain ⟨before, hbefore, hticket, -, hwhy⟩ := PendingLearningVerdicts.mem_complete hpacket
    rcases hwhy hcompleted with hcompleted | rfl
    · rw [hticket]
      exact h.completed before hbefore hcompleted
    · exact hreceived
  bounded := by
    rw [PendingLearningVerdicts.complete, List.length_map]
    exact h.bounded

theorem receive (h : s.Sound) (r : LearningRelease) : (s.receive r).Sound := by
  have hgrown : Sound { s with
      received := r.completions.take LEARNING_PENDING_CAPACITY ++ s.received } :=
    { h with completed := fun packet hpacket hcompleted =>
        List.mem_append_right _ (h.completed packet hpacket hcompleted) }
  exact List.foldlRecOn _ _ (motive := fun pending => Sound { s with
    pending, received := r.completions.take LEARNING_PENDING_CAPACITY ++ s.received }) hgrown
    fun _ hpending ticket hticket => hpending.complete (List.mem_append_left _ hticket)

theorem reserve (h : s.Sound) (packetId flowGeneration : BitVec 32) (now : Instant) :
    (s.step (.reserve packetId flowGeneration now)).Sound := by
  rw [step]
  cases hreserve : s.pending.reserve packetId flowGeneration now with
  | error message => exact h
  | ok reserved =>
    obtain ⟨answer, pending⟩ := reserved
    obtain ⟨rfl, rfl⟩ | ⟨ticket, rfl, hroom, hlast, hserial, hpackets⟩ :=
      PendingLearningVerdicts.reserve_cases hreserve
    · exact h
    have hissued : ∀ entry ∈ s.reserved, entry.1.serial.toNat < ticket.serial.toNat :=
      fun entry hentry => hserial ▸ Nat.lt_succ_of_le (h.issued entry hentry)
    exact
      { split := by
          rw [PendingLearningVerdicts.tickets, hpackets]
          exact h.split.cons _
        serials := List.nodup_cons.mpr ⟨fun hmem => by
          obtain ⟨entry, hentry, heq⟩ := List.mem_map.mp hmem
          exact absurd (congrArg BitVec.toNat heq) (hissued entry hentry).ne, h.serials⟩
        issued := by
          rw [hlast]
          exact List.forall_mem_cons.mpr ⟨le_rfl, fun entry hentry => (hissued entry hentry).le⟩
        dated := by
          rw [hpackets]
          exact List.forall_mem_cons.mpr
            ⟨List.mem_cons_self, fun packet hpacket => List.mem_cons_of_mem _ (h.dated packet hpacket)⟩
        completed := by
          rw [hpackets]
          exact List.forall_mem_cons.mpr ⟨nofun, h.completed⟩
        bounded := by
          rw [hpackets]
          exact hroom }

end Sound

theorem returnVerdicts_ok {sink accept : LearningVerdictTicket → Bool}
    {tickets : List LearningVerdictTicket} {s s' : DeferredRun} {result : Except String Unit}
    (hrun : returnVerdicts sink accept tickets s = (result, s')) (h : s.Sound)
    (hnodup : tickets.Nodup) (hheld : ∀ ticket ∈ tickets, ticket ∈ s.pending.tickets) :
    s'.Sound ∧ s'.reserved = s.reserved ∧ s'.cancelled = s.cancelled ∧
      (∀ verdict ∈ s'.verdicts,
        verdict ∈ s.verdicts ∨ verdict.1 ∈ tickets ∧ verdict.2 = accept verdict.1) ∧
      (result = .ok () → ∀ packet ∈ s'.pending.packets,
        packet ∈ s.pending.packets ∧ packet.ticket ∉ tickets) := by
  induction tickets generalizing s with
  | nil =>
    cases hrun
    exact ⟨h, rfl, rfl, fun _ => .inl, fun _ packet hpacket => ⟨hpacket, List.not_mem_nil⟩⟩
  | cons ticket rest ih =>
    obtain ⟨hnew, hrest⟩ := List.nodup_cons.mp hnodup
    rw [returnVerdicts] at hrun
    split_ifs at hrun with hsink
    · have hkept : ∀ other ∈ rest, other ∈ (s.pending.cancel ticket).tickets := by
        intro other hother
        have hne : other ≠ ticket := fun heq => hnew (heq ▸ hother)
        rw [PendingLearningVerdicts.tickets_cancel h.nodup_tickets]
        exact (List.mem_erase_of_ne hne).mpr (hheld other (List.mem_cons_of_mem _ hother))
      obtain ⟨hsound, hreserved, hcancelled, hverdicts, hleft⟩ :=
        ih hrun (h.answer (hheld ticket List.mem_cons_self) (accept ticket)) hrest hkept
      refine ⟨hsound, hreserved, hcancelled, fun verdict hverdict => ?_, fun hok packet hpacket => ?_⟩
      · rcases hverdicts verdict hverdict with hmem | ⟨hmem, haccept⟩
        · rcases List.mem_cons.mp hmem with rfl | hmem
          · exact .inr ⟨List.mem_cons_self, rfl⟩
          · exact .inl hmem
        · exact .inr ⟨List.mem_cons_of_mem _ hmem, haccept⟩
      · obtain ⟨hmem, hnot⟩ := hleft hok packet hpacket
        obtain ⟨hmem, hne⟩ := List.mem_filter.mp hmem
        exact ⟨hmem, by simpa [hnot] using hne⟩
    · cases hrun
      exact ⟨h, rfl, rfl, fun _ => .inl, nofun⟩

/-- A verdict that a release returns: its packet was ready, and the verdict is that of the policy
at this moment. -/
def Justified (s : DeferredRun) (r : LearningRelease) (ticket : LearningVerdictTicket)
    (accept : Bool) : Prop :=
  ∃ mode generation deadline, r.identity = .ok (mode, generation) ∧
    (ticket, deadline) ∈ s.reserved ∧
    (ticket ∈ (s.receive r).received ∨ deadline ≤ r.now ∨ mode ≠ .learning ∨
      ticket.flowGeneration ≠ generation ∨ r.stoppingAtSelection ticket) ∧
    (accept = true ↔
      mode = .learning ∧ ticket.flowGeneration = generation ∧ r.stoppingAtVerdict ticket = false)

theorem release_ok {s s' : DeferredRun} {r : LearningRelease} {result : Except String Unit}
    (hrun : s.release r = (result, s')) (h : s.Sound) :
    s'.Sound ∧ s'.reserved = s.reserved ∧ s'.cancelled = s.cancelled ∧
      (∀ verdict ∈ s'.verdicts, verdict ∈ s.verdicts ∨ s.Justified r verdict.1 verdict.2) ∧
      (result = .ok () → ∀ packet ∈ s'.pending.packets, r.now < packet.deadline) := by
  have htaken := h.receive r
  simp only [release] at hrun
  split_ifs at hrun with hempty
  · cases hrun
    rw [List.isEmpty_iff.mp hempty]
    exact ⟨htaken, rfl, rfl, fun _ => .inl, fun _ => nofun⟩
  cases hidentity : r.identity with
  | error message =>
    rw [hidentity] at hrun
    cases hrun
    exact ⟨htaken, rfl, rfl, fun _ => .inl, nofun⟩
  | ok identity =>
    obtain ⟨mode, generation⟩ := identity
    rw [hidentity] at hrun
    have hsub : (((s.receive r).pending.packets.filter (r.ready mode generation)).map
        (·.ticket)).Sublist (s.receive r).pending.tickets := List.filter_sublist.map _
    obtain ⟨hsound, hreserved, hcancelled, hverdicts, hleft⟩ := returnVerdicts_ok hrun htaken
      ((List.mergeSort_perm _ _).nodup_iff.mpr (htaken.nodup_tickets.sublist hsub))
      fun ticket hticket => hsub.subset (List.mem_mergeSort.mp hticket)
    refine ⟨hsound, hreserved, hcancelled, fun verdict hverdict => ?_, fun hok packet hpacket => ?_⟩
    · refine (hverdicts verdict hverdict).imp_right fun ⟨hready, haccept⟩ => ?_
      obtain ⟨packet, hpacket, hticket⟩ := List.mem_map.mp (List.mem_mergeSort.mp hready)
      obtain ⟨hpacket, hready⟩ := List.mem_filter.mp hpacket
      have hreceived := htaken.completed packet hpacket
      refine ⟨mode, generation, packet.deadline, hidentity, hticket ▸ htaken.dated packet hpacket, ?_, ?_⟩
      · simp only [LearningRelease.ready, Bool.or_eq_true, decide_eq_true_eq, hticket] at hready hreceived
        tauto
      · simp [haccept, LearningRelease.accept, and_assoc]
    · obtain ⟨hmem, hnot⟩ := hleft hok packet hpacket
      by_contra hdue
      refine hnot (List.mem_mergeSort.mpr <| List.mem_map.mpr ⟨packet, List.mem_filter.mpr ⟨hmem, ?_⟩, rfl⟩)
      simp [LearningRelease.ready, not_lt.mp hdue]

theorem sound_start : start.Sound :=
  ⟨.refl _, List.nodup_nil, nofun, nofun, nofun, Nat.zero_le _⟩

theorem Sound.step {s : DeferredRun} (h : s.Sound) (call : DeferredCall) : (s.step call).Sound := by
  cases call with
  | reserve packetId flowGeneration now => exact h.reserve packetId flowGeneration now
  | cancel ticket => exact h.cancel ticket
  | release r => exact (release_ok rfl h).1

theorem sound_run (calls : List DeferredCall) : (run calls).Sound :=
  List.foldlRecOn calls step sound_start fun _ h call _ => h.step call

/-- In every run, tickets are told apart by their serial numbers, a ticket has at most one verdict
and none once it is cancelled, a packet is completed by its own ticket only, and no more packets
are held than there is room for. A release returns only verdicts that are justified, and when it
succeeds, every reservation that was due has its verdict or was cancelled. -/
theorem deferred_verdicts_settled (calls : List DeferredCall) :
    let s := run calls
    (s.reserved.map (·.1.serial)).Nodup ∧ (s.verdicts.map Prod.fst).Nodup ∧
      (∀ verdict ∈ s.verdicts,
        verdict.1 ∈ s.reserved.map Prod.fst ∧ verdict.1 ∉ s.cancelled) ∧
      s.pending.packets.length ≤ LEARNING_PENDING_CAPACITY ∧
      (∀ packet ∈ s.pending.packets, packet.completed → packet.ticket ∈ s.received) ∧
      ∀ r : LearningRelease,
        (∀ verdict ∈ (s.release r).2.verdicts,
          verdict ∈ s.verdicts ∨ s.Justified r verdict.1 verdict.2) ∧
        ((s.release r).1 = .ok () → ∀ entry ∈ s.reserved, entry.2 ≤ r.now →
          entry.1 ∈ (s.release r).2.verdicts.map Prod.fst ∨ entry.1 ∈ s.cancelled) := by
  intro s
  have h : s.Sound := sound_run calls
  have hsettled := (List.nodup_append.mp h.nodup_split).2.1
  refine ⟨h.serials, hsettled.of_append_left, fun verdict hverdict => ?_, h.bounded, h.completed,
    fun r => ?_⟩
  · have hmem : verdict.1 ∈ s.verdicts.map Prod.fst := List.mem_map_of_mem hverdict
    exact ⟨h.split.mem_iff.mpr (List.mem_append_right _ (List.mem_append_left _ hmem)),
      fun hcancelled => List.disjoint_of_nodup_append hsettled hmem hcancelled⟩
  obtain ⟨hsound, hreserved, hcancelled, hverdicts, hleft⟩ := release_ok (r := r) rfl h
  refine ⟨hverdicts, fun hok entry hentry hdue => ?_⟩
  rw [← hreserved] at hentry
  rw [← hcancelled]
  have hmem := hsound.split.mem_iff.mp (List.mem_map_of_mem hentry)
  refine List.mem_append.mp ((List.mem_append.mp hmem).resolve_left fun hheld => ?_)
  -- A packet that is still held is the one of this reservation, and it is not due.
  obtain ⟨packet, hpacket, hticket⟩ := List.mem_map.mp hheld
  have hsame : (packet.ticket, packet.deadline) = entry :=
    List.inj_on_of_nodup_map hsound.nodup (hsound.dated packet hpacket) hentry hticket
  rw [← hsame] at hdue
  exact absurd hdue (not_le.mpr (hleft hok packet hpacket))

end DeferredRun

end OpenShield
