import OpenShield.Daemon.Enforcing

/-!
# Every packet is answered once

The invariant of the reader loop: what is admitted and not completed is what waits in the fair
queue or is in the hands of the loop or its worker, and nothing else; and every packet goes through
reception, verdict and completion in this order, as often as its number is used.
-/

namespace OpenShield

theorem Ledger.open_of_live_eq_cons {l rest : Ledger} {first : AdmittedPacket}
    (h : l.live = first :: rest) : first.completed = false := by
  induction l with
  | nil => simp [live] at h
  | cons packet l ih =>
    rw [live, List.dropWhile_cons] at h
    split_ifs at h with hdone
    · exact ih h
    · rw [← (List.cons.inj h).1]
      simpa using hdone

theorem Ledger.filter_open_mark {l : Ledger} {target : AdmittedPacket} (hl : l.Numbered)
    (hmem : target ∈ l) :
    ((l.map (mark target)).filter fun packet => !packet.completed) =
      (l.filter fun packet => !packet.completed).erase target := by
  have hnodup : l.Nodup := hl.increasing.imp fun hlt heq => by simp [heq] at hlt
  have hmark : ∀ packet ∈ l, packet ≠ target → mark target packet = packet := by
    intro packet hpacket hne
    have hnumber : packet.number ≠ target.number := fun heq =>
      hne (eq_of_number_eq hl.increasing hpacket hmem heq)
    simp [mark, hnumber]
  rw [(hnodup.filter _).erase_eq_filter, List.filter_filter, List.filter_map]
  have hfilter : l.filter ((fun packet : AdmittedPacket => !packet.completed) ∘ mark target) =
      l.filter fun packet => packet != target && !packet.completed := by
    refine List.filter_congr fun packet hpacket => ?_
    by_cases heq : packet = target
    · simp [heq, mark]
    · simp [hmark packet hpacket heq, heq]
  rw [hfilter]
  refine (List.map_congr_left fun packet hpacket => ?_).trans (List.map_id _)
  obtain ⟨hpacket, hne⟩ := List.mem_filter.mp hpacket
  exact hmark packet hpacket (by simpa using (Bool.and_eq_true_iff.mp hne).1)

namespace QueueProgress

def openIds (p : QueueProgress) : List (BitVec 32) :=
  p.order.filter fun packetId => (p.verdicts packetId).any fun packet => !packet.completed

variable {p : QueueProgress} {l : Ledger}

theorem Tracks.openIds_eq (h : p.Tracks l) :
    p.openIds = (l.filter fun packet => !packet.completed).map (·.id) := by
  have hsplit : (l.filter fun packet => !packet.completed) =
      l.live.filter fun packet => !packet.completed := by
    conv_lhs => rw [← l.settled_append_live]
    rw [List.filter_append, List.filter_eq_nil_iff.mpr, List.nil_append]
    intro packet hmem
    simp [Ledger.completed_of_mem_settled hmem]
  rw [hsplit, openIds, h.order, List.filter_map]
  refine congrArg _ (List.filter_congr fun packet hmem => ?_)
  simp [h.verdicts_of_mem hmem]

theorem Tracks.openIds_nodup (h : p.Tracks l) : p.openIds.Nodup := by
  have horder : p.order.Nodup := h.order ▸ h.numbered.live_ids_nodup
  exact horder.sublist List.filter_sublist

theorem Tracks.order_eq_nil (h : p.Tracks l) (hopen : p.openIds = []) : p.order = [] := by
  cases hlive : l.live with
  | nil => rw [h.order, hlive]; rfl
  | cons first rest =>
    have hfirst : first.completed = false := Ledger.open_of_live_eq_cons hlive
    have hmem : first.id ∈ p.openIds := by
      rw [h.openIds_eq]
      refine List.mem_map.mpr ⟨first, List.mem_filter.mpr ⟨?_, by simp [hfirst]⟩, rfl⟩
      exact Ledger.mem_of_mem_live (hlive ▸ List.mem_cons_self)
    rw [hopen] at hmem
    exact absurd hmem List.not_mem_nil

theorem openIds_admit (l : Ledger) (packets : List (BitVec 32 × OutgoingFlow)) :
    (((l.admitAll packets).filter fun packet => !packet.completed).map (·.id)) =
      ((l.filter fun packet => !packet.completed).map (·.id)) ++ packets.map Prod.fst := by
  induction packets generalizing l with
  | nil => simp [Ledger.admitAll]
  | cons packet packets ih =>
    rw [Ledger.admitAll, ih]
    simp [List.filter_append, AdmittedPacket.id]

/-- An admission whose packets are numbered behind the last one, less than half the range ahead of
the last retired one. -/
structure Follows (p : QueueProgress) (previous : BitVec 32) (packetId : BitVec 32) : Prop where
  advance : packetId - previous ≠ 0 ∧ packetId - previous < serialHalf
  span : packetId - p.completed < serialHalf

def Increasing (p : QueueProgress) : BitVec 32 → List (BitVec 32) → Prop
  | _, [] => True
  | previous, packetId :: rest => p.Follows previous packetId ∧ p.Increasing packetId rest

theorem Tracks.checkIds_of_increasing {packets : List (BitVec 32 × OutgoingFlow)}
    {admitted : Ledger} (h : p.Tracks l) (hnumbered : admitted.Numbered)
    (hcompleted : admitted.completedNumber = l.completedNumber)
    (hlast : l.lastNumber ≤ admitted.lastNumber)
    (hincreasing : p.Increasing (serial admitted.lastNumber) (packets.map Prod.fst)) :
    ∃ last, p.checkIds (serial admitted.lastNumber) packets = .ok last := by
  induction packets generalizing admitted with
  | nil => exact ⟨_, rfl⟩
  | cons packet packets ih =>
    obtain ⟨packetId, flow⟩ := packet
    have hfollows : p.Follows (serial admitted.lastNumber) packetId := hincreasing.1
    have hrest : p.Increasing packetId (packets.map Prod.fst) := hincreasing.2
    have hspan : packetId - serial admitted.completedNumber < serialHalf := by
      rw [hcompleted]
      exact h.completed ▸ hfollows.span
    obtain ⟨hafter, hbelow⟩ := unwrap_of_checked hnumbered hfollows.advance hspan
    have hlow := hnumbered.completedNumber_le
    have hunwrap : serial (unwrap admitted.lastNumber packetId) = packetId := serial_unwrap _ _
    have hnonzero : packetId - p.completed ≠ 0 := by
      intro hzero
      have hsame : serial (unwrap admitted.lastNumber packetId) =
          serial admitted.completedNumber := by
        have heq : packetId = p.completed := by bv_omega
        rw [hunwrap, hcompleted, heq]
        exact h.completed
      have := serial_injOn_window (by omega) (by omega) hsame
      omega
    have hnew : p.verdicts packetId = none := by
      by_contra hknown
      obtain ⟨progress, hprogress⟩ := Option.ne_none_iff_exists'.mp hknown
      obtain ⟨packet, hlive, hid, -⟩ := h.verdicts_eq_some hprogress
      have hpast := h.numbered.completedNumber_lt hlive
      have hupto := Ledger.le_lastNumber h.numbered.increasing (Ledger.mem_of_mem_live hlive)
      have := serial_injOn_window (by omega) (by omega) (hid.trans hunwrap.symm)
      omega
    have hadmitted := numbered_append hnumbered ⟨unwrap admitted.lastNumber packetId, flow, false⟩
      rfl hafter hbelow
    obtain ⟨last, hcheck⟩ := ih hadmitted
      (by rw [Ledger.completedNumber, Ledger.settled_append_open _ _ rfl]; exact hcompleted)
      (by rw [Ledger.lastNumber_append_singleton]; exact hlast.trans hafter.le)
      (by rwa [Ledger.lastNumber_append_singleton, hunwrap])
    refine ⟨last, ?_⟩
    have hpass : ensure (packetId - serial admitted.lastNumber ≠ 0 ∧
        packetId - serial admitted.lastNumber < serialHalf ∧ packetId - p.completed ≠ 0 ∧
        packetId - p.completed < serialHalf ∧ p.verdicts packetId = none)
        "OUTPUT received packet IDs are duplicated, reordered, or ambiguous" = .ok () :=
      (ensure_eq_ok_iff _ _ ()).mpr
        ⟨hfollows.advance.1, hfollows.advance.2, hnonzero, hfollows.span, hnew⟩
    rw [Ledger.lastNumber_append_singleton, hunwrap] at hcheck
    simp only [checkIds, hpass]
    exact hcheck

theorem Tracks.admit_ok (packets : List (BitVec 32 × OutgoingFlow)) (h : p.Tracks l)
    (hroom : packets.length ≤ p.remainingCapacity)
    (hincreasing : p.Increasing p.lastAdmitted (packets.map Prod.fst)) :
    ∃ p' l', (admitClassified packets).exec p = (.ok (), p') ∧ p'.Tracks l' ∧
      p'.openIds = p.openIds ++ packets.map Prod.fst := by
  obtain ⟨last, hcheck⟩ := h.checkIds_of_increasing h.numbered rfl (Nat.le_refl _)
    (h.lastAdmitted ▸ hincreasing)
  rw [← h.lastAdmitted] at hcheck
  have htracks := h.admitAll hcheck
  refine ⟨_, _, ?_, htracks, ?_⟩
  · rw [exec_admitClassified, (ensure_eq_ok_iff _ _ ()).mpr hroom]
    simp only [Bind.bind, Except.bind, hcheck]
  · rw [htracks.openIds_eq, h.openIds_eq, openIds_admit]

theorem Tracks.complete_ok {packetId : BitVec 32} (h : p.Tracks l) (hopen : packetId ∈ p.openIds) :
    ∃ p' l', (QueueProgress.complete packetId).exec p = (.ok (), p') ∧ p'.Tracks l' ∧
      (packetId :: p'.openIds).Perm p.openIds := by
  have hopen' := hopen
  rw [h.openIds_eq] at hopen'
  obtain ⟨target, htarget, rfl⟩ := List.mem_map.mp hopen'
  obtain ⟨hmem, hnot⟩ := List.mem_filter.mp htarget
  have hnot' : target.completed = false := by simpa using hnot
  have hlive := Ledger.mem_live_of_open hmem hnot'
  have htracks := h.complete hlive
  refine ⟨_, _, ?_, htracks, ?_⟩
  · rw [exec_complete, h.verdicts_of_mem hlive]
    simp [hnot']
  · rw [htracks.openIds_eq, h.openIds_eq, Ledger.complete_of_mem_live h.numbered hlive,
      Ledger.filter_open_mark h.numbered hmem]
    exact ((List.perm_cons_erase htarget).map _).symm

end QueueProgress

def QueuedPacketWork.Parsed (work : QueuedPacketWork) : Prop :=
  ∀ mode, ∃ key, Reader.ticketKey mode work = .ok key

namespace Reader

def eventsOf (packetId : BitVec 32) (trace : List (BitVec 32 × PacketEvent)) : List PacketEvent :=
  (trace.filter fun event => decide (event.1 = packetId)).map Prod.snd

/-- What happens when a packet number is used `n` times. -/
def rounds (n : ℕ) : List PacketEvent :=
  (List.replicate n [.received, .answered, .completed]).flatten

/-- Every packet number is received, answered and completed in turn, and the outstanding ones have
only been received for the last time. -/
def Answered (trace : List (BitVec 32 × PacketEvent)) (outstanding : List (BitVec 32)) : Prop :=
  ∀ packetId, ∃ n, eventsOf packetId trace =
    rounds n ++ if packetId ∈ outstanding then [.received] else []

def waiting (r : Reader) : List (BitVec 32) := r.pending.items.map (·.work.packetId)

structure Holds (r : Reader) (hand : List QueuedPacketWork) (tickets : List OutgoingTicket) :
    Prop where
  tracks : ∃ l, r.registry.progress.Tracks l
  accounts : r.registry.Accounts tickets
  counted : r.pending.Counted
  outstanding : r.registry.progress.openIds.Perm (r.waiting ++ hand.map (·.packetId))
  answered : Answered r.trace r.registry.progress.openIds
  sent : r.verdicts.map Prod.fst =
    (r.trace.filter fun event => decide (event.2 = .answered)).map Prod.fst
  parsed : (∀ packet ∈ r.pending.items, packet.work.Parsed) ∧ ∀ work ∈ hand, work.Parsed
  bound : r.pending.pending + hand.length ≤ PENDING_CAPACITY

/-! ### Commands -/

@[simp]
theorem exec_record (r : Reader) (packetId : BitVec 32) (event : PacketEvent) :
    (record packetId event).exec r =
      (.ok (), { r with trace := r.trace ++ [(packetId, event)] }) := rfl

theorem exec_onProgress {r : Reader} {command : Command QueueProgress String Unit}
    {p : QueueProgress} (h : command.exec r.registry.progress = (.ok (), p)) :
    (onProgress command).exec r =
      (.ok (), { r with registry := { r.registry with progress := p } }) := by
  rw [onProgress, Command.exec_bind, Command.exec_get]
  simp only [h, Command.exec_bind, Command.exec_set, Command.ofExcept, Command.exec_pure]

theorem exec_onRegistry {α : Type} {r : Reader} {command : Command Registry String α} {a : α}
    {registry : Registry} (h : command.exec r.registry = (.ok a, registry)) :
    (onRegistry command).exec r = (.ok a, { r with registry }) := by
  rw [onRegistry, Command.exec_bind, Command.exec_get]
  simp only [h, Command.exec_bind, Command.exec_set, Command.ofExcept, Command.exec_pure]

theorem eventsOf_append (packetId : BitVec 32) (trace more : List (BitVec 32 × PacketEvent)) :
    eventsOf packetId (trace ++ more) = eventsOf packetId trace ++ eventsOf packetId more := by
  simp [eventsOf]

theorem rounds_succ (n : ℕ) :
    rounds (n + 1) = rounds n ++ [.received, .answered, .completed] := by
  simp [rounds, List.replicate_succ']

variable {outstanding : List (BitVec 32)} {trace : List (BitVec 32 × PacketEvent)}

theorem Answered.received (h : Answered trace outstanding) {packetId : BitVec 32}
    (hnew : packetId ∉ outstanding) :
    Answered (trace ++ [(packetId, .received)]) (outstanding ++ [packetId]) := by
  intro other
  obtain ⟨n, hn⟩ := h other
  refine ⟨n, ?_⟩
  rw [eventsOf_append, hn]
  by_cases heq : other = packetId
  · subst heq
    simp [hnew, eventsOf]
  · have hne : ¬ packetId = other := fun h => heq h.symm
    simp [eventsOf, heq, hne]

theorem Answered.completed {rest : List (BitVec 32)} (h : Answered trace outstanding)
    {packetId : BitVec 32} (hperm : (packetId :: rest).Perm outstanding)
    (hnodup : outstanding.Nodup) :
    Answered (trace ++ [(packetId, .answered)] ++ [(packetId, .completed)]) rest := by
  have hrest : packetId ∉ rest := (List.nodup_cons.mp (hperm.nodup_iff.mpr hnodup)).1
  intro other
  obtain ⟨n, hn⟩ := h other
  have hmem := hperm.mem_iff (a := other)
  rw [eventsOf_append, eventsOf_append, hn]
  by_cases heq : other = packetId
  · subst heq
    refine ⟨n + 1, ?_⟩
    have hin : other ∈ outstanding := hmem.mp List.mem_cons_self
    simp [hin, hrest, eventsOf, rounds_succ]
  · refine ⟨n, ?_⟩
    have hne : ¬ packetId = other := fun h => heq h.symm
    have hsame : other ∈ outstanding ↔ other ∈ rest := by
      rw [← hmem, List.mem_cons]
      simp [heq]
    simp [eventsOf, hne, hsame]

variable {r : Reader} {hand : List QueuedPacketWork} {tickets : List OutgoingTicket}
  {work : QueuedPacketWork} {ticket : Option OutgoingTicket}

theorem completeOutgoing_ok (h : r.registry.Accounts (ticket.toList ++ tickets))
    (succeeded : Bool) (now : Instant) :
    ∃ registry, (completeOutgoing ticket succeeded now).exec r = (.ok (), { r with registry }) ∧
      registry.Accounts tickets ∧ registry.progress = r.registry.progress ∧
      registry.nextSerial = r.registry.nextSerial := by
  cases ticket with
  | none => exact ⟨r.registry, rfl, h, rfl, rfl⟩
  | some ticket =>
    obtain ⟨haccounts, hprogress, -, hserial⟩ := h.complete List.mem_cons_self succeeded now
    refine ⟨_, rfl, ?_, hprogress, hserial⟩
    simpa using haccounts

theorem verdict_ok (h : r.Holds (work :: hand) (ticket.toList ++ tickets))
    (strategy : QueueVerdictStrategy) (decision : Except DecisionError PacketAuthorization)
    (input : VerdictInput) :
    ∃ r', (verdict strategy work decision ticket input).exec r = (.ok (), r') ∧
      r'.Holds hand tickets ∧ r'.job = r.job ∧
      r'.registry.nextSerial = r.registry.nextSerial := by
  obtain ⟨l, hl⟩ := h.tracks
  have hopen : work.packetId ∈ r.registry.progress.openIds := h.outstanding.mem_iff.mpr (by simp)
  obtain ⟨p', l', hcomplete, htracks, hperm⟩ := hl.complete_ok hopen
  let answer := returnPacketVerdict decision (.ok input.current) input.stopping strategy
  let sent : Reader := { r with
    verdicts := r.verdicts ++ [(work.packetId, answer.verdict, answer.mark)]
    trace := r.trace ++ [(work.packetId, .answered)] }
  obtain ⟨registry, hreturn, haccounts, hprogress, hserial⟩ :=
    completeOutgoing_ok (r := sent) h.accounts (answer.accepted && answer.error.isNone) input.after
  have hcomplete' : (QueueProgress.complete work.packetId).exec registry.progress = (.ok (), p') :=
    hprogress ▸ hcomplete
  refine ⟨{ sent with registry := { registry with progress := p' }
                      trace := sent.trace ++ [(work.packetId, .completed)] }, ?_, ?_, rfl, hserial⟩
  · rw [verdict, Command.exec_bind_ok (Command.exec_get r),
      Command.exec_bind_ok (Command.exec_set _ _), Command.exec_bind_ok (exec_record _ _ _)]
    exact (Command.exec_bind_ok hreturn).trans (Command.exec_bind_ok (exec_onProgress hcomplete'))
  · exact
      { tracks := ⟨l', htracks⟩
        accounts := haccounts.withProgress p'
        counted := h.counted
        outstanding := by
          refine List.Perm.cons_inv (a := work.packetId) (hperm.trans (h.outstanding.trans ?_))
          exact List.perm_middle
        answered := h.answered.completed hperm hl.openIds_nodup
        sent := by
          simp [sent, h.sent]
        parsed := ⟨h.parsed.1, fun other hmem => h.parsed.2 other (List.mem_cons_of_mem _ hmem)⟩
        bound := by
          have := h.bound
          simp only [List.length_cons] at this
          exact Nat.le_of_succ_le this }

/-! ### Receiving -/

theorem parsed_work (message : QueueMessage) : message.work.Parsed := by
  intro mode
  unfold ticketKey
  cases hparse : message.work.packet with
  | error e => exact ⟨none, rfl⟩
  | ok packet =>
    have hvalid : packet.connection.validate = .ok () := by
      have hwork : parseQueuedPacket message.packet message.attributes message.mark = .ok packet :=
        hparse
      simp only [parseQueuedPacket, Except.bind_eq_ok_iff] at hwork
      obtain ⟨transport, -, uid, -, interface, -, _, hvalid, hpacket⟩ := hwork
      obtain rfl := Except.ok.inj hpacket
      exact hvalid
    simp only [OutboundConnection.validate, Except.bind_unit_eq_ok_iff] at hvalid
    obtain ⟨-, hports⟩ := hvalid
    by_cases hmode : mode = .enforcing
    · simp only [hmode, ne_eq, not_true_eq_false, if_false]
      cases hprotocol : packet.connection.protocol <;> simp only [hprotocol] at hports ⊢
      case tcp => exact ⟨none, rfl⟩
      case any => exact ⟨none, rfl⟩
      all_goals
        cases hport : packet.connection.sourcePort with
        | some port => exact ⟨_, rfl⟩
        | none => simp [ensure, hport] at hports
    · simp only [hmode, ne_eq, not_false_eq_true, if_true]
      exact ⟨none, rfl⟩

theorem Answered.received_all {ids : List (BitVec 32)} (h : Answered trace outstanding)
    (hnodup : (outstanding ++ ids).Nodup) :
    Answered (trace ++ ids.map fun packetId => (packetId, .received)) (outstanding ++ ids) := by
  induction ids generalizing trace outstanding with
  | nil => simpa using h
  | cons packetId ids ih =>
    have hnew : packetId ∉ outstanding := fun hmem =>
      (List.nodup_append.mp hnodup).2.2 packetId hmem packetId List.mem_cons_self rfl
    have hnodup' : (outstanding ++ [packetId] ++ ids).Nodup := by simpa using hnodup
    simpa using ih (h.received hnew) hnodup'

theorem exec_record_all (r : Reader) (batch : List QueuedPacketWork) :
    (batch.forM fun work => record work.packetId .received).exec r =
      (.ok (), { r with
        trace := r.trace ++ batch.map fun work => (work.packetId, .received) }) := by
  induction batch generalizing r with
  | nil => simp [List.forM_nil]
  | cons work batch ih =>
    refine (Command.exec_bind_ok (exec_record r work.packetId .received)).trans ?_
    rw [ih]
    simp

theorem push_all_ok (r : Reader) (batch : List QueuedPacketWork) (now : Instant)
    (hcounted : r.pending.Counted)
    (hroom : r.pending.pending + batch.length ≤ MAX_PENDING_PACKETS) :
    ∃ q : PacketQueue,
      (batch.forM fun work => push ⟨work, now⟩).exec r = (.ok (), { r with pending := q }) ∧
      q.Counted ∧ q.items.Perm (r.pending.items ++ batch.map fun work => ⟨work, now⟩) := by
  induction batch generalizing r with
  | nil => exact ⟨r.pending, rfl, hcounted, by simp⟩
  | cons work batch ih =>
    rw [List.length_cons] at hroom
    obtain ⟨q, hpush⟩ := FairQueue.push_eq_ok
      "pending application packet scheduler exceeds its fixed bound"
      (ScheduledFlow.forPacket work).1 (ScheduledFlow.forPacket work).2
      (⟨work, now⟩ : PendingPacket) (q := r.pending)
      (show r.pending.pending < MAX_PENDING_PACKETS by omega)
    obtain ⟨hperm, hcounted'⟩ := FairQueue.items_push hpush hcounted
    have hexec : (push ⟨work, now⟩).exec r = (.ok (), { r with pending := q }) := by
      rw [push, Command.exec_bind_ok (Command.exec_get r)]
      have hok : PacketQueue.push ⟨work, now⟩ r.pending = .ok q := hpush
      rw [hok]
      rfl
    have hlength := hperm.length_eq
    obtain ⟨q', hrest, hcounted'', hperm'⟩ := ih { r with pending := q } hcounted' (by
      rw [FairQueue.Counted] at hcounted hcounted'
      simp only [List.length_cons] at hlength
      change q.pending + batch.length ≤ _
      omega)
    refine ⟨q', (Command.exec_bind_ok hexec).trans hrest, hcounted'', hperm'.trans ?_⟩
    exact (List.Perm.append_right _ hperm).trans List.perm_middle.symm

theorem receive_ok (h : r.Holds hand tickets) {datagram : List QueueMessage} (now : Instant)
    (hroom : canReceive r.pending.pending hand.length
      r.registry.progress.remainingCapacity = true)
    (hlength : datagram.length ≤ MAX_PACKET_BATCH_SIZE)
    (hincreasing : r.registry.progress.Increasing r.registry.progress.lastAdmitted
      (datagram.map (·.packetId))) :
    ∃ r', (receive datagram now).exec r = (.ok (), r') ∧ r'.Holds hand tickets ∧ r'.job = r.job ∧
      r'.registry.nextSerial = r.registry.nextSerial := by
  obtain ⟨l, hl⟩ := h.tracks
  simp only [canReceive, Bool.and_eq_true, decide_eq_true_eq] at hroom
  let batch := datagram.map QueueMessage.work
  have hbatch : batch.length = datagram.length := List.length_map _
  let classified := batch.map fun work => (work.packetId, classifyOutgoing work)
  have hids : classified.map Prod.fst = datagram.map (·.packetId) := by
    simp [classified, batch, QueueMessage.work]
  obtain ⟨p', l', hadmit, htracks, hopen⟩ := hl.admit_ok classified
    (by simp only [classified, List.length_map, hbatch]; omega) (hids ▸ hincreasing)
  rw [hids] at hopen
  let noted : Reader := { r with
    registry := { r.registry with progress := p' }
    trace := r.trace ++ batch.map fun work => (work.packetId, .received) }
  obtain ⟨q, hpush, hcounted, hperm⟩ := push_all_ok noted batch now h.counted (by
    change r.pending.pending + batch.length ≤ _
    simp only [MAX_PENDING_PACKETS, PENDING_CAPACITY, MAX_PACKET_BATCH_SIZE] at *
    omega)
  refine ⟨{ noted with pending := q }, ?_, ?_, rfl, rfl⟩
  · have hdatagram : appendPacketDatagram datagram = .ok batch := by
      simp [appendPacketDatagram, ensure, hlength, batch]
    rw [receive, hdatagram]
    refine (Command.exec_bind_ok (Command.exec_pure batch r)).trans ?_
    refine (Command.exec_bind_ok (exec_record_all r batch)).trans ?_
    exact (Command.exec_bind_ok (exec_onProgress (r := { r with
      trace := r.trace ++ batch.map fun work => (work.packetId, .received) }) hadmit)).trans hpush
  · have hwaiting : (q.items.map (·.work.packetId)).Perm
        (r.waiting ++ datagram.map (·.packetId)) := by
      refine (hperm.map _).trans (List.Perm.of_eq ?_)
      simp [noted, waiting, batch, QueueMessage.work]
    refine
      { tracks := ⟨l', htracks⟩
        accounts := h.accounts.withProgress p'
        counted := hcounted
        outstanding := ?_
        answered := ?_
        sent := ?_
        parsed := ⟨?_, h.parsed.2⟩
        bound := ?_ }
    · change p'.openIds.Perm (q.items.map (·.work.packetId) ++ _)
      rw [hopen]
      refine (List.Perm.append_right _ h.outstanding).trans ?_
      refine List.Perm.trans ?_ (List.Perm.append_right _ hwaiting.symm)
      rw [List.append_assoc, List.append_assoc]
      exact List.Perm.append_left _ List.perm_append_comm
    · change Answered (r.trace ++ batch.map fun work => (work.packetId, .received)) p'.openIds
      have htrace : (batch.map fun work => (work.packetId, PacketEvent.received)) =
          (datagram.map (·.packetId)).map fun packetId => (packetId, .received) := by
        simp [batch, QueueMessage.work]
      rw [htrace, hopen]
      exact h.answered.received_all (hopen ▸ htracks.openIds_nodup)
    · change r.verdicts.map Prod.fst = _
      simp [noted, h.sent, List.filter_map]
    · intro packet hmem
      rcases List.mem_append.mp (hperm.mem_iff.mp hmem) with hmem | hmem
      · exact h.parsed.1 packet hmem
      · obtain ⟨work, hwork, rfl⟩ := List.mem_map.mp hmem
        obtain ⟨message, -, rfl⟩ := List.mem_map.mp hwork
        exact parsed_work message
    · have hlengths := hperm.length_eq
      have hcount := h.counted
      rw [FairQueue.Counted] at hcount hcounted
      change q.pending + hand.length ≤ _
      rw [List.length_append, List.length_map, hbatch] at hlengths
      change q.items.length = r.pending.items.length + datagram.length at hlengths
      omega

/-! ### Dispatching and finishing -/

def drawn (tickets : List (Option OutgoingTicket)) : List OutgoingTicket :=
  tickets.flatMap Option.toList

theorem drawn_cons (ticket : Option OutgoingTicket) (tickets : List (Option OutgoingTicket)) :
    drawn (ticket :: tickets) = ticket.toList ++ drawn tickets :=
  List.flatMap_cons

theorem Holds.perm {hand' : List QueuedPacketWork} {tickets' : List OutgoingTicket}
    (h : r.Holds hand tickets) (hhand : hand.Perm hand') (htickets : tickets.Perm tickets') :
    r.Holds hand' tickets' where
  tracks := h.tracks
  accounts := h.accounts.perm htickets
  counted := h.counted
  outstanding := h.outstanding.trans (List.Perm.append_left _ (hhand.map _))
  answered := h.answered
  sent := h.sent
  parsed := ⟨h.parsed.1, fun work hmem => h.parsed.2 work (hhand.mem_iff.mpr hmem)⟩
  bound := hhand.length_eq ▸ h.bound

theorem Holds.withRegistry {tickets' : List OutgoingTicket} {registry : Registry}
    (h : r.Holds hand tickets) (haccounts : registry.Accounts tickets')
    (hprogress : registry.progress = r.registry.progress) :
    Holds { r with registry } hand tickets' where
  tracks := hprogress ▸ h.tracks
  accounts := haccounts
  counted := h.counted
  outstanding := by
    change registry.progress.openIds.Perm _
    rw [hprogress]
    exact h.outstanding
  answered := by
    change Answered r.trace registry.progress.openIds
    rw [hprogress]
    exact h.answered
  sent := h.sent
  parsed := h.parsed
  bound := h.bound

theorem takeBatch_holds (h : r.Holds [] tickets) :
    let taken := FairQueue.takeBatch MAX_PACKET_BATCH_SIZE FLOW_QUANTUM r.pending
    Holds { r with pending := taken.2 } (taken.1.map (·.work)) tickets ∧
      taken.1.length = min MAX_PACKET_BATCH_SIZE r.pending.pending := by
  intro taken
  obtain ⟨hperm, hcounted⟩ :=
    FairQueue.items_takeBatch MAX_PACKET_BATCH_SIZE FLOW_QUANTUM r.pending h.counted
  have hsize : taken.1.length = _ :=
    FairQueue.length_takeBatch MAX_PACKET_BATCH_SIZE (by decide) r.pending h.counted
  have hlength : taken.1.length + taken.2.items.length = r.pending.items.length := by
    rw [← List.length_append]
    exact hperm.length_eq
  have hcount := h.counted
  have hcount' : taken.2.Counted := hcounted
  rw [FairQueue.Counted] at hcount hcount'
  refine ⟨?_, hsize⟩
  exact
    { tracks := h.tracks
      accounts := h.accounts
      counted := hcounted
      outstanding := by
        refine (h.outstanding.trans (List.Perm.of_eq (List.append_nil _))).trans ?_
        refine ((hperm.symm.map (·.work.packetId)).trans (List.Perm.of_eq ?_)).trans
          List.perm_append_comm
        simp [taken, waiting, Function.comp_def]
      answered := h.answered
      sent := h.sent
      parsed := by
        constructor
        · intro packet hmem
          exact h.parsed.1 packet (hperm.mem_iff.mp (List.mem_append_right _ hmem))
        · intro work hwork
          obtain ⟨packet, hmem, rfl⟩ := List.mem_map.mp hwork
          exact h.parsed.1 packet (hperm.mem_iff.mp (List.mem_append_left _ hmem))
      bound := by
        have hbound := h.bound
        simp only [List.length_nil, List.length_map] at hbound ⊢
        change taken.2.pending + taken.1.length ≤ _
        omega }

theorem drawTicket_ok (h : r.Holds hand tickets) (hfew : tickets.length < REPLY_CAPACITY)
    (key : Option FlowKey) {generation : BitVec 32}
    (hnone : tickets = [] ∨ r.registry.generation = some generation)
    (hserials : r.registry.nextSerial.toNat + 1 < 2 ^ 64) (now : Instant) :
    ∃ ticket registry, (drawTicket key generation now).exec r = (.ok ticket, { r with registry }) ∧
      Holds { r with registry } hand (ticket.toList ++ tickets) ∧
      (ticket.toList ++ tickets = [] ∨ registry.generation = some generation) ∧
      registry.nextSerial.toNat ≤ r.registry.nextSerial.toNat + 1 := by
  cases key with
  | none => exact ⟨none, r.registry, rfl, h, hnone, Nat.le_succ _⟩
  | some key =>
    have hleft : r.registry.nextSerial ≠ BitVec.allOnes 64 := by
      intro heq
      rw [heq, BitVec.toNat_allOnes] at hserials
      omega
    obtain ⟨ticket, registry, hbegin, haccounts, hprogress, hgeneration, hserial⟩ :=
      h.accounts.begin_ok hfew key hnone hleft now
    refine ⟨some ticket, registry, ?_, h.withRegistry haccounts hprogress, .inr hgeneration, ?_⟩
    · rw [drawTicket, Command.exec_bind_ok (exec_onRegistry hbegin)]
      rfl
    · rw [hserial, BitVec.toNat_add]
      exact Nat.mod_le _ _

theorem registerOutgoingBatch_ok (identity : Mode × BitVec 32) (works : List QueuedPacketWork)
    (clock : ℕ → Instant) (h : r.Holds hand tickets) (hparsed : ∀ work ∈ works, work.Parsed)
    (hfew : tickets.length + works.length ≤ REPLY_CAPACITY)
    (hnone : tickets = [] ∨ r.registry.generation = some identity.2)
    (hserials : r.registry.nextSerial.toNat + works.length < 2 ^ 64) :
    ∃ out registry,
      (registerOutgoingBatch identity works clock).exec r = (.ok out, { r with registry }) ∧
      out.length = works.length ∧ Holds { r with registry } hand (drawn out ++ tickets) := by
  induction works generalizing r tickets clock with
  | nil => exact ⟨[], r.registry, rfl, rfl, h⟩
  | cons work works ih =>
    rw [List.length_cons] at hfew hserials
    obtain ⟨key, hkey⟩ := hparsed work List.mem_cons_self identity.1
    obtain ⟨ticket, registry, hdraw, hholds, hnone', hserial⟩ :=
      drawTicket_ok h (by omega) key hnone (by omega) (clock 0)
    have hlength : ticket.toList.length ≤ 1 := by cases ticket <;> simp
    obtain ⟨out, registry', hrest, hout, hholds'⟩ := ih (fun n => clock (n + 1)) hholds
      (fun other hmem => hparsed other (List.mem_cons_of_mem _ hmem))
      (by rw [List.length_append]; omega) hnone' (by change registry.nextSerial.toNat + _ < _; omega)
    refine ⟨ticket :: out, registry', ?_, by rw [List.length_cons, hout, List.length_cons], ?_⟩
    · rw [registerOutgoingBatch, hkey]
      refine (Command.exec_bind_ok (Command.exec_pure key r)).trans ?_
      refine (Command.exec_bind_ok hdraw).trans ?_
      exact Command.exec_bind_ok hrest
    · refine hholds'.perm (List.Perm.refl _) ?_
      rw [drawn_cons, ← List.append_assoc]
      exact List.Perm.append_right _ List.perm_append_comm

theorem fillJob_ok (strategy : QueueVerdictStrategy) (policy : ApplicationDecisionPolicy)
    (selected : List Selected) (job : Job) (htickets : job.tickets.length = job.batch.length)
    (h : r.Holds (selected.map (·.work) ++ job.batch)
      (drawn (selected.map (·.ticket)) ++ drawn job.tickets)) :
    ∃ job' r', (fillJob strategy policy selected job).exec r = (.ok job', r') ∧
      r'.Holds job'.batch (drawn job'.tickets) ∧ job'.tickets.length = job'.batch.length ∧
      job'.batch.length ≤ selected.length + job.batch.length ∧ r'.job = r.job := by
  induction selected generalizing r job with
  | nil => exact ⟨job, r, rfl, h, htickets, by simp, rfl⟩
  | cons packet selected ih =>
    rw [fillJob]
    rw [List.map_cons, List.map_cons, drawn_cons, List.cons_append, List.append_assoc] at h
    cases hadmit : admitToJob policy packet.work packet.deadline packet.input.now with
    | some decision =>
      obtain ⟨r₁, hverdict, hholds, hjob, -⟩ := verdict_ok h strategy decision packet.input
      obtain ⟨job', r', hrest, hholds', hlengths, hle, hjob'⟩ := ih job htickets hholds
      refine ⟨job', r', (Command.exec_bind_ok hverdict).trans hrest, hholds', hlengths, ?_,
        hjob'.trans hjob⟩
      rw [List.length_cons]
      omega
    | none =>
      -- The packet stays in hand; it only moves from the batch to the job.
      have hmoved : r.Holds (selected.map (·.work) ++ (job.batch ++ [packet.work]))
          (drawn (selected.map (·.ticket)) ++ drawn (job.tickets ++ [packet.ticket])) := by
        refine h.perm ?_ ?_
        · rw [← List.append_assoc]
          exact (List.perm_append_singleton _ _).symm
        · have hsplit : drawn (job.tickets ++ [packet.ticket]) =
              drawn job.tickets ++ packet.ticket.toList := by simp [drawn]
          rw [hsplit]
          exact List.perm_append_comm.trans (List.Perm.of_eq (List.append_assoc _ _ _))
      obtain ⟨job', r', hrest, hholds', hlengths, hle, hjob'⟩ :=
        ih ⟨job.batch ++ [packet.work], job.tickets ++ [packet.ticket],
          min job.deadline packet.deadline⟩ (by simpa using htickets) hmoved
      refine ⟨job', r', hrest, hholds', hlengths, ?_, hjob'⟩
      simp only [List.length_append, List.length_cons, List.length_nil] at hle ⊢
      omega

theorem select_works {packets : List PendingPacket} {out : List (Option OutgoingTicket)}
    (h : out.length = packets.length) (inputs : ℕ → VerdictInput) :
    (select packets out inputs).map (·.work) = packets.map (·.work) ∧
      (select packets out inputs).map (·.ticket) = out := by
  induction packets generalizing out inputs with
  | nil =>
    obtain rfl := List.length_eq_zero_iff.mp h
    exact ⟨rfl, rfl⟩
  | cons packet packets ih =>
    cases out with
    | nil => simp at h
    | cons ticket out =>
      obtain ⟨hworks, htickets⟩ := ih (Nat.succ.inj h) fun n => inputs (n + 1)
      exact ⟨by rw [select, List.map_cons, hworks, List.map_cons],
        by rw [select, List.map_cons, htickets]⟩

theorem answerJob_ok (strategy : QueueVerdictStrategy) (deadline : Instant)
    (packets : List ((QueuedPacketWork × Except DecisionError PacketAuthorization) ×
      Option OutgoingTicket)) (inputs : ℕ → VerdictInput)
    (h : r.Holds (packets.map (·.1.1)) (drawn (packets.map (·.2)))) :
    ∃ r', (answerJob strategy deadline packets inputs).exec r = (.ok (), r') ∧ r'.Holds [] [] ∧
      r'.job = r.job ∧ r'.registry.nextSerial = r.registry.nextSerial := by
  induction packets generalizing r inputs with
  | nil => exact ⟨r, rfl, h, rfl, rfl⟩
  | cons packet packets ih =>
    obtain ⟨⟨work, decision⟩, ticket⟩ := packet
    rw [List.map_cons, List.map_cons, drawn_cons] at h
    obtain ⟨r₁, hverdict, hholds, hjob, hserial⟩ := verdict_ok h strategy
      (if deadline ≤ (inputs 0).now then
        .error (.engine "bounded application decision deadline expired before verdict")
        else decision) (inputs 0)
    obtain ⟨r', hrest, hholds', hjob', hserial'⟩ := ih (fun n => inputs (n + 1)) hholds
    exact ⟨r', (Command.exec_bind_ok hverdict).trans hrest, hholds', hjob'.trans hjob,
      hserial'.trans hserial⟩

/-! ### Runs -/

def inHand (r : Reader) : List QueuedPacketWork := (r.job.map (·.batch)).getD []

/-- The invariant between the steps of the loop. -/
structure Sound (r : Reader) : Prop where
  holds : r.Holds r.inHand (drawn ((r.job.map (·.tickets)).getD []))
  job : ∀ job ∈ r.job, job.batch ≠ [] ∧ job.tickets.length = job.batch.length

theorem length_inHand (r : Reader) : r.inHand.length = r.inFlight := by
  cases hjob : r.job <;> simp [inHand, inFlight, hjob]

/-- Something the loop or the reply worker does, with its inputs. -/
inductive Step where
  | receive (datagram : List QueueMessage) (now : Instant)
  | dispatch (input : DispatchInput)
  | finish (strategy : QueueVerdictStrategy)
      (decisions : List (Except DecisionError PacketAuthorization)) (inputs : ℕ → VerdictInput)
  | prune (now : Instant)

def Step.command : Step → ReaderCommand Unit
  | .receive datagram now => Reader.receive datagram now
  | .dispatch input => Reader.dispatch input
  | .finish strategy decisions inputs => Reader.finish strategy decisions inputs
  | .prune now => do
    let r ← get
    set { r with registry := r.registry.prune now }

def Step.Enabled (r : Reader) : Step → Prop
  | .receive _ _ =>
    canReceive r.pending.pending r.inFlight r.registry.progress.remainingCapacity = true
  | .dispatch _ => r.inFlight = 0 ∧ 0 < r.pending.pending
  | .finish _ _ _ => 0 < r.inFlight
  | .prune _ => True

/-- What is assumed of the inputs of a step: a datagram has at most 32 packets with increasing
numbers, each less than half the range ahead of the last retired one; the worker decides every
packet of its job; and ticket serials are left. -/
def Step.Assumed (r : Reader) : Step → Prop
  | .receive datagram _ => datagram.length ≤ MAX_PACKET_BATCH_SIZE ∧
    r.registry.progress.Increasing r.registry.progress.lastAdmitted (datagram.map (·.packetId))
  | .dispatch _ => r.registry.nextSerial.toNat + MAX_PACKET_BATCH_SIZE < 2 ^ 64
  | .finish _ decisions _ => decisions.length = r.inFlight
  | .prune _ => True

theorem Holds.withJob (h : r.Holds hand tickets) (job : Option Job) :
    Holds { r with job } hand tickets :=
  ⟨h.tracks, h.accounts, h.counted, h.outstanding, h.answered, h.sent, h.parsed, h.bound⟩

theorem sound_of_job {job : Job} (h : r.Holds job.batch (drawn job.tickets))
    (hlengths : job.tickets.length = job.batch.length) :
    Sound { r with job := if job.batch.isEmpty then none else some job } := by
  cases hbatch : job.batch with
  | nil =>
    have htickets : job.tickets = [] := List.length_eq_zero_iff.mp (by rw [hlengths, hbatch]; rfl)
    rw [hbatch, htickets] at h
    exact ⟨h.withJob none, by simp⟩
  | cons work rest =>
    refine ⟨h.withJob (some job), ?_⟩
    intro other hother
    obtain rfl : job = other := by simpa using hother
    exact ⟨by simp [hbatch], hlengths⟩

theorem dispatch_ok (h : r.Sound) (hidle : r.inFlight = 0) (input : DispatchInput)
    (hserials : r.registry.nextSerial.toNat + MAX_PACKET_BATCH_SIZE < 2 ^ 64) :
    ∃ r', (dispatch input).exec r = (.ok (), r') ∧ r'.Sound := by
  have hnone : r.job = none := by
    cases hjob : r.job with
    | none => rfl
    | some job =>
      have hne := (h.job job hjob).1
      have : job.batch = [] := List.length_eq_zero_iff.mp (by simpa [inFlight, hjob] using hidle)
      exact absurd this hne
  have hholds : r.Holds [] [] := by simpa [inHand, hnone, drawn] using h.holds
  obtain ⟨htaken, hsize⟩ := takeBatch_holds hholds
  let taken := FairQueue.takeBatch MAX_PACKET_BATCH_SIZE FLOW_QUANTUM r.pending
  have hsize' : taken.1.length ≤ MAX_PACKET_BATCH_SIZE := by
    change taken.1.length = _ at hsize
    omega
  obtain ⟨out, registry, hregister, hout, hregistered⟩ := registerOutgoingBatch_ok input.identity
    (taken.1.map (·.work)) input.clock htaken htaken.parsed.2
    (by
      rw [List.length_map, List.length_nil, Nat.zero_add]
      exact hsize'.trans (by decide)) (.inl rfl)
    (by
      rw [List.length_map]
      exact lt_of_le_of_lt (Nat.add_le_add_left hsize' _) hserials)
  obtain ⟨hworks, htickets⟩ := select_works 
    (by rw [hout, List.length_map]) input.verdicts
  obtain ⟨job, r', hfill, hfilled, hlengths, -, hjob⟩ := fillJob_ok input.strategy input.policy
    (select taken.1 out input.verdicts) ⟨[], [], input.now + DECISION_BUDGET⟩ rfl
    (by simpa [hworks, htickets, drawn] using hregistered)
  refine ⟨{ r' with job := if job.batch.isEmpty then none else some job }, ?_, ?_⟩
  · rw [dispatch, Command.exec_bind_ok (Command.exec_get r)]
    refine (Command.exec_bind_ok (Command.exec_set _ _)).trans ?_
    refine (Command.exec_bind_ok hregister).trans ?_
    exact (Command.exec_bind_ok hfill).trans rfl
  · exact sound_of_job hfilled hlengths

/-- Answering a job succeeds. -/
theorem finish_ok (h : r.Sound) (strategy : QueueVerdictStrategy)
    {decisions : List (Except DecisionError PacketAuthorization)}
    (hdecisions : decisions.length = r.inFlight) (hbusy : 0 < r.inFlight)
    (inputs : ℕ → VerdictInput) :
    ∃ r', (finish strategy decisions inputs).exec r = (.ok (), r') ∧ r'.Sound := by
  cases hjob : r.job with
  | none => simp [inFlight, hjob] at hbusy
  | some job =>
    have hflight : r.inFlight = job.batch.length := by simp [inFlight, hjob]
    have htickets := (h.job job hjob).2
    have hholds : r.Holds job.batch (drawn job.tickets) := by simpa [inHand, hjob] using h.holds
    -- Batch, decisions and tickets have one length, so nothing is cut off.
    have hzip : ((job.batch.zip decisions).zip job.tickets).map (·.1.1) = job.batch := by
      have hfst : ((job.batch.zip decisions).zip job.tickets).map Prod.fst =
          job.batch.zip decisions :=
        List.map_fst_zip (by rw [List.length_zip]; omega)
      rw [show (fun entry : (QueuedPacketWork × Except DecisionError PacketAuthorization) ×
        Option OutgoingTicket => entry.1.1) = Prod.fst ∘ Prod.fst from rfl, ← List.map_map, hfst]
      exact List.map_fst_zip (by omega)
    have hzip' : ((job.batch.zip decisions).zip job.tickets).map (·.2) = job.tickets :=
      List.map_snd_zip (by rw [List.length_zip]; omega)
    obtain ⟨r', hanswer, hanswered, hnone, -⟩ := answerJob_ok (r := { r with job := none }) strategy
      job.deadline ((job.batch.zip decisions).zip job.tickets) inputs
      (by rw [hzip, hzip']; exact hholds.withJob none)
    refine ⟨r', ?_, ?_⟩
    · rw [finish, Command.exec_bind_ok (Command.exec_get r), hjob]
      have hensure : ensure (job.batch.length = r.inFlight ∧ decisions.length = r.inFlight ∧
          job.tickets.length = r.inFlight)
          "Enforcing completion does not match its in-flight batch" = .ok () :=
        (ensure_eq_ok_iff _ _ ()).mpr ⟨hflight.symm, hdecisions, htickets.trans hflight.symm⟩
      simp only [hensure]
      exact hanswer
    · have hnone' : r'.job = none := hnone
      exact
        { holds := by simpa [inHand, hnone', drawn] using hanswered
          job := by simp [hnone'] }

theorem step_ok (h : r.Sound) {step : Step} (henabled : step.Enabled r)
    (hassumed : step.Assumed r) : ∃ r', step.command.exec r = (.ok (), r') ∧ r'.Sound := by
  cases step with
  | receive datagram now =>
    have henabled' : canReceive r.pending.pending r.inHand.length
        r.registry.progress.remainingCapacity = true := by
      rw [length_inHand]
      exact henabled
    obtain ⟨r', hexec, hholds, hjob, -⟩ := receive_ok h.holds now henabled' hassumed.1 hassumed.2
    exact ⟨r', hexec, ⟨by simpa only [inHand, hjob] using hholds, by rw [hjob]; exact h.job⟩⟩
  | dispatch input => exact dispatch_ok h henabled.1 input hassumed
  | finish strategy decisions inputs => exact finish_ok h strategy hassumed henabled inputs
  | prune now =>
    exact ⟨_, rfl, ⟨h.holds.withRegistry (h.holds.accounts.prune now) rfl, h.job⟩⟩

/-- The runs of the loop over a new queue. -/
inductive Reaches (start : Registry) : Reader → Prop
  | start : Reaches start ⟨start, FairQueue.empty, none, [], []⟩
  | step {r r' : Reader} {step : Step} : Reaches start r → step.Enabled r → step.Assumed r →
      step.command.exec r = (.ok (), r') → Reaches start r'

theorem sound_start {portId : BitVec 32} {epoch : ℕ} {start : Registry}
    (h : Registry.new portId epoch = .ok start) :
    Sound ⟨start, FairQueue.empty, none, [], []⟩ := by
  simp only [Registry.new, Except.bind_eq_ok_iff] at h
  obtain ⟨progress, hprogress, hstart⟩ := h
  obtain rfl := Except.ok.inj hstart
  obtain ⟨htracks, -⟩ := QueueProgress.tracks_new hprogress
  have hopen : progress.openIds = [] := by rw [htracks.openIds_eq]; rfl
  refine ⟨?_, by simp⟩
  exact
    { tracks := ⟨[], htracks⟩
      accounts :=
        { unique := List.nodup_nil
          bound := Nat.zero_le _
          count := rfl
          issued := fun entry hmem => absurd hmem List.not_mem_nil
          distinct := List.nodup_nil
          known := fun ticket hmem => absurd hmem List.not_mem_nil }
      counted := rfl
      outstanding := by
        change progress.openIds.Perm _
        rw [hopen]
        exact List.Perm.refl _
      answered := by
        change Answered [] progress.openIds
        rw [hopen]
        exact fun packetId => ⟨0, rfl⟩
      sent := rfl
      parsed := ⟨fun packet hmem => absurd hmem List.not_mem_nil,
        fun work hmem => absurd hmem List.not_mem_nil⟩
      bound := Nat.zero_le _ }

theorem sound_of_reaches {portId : BitVec 32} {epoch : ℕ} {start : Registry}
    (hstart : Registry.new portId epoch = .ok start) (h : Reaches start r) : r.Sound := by
  induction h with
  | start => exact sound_start hstart
  | step _ henabled hassumed hexec ih =>
    obtain ⟨r', hexec', hsound⟩ := step_ok ih henabled hassumed
    rw [hexec] at hexec'
    rwa [(Prod.mk.inj hexec').2]

theorem Sound.canReceive_of_idle (h : r.Sound) (hflight : r.inFlight = 0)
    (hpending : r.pending.pending = 0) :
    canReceive r.pending.pending r.inFlight r.registry.progress.remainingCapacity = true := by
  obtain ⟨l, hl⟩ := h.holds.tracks
  have hitems : r.pending.items = [] := by
    have hcounted := h.holds.counted
    rw [FairQueue.Counted, hpending] at hcounted
    exact List.length_eq_zero_iff.mp hcounted.symm
  have hhand : r.inHand = [] := List.length_eq_zero_iff.mp (by rw [length_inHand, hflight])
  have hopen : r.registry.progress.openIds = [] := by
    have houtstanding := h.holds.outstanding
    simp only [waiting, hitems, hhand] at houtstanding
    exact houtstanding.eq_nil
  have horder := hl.order_eq_nil hopen
  simp [canReceive, QueueProgress.remainingCapacity, horder, hflight, hpending,
    MAX_PACKET_BATCH_SIZE, PENDING_CAPACITY, MAX_TRACKED_OUTGOING]

end Reader

/-- In every run of the loop, what is admitted and not completed is what waits or is in flight;
every packet number is received, answered and completed in turn, with one verdict each time; the
loop is never stuck; and every step that it may take succeeds. -/
theorem every_packet_answered_once (portId : BitVec 32) (epoch : ℕ) (start : Registry)
    (hstart : Registry.new portId epoch = .ok start) (r : Reader)
    (hr : Reader.Reaches start r) :
    r.registry.progress.openIds.Perm (r.waiting ++ r.inHand.map (·.packetId)) ∧
      r.registry.progress.openIds.Nodup ∧
      Reader.Answered r.trace r.registry.progress.openIds ∧
      r.verdicts.map Prod.fst =
        (r.trace.filter fun event => decide (event.2 = .answered)).map Prod.fst ∧
      (∀ done, r.loopAction done ≠ .stuck) ∧
      ∀ step : Reader.Step, step.Enabled r → step.Assumed r →
        ∃ r', step.command.exec r = (.ok (), r') := by
  have hsound := Reader.sound_of_reaches hstart hr
  obtain ⟨l, hl⟩ := hsound.holds.tracks
  refine ⟨hsound.holds.outstanding, hl.openIds_nodup, hsound.holds.answered, hsound.holds.sent,
    ?_, ?_⟩
  · intro done
    unfold Reader.loopAction
    split_ifs with hfinish hdispatch hreceive hawait <;> try simp
    have hflight : r.inFlight = 0 := by omega
    have hpending : r.pending.pending = 0 := by omega
    exact absurd (hsound.canReceive_of_idle hflight hpending) hreceive
  · intro step henabled hassumed
    obtain ⟨r', hexec, -⟩ := Reader.step_ok hsound henabled hassumed
    exact ⟨r', hexec⟩

namespace Sample

def message (packetId : BitVec 32) : QueueMessage where
  packetId
  packet :=
    { iif := none
      oif := none
      src := .v4 3
      dst := .v4 4
      l4proto := Netfilter.protoUdp
      ports := none
      tcpFlags := none
      icmp := none
      hopLimit := 64
      ct := .untracked
      underLimit := false
      sameFamily := rfl
      ctFamily := by simp [Netfilter.Conntrack.origDst?] }
  attributes := ⟨none, 0⟩
  mark := 0

def registry : Registry := ⟨none, 0, [], progress⟩

def reader (packetId : BitVec 32) : Reader :=
  ((Reader.receive [message packetId] 0).exec ⟨registry, FairQueue.empty, none, [], []⟩).2

theorem reader_reaches {packetId : BitVec 32} (hfirst : packetId ≠ 0)
    (hhalf : packetId < serialHalf) : Reader.Reaches registry (reader packetId) := by
  have hassumed : (Reader.Step.receive [message packetId] 0).Assumed
      ⟨registry, FairQueue.empty, none, [], []⟩ := by
    have hzero : packetId - 0 = packetId := by bv_omega
    refine ⟨by simp [MAX_PACKET_BATCH_SIZE], ⟨⟨?_, ?_⟩, ?_⟩, trivial⟩
    · exact hzero.symm ▸ hfirst
    · exact hzero.symm ▸ hhalf
    · exact hzero.symm ▸ hhalf
  have henabled : (Reader.Step.receive [message packetId] 0).Enabled
      ⟨registry, FairQueue.empty, none, [], []⟩ := rfl
  have hnew : Registry.new 7 0 = .ok registry := rfl
  obtain ⟨r', hexec, -⟩ := Reader.step_ok (Reader.sound_start hnew) henabled hassumed
  have hreader : reader packetId = r' := congrArg Prod.snd hexec
  exact hreader ▸ .step .start henabled hassumed hexec

end Sample

/-- Two packets whose numbers follow each other. -/
theorem every_packet_answered_once_sample :
    Registry.new 7 0 = .ok Sample.registry ∧
      Reader.Reaches Sample.registry (Sample.reader 1) ∧
      (Sample.reader 1).registry.progress.openIds.Perm
        ((Sample.reader 1).waiting ++ (Sample.reader 1).inHand.map (·.packetId)) :=
  ⟨rfl, Sample.reader_reaches (by decide) (by decide),
    (every_packet_answered_once 7 0 Sample.registry rfl (Sample.reader 1)
      (Sample.reader_reaches (by decide) (by decide))).1⟩

/-- A packet directly behind the oldest unanswered one is refused when that one was far ahead of
the last retired packet. -/
theorem far_packet_refused :
    Reader.Reaches Sample.registry (Sample.reader 0x7fffffff) ∧
      (Sample.reader 0x7fffffff).registry.progress.openIds = [0x7fffffff] ∧
      (0x80000000 : BitVec 32) - 0x7fffffff = 1 ∧
      (Reader.Step.receive [Sample.message 0x80000000] 0).Enabled (Sample.reader 0x7fffffff) ∧
      ((Reader.receive [Sample.message 0x80000000] 0).exec (Sample.reader 0x7fffffff)).1 =
        .error "OUTPUT received packet IDs are duplicated, reordered, or ambiguous" ∧
      Reader.eventsOf 0x80000000
        ((Reader.receive [Sample.message 0x80000000] 0).exec (Sample.reader 0x7fffffff)).2.trace =
        [.received] :=
  ⟨Sample.reader_reaches (by decide) (by decide), by decide +kernel, by decide,
    (by decide +kernel : Reader.canReceive _ _ _ = true), by decide +kernel, by decide +kernel⟩

end OpenShield
