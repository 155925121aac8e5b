import OpenShield.Data.Command
import OpenShield.Data.Serial
import OpenShield.Daemon.Nfqueue

/-!
# Progress of the application queue

The kernel numbers the packets of a queue modulo `2 ^ 32`. The daemon admits every packet it
reads in the order of its number, with the flow it belongs to, and completes it when its verdict
has been sent, in any order. A reply that raced an outgoing packet waits for a barrier, a number
of the queue: for every packet up to it that may belong to the reply's flow.

The tracker keeps only the packets behind the first one that is not completed. The ledger below
keeps all of them, under their full numbers.
-/

namespace OpenShield

/-- The flow that a reply and the packets it answers have in common. -/
structure FlowKey where
  localAddress : IpAddr
  localPort : BitVec 16
  remote : IpAddr
  remotePort : Option (BitVec 16)
  protocol : TransportProtocol
  deriving DecidableEq

/-- What an outgoing packet may be answered by. -/
inductive OutgoingFlow where
  | reply (key : FlowKey)
  | unrelated
  | unknown
  deriving DecidableEq

/-- A packet of the queue, parsed or not. -/
structure QueuedPacketWork where
  packetId : BitVec 32
  packet : Except String QueuedPacket

def classifyOutgoing (work : QueuedPacketWork) : OutgoingFlow :=
  match work.packet with
  | .error _ => .unknown
  | .ok packet =>
    let connection := packet.connection
    match connection.protocol with
    | .tcp => .unrelated
    | .any => .unknown
    | .udp | .icmp | .icmpV6 =>
      match connection.sourcePort with
      | none => .unknown
      | some localPort =>
        if connection.protocol = .udp ∧ connection.destinationPort = none then .unknown
        else .reply
          { localAddress := connection.sourceAddress
            localPort
            remote := connection.destinationAddress
            remotePort := connection.destinationPort
            protocol := connection.protocol }

def MAX_TRACKED_OUTGOING : ℕ := 1024

/-- A runtime of the queue. Ports are reused; epochs are not. -/
structure QueueIdentity where
  portId : BitVec 32
  epoch : ℕ
  deriving DecidableEq

/-- A number of the queue, as a reply captured it. -/
structure ReadThroughBarrier where
  identity : QueueIdentity
  sequence : BitVec 32

structure PacketProgress where
  flow : OutgoingFlow
  completed : Bool
  deriving DecidableEq

structure QueueProgress where
  identity : QueueIdentity
  completed : BitVec 32
  lastAdmitted : BitVec 32
  order : List (BitVec 32)
  verdicts : BitVec 32 → Option PacketProgress

namespace QueueProgress

def new (portId : BitVec 32) (epoch : ℕ) : Except String QueueProgress := do
  ensure (portId ≠ 0) "OUTPUT queue has no userspace netlink port ID"
  return { identity := ⟨portId, epoch⟩, completed := 0, lastAdmitted := 0, order := [],
           verdicts := fun _ => none }

variable (p : QueueProgress)

def remainingCapacity : ℕ := MAX_TRACKED_OUTGOING - p.order.length

/-- Check the numbers of a batch behind `previous`, and return the last one. -/
def checkIds (p : QueueProgress) : BitVec 32 → List (BitVec 32 × OutgoingFlow) →
    Except String (BitVec 32)
  | previous, [] => .ok previous
  | previous, (packetId, _) :: rest => do
    let advance := packetId - previous
    let outstandingSpan := packetId - p.completed
    ensure (advance ≠ 0 ∧ advance < serialHalf ∧ outstandingSpan ≠ 0 ∧
        outstandingSpan < serialHalf ∧ p.verdicts packetId = none)
      "OUTPUT received packet IDs are duplicated, reordered, or ambiguous"
    checkIds p packetId rest

def register (packet : BitVec 32 × OutgoingFlow) : QueueProgress :=
  { p with
    order := p.order ++ [packet.1]
    verdicts := Function.update p.verdicts packet.1 (some ⟨packet.2, false⟩) }

/-- Admit a batch. All of it is checked before any of it is registered. -/
def admitClassified (packets : List (BitVec 32 × OutgoingFlow)) :
    Command QueueProgress String Unit := do
  let p ← get
  Command.ofExcept id (ensure (packets.length ≤ p.remainingCapacity)
    "OUTPUT verdict progress admission bound exceeded")
  let previous ← Command.ofExcept id (p.checkIds p.lastAdmitted packets)
  packets.forM fun packet => do
    let p ← get
    set (p.register packet)
  let p ← get
  set { p with lastAdmitted := previous }

/-- Retire the packets of `order` up to the first one that is not completed. -/
def retire : List (BitVec 32) → QueueProgress → QueueProgress
  | [], p => p
  | first :: rest, p =>
    if (p.verdicts first).any (·.completed) then
      retire rest
        { p with order := rest, verdicts := Function.update p.verdicts first none,
                 completed := first }
    else p

def complete (packetId : BitVec 32) : Command QueueProgress String Unit := do
  let p ← get
  match p.verdicts packetId with
  | none => throw "OUTPUT verdict refers to an unadmitted or retired packet ID"
  | some packet =>
    Command.ofExcept id (ensure (packet.completed = false)
      "OUTPUT packet verdict completion is duplicated")
    let p := { p with
      verdicts := Function.update p.verdicts packetId (some { packet with completed := true }) }
    set (retire p.order p)

def reached (barrier : ReadThroughBarrier) : Bool :=
  decide (p.identity.portId = barrier.identity.portId) &&
    decide (p.identity.epoch = barrier.identity.epoch) &&
    decide (p.completed - barrier.sequence < serialHalf)

def PacketProgress.passes (key : FlowKey) (packet : PacketProgress) : Bool :=
  packet.completed ||
    match packet.flow with
    | .reply flow => decide (flow ≠ key)
    | .unrelated => true
    | .unknown => false

/-- Everything up to a barrier that may concern a reply of flow `key` is completed. -/
def reachedForFlow (barrier : ReadThroughBarrier) (key : FlowKey) : Bool :=
  if p.reached barrier then true
  else if p.identity.portId ≠ barrier.identity.portId ∨
      p.identity.epoch ≠ barrier.identity.epoch ∨
      serialHalf ≤ p.lastAdmitted - barrier.sequence then false
  else
    (p.order.takeWhile fun id => decide (barrier.sequence - id < serialHalf)).all fun id =>
      (p.verdicts id).any (PacketProgress.passes key)

end QueueProgress

/-! ### The ledger -/

structure AdmittedPacket where
  number : ℕ
  flow : OutgoingFlow
  completed : Bool
  deriving DecidableEq

def AdmittedPacket.id (packet : AdmittedPacket) : BitVec 32 := serial packet.number

abbrev Ledger := List AdmittedPacket

namespace Ledger

def lastNumber (l : Ledger) : ℕ := (l.getLast?.map (·.number)).getD 0

def settled (l : Ledger) : Ledger := l.takeWhile (·.completed)

def live (l : Ledger) : Ledger := l.dropWhile (·.completed)

def completedNumber (l : Ledger) : ℕ := l.settled.lastNumber

def admitAll : Ledger → List (BitVec 32 × OutgoingFlow) → Ledger
  | l, [] => l
  | l, (packetId, flow) :: rest =>
    admitAll (l ++ [⟨unwrap l.lastNumber packetId, flow, false⟩]) rest

def complete (l : Ledger) (packetId : BitVec 32) : Ledger :=
  match l.reverse.find? (fun packet => decide (packet.id = packetId)) with
  | none => l
  | some target =>
    l.map fun packet =>
      if packet.number = target.number then { packet with completed := true } else packet

/-- A number less than `2 ^ 31` away from the completed and the last number. -/
def Window (l : Ledger) (b : ℕ) : Prop :=
  b < l.completedNumber + 2 ^ 31 ∧ l.lastNumber < b + 2 ^ 31

/-- Every packet up to `b` that may concern a reply of flow `key` is completed. -/
def SettledFor (l : Ledger) (b : ℕ) (key : FlowKey) : Prop :=
  ∀ packet ∈ l, packet.number ≤ b → packet.flow = .reply key ∨ packet.flow = .unknown →
    packet.completed = true

/-- The numbers of a ledger increase, and those that are not retired span less than `2 ^ 31`. -/
structure Numbered (l : Ledger) : Prop where
  increasing : l.Pairwise fun a b => a.number < b.number
  positive : ∀ packet ∈ l, 0 < packet.number
  span : l.lastNumber < l.completedNumber + 2 ^ 31

theorem settled_append_live (l : Ledger) : l.settled ++ l.live = l :=
  List.takeWhile_append_dropWhile

variable {packet : AdmittedPacket} {l : Ledger}

theorem completed_of_mem_settled (h : packet ∈ l.settled) : packet.completed = true :=
  List.mem_takeWhile_imp h

theorem mem_of_mem_live (h : packet ∈ l.live) : packet ∈ l :=
  (List.dropWhile_sublist _).subset h

theorem mem_live_of_open (h : packet ∈ l) (hopen : packet.completed = false) : packet ∈ l.live := by
  rw [← l.settled_append_live] at h
  rcases List.mem_append.mp h with h | h
  · exact absurd (completed_of_mem_settled h) (by simp [hopen])
  · exact h

theorem settled_append_open (l : Ledger) (packet : AdmittedPacket)
    (h : packet.completed = false) : (l ++ [packet]).settled = l.settled := by
  have hnil : [packet].takeWhile (·.completed) = [] := by simp [h]
  rw [settled, settled, List.takeWhile_append, hnil, List.append_nil]
  split_ifs with hall
  · exact (List.takeWhile_prefix _).eq_of_length hall |>.symm
  · rfl

theorem live_append_open (l : Ledger) (packet : AdmittedPacket)
    (h : packet.completed = false) : (l ++ [packet]).live = l.live ++ [packet] := by
  have hsplit := (l ++ [packet]).settled_append_live
  rw [settled_append_open l packet h] at hsplit
  have hsame : l.settled ++ (l ++ [packet]).live = l.settled ++ (l.live ++ [packet]) := by
    rw [hsplit, ← List.append_assoc, settled_append_live]
  exact List.append_cancel_left hsame

@[simp]
theorem lastNumber_nil : lastNumber [] = 0 := rfl

@[simp]
theorem lastNumber_append_singleton (l : Ledger) (packet : AdmittedPacket) :
    lastNumber (l ++ [packet]) = packet.number := by
  simp [lastNumber]

theorem lastNumber_mem (l : Ledger) : l = [] ∨ ∃ packet ∈ l, lastNumber l = packet.number := by
  rcases List.eq_nil_or_concat' l with rfl | ⟨front, packet, rfl⟩
  · exact .inl rfl
  · exact .inr ⟨packet, by simp, by simp⟩

theorem le_lastNumber (hl : l.Pairwise fun a b => a.number < b.number) (h : packet ∈ l) :
    packet.number ≤ l.lastNumber := by
  rcases List.eq_nil_or_concat' l with rfl | ⟨front, last, rfl⟩
  · exact absurd h List.not_mem_nil
  · rw [lastNumber_append_singleton]
    rcases List.mem_append.mp h with h | h
    · exact ((List.pairwise_append.mp hl).2.2 packet h last (by simp)).le
    · rw [List.mem_singleton.mp h]

theorem eq_of_number_eq (hl : l.Pairwise fun a b => a.number < b.number) {other : AdmittedPacket}
    (h : packet ∈ l) (h' : other ∈ l) (hnumber : packet.number = other.number) :
    packet = other := by
  have hnodup : (l.map (·.number)).Nodup :=
    (List.pairwise_map.mpr hl).imp fun hlt => Nat.ne_of_lt hlt
  exact List.inj_on_of_nodup_map hnodup h h' hnumber

namespace Numbered

variable {l : Ledger} {packet other : AdmittedPacket}

theorem completedNumber_le (hl : l.Numbered) : l.completedNumber ≤ l.lastNumber := by
  rcases lastNumber_mem l.settled with h | ⟨packet, hmem, h⟩
  · rw [completedNumber, h, lastNumber_nil]
    exact Nat.zero_le _
  · rw [completedNumber, h]
    exact le_lastNumber hl.increasing ((List.takeWhile_sublist _).subset hmem)

theorem completedNumber_lt (hl : l.Numbered) (h : packet ∈ l.live) :
    l.completedNumber < packet.number := by
  rcases lastNumber_mem l.settled with hnil | ⟨last, hmem, hlast⟩
  · rw [completedNumber, hnil, lastNumber_nil]
    exact hl.positive packet (mem_of_mem_live h)
  · rw [completedNumber, hlast]
    have hpairs := hl.increasing
    rw [← l.settled_append_live] at hpairs
    exact (List.pairwise_append.mp hpairs).2.2 last hmem packet h

theorem live_increasing (hl : l.Numbered) : l.live.Pairwise fun a b => a.number < b.number :=
  hl.increasing.sublist (List.dropWhile_sublist _)

theorem eq_of_id_eq (hl : l.Numbered) (h : packet ∈ l.live) (h' : other ∈ l.live)
    (hid : packet.id = other.id) : packet = other := by
  have hlow := hl.completedNumber_lt h
  have hlow' := hl.completedNumber_lt h'
  have hhigh := le_lastNumber hl.increasing (mem_of_mem_live h)
  have hhigh' := le_lastNumber hl.increasing (mem_of_mem_live h')
  have hspan := hl.span
  have hnumber : packet.number = other.number :=
    serial_injOn_window (by omega) (by omega) hid
  exact eq_of_number_eq hl.increasing (mem_of_mem_live h) (mem_of_mem_live h') hnumber

theorem find?_live (hl : l.Numbered) (h : packet ∈ l.live) :
    l.live.find? (fun other => decide (other.id = packet.id)) = some packet := by
  have hsome : (l.live.find? fun other => decide (other.id = packet.id)).isSome :=
    List.find?_isSome.mpr ⟨packet, h, by simp⟩
  obtain ⟨found, hfound⟩ := Option.isSome_iff_exists.mp hsome
  have hid : found.id = packet.id := by simpa using List.find?_some hfound
  rw [hfound, hl.eq_of_id_eq (List.mem_of_find?_eq_some hfound) h hid]

theorem live_ids_nodup (hl : l.Numbered) : (l.live.map (·.id)).Nodup := by
  have hnodup : l.live.Nodup := hl.live_increasing.imp fun hlt heq => by simp [heq] at hlt
  exact hnodup.map_on fun _ h _ h' hid => hl.eq_of_id_eq h h' hid

end Numbered

end Ledger

/-! ### The tracker follows the ledger -/

namespace QueueProgress

/-- The tracker holds the packets of `rest`, behind those of `done`. -/
structure Holds (p : QueueProgress) (done rest : Ledger) : Prop where
  order : p.order = rest.map (·.id)
  verdicts : ∀ packetId, p.verdicts packetId =
    (rest.find? fun packet => decide (packet.id = packetId)).map fun packet =>
      ⟨packet.flow, packet.completed⟩
  completed : p.completed = serial done.lastNumber

structure Tracks (p : QueueProgress) (l : Ledger) : Prop
    extends p.Holds l.settled l.live where
  numbered : l.Numbered
  lastAdmitted : p.lastAdmitted = serial l.lastNumber

variable {p q : QueueProgress} {l done rest : Ledger} {packets : List (BitVec 32 × OutgoingFlow)}

theorem Holds.register (h : p.Holds done rest) (packet : AdmittedPacket)
    (hopen : packet.completed = false) (hfresh : ∀ other ∈ rest, other.id ≠ packet.id) :
    (p.register (packet.id, packet.flow)).Holds done (rest ++ [packet]) where
  order := by simp [QueueProgress.register, h.order]
  verdicts := by
    intro packetId
    by_cases hid : packetId = packet.id
    · have hnone : rest.find? (fun other => decide (other.id = packet.id)) = none :=
        List.find?_eq_none.mpr fun other hmem => by simpa using hfresh other hmem
      simp [QueueProgress.register, hid, List.find?_append, hnone, hopen]
    · have hid' : ¬ packet.id = packetId := fun heq => hid heq.symm
      simp [QueueProgress.register, Function.update_of_ne hid, h.verdicts, List.find?_append, hid']
  completed := h.completed

theorem unwrap_of_checked (hl : l.Numbered) {packetId : BitVec 32}
    (hadvance : packetId - serial l.lastNumber ≠ 0 ∧
      packetId - serial l.lastNumber < serialHalf)
    (hspan : packetId - serial l.completedNumber < serialHalf) :
    l.lastNumber < unwrap l.lastNumber packetId ∧
      unwrap l.lastNumber packetId < l.completedNumber + 2 ^ 31 := by
  have hle := hl.completedNumber_le
  have hwidth := hl.span
  have hlast : unwrap l.lastNumber packetId ≠ l.lastNumber :=
    fun h => hadvance.1 ((sub_serial_eq_zero_iff _ _).mpr h)
  have hbelow := (sub_serial_lt_half_iff _ _).mp hadvance.2
  have hbelow' := (sub_serial_lt_half_iff _ _).mp hspan
  have hge : l.lastNumber ≤ unwrap l.lastNumber packetId := Nat.le_add_right _ _
  have hge' : l.completedNumber ≤ unwrap l.completedNumber packetId := Nat.le_add_right _ _
  -- Both numbers are reported alike and less than `2 ^ 32` apart.
  have hsame : unwrap l.lastNumber packetId = unwrap l.completedNumber packetId :=
    serial_injOn_window (by omega) (by omega) (by simp)
  omega

theorem numbered_append (hl : l.Numbered) (packet : AdmittedPacket)
    (hopen : packet.completed = false) (hlast : l.lastNumber < packet.number)
    (hspan : packet.number < l.completedNumber + 2 ^ 31) : Ledger.Numbered (l ++ [packet]) where
  increasing := by
    refine List.pairwise_append.mpr ⟨hl.increasing, List.pairwise_singleton _ _, ?_⟩
    intro other hmem last hlast'
    rw [List.mem_singleton.mp hlast']
    exact (Ledger.le_lastNumber hl.increasing hmem).trans_lt hlast
  positive := by
    intro other hmem
    rcases List.mem_append.mp hmem with hmem | hmem
    · exact hl.positive other hmem
    · rw [List.mem_singleton.mp hmem]
      exact Nat.zero_lt_of_lt hlast
  span := by
    rw [Ledger.lastNumber_append_singleton, Ledger.completedNumber,
      Ledger.settled_append_open l packet hopen]
    exact hspan

theorem checkIds_admit {last : BitVec 32} (hp : p.Holds l.settled l.live) (hl : l.Numbered)
    (hq : q.completed = serial l.completedNumber)
    (hcheck : q.checkIds (serial l.lastNumber) packets = .ok last) :
    (packets.foldl register p).Holds (l.admitAll packets).settled (l.admitAll packets).live ∧
      (l.admitAll packets).Numbered ∧ last = serial (l.admitAll packets).lastNumber := by
  induction packets generalizing p l with
  | nil =>
    obtain rfl : serial l.lastNumber = last := by simpa [checkIds] using hcheck
    exact ⟨hp, hl, rfl⟩
  | cons packet packets ih =>
    obtain ⟨packetId, flow⟩ := packet
    simp only [checkIds, Except.bind_unit_eq_ok_iff, ensure_eq_ok_iff, hq] at hcheck
    obtain ⟨⟨hne, hadvance, -, hspan, -⟩, hcheck⟩ := hcheck
    obtain ⟨hlast, hwindow⟩ := unwrap_of_checked hl ⟨hne, hadvance⟩ hspan
    -- The packet as the ledger has it, and the ledger with it.
    let admitted : AdmittedPacket := ⟨unwrap l.lastNumber packetId, flow, false⟩
    have hid : admitted.id = packetId := serial_unwrap _ _
    have hfresh : ∀ other ∈ l.live, other.id ≠ admitted.id := by
      intro other hmem heq
      have hlow := hl.completedNumber_lt hmem
      have hhigh := Ledger.le_lastNumber hl.increasing (Ledger.mem_of_mem_live hmem)
      have hnumber : other.number = admitted.number :=
        serial_injOn_window (by simp only [admitted]; omega) (by simp only [admitted]; omega) heq
      simp only [admitted] at hnumber
      omega
    have hregister := hp.register admitted rfl hfresh
    rw [← Ledger.live_append_open l admitted rfl, ← Ledger.settled_append_open l admitted rfl,
      hid] at hregister
    have hnumbered := numbered_append hl admitted rfl hlast hwindow
    refine ih hregister hnumbered ?_ ?_
    · rw [hq, Ledger.completedNumber, Ledger.completedNumber,
        Ledger.settled_append_open l admitted rfl]
    · rw [Ledger.lastNumber_append_singleton]
      simpa only [admitted, serial_unwrap] using hcheck

/-- Retiring moves the completed packets at the beginning of `rest` behind `done`. -/
theorem Holds.retire (h : p.Holds done rest) (hnodup : (rest.map (·.id)).Nodup) :
    (QueueProgress.retire p.order p).Holds (done ++ rest.takeWhile (·.completed))
      (rest.dropWhile (·.completed)) := by
  induction rest generalizing p done with
  | nil =>
    have hretire : QueueProgress.retire p.order p = p := by rw [h.order]; rfl
    simpa [hretire] using h
  | cons packet rest ih =>
    obtain ⟨hfresh, hnodup⟩ := List.nodup_cons.mp hnodup
    have hfirst : p.verdicts packet.id = some ⟨packet.flow, packet.completed⟩ := by
      rw [h.verdicts, List.find?_cons_of_pos (by simp)]
      rfl
    rw [h.order, List.map_cons, QueueProgress.retire, hfirst]
    cases hdone : packet.completed with
    | false => simpa [hdone] using h
    | true =>
      have hstep : QueueProgress.Holds
          { p with order := rest.map (·.id), verdicts := Function.update p.verdicts packet.id none,
                   completed := packet.id } (done ++ [packet]) rest := by
        refine ⟨rfl, ?_, ?_⟩
        · intro packetId
          by_cases hid : packetId = packet.id
          · have hnone : rest.find? (fun other => decide (other.id = packet.id)) = none := by
              refine List.find?_eq_none.mpr fun other hmem => ?_
              have hne : other.id ≠ packet.id := fun heq =>
                hfresh (List.mem_map.mpr ⟨other, hmem, heq⟩)
              simpa using hne
            simp [hid, hnone]
          · have hid' : ¬ packet.id = packetId := fun heq => hid heq.symm
            simp [Function.update_of_ne hid, h.verdicts, hid']
        · simp [AdmittedPacket.id]
      rw [List.takeWhile_cons_of_pos hdone, List.dropWhile_cons_of_pos hdone,
        ← List.singleton_append, ← List.append_assoc]
      exact ih hstep hnodup

end QueueProgress

namespace Ledger

variable {l : Ledger} {target : AdmittedPacket}

def mark (target packet : AdmittedPacket) : AdmittedPacket :=
  if packet.number = target.number then { packet with completed := true } else packet

@[simp]
theorem mark_number (target packet : AdmittedPacket) :
    (mark target packet).number = packet.number := by
  unfold mark
  split_ifs <;> rfl

@[simp]
theorem mark_id (target packet : AdmittedPacket) : (mark target packet).id = packet.id := by
  rw [AdmittedPacket.id, mark_number, AdmittedPacket.id]

@[simp]
theorem mark_flow (target packet : AdmittedPacket) :
    (mark target packet).flow = packet.flow := by
  unfold mark
  split_ifs <;> rfl

theorem mark_completed_of_completed (target : AdmittedPacket) {packet : AdmittedPacket}
    (h : packet.completed = true) : (mark target packet).completed = true := by
  unfold mark
  split_ifs
  · rfl
  · exact h

theorem complete_of_mem_live (hl : l.Numbered) (h : target ∈ l.live) :
    l.complete target.id = l.map (mark target) := by
  have hfind : l.reverse.find? (fun packet => decide (packet.id = target.id)) = some target := by
    rw [← l.settled_append_live, List.reverse_append, List.find?_append]
    have hlive : l.live.reverse.find? (fun packet => decide (packet.id = target.id)) =
        some target := by
      have hsome : (l.live.reverse.find? fun packet => decide (packet.id = target.id)).isSome :=
        List.find?_isSome.mpr ⟨target, List.mem_reverse.mpr h, by simp⟩
      obtain ⟨found, hfound⟩ := Option.isSome_iff_exists.mp hsome
      have hmem : found ∈ l.live := List.mem_reverse.mp (List.mem_of_find?_eq_some hfound)
      have hid : found.id = target.id := by simpa using List.find?_some hfound
      rw [hfound, hl.eq_of_id_eq hmem h hid]
    rw [hlive]
    rfl
  unfold complete
  rw [hfind]
  rfl

theorem lastNumber_map_mark (l : Ledger) (target : AdmittedPacket) :
    lastNumber (l.map (mark target)) = l.lastNumber := by
  rcases List.eq_nil_or_concat' l with rfl | ⟨front, last, rfl⟩
  · rfl
  · simp

theorem settled_mark (l : Ledger) (target : AdmittedPacket) :
    settled (l.map (mark target)) =
      l.settled.map (mark target) ++ (l.live.map (mark target)).takeWhile (·.completed) := by
  have hdone : ∀ packet ∈ l.settled.map (mark target), packet.completed = true := by
    intro packet hmem
    obtain ⟨original, horiginal, rfl⟩ := List.mem_map.mp hmem
    exact mark_completed_of_completed target (completed_of_mem_settled horiginal)
  have hsplit : l.map (mark target) = l.settled.map (mark target) ++ l.live.map (mark target) := by
    rw [← List.map_append, settled_append_live]
  rw [settled, hsplit, List.takeWhile_append_of_pos hdone]

theorem live_mark (l : Ledger) (target : AdmittedPacket) :
    live (l.map (mark target)) = (l.live.map (mark target)).dropWhile (·.completed) := by
  have hdone : ∀ packet ∈ l.settled.map (mark target), packet.completed = true := by
    intro packet hmem
    obtain ⟨original, horiginal, rfl⟩ := List.mem_map.mp hmem
    exact mark_completed_of_completed target (completed_of_mem_settled horiginal)
  have hsplit : l.map (mark target) = l.settled.map (mark target) ++ l.live.map (mark target) := by
    rw [← List.map_append, settled_append_live]
  rw [live, hsplit, List.dropWhile_append_of_pos hdone]

theorem lastNumber_le_append {front back : Ledger}
    (h : (front ++ back).Pairwise fun a b => a.number < b.number) :
    front.lastNumber ≤ lastNumber (front ++ back) := by
  rcases lastNumber_mem front with hnil | ⟨packet, hmem, hlast⟩
  · simp [hnil]
  · rw [hlast]
    exact le_lastNumber h (List.mem_append_left _ hmem)

theorem increasing_map_mark (hl : l.Pairwise fun a b => a.number < b.number)
    (target : AdmittedPacket) : (l.map (mark target)).Pairwise fun a b => a.number < b.number :=
  List.pairwise_map.mpr (hl.imp fun hlt => by simpa using hlt)

theorem completedNumber_le_mark (hl : l.Numbered) (target : AdmittedPacket) :
    l.completedNumber ≤ completedNumber (l.map (mark target)) := by
  have hincreasing : (settled (l.map (mark target))).Pairwise fun a b => a.number < b.number :=
    (increasing_map_mark hl.increasing target).sublist (List.takeWhile_sublist _)
  rw [completedNumber, completedNumber, ← lastNumber_map_mark l.settled target]
  rw [settled_mark] at hincreasing ⊢
  exact lastNumber_le_append hincreasing

theorem Numbered.mark (hl : l.Numbered) (target : AdmittedPacket) :
    Numbered (l.map (Ledger.mark target)) where
  increasing := increasing_map_mark hl.increasing target
  positive := by
    intro packet hmem
    obtain ⟨original, horiginal, rfl⟩ := List.mem_map.mp hmem
    rw [mark_number]
    exact hl.positive original horiginal
  span := by
    have hspan := hl.span
    have hmore := completedNumber_le_mark hl target
    rw [lastNumber_map_mark]
    omega

end Ledger

namespace QueueProgress

variable {p : QueueProgress} {l : Ledger} {packets : List (BitVec 32 × OutgoingFlow)}
  {packetId : BitVec 32}

theorem exec_register_all (packets : List (BitVec 32 × OutgoingFlow)) (p : QueueProgress) :
    (packets.forM (fun packet => do
      let p ← get
      set (p.register packet)) : Command QueueProgress String PUnit).exec p =
      (.ok (), packets.foldl register p) := by
  induction packets generalizing p with
  | nil => rfl
  | cons packet packets ih => exact ih (p.register packet)

theorem exec_admitClassified (p : QueueProgress) (packets : List (BitVec 32 × OutgoingFlow)) :
    (admitClassified packets).exec p =
      match (ensure (packets.length ≤ p.remainingCapacity)
          "OUTPUT verdict progress admission bound exceeded" >>= fun _ =>
            p.checkIds p.lastAdmitted packets) with
      | .ok last => (.ok (), { packets.foldl register p with lastAdmitted := last })
      | .error e => (.error e, p) := by
  rw [admitClassified, Command.exec_bind, Command.exec_get]
  simp only [Command.exec_bind]
  cases hroom : ensure (packets.length ≤ p.remainingCapacity)
      "OUTPUT verdict progress admission bound exceeded" with
  | error e => rfl
  | ok _ =>
    cases hcheck : p.checkIds p.lastAdmitted packets with
    | error e => rfl
    | ok last =>
      simp only [Command.ofExcept, Command.exec_pure, exec_register_all, Command.exec_get]
      rfl

theorem exec_complete (p : QueueProgress) (packetId : BitVec 32) :
    (complete packetId).exec p =
      match p.verdicts packetId with
      | none => (.error "OUTPUT verdict refers to an unadmitted or retired packet ID", p)
      | some packet =>
        if packet.completed then
          (.error "OUTPUT packet verdict completion is duplicated", p)
        else (.ok (), retire p.order { p with
          verdicts := Function.update p.verdicts packetId
            (some { packet with completed := true }) }) := by
  rw [complete, Command.exec_bind, Command.exec_get]
  cases hpacket : p.verdicts packetId with
  | none => simp [hpacket]
  | some packet =>
    cases hdone : packet.completed <;> simp [hpacket, ensure, hdone,
      Command.ofExcept]

@[simp]
theorem foldl_register_identity (packets : List (BitVec 32 × OutgoingFlow)) (p : QueueProgress) :
    (packets.foldl register p).identity = p.identity := by
  induction packets generalizing p with
  | nil => rfl
  | cons packet packets ih => exact ih (p.register packet)

@[simp]
theorem retire_identity (order : List (BitVec 32)) (p : QueueProgress) :
    (retire order p).identity = p.identity := by
  induction order generalizing p with
  | nil => rfl
  | cons first rest ih =>
    rw [retire]
    split_ifs
    · exact ih _
    · rfl

@[simp]
theorem retire_lastAdmitted (order : List (BitVec 32)) (p : QueueProgress) :
    (retire order p).lastAdmitted = p.lastAdmitted := by
  induction order generalizing p with
  | nil => rfl
  | cons first rest ih =>
    rw [retire]
    split_ifs
    · exact ih _
    · rfl

theorem tracks_new {portId : BitVec 32} {epoch : ℕ} (h : new portId epoch = .ok p) :
    p.Tracks [] ∧ p.identity = ⟨portId, epoch⟩ := by
  simp only [new, Except.bind_unit_eq_ok_iff] at h
  obtain ⟨-, h⟩ := h
  obtain rfl := Except.ok.inj h
  refine ⟨⟨⟨rfl, fun _ => rfl, rfl⟩, ⟨List.Pairwise.nil, by simp, ?_⟩, rfl⟩, rfl⟩
  simp [Ledger.completedNumber, Ledger.settled]

theorem Tracks.admitAll (h : p.Tracks l) {last : BitVec 32}
    (hcheck : p.checkIds p.lastAdmitted packets = .ok last) :
    Tracks { packets.foldl register p with lastAdmitted := last } (l.admitAll packets) := by
  rw [h.lastAdmitted] at hcheck
  obtain ⟨hholds, hnumbered, hlast⟩ :=
    checkIds_admit h.toHolds h.numbered h.completed hcheck
  exact ⟨⟨hholds.order, hholds.verdicts, hholds.completed⟩, hnumbered, hlast⟩

theorem Tracks.verdicts_eq_some (h : p.Tracks l) {progress : PacketProgress}
    (hprogress : p.verdicts packetId = some progress) :
    ∃ packet ∈ l.live, packet.id = packetId ∧ progress = ⟨packet.flow, packet.completed⟩ := by
  rw [h.verdicts, Option.map_eq_some_iff] at hprogress
  obtain ⟨packet, hfind, rfl⟩ := hprogress
  exact ⟨packet, List.mem_of_find?_eq_some hfind, by simpa using List.find?_some hfind, rfl⟩

theorem Tracks.verdicts_of_mem (h : p.Tracks l) {packet : AdmittedPacket}
    (hmem : packet ∈ l.live) :
    p.verdicts packet.id = some ⟨packet.flow, packet.completed⟩ := by
  rw [h.verdicts, h.numbered.find?_live hmem]
  rfl

theorem Tracks.complete (h : p.Tracks l) {target : AdmittedPacket} (hmem : target ∈ l.live) :
    Tracks (retire p.order { p with
        verdicts := Function.update p.verdicts target.id (some ⟨target.flow, true⟩) })
      (l.complete target.id) := by
  rw [Ledger.complete_of_mem_live h.numbered hmem]
  -- The packet is marked where it is; then the completed beginning is retired.
  have hmarked : Holds { p with
      verdicts := Function.update p.verdicts target.id (some ⟨target.flow, true⟩) }
      (l.settled.map (Ledger.mark target)) (l.live.map (Ledger.mark target)) := by
    refine ⟨?_, ?_, ?_⟩
    · rw [List.map_map]
      exact h.order.trans (List.map_congr_left fun packet _ => (Ledger.mark_id target packet).symm)
    · intro packetId
      have hfind : (l.live.map (Ledger.mark target)).find?
          (fun packet => decide (packet.id = packetId)) =
          (l.live.find? fun packet => decide (packet.id = packetId)).map (Ledger.mark target) := by
        rw [List.find?_map]
        simp
      rw [hfind]
      by_cases hid : packetId = target.id
      · simp [hid, h.numbered.find?_live hmem, Ledger.mark]
      · change Function.update p.verdicts target.id _ packetId = _
        rw [Function.update_of_ne hid, h.verdicts]
        cases hfound : l.live.find? fun packet => decide (packet.id = packetId) with
        | none => rfl
        | some found =>
          have hfoundId : found.id = packetId := by simpa using List.find?_some hfound
          have hnumber : found.number ≠ target.number := by
            intro heq
            exact hid (by rw [← hfoundId, AdmittedPacket.id, heq]; rfl)
          simp [Ledger.mark, hnumber]
    · rw [Ledger.lastNumber_map_mark]
      exact h.completed
  have hnodup : ((l.live.map (Ledger.mark target)).map (·.id)).Nodup := by
    rw [List.map_map]
    have hids : (fun packet : AdmittedPacket => packet.id) ∘ Ledger.mark target =
        fun packet => packet.id := funext fun packet => Ledger.mark_id target packet
    rw [hids]
    exact h.numbered.live_ids_nodup
  have hretired := hmarked.retire hnodup
  rw [← Ledger.settled_mark, ← Ledger.live_mark] at hretired
  refine ⟨hretired, h.numbered.mark target, ?_⟩
  rw [retire_lastAdmitted, Ledger.lastNumber_map_mark]
  exact h.lastAdmitted

end QueueProgress

/-! ### Runs -/

inductive ProgressCall where
  | admitClassified (packets : List (BitVec 32 × OutgoingFlow))
  | complete (packetId : BitVec 32)

/-- A tracker and the ledger of what it was told. -/
structure ProgressRun where
  progress : QueueProgress
  ledger : Ledger

namespace ProgressRun

def step (r : ProgressRun) : ProgressCall → ProgressRun
  | .admitClassified packets =>
    match (QueueProgress.admitClassified packets).exec r.progress with
    | (.ok _, progress) => ⟨progress, r.ledger.admitAll packets⟩
    | (.error _, progress) => ⟨progress, r.ledger⟩
  | .complete packetId =>
    match (QueueProgress.complete packetId).exec r.progress with
    | (.ok _, progress) => ⟨progress, r.ledger.complete packetId⟩
    | (.error _, progress) => ⟨progress, r.ledger⟩

def run (r : ProgressRun) (calls : List ProgressCall) : ProgressRun := calls.foldl step r

variable {r : ProgressRun}

theorem step_cases (h : r.progress.Tracks r.ledger) (call : ProgressCall) :
    r.step call = r ∨
    (∃ packets last, call = .admitClassified packets ∧
      r.progress.checkIds r.progress.lastAdmitted packets = .ok last ∧
      r.step call = ⟨{ packets.foldl QueueProgress.register r.progress with lastAdmitted := last },
        r.ledger.admitAll packets⟩) ∨
    ∃ target ∈ r.ledger.live, call = .complete target.id ∧
      r.step call = ⟨QueueProgress.retire r.progress.order { r.progress with
          verdicts := Function.update r.progress.verdicts target.id
            (some ⟨target.flow, true⟩) },
        r.ledger.complete target.id⟩ := by
  cases call with
  | admitClassified packets =>
    simp only [step, QueueProgress.exec_admitClassified]
    cases hroom : ensure (packets.length ≤ r.progress.remainingCapacity)
        "OUTPUT verdict progress admission bound exceeded" with
    | error e => exact .inl rfl
    | ok _ =>
      cases hcheck : r.progress.checkIds r.progress.lastAdmitted packets with
      | error e =>
        refine .inl ?_
        simp [Bind.bind, Except.bind]
      | ok last =>
        refine .inr (.inl ⟨packets, last, rfl, hcheck, ?_⟩)
        simp [Bind.bind, Except.bind]
  | complete packetId =>
    simp only [step, QueueProgress.exec_complete]
    cases hprogress : r.progress.verdicts packetId with
    | none => exact .inl rfl
    | some progress =>
      obtain ⟨target, hmem, rfl, rfl⟩ := h.verdicts_eq_some hprogress
      cases hdone : target.completed with
      | true => exact .inl (by simp)
      | false => exact .inr (.inr ⟨target, hmem, rfl, by simp⟩)

theorem tracks_step (h : r.progress.Tracks r.ledger) (call : ProgressCall) :
    (r.step call).progress.Tracks (r.step call).ledger := by
  rcases step_cases h call with hstep | ⟨packets, last, -, hcheck, hstep⟩ | ⟨target, hmem, -, hstep⟩
  · rwa [hstep]
  · rw [hstep]
    exact h.admitAll hcheck
  · rw [hstep]
    exact h.complete hmem

theorem tracks_run (h : r.progress.Tracks r.ledger) (calls : List ProgressCall) :
    (r.run calls).progress.Tracks (r.run calls).ledger := by
  induction calls generalizing r with
  | nil => exact h
  | cons call calls ih => exact ih (tracks_step h call)

theorem identity_run (h : r.progress.Tracks r.ledger) (calls : List ProgressCall) :
    (r.run calls).progress.identity = r.progress.identity := by
  induction calls generalizing r with
  | nil => rfl
  | cons call calls ih =>
    refine (ih (tracks_step h call)).trans ?_
    rcases step_cases h call with hstep | ⟨packets, last, -, -, hstep⟩ | ⟨target, -, -, hstep⟩
    · rw [hstep]
    · rw [hstep]
      exact QueueProgress.foldl_register_identity packets r.progress
    · rw [hstep]
      exact QueueProgress.retire_identity _ _

end ProgressRun

def Sample.progress : QueueProgress :=
  { identity := ⟨7, 0⟩, completed := 0, lastAdmitted := 0, order := [], verdicts := fun _ => none }

end OpenShield
