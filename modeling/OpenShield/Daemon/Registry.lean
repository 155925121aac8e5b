import OpenShield.Data.Table
import OpenShield.Daemon.Progress

/-!
# Readiness of replies

The registry knows, for every flow that a reply could belong to, the outgoing packets that are
being decided: a wave of tickets, which begins when the first of them is drawn and has failed when
one of them was denied. It has room for a fixed number of flows and of tickets. A new generation
forgets all of them.

A hash map is a list of entries here; the order of a list stands for the order in which the map is
iterated.
-/

namespace OpenShield

def REPLY_CAPACITY : ℕ := 128

abbrev Instant := ℕ

def REPLY_LIFETIME : ℕ := 2000000000

/-- A packet that is being decided. -/
structure OutgoingTicket where
  key : FlowKey
  generation : BitVec 32
  wave : BitVec 64
  serial : BitVec 64
  deriving DecidableEq

/-- The packets of a flow that are being decided. -/
structure Wave where
  serial : BitVec 64
  active : Finset (BitVec 64)
  failed : Bool
  updated : Instant
  deriving DecidableEq

/-- A wave with one more ticket. A wave without active tickets starts again. -/
def Wave.join (serial : BitVec 64) (now : Instant) (wave : Wave) : Wave :=
  if wave.active = ∅ then { serial, active := {serial}, failed := false, updated := now }
  else { wave with active := insert serial wave.active, updated := now }

def Wave.leave (serial : BitVec 64) (succeeded : Bool) (now : Instant) (wave : Wave) : Wave :=
  { wave with
    active := wave.active.erase serial
    failed := wave.failed || !succeeded
    updated := now }

structure Registry where
  generation : Option (BitVec 32)
  nextSerial : BitVec 64
  flows : List (FlowKey × Wave)
  progress : QueueProgress

namespace Registry

def new (queuePortId : BitVec 32) (epoch : ℕ) : Except String Registry := do
  let progress ← QueueProgress.new queuePortId epoch
  return { generation := none, nextSerial := 0, flows := [], progress }

def remembers (now : Instant) (wave : Wave) : Bool :=
  decide (wave.active ≠ ∅) || decide (now - wave.updated < REPLY_LIFETIME)

def prune (now : Instant) (r : Registry) : Registry :=
  { r with flows := r.flows.filter fun entry => remembers now entry.2 }

def enter (generation : BitVec 32) (r : Registry) : Registry :=
  if r.generation ≠ some generation then { r with flows := [], generation := some generation }
  else r

def activeCount (r : Registry) : ℕ := (r.flows.map (·.2.active.card)).sum

def containsFlow (r : Registry) (key : FlowKey) : Bool := (Table.find r.flows key).isSome

def oldestSettled (r : Registry) : Option FlowKey :=
  ((r.flows.filter fun entry => decide (entry.2.active = ∅)).argmin (·.2.updated)).map Prod.fst

def evictFor (key : FlowKey) (r : Registry) : Registry :=
  if r.containsFlow key = false ∧ REPLY_CAPACITY ≤ r.flows.length then
    match r.oldestSettled with
    | some oldest => { r with flows := Table.drop oldest r.flows }
    | none => r
  else r

def joinFlow (key : FlowKey) (serial : BitVec 64) (now : Instant) (r : Registry) : Registry :=
  if r.containsFlow key then
    { r with flows := Table.alter key (·.join serial now) r.flows }
  else { r with flows := r.flows ++ [(key, ⟨serial, {serial}, false, now⟩)] }

def begin (key : FlowKey) (generation : BitVec 32) (now : Instant) :
    Command Registry String OutgoingTicket := do
  let r ← get
  set ((r.enter generation).prune now)
  let r ← get
  Command.ofExcept id (ensure (r.activeCount < REPLY_CAPACITY)
    "reply readiness active ticket bound exceeded")
  set (r.evictFor key)
  let r ← get
  Command.ofExcept id (ensure (r.containsFlow key = true ∨ r.flows.length < REPLY_CAPACITY)
    "reply readiness flow bound exceeded")
  match checkedSucc r.nextSerial with
  | none => throw "reply readiness ticket space exhausted"
  | some serial =>
    set ({ r with nextSerial := serial }.joinFlow key serial now)
    let r ← get
    return { key, generation, wave := ((Table.find r.flows key).map (·.serial)).getD serial, serial }

def complete (ticket : OutgoingTicket) (succeeded : Bool) (now : Instant) (r : Registry) :
    Bool × Registry :=
  if r.generation ≠ some ticket.generation then (false, r)
  else
    match Table.find r.flows ticket.key with
    | none => (false, r)
    | some wave =>
      if wave.serial ≠ ticket.wave ∨ ticket.serial ∉ wave.active then (false, r)
      else
        (true,
          { r with
            flows := Table.alter ticket.key (·.leave ticket.serial succeeded now) r.flows })

variable (r : Registry) (generation : BitVec 32)

@[simp]
theorem enter_generation : (r.enter generation).generation = some generation := by
  unfold enter
  split_ifs with h
  · rfl
  · exact not_not.mp h

@[simp]
theorem enter_nextSerial : (r.enter generation).nextSerial = r.nextSerial := by
  unfold enter
  split_ifs <;> rfl

@[simp]
theorem enter_progress : (r.enter generation).progress = r.progress := by
  unfold enter
  split_ifs <;> rfl

/-- Making room changes nothing but the waves. -/
theorem evictFor_eq (key : FlowKey) :
    r.evictFor key = { r with flows := (r.evictFor key).flows } := by
  unfold evictFor
  split_ifs
  · cases r.oldestSettled <;> rfl
  · rfl

theorem exec_begin (key : FlowKey) (generation : BitVec 32) (now : Instant)
    {pruned settled : Registry} (hpruned : (r.enter generation).prune now = pruned)
    (hsettled : pruned.evictFor key = settled) :
    (begin key generation now).exec r =
      if pruned.activeCount < REPLY_CAPACITY then
        if settled.containsFlow key = true ∨ settled.flows.length < REPLY_CAPACITY then
          match checkedSucc settled.nextSerial with
          | none => (.error "reply readiness ticket space exhausted", settled)
          | some serial =>
            let joined := { settled with nextSerial := serial }.joinFlow key serial now
            (.ok { key, generation, serial,
                   wave := ((Table.find joined.flows key).map (·.serial)).getD serial }, joined)
        else (.error "reply readiness flow bound exceeded", settled)
      else (.error "reply readiness active ticket bound exceeded", pruned) := by
  simp only [begin, Command.exec_bind, Command.exec_get, Command.exec_set, Command.ofExcept, ensure,
    hpruned, hsettled]
  by_cases hcount : pruned.activeCount < REPLY_CAPACITY
  · by_cases hroom : settled.containsFlow key = true ∨ settled.flows.length < REPLY_CAPACITY
    · cases checkedSucc settled.nextSerial <;>
        simp only [if_pos hcount, if_pos hroom, Command.exec_bind, Command.exec_get,
          Command.exec_set, Command.exec_pure, Command.exec_throw]
    · simp only [if_pos hcount, if_neg hroom, Command.exec_pure, Command.exec_throw, id_eq]
  · simp only [if_neg hcount, Command.exec_throw, id_eq]

/-- Drawing a ticket ends with an error, some waves forgotten, or with a ticket. -/
theorem begin_cases (r : Registry) (key : FlowKey) (generation : BitVec 32) (now : Instant) :
    let pruned := (r.enter generation).prune now
    let settled := pruned.evictFor key
    (∃ e s, (begin key generation now).exec r = (.error e, s) ∧ (s = pruned ∨ s = settled)) ∨
    ∃ serial, pruned.activeCount < REPLY_CAPACITY ∧
      (settled.containsFlow key = true ∨ settled.flows.length < REPLY_CAPACITY) ∧
      checkedSucc settled.nextSerial = some serial ∧
      let joined := { settled with nextSerial := serial }.joinFlow key serial now
      (begin key generation now).exec r =
        (.ok { key, generation, serial,
               wave := ((Table.find joined.flows key).map (·.serial)).getD serial }, joined) := by
  intro pruned settled
  rw [exec_begin r key generation now (show _ = pruned from rfl) (show _ = settled from rfl)]
  split_ifs with hcount hroom
  · cases checkedSucc settled.nextSerial with
    | some serial => exact .inr ⟨serial, hcount, hroom, rfl, rfl⟩
    | none => exact .inl ⟨_, settled, rfl, .inr rfl⟩
  · exact .inl ⟨_, settled, rfl, .inr rfl⟩
  · exact .inl ⟨_, pruned, rfl, .inl rfl⟩

/-- `r'` has lost some settled waves of `r`. -/
def Forgets (r r' : Registry) : Prop :=
  ∃ p : FlowKey × Wave → Bool, r' = { r with flows := r.flows.filter p } ∧
    ∀ entry ∈ r.flows, p entry = false → entry.2.active = ∅

theorem forgets_prune (now : Instant) : r.Forgets (r.prune now) := by
  refine ⟨_, rfl, fun entry _ hdropped => ?_⟩
  by_contra hactive
  simp [remembers, hactive] at hdropped

/-- The wave that makes room is settled. -/
theorem forgets_evictFor {r : Registry} (h : Table.Unique r.flows) (key : FlowKey) :
    r.Forgets (r.evictFor key) := by
  have hnothing : r.Forgets r := ⟨fun _ => true, by simp, by simp⟩
  unfold evictFor
  split_ifs
  · cases holdest : r.oldestSettled with
    | none => exact hnothing
    | some oldest =>
      obtain ⟨⟨found, wave⟩, hargmin, rfl⟩ := Option.map_eq_some_iff.mp holdest
      obtain ⟨hmem, hsettled⟩ := List.mem_filter.mp (List.argmin_mem hargmin)
      refine ⟨_, rfl, fun entry hentry hdropped => ?_⟩
      have hkey : entry.1 = found := by simpa using hdropped
      have hsame : entry.2 = wave := h.eq (hkey ▸ hentry) hmem
      rw [hsame]
      simpa using hsettled
  · exact hnothing

/-! ### Accounting for tickets -/

structure Accounts (r : Registry) (tickets : List OutgoingTicket) : Prop where
  unique : Table.Unique r.flows
  bound : r.flows.length ≤ REPLY_CAPACITY
  count : r.activeCount = tickets.length
  issued : ∀ entry ∈ r.flows, ∀ serial ∈ entry.2.active, serial.toNat ≤ r.nextSerial.toNat
  distinct : (tickets.map (·.serial)).Nodup
  /-- Each ticket is of the current generation and active in the wave it was drawn for. -/
  known : ∀ ticket ∈ tickets, r.generation = some ticket.generation ∧
    ∃ wave, (ticket.key, wave) ∈ r.flows ∧ wave.serial = ticket.wave ∧
      ticket.serial ∈ wave.active

namespace Accounts

variable {r : Registry} {tickets : List OutgoingTicket}

theorem nil (generation : Option (BitVec 32)) (nextSerial : BitVec 64) (progress : QueueProgress) :
    Accounts ⟨generation, nextSerial, [], progress⟩ [] :=
  ⟨List.nodup_nil, Nat.zero_le _, rfl, List.forall_mem_nil _, List.nodup_nil, List.forall_mem_nil _⟩

theorem withProgress (h : r.Accounts tickets) (progress : QueueProgress) :
    Accounts { r with progress } tickets :=
  ⟨h.unique, h.bound, h.count, h.issued, h.distinct, h.known⟩

theorem perm {tickets' : List OutgoingTicket} (h : r.Accounts tickets)
    (hperm : tickets.Perm tickets') : r.Accounts tickets' where
  unique := h.unique
  bound := h.bound
  count := h.count.trans hperm.length_eq
  issued := h.issued
  distinct := (hperm.map _).nodup_iff.mp h.distinct
  known := fun ticket hmem => h.known ticket (hperm.mem_iff.mpr hmem)

/-- A settled wave may be forgotten. -/
theorem forgets {r' : Registry} (h : r.Accounts tickets) (hforgets : r.Forgets r') :
    r'.Accounts tickets := by
  obtain ⟨p, rfl, hp⟩ := hforgets
  exact
    { unique := h.unique.sublist List.filter_sublist
      bound := (List.length_filter_le _ _).trans h.bound
      count := by
        have hsum : ((r.flows.filter p).map fun entry => entry.2.active.card).sum =
            (r.flows.map fun entry => entry.2.active.card).sum :=
          Table.sum_filter (g := fun wave : Wave => wave.active.card)
            fun entry hmem hdropped => by rw [hp entry hmem hdropped, Finset.card_empty]
        exact hsum.trans h.count
      issued := fun entry hmem => h.issued entry (List.mem_filter.mp hmem).1
      distinct := h.distinct
      known := by
        intro ticket hticket
        obtain ⟨hgeneration, wave, hmem, hserial, hactive⟩ := h.known ticket hticket
        refine ⟨hgeneration, wave, List.mem_filter.mpr ⟨hmem, ?_⟩, hserial, hactive⟩
        by_contra hdropped
        have hempty : wave.active = ∅ := hp _ hmem (by simpa using hdropped)
        simp [hempty] at hactive }

theorem prune (h : r.Accounts tickets) (now : Instant) : (r.prune now).Accounts tickets :=
  h.forgets (forgets_prune r now)

theorem enter (h : r.Accounts tickets) {generation : BitVec 32}
    (hnone : tickets = [] ∨ r.generation = some generation) :
    (r.enter generation).Accounts tickets := by
  unfold Registry.enter
  split_ifs with hnew
  · obtain rfl := hnone.resolve_right hnew
    exact nil ..
  · exact h

theorem evictFor (h : r.Accounts tickets) (key : FlowKey) : (r.evictFor key).Accounts tickets :=
  h.forgets (forgets_evictFor h.unique key)

theorem room (h : r.Accounts tickets) (hfew : tickets.length < REPLY_CAPACITY) (key : FlowKey) :
    (r.evictFor key).containsFlow key = true ∨
      (r.evictFor key).flows.length < REPLY_CAPACITY := by
  by_cases hfull : r.containsFlow key = false ∧ REPLY_CAPACITY ≤ r.flows.length
  · -- Not every flow has an active ticket, so one of them can go.
    obtain ⟨entry, hmem, hsettled⟩ : ∃ entry ∈ r.flows, entry.2.active = ∅ := by
      by_contra hnone
      have hactive : ∀ n ∈ r.flows.map (·.2.active.card), 1 ≤ n := by
        intro n hn
        obtain ⟨entry, hentry, rfl⟩ := List.mem_map.mp hn
        exact Finset.card_pos.mpr (Finset.nonempty_iff_ne_empty.mpr fun hempty =>
          hnone ⟨entry, hentry, hempty⟩)
      have hsum := List.length_le_sum_of_one_le _ hactive
      have hcount := h.count
      rw [List.length_map] at hsum
      rw [activeCount] at hcount
      omega
    have hne : (r.flows.filter fun entry => decide (entry.2.active = ∅)) ≠ [] :=
      List.ne_nil_of_mem (List.mem_filter.mpr ⟨hmem, by simpa using hsettled⟩)
    obtain ⟨⟨oldest, wave⟩, hargmin⟩ : ∃ found, (r.flows.filter fun entry =>
        decide (entry.2.active = ∅)).argmin (·.2.updated) = some found :=
      Option.ne_none_iff_exists'.mp (mt List.argmin_eq_none.mp hne)
    have holdest : r.oldestSettled = some oldest := by rw [oldestSettled, hargmin]; rfl
    have hfound : (oldest, wave) ∈ r.flows := (List.mem_filter.mp (List.argmin_mem hargmin)).1
    refine .inr ?_
    rw [Registry.evictFor, if_pos hfull, holdest]
    exact (Table.length_drop_lt hfound).trans_le h.bound
  · rw [Registry.evictFor, if_neg hfull]
    cases hcontains : r.containsFlow key with
    | true => exact .inl rfl
    | false => exact .inr (Nat.lt_of_not_le fun hle => hfull ⟨hcontains, hle⟩)

theorem serial_unused (h : r.Accounts tickets) {serial : BitVec 64}
    (hfresh : r.nextSerial.toNat < serial.toNat) {entry : FlowKey × Wave}
    (hmem : entry ∈ r.flows) : serial ∉ entry.2.active := by
  intro hactive
  have := h.issued entry hmem serial hactive
  omega

theorem serial_distinct (h : r.Accounts tickets) {serial : BitVec 64}
    (hfresh : r.nextSerial.toNat < serial.toNat) : serial ∉ tickets.map (·.serial) := by
  intro hmem
  obtain ⟨ticket, hticket, rfl⟩ := List.mem_map.mp hmem
  obtain ⟨-, wave, hwave, -, hactive⟩ := h.known ticket hticket
  exact h.serial_unused hfresh hwave hactive

theorem joinFlow_of_mem (h : r.Accounts tickets) (ticket : OutgoingTicket) {wave : Wave}
    {now : Instant} (hfresh : r.nextSerial.toNat < ticket.serial.toNat)
    (hgeneration : r.generation = some ticket.generation)
    (hmem : (ticket.key, wave) ∈ r.flows)
    (hwave : ticket.wave = (wave.join ticket.serial now).serial) :
    Accounts
      { r with
        nextSerial := ticket.serial
        flows := Table.alter ticket.key (·.join ticket.serial now) r.flows }
      (ticket :: tickets) := by
  have hunused : ticket.serial ∉ wave.active := h.serial_unused hfresh hmem
  have hactive : (wave.join ticket.serial now).active = insert ticket.serial wave.active := by
    unfold Wave.join
    split_ifs with hempty
    · simp [hempty]
    · rfl
  constructor
  case unique => exact h.unique.alter
  case bound => simpa using h.bound
  case count =>
    have hsum := Table.sum_alter (f := (·.join ticket.serial now)) h.unique hmem
      fun wave : Wave => wave.active.card
    have hcount := h.count
    simp only [hactive, Finset.card_insert_of_notMem hunused] at hsum
    simp only [activeCount, List.length_cons] at hcount ⊢
    omega
  case issued =>
    intro entry hentry serial hserial
    rcases Table.mem_alter.mp hentry with ⟨-, hentry⟩ | ⟨other, hother, rfl⟩
    · exact (h.issued entry hentry serial hserial).trans hfresh.le
    · rw [h.unique.eq hother hmem, hactive] at hserial
      rcases Finset.mem_insert.mp hserial with rfl | hserial
      · exact Nat.le_refl _
      · exact (h.issued _ hmem serial hserial).trans hfresh.le
  case distinct => exact List.nodup_cons.mpr ⟨h.serial_distinct hfresh, h.distinct⟩
  case known =>
    intro other hother
    rcases List.mem_cons.mp hother with rfl | hother
    · refine ⟨hgeneration, _, Table.mem_alter.mpr (.inr ⟨wave, hmem, rfl⟩), hwave.symm, ?_⟩
      rw [hactive]
      exact Finset.mem_insert_self _ _
    · obtain ⟨hother', found, hfound, hserial, hin⟩ := h.known other hother
      by_cases hkey : other.key = ticket.key
      · -- The wave has an active ticket, so it goes on.
        rw [hkey] at hfound ⊢
        obtain rfl := h.unique.eq hfound hmem
        have hne : found.active ≠ ∅ := fun hempty => by simp [hempty] at hin
        refine ⟨hother', _, Table.mem_alter.mpr (.inr ⟨found, hmem, rfl⟩), ?_, ?_⟩
        · simpa [Wave.join, hne] using hserial
        · rw [hactive]
          exact Finset.mem_insert_of_mem hin
      · exact ⟨hother', found, Table.mem_alter.mpr (.inl ⟨hkey, hfound⟩), hserial, hin⟩

theorem joinFlow_of_new (h : r.Accounts tickets) (ticket : OutgoingTicket) (now : Instant)
    (hfresh : r.nextSerial.toNat < ticket.serial.toNat)
    (hgeneration : r.generation = some ticket.generation)
    (hnew : ∀ wave, (ticket.key, wave) ∉ r.flows) (hroom : r.flows.length < REPLY_CAPACITY)
    (hwave : ticket.wave = ticket.serial) :
    Accounts
      { r with
        nextSerial := ticket.serial
        flows := r.flows ++ [(ticket.key, ⟨ticket.serial, {ticket.serial}, false, now⟩)] }
      (ticket :: tickets) := by
  constructor
  case unique =>
    simp only [Table.Unique, List.map_append, List.map_cons, List.map_nil]
    refine List.nodup_append.mpr ⟨h.unique, List.nodup_singleton _, ?_⟩
    intro key hkey other hother heq
    obtain ⟨entry, hentry, rfl⟩ := List.mem_map.mp hkey
    rw [List.mem_singleton.mp hother] at heq
    exact hnew entry.2 (heq ▸ hentry)
  case bound =>
    rw [List.length_append]
    exact hroom
  case count =>
    have hcount := h.count
    simp only [activeCount, List.map_append, List.sum_append, List.map_cons, List.map_nil,
      List.sum_cons, List.sum_nil, Finset.card_singleton, List.length_cons] at hcount ⊢
    omega
  case issued =>
    intro entry hentry serial hserial
    rcases List.mem_append.mp hentry with hentry | hentry
    · exact (h.issued entry hentry serial hserial).trans hfresh.le
    · rw [List.mem_singleton.mp hentry] at hserial
      rw [Finset.mem_singleton.mp hserial]
  case distinct => exact List.nodup_cons.mpr ⟨h.serial_distinct hfresh, h.distinct⟩
  case known =>
    intro other hother
    rcases List.mem_cons.mp hother with rfl | hother
    · exact ⟨hgeneration, _, List.mem_append_right _ (List.mem_singleton_self _), hwave.symm,
        Finset.mem_singleton_self _⟩
    · obtain ⟨hother', found, hfound, hrest⟩ := h.known other hother
      exact ⟨hother', found, List.mem_append_left _ hfound, hrest⟩

theorem joined (h : r.Accounts tickets) {key : FlowKey} {generation : BitVec 32}
    {serial : BitVec 64} (hgeneration : r.generation = some generation)
    (hroom : r.containsFlow key = true ∨ r.flows.length < REPLY_CAPACITY)
    (hserial : checkedSucc r.nextSerial = some serial) (now : Instant) :
    let joined := { r with nextSerial := serial }.joinFlow key serial now
    joined.Accounts
      (⟨key, generation, ((Table.find joined.flows key).map (·.serial)).getD serial, serial⟩ ::
        tickets) ∧
    ∀ entry ∈ joined.flows, (entry.1 ≠ key ∧ entry ∈ r.flows) ∨
      (∃ wave, (key, wave) ∈ r.flows ∧ entry = (key, wave.join serial now)) ∨
      (∀ wave, (key, wave) ∉ r.flows) ∧ entry = (key, ⟨serial, {serial}, false, now⟩) := by
  have hfresh : r.nextSerial.toNat < serial.toNat := by
    rw [toNat_of_checkedSucc hserial]
    exact Nat.lt_succ_self _
  cases hfind : Table.find r.flows key with
  | some wave =>
    have hmem := h.unique.find_eq_some_iff.mp hfind
    have hunique : Table.Unique (Table.alter key (·.join serial now) r.flows) := h.unique.alter
    have hjoined := hunique.find_eq_some_iff.mpr (Table.mem_alter.mpr (.inr ⟨wave, hmem, rfl⟩))
    simp only [joinFlow, containsFlow, hfind, Option.isSome_some, if_true, hjoined,
      Option.map_some, Option.getD_some]
    refine ⟨h.joinFlow_of_mem ⟨key, generation, _, serial⟩ hfresh hgeneration hmem rfl, ?_⟩
    intro entry hentry
    exact (Table.mem_alter.mp hentry).imp_right .inl
  | none =>
    have hnew := Table.find_eq_none_iff.mp hfind
    have haccounts := h.joinFlow_of_new ⟨key, generation, serial, serial⟩ now hfresh hgeneration
      hnew (hroom.resolve_left (by simp [containsFlow, hfind])) rfl
    have hjoined := haccounts.unique.find_eq_some_iff.mpr
      (List.mem_append_right _ (List.mem_singleton_self _))
    simp only at hjoined
    simp only [joinFlow, containsFlow, hfind, Option.isSome_none, Bool.false_eq_true, if_false,
      hjoined, Option.map_some, Option.getD_some]
    refine ⟨haccounts, fun entry hentry => ?_⟩
    rcases List.mem_append.mp hentry with hentry | hentry
    · exact .inl ⟨fun hkey => hnew entry.2 (hkey ▸ hentry), hentry⟩
    · exact .inr (.inr ⟨hnew, List.mem_singleton.mp hentry⟩)

/-- A ticket can be drawn while fewer than the bound are out, all of the same generation, and
serials are left. -/
theorem begin_ok (h : r.Accounts tickets) (hfew : tickets.length < REPLY_CAPACITY)
    (key : FlowKey) {generation : BitVec 32}
    (hnone : tickets = [] ∨ r.generation = some generation)
    (hserials : r.nextSerial ≠ BitVec.allOnes 64) (now : Instant) :
    ∃ ticket r', (Registry.begin key generation now).exec r = (.ok ticket, r') ∧
      r'.Accounts (ticket :: tickets) ∧ r'.progress = r.progress ∧
      r'.generation = some generation ∧ r'.nextSerial = r.nextSerial + 1 := by
  have hpruned := (h.enter hnone).prune now
  have hevicted := hpruned.evictFor key
  have hroom := hpruned.room hfew key
  have hfields := evictFor_eq ((r.enter generation).prune now) key
  have hgeneration := (congrArg Registry.generation hfields).trans (enter_generation r generation)
  have hnext := (congrArg Registry.nextSerial hfields).trans (enter_nextSerial r generation)
  have hserial : checkedSucc (((r.enter generation).prune now).evictFor key).nextSerial =
      some (r.nextSerial + 1) := by
    rw [hnext, checkedSucc, if_neg hserials]
  have hexec := exec_begin r key generation now rfl rfl
  simp only [if_pos (hpruned.count.trans_lt hfew), if_pos hroom, hserial] at hexec
  refine ⟨_, _, hexec, (hevicted.joined hgeneration hroom hserial now).1, ?_⟩
  have hprogress := (congrArg Registry.progress hfields).trans (enter_progress r generation)
  unfold joinFlow
  split_ifs <;> exact ⟨hprogress, hgeneration, rfl⟩

theorem complete_eq {ticket : OutgoingTicket} (h : r.Accounts tickets) (hticket : ticket ∈ tickets)
    (succeeded : Bool) (now : Instant) : r.complete ticket succeeded now = (true,
      { r with flows := Table.alter ticket.key (·.leave ticket.serial succeeded now) r.flows }) := by
  obtain ⟨hgeneration, wave, hmem, hserial, hactive⟩ := h.known ticket hticket
  rw [Registry.complete, if_neg (not_not.mpr hgeneration), h.unique.find_eq_some_iff.mpr hmem]
  simp [hserial, hactive]

theorem complete_cases (h : r.Accounts tickets) (ticket : OutgoingTicket) (succeeded : Bool)
    (now : Instant) : r.complete ticket succeeded now = (false, r) ∨
      ∃ wave, (ticket.key, wave) ∈ r.flows ∧ ticket.serial ∈ wave.active := by
  unfold Registry.complete
  split_ifs
  · exact .inl rfl
  · cases hfind : Table.find r.flows ticket.key with
    | none => exact .inl rfl
    | some wave =>
      simp only
      split_ifs with hkeep
      · exact .inl rfl
      · rw [not_or, not_not, not_not] at hkeep
        exact .inr ⟨wave, h.unique.find_eq_some_iff.mp hfind, hkeep.2⟩

theorem complete {ticket : OutgoingTicket} (h : r.Accounts tickets) (hticket : ticket ∈ tickets)
    (succeeded : Bool) (now : Instant) :
    (r.complete ticket succeeded now).2.Accounts (tickets.erase ticket) ∧
      (r.complete ticket succeeded now).2.progress = r.progress ∧
      (r.complete ticket succeeded now).2.generation = r.generation ∧
      (r.complete ticket succeeded now).2.nextSerial = r.nextSerial := by
  obtain ⟨-, wave, hmem, -, hactive⟩ := h.known ticket hticket
  rw [h.complete_eq hticket]
  refine ⟨?_, rfl, rfl, rfl⟩
  have hleft : (wave.leave ticket.serial succeeded now).active = wave.active.erase ticket.serial :=
    rfl
  constructor
  case unique => exact h.unique.alter
  case bound => simpa using h.bound
  case count =>
    have hsum := Table.sum_alter (f := (·.leave ticket.serial succeeded now)) h.unique hmem
      fun wave : Wave => wave.active.card
    have hcount := h.count
    have hlength := List.length_erase_of_mem hticket
    have hpositive := List.length_pos_of_mem hticket
    have hcard := Finset.card_erase_of_mem hactive
    have hcard' : 0 < wave.active.card := Finset.card_pos.mpr ⟨_, hactive⟩
    simp only [hleft, hcard] at hsum
    simp only [activeCount] at hcount ⊢
    omega
  case issued =>
    intro entry hentry serial hin
    rcases Table.mem_alter.mp hentry with ⟨-, hentry⟩ | ⟨other, hother, rfl⟩
    · exact h.issued entry hentry serial hin
    · exact h.issued _ hother serial (Finset.mem_of_mem_erase hin)
  case distinct => exact h.distinct.sublist (List.erase_sublist.map _)
  case known =>
    intro other hother
    have hin := List.mem_of_mem_erase hother
    obtain ⟨hother', found, hfound, hwave, hstill⟩ := h.known other hin
    by_cases hkey : other.key = ticket.key
    · have hne : other.serial ≠ ticket.serial := by
        intro heq
        have hsame : other = ticket := List.inj_on_of_nodup_map h.distinct hin hticket heq
        have hnodup : tickets.Nodup := List.Nodup.of_map _ h.distinct
        exact absurd (hsame ▸ hother) (List.Nodup.not_mem_erase hnodup)
      rw [hkey] at hfound ⊢
      exact ⟨hother', _, Table.mem_alter.mpr (.inr ⟨found, hfound, rfl⟩), hwave,
        Finset.mem_erase.mpr ⟨hne, hstill⟩⟩
    · exact ⟨hother', found, Table.mem_alter.mpr (.inl ⟨hkey, hfound⟩), hwave, hstill⟩

end Accounts

end Registry

end OpenShield
