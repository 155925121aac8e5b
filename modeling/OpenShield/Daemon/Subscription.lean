import OpenShield.Data.Broadcast
import OpenShield.Daemon.EventLog

/-!
# Subscriptions

Clients follow the policy through an event bus with bounded queues. A client registers on the bus
first and reads the revision of the policy afterwards, under the engine lock; events that the
revision covers already are left out of its stream. A commit publishes its events one by one under
the engine lock, but the bus has a lock of its own, so clients register, receive and leave in
between.
-/

namespace OpenShield

/-! ### Redaction -/

def REDACTED_APPLICATION_RULE_NAME : RuleName :=
  ⟨"application rule (redacted)", by decide +kernel⟩

def ApplicationSelector.redacted : ApplicationSelector :=
  { executable := some ⟨"/redacted", by decide +kernel⟩, executableFile := none, commandLine := none
    uid := none, cgroup := none, metadataRedacted := true }

def Rule.redactedForObserver (rule : Rule) : Rule :=
  if rule.spec.application.isSome then
    { rule with spec :=
      { rule.spec with
        name := REDACTED_APPLICATION_RULE_NAME
        application := some .redacted } }
  else rule

def Event.redactedForObserver (event : Event) : Event :=
  { event with kind :=
    match event.kind with
    | .ruleCreated rule => .ruleCreated rule.redactedForObserver
    | .ruleUpdated rule => .ruleUpdated rule.redactedForObserver
    | .ruleDeleted rule => .ruleDeleted rule.redactedForObserver
    | .ruleEnabledChanged rule => .ruleEnabledChanged rule.redactedForObserver
    | other => other }

def Event.structural (event : Event) : Bool :=
  match event.kind with
  | .countersUpdated _ => false
  | _ => true

theorem Event.redactedForObserver_structural (event : Event) :
    event.redactedForObserver.structural = event.structural := by
  obtain ⟨revision, occurredAt, kind⟩ := event
  cases kind <;> rfl

/-! ### The bus -/

inductive SubscribeError
  | limitReached
  | unavailable
  deriving DecidableEq, Repr

structure EventBus where
  maximumSubscribers : ℕ
  queueCapacity : ℕ
  nextId : BitVec 64
  subscribers : Broadcast (BitVec 64) Event
  /-- The last counters; new subscribers are sent them. -/
  latestCounters : Option Event

namespace EventBus

def withLimits (maximumSubscribers queueCapacity : ℕ) : EventBus :=
  { maximumSubscribers, queueCapacity, nextId := 0, subscribers := .empty, latestCounters := none }

variable (bus : EventBus)

def subscribe : Except SubscribeError (BitVec 64) × EventBus :=
  if bus.maximumSubscribers ≤ bus.subscribers.senders.length then (.error .limitReached, bus)
  else
    match checkedSucc bus.nextId with
    | none => (.error .unavailable, bus)
    | some nextId =>
      let waiting := bus.latestCounters.toList
      if bus.queueCapacity < waiting.length then (.error .unavailable, { bus with nextId })
      else (.ok bus.nextId,
        { bus with nextId, subscribers := bus.subscribers.attach bus.nextId waiting })

def publish (event : Event) : EventBus :=
  { bus with
    latestCounters := if event.structural then bus.latestCounters else some event
    subscribers := bus.subscribers.publish bus.queueCapacity event }

def remove (id : BitVec 64) : EventBus :=
  { bus with subscribers := bus.subscribers.detach id }

def clearCounterSnapshot : EventBus := { bus with latestCounters := none }

end EventBus

/-! ### The engine's side -/

def Engine.subscriptionRevision (e : Engine) : Except ProtocolError (BitVec 64) :=
  if e.fatal then .error fatalProtocolError else .ok e.state.revision

def Engine.currentCounters (e : Engine) (expectedRevision : BitVec 64)
    (counters : FirewallCounters) (now : Timestamp) : Option Event :=
  if e.poisoned || decide (e.state.revision ≠ expectedRevision) then none
  else some (e.state.countersEvent counters now)

/-! ### Clients -/

def eventReflectedByRevision (event : Event) (baseline : BitVec 64) : Bool :=
  match event.kind with
  | .countersUpdated _ => decide (event.revision < baseline)
  | _ => decide (event.revision ≤ baseline)

/-- Where the connection of a client stands. -/
inductive Connection
  | new
  | registered (id : BitVec 64)
  | streaming (id : BitVec 64) (baseline : BitVec 64)
  | refused
  | ended (baseline : BitVec 64)
  deriving DecidableEq, Repr

structure Client where
  afterRevision : Option (BitVec 64)
  redactSensitive : Bool
  connection : Connection
  /-- What was written to the client. -/
  received : List Event

namespace Client

def connect (afterRevision : Option (BitVec 64)) (redactSensitive : Bool) : Client :=
  { afterRevision, redactSensitive, connection := .new, received := [] }

def shown (client : Client) (event : Event) : Event :=
  if client.redactSensitive then event.redactedForObserver else event

theorem shown_structural (client : Client) (event : Event) :
    (client.shown event).structural = event.structural := by
  unfold shown
  split_ifs
  · exact event.redactedForObserver_structural
  · rfl

theorem shown_revision (client : Client) (event : Event) :
    (client.shown event).revision = event.revision := by
  unfold shown
  split_ifs <;> rfl

end Client

/-- What happened to a client, for reference. -/
structure Trace where
  start : ℕ
  replayed : List Event
  taken : List Event

def Trace.offered (trace : Trace) (log : List Event) : List Event :=
  trace.replayed ++ log.drop trace.start

/-! ### Engine, bus and clients -/

structure Observation where
  runtime : Runtime
  bus : EventBus
  /-- The events of the last commit that are still to be published. The engine is locked while
  there are any. -/
  outbox : List Event
  clients : ℕ → Client
  traces : ℕ → Trace
  /-- Everything that was published. -/
  log : List Event

inductive ObservationAction
  | engine (action : Action)
  | publishNext
  | counters (expectedRevision : BitVec 64) (counters : FirewallCounters) (now : Timestamp)
  | clearCounterSnapshot
  | subscribe (client : ℕ)
  | readBaseline (client : ℕ)
  | receive (client : ℕ) (written : Bool)
  | leave (client : ℕ)

namespace Observation

def start (runtime : Runtime) (maximumSubscribers queueCapacity : ℕ)
    (request : ℕ → Option (BitVec 64) × Bool) : Observation :=
  { runtime
    bus := .withLimits maximumSubscribers queueCapacity
    outbox := []
    clients := fun n => .connect (request n).1 (request n).2
    traces := fun _ => ⟨0, [], []⟩
    log := [] }

variable (o : Observation) (n : ℕ)

def setClient (client : Client) : Observation :=
  { o with clients := fun m => if m = n then client else o.clients m }

def setConnection (connection : Connection) : Observation :=
  o.setClient n { o.clients n with connection }

def drop (id : BitVec 64) (connection : Connection) : Observation :=
  { o.setConnection n connection with bus := o.bus.remove id }

def broadcast (event : Event) : Observation :=
  { o with bus := o.bus.publish event, log := o.log ++ [event] }

def register : Observation :=
  match o.bus.subscribe with
  | (.error _, bus) => { o.setConnection n .refused with bus }
  | (.ok id, bus) =>
    { o.setConnection n (.registered id) with
      bus
      traces := fun m =>
        if m = n then ⟨o.log.length, o.bus.latestCounters.toList, []⟩ else o.traces m }

def begin (id : BitVec 64) : Observation :=
  match o.runtime.engine.subscriptionRevision with
  | .error _ => o.drop n id .refused
  | .ok baseline =>
    if (o.clients n).afterRevision.any (· ≠ baseline) then o.drop n id .refused
    else o.setConnection n (.streaming id baseline)

def take (id : BitVec 64) (event : Event) : Observation :=
  { o with
    bus := { o.bus with subscribers := o.bus.subscribers.receive id }
    traces := fun m =>
      if m = n then { o.traces n with taken := (o.traces n).taken ++ [event] } else o.traces m }

def stream (written : Bool) (id baseline : BitVec 64) : Observation :=
  match o.bus.subscribers.queues id with
  | [] => if id ∈ o.bus.subscribers.senders then o else o.drop n id (.ended baseline)
  | event :: _ =>
    if eventReflectedByRevision event baseline then o.take n id event
    else if written then
      (o.take n id event).setClient n
        { o.clients n with received := (o.clients n).received ++ [(o.clients n).shown event] }
    else (o.take n id event).drop n id (.ended baseline)

def step (json : Serializer) (o : Observation) : ObservationAction → Observation
  | .engine action =>
    if o.outbox = [] then
      let runtime := o.runtime.step json action
      { o with
        runtime
        outbox := runtime.world.published.drop o.runtime.world.published.length }
    else o
  | .publishNext =>
    match o.outbox with
    | [] => o
    | event :: outbox => { o.broadcast event with outbox }
  | .counters expectedRevision counters now =>
    match o.outbox, o.runtime.engine.currentCounters expectedRevision counters now with
    | [], some event => o.broadcast event
    | _, _ => o
  | .clearCounterSnapshot => { o with bus := o.bus.clearCounterSnapshot }
  | .subscribe n =>
    match (o.clients n).connection with
    | .new => o.register n
    | _ => o
  | .readBaseline n =>
    match o.outbox, (o.clients n).connection with
    | [], .registered id => o.begin n id
    | _, _ => o
  | .receive n written =>
    match (o.clients n).connection with
    | .streaming id baseline => o.stream n written id baseline
    | _ => o
  | .leave n =>
    match (o.clients n).connection with
    | .registered id => o.drop n id .refused
    | .streaming id baseline => o.drop n id (.ended baseline)
    | _ => o

def run (json : Serializer) (o : Observation) (actions : List ObservationAction) : Observation :=
  actions.foldl (step json) o

end Observation

/-! ### The events of the engine -/

theorem State.Changes.structural {s t : State} {events : List Event} (h : s.Changes events t)
    (hs : s.WellFormed) : ∀ event ∈ events, event.structural = true := by
  induction h with
  | refl => exact fun event hevent => absurd hevent List.not_mem_nil
  | @step t u events event previous follows numbered revision reported ih =>
    intro e he
    rcases List.mem_append.mp he with he | he
    · exact ih e he
    · obtain rfl := List.mem_singleton.mp he
      -- counters would not report the new revision
      have hreport := reported (previous.follows.wellFormed hs)
      have hnext := nextRevision_toNat numbered
      obtain ⟨number, occurredAt, kind⟩ := e
      cases kind with
      | countersUpdated counters =>
        have hsame : t.revision = u.revision := congrArg State.Observed.revision hreport
        rw [hsame, revision] at hnext
        omega
      | _ => rfl

namespace Runtime

variable {json : Serializer} {rt rt' : Runtime}

/-- The published events are numbered without gaps, and the policy is never behind them. -/
structure Numbered (first : ℕ) (rt : Runtime) : Prop where
  revisions : rt.world.published.map (fun event => event.revision.toNat) =
    List.range' (first + 1) rt.world.published.length
  structural : ∀ event ∈ rt.world.published, event.structural = true
  current : rt.engine.poisoned = false →
    rt.engine.state.revision.toNat = first + rt.world.published.length
  bounded : first + rt.world.published.length ≤ rt.engine.state.revision.toNat

theorem numbered_of_empty (h : rt.world.published = []) :
    rt.Numbered rt.engine.state.revision.toNat := by
  refine ⟨?_, ?_, fun _ => ?_, ?_⟩ <;> simp [h]

theorem Numbered.advance {first : ℕ} (h : rt.Numbered first) (hsound : rt.Sound json)
    (hprogress : rt.Progress json rt') : rt'.Numbered first := by
  have hmono := BitVec.le_def.mp hprogress.revision
  cases hprogress.move with
  | stay published state =>
    refine ⟨published ▸ h.revisions, published ▸ h.structural, fun hhealthy => ?_, ?_⟩
    · rcases state with hpoisoned | hsame
      · rw [hhealthy] at hpoisoned
        cases hpoisoned
      · rw [published, hsame]
        exact h.current (hprogress.healthy hhealthy)
    · rw [published]
      exact h.bounded.trans hmono
  | @change events healthy published changes learned =>
    have hcurrent := h.current (hprogress.healthy healthy)
    have hnow : rt'.engine.state.revision.toNat = first + rt'.world.published.length := by
      rw [changes.revision_toNat, hcurrent, published, List.length_append]
      omega
    refine ⟨?_, fun event hevent => ?_, fun _ => hnow, hnow.ge⟩
    · rw [published, List.map_append, h.revisions, changes.revisions, hcurrent, List.length_append,
        Nat.add_right_comm, List.range'_append_1]
    · rw [published] at hevent
      rcases List.mem_append.mp hevent with hevent | hevent
      · exact h.structural event hevent
      · exact changes.structural hsound.consistent.wellFormed event hevent

end Runtime

/-! ### What a client was offered -/

inductive Tracked (first : ℕ) (revision : BitVec 64) (bus : EventBus) (log : List Event)
    (client : Client) (trace : Trace) : Prop
  | fresh (connection : client.connection = .new) (received : client.received = [])
  | refused (connection : client.connection = .refused)
  | registered {id : BitVec 64} (connection : client.connection = .registered id)
      (received : client.received = []) (untaken : trace.taken = [])
      (older : id.toNat < bus.nextId.toNat) (start : trace.start ≤ log.length)
      (replayed : ∀ event ∈ trace.replayed, event.structural = false)
      (covered : first + ((log.take trace.start).filter Event.structural).length ≤ revision.toNat)
      (delivers : bus.subscribers.Delivers id (trace.offered log) trace.taken)
  | streaming {id baseline : BitVec 64} (connection : client.connection = .streaming id baseline)
      (older : id.toNat < bus.nextId.toNat) (start : trace.start ≤ log.length)
      (replayed : ∀ event ∈ trace.replayed, event.structural = false)
      (covered : first + ((log.take trace.start).filter Event.structural).length ≤ baseline.toNat)
      (agreed : ∀ r, client.afterRevision = some r → r = baseline)
      (delivers : bus.subscribers.Delivers id (trace.offered log) trace.taken)
      (received : client.received =
        (trace.taken.filter fun event => !eventReflectedByRevision event baseline).map client.shown)
  | ended {baseline : BitVec 64} (connection : client.connection = .ended baseline)
      (start : trace.start ≤ log.length)
      (replayed : ∀ event ∈ trace.replayed, event.structural = false)
      (covered : first + ((log.take trace.start).filter Event.structural).length ≤ baseline.toNat)
      (agreed : ∀ r, client.afterRevision = some r → r = baseline)
      (received : ∃ seen, seen <+: trace.offered log ∧ client.received =
        (seen.filter fun event => !eventReflectedByRevision event baseline).map client.shown)

namespace Tracked

variable {first : ℕ} {revision : BitVec 64} {bus : EventBus} {log : List Event} {client : Client}
  {trace : Trace}

theorem offered_append (hstart : trace.start ≤ log.length) (event : Event) :
    trace.offered (log ++ [event]) = trace.offered log ++ [event] := by
  rw [Trace.offered, Trace.offered, List.drop_append_of_le_length hstart, List.append_assoc]

theorem publish (h : Tracked first revision bus log client trace) (event : Event) :
    Tracked first revision (bus.publish event) (log ++ [event]) client trace := by
  have hle (hstart : trace.start ≤ log.length) : trace.start ≤ (log ++ [event]).length := by
    rw [List.length_append]
    exact hstart.trans (Nat.le_add_right _ _)
  have hbefore (hstart : trace.start ≤ log.length) :
      (log ++ [event]).take trace.start = log.take trace.start :=
    List.take_append_of_le_length hstart
  cases h with
  | fresh connection received => exact .fresh connection received
  | refused connection => exact .refused connection
  | registered connection received untaken older start replayed covered delivers =>
    exact .registered connection received untaken older (hle start) replayed
      (by rw [hbefore start]; exact covered)
      (offered_append start event ▸ delivers.publish bus.queueCapacity event)
  | streaming connection older start replayed covered agreed delivers received =>
    exact .streaming connection older (hle start) replayed (by rw [hbefore start]; exact covered)
      agreed (offered_append start event ▸ delivers.publish bus.queueCapacity event) received
  | ended connection start replayed covered agreed received =>
    obtain ⟨seen, hseen, hreceived⟩ := received
    refine .ended connection (hle start) replayed (by rw [hbefore start]; exact covered) agreed
      ⟨seen, ?_, hreceived⟩
    rw [offered_append start]
    exact hseen.trans (List.prefix_append _ _)

theorem moved {revision' : BitVec 64} {bus' : EventBus}
    (h : Tracked first revision bus log client trace) (hle : revision.toNat ≤ revision'.toNat)
    (hid : bus.nextId.toNat ≤ bus'.nextId.toNat)
    (hdelivers : ∀ id offered taken, (client.connection = .registered id ∨
        ∃ baseline, client.connection = .streaming id baseline) → id.toNat < bus.nextId.toNat →
      bus.subscribers.Delivers id offered taken → bus'.subscribers.Delivers id offered taken) :
    Tracked first revision' bus' log client trace := by
  cases h with
  | fresh connection received => exact .fresh connection received
  | refused connection => exact .refused connection
  | registered connection received untaken older start replayed covered delivers =>
    exact .registered connection received untaken (older.trans_le hid) start replayed
      (covered.trans hle) (hdelivers _ _ _ (.inl connection) older delivers)
  | streaming connection older start replayed covered agreed delivers received =>
    exact .streaming connection (older.trans_le hid) start replayed covered agreed
      (hdelivers _ _ _ (.inr ⟨_, connection⟩) older delivers) received
  | ended connection start replayed covered agreed received =>
    exact .ended connection start replayed covered agreed received

end Tracked

/-! ### Runs -/

def Connection.id? : Connection → Option (BitVec 64)
  | .registered id | .streaming id _ => some id
  | _ => none

theorem Connection.id?_eq_some {connection : Connection} {id : BitVec 64}
    (h : connection = .registered id ∨ ∃ baseline, connection = .streaming id baseline) :
    connection.id? = some id := by
  rcases h with rfl | ⟨baseline, rfl⟩ <;> rfl

theorem Tracked.id?_lt {first : ℕ} {revision : BitVec 64} {bus : EventBus} {log : List Event}
    {client : Client} {trace : Trace} (h : Tracked first revision bus log client trace)
    {id : BitVec 64} (hid : client.connection.id? = some id) :
    id.toNat < bus.nextId.toNat := by
  cases h with
  | fresh connection received => simp [connection, Connection.id?] at hid
  | refused connection => simp [connection, Connection.id?] at hid
  | registered connection received untaken older start replayed covered delivers =>
    simp only [connection, Connection.id?, Option.some.injEq] at hid
    exact hid ▸ older
  | streaming connection older start replayed covered agreed delivers received =>
    simp only [connection, Connection.id?, Option.some.injEq] at hid
    exact hid ▸ older
  | ended connection start replayed covered agreed received =>
    simp [connection, Connection.id?] at hid

namespace Observation

structure Base (json : Serializer) (first : ℕ) (o : Observation) : Prop where
  engine : o.runtime.Sound json
  numbered : o.runtime.Numbered first
  logged : o.log.filter Event.structural ++ o.outbox = o.runtime.world.published
  counters : ∀ event, o.bus.latestCounters = some event → event.structural = false
  separate : ∀ n m id, (o.clients n).connection.id? = some id →
    (o.clients m).connection.id? = some id → n = m

def Tracks (first : ℕ) (o : Observation) (n : ℕ) : Prop :=
  Tracked first o.runtime.engine.state.revision o.bus o.log (o.clients n) (o.traces n)

/-- The invariant of engine, bus and clients. -/
structure Sound (json : Serializer) (first : ℕ) (o : Observation) : Prop extends
    Base json first o where
  tracked : ∀ n, o.Tracks first n

variable {json : Serializer} {first : ℕ} {o : Observation}

theorem start_sound {rt : Runtime} (hsound : rt.Sound json) (hempty : rt.world.published = [])
    (maximumSubscribers queueCapacity : ℕ) (request : ℕ → Option (BitVec 64) × Bool) :
    (start rt maximumSubscribers queueCapacity request).Sound json
      rt.engine.state.revision.toNat where
  engine := hsound
  numbered := Runtime.numbered_of_empty hempty
  logged := hempty.symm
  counters event hevent := by cases hevent
  separate n m id hn := by simp [start, Client.connect, Connection.id?] at hn
  tracked n := .fresh rfl rfl

variable {event : Event} {m n : ℕ} {id baseline : BitVec 64} {client : Client}

theorem broadcast_sound {outbox : List Event} (h : o.Sound json first)
    (hlogged : (o.log ++ [event]).filter Event.structural ++ outbox = o.runtime.world.published) :
    Sound json first { o.broadcast event with outbox } where
  engine := h.engine
  numbered := h.numbered
  logged := hlogged
  counters e he := by
    simp only [broadcast, EventBus.publish] at he
    split_ifs at he with hstructural
    · exact h.counters e he
    · rw [Bool.not_eq_true] at hstructural
      exact Option.some.inj he ▸ hstructural
  separate := h.separate
  tracked n := (h.tracked n).publish event

theorem engine_sound (h : o.Sound json first) (hlocked : o.outbox = []) (action : Action) :
    Sound json first { o with
      runtime := o.runtime.step json action
      outbox := (o.runtime.step json action).world.published.drop
        o.runtime.world.published.length } := by
  obtain ⟨hsound, hprogress⟩ := Runtime.step_advances h.engine action
  refine ⟨⟨hsound, h.numbered.advance h.engine hprogress, ?_, h.counters, h.separate⟩,
    fun n => (h.tracked n).moved (BitVec.le_def.mp hprogress.revision) le_rfl fun _ _ _ _ _ => id⟩
  have hlogged := h.logged
  rw [hlocked, List.append_nil] at hlogged
  cases hprogress.move with
  | stay published state => simp [hlogged, published]
  | change healthy published changes learned => simp [hlogged, published]

@[simp] theorem setClient_self (n : ℕ) (client : Client) :
    (o.setClient n client).clients n = client := if_pos rfl

theorem setClient_other (hne : m ≠ n) (client : Client) :
    (o.setClient n client).clients m = o.clients m := if_neg hne

@[simp] theorem setConnection_self (n : ℕ) (connection : Connection) :
    (o.setConnection n connection).clients n = { o.clients n with connection } := if_pos rfl

theorem setConnection_other (hne : m ≠ n) (connection : Connection) :
    (o.setConnection n connection).clients m = o.clients m := if_neg hne

theorem separate_of_none {connection : Connection}
    (h : ∀ n m id, (o.clients n).connection.id? = some id →
      (o.clients m).connection.id? = some id → n = m)
    (hnone : connection.id? = none) (a b : ℕ) (id : BitVec 64)
    (ha : ((o.setConnection n connection).clients a).connection.id? = some id)
    (hb : ((o.setConnection n connection).clients b).connection.id? = some id) : a = b := by
  by_cases han : a = n
  · rw [han, setConnection_self, hnone] at ha
    cases ha
  by_cases hbn : b = n
  · rw [hbn, setConnection_self, hnone] at hb
    cases hb
  rw [setConnection_other han] at ha
  rw [setConnection_other hbn] at hb
  exact h a b id ha hb

/-- A subscription is dropped. -/
theorem drop_sound {connection : Connection} (h : o.Base json first)
    (hothers : ∀ m ≠ n, o.Tracks first m) (hnone : connection.id? = none)
    (htracked : Tracked first o.runtime.engine.state.revision (o.bus.remove id) o.log
      { o.clients n with connection } (o.traces n)) :
    (o.drop n id connection).Sound json first := by
  refine ⟨⟨h.engine, h.numbered, h.logged, h.counters, separate_of_none h.separate hnone⟩,
    fun m => ?_⟩
  unfold Tracks
  by_cases hm : m = n
  · subst hm
    simp only [drop, setConnection_self]
    exact htracked
  · simp only [drop, setConnection_other hm]
    exact (hothers m hm).moved le_rfl le_rfl fun id' offered taken _ _ hdelivers => hdelivers.detach id

theorem setClient_sound (h : o.Base json first) (hothers : ∀ m ≠ n, o.Tracks first m)
    (hsame : client.connection = (o.clients n).connection)
    (htracked : Tracked first o.runtime.engine.state.revision o.bus o.log client (o.traces n)) :
    (o.setClient n client).Sound json first := by
  have hconnection (m : ℕ) :
      ((o.setClient n client).clients m).connection = (o.clients m).connection := by
    by_cases hm : m = n
    · rw [hm, setClient_self, hsame]
    · rw [setClient_other hm]
  refine ⟨⟨h.engine, h.numbered, h.logged, h.counters, fun a b id ha hb => ?_⟩, fun m => ?_⟩
  · rw [hconnection] at ha hb
    exact h.separate a b id ha hb
  · unfold Tracks
    by_cases hm : m = n
    · subst hm
      rw [setClient_self]
      exact htracked
    · rw [setClient_other hm]
      exact hothers m hm

theorem subscribe_cases {bus bus' : EventBus} {result : Except SubscribeError (BitVec 64)}
    (h : bus.subscribe = (result, bus')) :
    bus'.latestCounters = bus.latestCounters ∧ bus.nextId.toNat ≤ bus'.nextId.toNat ∧
      ((∃ error, result = .error error) ∧ bus'.subscribers = bus.subscribers ∨
        result = .ok bus.nextId ∧ bus.nextId.toNat < bus'.nextId.toNat ∧
          bus'.subscribers = bus.subscribers.attach bus.nextId bus.latestCounters.toList) := by
  unfold EventBus.subscribe at h
  split_ifs at h with hfull
  · cases h
    exact ⟨rfl, le_rfl, .inl ⟨⟨_, rfl⟩, rfl⟩⟩
  · cases hnext : checkedSucc bus.nextId with
    | none =>
      simp only [hnext] at h
      cases h
      exact ⟨rfl, le_rfl, .inl ⟨⟨_, rfl⟩, rfl⟩⟩
    | some nextId =>
      have hlt : bus.nextId.toNat < nextId.toNat := by
        rw [toNat_of_checkedSucc hnext]
        exact Nat.lt_succ_self _
      simp only [hnext] at h
      split_ifs at h
      · cases h
        exact ⟨rfl, hlt.le, .inl ⟨⟨_, rfl⟩, rfl⟩⟩
      · cases h
        exact ⟨rfl, hlt.le, .inr ⟨rfl, hlt, rfl⟩⟩

theorem Sound.covered (h : o.Sound json first) :
    first + (o.log.filter Event.structural).length ≤ o.runtime.engine.state.revision.toNat := by
  have hlength := congrArg List.length h.logged
  rw [List.length_append] at hlength
  have hbounded := h.numbered.bounded
  omega

theorem Tracked.received_of_new {revision : BitVec 64} {bus : EventBus} {log : List Event}
    {trace : Trace} (h : Tracked first revision bus log client trace)
    (hnew : client.connection = .new) : client.received = [] := by
  cases h with
  | fresh connection received => exact received
  | refused connection => simp [connection] at hnew
  | registered connection => simp [connection] at hnew
  | streaming connection => simp [connection] at hnew
  | ended connection => simp [connection] at hnew

theorem register_sound (h : o.Sound json first) (hnew : (o.clients n).connection = .new) :
    (o.register n).Sound json first := by
  unfold register
  rcases hsubscribe : o.bus.subscribe with ⟨result, bus⟩
  obtain ⟨hcounters, hle, ⟨⟨error, rfl⟩, hsame⟩ | ⟨rfl, hlt, hattach⟩⟩ := subscribe_cases hsubscribe
  · -- the registration is refused
    refine ⟨⟨h.engine, h.numbered, h.logged, fun e he => h.counters e (hcounters ▸ he),
      separate_of_none h.separate rfl⟩, fun m => ?_⟩
    unfold Tracks
    by_cases hm : m = n
    · subst hm
      exact .refused (by rw [setConnection_self])
    · simp only [setConnection_other hm]
      exact (h.tracked m).moved le_rfl hle fun id offered taken _ _ hdelivers => hsame ▸ hdelivers
  · refine ⟨⟨h.engine, h.numbered, h.logged, fun e he => h.counters e (hcounters ▸ he),
      fun a b id ha hb => ?_⟩, fun m => ?_⟩
    · -- the new queue is nobody else's
      have hother (m : ℕ) (hm : m ≠ n)
          (hid : ((o.setConnection n (.registered o.bus.nextId)).clients m).connection.id? =
            some o.bus.nextId) : False := by
        rw [setConnection_other hm] at hid
        exact lt_irrefl _ ((h.tracked m).id?_lt hid)
      by_cases han : a = n
      · have hid : o.bus.nextId = id := by
          simpa [han, Connection.id?] using ha
        by_contra hne
        exact hother b (fun hbn => hne (han.trans hbn.symm)) (hid ▸ hb)
      · by_cases hbn : b = n
        · have hid : o.bus.nextId = id := by
            simpa [hbn, Connection.id?] using hb
          exact (hother a han (hid ▸ ha)).elim
        · simp only [setConnection_other han] at ha
          simp only [setConnection_other hbn] at hb
          exact h.separate a b id ha hb
    · unfold Tracks
      by_cases hm : m = n
      · subst hm
        simp only [setConnection_self, if_true]
        have hoffered : Trace.offered ⟨o.log.length, o.bus.latestCounters.toList, []⟩ o.log =
            o.bus.latestCounters.toList := by
          rw [Trace.offered, List.drop_length, List.append_nil]
        have hreceived := Tracked.received_of_new (h.tracked m) hnew
        have hcovered : first + ((o.log.take o.log.length).filter Event.structural).length ≤
            o.runtime.engine.state.revision.toNat := by
          rw [List.take_length]
          exact h.covered
        have hdelivers : bus.subscribers.Delivers o.bus.nextId
            (Trace.offered ⟨o.log.length, o.bus.latestCounters.toList, []⟩ o.log) [] := by
          rw [hoffered, hattach]
          exact Broadcast.delivers_attach _ _ _
        exact .registered rfl hreceived rfl hlt le_rfl
          (fun e he => h.counters e (Option.mem_toList.mp he)) hcovered hdelivers
      · simp only [setConnection_other hm, if_neg hm]
        refine (h.tracked m).moved le_rfl hle fun id offered taken _ hid hdelivers => ?_
        rw [hattach]
        exact hdelivers.attach_other (fun heq => by rw [heq] at hid; exact lt_irrefl _ hid) _

theorem begin_sound (h : o.Sound json first)
    (hregistered : (o.clients n).connection = .registered id) :
    (o.begin n id).Sound json first := by
  have hrefuse : (o.drop n id .refused).Sound json first :=
    drop_sound h.toBase (fun m _ => h.tracked m) rfl (.refused rfl)
  unfold begin
  split
  · exact hrefuse
  · next baseline hbaseline =>
    split_ifs with hstale
    · exact hrefuse
    · have hcurrent : baseline = o.runtime.engine.state.revision := by
        unfold Engine.subscriptionRevision at hbaseline
        split_ifs at hbaseline
        exact (Except.ok.inj hbaseline).symm
      refine ⟨⟨h.engine, h.numbered, h.logged, h.counters, fun a b i ha hb => ?_⟩, fun m => ?_⟩
      · -- the client keeps its queue
        have hid (m : ℕ) : ((o.setConnection n (.streaming id baseline)).clients m).connection.id? =
            (o.clients m).connection.id? := by
          by_cases hm : m = n
          · rw [hm, setConnection_self, hregistered]
            rfl
          · rw [setConnection_other hm]
        rw [hid] at ha hb
        exact h.separate a b i ha hb
      · unfold Tracks
        by_cases hm : m = n
        · subst hm
          rw [setConnection_self]
          cases h.tracked m with
          | registered connection received untaken older start replayed covered delivers =>
            rw [hregistered] at connection
            cases connection
            refine .streaming rfl older start replayed (hcurrent ▸ covered) (fun r hr => ?_)
              delivers ?_
            · change (o.clients m).afterRevision = some r at hr
              simpa [hr] using hstale
            · change (o.clients m).received = ((o.traces m).taken.filter _).map _
              rw [untaken, received]
              rfl
          | fresh connection => simp [hregistered] at connection
          | refused connection => simp [hregistered] at connection
          | streaming connection => simp [hregistered] at connection
          | ended connection => simp [hregistered] at connection
        · rw [setConnection_other hm]
          exact h.tracked m

@[simp] theorem take_traces_self (n : ℕ) (id : BitVec 64) (event : Event) :
    (o.take n id event).traces n =
      { o.traces n with taken := (o.traces n).taken ++ [event] } := if_pos rfl

theorem take_traces_other (hne : m ≠ n) (id : BitVec 64) (event : Event) :
    (o.take n id event).traces m = o.traces m := if_neg hne

theorem Sound.take_base (h : o.Sound json first) (n : ℕ) (id : BitVec 64) (event : Event) :
    (o.take n id event).Base json first :=
  ⟨h.engine, h.numbered, h.logged, h.counters, h.separate⟩

theorem Sound.take_others (h : o.Sound json first)
    (hstreaming : (o.clients n).connection = .streaming id baseline) (event : Event) (m : ℕ)
    (hm : m ≠ n) : (o.take n id event).Tracks first m := by
  unfold Tracks
  rw [take_traces_other hm]
  refine (h.tracked m).moved le_rfl le_rfl fun id' offered taken hconnection _ hdelivers => ?_
  refine hdelivers.receive_other fun heq => hm ?_
  have hid := Connection.id?_eq_some hconnection
  rw [heq] at hid
  exact h.separate m n id hid (by rw [hstreaming]; rfl)

theorem stream_sound {written : Bool} (h : o.Sound json first)
    (hstreaming : (o.clients n).connection = .streaming id baseline) :
    (o.stream n written id baseline).Sound json first := by
  cases h.tracked n with
  | fresh connection => simp [hstreaming] at connection
  | refused connection => simp [hstreaming] at connection
  | registered connection => simp [hstreaming] at connection
  | ended connection => simp [hstreaming] at connection
  | streaming connection older start replayed covered agreed delivers received =>
  rw [hstreaming] at connection
  cases connection
  unfold stream
  split
  · -- nothing waits
    split_ifs
    · exact h
    · exact drop_sound h.toBase (fun m _ => h.tracked m) rfl (.ended rfl start replayed covered
        agreed ⟨_, (List.prefix_append _ _).trans delivers.start, received⟩)
  · next event rest hqueue =>
    have hbase := h.take_base n id event
    have hothers := h.take_others hstreaming event
    have hdelivers := delivers.receive hqueue
    split_ifs with hreflected
    · -- the event is covered by the baseline
      refine ⟨hbase, fun m => ?_⟩
      by_cases hm : m = n
      · subst hm
        have hfilter : ((o.traces m).taken ++ [event]).filter
            (fun event => !eventReflectedByRevision event baseline) =
            (o.traces m).taken.filter fun event => !eventReflectedByRevision event baseline := by
          simp [hreflected]
        unfold Tracks
        rw [take_traces_self]
        exact .streaming hstreaming older start replayed covered agreed hdelivers
          (received.trans (congrArg (List.map (o.clients m).shown) hfilter.symm))
      · exact hothers m hm
    · -- the event is written
      have hshown : (o.clients n).received ++ [(o.clients n).shown event] =
          (((o.traces n).taken ++ [event]).filter
            fun event => !eventReflectedByRevision event baseline).map (o.clients n).shown := by
        simp [received, hreflected]
      refine setClient_sound hbase hothers rfl ?_
      rw [take_traces_self]
      exact .streaming hstreaming older start replayed covered agreed hdelivers hshown
    · -- the event cannot be written
      refine drop_sound hbase hothers rfl ?_
      rw [take_traces_self]
      exact .ended rfl start replayed covered agreed
        ⟨_, (List.prefix_append _ _).trans delivers.start, received⟩

theorem step_sound (h : o.Sound json first) (action : ObservationAction) :
    (o.step json action).Sound json first := by
  cases action with
  | engine action =>
    simp only [step]
    split_ifs with hlocked
    · exact engine_sound h hlocked action
    · exact h
  | publishNext =>
    simp only [step]
    split
    · exact h
    · next event outbox hnext =>
      have hlogged := h.logged
      rw [hnext] at hlogged
      have hstructural : event.structural = true :=
        h.numbered.structural event (hlogged ▸ by simp)
      refine broadcast_sound h ?_
      rw [List.filter_append, List.filter_singleton, hstructural, ← hlogged]
      simp
  | counters expectedRevision counters now =>
    simp only [step]
    split
    · next event hnone hevent =>
      have hcounters : event.structural = false := by
        unfold Engine.currentCounters at hevent
        split_ifs at hevent
        exact Option.some.inj hevent ▸ rfl
      have hlogged := h.logged
      have hsound : Sound json first { o.broadcast event with outbox := o.outbox } := by
        refine broadcast_sound h ?_
        rw [List.filter_append, List.filter_singleton, hcounters, ← hlogged]
        simp
      exact hsound
    · exact h
  | clearCounterSnapshot =>
    exact ⟨⟨h.engine, h.numbered, h.logged, fun e he => (by cases he), h.separate⟩,
      fun n => (h.tracked n).moved le_rfl le_rfl fun id offered taken _ _ hdelivers => hdelivers⟩
  | subscribe n =>
    simp only [step]
    split
    · next hnew => exact register_sound h hnew
    · exact h
  | readBaseline n =>
    simp only [step]
    split
    · next id _ hregistered => exact begin_sound h hregistered
    · exact h
  | receive n written =>
    simp only [step]
    split
    · next id baseline hstreaming => exact stream_sound h hstreaming
    · exact h
  | leave n =>
    simp only [step]
    split
    · exact drop_sound h.toBase (fun m _ => h.tracked m) rfl (.refused rfl)
    · next id baseline hstreaming =>
      refine drop_sound h.toBase (fun m _ => h.tracked m) rfl ?_
      cases h.tracked n with
      | fresh connection => simp [hstreaming] at connection
      | refused connection => simp [hstreaming] at connection
      | registered connection => simp [hstreaming] at connection
      | ended connection => simp [hstreaming] at connection
      | streaming connection older start replayed covered agreed delivers received =>
        rw [hstreaming] at connection
        cases connection
        exact .ended rfl start replayed covered agreed
          ⟨_, (List.prefix_append _ _).trans delivers.start, received⟩
    · exact h

theorem run_sound (h : o.Sound json first) (actions : List ObservationAction) :
    (o.run json actions).Sound json first := by
  induction actions generalizing o with
  | nil => exact h
  | cons action rest ih => exact ih (step_sound h action)

/-! ### Streams -/

theorem filter_lt_range' (bound start length : ℕ) (h : start ≤ bound + 1) :
    (List.range' start length).filter (fun number => decide (bound < number)) =
      List.range' (bound + 1) (start + length - (bound + 1)) := by
  induction length with
  | zero =>
    have hnone : start + 0 - (bound + 1) = 0 := by omega
    rw [hnone]
    rfl
  | succ length ih =>
    rw [List.range'_1_concat, List.filter_append, ih, List.filter_singleton]
    by_cases hlt : bound < start + length
    · have hsplit : start + (length + 1) - (bound + 1) = start + length - (bound + 1) + 1 := by
        omega
      have hlast : bound + 1 + (start + length - (bound + 1)) = start + length := by omega
      rw [hsplit, List.range'_1_concat, hlast]
      simp [hlt]
    · have hnone : start + (length + 1) - (bound + 1) = 0 := by omega
      have hnone' : start + length - (bound + 1) = 0 := by omega
      rw [hnone, hnone']
      simp [hlt]

theorem prefix_range' {start length : ℕ} {numbers : List ℕ}
    (h : numbers <+: List.range' start length) :
    numbers = List.range' start numbers.length := by
  obtain ⟨rest, hrest⟩ := h
  have hlength : length = numbers.length + rest.length := by
    rw [← List.length_append, hrest, List.length_range']
  rw [hlength, ← List.range'_append_1] at hrest
  exact (List.append_inj hrest (by rw [List.length_range'])).1

theorem not_reflected_structural (h : event.structural = true) :
    (!eventReflectedByRevision event baseline) =
      decide (baseline.toNat < event.revision.toNat) := by
  obtain ⟨revision, occurredAt, kind⟩ := event
  cases kind with
  | countersUpdated counters => cases h
  | _ =>
    rw [eventReflectedByRevision, ← decide_not]
    exact decide_eq_decide.mpr (by rw [BitVec.le_def, not_le])

theorem not_reflected_counters (h : event.structural = false)
    (hshown : eventReflectedByRevision event baseline = false) : baseline ≤ event.revision := by
  obtain ⟨revision, occurredAt, kind⟩ := event
  cases kind with
  | countersUpdated counters =>
    simpa [eventReflectedByRevision, BitVec.le_def, BitVec.lt_def] using hshown
  | _ => cases h

/-- The structural events that a client was offered are numbered without gaps, from at most the
revision after its own. -/
theorem Sound.offered_numbered {trace : Trace} (h : o.Sound json first)
    (hreplayed : ∀ event ∈ trace.replayed, event.structural = false)
    (hcovered : first + ((o.log.take trace.start).filter Event.structural).length ≤ baseline.toNat) :
    ∃ start length, start ≤ baseline.toNat + 1 ∧
      ((trace.offered o.log).filter Event.structural).map (fun event => event.revision.toNat) =
        List.range' start length := by
  have hnone : trace.replayed.filter Event.structural = [] := by
    simpa [List.filter_eq_nil_iff] using hreplayed
  -- the log is what was published, up to what is still to come
  have hlog : (o.log.filter Event.structural).map (fun event => event.revision.toNat) <+:
      List.range' (first + 1) o.runtime.world.published.length := by
    rw [← h.numbered.revisions, ← h.logged, List.map_append]
    exact List.prefix_append _ _
  have hsplit := List.take_append_drop trace.start o.log
  have hnumbers := prefix_range' hlog
  rw [← hsplit, List.filter_append, List.map_append] at hnumbers
  rw [Trace.offered, List.filter_append, hnone, List.nil_append]
  generalize hbefore : ((o.log.take trace.start).filter Event.structural).map
    (fun event => event.revision.toNat) = before at hnumbers
  generalize ((o.log.drop trace.start).filter Event.structural).map
    (fun event => event.revision.toNat) = after at hnumbers ⊢
  have hlength : ((o.log.take trace.start).filter Event.structural).length = before.length := by
    rw [← hbefore, List.length_map]
  rw [List.length_append, ← List.range'_append_1] at hnumbers
  refine ⟨first + 1 + before.length, after.length, by omega, ?_⟩
  exact (List.append_inj hnumbers (by rw [List.length_range'])).2

theorem received_numbered {offered seen : List Event} {start length : ℕ} (hseen : seen <+: offered)
    (hstart : start ≤ baseline.toNat + 1)
    (hnumbers : (offered.filter Event.structural).map (fun event => event.revision.toNat) =
      List.range' start length) :
    ∃ count, ((((seen.filter fun event => !eventReflectedByRevision event baseline).map
        client.shown).filter Event.structural).map fun event => event.revision.toNat) =
      List.range' (baseline.toNat + 1) count := by
  have hnumbered : (seen.filter Event.structural).map (fun event => event.revision.toNat) <+:
      List.range' start length := by
    rw [← hnumbers]
    exact (hseen.filter Event.structural).map _
  have hvisible : (seen.filter Event.structural).filter
      (fun event => !eventReflectedByRevision event baseline) =
      (seen.filter Event.structural).filter
        fun event => decide (baseline.toNat < event.revision.toNat) :=
    List.filter_congr fun event hevent => not_reflected_structural (List.mem_filter.mp hevent).2
  have hstructural : Event.structural ∘ client.shown = Event.structural :=
    funext client.shown_structural
  have hrevision : (fun event => event.revision.toNat) ∘ client.shown =
      fun event : Event => event.revision.toNat :=
    funext fun event => congrArg BitVec.toNat (client.shown_revision event)
  have hsame : ((((seen.filter fun event => !eventReflectedByRevision event baseline).map
        client.shown).filter Event.structural).map fun event => event.revision.toNat) =
      ((seen.filter Event.structural).map fun event => event.revision.toNat).filter
        fun number => decide (baseline.toNat < number) := by
    rw [List.filter_map, hstructural, List.map_map, hrevision, List.filter_comm, hvisible,
      List.filter_map]
    rfl
  rw [hsame, prefix_range' hnumbered, filter_lt_range' _ _ _ hstart]
  exact ⟨_, rfl⟩

end Observation

open OpenShield.Observation in
/-- A stream carries the revisions after its own one by one, no counters that are older, and
nothing that was published after an event that was lost. -/
theorem subscription_exact {json : Serializer} {w w' : World} {learningLimits : LearningLimits}
    {now : Timestamp} {supply : Supply} {engine : Engine} (hfresh : w.Fresh)
    (hload : Runtime.loadWithLearningLimits json w learningLimits now supply = (.ok engine, w'))
    (maximumSubscribers queueCapacity : ℕ) (request : ℕ → Option (BitVec 64) × Bool)
    (actions : List ObservationAction) (n : ℕ) {r : BitVec 64} {o : Observation}
    (ho : o = (start ⟨engine, w'⟩ maximumSubscribers queueCapacity request).run json actions)
    (hrequest : (o.clients n).afterRevision = some r)
    (haccepted : (∃ id baseline, (o.clients n).connection = .streaming id baseline) ∨
      ∃ baseline, (o.clients n).connection = .ended baseline) :
    (∃ count, ((o.clients n).received.filter Event.structural).map
        (fun event => event.revision.toNat) = List.range' (r.toNat + 1) count) ∧
    (∀ event ∈ (o.clients n).received, event.structural = false → r ≤ event.revision) ∧
    ∃ seen, seen <+: (o.traces n).offered o.log ∧
      (o.clients n).received =
        (seen.filter fun event => !eventReflectedByRevision event r).map (o.clients n).shown := by
  obtain ⟨hengine, hempty, -, -⟩ := Runtime.loadWithLearningLimits_sound hfresh hload
  have hsound := run_sound (start_sound hengine hempty maximumSubscribers queueCapacity request)
    actions
  rw [← ho] at hsound
  -- a stream shows the beginning of what the client was offered
  obtain ⟨hreplayed, hcovered, seen, hseen, hreceived⟩ :
      (∀ event ∈ (o.traces n).replayed, event.structural = false) ∧
      engine.state.revision.toNat +
        ((o.log.take (o.traces n).start).filter Event.structural).length ≤ r.toNat ∧
      ∃ seen, seen <+: (o.traces n).offered o.log ∧ (o.clients n).received =
        (seen.filter fun event => !eventReflectedByRevision event r).map (o.clients n).shown := by
    cases hsound.tracked n with
    | fresh connection => simp [connection] at haccepted
    | refused connection => simp [connection] at haccepted
    | registered connection => simp [connection] at haccepted
    | streaming connection older start replayed covered agreed delivers received =>
      obtain rfl := agreed r hrequest
      exact ⟨replayed, covered, _, (List.prefix_append _ _).trans delivers.start, received⟩
    | ended connection start replayed covered agreed received =>
      obtain rfl := agreed r hrequest
      exact ⟨replayed, covered, received⟩
  obtain ⟨start, length, hstart, hnumbers⟩ := hsound.offered_numbered hreplayed hcovered
  refine ⟨?_, fun event hevent hcounters => ?_, seen, hseen, hreceived⟩
  · rw [hreceived]
    exact received_numbered hseen hstart hnumbers
  · rw [hreceived] at hevent
    obtain ⟨original, horiginal, rfl⟩ := List.mem_map.mp hevent
    obtain ⟨-, hvisible⟩ := List.mem_filter.mp horiginal
    rw [Bool.not_eq_true'] at hvisible
    rw [Client.shown_structural] at hcounters
    rw [Client.shown_revision]
    exact not_reflected_counters hcounters hvisible

namespace Sample

def observation : Observation :=
  (Observation.start ⟨Runtime.loadedEngine firstState .default, loadedWorld⟩ 64 512
    fun _ => (some 1, true)).run json
    [.engine .activate, .subscribe 0, .readBaseline 0,
      .engine (.control ⟨supply, fun _ _ => .error ""⟩ (.setMode 1 .enforcing)),
      .publishNext, .receive 0 true]

end Sample

theorem subscription_exact_sample :
    ∃ count, ((Sample.observation.clients 0).received.filter Event.structural).map
      (fun event => event.revision.toNat) = List.range' 2 count ∧
      (Sample.observation.clients 0).received.length = 1 := by
  obtain ⟨⟨count, hcount⟩, -, -⟩ := subscription_exact Sample.world_fresh Sample.loads 64 512
    (fun _ => (some 1, true)) _ 0 (show Sample.observation = _ from rfl) (r := 1)
    (by decide +kernel) (.inl ⟨0, 1, by decide +kernel⟩)
  exact ⟨count, hcount, by decide +kernel⟩

end OpenShield
