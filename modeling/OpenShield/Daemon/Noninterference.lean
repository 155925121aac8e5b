import OpenShield.Daemon.Paging

/-!
# What observers learn

Policies that differ only in what identifies applications look the same to an observer other than
root: the pages are the same, down to where they are cut, and so are the events of runs that stay
alike. Runs are compared in pairs, step by step.
-/

namespace OpenShield

/-! ### What may differ -/

/-- Rules that agree except for what identifies their application. -/
@[mk_iff]
structure Rule.SameForObserver (a b : Rule) : Prop where
  id : a.id = b.id
  createdAt : a.createdAt = b.createdAt
  updatedAt : a.updatedAt = b.updatedAt
  direction : a.spec.direction = b.spec.direction
  action : a.spec.action = b.spec.action
  protocol : a.spec.protocol = b.spec.protocol
  peerNetwork : a.spec.peerNetwork = b.spec.peerNetwork
  port : a.spec.port = b.spec.port
  interface : a.spec.interface = b.spec.interface
  origin : a.spec.origin = b.spec.origin
  enabled : a.spec.enabled = b.spec.enabled
  /-- Selectors may have any contents. -/
  bound : a.spec.application.isSome = b.spec.application.isSome
  name : a.spec.application = none → a.spec.name = b.spec.name

instance : DecidableRel Rule.SameForObserver := fun a b =>
  decidable_of_iff' _ (Rule.sameForObserver_iff a b)

/-- Policies whose rules agree except for what identifies applications. -/
@[mk_iff]
structure State.SameForObserver (s t : State) : Prop where
  revision : s.revision = t.revision
  mode : s.mode = t.mode
  flowGeneration : s.flowGeneration = t.flowGeneration
  enforcementStrategy : s.enforcementStrategy = t.enforcementStrategy
  rules : List.Forall₂ (fun a b => a.1 = b.1 ∧ a.2.SameForObserver b.2) s.rules.entries
    t.rules.entries

instance : DecidableRel State.SameForObserver := fun s t =>
  decidable_of_iff' _ (State.sameForObserver_iff s t)

inductive EventKind.SameForObserver : EventKind → EventKind → Prop
  | modeChanged (previous current : Mode) :
    SameForObserver (.modeChanged previous current) (.modeChanged previous current)
  | ruleCreated {a b : Rule} (h : a.SameForObserver b) :
    SameForObserver (.ruleCreated a) (.ruleCreated b)
  | ruleUpdated {a b : Rule} (h : a.SameForObserver b) :
    SameForObserver (.ruleUpdated a) (.ruleUpdated b)
  | ruleDeleted {a b : Rule} (h : a.SameForObserver b) :
    SameForObserver (.ruleDeleted a) (.ruleDeleted b)
  | ruleEnabledChanged {a b : Rule} (h : a.SameForObserver b) :
    SameForObserver (.ruleEnabledChanged a) (.ruleEnabledChanged b)
  | countersUpdated (counters : FirewallCounters) :
    SameForObserver (.countersUpdated counters) (.countersUpdated counters)

structure Event.SameForObserver (a b : Event) : Prop where
  revision : a.revision = b.revision
  occurredAt : a.occurredAt = b.occurredAt
  kind : a.kind.SameForObserver b.kind

theorem Rule.SameForObserver.redacted {a b : Rule} (h : a.SameForObserver b) :
    a.redactedForObserver = b.redactedForObserver := by
  obtain ⟨idA, ⟨nameA, _, _, _, _, _, _, applicationA, _, _⟩, _, _⟩ := a
  obtain ⟨idB, ⟨nameB, _, _, _, _, _, _, applicationB, _, _⟩, _, _⟩ := b
  obtain ⟨rfl, rfl, rfl, rfl, rfl, rfl, rfl, rfl, rfl, rfl, rfl, hbound, hname⟩ := h
  cases applicationA with
  | none =>
    cases applicationB with
    | none =>
      obtain rfl : nameA = nameB := hname rfl
      rfl
    | some selector => cases hbound
  | some selector =>
    cases applicationB with
    | none => cases hbound
    | some other => rfl

theorem Event.SameForObserver.redacted {a b : Event} (h : a.SameForObserver b) :
    a.redactedForObserver = b.redactedForObserver := by
  obtain ⟨revisionA, occurredAtA, kindA⟩ := a
  obtain ⟨revisionB, occurredAtB, kindB⟩ := b
  obtain ⟨rfl, rfl, hkind⟩ := h
  cases hkind with
  | modeChanged => rfl
  | countersUpdated => rfl
  | ruleCreated hrule => simp only [Event.redactedForObserver, hrule.redacted]
  | ruleUpdated hrule => simp only [Event.redactedForObserver, hrule.redacted]
  | ruleDeleted hrule => simp only [Event.redactedForObserver, hrule.redacted]
  | ruleEnabledChanged hrule => simp only [Event.redactedForObserver, hrule.redacted]

/-! ### Pages -/

theorem State.SameForObserver.rulesAfter {s t : State} (h : s.SameForObserver t)
    (cursor : Option Uuid) :
    (s.rulesAfter cursor).map Rule.redactedForObserver =
      (t.rulesAfter cursor).map Rule.redactedForObserver := by
  unfold State.rulesAfter
  rw [List.map_map, List.map_map]
  have hrules := h.rules
  generalize s.rules.entries = first, t.rules.entries = second at hrules ⊢
  induction hrules with
  | nil => rfl
  | cons hentry _ ih =>
    obtain ⟨hkey, hrule⟩ := hentry
    rw [List.filter_cons, List.filter_cons, hkey]
    split_ifs
    · rw [List.map_cons, List.map_cons, ih, Function.comp_apply, Function.comp_apply,
        hrule.redacted]
    · exact ih

theorem redactRulePage_rulesPageResponse (e : Engine) (after : Option Uuid) (limit : BitVec 16)
    (hfatal : e.fatal = false) :
    redactRulePage (e.rulesPageResponse after limit) true =
      (let matching := (e.state.rulesAfter after).map Rule.redactedForObserver
      let rules := matching.take (clampPageLimit limit).toNat
      .rulesPage e.state.revision rules
        ((matching.drop (clampPageLimit limit).toNat).head?.bind fun _ =>
          rules.getLast?.map Rule.id)) := by
  have hids : ∀ rules : List Rule, (rules.map Rule.redactedForObserver).getLast?.map Rule.id =
      rules.getLast?.map Rule.id := by
    intro rules
    rw [List.getLast?_map, Option.map_map]
    exact congrArg (fun f => rules.getLast?.map f) (funext fun _ => Rule.redactedForObserver_id)
  simp only [Engine.rulesPageResponse, hfatal, redactRulePage, Bool.false_eq_true, if_false,
    Bool.not_true, ← List.map_take, ← List.map_drop, List.head?_map, hids, Response.rulesPage.injEq,
    true_and]
  cases ((e.state.rulesAfter after).drop (clampPageLimit limit).toNat).head? <;> rfl

theorem rulePage_eq_of_sameForObserver (codec : FrameCodec) {e₁ e₂ : Engine}
    (hfatal : e₁.fatal = e₂.fatal) (h : e₁.state.SameForObserver e₂.state)
    (after : Option Uuid) : rulePage codec e₁ after true = rulePage codec e₂ after true := by
  unfold rulePage
  cases hdown : e₂.fatal with
  | true => simp only [Engine.rulesPageResponse, hfatal, hdown, if_true]
  | false =>
    rw [redactRulePage_rulesPageResponse e₁ after _ (hfatal.trans hdown),
      redactRulePage_rulesPageResponse e₂ after _ hdown, h.rulesAfter after, h.revision]

/-! ### What the bus and the clients have in common -/

structure EventBus.Alike (a b : EventBus) : Prop where
  maximumSubscribers : a.maximumSubscribers = b.maximumSubscribers
  queueCapacity : a.queueCapacity = b.queueCapacity
  nextId : a.nextId = b.nextId
  senders : a.subscribers.senders = b.subscribers.senders
  alive : a.subscribers.alive = b.subscribers.alive
  queues : ∀ id, (a.subscribers.queues id).map Event.redactedForObserver =
    (b.subscribers.queues id).map Event.redactedForObserver
  latestCounters : a.latestCounters.map Event.redactedForObserver =
    b.latestCounters.map Event.redactedForObserver

/-- The same client, for whom events are redacted or not. What root receives may differ. -/
structure Client.Alike (redacted : Bool) (a b : Client) : Prop where
  afterRevision : a.afterRevision = b.afterRevision
  first : a.redactSensitive = redacted
  second : b.redactSensitive = redacted
  connection : a.connection = b.connection
  received : redacted = true → a.received = b.received

namespace EventBus.Alike

variable {a b : EventBus}

theorem accepts (h : a.Alike b) :
    a.subscribers.accepts a.queueCapacity = b.subscribers.accepts b.queueCapacity := by
  funext id
  have hlength := congrArg List.length (h.queues id)
  rw [List.length_map, List.length_map] at hlength
  unfold Broadcast.accepts
  rw [h.alive, hlength, h.queueCapacity]

theorem publish (h : a.Alike b) {event other : Event}
    (hevent : event.redactedForObserver = other.redactedForObserver) :
    (a.publish event).Alike (b.publish other) := by
  have hstructural : event.structural = other.structural := by
    rw [← event.redactedForObserver_structural, hevent, other.redactedForObserver_structural]
  refine ⟨h.maximumSubscribers, h.queueCapacity, h.nextId, ?_, h.alive, fun id => ?_, ?_⟩
  · show a.subscribers.senders.filter _ = b.subscribers.senders.filter _
    rw [h.senders, h.accepts]
  · simp only [EventBus.publish, Broadcast.publish, h.senders, h.accepts]
    split_ifs
    · rw [List.map_append, List.map_append, h.queues, List.map_singleton, List.map_singleton,
        hevent]
    · exact h.queues id
  · simp only [EventBus.publish, hstructural]
    split_ifs
    · exact h.latestCounters
    · exact congrArg some hevent

theorem remove (h : a.Alike b) (id : BitVec 64) : (a.remove id).Alike (b.remove id) := by
  refine ⟨h.maximumSubscribers, h.queueCapacity, h.nextId, ?_, ?_, h.queues, h.latestCounters⟩
  · show a.subscribers.senders.filter _ = b.subscribers.senders.filter _
    rw [h.senders]
  · simp only [EventBus.remove, Broadcast.detach, h.alive]

theorem receive (h : a.Alike b) (id : BitVec 64) :
    ({ a with subscribers := a.subscribers.receive id } : EventBus).Alike
      { b with subscribers := b.subscribers.receive id } := by
  refine ⟨h.maximumSubscribers, h.queueCapacity, h.nextId, h.senders, h.alive, fun other => ?_,
    h.latestCounters⟩
  simp only [Broadcast.receive]
  split_ifs
  · rw [List.map_tail, List.map_tail, h.queues]
  · exact h.queues other

theorem clearCounterSnapshot (h : a.Alike b) :
    a.clearCounterSnapshot.Alike b.clearCounterSnapshot :=
  ⟨h.maximumSubscribers, h.queueCapacity, h.nextId, h.senders, h.alive, h.queues, rfl⟩

theorem latest_length (h : a.Alike b) :
    a.latestCounters.toList.length = b.latestCounters.toList.length := by
  have hlatest := h.latestCounters
  cases ha : a.latestCounters <;> cases hb : b.latestCounters <;> simp_all

/-- Registration turns out the same. -/
theorem subscribe (h : a.Alike b) :
    a.subscribe.1 = b.subscribe.1 ∧ a.subscribe.2.Alike b.subscribe.2 := by
  unfold EventBus.subscribe
  rw [h.maximumSubscribers, h.senders, h.nextId, h.queueCapacity]
  split_ifs with hfull
  · exact ⟨rfl, h⟩
  · cases checkedSucc b.nextId with
    | none => exact ⟨rfl, h⟩
    | some nextId =>
      dsimp only
      rw [h.latest_length]
      split_ifs with hcapacity
      · exact ⟨rfl, rfl, rfl, rfl, h.senders, h.alive, h.queues, h.latestCounters⟩
      · refine ⟨rfl, rfl, rfl, rfl, ?_, ?_, fun id => ?_, h.latestCounters⟩
        · simp only [Broadcast.attach, h.senders]
        · simp only [Broadcast.attach, h.alive]
        · simp only [Broadcast.attach]
          split_ifs
          · rw [← Option.toList_map, ← Option.toList_map, h.latestCounters]
          · exact h.queues id

end EventBus.Alike

/-! ### Pairs of runs -/

/-- The moves of two runs: the engines may do different things, everything else is the same. -/
inductive ObservationAction.SameForObserver : ObservationAction → ObservationAction → Prop
  | engine (a b : Action) : SameForObserver (.engine a) (.engine b)
  | same (action : ObservationAction) : SameForObserver action action

namespace Observation

/-- The policies agree except for what identifies applications, and the engines are as healthy. -/
@[mk_iff]
structure SamePolicies (o₁ o₂ : Observation) : Prop where
  state : o₁.runtime.engine.state.SameForObserver o₂.runtime.engine.state
  poisoned : o₁.runtime.engine.poisoned = o₂.runtime.engine.poisoned
  fatal : o₁.runtime.engine.fatal = o₂.runtime.engine.fatal

instance : DecidableRel SamePolicies := fun o₁ o₂ =>
  decidable_of_iff' _ (samePolicies_iff o₁ o₂)

def SameEvents (o₁ o₂ : Observation) : Prop :=
  List.Forall₂ Event.SameForObserver o₁.outbox o₂.outbox

def Throughout (json : Serializer) (R : Observation → Observation → Prop) :
    Observation → Observation → List (ObservationAction × ObservationAction) → Prop
  | o₁, o₂, [] => R o₁ o₂
  | o₁, o₂, (a, b) :: rest =>
    R o₁ o₂ ∧ a.SameForObserver b ∧ Throughout json R (o₁.step json a) (o₂.step json b) rest

theorem throughout_of_take {json : Serializer} {R : Observation → Observation → Prop}
    {actions : List ObservationAction} {o₁ o₂ : Observation}
    (h : ∀ k ≤ actions.length, R (o₁.run json (actions.take k)) (o₂.run json (actions.take k))) :
    Throughout json R o₁ o₂ (actions.map fun action => (action, action)) := by
  induction actions generalizing o₁ o₂ with
  | nil => exact h 0 le_rfl
  | cons action rest ih =>
    refine ⟨h 0 (Nat.zero_le _), .same action, ih fun k hk => ?_⟩
    exact h (k + 1) (Nat.succ_le_succ hk)

structure Alike (redacted : ℕ → Bool) (o₁ o₂ : Observation) : Prop where
  bus : o₁.bus.Alike o₂.bus
  clients : ∀ n, (o₁.clients n).Alike (redacted n) (o₂.clients n)

variable {json : Serializer} {redacted : ℕ → Bool} {o₁ o₂ : Observation}

theorem SameEvents.map_redacted (h : o₁.SameEvents o₂) :
    o₁.outbox.map Event.redactedForObserver = o₂.outbox.map Event.redactedForObserver := by
  unfold SameEvents at h
  generalize o₁.outbox = first, o₂.outbox = second at h ⊢
  induction h with
  | nil => rfl
  | cons hevent _ ih => rw [List.map_cons, List.map_cons, hevent.redacted, ih]

theorem SameEvents.nil_iff (h : o₁.SameEvents o₂) : o₁.outbox = [] ↔ o₂.outbox = [] := by
  have hlength := List.Forall₂.length_eq h
  rw [← List.length_eq_zero_iff, ← List.length_eq_zero_iff, hlength]

theorem Alike.setClient (h : o₁.Alike redacted o₂) (n : ℕ) {a b : Client}
    (hclient : a.Alike (redacted n) b) :
    (o₁.setClient n a).Alike redacted (o₂.setClient n b) := by
  refine ⟨h.bus, fun m => ?_⟩
  simp only [Observation.setClient]
  split_ifs
  · next hm => exact hm ▸ hclient
  · exact h.clients m

theorem Alike.setConnection (h : o₁.Alike redacted o₂) (n : ℕ) (connection : Connection) :
    (o₁.setConnection n connection).Alike redacted (o₂.setConnection n connection) :=
  h.setClient n ⟨(h.clients n).afterRevision, (h.clients n).first, (h.clients n).second, rfl,
    (h.clients n).received⟩

theorem Alike.drop (h : o₁.Alike redacted o₂) (n : ℕ) (id : BitVec 64) (connection : Connection) :
    (o₁.drop n id connection).Alike redacted (o₂.drop n id connection) :=
  ⟨h.bus.remove id, (h.setConnection n connection).clients⟩

theorem Alike.broadcast (h : o₁.Alike redacted o₂) {event other : Event}
    (hevent : event.redactedForObserver = other.redactedForObserver) :
    (o₁.broadcast event).Alike redacted (o₂.broadcast other) :=
  ⟨h.bus.publish hevent, h.clients⟩

theorem Alike.take (h : o₁.Alike redacted o₂) (n : ℕ) (id : BitVec 64) (event other : Event) :
    (o₁.take n id event).Alike redacted (o₂.take n id other) :=
  ⟨h.bus.receive id, h.clients⟩

theorem Alike.register (h : o₁.Alike redacted o₂) (n : ℕ) :
    (o₁.register n).Alike redacted (o₂.register n) := by
  obtain ⟨hresult, hbus⟩ := h.bus.subscribe
  unfold Observation.register
  rcases h₁ : o₁.bus.subscribe with ⟨result, bus₁⟩
  rcases h₂ : o₂.bus.subscribe with ⟨other, bus₂⟩
  rw [h₁, h₂] at hresult hbus
  obtain rfl : result = other := hresult
  cases result with
  | error error => exact ⟨hbus, (h.setConnection n .refused).clients⟩
  | ok id => exact ⟨hbus, (h.setConnection n (.registered id)).clients⟩

theorem Alike.begin (h : o₁.Alike redacted o₂) (hpolicies : o₁.SamePolicies o₂) (n : ℕ)
    (id : BitVec 64) :
    (o₁.begin n id).Alike redacted (o₂.begin n id) := by
  unfold Observation.begin Engine.subscriptionRevision
  rw [hpolicies.fatal, hpolicies.state.revision, (h.clients n).afterRevision]
  cases o₂.runtime.engine.fatal with
  | true => exact h.drop n id .refused
  | false =>
    simp only [Bool.false_eq_true, if_false]
    split_ifs
    · exact h.drop n id .refused
    · exact h.setConnection n _

theorem eventReflectedByRevision_redacted (event : Event) (baseline : BitVec 64) :
    eventReflectedByRevision event.redactedForObserver baseline =
      eventReflectedByRevision event baseline := by
  obtain ⟨revision, occurredAt, kind⟩ := event
  cases kind <;> rfl

theorem Alike.stream (h : o₁.Alike redacted o₂) (n : ℕ) (written : Bool) (id baseline : BitVec 64) :
    (o₁.stream n written id baseline).Alike redacted (o₂.stream n written id baseline) := by
  have hqueue := h.bus.queues id
  have hclient := h.clients n
  unfold Observation.stream
  cases h₁ : o₁.bus.subscribers.queues id with
  | nil =>
    rw [h₁, List.map_nil] at hqueue
    rw [List.map_eq_nil_iff.mp hqueue.symm, h.bus.senders]
    dsimp only
    split_ifs
    · exact h
    · exact h.drop n id _
  | cons event rest =>
    rw [h₁, List.map_cons] at hqueue
    obtain ⟨other, rest', h₂, hevent, -⟩ := List.map_eq_cons_iff.mp hqueue.symm
    have hreflected : eventReflectedByRevision event baseline =
        eventReflectedByRevision other baseline := by
      rw [← eventReflectedByRevision_redacted, ← hevent, eventReflectedByRevision_redacted]
    rw [h₂]
    dsimp only
    rw [hreflected]
    split_ifs
    · exact h.take n id event other
    · refine (h.take n id event other).setClient n
        ⟨hclient.afterRevision, hclient.first, hclient.second, hclient.connection,
          fun hredacted => ?_⟩
      -- a redacted client is shown what both events have in common
      simp only [Client.shown, hclient.first, hclient.second, hredacted, if_true,
        hclient.received hredacted, hevent]
    · exact (h.take n id event other).drop n id _

theorem Alike.publishNext (h : o₁.Alike redacted o₂) (hevents : o₁.SameEvents o₂) :
    (o₁.step json .publishNext).Alike redacted (o₂.step json .publishNext) := by
  have hredacted := hevents.map_redacted
  unfold Observation.step
  cases h₁ : o₁.outbox with
  | nil =>
    rw [hevents.nil_iff.mp h₁]
    exact h
  | cons event rest =>
    rw [h₁, List.map_cons] at hredacted
    obtain ⟨other, rest', h₂, hevent, -⟩ := List.map_eq_cons_iff.mp hredacted.symm
    rw [h₂]
    exact ⟨(h.broadcast hevent.symm).bus, h.clients⟩

theorem Alike.counters (h : o₁.Alike redacted o₂) (hpolicies : o₁.SamePolicies o₂)
    (hevents : o₁.SameEvents o₂) (expectedRevision : BitVec 64) (counters : FirewallCounters)
    (now : Timestamp) :
    (o₁.step json (.counters expectedRevision counters now)).Alike redacted
      (o₂.step json (.counters expectedRevision counters now)) := by
  have hcurrent : o₁.runtime.engine.currentCounters expectedRevision counters now =
      o₂.runtime.engine.currentCounters expectedRevision counters now := by
    unfold Engine.currentCounters State.countersEvent
    rw [hpolicies.poisoned, hpolicies.state.revision]
  simp only [Observation.step, hcurrent]
  cases h₁ : o₁.outbox with
  | nil =>
    rw [hevents.nil_iff.mp h₁]
    cases o₂.runtime.engine.currentCounters expectedRevision counters now with
    | none => exact h
    | some event => exact h.broadcast rfl
  | cons event rest =>
    have h₂ : o₂.outbox ≠ [] := fun hnil => by
      rw [hevents.nil_iff.mpr hnil] at h₁
      cases h₁
    obtain ⟨other, rest', h₂⟩ := List.exists_cons_of_ne_nil h₂
    rw [h₂]
    exact h

theorem Alike.readBaseline (h : o₁.Alike redacted o₂) (hpolicies : o₁.SamePolicies o₂)
    (hevents : o₁.SameEvents o₂) (n : ℕ) :
    (o₁.step json (.readBaseline n)).Alike redacted (o₂.step json (.readBaseline n)) := by
  simp only [Observation.step, (h.clients n).connection]
  cases h₁ : o₁.outbox with
  | nil =>
    rw [hevents.nil_iff.mp h₁]
    cases (o₂.clients n).connection with
    | registered id => exact h.begin hpolicies n id
    | _ => exact h
  | cons event rest =>
    have h₂ : o₂.outbox ≠ [] := fun hnil => by
      rw [hevents.nil_iff.mpr hnil] at h₁
      cases h₁
    obtain ⟨other, rest', h₂⟩ := List.exists_cons_of_ne_nil h₂
    rw [h₂]
    exact h

theorem step_engine (json : Serializer) (o : Observation) (action : Action) :
    (o.step json (.engine action)).bus = o.bus ∧
      (o.step json (.engine action)).clients = o.clients := by
  simp only [Observation.step]
  split_ifs <;> exact ⟨rfl, rfl⟩

theorem Alike.engine (h : o₁.Alike redacted o₂) (first second : Action) :
    (o₁.step json (.engine first)).Alike redacted (o₂.step json (.engine second)) := by
  obtain ⟨hbus₁, hclients₁⟩ := step_engine json o₁ first
  obtain ⟨hbus₂, hclients₂⟩ := step_engine json o₂ second
  refine ⟨?_, ?_⟩
  · rw [hbus₁, hbus₂]
    exact h.bus
  · rw [hclients₁, hclients₂]
    exact h.clients

theorem Alike.step (h : o₁.Alike redacted o₂) (hpolicies : o₁.SamePolicies o₂)
    (hevents : o₁.SameEvents o₂) {a b : ObservationAction} (hsame : a.SameForObserver b) :
    (o₁.step json a).Alike redacted (o₂.step json b) := by
  cases hsame with
  | engine first second =>
    exact h.engine first second
  | same =>
    cases a with
    | engine action => exact h.engine action action
    | publishNext => exact h.publishNext hevents
    | counters expectedRevision counters now =>
      exact h.counters hpolicies hevents expectedRevision counters now
    | clearCounterSnapshot => exact ⟨h.bus.clearCounterSnapshot, h.clients⟩
    | subscribe n =>
      simp only [Observation.step, (h.clients n).connection]
      cases (o₂.clients n).connection with
      | new => exact h.register n
      | _ => exact h
    | readBaseline n => exact h.readBaseline hpolicies hevents n
    | receive n written =>
      simp only [Observation.step, (h.clients n).connection]
      cases (o₂.clients n).connection with
      | streaming id baseline => exact h.stream n written id baseline
      | _ => exact h
    | leave n =>
      simp only [Observation.step, (h.clients n).connection]
      cases (o₂.clients n).connection with
      | registered id => exact h.drop n id .refused
      | streaming id baseline => exact h.drop n id (.ended baseline)
      | _ => exact h

theorem Alike.run {actions : List (ObservationAction × ObservationAction)}
    (h : o₁.Alike redacted o₂)
    (hrun : Throughout json (fun o₁ o₂ => o₁.SamePolicies o₂ ∧ o₁.SameEvents o₂) o₁ o₂ actions) :
    (o₁.run json (actions.map Prod.fst)).Alike redacted (o₂.run json (actions.map Prod.snd)) := by
  induction actions generalizing o₁ o₂ with
  | nil => exact h
  | cons pair rest ih =>
    obtain ⟨a, b⟩ := pair
    obtain ⟨⟨hpolicies, hevents⟩, hsame, hrest⟩ := hrun
    exact ih (h.step hpolicies hevents hsame) hrest

theorem alike_start (runtime₁ runtime₂ : Runtime) (maximumSubscribers queueCapacity : ℕ)
    (request : ℕ → Option (BitVec 64) × Bool) :
    (start runtime₁ maximumSubscribers queueCapacity request).Alike (fun n => (request n).2)
      (start runtime₂ maximumSubscribers queueCapacity request) :=
  ⟨⟨rfl, rfl, rfl, rfl, rfl, fun _ => rfl, rfl⟩, fun _ => ⟨rfl, rfl, rfl, rfl, fun _ => rfl⟩⟩

end Observation

namespace Sample

def twoApplications (first second : ApplicationPath) : State :=
  let bound (path : ApplicationPath) := some { selector with executable := some path }
  { revision := 0
    flowGeneration := 1
    mode := .enforcing
    enforcementStrategy := .strict
    rules :=
      ⟨[(1, { rule .outbound .accept (bound first) with updatedAt := 10 }),
        (2, { rule .outbound .accept (bound second) with id := 2, updatedAt := 10 })], by simp⟩ }

def pathA : ApplicationPath := ⟨"/a", Sample.accepts_a⟩

def pathB : ApplicationPath := ⟨"/b", Sample.accepts_b⟩

def watched (first second : ApplicationPath) : Observation :=
  Observation.start (Runtime.Sample.runtime (twoApplications first second) fun _ => Fault.none)
    64 512 fun _ => (none, true)

def followed (request : ControlRequest) : List ObservationAction :=
  [.subscribe 0, .readBaseline 0,
    .engine (.control ⟨fun _ => (0, 5), fun _ _ => .error ""⟩ request), .publishNext,
    .receive 0 true]

/-- Accept what an executable does. Its rules accept it already. -/
def acceptGroup : List ObservationAction :=
  followed (.manageOutboundGroup 0 (.executable pathA) .accept)

def disableFirst : List ObservationAction := followed (.setRuleEnabled 0 1 false)

def firstDisabled (path : ApplicationPath) : Event :=
  let before := rule .outbound .accept (some { selector with executable := some path })
  { revision := 1
    occurredAt := 5
    kind := .ruleEnabledChanged
      { before with spec := { before.spec with enabled := false }, updatedAt := 10 } }

end Sample

namespace State.Observed

variable {o copy : Observed}

/-- What an observer other than root knows of a policy. -/
structure ShownAs (o copy : Observed) : Prop where
  mode : copy.mode = o.mode
  revision : copy.revision = o.revision
  rules : ∀ id, copy.rules.get? id = (o.rules.get? id).map Rule.redactedForObserver

theorem ShownAs.follow (h : o.ShownAs copy) (event : Event) :
    (o.follow event).ShownAs (copy.follow event.redactedForObserver) := by
  have hstored (rule : Rule) (id : Uuid) :
      (copy.rules.insert rule.redactedForObserver.id rule.redactedForObserver).get? id =
        ((o.rules.insert rule.id rule).get? id).map Rule.redactedForObserver := by
    rw [OrderedMap.get?_insert, OrderedMap.get?_insert, Rule.redactedForObserver_id, h.rules]
    split_ifs <;> rfl
  obtain ⟨revision, occurredAt, kind⟩ := event
  cases kind with
  | modeChanged => exact ⟨rfl, rfl, h.rules⟩
  | ruleCreated rule | ruleUpdated rule | ruleEnabledChanged rule =>
    exact ⟨h.mode, rfl, hstored rule⟩
  | ruleDeleted rule =>
    refine ⟨h.mode, rfl, fun id => ?_⟩
    change (copy.rules.erase rule.redactedForObserver.id).get? id = _
    rw [OrderedMap.get?_erase, Rule.redactedForObserver_id, h.rules]
    change _ = ((o.rules.erase rule.id).get? id).map _
    rw [OrderedMap.get?_erase]
    split_ifs <;> rfl
  | countersUpdated => exact h

theorem ShownAs.foldl (h : o.ShownAs copy) (events : List Event) :
    (events.foldl Observed.follow o).ShownAs
      ((events.map Event.redactedForObserver).foldl Observed.follow copy) := by
  induction events generalizing o copy with
  | nil => exact h
  | cons event rest ih => exact ih (h.follow event)

end State.Observed

theorem Runtime.run_changes {json : Serializer} {rt : Runtime} (h : rt.Sound json)
    (actions : List Action) (hhealthy : (rt.run json actions).engine.poisoned = false) :
    rt.engine.poisoned = false ∧
      ∃ events, (rt.run json actions).world.published = rt.world.published ++ events ∧
        rt.engine.state.Changes events (rt.run json actions).engine.state := by
  induction actions generalizing rt with
  | nil => exact ⟨hhealthy, [], (List.append_nil _).symm, .refl⟩
  | cons action rest ih =>
    obtain ⟨hsound, hprogress⟩ := step_advances h action
    obtain ⟨hnow, later, hlater, hchanges⟩ := ih hsound hhealthy
    refine ⟨hprogress.healthy hnow, ?_⟩
    cases hprogress.move with
    | stay published state =>
      rcases state with hpoisoned | hsame
      · cases hnow.symm.trans hpoisoned
      · exact ⟨later, published ▸ hlater, hsame ▸ hchanges⟩
    | @change events _ published changes _ =>
      refine ⟨events ++ later, ?_, changes.trans hchanges⟩
      rw [← List.append_assoc, ← published]
      exact hlater

/-- Redacted events suffice to keep a redacted copy of the policy: one that is right before a run
of the engine and follows what is published is right after it. -/
theorem redacted_copy_follows {json : Serializer} {rt : Runtime} (hreach : rt.Reachable json)
    (actions : List Action) (hhealthy : (rt.run json actions).engine.poisoned = false)
    {copy : State.Observed} (hcopy : rt.engine.state.observed.ShownAs copy) :
    ∃ events, (rt.run json actions).world.published = rt.world.published ++ events ∧
      (rt.run json actions).engine.state.observed.ShownAs
        ((events.map Event.redactedForObserver).foldl State.Observed.follow copy) := by
  obtain ⟨-, events, hpublished, hchanges⟩ := Runtime.run_changes hreach.sound actions hhealthy
  refine ⟨events, hpublished, ?_⟩
  rw [← hchanges.observed_eq hreach.sound.consistent.wellFormed]
  exact hcopy.foldl events

/-- The rule that the sample learns is published, and the copy has it without its application. -/
theorem redacted_copy_follows_sample :
    ∃ events, (Sample.prepared.run Sample.json [.persist, .finalize]).world.published =
        Sample.prepared.world.published ++ events ∧
      (Sample.prepared.run Sample.json [.persist, .finalize]).engine.state.observed.ShownAs
        ((events.map Event.redactedForObserver).foldl State.Observed.follow
          Sample.prepared.engine.state.observed) :=
  redacted_copy_follows Sample.prepared_reachable _ (by decide +kernel) ⟨rfl, rfl, fun _ => rfl⟩

end OpenShield
