import OpenShield.Core.Operations
import OpenShield.Data.Command

/-!
# Mutators of a state in place

The operations of a state write its fields one after the other, between checks that may fail.
Here they are commands on the state, with every check and every write where the source has it,
so that a check behind a write would leave a half-written state. Each of them turns out to be a
transaction: it does what the operation on values does, or it fails and writes nothing.
-/

namespace OpenShield

abbrev Mutation (α : Type) := Command State CoreError α

namespace Mutation

variable {α β : Type}

def lift (result : Except CoreError α) : Mutation α := Command.ofExcept id result

/-! ### Mutators -/

def setModeWithStrategyAt (mode : Mode) (strategy : EnforcementStrategy) (now : Timestamp) :
    Mutation Event := do
  let s ← get
  let revision ← lift s.nextRevision
  let flowGeneration ← lift (s.generationForMode mode)
  let previous := s.mode
  modify fun s => { s with mode }
  modify fun s => { s with enforcementStrategy := strategy }
  modify fun s => { s with flowGeneration }
  modify fun s => { s with revision }
  return { revision, occurredAt := now, kind := .modeChanged previous mode }

/-- Select a mode; plain `enforcing` is strict, and other modes keep the strategy. -/
def setModeAt (mode : Mode) (now : Timestamp) : Mutation Event := do
  let s ← get
  setModeWithStrategyAt mode (if mode = .enforcing then .strict else s.enforcementStrategy) now

/-- Select `enforcing` together with its strategy. -/
def enforce (strategy : EnforcementStrategy) (now : Timestamp) : Mutation Event :=
  setModeWithStrategyAt .enforcing strategy now

def advance (flowGeneration : Option (BitVec 32)) : Mutation Unit :=
  match flowGeneration with
  | some flowGeneration => modify fun s => { s with flowGeneration }
  | none => return ()

def generationIf (needed : Bool) : Mutation (Option (BitVec 32)) := do
  let s ← get
  if needed then return some (← lift s.nextFlowGeneration) else return none

variable (id : Uuid) (spec : RuleSpec) (now : Timestamp)

def createRuleAt : Mutation (Rule × Event) := do
  lift (rejectRedactedSpec spec)
  lift (rejectUnpinnedApplicationSpec spec)
  let s ← get
  lift (ensure (s.rules.size < MAX_RULES) (.rulesLimitReached MAX_RULES))
  lift (ensure (s.rules.contains id = false) (.duplicateRuleId id))
  let rule ← lift (liftValidation (Rule.withIdAndTime id spec now))
  let revision ← lift s.nextRevision
  let flowGeneration ← generationIf (rule.spec.enabled && decide (rule.spec.action ≠ .accept))
  modify fun s => { s with rules := s.rules.insert id rule }
  advance flowGeneration
  modify fun s => { s with revision }
  return (rule, { revision, occurredAt := now, kind := .ruleCreated rule })

def updateRuleAt : Mutation (Rule × Event) := do
  let spec := clearDisabledTemplatePinIfSkeleton spec
  lift (liftValidation spec.validate)
  lift (rejectRedactedSpec spec)
  lift (rejectUnpinnedApplicationSpec spec)
  let s ← get
  let revision ← lift s.nextRevision
  match s.rules.get? id with
  | none => throw (.ruleNotFound id)
  | some current =>
    let flowGeneration ← lift s.nextFlowGeneration
    let rule : Rule := { current with spec, updatedAt := max now current.updatedAt }
    lift (liftValidation rule.validate)
    modify fun s => { s with rules := s.rules.insert id rule }
    modify fun s => { s with flowGeneration }
    modify fun s => { s with revision }
    return (rule, { revision, occurredAt := now, kind := .ruleUpdated rule })

def deleteRuleAt : Mutation (Rule × Event) := do
  let s ← get
  let revision ← lift s.nextRevision
  match s.rules.get? id with
  | none => throw (.ruleNotFound id)
  | some rule =>
    let flowGeneration ← lift s.nextFlowGeneration
    modify fun s => { s with rules := s.rules.erase id }
    modify fun s => { s with flowGeneration }
    modify fun s => { s with revision }
    return (rule, { revision, occurredAt := now, kind := .ruleDeleted rule })

def setRuleEnabledAt (enabled : Bool) (now : Timestamp) :
    Mutation (Rule × Event) := do
  let s ← get
  let revision ← lift s.nextRevision
  match s.rules.get? id with
  | none => throw (.ruleNotFound id)
  | some current =>
    let flowGeneration ← generationIf (State.switchMovesGeneration current enabled)
    let rule : Rule :=
      { current with
        spec := clearDisabledTemplatePinIfSkeleton { current.spec with enabled }
        updatedAt := max now current.updatedAt }
    lift (liftValidation rule.validate)
    lift (rejectUnpinnedApplicationSpec rule.spec)
    modify fun s => { s with rules := s.rules.insert id rule }
    advance flowGeneration
    modify fun s => { s with revision }
    return (rule, { revision, occurredAt := now, kind := .ruleEnabledChanged rule })

variable (endpoint : LearnedEndpoint)

def insertLearnedEndpoint (application : Option ApplicationSelector)
    (draw : Uuid × Timestamp) : Mutation LearnOutcome := do
  let name ← lift (liftValidation (RuleName.new (learnedName endpoint)))
  let base ← lift (liftValidation (RuleSpec.new name .outbound endpoint.protocol
    (some endpoint.address.toIpNet) endpoint.port endpoint.interface .learned true))
  let spec : RuleSpec := { base with action := .accept, application }
  lift (liftValidation spec.validate)
  let (rule, event) ← createRuleAt draw.1 spec draw.2
  return { rule, event := some event }

def learnEndpoint (draw : Uuid × Timestamp) :
    Mutation LearnOutcome := do
  lift (liftValidation endpoint.validate)
  let s ← get
  match s.rules.values.find? fun rule =>
      isLearnedOutbound rule && decide (LearnedRuleKey.fromRule rule = .fromEndpoint endpoint) with
  | some rule => return { rule, event := none }
  | none =>
    lift (ensure (s.automaticCount < MAX_AUTOMATIC_LEARNED_RULES)
      (.rulesLimitReached MAX_AUTOMATIC_LEARNED_RULES))
    insertLearnedEndpoint endpoint none draw

/-! ### Mutators are transactions -/

def settle (s : State) : Except CoreError (State × α) → Except CoreError α × State
  | .ok (t, a) => (.ok a, t)
  | .error e => (.error e, s)

def TransactionAt (s : State) (command : Mutation α) (result : Except CoreError (State × α)) :
    Prop :=
  command.exec s = settle s result

def IsTransaction (command : Mutation α) (operation : State → Except CoreError (State × α)) :
    Prop :=
  ∀ s, TransactionAt s command (operation s)

namespace TransactionAt

variable {s : State}

theorem get_bind {next : State → Mutation α} {result : Except CoreError (State × α)}
    (h : TransactionAt s (next s) result) : TransactionAt s (get >>= next) result := h

theorem lift_bind {check : Except CoreError β} {next : β → Mutation α}
    {rest : β → Except CoreError (State × α)}
    (h : ∀ b, check = .ok b → TransactionAt s (next b) (rest b)) :
    TransactionAt s (lift check >>= next) (check >>= rest) := by
  rw [TransactionAt, Command.exec_bind]
  cases hcheck : check with
  | error e => rfl
  | ok b => exact h b hcheck

theorem generationIf_bind {needed : Bool} {next : Option (BitVec 32) → Mutation α}
    {rest : BitVec 32 → Except CoreError (State × α)}
    (h : ∀ generation, s.generationAfter needed = .ok generation →
      TransactionAt s (next (if needed then some generation else none)) (rest generation)) :
    TransactionAt s (generationIf needed >>= next) (s.generationAfter needed >>= rest) := by
  cases needed with
  | false => exact h s.flowGeneration rfl
  | true =>
    have hnext : TransactionAt s (lift s.nextFlowGeneration >>= fun generation => next (some generation))
        (s.nextFlowGeneration >>= rest) := lift_bind h
    rw [TransactionAt, Command.exec_bind] at hnext ⊢
    have hlift : (generationIf true).exec s = (s.nextFlowGeneration.map some, s) := by
      change (lift s.nextFlowGeneration >>= fun generation => pure (some generation)).exec s = _
      rw [Command.exec_bind]
      cases s.nextFlowGeneration <;> rfl
    rw [hlift, show s.generationAfter true = s.nextFlowGeneration from rfl]
    cases hgeneration : s.nextFlowGeneration <;> rw [hgeneration] at hnext <;> exact hnext

theorem map {command : Mutation β} {result : Except CoreError (State × β)} {f : β → α}
    (h : TransactionAt s command result) :
    TransactionAt s (command >>= fun b => pure (f b))
      (result >>= fun done => .ok (done.1, f done.2)) := by
  rw [TransactionAt, Command.exec_bind, h]
  cases result <;> rfl

end TransactionAt

theorem exec_advance_bind {needed : Bool} {generation : BitVec 32} (next : Unit → Mutation β)
    {s t : State} (hgeneration : s.generationAfter needed = .ok generation)
    (hsame : t.flowGeneration = s.flowGeneration) :
    (advance (if needed then some generation else none) >>= next).exec t =
      (next ()).exec { t with flowGeneration := generation } := by
  cases needed with
  | false =>
    cases hgeneration
    rw [← hsame]
    rfl
  | true => rfl

theorem setModeWithStrategyAt_isTransaction (mode : Mode) (strategy : EnforcementStrategy)
    (now : Timestamp) :
    IsTransaction (setModeWithStrategyAt mode strategy now)
      fun s => s.setModeWithStrategyAt mode strategy now := by
  intro s
  refine .get_bind (.lift_bind fun revision _ => .lift_bind fun generation _ => ?_)
  rfl

theorem setModeAt_isTransaction (mode : Mode) (now : Timestamp) :
    IsTransaction (setModeAt mode now) fun s => s.setModeAt mode now :=
  fun s => .get_bind (setModeWithStrategyAt_isTransaction mode _ now s)

theorem createRuleAt_isTransaction :
    IsTransaction (createRuleAt id spec now) fun s => s.createRuleAt id spec now := by
  intro s
  refine .lift_bind fun _ _ => .lift_bind fun _ _ => .get_bind ?_
  refine .lift_bind fun _ _ => .lift_bind fun _ _ => .lift_bind fun rule _ => ?_
  refine .lift_bind fun revision _ => .generationIf_bind fun generation hgeneration => ?_
  -- all checks are behind us, and the writes follow
  exact exec_advance_bind _ hgeneration rfl

theorem updateRuleAt_isTransaction :
    IsTransaction (updateRuleAt id spec now) fun s => s.updateRuleAt id spec now := by
  intro s
  refine .lift_bind fun _ _ => .lift_bind fun _ _ => .lift_bind fun _ _ => .get_bind ?_
  refine .lift_bind fun revision _ => ?_
  cases s.rules.get? id with
  | none => rfl
  | some current =>
    refine .lift_bind fun generation _ => .lift_bind fun _ _ => ?_
    rfl

theorem deleteRuleAt_isTransaction :
    IsTransaction (deleteRuleAt id now) fun s => s.deleteRuleAt id now := by
  intro s
  refine .get_bind (.lift_bind fun revision _ => ?_)
  cases s.rules.get? id with
  | none => rfl
  | some rule =>
    refine .lift_bind fun generation _ => ?_
    rfl

theorem setRuleEnabledAt_isTransaction (enabled : Bool) (now : Timestamp) :
    IsTransaction (setRuleEnabledAt id enabled now) fun s => s.setRuleEnabledAt id enabled now := by
  intro s
  refine .get_bind (.lift_bind fun revision _ => ?_)
  cases s.rules.get? id with
  | none => rfl
  | some current =>
    refine .generationIf_bind fun generation hgeneration => .lift_bind fun _ _ => ?_
    refine .lift_bind fun _ _ => ?_
    exact exec_advance_bind _ hgeneration rfl

theorem learnEndpoint_isTransaction (draw : Uuid × Timestamp) :
    IsTransaction (learnEndpoint endpoint draw) fun s => s.learnEndpoint endpoint draw := by
  intro s
  refine .lift_bind fun _ _ => .get_bind ?_
  cases s.rules.values.find? _ with
  | some rule => rfl
  | none =>
    refine .lift_bind fun _ _ => .lift_bind fun name _ => .lift_bind fun base _ => ?_
    exact .lift_bind fun _ _ => (createRuleAt_isTransaction draw.1 _ draw.2 s).map

end Mutation

/-! ### Calls -/

/-- A call of a mutator. Identifiers and times that the source draws itself are arguments. -/
inductive StateCall
  | setMode (mode : Mode) (now : Timestamp)
  | enforce (strategy : EnforcementStrategy) (now : Timestamp)
  | createRule (id : Uuid) (spec : RuleSpec) (now : Timestamp)
  | updateRule (id : Uuid) (spec : RuleSpec) (now : Timestamp)
  | deleteRule (id : Uuid) (now : Timestamp)
  | setRuleEnabled (id : Uuid) (enabled : Bool) (now : Timestamp)
  | learnEndpoint (endpoint : LearnedEndpoint) (draw : Uuid × Timestamp)

/-- What a call returns: the rule it is about, and the event it reports. -/
structure StateAnswer where
  rule : Option Rule
  event : Option Event

namespace StateCall

def run : StateCall → Mutation StateAnswer
  | setMode mode now => do
    let event ← Mutation.setModeAt mode now
    return ⟨none, some event⟩
  | enforce strategy now => do
    let event ← Mutation.enforce strategy now
    return ⟨none, some event⟩
  | createRule id spec now => do
    let done ← Mutation.createRuleAt id spec now
    return ⟨some done.1, some done.2⟩
  | updateRule id spec now => do
    let done ← Mutation.updateRuleAt id spec now
    return ⟨some done.1, some done.2⟩
  | deleteRule id now => do
    let done ← Mutation.deleteRuleAt id now
    return ⟨some done.1, some done.2⟩
  | setRuleEnabled id enabled now => do
    let done ← Mutation.setRuleEnabledAt id enabled now
    return ⟨some done.1, some done.2⟩
  | learnEndpoint endpoint draw => do
    let outcome ← Mutation.learnEndpoint endpoint draw
    return ⟨some outcome.rule, outcome.event⟩

end StateCall

/-- The event of a change says what the change did: it carries the rule as it is stored now, or
as it was before it was removed. -/
def Event.Reports (event : Event) (rule : Option Rule) (s t : State) : Prop :=
  match event.kind with
  | .modeChanged previous current => rule = none ∧ previous = s.mode ∧ current = t.mode
  | .ruleCreated stored => rule = some stored ∧ s.rules.get? stored.id = none ∧
      t.rules.get? stored.id = some stored
  | .ruleUpdated stored => rule = some stored ∧ t.rules.get? stored.id = some stored
  | .ruleEnabledChanged stored => rule = some stored ∧ t.rules.get? stored.id = some stored
  | .ruleDeleted removed => rule = some removed ∧ s.rules.get? removed.id = some removed ∧
      t.rules.get? removed.id = none
  | .countersUpdated _ => False

structure State.Accounted (s t : State) (rule : Option Rule) (event : Event) : Prop where
  revision : t.revision.toNat = s.revision.toNat + 1
  numbered : event.revision = t.revision
  reports : event.Reports rule s t
  wellFormed : t.WellFormed

namespace State

variable {s t : State} {id : Uuid} {spec : RuleSpec} {now : Timestamp} {rule : Rule}
  {event : Event}

theorem setModeWithStrategyAt_accounted (hs : s.WellFormed) {mode : Mode}
    {strategy : EnforcementStrategy}
    (h : s.setModeWithStrategyAt mode strategy now = .ok (t, event)) :
    s.Accounted t none event := by
  obtain ⟨generation, revision, hrevision, hgeneration, rfl, rfl⟩ := setModeWithStrategyAt_eq_ok h
  refine ⟨nextRevision_toNat hrevision, rfl, ⟨rfl, rfl, rfl⟩, hs.size, ?_, hs.entries⟩
  rcases generationForMode_cases hgeneration with hnext | ⟨rfl, rfl, _⟩
  · exact (nextFlowGeneration_spec hnext).2
  · exact hs.generation

theorem createRuleAt_accounted (hs : s.WellFormed)
    (h : s.createRuleAt id spec now = .ok (t, rule, event)) : s.Accounted t (some rule) event := by
  have hwellFormed := (createRuleAt_follows h).wellFormed hs
  obtain ⟨generation, revision, rfl, _, _, hfree, hrevision, _, rfl, rfl⟩ := createRuleAt_eq_ok h
  exact ⟨nextRevision_toNat hrevision, rfl, ⟨rfl, hfree, by simp [OrderedMap.get?_insert]⟩, hwellFormed⟩

theorem updateRuleAt_accounted (hs : s.WellFormed)
    (h : s.updateRuleAt id spec now = .ok (t, rule, event)) : s.Accounted t (some rule) event := by
  have hwellFormed := (updateRuleAt_follows h).wellFormed hs
  obtain ⟨current, generation, revision, hcurrent, hid, _, _, hrevision, _, rfl, rfl⟩ :=
    updateRuleAt_eq_ok h
  obtain rfl : rule.id = id := hid.trans (hs.id_of_get? hcurrent).1
  exact ⟨nextRevision_toNat hrevision, rfl, ⟨rfl, by simp [OrderedMap.get?_insert]⟩, hwellFormed⟩

theorem deleteRuleAt_accounted (hs : s.WellFormed)
    (h : s.deleteRuleAt id now = .ok (t, rule, event)) : s.Accounted t (some rule) event := by
  have hwellFormed := (deleteRuleAt_follows h).wellFormed hs
  obtain ⟨generation, revision, hrule, hrevision, _, rfl, rfl⟩ := deleteRuleAt_eq_ok h
  obtain rfl : rule.id = id := (hs.id_of_get? hrule).1
  exact ⟨nextRevision_toNat hrevision, rfl, ⟨rfl, hrule, by simp [OrderedMap.get?_erase]⟩, hwellFormed⟩

theorem setRuleEnabledAt_accounted (hs : s.WellFormed) {enabled : Bool}
    (h : s.setRuleEnabledAt id enabled now = .ok (t, rule, event)) :
    s.Accounted t (some rule) event := by
  have hwellFormed := (setRuleEnabledAt_follows h).wellFormed hs
  obtain ⟨current, generation, revision, hcurrent, hid, _, _, hrevision, _, rfl, rfl⟩ :=
    setRuleEnabledAt_eq_ok h
  obtain rfl : rule.id = id := hid.trans (hs.id_of_get? hcurrent).1
  exact ⟨nextRevision_toNat hrevision, rfl, ⟨rfl, by simp [OrderedMap.get?_insert]⟩, hwellFormed⟩

/-- What a call leaves behind: a change that is accounted for if it reports an event, and the
state it started from otherwise. -/
def AfterCall (s : State) (result : Except CoreError StateAnswer) (t : State) : Prop :=
  match result with
  | .error _ => t = s
  | .ok answer =>
    match answer.event with
    | none => t = s
    | some event => s.Accounted t answer.rule event

theorem afterCall_of_transaction {α : Type} {command : Mutation α}
    {result : Except CoreError (State × α)} {answer : α → StateAnswer}
    (h : Mutation.TransactionAt s command result)
    (hok : ∀ t a, result = .ok (t, a) → s.AfterCall (.ok (answer a)) t) :
    s.AfterCall ((command >>= fun a => pure (answer a)).exec s).1
      ((command >>= fun a => pure (answer a)).exec s).2 := by
  have hmap : (command >>= fun a => pure (answer a)).exec s =
      Mutation.settle s (result >>= fun done => .ok (done.1, answer done.2)) := h.map
  rw [hmap]
  cases result with
  | error e => rfl
  | ok done => exact hok done.1 done.2 rfl

theorem learnEndpoint_afterCall (hs : s.WellFormed) {endpoint : LearnedEndpoint}
    {draw : Uuid × Timestamp} {outcome : LearnOutcome}
    (h : s.learnEndpoint endpoint draw = .ok (t, outcome)) :
    s.AfterCall (.ok ⟨some outcome.rule, outcome.event⟩) t := by
  unfold learnEndpoint at h
  obtain ⟨-, h⟩ := Except.bind_unit_eq_ok_iff.mp h
  split at h
  · cases h
    rfl
  · obtain ⟨-, h⟩ := Except.bind_unit_eq_ok_iff.mp h
    obtain ⟨spec, rule, event, -, hcreate, rfl⟩ := insertLearnedEndpoint_eq_ok h
    exact createRuleAt_accounted hs hcreate

end State

/-- Calls on a valid state: an error, or an answer without an event, leaves every field as it
was; an answer with an event leaves a state that is one revision ahead and passes every check of
the validator but the one of the serialized size. -/
theorem mutators_preserve_validity (json : Serializer) (s : State)
    (hvalid : s.validate json = .ok ()) (call : StateCall) :
    s.AfterCall (call.run.exec s).1 (call.run.exec s).2 := by
  have hs := State.wellFormed_of_validate hvalid
  cases call with
  | setMode mode now =>
    exact State.afterCall_of_transaction (Mutation.setModeAt_isTransaction mode now s)
      fun t event h => State.setModeWithStrategyAt_accounted hs h
  | enforce strategy now =>
    exact State.afterCall_of_transaction
      (Mutation.setModeWithStrategyAt_isTransaction .enforcing strategy now s)
      fun t event h => State.setModeWithStrategyAt_accounted hs h
  | createRule id spec now =>
    exact State.afterCall_of_transaction (Mutation.createRuleAt_isTransaction id spec now s)
      fun t done h => State.createRuleAt_accounted hs h
  | updateRule id spec now =>
    exact State.afterCall_of_transaction (Mutation.updateRuleAt_isTransaction id spec now s)
      fun t done h => State.updateRuleAt_accounted hs h
  | deleteRule id now =>
    exact State.afterCall_of_transaction (Mutation.deleteRuleAt_isTransaction id now s)
      fun t done h => State.deleteRuleAt_accounted hs h
  | setRuleEnabled id enabled now =>
    exact State.afterCall_of_transaction
      (Mutation.setRuleEnabledAt_isTransaction id enabled now s)
      fun t done h => State.setRuleEnabledAt_accounted hs h
  | learnEndpoint endpoint draw =>
    exact State.afterCall_of_transaction (Mutation.learnEndpoint_isTransaction endpoint draw s)
      fun t outcome h => State.learnEndpoint_afterCall hs h

theorem mutators_preserve_validity_sample :
    State.new.validate Sample.json = .ok () ∧
      State.new.AfterCall ((StateCall.setMode .learning 0).run.exec State.new).1
        ((StateCall.setMode .learning 0).run.exec State.new).2 :=
  ⟨by decide, mutators_preserve_validity Sample.json State.new (by decide) (.setMode .learning 0)⟩

end OpenShield
