import OpenShield.Core.State

/-!
# What validation guarantees

Validation is a sequence of checks that stops at the first failure. Here each validator is
read as the conjunction of what it checks, and valid snapshots get a type of their own: it is
the type of everything that a compiler ever prints.
-/

namespace OpenShield

structure PolicyRuleValid (rule : Rule) : Prop where
  id_ne_zero : rule.id ≠ 0
  times : rule.createdAt ≤ rule.updatedAt
  spec : rule.spec.validate = .ok ()
  unredacted : rule.spec.application.any (·.metadataRedacted) = false
  pinned : ¬(rule.spec.application.any (·.executableFile.isNone) = true ∧
    isUnpinnedApplicationTemplate rule.spec = false)

theorem liftValidation_eq_ok_iff {α : Type} {x : Except ValidationError α} {a : α} :
    liftValidation x = .ok a ↔ x = .ok a := by
  cases x <;> simp [liftValidation]

theorem Rule.validate_eq_ok_iff (rule : Rule) :
    rule.validate = .ok () ↔
      rule.id ≠ 0 ∧ rule.createdAt ≤ rule.updatedAt ∧ rule.spec.validate = .ok () := by
  unfold Rule.validate
  split_ifs with hid htime
  · simp [hid]
  · simp [htime]
  · simp [hid, not_lt.mp htime]

theorem RuleSpec.application_valid {spec : RuleSpec} {application : ApplicationSelector}
    (h : spec.validate = .ok ()) (happlication : application ∈ spec.application) :
    spec.direction = .outbound ∧ application.validate = .ok () := by
  unfold RuleSpec.validate at h
  rw [Option.mem_def.mp happlication] at h
  split_ifs at h with _ _ _ _ hinbound
  constructor
  · cases hdirection : spec.direction with
    | outbound => rfl
    | inbound => exact absurd ⟨hdirection, nofun⟩ hinbound
  · cases hcheck : application.validate with
    | ok => rfl
    | error error => simp [hcheck, liftApplication] at h

theorem ApplicationSelector.parts_valid {selector : ApplicationSelector}
    (h : selector.validate = .ok ()) :
    (∀ commandLine ∈ selector.commandLine, commandLine.validate = .ok ()) ∧
      (selector.metadataRedacted = false → selector.executable ≠ none) := by
  unfold ApplicationSelector.validate at h
  split_ifs at h with hredacted hempty hexecutable
  · simp [hempty.2.2.1, hredacted]
  · refine ⟨fun commandLine hmem => ?_, fun _ => hexecutable⟩
    cases hfile : selector.executableFile with
    | none =>
      rw [hfile, Option.mem_def.mp hmem] at h
      exact h
    | some file =>
      rw [hfile, Option.mem_def.mp hmem] at h
      exact (Except.bind_unit_eq_ok_iff.mp h).2

theorem Rule.withIdAndTime_eq_ok {id : Uuid} {spec : RuleSpec} {now : Timestamp} {rule : Rule}
    (h : Rule.withIdAndTime id spec now = .ok rule) :
    spec.validate = .ok () ∧ id ≠ 0 ∧ rule = { id, spec, createdAt := now, updatedAt := now } := by
  unfold Rule.withIdAndTime at h
  obtain ⟨hspec, h⟩ := Except.bind_unit_eq_ok_iff.mp h
  split_ifs at h with hid
  · cases h
  · cases h
    exact ⟨hspec, hid, rfl⟩

theorem validatePolicyRule_eq_ok_iff (rule : Rule) :
    validatePolicyRule rule = .ok () ↔ PolicyRuleValid rule := by
  simp only [validatePolicyRule, rejectRedactedSpec, rejectUnpinnedApplicationSpec,
    Except.bind_unit_eq_ok_iff, liftValidation_eq_ok_iff, Rule.validate_eq_ok_iff,
    ensure_eq_ok_iff]
  constructor
  · rintro ⟨⟨hid, htimes, hspec⟩, hredacted, hpinned⟩
    exact ⟨hid, htimes, hspec, hredacted, hpinned⟩
  · rintro ⟨hid, htimes, hspec, hredacted, hpinned⟩
    exact ⟨⟨hid, htimes, hspec⟩, hredacted, hpinned⟩

theorem forall_fresh_cons_iff {P : Rule → Prop} {ids : List Uuid} {rule : Rule} {rest : List Rule} :
    (∀ other ∈ rule :: rest, P other ∧ other.id ∉ ids) ∧ ((rule :: rest).map Rule.id).Nodup ↔
      (P rule ∧ rule.id ∉ ids) ∧ (∀ other ∈ rest, P other ∧ other.id ∉ rule.id :: ids) ∧
        (rest.map Rule.id).Nodup := by
  rw [List.map_cons, List.nodup_cons, List.forall_mem_cons]
  constructor
  · rintro ⟨⟨hrule, hrest⟩, hfresh, hnodup⟩
    refine ⟨hrule, fun other hother => ⟨(hrest other hother).1, fun h => ?_⟩, hnodup⟩
    rcases List.mem_cons.mp h with heq | h
    · exact hfresh (heq ▸ List.mem_map_of_mem hother)
    · exact (hrest other hother).2 h
  · rintro ⟨hrule, hrest, hnodup⟩
    refine ⟨⟨hrule, fun other hother => (hrest other hother).imp_right ?_⟩, fun hmem => ?_, hnodup⟩
    · exact fun h hmem => h (List.mem_cons_of_mem _ hmem)
    · obtain ⟨other, hother, heq⟩ := List.mem_map.mp hmem
      exact (hrest other hother).2 (heq ▸ List.mem_cons_self)

/-- The scan over the rules of a snapshot: every rule is valid, and no identifier repeats or
was seen before. -/
theorem validateSnapshotRules_eq_ok_iff (ids : List Uuid) (rules : List Rule) :
    validateSnapshotRules ids rules = .ok () ↔
      (∀ rule ∈ rules, PolicyRuleValid rule ∧ rule.id ∉ ids) ∧
        (rules.map Rule.id).Nodup := by
  induction rules generalizing ids with
  | nil => simp [validateSnapshotRules]
  | cons rule rest ih =>
    rw [forall_fresh_cons_iff]
    simp only [validateSnapshotRules, Except.bind_unit_eq_ok_iff, validatePolicyRule_eq_ok_iff,
      ensure_eq_ok_iff, ih, and_assoc]

theorem Snapshot.validate_eq_ok_iff (snapshot : Snapshot) :
    snapshot.validate = .ok () ↔
      snapshot.rules.length ≤ MAX_RULES ∧
        validFlowGeneration snapshot.flowGeneration = true ∧
        (∀ rule ∈ snapshot.rules, PolicyRuleValid rule) ∧
        (snapshot.rules.map Rule.id).Nodup := by
  simp [Snapshot.validate, Except.bind_unit_eq_ok_iff, validateSnapshotRules_eq_ok_iff]

structure ValidSnapshot extends Snapshot where
  valid : toSnapshot.validate = .ok ()

namespace ValidSnapshot

variable (snapshot : ValidSnapshot)

theorem rule_valid {rule : Rule} (h : rule ∈ snapshot.rules) : PolicyRuleValid rule :=
  ((Snapshot.validate_eq_ok_iff _).mp snapshot.valid).2.2.1 rule h

theorem validFlowGeneration : validFlowGeneration snapshot.flowGeneration = true :=
  ((Snapshot.validate_eq_ok_iff _).mp snapshot.valid).2.1

theorem ids_nodup : (snapshot.rules.map Rule.id).Nodup :=
  ((Snapshot.validate_eq_ok_iff _).mp snapshot.valid).2.2.2

theorem eq_of_id_eq {a b : Rule} (ha : a ∈ snapshot.rules) (hb : b ∈ snapshot.rules)
    (h : a.id = b.id) : a = b :=
  List.inj_on_of_nodup_map snapshot.ids_nodup ha hb h

end ValidSnapshot

theorem State.validateEntries_eq_ok_iff (entries : List (Uuid × Rule)) :
    State.validateEntries entries = .ok () ↔
      ∀ entry ∈ entries, entry.1 = entry.2.id ∧ PolicyRuleValid entry.2 := by
  induction entries with
  | nil => simp [State.validateEntries]
  | cons entry rest ih =>
    simp [State.validateEntries, Except.bind_unit_eq_ok_iff, validatePolicyRule_eq_ok_iff, ih,
      and_assoc]

theorem State.validate_eq_ok_iff (json : Serializer) (s : State) :
    s.validate json = .ok () ↔
      s.rules.size ≤ MAX_RULES ∧ validFlowGeneration s.flowGeneration = true ∧
        (∀ entry ∈ s.rules.entries, entry.1 = entry.2.id ∧ PolicyRuleValid entry.2) ∧
        json.stateSize s ≤ MAX_STATE_BYTES := by
  have hsize : (∃ size, boundedSerializedStateSize json s = .ok size) ↔
      json.stateSize s ≤ MAX_STATE_BYTES := by
    unfold boundedSerializedStateSize
    split_ifs with h
    · simpa using h
    · simpa using not_lt.mp h
  simp only [State.validate, Except.bind_unit_eq_ok_iff, ensure_eq_ok_iff,
    State.validateEntries_eq_ok_iff, ← hsize]
  simp only [Except.bind_eq_ok_iff, pure, Except.pure, and_true]

/-- What validation checks, except for the serialized size. -/
structure State.WellFormed (s : State) : Prop where
  size : s.rules.size ≤ MAX_RULES
  generation : validFlowGeneration s.flowGeneration = true
  entries : ∀ entry ∈ s.rules.entries, entry.1 = entry.2.id ∧ PolicyRuleValid entry.2

theorem State.wellFormed_of_validate {json : Serializer} {s : State}
    (h : s.validate json = .ok ()) : s.WellFormed := by
  obtain ⟨hsize, hgeneration, hentries, -⟩ := (State.validate_eq_ok_iff json s).mp h
  exact ⟨hsize, hgeneration, hentries⟩

theorem State.WellFormed.snapshot_validate {s : State} (h : s.WellFormed) :
    s.snapshot.validate = .ok () := by
  have hids : s.rules.values.map Rule.id = s.rules.entries.map Prod.fst := by
    rw [OrderedMap.values, List.map_map]
    exact List.map_congr_left fun entry hentry => (h.entries entry hentry).1.symm
  rw [Snapshot.validate_eq_ok_iff]
  refine ⟨?_, h.generation, fun rule hrule => ?_, ?_⟩
  · simpa [State.snapshot, OrderedMap.values, OrderedMap.size] using h.size
  · obtain ⟨entry, hentry, rfl⟩ := List.mem_map.mp hrule
    exact (h.entries entry hentry).2
  · -- the keys of the map are strictly sorted
    show (s.rules.values.map Rule.id).Nodup
    rw [hids]
    exact List.pairwise_map.mpr (s.rules.sorted.imp fun hlt => ne_of_lt hlt)

def State.WellFormed.validSnapshot {s : State} (h : s.WellFormed) : ValidSnapshot :=
  ⟨s.snapshot, h.snapshot_validate⟩

/-! ### A small policy

One rule about TCP. The results about policies are instantiated with it. -/

namespace Sample

theorem accepts_a : ApplicationPath.accepts "/a" = true := by decide +kernel

theorem accepts_b : ApplicationPath.accepts "/b" = true := by decide +kernel

theorem accepts_e : InterfaceName.accepts "e" = true := by decide +kernel

def selector : ApplicationSelector :=
  { executable := some ⟨"/a", Sample.accepts_a⟩
    executableFile := some ⟨1, 1, 1, 0, 0⟩
    commandLine := none
    uid := none
    cgroup := none
    metadataRedacted := false }

def rule (direction : Direction) (action : RuleAction)
    (application : Option ApplicationSelector) : Rule :=
  { id := 1
    spec :=
      { name := ⟨"r", by decide +kernel⟩
        direction
        action
        protocol := .tcp
        peerNetwork := none
        port := none
        interface := none
        application
        origin := .manual
        enabled := true }
    createdAt := 0
    updatedAt := 0 }

def snapshot (mode : Mode) (r : Rule) : Snapshot :=
  { revision := 0, flowGeneration := 1, mode, rules := [r] }

def applicationDeny (mode : Mode) : ValidSnapshot :=
  ⟨snapshot mode (rule .outbound .drop (some selector)), by cases mode <;> decide +kernel⟩

def networkDeny (mode : Mode) : ValidSnapshot :=
  ⟨snapshot mode (rule .outbound .drop none), by cases mode <;> decide +kernel⟩

def inboundAccept (mode : Mode) : ValidSnapshot :=
  ⟨snapshot mode (rule .inbound .accept none), by cases mode <;> decide +kernel⟩

end Sample

end OpenShield
