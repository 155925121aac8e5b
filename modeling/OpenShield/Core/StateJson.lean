import OpenShield.Core.LearnedRules
import OpenShield.Data.Json

/-!
# The serialized state

The compact JSON that states and rules are stored as, field by field in the order of their
declarations. Fields with a default that older versions do not know, the action `accept` and the
strategy `strict`, are left out. Only the text of times is not spelled out.
-/

namespace OpenShield

open CompactJson

/-- How times are written. -/
structure TimestampText where
  text : Timestamp → String
  short : ∀ time, (text time).utf8ByteSize ≤ 64

/-! ### Enumerations -/

def Mode.wireName : Mode → String
  | .blockAll => "block_all"
  | .learning => "learning"
  | .enforcing => "enforcing"

def EnforcementStrategy.wireName : EnforcementStrategy → String
  | .strict => "strict"
  | .fast => "fast"

def Direction.wireName : Direction → String
  | .inbound => "inbound"
  | .outbound => "outbound"

def TransportProtocol.wireName : TransportProtocol → String
  | .any => "any"
  | .tcp => "tcp"
  | .udp => "udp"
  | .icmp => "icmp"
  | .icmpV6 => "icmp_v6"

def RuleOrigin.wireName : RuleOrigin → String
  | .manual => "manual"
  | .learned => "learned"
  | .template => "template"

def RuleAction.wireName : RuleAction → String
  | .accept => "accept"
  | .drop => "drop"
  | .reject => "reject"

def CommandLineMatch.wireName : CommandLineMatch → String
  | .exactMatch => "exact"
  | .prefixMatch => "prefix"

/-! ### Records -/

def PortRange.json (port : PortRange) : String :=
  object [("start", toString port.start.toNat), ("end", toString port.stop.toNat)]

def ExecutableFileId.json (file : ExecutableFileId) : String :=
  object
    [("device", toString file.device.toNat), ("inode", toString file.inode.toNat),
      ("size", toString file.size.toNat), ("ctime_seconds", toString file.ctimeSeconds.toInt),
      ("ctime_nanoseconds", toString file.ctimeNanoseconds.toInt)]

def CommandLineSelector.json (selector : CommandLineSelector) : String :=
  object
    [("kind", string selector.kind.wireName),
      ("arguments", array (selector.arguments.map fun argument => string argument.value))]

def ApplicationSelector.json (selector : ApplicationSelector) : String :=
  object
    [("executable", nullable (selector.executable.map fun path => string path.value)),
      ("executable_file", nullable (selector.executableFile.map ExecutableFileId.json)),
      ("command_line", nullable (selector.commandLine.map CommandLineSelector.json)),
      ("uid", nullable (selector.uid.map fun uid => toString uid.toNat)),
      ("cgroup", nullable (selector.cgroup.map fun path => string path.value)),
      ("metadata_redacted", boolean selector.metadataRedacted)]

def RuleSpec.json (spec : RuleSpec) : String :=
  object
    ([("name", string spec.name.value), ("direction", string spec.direction.wireName)] ++
      (if spec.action = .accept then [] else [("action", string spec.action.wireName)]) ++
      [("protocol", string spec.protocol.wireName),
        ("peer_network", nullable (spec.peerNetwork.map fun network => string network.display)),
        ("port", nullable (spec.port.map PortRange.json)),
        ("interface", nullable (spec.interface.map fun interface => string interface.value)),
        ("application", nullable (spec.application.map ApplicationSelector.json)),
        ("origin", string spec.origin.wireName), ("enabled", boolean spec.enabled)])

def Rule.json (times : TimestampText) (rule : Rule) : String :=
  object
    [("id", string (Uuid.display rule.id)), ("spec", rule.spec.json),
      ("created_at", string (times.text rule.createdAt)),
      ("updated_at", string (times.text rule.updatedAt))]

def rulesJson (times : TimestampText) (rules : OrderedMap Uuid Rule) : String :=
  object (rules.entries.map fun entry => (Uuid.display entry.1, entry.2.json times))

def State.members (s : State) (revision rules : String) : List (String × String) :=
  [("revision", revision), ("flow_generation", toString s.flowGeneration.toNat),
    ("mode", string s.mode.wireName)] ++
    (if s.enforcementStrategy = .strict then []
      else [("enforcement_strategy", string s.enforcementStrategy.wireName)]) ++
    [("rules", rules)]

def State.json (times : TimestampText) (s : State) : String :=
  object (s.members (toString s.revision.toNat) (rulesJson times s.rules))

def Serializer.compact (times : TimestampText) : Serializer :=
  { stateSize := fun s => (s.json times).utf8ByteSize
    ruleSize := fun rule => (rule.json times).utf8ByteSize }

/-! ### Identifiers -/

theorem Uuid.display_characters (id : Uuid) {c : Char} (h : c ∈ (Uuid.display id).toList) :
    c ∈ Text.hexCharacters ++ ['-'] := by
  have hdigit : ∀ d ∈ (List.range 32).map fun i => Nat.digitChar (id.val / 16 ^ (31 - i) % 16),
      d ∈ Text.hexCharacters := by
    intro d hd
    obtain ⟨i, -, rfl⟩ := List.mem_map.mp hd
    exact Text.digitChar_mem (Nat.mod_lt _ (by omega))
  simp only [Uuid.display, String.toList_intercalate, List.map_cons, List.map_nil,
    String.toList_ofList] at h
  rcases IpAddr.mem_intercalate h with rfl | ⟨word, hword, hc⟩
  · decide
  · refine List.mem_append_left _ (hdigit c ?_)
    simp only [List.mem_cons, List.not_mem_nil, or_false] at hword
    rcases hword with rfl | rfl | rfl | rfl | rfl <;>
      exact List.mem_of_mem_drop (List.mem_of_mem_take hc)

theorem utf8ByteSize_string_uuid (id : Uuid) :
    (string (Uuid.display id)).utf8ByteSize = (Uuid.display id).utf8ByteSize + 2 :=
  utf8ByteSize_string_of_plain fun c hc =>
    (List.all_iff_forall_prop.mp (by decide) : ∀ d ∈ Text.hexCharacters ++ ['-'], escape d = [d]) c
      (Uuid.display_characters id hc)

/-! ### Sizes of states -/

namespace Serializer

variable (times : TimestampText)

theorem utf8ByteSize_members (s : State) (revision rules : String) :
    (object (s.members revision rules)).utf8ByteSize =
      (object (s.members "" "")).utf8ByteSize + revision.utf8ByteSize + rules.utf8ByteSize := by
  have hempty : "".utf8ByteSize = 0 := rfl
  rw [utf8ByteSize_object, utf8ByteSize_object]
  unfold State.members
  generalize (if s.enforcementStrategy = .strict then []
    else [("enforcement_strategy", string s.enforcementStrategy.wireName)]) = strategy
  simp only [membersSize, utf8ByteSize_member, List.map_append, List.map_cons, List.map_nil,
    List.sum_append, List.sum_cons, List.sum_nil, List.length_append, List.length_cons,
    List.length_nil, hempty]
  omega

theorem compact_stateSize (s : State) :
    (compact times).stateSize s = (object (s.members "" "")).utf8ByteSize +
      (toString s.revision.toNat).utf8ByteSize + (rulesJson times s.rules).utf8ByteSize :=
  utf8ByteSize_members s _ _

theorem utf8ByteSize_rulesJson_insert {rules : OrderedMap Uuid Rule} {rule : Rule}
    (hfree : rules.get? rule.id = none) :
    (rulesJson times (rules.insert rule.id rule)).utf8ByteSize =
      (rulesJson times rules).utf8ByteSize +
        ((Uuid.display rule.id).utf8ByteSize + 3 + (rule.json times).utf8ByteSize) +
        if rules.size ≠ 0 then 1 else 0 := by
  have hentries : (rules.insert rule.id rule).entries.Perm ((rule.id, rule) :: rules.entries) :=
    OrderedMap.insertEntry_perm rule ((rules.get?_eq_none_iff rule.id).mp hfree)
  have hmembers := hentries.map fun entry : Uuid × Rule =>
    (Uuid.display entry.1, entry.2.json times)
  have hcomma : (if rules.entries.map (fun entry : Uuid × Rule =>
      (Uuid.display entry.1, entry.2.json times)) = [] then 0 else 1) =
      if rules.size ≠ 0 then 1 else 0 := by
    rw [OrderedMap.size]
    cases rules.entries <;> simp
  rw [rulesJson, rulesJson, utf8ByteSize_object_cons hmembers, utf8ByteSize_member,
    utf8ByteSize_string_uuid, hcomma]

theorem compact_ruleSize (rule : Rule) :
    (compact times).ruleSize rule = (rule.json times).utf8ByteSize := rfl

theorem members_withRule (s : State) (rule : Rule) : (s.withRule rule).members = s.members := rfl

theorem compact_stateSize_withRule {s : State} {rule : Rule}
    (hfree : s.rules.get? rule.id = none) :
    (compact times).stateSize (s.withRule rule) + (toString s.revision.toNat).utf8ByteSize =
      (compact times).stateSize s + ((compact times).ruleSize rule +
        ((Uuid.display rule.id).utf8ByteSize + 3) + (if s.rules.size ≠ 0 then 1 else 0) +
        (toString (s.revision + 1).toNat).utf8ByteSize) := by
  have hrules := utf8ByteSize_rulesJson_insert times hfree
  have hrevision : (s.withRule rule).revision = s.revision + 1 := rfl
  have hmap : (s.withRule rule).rules = s.rules.insert rule.id rule := rfl
  rw [compact_stateSize, compact_stateSize, members_withRule, hrevision, hmap, hrules,
    compact_ruleSize]
  omega

/-! ### Sizes of skeletons -/

theorem utf8ByteSize_uuid (id : Uuid) : (Uuid.display id).utf8ByteSize = 36 := by
  have hascii : ∀ c ∈ (Uuid.display id).toList, c.val ≤ 127 := fun c hc =>
    (List.all_iff_forall_prop.mp (by decide) : ∀ d ∈ Text.hexCharacters ++ ['-'], d.val ≤ 127) c (Uuid.display_characters id hc)
  rw [Text.utf8ByteSize_of_ascii hascii]
  simp [Uuid.display]

theorem utf8ByteSize_path_le (path : ApplicationPath) : path.value.utf8ByteSize ≤ 4096 := by
  have hvalid := path.valid
  simp only [ApplicationPath.accepts, Bool.and_eq_true, Bool.not_eq_true', Bool.or_eq_false_iff]
    at hvalid
  exact not_lt.mp (of_decide_eq_false hvalid.1.2)

theorem utf8ByteSize_cgroup_le (path : CgroupPath) : path.value.utf8ByteSize ≤ 1024 := by
  have hvalid := path.valid
  simp only [CgroupPath.accepts, Bool.not_eq_true', Bool.or_eq_false_iff] at hvalid
  exact not_lt.mp (of_decide_eq_false hvalid.1.1.1.2)

theorem utf8ByteSize_selector_le (key : ApplicationTemplateKey) :
    key.selector.json.utf8ByteSize ≤ 2 ^ 18 := by
  have hexecutable : (string key.executable.value).utf8ByteSize ≤ 2 ^ 15 := by
    have := utf8ByteSize_string_le key.executable.value
    have := utf8ByteSize_path_le key.executable
    omega
  have hcgroup : (nullable (key.cgroup.map fun path : CgroupPath =>
      string path.value)).utf8ByteSize ≤ 2 ^ 15 := by
    cases key.cgroup with
    | none => decide
    | some path =>
      have := utf8ByteSize_string_le path.value
      have := utf8ByteSize_cgroup_le path
      change (string path.value).utf8ByteSize ≤ _
      omega
  refine Nat.le_trans (utf8ByteSize_object_le 6 (2 ^ 15 + 200) rfl ?_) (by decide)
  simp only [ApplicationTemplateKey.selector, List.forall_mem_cons]
  have hmember {name value : String} (hname : name.utf8ByteSize ≤ 20)
      (hvalue : value.utf8ByteSize ≤ 2 ^ 15) :
      (member name value).utf8ByteSize ≤ 2 ^ 15 + 200 :=
    Nat.le_trans (utf8ByteSize_member_le hname hvalue) (by decide)
  exact ⟨hmember (by decide) hexecutable, hmember (by decide) (by decide),
    hmember (by decide) (by decide), hmember (by decide) (by decide), hmember (by decide) hcgroup,
    hmember (by decide) (by decide), List.forall_mem_nil _⟩

/-- Skeletons are small. -/
theorem compact_ruleSize_template_le (key : ApplicationTemplateKey) (draw : Uuid × Timestamp) :
    (compact times).ruleSize ((templateSpec key).created draw) ≤ 2 ^ 25 := by
  have hselector := utf8ByteSize_selector_le key
  have hspec : (templateSpec key).json.utf8ByteSize ≤ 2 ^ 22 := by
    refine Nat.le_trans (utf8ByteSize_object_le 9 (2 ^ 18 + 200) rfl ?_) (by decide)
    have hmember {name value : String} (hname : name.utf8ByteSize ≤ 20)
        (hvalue : value.utf8ByteSize ≤ 2 ^ 18) :
        (member name value).utf8ByteSize ≤ 2 ^ 18 + 200 :=
      Nat.le_trans (utf8ByteSize_member_le hname hvalue) (by decide)
    simp only [templateSpec, if_true, List.append_nil, List.cons_append, List.nil_append,
      List.forall_mem_cons]
    exact ⟨hmember (by decide) (by decide), hmember (by decide) (by decide),
      hmember (by decide) (by decide), hmember (by decide) (by decide),
      hmember (by decide) (by decide), hmember (by decide) (by decide),
      hmember (by decide) hselector, hmember (by decide) (by decide),
      hmember (by decide) (by decide), List.forall_mem_nil _⟩
  have htime (time : Timestamp) : (string (times.text time)).utf8ByteSize ≤ 2 ^ 22 := by
    have := utf8ByteSize_string_le (times.text time)
    have := times.short time
    omega
  have hid : (string (Uuid.display draw.1)).utf8ByteSize ≤ 2 ^ 22 := by
    have := utf8ByteSize_string_uuid draw.1
    have := utf8ByteSize_uuid draw.1
    omega
  have hmember {name value : String} (hname : name.utf8ByteSize ≤ 20)
      (hvalue : value.utf8ByteSize ≤ 2 ^ 22) :
      (member name value).utf8ByteSize ≤ 2 ^ 22 + 200 :=
    Nat.le_trans (utf8ByteSize_member_le hname hvalue) (by decide)
  rw [compact_ruleSize]
  refine Nat.le_trans (utf8ByteSize_object_le 4 (2 ^ 22 + 200) rfl ?_) (by decide)
  simp only [RuleSpec.created, List.forall_mem_cons]
  exact ⟨hmember (by decide) hid, hmember (by decide) hspec, hmember (by decide) (htime _),
    hmember (by decide) (htime _), List.forall_mem_nil _⟩

end Serializer

end OpenShield
