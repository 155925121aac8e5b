import OpenShield.Core.TemplateSize
import OpenShield.Daemon.Paging

/-!
# Messages that carry a rule

Requests, answers and events are sent in frames of a fixed maximal size. The limits on names,
paths and arguments leave room for the largest rule in every message that can carry one, even if
each of its characters has to be escaped.
-/

namespace OpenShield

open CompactJson

/-! ### Messages -/

def tagged (kind data : String) : String := object [("type", string kind), ("data", data)]

section Messages

variable (times : TimestampText)

def rulesPageJson (revision : BitVec 64) (rules : List Rule) (nextAfter : Option Uuid) : String :=
  tagged "rules_page" (object
    [("revision", toString revision.toNat), ("rules", array (rules.map (Rule.json times))),
      ("next_after", nullable (nextAfter.map fun id => string (Uuid.display id)))])

def ackJson (ack : Ack) : String :=
  tagged "ack" (object
    [("revision", toString ack.revision.toNat),
      ("affected_rule", nullable (ack.affectedRule.map (Rule.json times)))])

def EventKind.ruleEvent? : EventKind → Option (String × Rule)
  | .ruleCreated rule => some ("rule_created", rule)
  | .ruleUpdated rule => some ("rule_updated", rule)
  | .ruleDeleted rule => some ("rule_deleted", rule)
  | .ruleEnabledChanged rule => some ("rule_enabled_changed", rule)
  | .modeChanged .. | .countersUpdated _ => none

def eventJson (event : Event) (kind : String) (rule : Rule) : String :=
  tagged "event" (object
    [("revision", toString event.revision.toNat),
      ("occurred_at", string (times.text event.occurredAt)),
      ("kind", tagged kind (object [("rule", rule.json times)]))])

end Messages

def createRuleJson (expectedRevision : BitVec 64) (spec : RuleSpec) : String :=
  tagged "control" (tagged "create_rule" (object
    [("expected_revision", toString expectedRevision.toNat), ("rule", spec.json)]))

def updateRuleJson (expectedRevision : BitVec 64) (id : Uuid) (spec : RuleSpec) : String :=
  tagged "control" (tagged "update_rule" (object
    [("expected_revision", toString expectedRevision.toNat), ("id", string (Uuid.display id)),
      ("rule", spec.json)]))

/-! ### Sizes of fields -/

theorem utf8ByteSize_toString_le {n : ℕ} (digits : ℕ) (hdigits : 0 < digits)
    (h : n < 10 ^ digits) : (toString n).utf8ByteSize ≤ digits := by
  have hhex : ∀ c ∈ Text.hexCharacters, c.val ≤ 127 := List.all_iff_forall_prop.mp (by decide)
  have hascii : ∀ c ∈ (toString n).toList, c.val ≤ 127 := fun c hc =>
    hhex c (Text.mem_hexCharacters_of_mem_toDigits (by omega) (by omega) n c
      (Text.toList_toString n ▸ hc))
  rw [Text.utf8ByteSize_of_ascii hascii, Text.toList_toString]
  exact (Nat.length_toDigits_le_iff (by omega) hdigits).mpr h

theorem utf8ByteSize_revision_le (revision : BitVec 64) :
    (toString revision.toNat).utf8ByteSize ≤ 20 :=
  utf8ByteSize_toString_le 20 (by omega) (Nat.lt_trans revision.isLt (by omega))

theorem utf8ByteSize_toString_int_le (x : Int64) : (toString x.toInt).utf8ByteSize ≤ 20 := by
  have hlow := x.le_toInt
  have hhigh := x.toInt_lt
  cases hx : x.toInt with
  | ofNat n =>
    rw [hx, Int.ofNat_eq_natCast] at hhigh
    exact utf8ByteSize_toString_le 20 (by omega) (by omega)
  | negSucc n =>
    rw [hx] at hlow
    change ("-" ++ toString (n + 1)).utf8ByteSize ≤ 20
    have hnumber := @utf8ByteSize_toString_le (n + 1) 19 (by omega) (by omega)
    have hminus : "-".utf8ByteSize = 1 := by decide
    rw [String.utf8ByteSize_append]
    omega

theorem utf8ByteSize_string_le_of_safe {text : String} {bound : ℕ}
    (hsafe : text.toList.any isUnsafeTextCharacter = false) (hbound : text.utf8ByteSize ≤ bound) :
    (string text).utf8ByteSize ≤ 2 * bound + 2 := by
  have hdouble : (string text).utf8ByteSize ≤ 2 * text.utf8ByteSize + 2 := by
    refine utf8ByteSize_string_le_double fun c hc => ?_
    have hc := List.any_eq_false.mp hsafe c hc
    simp only [isUnsafeTextCharacter, Text.isControl, Bool.or_eq_true, decide_eq_true_eq,
      not_or] at hc
    omega
  omega

theorem utf8ByteSize_executable_le (path : ApplicationPath) :
    (string path.value).utf8ByteSize ≤ 8194 := by
  have hvalid := path.valid
  simp only [ApplicationPath.accepts, Bool.and_eq_true, Bool.not_eq_true', Bool.or_eq_false_iff]
    at hvalid
  exact utf8ByteSize_string_le_of_safe hvalid.2.1.2 (Serializer.utf8ByteSize_path_le path)

theorem utf8ByteSize_root_le (path : CgroupPath) : (string path.value).utf8ByteSize ≤ 2050 := by
  have hvalid := path.valid
  simp only [CgroupPath.accepts, Bool.not_eq_true', Bool.or_eq_false_iff] at hvalid
  exact utf8ByteSize_string_le_of_safe hvalid.1.2 (Serializer.utf8ByteSize_cgroup_le path)

theorem utf8ByteSize_name_le (name : RuleName) : (string name.value).utf8ByteSize ≤ 258 := by
  have hvalid := name.valid
  unfold RuleName.check at hvalid
  split_ifs at hvalid with hempty hlong hbad
  · cases hvalid
  · cases hvalid
  · cases hvalid
  · have hsize : name.value.utf8ByteSize ≤ 128 := not_lt.mp hlong
    have hdouble : (string name.value).utf8ByteSize ≤ 2 * name.value.utf8ByteSize + 2 := by
      refine utf8ByteSize_string_le_double fun c hc => ?_
      have hc := List.any_eq_false.mp (Bool.eq_false_of_not_eq_true (not_or.mp hbad).2) c hc
      simp only [isUnsafeRuleNameCharacter, Text.isControl, Bool.or_eq_true, decide_eq_true_eq,
        not_or] at hc
      omega
    omega

theorem utf8ByteSize_interface_le (interface : InterfaceName) :
    (string interface.value).utf8ByteSize ≤ 92 := by
  have hvalid := interface.valid
  simp only [InterfaceName.accepts, Bool.and_eq_true, Bool.not_eq_true', Bool.or_eq_false_iff]
    at hvalid
  have hsize : interface.value.utf8ByteSize ≤ 15 := not_lt.mp (of_decide_eq_false hvalid.1.2)
  have := utf8ByteSize_string_le interface.value
  omega

theorem utf8ByteSize_network_le (network : IpNet) :
    (string network.display).utf8ByteSize ≤ 278 := by
  have haddress (address : IpAddr) : address.display.utf8ByteSize ≤ 42 := by
    have hcharacters : ∀ c ∈ IpAddr.addressCharacters, c.val ≤ 127 :=
      List.all_iff_forall_prop.mp (by decide)
    rw [Text.utf8ByteSize_of_ascii fun c hc => hcharacters c (address.display_characters hc)]
    exact address.length_display_le
  have hdisplay (address : IpAddr) (length : ℕ) (hlength : length < 10 ^ 3) :
      (string (address.display ++ "/" ++ toString length)).utf8ByteSize ≤ 278 := by
    have := haddress address
    have := utf8ByteSize_toString_le 3 (by omega) hlength
    have hstring := utf8ByteSize_string_le (address.display ++ "/" ++ toString length)
    have hslash : "/".utf8ByteSize = 1 := by decide
    rw [String.utf8ByteSize_append, String.utf8ByteSize_append] at hstring
    omega
  cases network with
  | v4 addr length => exact hdisplay (.v4 addr) length (by omega)
  | v6 addr length => exact hdisplay (.v6 addr) length (by omega)

theorem sum_of_commandLineBytes {arguments : List CommandArgument} {total : ℕ}
    (h : commandLineBytes arguments = some total) :
    (arguments.map fun argument => argument.value.utf8ByteSize + 1).sum = total := by
  have hfold (start : ℕ) (h : arguments.foldlM (fun total argument => do
      checkedAddUsize (← checkedAddUsize total argument.value.utf8ByteSize) 1) start =
        some total) :
      start + (arguments.map fun argument => argument.value.utf8ByteSize + 1).sum = total := by
    clear * - h
    induction arguments generalizing start with
    | nil => simpa using h
    | cons argument rest ih =>
      rw [List.foldlM_cons] at h
      obtain ⟨next, hnext, h⟩ := Option.bind_eq_some_iff.mp h
      obtain ⟨middle, hmiddle, hlast⟩ := Option.bind_eq_some_iff.mp hnext
      simp only [checkedAddUsize, Option.ite_none_right_eq_some, Option.some.injEq] at hmiddle hlast
      have hrest := ih next h
      simp only [List.map_cons, List.sum_cons]
      omega
  have := hfold 0 h
  omega

theorem utf8ByteSize_arguments_le {selector : CommandLineSelector}
    (h : selector.validate = .ok ()) :
    (array (selector.arguments.map fun argument => string argument.value)).utf8ByteSize ≤
      49154 := by
  unfold CommandLineSelector.validate at h
  split_ifs at h with hcount hlong
  obtain ⟨total, htotal, hle⟩ : ∃ total, commandLineBytes selector.arguments = some total ∧
      total ≤ MAX_COMMAND_LINE_BYTES := by
    cases hbytes : commandLineBytes selector.arguments with
    | none => simp [hbytes] at hlong
    | some total => exact ⟨total, rfl, by simpa [hbytes] using hlong⟩
  have hsum := sum_of_commandLineBytes htotal
  have hstrings (arguments : List CommandArgument) :
      ((arguments.map fun argument => string argument.value).map String.utf8ByteSize).sum +
        arguments.length ≤
      6 * (arguments.map fun argument => argument.value.utf8ByteSize + 1).sum := by
    induction arguments with
    | nil => exact Nat.le_refl _
    | cons argument rest ih =>
      have := utf8ByteSize_string_le argument.value
      simp only [List.map_cons, List.sum_cons, List.length_cons] at ih ⊢
      omega
  have hall := hstrings selector.arguments
  have hopen : "[".utf8ByteSize = 1 := by decide
  have hclose : "]".utf8ByteSize = 1 := by decide
  rw [array, String.utf8ByteSize_append, String.utf8ByteSize_append, utf8ByteSize_intercalate,
    List.length_map, hopen, hclose]
  unfold MAX_COMMAND_LINE_BYTES at hle
  omega

theorem utf8ByteSize_nullable_le {α : Type} {value : Option α} {text : α → String} {bound : ℕ}
    (hbound : 4 ≤ bound) (h : ∀ a ∈ value, (text a).utf8ByteSize ≤ bound) :
    (nullable (value.map text)).utf8ByteSize ≤ bound := by
  cases value with
  | none => exact hbound
  | some a => exact h a rfl

theorem utf8ByteSize_file_json_le (file : ExecutableFileId) : file.json.utf8ByteSize ≤ 220 := by
  have := utf8ByteSize_revision_le file.device
  have := utf8ByteSize_revision_le file.inode
  have := utf8ByteSize_revision_le file.size
  have := utf8ByteSize_toString_int_le file.ctimeSeconds
  have := utf8ByteSize_toString_int_le file.ctimeNanoseconds
  refine utf8ByteSize_object_le_of_keys ?_ ?_
  · simp only [List.map_cons, List.map_nil]
    decide
  simp only [List.map_cons, List.map_nil, List.sum_cons, List.sum_nil]
  omega

theorem utf8ByteSize_port_json_le (port : PortRange) : port.json.utf8ByteSize ≤ 56 := by
  have hport (n : BitVec 16) : (toString n.toNat).utf8ByteSize ≤ 5 :=
    utf8ByteSize_toString_le 5 (by omega) (Nat.lt_trans n.isLt (by omega))
  have := hport port.start
  have := hport port.stop
  refine utf8ByteSize_object_le_of_keys ?_ ?_
  · simp only [List.map_cons, List.map_nil]
    decide
  simp only [List.map_cons, List.map_nil, List.sum_cons, List.sum_nil]
  omega

theorem utf8ByteSize_commandLine_json_le {selector : CommandLineSelector}
    (h : selector.validate = .ok ()) : selector.json.utf8ByteSize ≤ 49208 := by
  have := utf8ByteSize_arguments_le h
  have hkind : (string selector.kind.wireName).utf8ByteSize ≤ 8 := by
    cases selector.kind <;> decide
  refine utf8ByteSize_object_le_of_keys ?_ ?_
  · simp only [List.map_cons, List.map_nil]
    decide
  simp only [List.map_cons, List.map_nil, List.sum_cons, List.sum_nil]
  omega

theorem utf8ByteSize_selector_json_le {selector : ApplicationSelector}
    (h : selector.validate = .ok ()) :
    selector.json.utf8ByteSize ≤ 59821 := by
  have := @utf8ByteSize_nullable_le _ selector.executable _ 8194 (by omega)
    fun path _ => utf8ByteSize_executable_le path
  have := @utf8ByteSize_nullable_le _ selector.executableFile _ 220 (by omega)
    fun file _ => utf8ByteSize_file_json_le file
  have := @utf8ByteSize_nullable_le _ selector.commandLine CommandLineSelector.json 49208
    (by omega) fun commandLine hmem => utf8ByteSize_commandLine_json_le
      ((ApplicationSelector.parts_valid h).1 commandLine hmem)
  have := @utf8ByteSize_nullable_le _ selector.uid _ 10 (by omega) fun uid _ =>
    utf8ByteSize_toString_le 10 (by omega) (Nat.lt_trans uid.isLt (by omega))
  have := @utf8ByteSize_nullable_le _ selector.cgroup _ 2050 (by omega)
    fun path _ => utf8ByteSize_root_le path
  have : (boolean selector.metadataRedacted).utf8ByteSize ≤ 5 := by
    cases selector.metadataRedacted <;> decide
  refine utf8ByteSize_object_le_of_keys ?_ ?_
  · simp only [List.map_cons, List.map_nil]
    decide
  simp only [List.map_cons, List.map_nil, List.sum_cons, List.sum_nil]
  omega

/-- The largest specification. -/
theorem utf8ByteSize_ruleSpec_le {spec : RuleSpec} (h : spec.validate = .ok ()) :
    spec.json.utf8ByteSize ≤ 60800 := by
  have := utf8ByteSize_name_le spec.name
  have : (string spec.direction.wireName).utf8ByteSize ≤ 10 := by
    cases spec.direction <;> decide
  have : (string spec.action.wireName).utf8ByteSize ≤ 8 := by
    cases spec.action <;> decide
  have : (string spec.protocol.wireName).utf8ByteSize ≤ 9 := by
    cases spec.protocol <;> decide
  have : (string spec.origin.wireName).utf8ByteSize ≤ 10 := by
    cases spec.origin <;> decide
  have : (boolean spec.enabled).utf8ByteSize ≤ 5 := by
    cases spec.enabled <;> decide
  have := @utf8ByteSize_nullable_le _ spec.peerNetwork _ 278 (by omega)
    fun network _ => utf8ByteSize_network_le network
  have := @utf8ByteSize_nullable_le _ spec.port PortRange.json 56 (by omega)
    fun port _ => utf8ByteSize_port_json_le port
  have := @utf8ByteSize_nullable_le _ spec.interface _ 92 (by omega)
    fun interface _ => utf8ByteSize_interface_le interface
  have := @utf8ByteSize_nullable_le _ spec.application ApplicationSelector.json 59821 (by omega)
    fun application hmem => utf8ByteSize_selector_json_le
      (RuleSpec.application_valid h hmem).2
  unfold RuleSpec.json
  -- the action is only written if it is not the default one
  split
  all_goals
    refine utf8ByteSize_object_le_of_keys ?_ ?_
    · simp only [List.map_cons, List.map_nil, List.nil_append, List.cons_append]
      decide
    simp only [List.map_cons, List.map_nil, List.nil_append, List.cons_append, List.sum_cons,
      List.sum_nil]
    omega

section Messages

variable (times : TimestampText)

theorem utf8ByteSize_time_le (time : Timestamp) :
    (string (times.text time)).utf8ByteSize ≤ 386 := by
  have := utf8ByteSize_string_le (times.text time)
  have := times.short time
  omega

theorem utf8ByteSize_id (id : Uuid) : (string (Uuid.display id)).utf8ByteSize = 38 := by
  rw [utf8ByteSize_string_uuid, Serializer.utf8ByteSize_uuid]

theorem utf8ByteSize_rule_le {rule : Rule} (h : rule.spec.validate = .ok ()) :
    (rule.json times).utf8ByteSize ≤ 61700 := by
  have := utf8ByteSize_id rule.id
  have := utf8ByteSize_ruleSpec_le h
  have := utf8ByteSize_time_le times rule.createdAt
  have := utf8ByteSize_time_le times rule.updatedAt
  refine utf8ByteSize_object_le_of_keys ?_ ?_
  · simp only [List.map_cons, List.map_nil]
    decide
  simp only [List.map_cons, List.map_nil, List.sum_cons, List.sum_nil]
  omega

theorem utf8ByteSize_tagged_le {kind data : String} {bound : ℕ}
    (hkind : (string kind).utf8ByteSize ≤ 22) (hdata : data.utf8ByteSize ≤ bound) :
    (tagged kind data).utf8ByteSize ≤ bound + 68 := by
  refine utf8ByteSize_object_le_of_keys ?_ ?_
  · simp only [List.map_cons, List.map_nil]
    decide
  simp only [List.map_cons, List.map_nil, List.sum_cons, List.sum_nil]
  omega

/-- A valid rule fits a frame in every message that carries it, and so does its specification in
every request. -/
theorem valid_rule_fits {rule : Rule} (h : rule.validate = .ok ()) :
    (∀ revision nextAfter,
      (rulesPageJson times revision [rule] nextAfter).utf8ByteSize ≤ MAX_FRAME_SIZE) ∧
    (∀ revision, (ackJson times ⟨revision, some rule⟩).utf8ByteSize ≤ MAX_FRAME_SIZE) ∧
    (∀ event kind, event.kind.ruleEvent? = some (kind, rule) →
      (eventJson times event kind rule).utf8ByteSize ≤ MAX_FRAME_SIZE) ∧
    (∀ revision, (createRuleJson revision rule.spec).utf8ByteSize ≤ MAX_FRAME_SIZE) ∧
    ∀ revision id, (updateRuleJson revision id rule.spec).utf8ByteSize ≤ MAX_FRAME_SIZE := by
  have hspec := ((Rule.validate_eq_ok_iff rule).mp h).2.2
  have hsize := utf8ByteSize_ruleSpec_le hspec
  have hrule := utf8ByteSize_rule_le times hspec
  have hframe {kind data : String} (hkind : (string kind).utf8ByteSize ≤ 22)
      (hdata : data.utf8ByteSize ≤ 65000) : (tagged kind data).utf8ByteSize ≤ MAX_FRAME_SIZE :=
    Nat.le_trans (utf8ByteSize_tagged_le hkind hdata) (by decide)
  refine ⟨fun revision nextAfter => hframe (by decide) ?_, fun revision => hframe (by decide) ?_,
    fun event kind hkind => hframe (by decide) ?_, fun revision => hframe (by decide) ?_,
    fun revision id => hframe (by decide) ?_⟩
  · have := utf8ByteSize_revision_le revision
    have := @utf8ByteSize_nullable_le _ nextAfter _ 38 (by omega)
      fun id _ => Nat.le_of_eq (utf8ByteSize_id id)
    have hone : (array ([rule].map (Rule.json times))).utf8ByteSize =
        "[".utf8ByteSize + (rule.json times).utf8ByteSize + "]".utf8ByteSize := by
      simp only [array, List.map_cons, List.map_nil, String.intercalate_singleton,
        String.utf8ByteSize_append]
    have : "[".utf8ByteSize + "]".utf8ByteSize = 2 := by decide
    refine utf8ByteSize_object_le_of_keys ?_ ?_
    · simp only [List.map_cons, List.map_nil]
      decide
    simp only [List.map_cons, List.map_nil, List.sum_cons, List.sum_nil] at hone ⊢
    omega
  · have := utf8ByteSize_revision_le revision
    refine utf8ByteSize_object_le_of_keys ?_ ?_
    · simp only [List.map_cons, List.map_nil]
      decide
    simp only [List.map_cons, List.map_nil, List.sum_cons, List.sum_nil, Option.map_some, nullable]
    omega
  · have := utf8ByteSize_revision_le event.revision
    have := utf8ByteSize_time_le times event.occurredAt
    have hname : (string kind).utf8ByteSize ≤ 22 := by
      cases hevent : event.kind with
      | modeChanged | countersUpdated =>
        rw [hevent] at hkind
        cases hkind
      | ruleCreated | ruleUpdated | ruleDeleted | ruleEnabledChanged =>
        rw [hevent] at hkind
        cases hkind
        decide
    have hone : (object [("rule", rule.json times)]).utf8ByteSize ≤ 61724 := by
      refine utf8ByteSize_object_le_of_keys ?_ ?_
      · simp only [List.map_cons, List.map_nil]
        decide
      simp only [List.map_cons, List.map_nil, List.sum_cons, List.sum_nil]
      omega
    have := utf8ByteSize_tagged_le hname hone
    refine utf8ByteSize_object_le_of_keys ?_ ?_
    · simp only [List.map_cons, List.map_nil]
      decide
    simp only [List.map_cons, List.map_nil, List.sum_cons, List.sum_nil]
    omega
  · have := utf8ByteSize_revision_le revision
    refine Nat.le_trans (utf8ByteSize_tagged_le (by decide)
      (utf8ByteSize_object_le_of_keys ?_ (Nat.le_refl _))) ?_
    · simp only [List.map_cons, List.map_nil]
      decide
    simp only [List.map_cons, List.map_nil, List.sum_cons, List.sum_nil]
    omega
  · have := utf8ByteSize_revision_le revision
    have := utf8ByteSize_id id
    refine Nat.le_trans (utf8ByteSize_tagged_le (by decide)
      (utf8ByteSize_object_le_of_keys ?_ (Nat.le_refl _))) ?_
    · simp only [List.map_cons, List.map_nil]
      decide
    simp only [List.map_cons, List.map_nil, List.sum_cons, List.sum_nil]
    omega

/-- A page with one small rule. -/
theorem valid_rule_fits_sample :
    let rule := Sample.rule .outbound .accept (some Sample.selector)
    rule.validate = .ok () ∧
      (rulesPageJson Sample.noTimes 7 [rule] none).utf8ByteSize ≤ MAX_FRAME_SIZE :=
  ⟨by decide +kernel, (valid_rule_fits Sample.noTimes (by decide +kernel)).1 7 none⟩

end Messages

end OpenShield
