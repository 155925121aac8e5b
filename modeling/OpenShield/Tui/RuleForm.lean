import OpenShield.Core.Validity
import OpenShield.Data.JsonText
import OpenShield.Data.TextLength

/-!
# The rule editor

The editor shows a rule as texts and reads the texts back when it is saved. Surrounding white
space is dropped from every field. Arguments are shown as JSON in which no character can disturb
a terminal.
-/

namespace OpenShield

/-! ### Arguments -/

/-- Why a form was refused: the key of a message, and the text that is filled into it. -/
structure FormError where
  key : String
  error : Option String
  deriving DecidableEq

def hex04 (code : ℕ) : List Char :=
  List.replicate (4 - (Nat.toDigits 16 code).length) '0' ++ Nat.toDigits 16 code

def CommandArgument.displayCharacter (c : Char) : List Char :=
  match c.toNat with
  | 0x5c | 0x22 => [JsonText.backslash, c]
  | 0x0a => [JsonText.backslash, 'n']
  | 0x0d => [JsonText.backslash, 'r']
  | 0x09 => [JsonText.backslash, 't']
  | 0x08 => [JsonText.backslash, 'b']
  | 0x0c => [JsonText.backslash, 'f']
  | code =>
    if isUnsafeTextCharacter c || code = 0x2028 || code = 0x2029 then
      JsonText.backslash :: 'u' :: hex04 code
    else [c]

def CommandArgument.display (argument : CommandArgument) : String :=
  String.ofList (JsonText.written displayCharacter argument.value)

def commandArgumentsJson (arguments : List CommandArgument) : String :=
  "[" ++ String.intercalate "," (arguments.map CommandArgument.display) ++ "]"

def CommandArgument.fromValue : Option String → Except FormError CommandArgument
  | none => .error ⟨"validation.arguments_strings", none⟩
  | some text => (CommandArgument.new text).mapError fun error =>
    ⟨"validation.invalid_arguments", some error.message⟩

/-- Read arguments. How far a value reaches that is not a string is up to the JSON library. -/
def parseCommandArguments (skipOther : List Char → Option (List Char)) (value : String) :
    Except FormError (List CommandArgument) :=
  match JsonText.readArray skipOther value.toList with
  | none => .error ⟨"validation.arguments_json", none⟩
  | some values => values.mapM CommandArgument.fromValue

namespace CommandArgument

theorem code_of_escaped {c : Char}
    (h : (isUnsafeTextCharacter c || c.toNat = 0x2028 || c.toNat = 0x2029) = true) :
    c.toNat < 0xd800 ∨ c.toNat = 0xfeff := by
  simp only [isUnsafeTextCharacter, Text.isControl, Text.isDirectional, Bool.or_eq_true,
    Bool.and_eq_true, decide_eq_true_eq, List.mem_cons, List.not_mem_nil, or_false] at h
  omega

theorem readUnit_hex04 {code : ℕ} (h : code < 16 ^ 4) (rest : List Char) :
    JsonText.readUnit (hex04 code ++ rest) = some (code, rest) := by
  have hlength : (hex04 code).length = 4 := by
    have := (Nat.length_toDigits_le_iff (show 1 < 16 by omega) (show 0 < 4 by omega)).mpr h
    simp only [hex04, List.length_append, List.length_replicate]
    omega
  have hvalue : Text.digitsValue 16 (hex04 code) = some code := by
    rw [hex04, Text.digitsValue_zeros (by omega), Text.digitsValue_toDigits (by omega) (by omega)]
  obtain ⟨a, b, c, d, hdigits⟩ := List.length_eq_four.mp hlength
  rw [hdigits] at hvalue ⊢
  simp [JsonText.readUnit, hvalue]

theorem readUnicode_hex04 {c : Char} (h : c.toNat < 0xd800 ∨ c.toNat = 0xfeff)
    (rest : List Char) : JsonText.readUnicode (hex04 c.toNat ++ rest) = some (c, rest) := by
  rw [JsonText.readUnicode, readUnit_hex04 (by omega)]
  have hhigh : ¬(0xd800 ≤ c.toNat ∧ c.toNat < 0xdc00) := by omega
  have hlow : ¬(0xdc00 ≤ c.toNat ∧ c.toNat < 0xe000) := by omega
  simp [hhigh, hlow]

theorem displayCharacter_cases (c : Char) :
    (∃ e, displayCharacter c = [JsonText.backslash, e] ∧ isUnsafeTextCharacter e = false ∧
      ∀ rest, JsonText.readEscape (e :: rest) = some (c, rest)) ∨
    (displayCharacter c = JsonText.backslash :: 'u' :: hex04 c.toNat ∧
      (c.toNat < 0xd800 ∨ c.toNat = 0xfeff)) ∨
    (displayCharacter c = [c] ∧ c ≠ JsonText.quote ∧ c ≠ JsonText.backslash ∧
      isUnsafeTextCharacter c = false) := by
  have hcode {code : ℕ} (h : c.toNat = code) : c = Char.ofNat code := by
    rw [← h, Char.ofNat_toNat]
  unfold displayCharacter
  split
  · exact .inl ⟨c, rfl, by rw [hcode ‹_›]; decide, fun rest => by rw [hcode ‹_›]; rfl⟩
  · exact .inl ⟨c, rfl, by rw [hcode ‹_›]; decide, fun rest => by rw [hcode ‹_›]; rfl⟩
  · exact .inl ⟨'n', rfl, by decide, fun rest => by rw [hcode ‹_›]; rfl⟩
  · exact .inl ⟨'r', rfl, by decide, fun rest => by rw [hcode ‹_›]; rfl⟩
  · exact .inl ⟨'t', rfl, by decide, fun rest => by rw [hcode ‹_›]; rfl⟩
  · exact .inl ⟨'b', rfl, by decide, fun rest => by rw [hcode ‹_›]; rfl⟩
  · exact .inl ⟨'f', rfl, by decide, fun rest => by rw [hcode ‹_›]; rfl⟩
  · next hescape hquote _ _ _ _ _ =>
    split_ifs with hunsafe
    · exact .inr (.inl ⟨rfl, code_of_escaped hunsafe⟩)
    · simp only [Bool.or_eq_true, not_or, Bool.not_eq_true] at hunsafe
      exact .inr (.inr ⟨rfl, fun h => hquote (by rw [h]; rfl), fun h => hescape (by rw [h]; rfl),
        hunsafe.1.1⟩)

theorem escaping_displayCharacter : JsonText.Escaping displayCharacter := by
  have hbackslash : JsonText.backslash ≠ JsonText.quote := by decide
  refine ⟨fun c rest hhead => ?_, fun c rest => ?_⟩
  · rcases displayCharacter_cases c with ⟨e, he, -, -⟩ | ⟨hunit, -⟩ | ⟨hplain, hquote, -, -⟩
    · rw [he] at hhead
      exact hbackslash (Option.some.inj hhead)
    · rw [hunit] at hhead
      exact hbackslash (Option.some.inj hhead)
    · rw [hplain] at hhead
      exact hquote (Option.some.inj hhead)
  · rcases displayCharacter_cases c with ⟨e, he, -, hread⟩ | ⟨hunit, hbasic⟩ |
      ⟨hplain, hquote, hescape, hsafe⟩
    · rw [he, List.cons_append, JsonText.readChar, if_pos rfl]
      exact hread rest
    · rw [hunit, List.cons_append, JsonText.readChar, if_pos rfl]
      exact readUnicode_hex04 hbasic rest
    · have hcontrol : ¬ c.toNat < 0x20 := by
        intro h
        simp [isUnsafeTextCharacter, Text.isControl, Nat.le_of_lt_succ h] at hsafe
      rw [hplain, List.singleton_append, JsonText.readChar, if_neg hescape,
        if_neg (not_or.mpr ⟨hquote, hcontrol⟩)]

theorem safe_displayCharacter {c d : Char} (h : d ∈ displayCharacter c) :
    isUnsafeTextCharacter d = false := by
  rcases displayCharacter_cases c with ⟨e, he, hsafe, -⟩ | ⟨hunit, -⟩ | ⟨hplain, -, -, hsafe⟩
  · rw [he, List.mem_cons, List.mem_singleton] at h
    rcases h with rfl | rfl
    · decide
    · exact hsafe
  · have hdigits : ∀ e ∈ Text.hexCharacters, isUnsafeTextCharacter e = false :=
      List.all_iff_forall_prop.mp (by decide)
    rw [hunit, List.mem_cons, List.mem_cons, hex04, List.mem_append] at h
    rcases h with rfl | rfl | hzero | hdigit
    · decide
    · decide
    · rw [List.eq_of_mem_replicate hzero]
      decide
    · exact hdigits d (Text.mem_hexCharacters_of_mem_toDigits (by omega) (by omega) _ d hdigit)
  · rw [hplain, List.mem_singleton] at h
    rw [h]
    exact hsafe

end CommandArgument

theorem toList_commandArgumentsJson (arguments : List CommandArgument) :
    (commandArgumentsJson arguments).toList = JsonText.writtenArray
      CommandArgument.displayCharacter (arguments.map CommandArgument.value) := by
  simp only [commandArgumentsJson, String.toList_append, String.toList_intercalate, List.map_map,
    JsonText.writtenArray]
  have hdisplay : String.toList ∘ CommandArgument.display =
      JsonText.written CommandArgument.displayCharacter ∘ CommandArgument.value := by
    funext argument
    simp [CommandArgument.display]
  rw [hdisplay]
  rfl

theorem parse_commandArgumentsJson (skipOther : List Char → Option (List Char))
    (arguments : List CommandArgument) :
    parseCommandArguments skipOther (commandArgumentsJson arguments) = .ok arguments := by
  unfold parseCommandArguments
  rw [toList_commandArgumentsJson,
    JsonText.readArray_strings CommandArgument.escaping_displayCharacter]
  dsimp only
  induction arguments with
  | nil => rfl
  | cons argument arguments ih =>
    have hnew : CommandArgument.fromValue (some argument.value) = .ok argument := by
      simp [CommandArgument.fromValue, CommandArgument.new, argument.valid, Except.mapError]
    rw [List.map_cons, List.map_cons, List.mapM_cons, hnew, ih]
    rfl

/-- Arguments read back as they were, and no character of their text is unsafe. -/
theorem arguments_round_trip (skipOther : List Char → Option (List Char))
    (arguments : List CommandArgument) :
    parseCommandArguments skipOther (commandArgumentsJson arguments) = .ok arguments ∧
      ∀ c ∈ (commandArgumentsJson arguments).toList, isUnsafeTextCharacter c = false := by
  refine ⟨parse_commandArgumentsJson skipOther arguments, fun c hc => ?_⟩
  rw [toList_commandArgumentsJson, JsonText.writtenArray, List.cons_append, List.mem_cons,
    List.mem_append, List.mem_singleton] at hc
  rcases hc with rfl | hinside | rfl
  · decide
  · rcases IpAddr.mem_intercalate hinside with rfl | ⟨word, hword, hc⟩
    · decide
    · obtain ⟨text, -, rfl⟩ := List.mem_map.mp hword
      rw [JsonText.written, List.cons_append, List.mem_cons, List.mem_append, List.mem_singleton,
        List.mem_flatMap] at hc
      rcases hc with rfl | ⟨d, -, hd⟩ | rfl
      · decide
      · exact CommandArgument.safe_displayCharacter hd
      · decide
  · decide

/-! ### Forms -/

/-- How the command line of an application is compared, if at all. -/
inductive CommandMode
  | any
  | exactMatch
  | prefixMatch
  deriving DecidableEq

/-- The texts of a rule in the editor, and what is kept beside them. -/
structure RuleForm where
  id : Option Uuid
  name : String
  direction : Direction
  action : RuleAction
  protocol : TransportProtocol
  peerNetwork : String
  port : String
  interface : String
  bindApplication : Bool
  executable : String
  commandMode : CommandMode
  arguments : String
  uid : String
  cgroup : String
  origin : RuleOrigin
  enabled : Bool
  originalExecutable : Option ApplicationPath
  /-- The pinned version, which is kept as long as the path is. -/
  originalExecutableFile : Option ExecutableFileId
  directionLock : Option Direction

def PortRange.formText (port : PortRange) : String :=
  if port.start = port.stop then toString port.start.toNat
  else toString port.start.toNat ++ "-" ++ toString port.stop.toNat

def CommandMode.ofMatch : CommandLineMatch → CommandMode
  | .exactMatch => .exactMatch
  | .prefixMatch => .prefixMatch

def RuleForm.fromRule (rule : Rule) : RuleForm :=
  let application := rule.spec.application
  let commandLine := application.bind (·.commandLine)
  { id := some rule.id
    name := rule.spec.name.value
    direction := rule.spec.direction
    action := rule.spec.action
    protocol := rule.spec.protocol
    peerNetwork := rule.spec.peerNetwork.elim "" IpNet.display
    port := rule.spec.port.elim "" PortRange.formText
    interface := rule.spec.interface.elim "" InterfaceName.value
    bindApplication := application.isSome
    executable := (application.bind (·.executable)).elim "" ApplicationPath.value
    commandMode := commandLine.elim .any fun selector => .ofMatch selector.kind
    arguments := commandLine.elim "" fun selector => commandArgumentsJson selector.arguments
    uid := (application.bind (·.uid)).elim "" fun uid => toString uid.toNat
    cgroup := (application.bind (·.cgroup)).elim "" CgroupPath.value
    origin := rule.spec.origin
    enabled := rule.spec.enabled
    originalExecutable := application.bind (·.executable)
    originalExecutableFile := application.bind (·.executableFile)
    directionLock := some rule.spec.direction }

def trimmed (field : String) : String := String.ofList (Text.trim field.toList)

def optionalField {α : Type} (field : String) (parse : String → Except FormError α) :
    Except FormError (Option α) :=
  if trimmed field = "" then .ok none else (parse (trimmed field)).map some

def parseNumber (bound : ℕ) (key : String) (text : List Char) : Except FormError ℕ :=
  match Text.parseUnsigned 10 bound text with
  | some value => .ok value
  | none => .error ⟨key, none⟩

def parsePortRange (value : String) : Except FormError (Option PortRange) :=
  if value = "" then .ok none
  else
    match value.toList.splitOn '-' with
    | [] => .error ⟨"validation.port_missing", none⟩
    | first :: rest => do
      let start ← parseNumber (2 ^ 16) "validation.port_number" first
      let stop ← match rest with
        | [] => .ok start
        | last :: _ => parseNumber (2 ^ 16) "validation.port_end_number" last
      ensure (rest.length ≤ 1) (⟨"validation.port_format", none⟩ : FormError)
      let port ← (PortRange.new (BitVec.ofNat 16 start) (BitVec.ofNat 16 stop)).mapError
        fun error => (⟨"validation.invalid_port_range", some error.message⟩ : FormError)
      return some port

/-- What the libraries of addresses and of JSON read. -/
structure FormReader where
  network : String → Option IpNet
  address : String → Except String IpAddr
  skipOther : List Char → Option (List Char)

section Reading

variable (reader : FormReader)

def parsePeerNetwork (value : String) : Except FormError IpNet :=
  match reader.network value with
  | some network => .ok network
  | none => (reader.address value).map IpAddr.toIpNet |>.mapError fun error =>
    ⟨"validation.invalid_peer", some error⟩

namespace RuleForm

variable (form : RuleForm)

def parseCommandLine : Except FormError (Option CommandLineSelector) := do
  let kind ← match form.commandMode with
    | .any => do
      ensure (trimmed form.arguments = "") (⟨"validation.arguments_unused", none⟩ : FormError)
      return none
    | .exactMatch => .ok (some .exactMatch)
    | .prefixMatch => .ok (some CommandLineMatch.prefixMatch)
  match kind with
  | none => return none
  | some kind =>
    let arguments ← parseCommandArguments reader.skipOther (trimmed form.arguments)
    let selector : CommandLineSelector := { kind, arguments }
    selector.validate.mapError fun error =>
      (⟨"validation.invalid_arguments", some error.message⟩ : FormError)
    return some selector

/-- Read the fields of the application. The pin is kept if the path is. -/
def parseApplication : Except FormError (Option ApplicationSelector) :=
  if form.bindApplication = false then do
    ensure (trimmed form.executable = "" ∧ form.commandMode = .any ∧ trimmed form.arguments = "" ∧
        trimmed form.uid = "" ∧ trimmed form.cgroup = "" ∧ form.originalExecutable = none ∧
        form.originalExecutableFile = none)
      (⟨"validation.application_fields_disabled", none⟩ : FormError)
    return none
  else do
    ensure (form.direction = .outbound) (⟨"validation.application_outbound", none⟩ : FormError)
    ensure (trimmed form.executable ≠ "") (⟨"validation.executable_required", none⟩ : FormError)
    let executable ← (ApplicationPath.new (trimmed form.executable)).mapError fun error =>
      (⟨"validation.invalid_executable", some error.message⟩ : FormError)
    let executableFile :=
      if form.originalExecutable = some executable then form.originalExecutableFile else none
    let commandLine ← form.parseCommandLine reader
    let uid ← optionalField form.uid fun text =>
      (parseNumber (2 ^ 32) "validation.invalid_uid" text.toList).map (BitVec.ofNat 32)
    let cgroup ← optionalField form.cgroup fun text => (CgroupPath.new text).mapError fun error =>
      ⟨"validation.invalid_cgroup", some error.message⟩
    let selector ← (ApplicationSelector.new (some executable) executableFile commandLine uid
      cgroup).mapError fun error => (⟨"validation.invalid_rule", some error.message⟩ : FormError)
    return some selector

def toRuleSpec : Except FormError RuleSpec := do
  ensure (∀ direction ∈ form.directionLock, direction = form.direction)
    (⟨"validation.invalid_rule", some "editor.field_direction"⟩ : FormError)
  ensure (trimmed form.name ≠ "") (⟨"validation.name_empty", none⟩ : FormError)
  let peerNetwork ← optionalField form.peerNetwork (parsePeerNetwork reader)
  let port ← parsePortRange (trimmed form.port)
  ensure (¬((form.protocol = .icmp ∨ form.protocol = .icmpV6) ∧ port ≠ none))
    (⟨"validation.icmp_port", none⟩ : FormError)
  let interface ← optionalField form.interface fun text => (InterfaceName.new text).mapError
    fun error => ⟨"validation.invalid_interface", some error.message⟩
  let application ← form.parseApplication reader
  let name ← (RuleName.new (trimmed form.name)).mapError fun error =>
    (⟨"validation.invalid_name", some error.message⟩ : FormError)
  let rule : RuleSpec :=
    { name, direction := form.direction, action := form.action, protocol := form.protocol,
      peerNetwork, port, interface, application, origin := form.origin, enabled := form.enabled }
  rule.validate.mapError fun error =>
    (⟨"validation.invalid_rule", some error.message⟩ : FormError)
  return rule

end RuleForm

end Reading

/-! ### Unedited forms -/

theorem trimmed_of_plain {text : String} (h : ∀ c ∈ text.toList, Text.isWhitespace c = false) :
    trimmed text = text := by
  rw [trimmed, Text.trim_eq_self (fun c hc => h c (List.mem_of_head? hc))
    (fun c hc => h c (List.mem_of_getLast? hc)), String.ofList_toList]

theorem optionalField_elim {α : Type} {value : Option α} {text : α → String}
    {parse : String → Except FormError α} (htrim : ∀ a ∈ value, trimmed (text a) = text a)
    (hread : ∀ a ∈ value, text a ≠ "" ∧ parse (text a) = .ok a) :
    optionalField (value.elim "" text) parse = .ok value := by
  cases value with
  | none => rfl
  | some a =>
    obtain ⟨hne, hparse⟩ := hread a rfl
    rw [Option.elim_some, optionalField, htrim a rfl, if_neg hne, hparse]
    rfl

theorem trimmed_of_optionalField {α : Type} {a : α} {text : α → String} {ε : Type}
    {new : String → Except ε α} {f : ε → FormError} (hnew : ∀ s b, new s = .ok b → text b = s)
    (h : optionalField (text a) (fun field => (new field).mapError f) = .ok (some a)) :
    trimmed (text a) = text a := by
  unfold optionalField at h
  split_ifs at h
  · cases h
  · cases hfield : new (trimmed (text a)) with
    | error e => simp [hfield, Except.mapError, Except.map] at h
    | ok b =>
      simp only [hfield, Except.mapError, Except.map, Except.ok.injEq, Option.some.injEq] at h
      rw [← hnew _ _ hfield, h]

theorem plain_toString (n : ℕ) : ∀ c ∈ (toString n).toList,
    Text.isWhitespace c = false ∧ c ≠ '-' := by
  have hdigits : ∀ c ∈ Text.hexCharacters, Text.isWhitespace c = false ∧ c ≠ '-' :=
    List.all_iff_forall_prop.mp (by decide)
  intro c hc
  rw [Text.toList_toString] at hc
  exact hdigits c (Text.mem_hexCharacters_of_mem_toDigits (by omega) (by omega) n c hc)

theorem toString_ne_empty (n : ℕ) : toString n ≠ "" := Nat.repr_ne_empty

theorem parseNumber_toString {bound n : ℕ} (h : n < bound) (key : String) :
    parseNumber bound key (toString n).toList = .ok n := by
  rw [parseNumber, Text.toList_toString, Text.parseUnsigned_toDigits (by omega) (by omega) h]

theorem parsePortRange_formText (port : Option PortRange) :
    parsePortRange (trimmed (port.elim "" PortRange.formText)) = .ok port := by
  cases port with
  | none => rfl
  | some port =>
    have hnew : PortRange.new port.start port.stop = .ok port := dif_pos port.valid
    have hstart := parseNumber_toString port.start.isLt
    have hstop := parseNumber_toString port.stop.isLt
    have hdash (n : ℕ) : '-' ∉ (toString n).toList := fun h => (plain_toString n _ h).2 rfl
    rw [Option.elim_some]
    unfold PortRange.formText
    split_ifs with hsame
    · rw [trimmed_of_plain fun c hc => (plain_toString _ c hc).1, parsePortRange,
        if_neg (toString_ne_empty _), List.splitOn_eq_singleton (hdash _)]
      rw [← hsame] at hnew
      simp only [hstart]
      simp [hnew, ensure, Except.mapError, bind, Except.bind, pure, Except.pure]
    · have hlist : (toString port.start.toNat ++ "-" ++ toString port.stop.toNat).toList =
          (toString port.start.toNat).toList ++ '-' :: (toString port.stop.toNat).toList := by
        simp
      have htrim : trimmed (toString port.start.toNat ++ "-" ++ toString port.stop.toNat) =
          toString port.start.toNat ++ "-" ++ toString port.stop.toNat := by
        refine trimmed_of_plain fun c hc => ?_
        rw [hlist, List.mem_append, List.mem_cons] at hc
        rcases hc with hc | rfl | hc
        · exact (plain_toString _ c hc).1
        · decide
        · exact (plain_toString _ c hc).1
      have hne : toString port.start.toNat ++ "-" ++ toString port.stop.toNat ≠ "" := by
        intro h
        rw [h] at hlist
        simp at hlist
      rw [htrim, parsePortRange, if_neg hne, hlist,
        List.splitOn_append_cons_self_of_not_mem (hdash _), List.splitOn_eq_singleton (hdash _)]
      simp only [hstart, hstop]
      simp [hnew, ensure, Except.mapError, bind, Except.bind, pure, Except.pure]

def RuleSpec.PathsTrimmed (spec : RuleSpec) : Prop :=
  ∀ application ∈ spec.application,
    (∀ path ∈ application.executable, trimmed path.value = path.value) ∧
      ∀ path ∈ application.cgroup, trimmed path.value = path.value

theorem RuleName.reads (name : RuleName) : trimmed name.value = name.value ∧
    name.value ≠ "" ∧ RuleName.new name.value = .ok name := by
  have hvalid := name.valid
  have hcheck : RuleName.check name.value = .ok () := by
    cases hresult : RuleName.check name.value with
    | ok => rfl
    | error error => simp [hresult, Except.toBool] at hvalid
  have hnew : RuleName.new name.value = .ok name := by
    unfold RuleName.new
    split
    · rfl
    · next error herror => cases hcheck.symm.trans herror
  unfold RuleName.check at hcheck
  split_ifs at hcheck with hempty hlong hbad
  obtain ⟨htrim, -⟩ := not_or.mp hbad
  rw [not_not] at htrim
  exact ⟨by rw [trimmed, htrim, String.ofList_toList], fun h => hempty (by rw [h]; rfl), hnew⟩

theorem IpNet.display_trimmed (network : IpNet) :
    trimmed network.display = network.display ∧ network.display ≠ "" := by
  have hcharacters : ∀ c ∈ '/' :: IpAddr.addressCharacters, Text.isWhitespace c = false :=
    List.all_iff_forall_prop.mp (by decide)
  obtain ⟨address, length, hdisplay⟩ : ∃ (address : IpAddr) (length : ℕ),
      network.display = address.display ++ "/" ++ toString length := by
    cases network with
    | v4 addr length => exact ⟨.v4 addr, length, rfl⟩
    | v6 addr length => exact ⟨.v6 addr, length, rfl⟩
  have hlist : network.display.toList =
      address.display.toList ++ '/' :: (toString length).toList := by
    rw [hdisplay]
    simp
  constructor
  · refine trimmed_of_plain fun c hc => ?_
    rw [hlist, List.mem_append, List.mem_cons] at hc
    rcases hc with hc | rfl | hc
    · exact hcharacters c (List.mem_cons_of_mem _ (address.display_characters hc))
    · decide
    · exact (plain_toString _ c hc).1
  · intro h
    rw [h] at hlist
    simp at hlist

theorem InterfaceName.reads (interface : InterfaceName) :
    trimmed interface.value = interface.value ∧ interface.value ≠ "" ∧
      InterfaceName.new interface.value = .ok interface := by
  have hvalid := interface.valid
  have hnew : InterfaceName.new interface.value = .ok interface := dif_pos interface.valid
  simp only [InterfaceName.accepts, Bool.and_eq_true, Bool.not_eq_true', Bool.or_eq_false_iff,
    List.all_eq_true] at hvalid
  obtain ⟨⟨hempty, -⟩, hcharacters⟩ := hvalid
  refine ⟨trimmed_of_plain fun c hc => ?_, fun h => ?_, hnew⟩
  · have hc := hcharacters c hc
    have hle (a b : Char) : a ≤ b ↔ a.toNat ≤ b.toNat := UInt32.le_iff_toNat_le
    simp only [isInterfaceCharacter, Bool.or_eq_true, Bool.and_eq_true, decide_eq_true_eq, hle,
      List.mem_cons, List.not_mem_nil, or_false] at hc
    have hvisible (hlow : 0x21 ≤ c.toNat) (hhigh : c.toNat ≤ 0x7e) :
        Text.isWhitespace c = false := by
      simp only [Text.isWhitespace, List.mem_cons, List.not_mem_nil, or_false,
        Bool.or_eq_false_iff, Bool.and_eq_false_iff, decide_eq_false_iff_not]
      omega
    rcases hc with ((hc | hc) | hc) | rfl | rfl | rfl
    · exact hvisible (Nat.le_trans (by decide) hc.1) (Nat.le_trans hc.2 (by decide))
    · exact hvisible (Nat.le_trans (by decide) hc.1) (Nat.le_trans hc.2 (by decide))
    · exact hvisible (Nat.le_trans (by decide) hc.1) (Nat.le_trans hc.2 (by decide))
    all_goals decide
  · rw [h] at hempty
    cases hempty

theorem trimmed_arguments (arguments : List CommandArgument) :
    trimmed (commandArgumentsJson arguments) = commandArgumentsJson arguments := by
  have hlist := toList_commandArgumentsJson arguments
  rw [trimmed, Text.trim_eq_self, String.ofList_toList]
  · intro c hc
    rw [hlist] at hc
    rw [← Option.some.inj hc]
    decide
  · intro c hc
    rw [hlist, JsonText.writtenArray, List.getLast?_append] at hc
    rw [← Option.some.inj hc]
    decide

section Unedited

variable (reader : FormReader) {rule : Rule}

theorem parseCommandLine_fromRule
    (hvalid : ∀ application ∈ rule.spec.application, ∀ selector ∈ application.commandLine,
      selector.validate = .ok ()) :
    (RuleForm.fromRule rule).parseCommandLine reader =
      .ok (rule.spec.application.bind (·.commandLine)) := by
  have hform : (RuleForm.fromRule rule).commandMode =
      (rule.spec.application.bind (·.commandLine)).elim .any fun selector =>
        .ofMatch selector.kind := rfl
  have htext : (RuleForm.fromRule rule).arguments =
      (rule.spec.application.bind (·.commandLine)).elim "" fun selector =>
        commandArgumentsJson selector.arguments := rfl
  unfold RuleForm.parseCommandLine
  rw [hform, htext]
  cases hcommand : rule.spec.application.bind (·.commandLine) with
  | none => rfl
  | some selector =>
    obtain ⟨application, happlication, hselector⟩ := Option.bind_eq_some_iff.mp hcommand
    have hcheck := hvalid application happlication selector hselector
    obtain ⟨kind, arguments⟩ := selector
    have hread := parse_commandArgumentsJson reader.skipOther arguments
    cases kind <;>
      simp [CommandMode.ofMatch, trimmed_arguments, hread, hcheck, Except.mapError, bind,
        Except.bind, pure, Except.pure]

theorem uid_fromRule : optionalField (RuleForm.fromRule rule).uid (fun text =>
    (parseNumber (2 ^ 32) "validation.invalid_uid" text.toList).map (BitVec.ofNat 32)) =
      .ok (rule.spec.application.bind (·.uid)) := by
  refine optionalField_elim (fun uid _ => ?_) fun uid _ => ⟨toString_ne_empty _, ?_⟩
  · exact trimmed_of_plain fun c hc => (plain_toString _ c hc).1
  · rw [parseNumber_toString uid.isLt]
    simp [Except.map]

theorem mapError_eq_ok_iff {ε α : Type} {x : Except ε α} {f : ε → FormError} {a : α} :
    x.mapError f = .ok a ↔ x = .ok a := by
  cases x <;> simp [Except.mapError]

theorem ApplicationPath.value_of_new {text : String} {path : ApplicationPath}
    (h : ApplicationPath.new text = .ok path) : path.value = text := by
  unfold ApplicationPath.new at h
  split_ifs at h
  cases h
  rfl

theorem CgroupPath.value_of_new {text : String} {path : CgroupPath}
    (h : CgroupPath.new text = .ok path) : path.value = text := by
  unfold CgroupPath.new at h
  split_ifs at h
  cases h
  rfl

theorem parseApplication_fromRule (hvalid : rule.spec.validate = .ok ())
    (hvisible : ∀ application ∈ rule.spec.application, application.metadataRedacted = false) :
    (RuleForm.fromRule rule).parseApplication reader = .ok rule.spec.application ↔
      rule.spec.PathsTrimmed := by
  cases happlication : rule.spec.application with
  | none =>
    refine iff_of_true ?_ (by simp [RuleSpec.PathsTrimmed, happlication])
    simp [RuleForm.parseApplication, RuleForm.fromRule, happlication, ensure, trimmed, Text.trim,
      bind, Except.bind, pure, Except.pure]
  | some application =>
    have hredacted := hvisible application happlication
    obtain ⟨houtbound, hselector⟩ := RuleSpec.application_valid hvalid happlication
    obtain ⟨hcommand, hexecutable⟩ := ApplicationSelector.parts_valid hselector
    obtain ⟨path, hpath⟩ := Option.ne_none_iff_exists'.mp (hexecutable hredacted)
    have hline := @parseCommandLine_fromRule reader rule
      (fun other hother => by cases happlication.symm.trans hother; exact hcommand)
    have huid := @uid_fromRule rule
    have hform : (RuleForm.fromRule rule).executable = path.value := by
      simp [RuleForm.fromRule, happlication, hpath]
    have hbound : ¬ (RuleForm.fromRule rule).bindApplication = false := by
      simp [RuleForm.fromRule, happlication]
    have hcgroup : (RuleForm.fromRule rule).cgroup =
        application.cgroup.elim "" CgroupPath.value := by
      simp [RuleForm.fromRule, happlication]
    rw [RuleForm.parseApplication, if_neg hbound, hform, hline, huid, hcgroup]
    constructor
    · intro h other hother
      cases happlication.symm.trans hother
      obtain ⟨-, h⟩ := Except.bind_unit_eq_ok_iff.mp h
      obtain ⟨-, h⟩ := Except.bind_unit_eq_ok_iff.mp h
      obtain ⟨executable, hnew, h⟩ := Except.bind_eq_ok_iff.mp h
      obtain ⟨commandLine, -, h⟩ := Except.bind_eq_ok_iff.mp h
      obtain ⟨uid, -, h⟩ := Except.bind_eq_ok_iff.mp h
      obtain ⟨cgroup, hroot, h⟩ := Except.bind_eq_ok_iff.mp h
      obtain ⟨selector, hbuilt, h⟩ := Except.bind_eq_ok_iff.mp h
      cases h
      obtain ⟨-, hbuilt⟩ := Except.bind_unit_eq_ok_iff.mp (mapError_eq_ok_iff.mp hbuilt)
      cases hbuilt
      cases hpath
      refine ⟨?_, ?_⟩
      · rintro _ ⟨⟩
        exact (ApplicationPath.value_of_new (mapError_eq_ok_iff.mp hnew)).symm
      · rintro root ⟨⟩
        exact trimmed_of_optionalField (fun _ _ => CgroupPath.value_of_new) hroot
    · intro h
      obtain ⟨htrim, htrim'⟩ := h application happlication
      have hnew : ApplicationPath.new path.value = .ok path := dif_pos path.valid
      have hne : path.value ≠ "" := by
        intro h
        have hvalid := path.valid
        rw [h] at hvalid
        exact absurd hvalid (by decide)
      have hroot : optionalField (application.cgroup.elim "" CgroupPath.value) (fun text =>
          (CgroupPath.new text).mapError fun error =>
            (⟨"validation.invalid_cgroup", some error.message⟩ : FormError)) =
          .ok application.cgroup := by
        refine optionalField_elim htrim' fun root _ => ⟨fun h => ?_, ?_⟩
        · have hvalid := root.valid
          rw [h] at hvalid
          exact absurd hvalid (by decide)
        · rw [CgroupPath.new, dif_pos root.valid]
          rfl
      have horiginal : (RuleForm.fromRule rule).originalExecutable = some path := by
        simp [RuleForm.fromRule, happlication, hpath]
      have hpin : (RuleForm.fromRule rule).originalExecutableFile =
          application.executableFile := by
        simp [RuleForm.fromRule, happlication]
      have hbuilt : ApplicationSelector.new (some path) application.executableFile
          application.commandLine application.uid application.cgroup = .ok application := by
        obtain ⟨executable, executableFile, commandLine, uid, cgroup, redacted⟩ := application
        cases hredacted
        cases hpath
        simp [ApplicationSelector.new, hselector, bind, Except.bind, pure, Except.pure]
      have hdirection : (RuleForm.fromRule rule).direction = .outbound := houtbound
      rw [htrim path hpath, hroot]
      simp [hdirection, hne, hnew, horiginal, hpin, happlication, hbuilt, ensure, Except.mapError,
        bind, Except.bind, pure, Except.pure]

/-- An unedited rule is saved as it was, unless a path of its application ends in white space. -/
theorem saved_unchanged_iff (hvalid : rule.validate = .ok ())
    (hvisible : ∀ application ∈ rule.spec.application, application.metadataRedacted = false)
    (hnetwork : ∀ network ∈ rule.spec.peerNetwork,
      reader.network network.display = some network) :
    (RuleForm.fromRule rule).toRuleSpec reader = .ok rule.spec ↔ rule.spec.PathsTrimmed := by
  have hspec : rule.spec.validate = .ok () := ((Rule.validate_eq_ok_iff rule).mp hvalid).2.2
  have happlication := parseApplication_fromRule reader hspec hvisible
  obtain ⟨hname, hne, hnew⟩ := rule.spec.name.reads
  have hpeer : optionalField (RuleForm.fromRule rule).peerNetwork (parsePeerNetwork reader) =
      .ok rule.spec.peerNetwork :=
    optionalField_elim (fun network _ => (IpNet.display_trimmed network).1) fun network hmem =>
      ⟨(IpNet.display_trimmed network).2, by rw [parsePeerNetwork, hnetwork network hmem]⟩
  have hinterface : optionalField (RuleForm.fromRule rule).interface (fun text =>
      (InterfaceName.new text).mapError fun error =>
        (⟨"validation.invalid_interface", some error.message⟩ : FormError)) =
      .ok rule.spec.interface :=
    optionalField_elim (fun interface _ => interface.reads.1) fun interface _ =>
      ⟨interface.reads.2.1, by rw [interface.reads.2.2]; rfl⟩
  have hport := parsePortRange_formText rule.spec.port
  have hicmp : ¬((rule.spec.protocol = .icmp ∨ rule.spec.protocol = .icmpV6) ∧
      rule.spec.port ≠ none) := by
    rintro ⟨hprotocol, hport⟩
    unfold RuleSpec.validate at hspec
    split_ifs at hspec with _ _ hbad
    refine hbad ⟨hport, ?_⟩
    rcases hprotocol with h | h <;> simp [h]
  -- everything but the application reads back for sure
  have hread : (RuleForm.fromRule rule).toRuleSpec reader =
      ((RuleForm.fromRule rule).parseApplication reader >>= fun application =>
        ({ rule.spec with application }.validate.mapError fun error : ValidationError =>
          (⟨"validation.invalid_rule", some error.message⟩ : FormError)) >>= fun _ =>
        .ok { rule.spec with application }) := by
    have htrimmed : trimmed (RuleForm.fromRule rule).name = rule.spec.name.value := hname
    have hports : parsePortRange (trimmed (RuleForm.fromRule rule).port) = .ok rule.spec.port :=
      hport
    have hlock : ∀ direction ∈ (RuleForm.fromRule rule).directionLock,
        direction = (RuleForm.fromRule rule).direction := by
      rintro _ ⟨⟩
      rfl
    have hallowed : ¬(((RuleForm.fromRule rule).protocol = .icmp ∨
        (RuleForm.fromRule rule).protocol = .icmpV6) ∧ rule.spec.port ≠ none) := hicmp
    unfold RuleForm.toRuleSpec
    rw [hpeer, hinterface, htrimmed, hports, hnew, ensure, if_pos hlock, ensure, if_pos hne]
    change (ensure _ _ >>= _) = _
    rw [ensure, if_pos hallowed]
    rfl
  rw [hread, ← happlication]
  constructor
  · intro h
    obtain ⟨application, hparse, h⟩ := Except.bind_eq_ok_iff.mp h
    obtain ⟨-, h⟩ := Except.bind_unit_eq_ok_iff.mp h
    rw [hparse, ← Except.ok.inj h]
  · intro h
    rw [h]
    simp [hspec, Except.mapError, bind, Except.bind]

end Unedited

namespace Sample

theorem accepts_padded : ApplicationPath.accepts "/a " = true := by decide +kernel

def paddedRule : Rule :=
  rule .outbound .drop (some { selector with executable := some ⟨"/a ", accepts_padded⟩ })

def formReader : FormReader :=
  { network := fun _ => some (.v4 1 24), address := fun _ => .error "", skipOther := fun _ => none }

end Sample

/-- The blank is lost, and with it the pin: the saved rule is about another executable. -/
theorem padded_path_loses_pin : Sample.paddedRule.validate = .ok () ∧
    (RuleForm.fromRule Sample.paddedRule).toRuleSpec Sample.formReader =
      .ok { Sample.paddedRule.spec with
        application := some { Sample.selector with executableFile := none } } := by
  decide +kernel

theorem saved_unchanged_sample :
    (RuleForm.fromRule (Sample.rule .outbound .drop (some Sample.selector))).toRuleSpec
      Sample.formReader = .ok (Sample.rule .outbound .drop (some Sample.selector)).spec := by
  have htrimmed : trimmed "/a" = "/a" := by decide +kernel
  refine (saved_unchanged_iff Sample.formReader (by decide +kernel) ?_
    fun _ hmem => by cases hmem).mpr ?_
  · rintro _ ⟨⟩
    rfl
  · rintro _ ⟨⟩
    refine ⟨?_, nofun⟩
    rintro _ ⟨⟩
    exact htrimmed

end OpenShield
