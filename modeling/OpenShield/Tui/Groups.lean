import OpenShield.Daemon.Control
import OpenShield.Data.Grouping

/-!
# The tree of outbound rules

The client shows outbound rules as a tree: groups by control group, executable or destination, and
below a control group its executables. An action on a row is sent as a selector, and the daemon
decides by that selector which rules it changes.
-/

namespace OpenShield

/-! ### Orders -/

def IpNet.sortKey : IpNet → ℕ ×ₗ ℕ ×ₗ ℕ
  | .v4 addr len => toLex (0, toLex (addr.toNat, len.val))
  | .v6 addr len => toLex (1, toLex (addr.toNat, len.val))

theorem IpNet.sortKey_injective : Function.Injective IpNet.sortKey := by
  intro a b h
  cases a <;> cases b <;>
    simp only [sortKey, EmbeddingLike.apply_eq_iff_eq, Prod.mk.injEq, zero_ne_one, one_ne_zero,
      false_and, true_and] at h
  all_goals
    obtain ⟨haddr, hlen⟩ := h
    rw [BitVec.eq_of_toNat_eq haddr, Fin.ext hlen]

instance : LinearOrder IpNet := LinearOrder.lift' IpNet.sortKey IpNet.sortKey_injective

inductive OutboundGroupKey
  | cgroup (path : String)
  | executable (path : String)
  | destination (network : Option IpNet)

namespace OutboundGroupKey

def rank : OutboundGroupKey → ℕ
  | .cgroup _ => 0
  | .executable _ => 1
  | .destination (some _) => 2
  | .destination none => 3

def sortKey (key : OutboundGroupKey) : ℕ ×ₗ String ×ₗ WithBot IpNet :=
  match key with
  | .cgroup path => toLex (key.rank, toLex (path, ⊥))
  | .executable path => toLex (key.rank, toLex (path, ⊥))
  | .destination (some network) => toLex (key.rank, toLex ("", network))
  | .destination none => toLex (key.rank, toLex ("", ⊥))

theorem sortKey_injective : Function.Injective sortKey := by
  intro a b h
  rcases a with a | a | _ | a <;> rcases b with b | b | _ | b <;>
    simp_all [sortKey, rank]

instance : LinearOrder OutboundGroupKey := LinearOrder.lift' sortKey sortKey_injective

/-- The group of a rule. Inbound rules have none. -/
def fromRule (rule : Rule) : Option OutboundGroupKey :=
  if rule.spec.direction ≠ .outbound then none
  else
    let destination := OutboundGroupKey.destination (rule.spec.peerNetwork.map IpNet.trunc)
    match rule.spec.application.filter fun application => !application.metadataRedacted with
    | none => some destination
    | some application =>
      match application.cgroup, application.executable with
      | some root, _ => some (.cgroup root.value)
      | none, some path => some (.executable path.value)
      | none, none => some destination

end OutboundGroupKey

/-! ### The tree -/

def visibleExecutable (rule : Rule) : Option String :=
  ((rule.spec.application.filter fun application => !application.metadataRedacted).bind
    (·.executable)).map (·.value)

def protocolRank : TransportProtocol → ℕ
  | .any => 0
  | .tcp => 1
  | .udp => 2
  | .icmp => 3
  | .icmpV6 => 4

def compareRuleMembers (left right : Rule) : Ordering :=
  let port (rule : Rule) := rule.spec.port.map fun port =>
    toLex (port.start.toNat, port.stop.toNat)
  let interface (rule : Rule) := rule.spec.interface.map (·.value)
  (compare left.spec.peerNetwork right.spec.peerNetwork).then <|
    (compare (protocolRank left.spec.protocol) (protocolRank right.spec.protocol)).then <|
    (compare (port left) (port right)).then <|
    (compare (interface left) (interface right)).then <|
    (compare left.spec.name.value right.spec.name.value).then (compare left.id right.id)

structure OutboundGroup where
  key : OutboundGroupKey
  rules : List Rule

/-- A row of the tree. A root holds the rules of its group, a child those of one executable. -/
structure OutboundNode where
  key : OutboundGroupKey
  executable : Option String
  lastChild : Bool
  rules : List Rule
  groupIndex : ℕ
  deriving DecidableEq

def outboundGroups (snapshot : Option Snapshot) : List OutboundGroup :=
  let rules := snapshot.elim [] (·.rules)
  (OrderedMap.groupOn OutboundGroupKey.fromRule rules).entries.map fun (key, members) =>
    ⟨key, members.mergeSort fun left right => (compareRuleMembers left right).isLE⟩

/-- The executables of a group. Only control groups are split. -/
def OutboundGroup.children (group : OutboundGroup) : List (String × List Rule) :=
  match group.key with
  | .cgroup _ => (OrderedMap.groupOn visibleExecutable group.rules).entries
  | _ => []

def OutboundGroup.nodes (group : OutboundGroup) (groupIndex : ℕ) : List OutboundNode :=
  ⟨group.key, none, false, group.rules, groupIndex⟩ ::
    group.children.zipIdx.map fun ((executable, rules), index) =>
      ⟨group.key, some executable, decide (index + 1 = group.children.length), rules, groupIndex⟩

def outboundNodes (snapshot : Option Snapshot) : List OutboundNode :=
  (outboundGroups snapshot).zipIdx.flatMap fun (group, groupIndex) => group.nodes groupIndex

def selectedOutboundNodeIndex (nodes : List OutboundNode) (selectedOutboundGroup : ℕ)
    (selectedOutboundExecutable : Option String) : Option ℕ :=
  nodes.findIdx? fun node => decide (node.groupIndex = selectedOutboundGroup) &&
    decide (node.executable = selectedOutboundExecutable)

/-- What an action on a row is sent for. -/
structure GroupTarget where
  selector : OutboundGroupSelector
  label : String
  count : ℕ
  deriving DecidableEq

/-- The selector of a row with its label; `any` is the translation for every destination. -/
def OutboundNode.selector? (any : String) (node : OutboundNode) :
    Option (OutboundGroupSelector × String) :=
  match node.key with
  | .cgroup cgroup => do
    let executable ← match node.executable with
      | none => some none
      | some path => (ApplicationPath.new path).toOption.map some
    let root ← (CgroupPath.new cgroup).toOption
    return (.cgroup root executable, match node.executable with
      | none => cgroup
      | some path => cgroup ++ " → " ++ path)
  | .executable path => do
    let executable ← (ApplicationPath.new path).toOption
    return (.executable executable, path)
  | .destination peerNetwork =>
    some (.destination peerNetwork, peerNetwork.elim any IpNet.display)

def selectedGroupTarget (any : String) (snapshot : Option Snapshot) (selectedOutboundGroup : ℕ)
    (selectedOutboundExecutable : Option String) : Option GroupTarget := do
  let nodes := outboundNodes snapshot
  let index ← selectedOutboundNodeIndex nodes selectedOutboundGroup selectedOutboundExecutable
  let node ← nodes[index]?
  let (selector, label) ← node.selector? any
  return { selector, label, count := node.rules.length }

/-! ### Keys and selectors -/

theorem IpNet.trunc_trunc (net : IpNet) : net.trunc.trunc = net.trunc := by
  cases net <;> simp [IpNet.trunc, Prefix.network, BitVec.and_assoc]

theorem ApplicationPath.value_inj {a b : ApplicationPath} : a.value = b.value ↔ a = b := by
  cases a
  cases b
  simp

theorem CgroupPath.value_inj {a b : CgroupPath} : a.value = b.value ↔ a = b := by
  cases a
  cases b
  simp

namespace OutboundGroupKey

variable {rule : Rule}

theorem fromRule_eq_none_iff : fromRule rule = none ↔ rule.spec.direction ≠ .outbound := by
  unfold fromRule
  split_ifs with hdirection
  · simpa using hdirection
  · refine iff_of_false ?_ hdirection
    cases rule.spec.application.filter fun application => !application.metadataRedacted with
    | none => exact nofun
    | some application =>
      rcases hcgroup : application.cgroup with _ | root
      · rcases hexecutable : application.executable with _ | path
        · simp [hcgroup, hexecutable]
        · simp [hcgroup, hexecutable]
      · simp [hcgroup]

theorem fromRule_cases {key : OutboundGroupKey} (h : fromRule rule = some key) :
    (∃ root : CgroupPath, key = .cgroup root.value) ∨
      (∃ path : ApplicationPath, key = .executable path.value) ∨
      ∃ network : Option IpNet, key = .destination (network.map IpNet.trunc) := by
  unfold fromRule at h
  split_ifs at h
  cases hvisible : rule.spec.application.filter fun application =>
      !application.metadataRedacted with
  | none =>
    simp only [hvisible, Option.some.injEq] at h
    exact .inr (.inr ⟨_, h.symm⟩)
  | some application =>
    rcases hcgroup : application.cgroup with _ | root
    · rcases hexecutable : application.executable with _ | path
      · simp only [hvisible, hcgroup, hexecutable, Option.some.injEq] at h
        exact .inr (.inr ⟨_, h.symm⟩)
      · simp only [hvisible, hcgroup, hexecutable, Option.some.injEq] at h
        exact .inr (.inl ⟨_, h.symm⟩)
    · simp only [hvisible, hcgroup, Option.some.injEq] at h
      exact .inl ⟨_, h.symm⟩

end OutboundGroupKey

theorem visibleExecutable_eq_some {rule : Rule} {text : String}
    (h : visibleExecutable rule = some text) : ∃ path : ApplicationPath, path.value = text := by
  obtain ⟨path, -, htext⟩ := Option.map_eq_some_iff.mp h
  exact ⟨path, htext⟩

theorem executable_of_visible {rule : Rule} {text : String}
    (h : visibleExecutable rule = some text) :
    ∃ application ∈ rule.spec.application, application.executable ≠ none := by
  obtain ⟨path, hpath, -⟩ := Option.map_eq_some_iff.mp h
  obtain ⟨application, happlication, hexecutable⟩ := Option.bind_eq_some_iff.mp hpath
  exact ⟨application, (Option.filter_eq_some_iff.mp happlication).1, by simp [hexecutable]⟩

theorem visible_of_executable {rule : Rule} {application : ApplicationSelector}
    (happlication : application ∈ rule.spec.application)
    (hvisible : application.metadataRedacted = false) (h : application.executable ≠ none) :
    ∃ text, visibleExecutable rule = some text := by
  obtain ⟨path, hpath⟩ := Option.ne_none_iff_exists'.mp h
  refine ⟨path.value, ?_⟩
  rw [Option.mem_def] at happlication
  simp [visibleExecutable, happlication, Option.filter, hvisible, hpath]

namespace OutboundGroupSelector

open OutboundGroupKey

/-- The selector of a row of a control group matches the rules with its key and executable. -/
theorem matchesRule_cgroup (root : CgroupPath) (only : Option ApplicationPath) (rule : Rule) :
    (cgroup root only).matchesRule rule = true ↔
      fromRule rule = some (.cgroup root.value) ∧
        ∀ path ∈ only, visibleExecutable rule = some path.value := by
  unfold matchesRule fromRule visibleExecutable
  by_cases hdirection : rule.spec.direction = .outbound
  · cases rule.spec.application.filter fun application => !application.metadataRedacted with
    | none => simp [hdirection]
    | some application =>
      rcases hcgroup : application.cgroup with _ | found <;>
        rcases hexecutable : application.executable with _ | path <;> cases only <;>
        simp [hdirection, hcgroup, hexecutable, CgroupPath.value_inj, ApplicationPath.value_inj]
  · simp [hdirection]

theorem matchesRule_executable (path : ApplicationPath) (rule : Rule) :
    (executable path).matchesRule rule = true ↔
      fromRule rule = some (.executable path.value) := by
  unfold matchesRule fromRule
  by_cases hdirection : rule.spec.direction = .outbound
  · cases rule.spec.application.filter fun application => !application.metadataRedacted with
    | none => simp [hdirection]
    | some application =>
      rcases hcgroup : application.cgroup with _ | found <;>
        rcases hexecutable : application.executable with _ | found <;>
        simp [hdirection, hcgroup, hexecutable, ApplicationPath.value_inj]
  · simp [hdirection]

theorem matchesRule_destination (network : Option IpNet) (rule : Rule) :
    (destination (network.map IpNet.trunc)).matchesRule rule = true ↔
      fromRule rule = some (.destination (network.map IpNet.trunc)) := by
  have htrunc : (network.map IpNet.trunc).map IpNet.trunc = network.map IpNet.trunc := by
    cases network <;> simp [IpNet.trunc_trunc]
  unfold matchesRule fromRule
  by_cases hdirection : rule.spec.direction = .outbound
  · cases rule.spec.application.filter fun application => !application.metadataRedacted with
    | none => simp [hdirection, htrunc]
    | some application =>
      rcases hcgroup : application.cgroup with _ | found <;>
        rcases hexecutable : application.executable with _ | found <;>
        simp [hdirection, hcgroup, hexecutable, htrunc]
  · simp [hdirection]

end OutboundGroupSelector

/-! ### Rows -/

def OutboundNode.Holds (node : OutboundNode) (rule : Rule) : Prop :=
  OutboundGroupKey.fromRule rule = some node.key ∧
    ∀ path ∈ node.executable, visibleExecutable rule = some path

instance (node : OutboundNode) (rule : Rule) : Decidable (node.Holds rule) :=
  inferInstanceAs (Decidable (_ ∧ ∀ path ∈ node.executable, visibleExecutable rule = some path))

section Nodes

variable {snapshot : Snapshot} {node : OutboundNode} {group : OutboundGroup}

theorem mem_outboundGroups (h : group ∈ outboundGroups (some snapshot)) :
    group.rules ≠ [] ∧ group.rules.Perm (snapshot.rules.filter fun rule =>
      decide (OutboundGroupKey.fromRule rule = some group.key)) := by
  obtain ⟨⟨key, members⟩, hentry, rfl⟩ := List.mem_map.mp h
  obtain ⟨hmembers, hsome⟩ := OrderedMap.mem_groupOn.mp hentry
  have hperm := List.mergeSort_perm members
    fun left right => (compareRuleMembers left right).isLE
  exact ⟨fun hnil => hsome (List.nil_perm.mp (.trans (.of_eq hnil.symm) hperm)),
    hperm.trans (.of_eq hmembers)⟩

theorem mem_outboundNodes : node ∈ outboundNodes (some snapshot) ↔
    ∃ group, (outboundGroups (some snapshot))[node.groupIndex]? = some group ∧
      node ∈ group.nodes node.groupIndex := by
  simp only [outboundNodes, List.mem_flatMap, Prod.exists, List.mem_zipIdx_iff_getElem?]
  constructor
  · rintro ⟨group, index, hgroup, hnode⟩
    have hindex : node.groupIndex = index := by
      rcases List.mem_cons.mp hnode with rfl | hchild
      · rfl
      · obtain ⟨_, -, rfl⟩ := List.mem_map.mp hchild
        rfl
    exact ⟨group, hindex ▸ hgroup, hindex ▸ hnode⟩
  · rintro ⟨group, hgroup, hnode⟩
    exact ⟨group, _, hgroup, hnode⟩

theorem mem_children {path : String} {rules : List Rule} :
    (path, rules) ∈ group.children ↔ (∃ root, group.key = .cgroup root) ∧
      rules = group.rules.filter (fun rule => decide (visibleExecutable rule = some path)) ∧
      rules ≠ [] := by
  unfold OutboundGroup.children
  cases hkey : group.key with
  | cgroup root => simpa using OrderedMap.mem_groupOn
  | executable path => simp
  | destination network => simp

theorem mem_nodes {index : ℕ} (h : node ∈ group.nodes index) :
    node.key = group.key ∧ (node.executable = none ∧ node.rules = group.rules ∨
      ∃ path, node.executable = some path ∧ (path, node.rules) ∈ group.children) := by
  rcases List.mem_cons.mp h with rfl | hchild
  · exact ⟨rfl, .inl ⟨rfl, rfl⟩⟩
  · obtain ⟨⟨⟨path, rules⟩, index⟩, hentry, rfl⟩ := List.mem_map.mp hchild
    have hmem := List.mem_of_getElem? (List.mem_zipIdx_iff_getElem?.mp hentry)
    exact ⟨rfl, .inr ⟨path, rfl, hmem⟩⟩

/-- A row is not empty and lists the rules that belong to it. Only control groups have children. -/
theorem node_rules (h : node ∈ outboundNodes (some snapshot)) :
    node.rules ≠ [] ∧ node.rules.Perm (snapshot.rules.filter fun rule => decide (node.Holds rule)) ∧
      (node.executable ≠ none → ∃ root, node.key = .cgroup root) := by
  obtain ⟨group, hgroup, hnode⟩ := mem_outboundNodes.mp h
  obtain ⟨hsome, hperm⟩ := mem_outboundGroups (List.mem_of_getElem? hgroup)
  obtain ⟨hkey, ⟨hnone, hrules⟩ | ⟨path, hpath, hchild⟩⟩ := mem_nodes hnode
  · rw [hrules]
    refine ⟨hsome, hperm.trans (.of_eq ?_), fun hnot => absurd hnone hnot⟩
    simp [OutboundNode.Holds, hnone, hkey]
  · obtain ⟨hroot, hrules, hsome⟩ := mem_children.mp hchild
    refine ⟨hsome, ?_, fun _ => hkey ▸ hroot⟩
    rw [hrules]
    refine (hperm.filter _).trans (.of_eq ?_)
    rw [List.filter_filter]
    simp [OutboundNode.Holds, hpath, hkey, and_comm]

theorem mem_node_rules (h : node ∈ outboundNodes (some snapshot)) {rule : Rule} :
    rule ∈ node.rules ↔ rule ∈ snapshot.rules ∧ node.Holds rule := by
  rw [(node_rules h).2.1.mem_iff, List.mem_filter, decide_eq_true_iff]

theorem selector?_matches (any : String) {rule : Rule} (hrule : node.Holds rule)
    (hroot : node.executable ≠ none → ∃ root, node.key = .cgroup root) :
    ∃ selector label, node.selector? any = some (selector, label) ∧
      ∀ other, selector.matchesRule other = true ↔ node.Holds other := by
  have happlication (path : ApplicationPath) :
      (ApplicationPath.new path.value).toOption = some path := by
    simp [ApplicationPath.new, path.valid, Except.toOption]
  have hcgroup (path : CgroupPath) : (CgroupPath.new path.value).toOption = some path := by
    simp [CgroupPath.new, path.valid, Except.toOption]
  have hplain (hnot : ∀ root, node.key ≠ .cgroup root) : node.executable = none := by
    by_contra hsome
    obtain ⟨root, hcgroup⟩ := hroot hsome
    exact hnot root hcgroup
  rcases OutboundGroupKey.fromRule_cases hrule.1 with ⟨root, hkey⟩ | ⟨path, hkey⟩ | ⟨network, hkey⟩
  · -- a root or a child of a control group
    cases hexecutable : node.executable with
    | none =>
      refine ⟨.cgroup root none, root.value, ?_, fun other => ?_⟩
      · simp [OutboundNode.selector?, hkey, hexecutable, hcgroup]
      · rw [OutboundGroupSelector.matchesRule_cgroup, OutboundNode.Holds, hkey, hexecutable]
        simp
    | some text =>
      obtain ⟨path, rfl⟩ := visibleExecutable_eq_some (hrule.2 text hexecutable)
      refine ⟨.cgroup root (some path), root.value ++ " → " ++ path.value, ?_, fun other => ?_⟩
      · simp [OutboundNode.selector?, hkey, hexecutable, hcgroup, happlication]
      · rw [OutboundGroupSelector.matchesRule_cgroup, OutboundNode.Holds, hkey, hexecutable]
        simp
  · have hexecutable := hplain fun root hcgroup => by cases hkey.symm.trans hcgroup
    refine ⟨.executable path, path.value, ?_, fun other => ?_⟩
    · simp [OutboundNode.selector?, hkey, happlication]
    · rw [OutboundGroupSelector.matchesRule_executable, OutboundNode.Holds, hkey, hexecutable]
      simp
  · have hexecutable := hplain fun root hcgroup => by cases hkey.symm.trans hcgroup
    refine ⟨.destination (network.map IpNet.trunc),
      (network.map IpNet.trunc).elim any IpNet.display, ?_, fun other => ?_⟩
    · rw [OutboundNode.selector?, hkey]
    · rw [OutboundGroupSelector.matchesRule_destination, OutboundNode.Holds, hkey, hexecutable]
      simp

/-- No two rows are at the same place. -/
theorem nodup_positions (snapshot : Snapshot) : ((outboundNodes (some snapshot)).map fun node =>
    (node.groupIndex, node.executable)).Nodup := by
  have hchildren (group : OutboundGroup) : (group.children.map Prod.fst).Nodup := by
    unfold OutboundGroup.children
    split
    · exact OrderedMap.nodup_keys _
    · exact List.nodup_nil
  have hplaces (group : OutboundGroup) (index : ℕ) :
      (group.nodes index).map (fun node => (node.groupIndex, node.executable)) =
        (index, none) :: (group.children.map Prod.fst).map fun path => (index, some path) := by
    unfold OutboundGroup.nodes
    rw [List.map_cons, List.map_map, List.map_map]
    congr 1
    conv_rhs => rw [← List.zipIdx_map_fst 0 group.children, List.map_map]
    exact List.map_congr_left fun entry _ => rfl
  rw [outboundNodes, List.map_flatMap, List.nodup_flatMap]
  refine ⟨fun ⟨group, index⟩ _ => ?_, ?_⟩
  · rw [hplaces, List.nodup_cons]
    refine ⟨by simp, (hchildren group).map fun a b h => ?_⟩
    simpa using h
  · -- rows of different groups differ in the index
    have hindices : ((outboundGroups (some snapshot)).zipIdx.map Prod.snd).Nodup := by
      rw [List.zipIdx_map_snd]
      exact List.nodup_range'
    refine (List.pairwise_map.mp hindices).imp fun {a b} hne => ?_
    obtain ⟨first, i⟩ := a
    obtain ⟨second, j⟩ := b
    simp only [Function.onFun, hplaces]
    intro place hfirst hsecond
    have hi : place.1 = i := by
      rcases List.mem_cons.mp hfirst with rfl | hchild
      · rfl
      · obtain ⟨_, -, rfl⟩ := List.mem_map.mp hchild
        rfl
    have hj : place.1 = j := by
      rcases List.mem_cons.mp hsecond with rfl | hchild
      · rfl
      · obtain ⟨_, -, rfl⟩ := List.mem_map.mp hchild
        rfl
    exact hne (hi.symm.trans hj)

theorem node_eq_of_place {a b : OutboundNode} (ha : a ∈ outboundNodes (some snapshot))
    (hb : b ∈ outboundNodes (some snapshot)) (hindex : a.groupIndex = b.groupIndex)
    (hexecutable : a.executable = b.executable) : a = b :=
  List.inj_on_of_nodup_map (nodup_positions snapshot) ha hb (Prod.ext hindex hexecutable)

theorem exists_selectedOutboundNodeIndex (h : node ∈ outboundNodes (some snapshot)) :
    ∃ index, selectedOutboundNodeIndex (outboundNodes (some snapshot)) node.groupIndex
      node.executable = some index ∧ (outboundNodes (some snapshot))[index]? = some node := by
  obtain ⟨index, hindex⟩ : ∃ index, selectedOutboundNodeIndex (outboundNodes (some snapshot))
      node.groupIndex node.executable = some index := by
    refine Option.isSome_iff_exists.mp ?_
    rw [selectedOutboundNodeIndex, List.findIdx?_isSome, List.any_eq_true]
    exact ⟨node, h, by simp⟩
  obtain ⟨hlt, hplace, -⟩ := List.findIdx?_eq_some_iff_getElem.mp hindex
  rw [Bool.and_eq_true, decide_eq_true_iff, decide_eq_true_iff] at hplace
  have hnode := node_eq_of_place (List.getElem_mem hlt) h hplace.1 hplace.2
  refine ⟨index, hindex, ?_⟩
  rw [List.getElem?_eq_getElem hlt, hnode]

theorem selectedGroupTarget_eq (any : String) (h : node ∈ outboundNodes (some snapshot)) :
    selectedGroupTarget any (some snapshot) node.groupIndex node.executable =
      (node.selector? any).map fun found => ⟨found.1, found.2, node.rules.length⟩ := by
  obtain ⟨index, hindex, hget⟩ := exists_selectedOutboundNodeIndex h
  unfold selectedGroupTarget
  simp only [hindex, hget, Option.bind_eq_bind, Option.bind_some]
  cases node.selector? any <;> rfl

theorem root_eq_of_key {a b : OutboundNode} (ha : a ∈ outboundNodes (some snapshot))
    (hb : b ∈ outboundNodes (some snapshot)) (hkey : a.key = b.key) :
    a.groupIndex = b.groupIndex := by
  obtain ⟨first, hfirst, ha⟩ := mem_outboundNodes.mp ha
  obtain ⟨second, hsecond, hb⟩ := mem_outboundNodes.mp hb
  have hkeys : ((outboundGroups (some snapshot)).map (·.key)).Nodup := by
    rw [outboundGroups, List.map_map]
    exact OrderedMap.nodup_keys _
  have hlt := (List.getElem?_eq_some_iff.mp hfirst).1
  refine (List.getElem?_inj (by rwa [List.length_map]) hkeys).mp ?_
  rw [List.getElem?_map, List.getElem?_map, hfirst, hsecond]
  exact congrArg some ((mem_nodes ha).1.symm.trans (hkey.trans (mem_nodes hb).1))

theorem exists_root {rule : Rule} (hmem : rule ∈ snapshot.rules)
    (hdirection : rule.spec.direction = .outbound) :
    ∃ node ∈ outboundNodes (some snapshot), node.executable = none ∧ rule ∈ node.rules := by
  obtain ⟨key, hkey⟩ : ∃ key, OutboundGroupKey.fromRule rule = some key :=
    Option.ne_none_iff_exists'.mp fun hnone =>
      OutboundGroupKey.fromRule_eq_none_iff.mp hnone hdirection
  obtain ⟨members, hentry, -⟩ := OrderedMap.exists_mem_groupOn hmem hkey
  obtain ⟨index, hindex⟩ := List.mem_iff_getElem?.mp
    (List.mem_map_of_mem (f := fun entry : OutboundGroupKey × List Rule =>
      (⟨entry.1, entry.2.mergeSort fun left right =>
        (compareRuleMembers left right).isLE⟩ : OutboundGroup)) hentry)
  have hnode := (@mem_outboundNodes snapshot ⟨key, none, false, _, index⟩).mpr
    ⟨_, hindex, List.mem_cons_self⟩
  exact ⟨_, hnode, rfl, (mem_node_rules hnode).mpr ⟨hmem, hkey, nofun⟩⟩

theorem exists_child {root : OutboundNode} {cgroup path : String} {rule : Rule}
    (hroot : root ∈ outboundNodes (some snapshot)) (hnone : root.executable = none)
    (hcgroup : root.key = .cgroup cgroup) (hmem : rule ∈ root.rules)
    (hpath : visibleExecutable rule = some path) :
    ∃ node ∈ outboundNodes (some snapshot), node.groupIndex = root.groupIndex ∧
      node.executable = some path ∧ rule ∈ node.rules := by
  obtain ⟨group, hgroup, hnode⟩ := mem_outboundNodes.mp hroot
  obtain ⟨hkey, ⟨-, hrules⟩ | ⟨_, hsome, -⟩⟩ := mem_nodes hnode
  · rw [hrules] at hmem
    obtain ⟨members, hentry, hmember⟩ := OrderedMap.exists_mem_groupOn hmem hpath
    have hchild : (path, members) ∈ group.children := by
      simpa [OutboundGroup.children, ← hkey, hcgroup] using hentry
    obtain ⟨index, hindex⟩ := List.mem_iff_getElem?.mp hchild
    have hrow := (@mem_outboundNodes snapshot ⟨group.key, some path,
      decide (index + 1 = group.children.length), members, root.groupIndex⟩).mpr
        ⟨group, hgroup, List.mem_cons_of_mem _ (List.mem_map.mpr
          ⟨((path, members), index), List.mem_zipIdx_iff_getElem?.mpr hindex, rfl⟩)⟩
    exact ⟨_, hrow, rfl, rfl, hmember⟩
  · cases hnone.symm.trans hsome

theorem key_eq_of_groupIndex {a b : OutboundNode} (ha : a ∈ outboundNodes (some snapshot))
    (hb : b ∈ outboundNodes (some snapshot)) (hindex : a.groupIndex = b.groupIndex) :
    a.key = b.key := by
  obtain ⟨first, hfirst, ha⟩ := mem_outboundNodes.mp ha
  obtain ⟨second, hsecond, hb⟩ := mem_outboundNodes.mp hb
  rw [hindex, hsecond] at hfirst
  cases hfirst
  exact (mem_nodes ha).1.trans (mem_nodes hb).1.symm

end Nodes

def childrenOf (nodes : List OutboundNode) (root : OutboundNode) : List OutboundNode :=
  nodes.filter fun node => decide (node.groupIndex = root.groupIndex) && node.executable.isSome

/-- A row of the tree holds exactly the rules that the daemon changes for it. The roots divide the
outbound rules, and the children of a control group those of its rules that have an executable. -/
theorem outboundNodes_match_selectors (any : String) (snapshot : Snapshot)
    (hvisible : ∀ rule ∈ snapshot.rules, ∀ application ∈ rule.spec.application,
      application.metadataRedacted = false) :
    (outboundNodes (some snapshot)).Nodup ∧
    (∀ node ∈ outboundNodes (some snapshot), ∃ target,
      selectedGroupTarget any (some snapshot) node.groupIndex node.executable = some target ∧
      node.rules.Perm (snapshot.rules.filter target.selector.matchesRule) ∧
      target.count = node.rules.length) ∧
    (∀ rule ∈ snapshot.rules, rule.spec.direction = .outbound →
      ∃! node, node ∈ outboundNodes (some snapshot) ∧ node.executable = none ∧
        rule ∈ node.rules) ∧
    (∀ root ∈ outboundNodes (some snapshot), root.executable = none → ∀ path,
      root.key = .cgroup path →
        (childrenOf (outboundNodes (some snapshot)) root).Pairwise
          (fun a b => List.Disjoint a.rules b.rules) ∧
        ∀ rule, (∃ child ∈ childrenOf (outboundNodes (some snapshot)) root, rule ∈ child.rules) ↔
          rule ∈ root.rules ∧ ∃ application ∈ rule.spec.application,
            application.executable ≠ none) ∧
    ∀ node ∈ outboundNodes (some snapshot), ∀ rule ∈ node.rules,
      rule ∈ snapshot.rules ∧ rule.spec.direction = .outbound := by
  refine ⟨(nodup_positions snapshot).of_map, fun node hnode => ?_, fun rule hrule hdirection => ?_,
    fun root hroot hnone path hpath => ⟨?_, fun rule => ?_⟩, fun node hnode rule hrule => ?_⟩
  · -- some rule of the row shows that its paths are valid
    obtain ⟨hsome, hperm, hcgroup⟩ := node_rules hnode
    obtain ⟨rule, hrule⟩ := List.exists_mem_of_ne_nil _ hsome
    obtain ⟨selector, label, hselector, hmatches⟩ :=
      selector?_matches any ((mem_node_rules hnode).mp hrule).2 hcgroup
    refine ⟨⟨selector, label, node.rules.length⟩, ?_, ?_, rfl⟩
    · rw [selectedGroupTarget_eq any hnode, hselector]
      rfl
    · refine hperm.trans (.of_eq (List.filter_congr fun other _ => ?_))
      rw [Bool.eq_iff_iff, decide_eq_true_iff, hmatches]
  · obtain ⟨node, hnode, hnone, hmem⟩ := exists_root hrule hdirection
    refine ⟨node, ⟨hnode, hnone, hmem⟩, ?_⟩
    rintro other ⟨hother, hnone', hmem'⟩
    have hkey := ((mem_node_rules hother).mp hmem').2.1.symm.trans
      ((mem_node_rules hnode).mp hmem).2.1
    exact node_eq_of_place hother hnode (root_eq_of_key hother hnode (Option.some.inj hkey))
      (hnone'.trans hnone.symm)
  · refine ((nodup_positions snapshot).of_map.filter _).pairwise_of_forall_ne
      fun a ha b hb hne rule hrule hrule' => hne ?_
    simp only [List.mem_filter, Bool.and_eq_true, decide_eq_true_iff,
      Option.isSome_iff_exists] at ha hb
    obtain ⟨ha, haindex, first, hfirst⟩ := ha
    obtain ⟨hb, hbindex, second, hsecond⟩ := hb
    have hfirst' := ((mem_node_rules ha).mp hrule).2.2 first hfirst
    have hsecond' := ((mem_node_rules hb).mp hrule').2.2 second hsecond
    refine node_eq_of_place ha hb (haindex.trans hbindex.symm) ?_
    rw [hfirst, hsecond, ← hfirst', ← hsecond']
  · simp only [childrenOf, List.mem_filter, Bool.and_eq_true, decide_eq_true_iff,
      Option.isSome_iff_exists]
    constructor
    · rintro ⟨child, ⟨hchild, hindex, path, hexecutable⟩, hmem⟩
      obtain ⟨hrule, hkey, hvisibleRule⟩ := (mem_node_rules hchild).mp hmem
      rw [key_eq_of_groupIndex hchild hroot hindex] at hkey
      refine ⟨(mem_node_rules hroot).mpr ⟨hrule, hkey, by simp [hnone]⟩, ?_⟩
      exact executable_of_visible (hvisibleRule path hexecutable)
    · rintro ⟨hmem, application, happlication, hexecutable⟩
      have hrule := ((mem_node_rules hroot).mp hmem).1
      obtain ⟨found, hfound⟩ := visible_of_executable happlication
        (hvisible rule hrule application happlication) hexecutable
      obtain ⟨child, hchild, hindex, hsome, hin⟩ := exists_child hroot hnone hpath hmem hfound
      exact ⟨child, ⟨hchild, hindex, found, hsome⟩, hin⟩
  · obtain ⟨hmem, hkey, -⟩ := (mem_node_rules hnode).mp hrule
    refine ⟨hmem, ?_⟩
    by_contra hdirection
    cases hkey.symm.trans (OutboundGroupKey.fromRule_eq_none_iff.mpr hdirection)

def Sample.ruleTree : Snapshot :=
  { revision := 1, flowGeneration := 1, mode := .enforcing
    rules := [Sample.rule .outbound .accept (some Sample.selector),
      { Sample.rule .inbound .accept none with id := 2 }] }

theorem outboundNodes_match_selectors_sample :
    ∃! node, node ∈ outboundNodes (some Sample.ruleTree) ∧ node.executable = none ∧
      Sample.rule .outbound .accept (some Sample.selector) ∈ node.rules := by
  have hvisible : ∀ rule ∈ Sample.ruleTree.rules, ∀ application ∈ rule.spec.application,
      application.metadataRedacted = false := by decide +kernel
  exact (outboundNodes_match_selectors "any" Sample.ruleTree hvisible).2.2.1 _
    List.mem_cons_self rfl

end OpenShield
