import OpenShield.Daemon.Transactions

/-!
# Actions on groups of outbound rules

A client can delete, switch or give a verdict to a whole group of outbound rules. The members are
looked up once and then changed one after the other, through the same mutators that serve single
rules; those pin and unpin executables on the way. The candidate is committed as a whole.
-/

namespace OpenShield

open Except (bind_eq_ok_iff bind_unit_eq_ok_iff)

/-! ### What becomes of a member -/

def CanonicalPath (input : ControlInput) (selector : ApplicationSelector) : Prop :=
  ∀ path ∈ selector.executable, ∀ n found, input.executable n path = .ok found → found.1 = path

/-- A selector that is kept up to its pin. The pin may be added where there was none, or taken off
where the second argument says so. -/
structure KeepsSelector (input : ControlInput) (unpinned : Prop)
    (before after : ApplicationSelector) : Prop where
  commandLine : after.commandLine = before.commandLine
  uid : after.uid = before.uid
  cgroup : after.cgroup = before.cgroup
  metadataRedacted : after.metadataRedacted = before.metadataRedacted
  executable : CanonicalPath input before → after.executable = before.executable
  executableFile : after.executableFile = before.executableFile ∨ before.executableFile = none ∨
    unpinned

def OutboundGroupAction.enabledAfter : OutboundGroupAction → Bool → Bool
  | .enable, _ => true
  | .disable, _ => false
  | _, enabled => enabled

def OutboundGroupAction.verdictAfter : OutboundGroupAction → RuleAction → RuleAction
  | .accept, _ => .accept
  | .reject, _ => .reject
  | .drop, _ => .drop
  | _, verdict => verdict

/-- What a group action that keeps its members makes of one. Only the named property, the time of
the update and the pin may differ, and the pin is only taken off a disabled skeleton. -/
structure MemberChange (input : ControlInput) (action : OutboundGroupAction)
    (before after : Rule) : Prop where
  id : after.id = before.id
  createdAt : after.createdAt = before.createdAt
  updatedAt : before.updatedAt ≤ after.updatedAt
  spec : after.spec =
    { before.spec with
      enabled := action.enabledAfter before.spec.enabled
      action := action.verdictAfter before.spec.action
      application := after.spec.application }
  application : Option.Rel
    (KeepsSelector input (isUnpinnedApplicationTemplate after.spec = true))
    before.spec.application after.spec.application

/-- The event that reports a changed member; `after` is the state with all changes. -/
def ReportsMember (action : OutboundGroupAction) (after : State) (member : Rule) (event : Event) :
    Prop :=
  if action = .delete then event.kind = .ruleDeleted member
  else ∃ rule, after.rules.get? member.id = some rule ∧
    (event.kind = .ruleUpdated rule ∨ event.kind = .ruleEnabledChanged rule)

structure GroupChanged (input : ControlInput) (group : OutboundGroupSelector)
    (action : OutboundGroupAction) (before after : State) (events : List Event) : Prop where
  mode : after.mode = before.mode
  enforcementStrategy : after.enforcementStrategy = before.enforcementStrategy
  others : ∀ rule ∈ before.rules.values, group.matchesRule rule = false →
    after.rules.get? rule.id = some rule
  created : ∀ id, before.rules.get? id = none → after.rules.get? id = none
  deleted : action = .delete → ∀ member ∈ before.rules.values, group.matchesRule member = true →
    after.rules.get? member.id = none
  kept : action ≠ .delete → ∀ member ∈ before.rules.values, group.matchesRule member = true →
    ∃ rule, after.rules.get? member.id = some rule ∧ MemberChange input action member rule
  revisions : events.map (fun event => event.revision.toNat) =
    List.range' (before.revision.toNat + 1) (before.rules.values.filter group.matchesRule).length
  reports : List.Forall₂ (ReportsMember action after)
    (before.rules.values.filter group.matchesRule) events

/-! ### Pins -/

section Pins

variable {input : ControlInput} {p : Prop}

theorem KeepsSelector.refl (input : ControlInput) (p : Prop) (selector : ApplicationSelector) :
    KeepsSelector input p selector selector :=
  ⟨rfl, rfl, rfl, rfl, fun _ => rfl, .inl rfl⟩

theorem KeepsSelector.trans {a b c : ApplicationSelector} (h : KeepsSelector input False a b)
    (h' : KeepsSelector input p b c) : KeepsSelector input p a c where
  commandLine := h'.commandLine.trans h.commandLine
  uid := h'.uid.trans h.uid
  cgroup := h'.cgroup.trans h.cgroup
  metadataRedacted := h'.metadataRedacted.trans h.metadataRedacted
  executable hcanonical := by
    have hab := h.executable hcanonical
    have hb : CanonicalPath input b := by
      intro path hpath
      rw [hab] at hpath
      exact hcanonical path hpath
    exact (h'.executable hb).trans hab
  executableFile := by
    rcases h.executableFile with hab | hnone | hfalse
    · rcases h'.executableFile with hbc | hnone | hunpinned
      · exact .inl (hbc.trans hab)
      · exact .inr (.inl (hab.symm.trans hnone))
      · exact .inr (.inr hunpinned)
    · exact .inr (.inl hnone)
    · exact hfalse.elim

theorem rel_keepsSelector_refl (application : Option ApplicationSelector) :
    Option.Rel (KeepsSelector input p) application application := by
  cases application with
  | none => exact .none
  | some selector => exact .some (.refl input p selector)

theorem rel_keepsSelector_trans {a b c : Option ApplicationSelector}
    (h : Option.Rel (KeepsSelector input False) a b) (h' : Option.Rel (KeepsSelector input p) b c) :
    Option.Rel (KeepsSelector input p) a c := by
  cases h with
  | none => exact h'
  | some hab =>
    cases h' with
    | some hbc => exact .some (hab.trans hbc)

theorem pinRuleApplication_keeps {n : ℕ} {spec pinned : RuleSpec}
    (h : pinRuleApplication (input.executable n) spec = .ok pinned) :
    pinned = { spec with application := pinned.application } ∧
      Option.Rel (KeepsSelector input False) spec.application pinned.application := by
  unfold pinRuleApplication at h
  cases happlication : spec.application with
  | none =>
    rw [happlication] at h
    cases h
    rw [happlication]
    exact ⟨by rw [← happlication], .none⟩
  | some selector =>
    simp only [happlication] at h
    cases hpath : selector.executable with
    | none =>
      rw [hpath] at h
      cases h
    | some path =>
      rw [hpath] at h
      obtain ⟨⟨canonical, actual⟩, hfound, h⟩ := bind_eq_ok_iff.mp h
      obtain ⟨hexpected, h⟩ := bind_unit_eq_ok_iff.mp h
      have hsame := (ensure_eq_ok_iff _ _ ()).mp hexpected
      split at h
      · cases h
        refine ⟨rfl, .some ⟨rfl, rfl, rfl, rfl, fun hcanonical => ?_, ?_⟩⟩
        · rw [hpath, ← hcanonical path hpath n _ hfound]
        · cases hfile : selector.executableFile with
          | none => exact .inr (.inl rfl)
          | some expected =>
            rw [hfile, Option.all_some, decide_eq_true_eq] at hsame
            exact .inl (congrArg some hsame.symm)
      · cases h

theorem clearDisabledTemplatePinIfSkeleton_keeps (input : ControlInput) (spec : RuleSpec) :
    clearDisabledTemplatePinIfSkeleton spec =
        { spec with application := (clearDisabledTemplatePinIfSkeleton spec).application } ∧
      Option.Rel (KeepsSelector input
          (isUnpinnedApplicationTemplate (clearDisabledTemplatePinIfSkeleton spec) = true))
        spec.application (clearDisabledTemplatePinIfSkeleton spec).application := by
  by_cases hother : spec.origin ≠ .template ∨ spec.enabled ∨ spec.action ≠ .accept ∨
      spec.direction ≠ .outbound ∨ spec.protocol ≠ .any ∨ spec.peerNetwork ≠ none ∨
      spec.port ≠ none ∨ spec.interface ≠ none
  · have hsame : clearDisabledTemplatePinIfSkeleton spec = spec := by
      rw [clearDisabledTemplatePinIfSkeleton, if_pos hother]
    rw [hsame]
    exact ⟨rfl, rel_keepsSelector_refl _⟩
  cases happlication : spec.application with
  | none =>
    have hsame : clearDisabledTemplatePinIfSkeleton spec = spec := by
      rw [clearDisabledTemplatePinIfSkeleton, if_neg hother, happlication]
    rw [hsame, happlication]
    exact ⟨by rw [← happlication], .none⟩
  | some selector =>
    by_cases hbroad : (selector.executable.isSome && selector.commandLine.isNone &&
        selector.uid.isNone && !selector.metadataRedacted) = true
    · have hcleared : clearDisabledTemplatePinIfSkeleton spec =
          { spec with application := some { selector with executableFile := none } } := by
        rw [clearDisabledTemplatePinIfSkeleton, if_neg hother, happlication]
        simp only [hbroad, if_true]
      rw [hcleared]
      refine ⟨rfl, .some ⟨rfl, rfl, rfl, rfl, fun _ => rfl, .inr (.inr ?_)⟩⟩
      simp only [not_or, not_not, Bool.not_eq_true] at hother
      simp only [Bool.and_eq_true] at hbroad
      simp [isUnpinnedApplicationTemplate, hother, hbroad]
    · have hsame : clearDisabledTemplatePinIfSkeleton spec = spec := by
        rw [clearDisabledTemplatePinIfSkeleton, if_neg hother, happlication]
        simp only [hbroad]
        rfl
      rw [hsame, happlication]
      exact ⟨by rw [← happlication], rel_keepsSelector_refl _⟩

theorem memberChange_of_stored {action : OutboundGroupAction} {member rule : Rule}
    {stored : RuleSpec} {now : Timestamp}
    (hstored : stored =
      { member.spec with
        enabled := action.enabledAfter member.spec.enabled
        action := action.verdictAfter member.spec.action
        application := stored.application })
    (hpin : Option.Rel (KeepsSelector input False) member.spec.application stored.application)
    (hrule : rule = { member with
      spec := clearDisabledTemplatePinIfSkeleton stored
      updatedAt := max now member.updatedAt }) :
    MemberChange input action member rule := by
  obtain ⟨hspec, hkeeps⟩ := clearDisabledTemplatePinIfSkeleton_keeps input stored
  subst hrule
  refine ⟨rfl, rfl, le_max_right _ _, ?_, rel_keepsSelector_trans hpin hkeeps⟩
  -- the application is the one of the stored rule on both sides
  calc clearDisabledTemplatePinIfSkeleton stored
      = { stored with
          application := (clearDisabledTemplatePinIfSkeleton stored).application } := hspec
    _ = _ := by rw [hstored]

end Pins

/-! ### One member -/

section Member

variable {input : ControlInput} {n : ℕ} {s t : State} {member : Rule} {events : List Event}
  {affected : Option Rule}

inductive MemberStep (input : ControlInput) (action : OutboundGroupAction) (s : State)
    (member : Rule) : State → List Event → Prop
  | deleted {t : State} {event : Event} (action_eq : action = .delete)
      (rules : t.rules = s.rules.erase member.id) (mode : t.mode = s.mode)
      (strategy : t.enforcementStrategy = s.enforcementStrategy)
      (kind : event.kind = .ruleDeleted member) : MemberStep input action s member t [event]
  | replaced {t : State} {event : Event} (action_ne : action ≠ .delete) (rule : Rule)
      (change : MemberChange input action member rule)
      (rules : t.rules = s.rules.insert member.id rule) (mode : t.mode = s.mode)
      (strategy : t.enforcementStrategy = s.enforcementStrategy)
      (kind : event.kind = .ruleUpdated rule ∨ event.kind = .ruleEnabledChanged rule) :
      MemberStep input action s member t [event]

variable {action : OutboundGroupAction}

theorem memberStep_of_update {stored : RuleSpec} {now : Timestamp}
    {rule : Rule} {event : Event} (haction : action ≠ .delete)
    (hmember : s.rules.get? member.id = some member)
    (h : s.updateRuleAt member.id stored now = .ok (t, rule, event))
    (hstored : stored =
      { member.spec with
        enabled := action.enabledAfter member.spec.enabled
        action := action.verdictAfter member.spec.action
        application := stored.application })
    (hpin : Option.Rel (KeepsSelector input False) member.spec.application stored.application) :
    MemberStep input action s member t [event] := by
  obtain ⟨_, _, _, hcurrent, -, hrule, -, -, -, rfl, rfl⟩ := State.updateRuleAt_eq_ok h
  cases hmember.symm.trans hcurrent
  exact .replaced haction rule (memberChange_of_stored hstored hpin hrule) rfl rfl rfl (.inl rfl)

theorem applyGroupVerdict_step
    (haction : action = .accept ∨ action = .reject ∨ action = .drop)
    (hmember : s.rules.get? member.id = some member)
    (h : applyGroupVerdict input n s member action.ruleAction = .ok (t, events, affected)) :
    MemberStep input action s member t events := by
  unfold applyGroupVerdict at h
  obtain ⟨stored, hspec, h⟩ := bind_eq_ok_iff.mp h
  obtain ⟨⟨t, updated, event⟩, hupdate, h⟩ := bind_eq_ok_iff.mp h
  cases h
  have hne : action ≠ .delete := by rcases haction with rfl | rfl | rfl <;> decide
  have hbase : { member.spec with action := action.ruleAction } =
      { member.spec with
        enabled := action.enabledAfter member.spec.enabled
        action := action.verdictAfter member.spec.action } := by
    rcases haction with rfl | rfl | rfl <;> rfl
  rw [specForVerdict, hbase] at hspec
  split_ifs at hspec with hpins
  · -- a rule that starts to deny is pinned first
    cases hpin : pinRuleApplication (input.executable n)
        { member.spec with
          enabled := action.enabledAfter member.spec.enabled
          action := action.verdictAfter member.spec.action } with
    | error message =>
      rw [hpin] at hspec
      cases hspec
    | ok pinned =>
      rw [hpin] at hspec
      cases hspec
      obtain ⟨hstored, hkeeps⟩ := pinRuleApplication_keeps hpin
      exact memberStep_of_update hne hmember (liftCore_eq_ok_iff.mp hupdate) hstored hkeeps
  · cases hspec
    exact memberStep_of_update hne hmember (liftCore_eq_ok_iff.mp hupdate) rfl
      (rel_keepsSelector_refl _)

theorem applySetRuleEnabled_step {enabled : Bool}
    (haction : action = if enabled then .enable else .disable)
    (hmember : s.rules.get? member.id = some member)
    (h : applySetRuleEnabled input n s member.id enabled = .ok (t, events, affected)) :
    MemberStep input action s member t events := by
  have hne : action ≠ .delete := by subst haction; cases enabled <;> decide
  have hbase (spec : RuleSpec) : { spec with enabled } =
      { spec with
        enabled := action.enabledAfter spec.enabled
        action := action.verdictAfter spec.action } := by
    subst haction
    cases enabled <;> rfl
  unfold applySetRuleEnabled at h
  rw [hmember] at h
  dsimp only at h
  split_ifs at h with hpins
  · -- a skeleton is pinned before it is enabled
    obtain ⟨spec, hspec, h⟩ := bind_eq_ok_iff.mp h
    obtain ⟨⟨t, updated, event⟩, hupdate, h⟩ := bind_eq_ok_iff.mp h
    cases h
    cases hpin : pinRuleApplication (input.executable n) member.spec with
    | error message =>
      rw [hpin] at hspec
      cases hspec
    | ok pinned =>
      rw [hpin] at hspec
      cases hspec
      obtain ⟨hstored, hkeeps⟩ := pinRuleApplication_keeps hpin
      have henabled : enabled = true := (Bool.and_eq_true_iff.mp hpins).1
      refine memberStep_of_update hne hmember (liftCore_eq_ok_iff.mp hupdate) ?_ hkeeps
      have hmade := hbase { member.spec with application := spec.application }
      rw [henabled] at hmade
      dsimp only at hmade ⊢
      rw [← hmade]
      conv_lhs => rw [hstored]
  · obtain ⟨⟨t, updated, event⟩, hswitch, h⟩ := bind_eq_ok_iff.mp h
    cases h
    obtain ⟨_, _, _, hcurrent, -, hrule, -, -, -, rfl, rfl⟩ :=
      State.setRuleEnabledAt_eq_ok (liftCore_eq_ok_iff.mp hswitch)
    cases hmember.symm.trans hcurrent
    exact .replaced hne updated (memberChange_of_stored (hbase member.spec)
      (rel_keepsSelector_refl _) hrule) rfl rfl rfl (.inr rfl)

theorem applyGroupMember_step
    (hmember : s.rules.get? member.id = some member)
    (h : applyGroupMember input n s member action = .ok (t, events, affected)) :
    MemberStep input action s member t events := by
  cases action with
  | delete =>
    obtain ⟨⟨t, deleted, event⟩, hdelete, h⟩ := bind_eq_ok_iff.mp h
    cases h
    obtain ⟨_, _, hget, -, -, rfl, rfl⟩ := State.deleteRuleAt_eq_ok (liftCore_eq_ok_iff.mp hdelete)
    rw [hmember] at hget
    cases hget
    exact .deleted rfl rfl rfl rfl rfl
  | accept => exact applyGroupVerdict_step (.inl rfl) hmember h
  | reject => exact applyGroupVerdict_step (.inr (.inl rfl)) hmember h
  | drop => exact applyGroupVerdict_step (.inr (.inr rfl)) hmember h
  | enable => exact applySetRuleEnabled_step rfl hmember h
  | disable => exact applySetRuleEnabled_step rfl hmember h

theorem MemberStep.get?_of_ne
    (h : MemberStep input action s member t events) {id : Uuid} (hid : id ≠ member.id) :
    t.rules.get? id = s.rules.get? id := by
  cases h with
  | deleted _ rules => rw [rules, OrderedMap.get?_erase, if_neg hid]
  | replaced _ rule _ rules => rw [rules, OrderedMap.get?_insert, if_neg hid]

end Member

/-! ### All members -/

structure MembersChanged (input : ControlInput) (action : OutboundGroupAction) (s : State)
    (members : List Rule) (t : State) (events : List Event) : Prop where
  mode : t.mode = s.mode
  enforcementStrategy : t.enforcementStrategy = s.enforcementStrategy
  others : ∀ id, id ∉ members.map Rule.id → t.rules.get? id = s.rules.get? id
  deleted : action = .delete → ∀ member ∈ members, t.rules.get? member.id = none
  kept : action ≠ .delete → ∀ member ∈ members,
    ∃ rule, t.rules.get? member.id = some rule ∧ MemberChange input action member rule
  reports : List.Forall₂ (ReportsMember action t) members events

section Members

variable {input : ControlInput} {action : OutboundGroupAction} {s t u : State} {member : Rule}
  {members : List Rule} {changed events events' : List Event}

theorem MembersChanged.cons (hstep : MemberStep input action s member t changed)
    (hfresh : member.id ∉ members.map Rule.id)
    (h : MembersChanged input action t members u events) :
    MembersChanged input action s (member :: members) u (changed ++ events) := by
  have hlast := h.others member.id hfresh
  have hothers : ∀ id, id ∉ (member :: members).map Rule.id →
      u.rules.get? id = s.rules.get? id := by
    intro id hid
    rw [List.map_cons, List.mem_cons, not_or] at hid
    rw [h.others id hid.2, hstep.get?_of_ne hid.1]
  cases hstep with
  | deleted action_eq rules mode strategy kind =>
    have hgone : u.rules.get? member.id = none := by
      rw [hlast, rules, OrderedMap.get?_erase, if_pos rfl]
    refine ⟨h.mode.trans mode, h.enforcementStrategy.trans strategy, hothers,
      fun hdelete => ?_, fun hkeep => absurd action_eq hkeep, .cons ?_ h.reports⟩
    · exact List.forall_mem_cons.mpr ⟨hgone, h.deleted hdelete⟩
    · rw [ReportsMember, if_pos action_eq]
      exact kind
  | replaced action_ne rule change rules mode strategy kind =>
    have hstored : u.rules.get? member.id = some rule := by
      rw [hlast, rules, OrderedMap.get?_insert, if_pos rfl]
    refine ⟨h.mode.trans mode, h.enforcementStrategy.trans strategy, hothers,
      fun hdelete => absurd hdelete action_ne, fun hkeep => ?_, .cons ?_ h.reports⟩
    · exact List.forall_mem_cons.mpr ⟨⟨rule, hstored, change⟩, h.kept hkeep⟩
    · rw [ReportsMember, if_neg action_ne]
      exact ⟨rule, hstored, kind⟩

theorem applyGroupMembers_changed {n : ℕ} (hdistinct : (members.map Rule.id).Nodup)
    (hmembers : ∀ member ∈ members, s.rules.get? member.id = some member)
    (h : applyGroupMembers input action n s events members = .ok (t, events')) :
    ∃ produced, events' = events ++ produced ∧
      MembersChanged input action s members t produced := by
  induction members generalizing n s events with
  | nil =>
    cases h
    exact ⟨[], (List.append_nil _).symm, rfl, rfl, fun _ _ => rfl, fun _ => List.forall_mem_nil _,
      fun _ => List.forall_mem_nil _, .nil⟩
  | cons member rest ih =>
    obtain ⟨⟨next, changed, affected⟩, hmember, h⟩ := bind_eq_ok_iff.mp h
    obtain ⟨hfresh, hrest⟩ := List.nodup_cons.mp hdistinct
    have hstep := applyGroupMember_step (hmembers member List.mem_cons_self) hmember
    -- the members that are left are still what they were
    have hleft : ∀ other ∈ rest, next.rules.get? other.id = some other := by
      intro other hother
      have hne : other.id ≠ member.id := by
        intro heq
        exact hfresh (heq ▸ List.mem_map_of_mem hother)
      rw [hstep.get?_of_ne hne]
      exact hmembers other (List.mem_cons_of_mem _ hother)
    obtain ⟨produced, rfl, hchanged⟩ := ih hrest hleft h
    exact ⟨changed ++ produced, List.append_assoc _ _ _, hchanged.cons hstep hfresh⟩

theorem applyGroupMembers_append (n : ℕ) (front back : List Rule) :
    applyGroupMembers input action n s events (front ++ back) = (do
      let (t, events) ← applyGroupMembers input action n s events front
      applyGroupMembers input action (n + front.length) t events back) := by
  induction front generalizing n s events with
  | nil => rfl
  | cons member rest ih =>
    rw [List.cons_append, applyGroupMembers, applyGroupMembers]
    cases applyGroupMember input n s member action with
    | error error => rfl
    | ok made =>
      obtain ⟨next, changed, affected⟩ := made
      have hlength : n + (member :: rest).length = n + 1 + rest.length := by
        rw [List.length_cons]
        omega
      rw [hlength]
      exact ih (n + 1)

end Members

theorem State.WellFormed.group_members {s : State} (hs : s.WellFormed)
    (group : OutboundGroupSelector) :
    ((s.rules.values.filter group.matchesRule).map Rule.id).Nodup ∧
      ∀ member ∈ s.rules.values.filter group.matchesRule, s.rules.get? member.id = some member := by
  refine ⟨hs.validSnapshot.ids_nodup.sublist (List.filter_sublist.map _), fun member hmember => ?_⟩
  obtain ⟨id, hget⟩ := (s.rules.mem_values_iff member).mp (List.mem_filter.mp hmember).1
  rw [(hs.id_of_get? hget).1]
  exact hget

theorem applyOutboundGroup_changed {input : ControlInput} {s t : State} (hs : s.WellFormed)
    {revision : BitVec 64} {group : OutboundGroupSelector} {action : OutboundGroupAction}
    {events : List Event} {affected : Option Rule}
    (h : applyControlToCandidate input s (.manageOutboundGroup revision group action) =
      .ok (t, events, affected)) :
    GroupChanged input group action s t events := by
  have hrevisions := (applyControlToCandidate_changes h).revisions
  obtain ⟨⟨t, events⟩, hgroup, h⟩ := bind_eq_ok_iff.mp h
  cases h
  obtain ⟨-, hgroup⟩ := bind_unit_eq_ok_iff.mp hgroup
  obtain ⟨hdistinct, hmembers⟩ := hs.group_members group
  obtain ⟨produced, hproduced, hchanged⟩ := applyGroupMembers_changed hdistinct hmembers hgroup
  rw [List.nil_append] at hproduced
  subst hproduced
  have hmatched {member : Rule} (hmember : member ∈ s.rules.values)
      (hmatch : group.matchesRule member = true) :
      member ∈ s.rules.values.filter group.matchesRule := List.mem_filter.mpr ⟨hmember, hmatch⟩
  refine ⟨hchanged.mode, hchanged.enforcementStrategy, fun rule hrule hmatch => ?_,
    fun id hfree => ?_, fun hdelete member hmember hmatch => ?_,
    fun hkeep member hmember hmatch => ?_, ?_, hchanged.reports⟩
  · obtain ⟨id, hget⟩ := (s.rules.mem_values_iff rule).mp hrule
    rw [(hs.id_of_get? hget).1, ← hget]
    refine hchanged.others id fun hid => ?_
    -- the only rule with this identifier does not belong to the group
    obtain ⟨member, hmember, rfl⟩ := List.mem_map.mp hid
    rw [hmembers member hmember] at hget
    cases hget
    rw [(List.mem_filter.mp hmember).2] at hmatch
    cases hmatch
  · rw [hchanged.others id, hfree]
    intro hid
    obtain ⟨member, hmember, rfl⟩ := List.mem_map.mp hid
    rw [hmembers member hmember] at hfree
    cases hfree
  · exact hchanged.deleted hdelete member (hmatched hmember hmatch)
  · exact hchanged.kept hkeep member (hmatched hmember hmatch)
  · rw [hrevisions, hchanged.reports.length_eq]

theorem applyOutboundGroup_fails {input : ControlInput} {s candidate : State}
    {revision : BitVec 64} {group : OutboundGroupSelector} {action : OutboundGroupAction}
    {front back : List Rule} {member : Rule} {events : List Event} {error : ProtocolError}
    (hmembers : s.rules.values.filter group.matchesRule = front ++ member :: back)
    (hfront : applyGroupMembers input action 0 s [] front = .ok (candidate, events))
    (hmember : applyGroupMember input front.length candidate member action = .error error) :
    applyControlToCandidate input s (.manageOutboundGroup revision group action) =
      .error error := by
  have hne : s.rules.values.filter group.matchesRule ≠ [] := by
    rw [hmembers]
    exact List.append_ne_nil_of_right_ne_nil _ (List.cons_ne_nil _ _)
  have hloop : applyGroupMembers input action 0 s [] (s.rules.values.filter group.matchesRule) =
      .error error := by
    rw [hmembers, applyGroupMembers_append, hfront]
    change applyGroupMembers input action (0 + front.length) candidate events (member :: back) = _
    rw [Nat.zero_add, applyGroupMembers, hmember]
    rfl
  rw [applyControlToCandidate, applyOutboundGroupToCandidate, hloop,
    (ensure_eq_ok_iff _ _ ()).mpr hne]
  rfl

namespace Runtime

theorem commit_ok {json : Serializer} {rt rt' : Runtime} {candidate : State} {events : List Event}
    (h : commit json rt candidate events = (.ok (), rt')) :
    rt'.engine.state = candidate ∧ rt'.world.published = rt.world.published ++ events := by
  unfold commit at h
  rcases happly : rt.world.apply candidate.snapshot with ⟨installed, w₁⟩
  rcases hsave : w₁.saveExclusive candidate with ⟨saved, w₂⟩
  simp only [happly] at h
  cases installed with
  | false =>
    rcases hback : w₁.apply rt.engine.state.snapshot with ⟨back, w⟩
    simp only [hback] at h
    cases back <;> cases h
  | true =>
    simp only [hsave] at h
    cases saved with
    | false =>
      rcases hback : rollBack w₂ rt.engine.state with ⟨⟨backend, storage⟩, w⟩
      simp only [hback] at h
      cases backend <;> cases storage <;> cases h
    | true =>
      have hpublished := (World.saveExclusive_spec hsave).1.published.trans
        (World.apply_spec happly).1.published
      simp only [World.publishAll_eq] at h
      cases h
      exact ⟨rfl, congrArg (· ++ events) hpublished⟩

theorem handleControl_group_cases {json : Serializer} {rt rt' : Runtime} {input : ControlInput}
    {revision : BitVec 64} {group : OutboundGroupSelector} {action : OutboundGroupAction}
    {result : Except ProtocolError Ack}
    (h : handleControl json rt input (.manageOutboundGroup revision group action) =
      (result, rt')) :
    (rt' = rt ∧ ∃ error, result = .error error) ∨
    ∃ candidate events affected committed,
      controlCandidate json input rt.engine.state (.manageOutboundGroup revision group action) =
        .ok (candidate, events, affected) ∧
      commit json rt candidate events = (committed, rt') ∧
      result = committed.map fun _ => ⟨candidate.revision, affected⟩ := by
  rcases handleControl_cases h with hrefused | ⟨-, -, hcommitted⟩ | ⟨-, _, _, ⟨_, hrequest⟩, -⟩
  · exact .inl hrefused
  · exact .inr hcommitted
  · cases hrequest

/-- A group action changes exactly its members. An acknowledged one leaves every other rule as it
was, deletes the members or keeps them up to the named property, and publishes one event for each
of them, numbered one by one. If a member cannot be changed, nothing changes at all. -/
theorem group_action_changes_members (json : Serializer) (rt rt' : Runtime)
    (hvalid : rt.engine.state.validate json = .ok ()) (input : ControlInput)
    (revision : BitVec 64) (group : OutboundGroupSelector) (action : OutboundGroupAction)
    (result : Except ProtocolError Ack)
    (h : handleControl json rt input (.manageOutboundGroup revision group action) =
      (result, rt')) :
    (∀ ack, result = .ok ack → ∃ events,
        rt'.world.published = rt.world.published ++ events ∧
        GroupChanged input group action rt.engine.state rt'.engine.state events) ∧
      (∀ front member back candidate events error,
        rt.engine.state.rules.values.filter group.matchesRule = front ++ member :: back →
        applyGroupMembers input action 0 rt.engine.state [] front = .ok (candidate, events) →
        applyGroupMember input front.length candidate member action = .error error →
          rt' = rt ∧ ∃ refusal, result = .error refusal) := by
  have hs := State.wellFormed_of_validate hvalid
  rcases handleControl_group_cases h with ⟨rfl, error, rfl⟩ |
    ⟨candidate, events, affected, committed, hcandidate, hcommit, rfl⟩
  · refine ⟨fun ack hack => ?_, fun _ _ _ _ _ _ _ _ _ => ⟨rfl, error, rfl⟩⟩
    cases hack
  · obtain ⟨⟨made, produced, rule⟩, happly, hchecked⟩ := bind_eq_ok_iff.mp hcandidate
    obtain ⟨-, hchecked⟩ := bind_unit_eq_ok_iff.mp hchecked
    cases hchecked
    refine ⟨fun ack hack => ?_, fun front member back _ _ error hmembers hfront hmember => ?_⟩
    · cases committed with
      | error error => cases hack
      | ok _ =>
        obtain ⟨hstate, hpublished⟩ := commit_ok hcommit
        refine ⟨events, hpublished, ?_⟩
        rw [hstate]
        exact applyOutboundGroup_changed hs happly
    · -- a failing member leaves no candidate to commit
      rw [applyOutboundGroup_fails hmembers hfront hmember] at happly
      cases happly

namespace Sample

def executablePath : ApplicationPath := ⟨"/a", Sample.accepts_a⟩

def oneGroup : State :=
  { State.new with
    flowGeneration := 1
    rules := OrderedMap.empty.insert 1 (Sample.rule .outbound .accept (some Sample.selector)) }

end Sample

/-- Dropping the only group of a policy is acknowledged. -/
theorem group_action_changes_members_sample :
    (handleControl Sample.json (Sample.runtime Sample.oneGroup fun _ => Fault.none) Sample.input
        (.manageOutboundGroup 0 (.executable Sample.executablePath) .drop)).1 =
          .ok ⟨1, none⟩ ∧
      ∃ events, GroupChanged Sample.input (.executable Sample.executablePath) .drop Sample.oneGroup
        (handleControl Sample.json (Sample.runtime Sample.oneGroup fun _ => Fault.none)
          Sample.input (.manageOutboundGroup 0 (.executable Sample.executablePath)
            .drop)).2.engine.state events := by
  have hvalid : Sample.oneGroup.validate Sample.json = .ok () := by decide +kernel
  have hack : (handleControl Sample.json (Sample.runtime Sample.oneGroup fun _ => Fault.none)
      Sample.input (.manageOutboundGroup 0 (.executable Sample.executablePath) .drop)).1 =
        .ok ⟨1, none⟩ := by decide +kernel
  obtain ⟨events, -, hchanged⟩ := (group_action_changes_members Sample.json
    (Sample.runtime Sample.oneGroup fun _ => Fault.none) _ hvalid Sample.input 0
    (.executable Sample.executablePath) .drop _ rfl).1 _ hack
  exact ⟨hack, events, hchanged⟩

end Runtime

end OpenShield
