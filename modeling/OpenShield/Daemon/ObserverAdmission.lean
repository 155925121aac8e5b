import OpenShield.Daemon.Registry

/-!
# Admission of observers

The observation socket bounds connections, subscriptions and page builds, in total and for every
user. A permit is live from its acquisition until it is dropped, and permits are dropped in any
order. A user without any permit may be forgotten to make room for another one.

The answers of the token buckets are inputs.
-/

namespace OpenShield

inductive PermitKind where
  | connection
  | subscription
  | rulePageBuild
  deriving DecidableEq

structure ObserverLimits where
  maximum : PermitKind → ℕ
  maximumPerUid : PermitKind → ℕ
  maximumTrackedUids : ℕ
  rateEntryIdle : ℕ

structure ObserverUidState where
  active : PermitKind → ℕ
  lastSeen : Instant

structure ObserverAdmission where
  active : PermitKind → ℕ
  users : List (BitVec 32 × ObserverUidState)

def ObserverUidState.adjust (kind : PermitKind) (f : ℕ → ℕ) (user : ObserverUidState) :
    ObserverUidState :=
  { user with active := Function.update user.active kind (f (user.active kind)) }

namespace ObserverAdmission

def adjust (kind : PermitKind) (uid : BitVec 32) (f : ℕ → ℕ) (s : ObserverAdmission) :
    ObserverAdmission where
  active := Function.update s.active kind (f (s.active kind))
  users := Table.alter uid (·.adjust kind f) s.users

theorem update_eq_ite (active : PermitKind → ℕ) (kind : PermitKind) (f : ℕ →
  ℕ) (kind' : PermitKind) :
    Function.update active kind (f (active kind)) kind' =
      if kind' = kind then f (active kind') else active kind' := by
  rw [Function.update_apply]
  split_ifs with hkind
  · rw [hkind]
  · rfl

variable (uid : BitVec 32)

def touch (now : Instant) (s : ObserverAdmission) : ObserverAdmission :=
  { s with users := Table.alter uid ({ · with lastSeen := now }) s.users }

variable (limits : ObserverLimits)

def evict (now : Instant) (s : ObserverAdmission) : ObserverAdmission :=
  { s with users := s.users.filter fun entry =>
      decide (entry.2.active .connection ≠ 0) || decide (entry.2.active .subscription ≠ 0) ||
        decide (entry.2.active .rulePageBuild ≠ 0) ||
        decide (now - entry.2.lastSeen < limits.rateEntryIdle) }

def makeRoom (uid : BitVec 32) (now : Instant) (s : ObserverAdmission) :
    ObserverAdmission :=
  if Table.find s.users uid = none ∧ limits.maximumTrackedUids ≤ s.users.length then
    s.evict limits now
  else s

def track (now : Instant) (s : ObserverAdmission) : ObserverAdmission :=
  if Table.find s.users uid = none then { s with users := s.users ++ [(uid, ⟨fun _ => 0, now⟩)] }
  else s

/-- A connection permit; the buckets of the user and of all users may refuse it. -/
def tryAcquireAt (uid : BitVec 32) (now : Instant)
    (token globalToken : Bool) (s : ObserverAdmission) : Bool × ObserverAdmission :=
  if limits.maximum .connection ≤ s.active .connection then (false, s)
  else
    let s := s.makeRoom limits uid now
    if Table.find s.users uid = none ∧ limits.maximumTrackedUids ≤ s.users.length then (false, s)
    else
      let s := (s.track uid now).touch uid now
      match Table.find s.users uid with
      | none => (false, s)
      | some user =>
        if token = false ∨ limits.maximumPerUid .connection ≤ user.active .connection ∨
            globalToken = false then (false, s)
        else (true, s.adjust .connection uid (· + 1))

def tryAcquireHeld (kind : PermitKind) (limits : ObserverLimits) (uid : BitVec 32)
    (s : ObserverAdmission) : Bool × ObserverAdmission :=
  if limits.maximum kind ≤ s.active kind then (false, s)
  else
    match Table.find s.users uid with
    | none => (false, s)
    | some user =>
      if user.active .connection = 0 ∨ limits.maximumPerUid kind ≤ user.active kind then (false, s)
      else (true, s.adjust kind uid (· + 1))

def tryAcquireSubscription := tryAcquireHeld .subscription

def tryAcquireRulePageBuild := tryAcquireHeld .rulePageBuild

/-- Whether a request may be served; only connected users are asked for a token. -/
def tryConsumeRequestAt (now : Instant) (token globalToken : Bool)
    (s : ObserverAdmission) : Bool × ObserverAdmission :=
  match Table.find s.users uid with
  | none => (false, s)
  | some user =>
    if user.active .connection = 0 then (false, s) else (token && globalToken, s.touch uid now)

/-- A dropped permit. Nothing happens without the user, and nothing goes below zero. -/
def release (kind : PermitKind) (uid : BitVec 32) (s : ObserverAdmission) : ObserverAdmission :=
  match Table.find s.users uid with
  | none => s
  | some _ => s.adjust kind uid (· - 1)

structure Accounts (limits : ObserverLimits) (s : ObserverAdmission)
    (live : List (PermitKind × BitVec 32)) : Prop where
  unique : Table.Unique s.users
  total : ∀ kind, s.active kind = live.countP (·.1 = kind)
  sum : ∀ kind, s.active kind = (s.users.map fun entry => entry.2.active kind).sum
  counted : ∀ entry ∈ s.users, ∀ kind, entry.2.active kind = live.count (kind, entry.1)
  known : ∀ permit ∈ live, permit.2 ∈ s.users.map Prod.fst
  limit : ∀ kind, s.active kind ≤ limits.maximum kind
  perUid : ∀ entry ∈ s.users, ∀ kind, entry.2.active kind ≤ limits.maximumPerUid kind
  tracked : s.users.length ≤ limits.maximumTrackedUids

namespace Accounts

variable {limits : ObserverLimits} {s : ObserverAdmission} {live : List (PermitKind × BitVec 32)}

/-- Users without permits may be forgotten. -/
theorem evict (h : s.Accounts limits live) (now : Instant) :
    (s.evict limits now).Accounts limits live := by
  have hsub : ∀ entry ∈ (s.evict limits now).users, entry ∈ s.users :=
    fun entry hentry => (List.mem_filter.mp hentry).1
  -- What is forgotten had no permit of any kind.
  have hzero : ∀ entry ∈ s.users, entry ∉ (s.evict limits now).users →
      ∀ kind, entry.2.active kind = 0 := by
    intro entry hentry hdropped kind
    by_contra hne
    refine hdropped (List.mem_filter.mpr ⟨hentry, ?_⟩)
    cases kind <;> simp [hne]
  exact { h with
    unique := h.unique.sublist List.filter_sublist
    sum := fun kind => (h.sum kind).trans (Table.sum_filter
      (g := fun user : ObserverUidState => user.active kind) fun entry hentry hdropped =>
        hzero entry hentry (fun hmem => Bool.false_ne_true
          (hdropped.symm.trans (List.mem_filter.mp hmem).2)) kind).symm
    counted := fun entry hentry => h.counted entry (hsub entry hentry)
    known := by
      intro permit hpermit
      obtain ⟨entry, hentry, hkey⟩ := List.mem_map.mp (h.known permit hpermit)
      by_contra hnone
      have hcount := h.counted entry hentry permit.1
      rw [hzero entry hentry fun hmem => hnone (List.mem_map.mpr ⟨entry, hmem, hkey⟩), hkey]
        at hcount
      exact (List.count_pos_iff.mpr hpermit).ne hcount
    perUid := fun entry hentry => h.perUid entry (hsub entry hentry)
    tracked := (List.length_filter_le _ _).trans h.tracked }

theorem makeRoom (h : s.Accounts limits live) (uid : BitVec 32) (now : Instant) :
    (s.makeRoom limits uid now).Accounts limits live := by
  unfold ObserverAdmission.makeRoom
  split_ifs
  · exact h.evict now
  · exact h

theorem track (h : s.Accounts limits live) {uid : BitVec 32} (now : Instant)
    (hroom : ¬(Table.find s.users uid = none ∧ limits.maximumTrackedUids ≤ s.users.length)) :
    (s.track uid now).Accounts limits live := by
  unfold ObserverAdmission.track
  split_ifs with hnew
  · have hfresh := Table.find_eq_none_iff.mp hnew
    have hnone : ∀ kind, live.count (kind, uid) = 0 := fun kind => List.count_eq_zero.mpr
      fun hmem => by
        obtain ⟨⟨_, user⟩, hentry, rfl⟩ := List.mem_map.mp (h.known _ hmem)
        exact hfresh user hentry
    exact { h with
      unique := by
        rw [Table.Unique, List.map_append]
        refine h.unique.append (List.nodup_singleton _) (List.disjoint_singleton.mpr fun hmem => ?_)
        obtain ⟨entry, hentry, rfl⟩ := List.mem_map.mp hmem
        exact hfresh entry.2 hentry
      sum := fun kind => by simpa using h.sum kind
      counted := List.forall_mem_append.mpr ⟨h.counted, List.forall_mem_singleton.mpr fun kind =>
        (hnone kind).symm⟩
      known := fun permit hpermit => by
        rw [List.map_append]
        exact List.mem_append_left _ (h.known permit hpermit)
      perUid := List.forall_mem_append.mpr ⟨h.perUid, List.forall_mem_singleton.mpr fun _ =>
        Nat.zero_le _⟩
      tracked := by
        rw [List.length_append]
        exact Nat.lt_of_not_le fun hle => hroom ⟨hnew, hle⟩ }
  · exact h

theorem alter (h : s.Accounts limits live) {s' : ObserverAdmission} {kind : PermitKind}
    {uid : BitVec 32} {f : ℕ → ℕ} {g : ObserverUidState → ObserverUidState}
    {user : ObserverUidState} (huser : (uid, user) ∈ s.users)
    (husers : s'.users = Table.alter uid g s.users)
    (hg : ∀ user kind', (g user).active kind' =
      if kind' = kind then f (user.active kind') else user.active kind')
    (hactive : ∀ kind', s'.active kind' =
      if kind' = kind then f (s.active kind') else s.active kind') {live' : List (PermitKind × BitVec 32)}
    (hcount : ∀ kind' uid', live'.count (kind', uid') =
      if kind' = kind ∧ uid' = uid then f (live.count (kind', uid')) else live.count (kind', uid'))
    (htotal : ∀ kind', live'.countP (·.1 = kind') =
      if kind' = kind then f (live.countP (·.1 = kind')) else live.countP (·.1 = kind'))
    (hf : f (s.active kind) + user.active kind = s.active kind + f (user.active kind))
    (hlimit : f (s.active kind) ≤ limits.maximum kind)
    (hperUid : f (user.active kind) ≤ limits.maximumPerUid kind) : s'.Accounts limits live' := by
  have hentries : ∀ entry ∈ s'.users, (entry.1 ≠ uid ∧ entry ∈ s.users) ∨
    entry = (uid, g user) := by
    rw [husers]
    intro entry hentry
    refine (Table.mem_alter.mp hentry).imp_right ?_
    rintro ⟨old, hold, rfl⟩
    rw [h.unique.eq hold huser]
  constructor
  case unique => exact husers ▸ h.unique.alter
  case total => exact fun kind' => by rw [hactive, htotal, h.total]
  case sum =>
    intro kind'
    have hsum := @Table.sum_alter _ _ _ _ _ _ g h.unique huser fun user => user.active kind'
    have hold := h.sum kind'
    rw [hg] at hsum
    rw [husers, hactive]
    split_ifs at hsum ⊢ with hkind
    · subst hkind
      omega
    · omega
  case counted =>
    intro entry hentry kind'
    rcases hentries entry hentry with ⟨hne, hmem⟩ | rfl
    · rw [hcount, if_neg fun hsame => hne hsame.2, h.counted entry hmem]
    · rw [hg, hcount, h.counted _ huser]
      simp
  case known =>
    intro permit hpermit
    have hpos := List.count_pos_iff.mpr hpermit
    rw [husers, Table.keys_alter]
    by_cases hsame : permit.1 = kind ∧ permit.2 = uid
    · exact hsame.2 ▸ List.mem_map_of_mem huser
    · rw [hcount permit.1, if_neg hsame] at hpos
      exact h.known permit (List.count_pos_iff.mp hpos)
  case limit =>
    intro kind'
    rw [hactive]
    split_ifs with hkind
    · exact hkind ▸ hlimit
    · exact h.limit kind'
  case perUid =>
    intro entry hentry kind'
    rcases hentries entry hentry with ⟨-, hmem⟩ | rfl
    · exact h.perUid entry hmem kind'
    · rw [hg]
      split_ifs with hkind
      · exact hkind ▸ hperUid
      · exact h.perUid _ huser kind'
  case tracked => simpa [husers] using h.tracked

theorem touch (h : s.Accounts limits live) (uid : BitVec 32) (now : Instant) :
    (s.touch uid now).Accounts limits live := by
  cases hfind : Table.find s.users uid with
  | none => rwa [ObserverAdmission.touch, Table.alter_of_notMem (Table.find_eq_none_iff.mp hfind)]
  | some user =>
    have huser := h.unique.find_eq_some_iff.mp hfind
    exact @alter _ _ _ h (s.touch uid now) .connection uid id
      ({ · with lastSeen := now }) user huser rfl
      (fun _ _ => (ite_self _).symm) (fun _ => (ite_self _).symm) _
      (fun _ _ => (ite_self _).symm) (fun _ => (ite_self _).symm) rfl (h.limit _)
      (h.perUid _ huser _)

theorem grant (h : s.Accounts limits live) {kind : PermitKind} {uid : BitVec 32}
    {user : ObserverUidState} (hfind : Table.find s.users uid = some user)
    (hlimit : s.active kind < limits.maximum kind)
    (hperUid : user.active kind < limits.maximumPerUid kind) :
    (s.adjust kind uid (· + 1)).Accounts limits ((kind, uid) :: live) := by
  refine @alter _ _ _ h (s.adjust kind uid (· + 1)) kind uid (· + 1)
    (ObserverUidState.adjust kind (· + 1)) user (h.unique.find_eq_some_iff.mp hfind) rfl
    (fun user => update_eq_ite user.active kind (· + 1))
    (update_eq_ite s.active kind (· + 1)) _ ?_ ?_ (by omega) hlimit hperUid
  · intro kind' uid'
    rw [List.count_cons]
    by_cases hsame : kind' = kind ∧ uid' = uid
    · simp [hsame]
    · rw [if_neg hsame, if_neg fun heq => hsame ?_, Nat.add_zero]
      cases eq_of_beq heq
      exact ⟨rfl, rfl⟩
  · intro kind'
    rw [List.countP_cons]
    by_cases hkind : kind' = kind
    · simp [hkind]
    · simp [hkind, Ne.symm hkind]

theorem pos_of_mem (h : s.Accounts limits live) {permit : PermitKind × BitVec 32}
    (hmem : permit ∈ live) : ∃ user, Table.find s.users permit.2 = some user ∧
      0 < user.active permit.1 ∧ 0 < s.active permit.1 := by
  obtain ⟨⟨uid, user⟩, hentry, rfl⟩ := List.mem_map.mp (h.known permit hmem)
  refine ⟨user, h.unique.find_eq_some_iff.mpr hentry, ?_, ?_⟩
  · rw [h.counted _ hentry]
    exact List.count_pos_iff.mpr hmem
  · rw [h.total]
    exact List.countP_pos_iff.mpr ⟨permit, hmem, by simp⟩

theorem release (h : s.Accounts limits live) {permit : PermitKind × BitVec 32}
    (hmem : permit ∈ live) :
    (s.release permit.1 permit.2).Accounts limits (live.erase permit) := by
  obtain ⟨user, hfind, huser, hactive⟩ := h.pos_of_mem hmem
  have hentry := h.unique.find_eq_some_iff.mp hfind
  have hlimit := h.limit permit.1
  have hperUid := h.perUid _ hentry permit.1
  simp only [ObserverAdmission.release, hfind]
  refine @alter _ _ _ h (s.adjust permit.1 permit.2 (· - 1)) permit.1 permit.2 (· - 1)
    (ObserverUidState.adjust permit.1 (· - 1)) user hentry rfl
    (fun user => update_eq_ite user.active permit.1 (· - 1))
    (update_eq_ite s.active permit.1 (· - 1)) _ ?_ ?_ (by omega) (by omega)
    ((Nat.sub_le _ _).trans hperUid)
  · intro kind' uid'
    rw [List.count_erase]
    by_cases hsame : kind' = permit.1 ∧ uid' = permit.2
    · simp [hsame]
    · rw [if_neg hsame, if_neg fun heq => hsame ?_, Nat.sub_zero]
      cases eq_of_beq heq
      exact ⟨rfl, rfl⟩
  · intro kind'
    rw [List.countP_erase]
    by_cases hkind : kind' = permit.1
    · simp [hkind, hmem]
    · simp [hkind, Ne.symm hkind]

end Accounts

end ObserverAdmission

inductive ObserverCall where
  | tryAcquire (uid : BitVec 32) (now : Instant) (token globalToken : Bool)
  | tryAcquireSubscription (uid : BitVec 32)
  | tryAcquireRulePageBuild (uid : BitVec 32)
  | tryConsumeRequest (uid : BitVec 32) (now : Instant) (token globalToken : Bool)
  | dropPermit (permit : PermitKind × BitVec 32)

structure ObserverRun where
  admission : ObserverAdmission
  live : List (PermitKind × BitVec 32)

namespace ObserverRun

def start : ObserverRun := ⟨⟨fun _ => 0, []⟩, []⟩

def acquired (s : ObserverRun) (permit : PermitKind × BitVec 32)
    (answer : Bool × ObserverAdmission) : ObserverRun :=
  ⟨answer.2, if answer.1 then permit :: s.live else s.live⟩

/-- One call; only live permits are dropped. -/
def step (limits : ObserverLimits) (s : ObserverRun) : ObserverCall → ObserverRun
  | .tryAcquire uid now token globalToken =>
    s.acquired (.connection, uid) (s.admission.tryAcquireAt limits uid now token globalToken)
  | .tryAcquireSubscription uid =>
    s.acquired (.subscription, uid)
      (ObserverAdmission.tryAcquireSubscription limits uid s.admission)
  | .tryAcquireRulePageBuild uid =>
    s.acquired (.rulePageBuild, uid)
      (ObserverAdmission.tryAcquireRulePageBuild limits uid s.admission)
  | .tryConsumeRequest uid now token globalToken =>
    { s with admission := (s.admission.tryConsumeRequestAt uid now token globalToken).2 }
  | .dropPermit permit =>
    if permit ∈ s.live then ⟨s.admission.release permit.1 permit.2, s.live.erase permit⟩ else s

variable {limits : ObserverLimits} {s : ObserverRun}

theorem accounts_held (h : s.admission.Accounts limits s.live) (kind : PermitKind)
    (uid : BitVec 32) :
    let next := s.acquired (kind, uid) (s.admission.tryAcquireHeld kind limits uid)
    next.admission.Accounts limits next.live := by
  simp only [ObserverAdmission.tryAcquireHeld]
  split_ifs with hfull
  · exact h
  · split
    · exact h
    · next user hfind =>
      split_ifs with hrefused
      · exact h
      · rw [not_or, Nat.not_le] at hrefused
        exact h.grant hfind (Nat.lt_of_not_le hfull) hrefused.2

theorem accounts_step (h : s.admission.Accounts limits s.live) (call : ObserverCall) :
    (s.step limits call).admission.Accounts limits (s.step limits call).live := by
  cases call with
  | tryAcquire uid now token globalToken =>
    simp only [step, ObserverAdmission.tryAcquireAt]
    split_ifs with hfull hroom
    · exact h
    · exact h.makeRoom uid now
    · have htracked := ((h.makeRoom uid now).track now hroom).touch uid now
      have hactive : (((s.admission.makeRoom limits uid now).track uid now).touch uid now).active =
          s.admission.active := by
        simp only [ObserverAdmission.touch, ObserverAdmission.track, ObserverAdmission.makeRoom]
        split_ifs <;> rfl
      split
      · exact htracked
      · next user hfind =>
        split_ifs with hrefused
        · exact htracked
        · rw [not_or, not_or, Nat.not_le] at hrefused
          exact htracked.grant hfind (hactive ▸ Nat.lt_of_not_le hfull) hrefused.2.1
  | tryAcquireSubscription uid => exact accounts_held h .subscription uid
  | tryAcquireRulePageBuild uid => exact accounts_held h .rulePageBuild uid
  | tryConsumeRequest uid now token globalToken =>
    simp only [step, ObserverAdmission.tryConsumeRequestAt]
    split
    · exact h
    · split_ifs
      · exact h
      · exact h.touch uid now
  | dropPermit permit =>
    simp only [step]
    split_ifs with hlive
    · exact h.release hlive
    · exact h

/-- In every run the counters of each kind count the live permits, of every user and in total,
within the limits. A user with a live permit is tracked with a positive counter, so a dropped
permit is neither lost nor clamped, and the table keeps its limit. -/
theorem run_accounts (limits : ObserverLimits) (calls : List ObserverCall) :
    let s := calls.foldl (step limits) start
    (∀ kind, s.admission.active kind = s.live.countP (·.1 = kind) ∧
      s.admission.active kind = (s.admission.users.map fun entry => entry.2.active kind).sum ∧
      s.admission.active kind ≤ limits.maximum kind ∧
      ∀ uid user, Table.find s.admission.users uid = some user →
        user.active kind = s.live.count (kind, uid) ∧
          user.active kind ≤ limits.maximumPerUid kind) ∧
    (∀ permit ∈ s.live, ∃ user, Table.find s.admission.users permit.2 = some user ∧
      0 < user.active permit.1 ∧ 0 < s.admission.active permit.1) ∧
    s.admission.users.length ≤ limits.maximumTrackedUids := by
  intro s
  have h : s.admission.Accounts limits s.live := by
    refine List.foldlRecOn calls (step limits) (motive := fun s => s.admission.Accounts limits s.live)
      ?_ fun s h call _ => accounts_step h call
    exact ⟨List.nodup_nil, fun _ => rfl, fun _ => rfl, List.forall_mem_nil _, List.forall_mem_nil _,
      fun _ => Nat.zero_le _, List.forall_mem_nil _, Nat.zero_le _⟩
  refine ⟨fun kind => ⟨h.total kind, h.sum kind, h.limit kind, fun uid user hfind => ?_⟩,
    fun permit hpermit => h.pos_of_mem hpermit, h.tracked⟩
  have hentry := h.unique.find_eq_some_iff.mp hfind
  exact ⟨h.counted _ hentry kind, h.perUid _ hentry kind⟩

end ObserverRun

end OpenShield
