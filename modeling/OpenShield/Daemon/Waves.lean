import OpenShield.Daemon.Reply

/-!
# Waves of tickets over whole runs

Tickets are drawn for any flows and generations and returned in any order, also more than once and
long after their wave is gone, while replies ask for the readiness of their flows. Beside the
registry a run keeps what its calls alone determine: which tickets are outstanding, which of them
form the current wave of a flow, and which were refused.
-/

namespace OpenShield

inductive WaveCall where
  | begin (key : FlowKey) (generation : BitVec 32) (now : Instant)
  | complete (ticket : OutgoingTicket) (succeeded : Bool) (now : Instant)
  | readiness (pending : PendingReply) (now : Instant)

structure WaveRun where
  registry : Registry
  issued : List OutgoingTicket
  /-- The tickets that were drawn and not returned, with no call of `begin` for another generation
  since. -/
  outstanding : List OutgoingTicket
  wave : FlowKey → List OutgoingTicket
  /-- The tickets that were returned without success while they were outstanding. -/
  refused : List OutgoingTicket

namespace WaveRun

def start (progress : QueueProgress) : WaveRun := ⟨⟨none, 0, [], progress⟩, [], [], fun _ => [], []⟩

def keptBy (generation : BitVec 32) (s : WaveRun) : List OutgoingTicket :=
  s.outstanding.filter (·.generation = generation)

def draw (ticket : OutgoingTicket) (s : WaveRun) : WaveRun :=
  { s with
    issued := ticket :: s.issued
    outstanding := ticket :: s.outstanding
    wave := Function.update s.wave ticket.key
      (if ∃ other ∈ s.outstanding, other.key = ticket.key then ticket :: s.wave ticket.key
       else [ticket]) }

def step (s : WaveRun) : WaveCall → WaveRun
  | .begin key generation now =>
    let (result, registry) := (Registry.begin key generation now).exec s.registry
    let s := { s with registry, outstanding := s.keptBy generation }
    match result with
    | .ok ticket => s.draw ticket
    | .error _ => s
  | .complete ticket succeeded now =>
    if ticket ∈ s.issued then
      { s with
        registry := (s.registry.complete ticket succeeded now).2
        outstanding := s.outstanding.erase ticket
        refused := if ticket ∈ s.outstanding ∧ succeeded = false then ticket :: s.refused
          else s.refused }
    else s
  | .readiness pending now => { s with registry := (s.registry.readiness pending now).2 }

def run (s : WaveRun) (calls : List WaveCall) : WaveRun := calls.foldl step s

/-- The registry agrees with the record of its calls. -/
structure Sound (s : WaveRun) : Prop where
  accounts : s.registry.Accounts s.outstanding
  few : s.outstanding.length ≤ REPLY_CAPACITY
  backed : ∀ entry ∈ s.registry.flows, ∀ serial ∈ entry.2.active,
    ∃ ticket ∈ s.outstanding, ticket.key = entry.1 ∧ ticket.serial = serial
  old : ∀ ticket ∈ s.issued, ticket.serial.toNat ≤ s.registry.nextSerial.toNat
  distinct : (s.issued.map (·.serial)).Nodup
  outstanding : ∀ ticket ∈ s.outstanding, ticket ∈ s.issued ∧ ticket ∈ s.wave ticket.key
  wave : ∀ key, ∀ ticket ∈ s.wave key, ticket.key = key ∧ ticket ∈ s.issued
  refused : ∀ ticket ∈ s.refused, ticket ∈ s.issued
  failed : ∀ entry ∈ s.registry.flows,
    entry.2.failed = true ↔ ∃ ticket ∈ s.wave entry.1, ticket ∈ s.refused

namespace Sound

variable {s : WaveRun}

theorem start (progress : QueueProgress) : (WaveRun.start progress).Sound where
  accounts := .nil ..
  few := Nat.zero_le _
  backed := List.forall_mem_nil _
  old := List.forall_mem_nil _
  distinct := List.nodup_nil
  outstanding := List.forall_mem_nil _
  wave := fun _ => List.forall_mem_nil _
  refused := List.forall_mem_nil _
  failed := List.forall_mem_nil _

theorem eq_of_serial (h : s.Sound) {t t' : OutgoingTicket} (ht : t ∈ s.issued)
    (ht' : t' ∈ s.issued) (heq : t.serial = t'.serial) : t = t' :=
  List.inj_on_of_nodup_map h.distinct ht ht' heq

variable {ticket : OutgoingTicket}

theorem complete_of_not_mem (h : s.Sound) (hissued : ticket ∈ s.issued)
    (hout : ticket ∉ s.outstanding) (succeeded : Bool) (now : Instant) :
    s.registry.complete ticket succeeded now = (false, s.registry) := by
  rcases h.accounts.complete_cases ticket succeeded now with hsame | ⟨wave, hmem, hactive⟩
  · exact hsame
  · obtain ⟨other, hother, -, hserial⟩ := h.backed _ hmem _ hactive
    rw [h.eq_of_serial hissued (h.outstanding other hother).1 hserial.symm] at hout
    exact absurd hother hout

theorem complete_iff (h : s.Sound) (hissued : ticket ∈ s.issued) (succeeded : Bool) (now : Instant) :
    (s.registry.complete ticket succeeded now).1 = true ↔ ticket ∈ s.outstanding := by
  refine ⟨fun heffect => ?_, fun hmem => by rw [h.accounts.complete_eq hmem]⟩
  by_contra hout
  rw [h.complete_of_not_mem hissued hout] at heffect
  cases heffect

/-- Settled waves may be forgotten. -/
theorem forgets (h : s.Sound) {registry : Registry} (hforgets : s.registry.Forgets registry) :
    Sound { s with registry } := by
  have haccounts := h.accounts.forgets hforgets
  obtain ⟨p, rfl, -⟩ := hforgets
  have hsub : ∀ entry ∈ s.registry.flows.filter p, entry ∈ s.registry.flows :=
    fun entry hentry => (List.mem_filter.mp hentry).1
  exact { h with
    accounts := haccounts
    backed := fun entry hentry => h.backed entry (hsub entry hentry)
    failed := fun entry hentry => h.failed entry (hsub entry hentry) }

theorem enter (h : s.Sound) (generation : BitVec 32) :
    Sound { s with registry := s.registry.enter generation
                   outstanding := s.keptBy generation } := by
  unfold Registry.enter
  split_ifs with hnew
  · have hnone : s.keptBy generation = [] := by
      refine List.filter_eq_nil_iff.mpr fun ticket hticket heq => hnew ?_
      rw [(h.accounts.known ticket hticket).1, of_decide_eq_true heq]
    rw [hnone]
    exact { h with
      accounts := .nil ..
      few := Nat.zero_le _
      backed := List.forall_mem_nil _
      outstanding := List.forall_mem_nil _
      failed := List.forall_mem_nil _ }
  · have hall : s.keptBy generation = s.outstanding := by
      refine List.filter_eq_self.mpr fun ticket hticket => decide_eq_true ?_
      exact Option.some.inj ((h.accounts.known ticket hticket).1.symm.trans (not_not.mp hnew))
    rwa [hall]

theorem active_iff (h : s.Sound) {key : FlowKey} {wave : Wave}
    (hmem : (key, wave) ∈ s.registry.flows) :
    wave.active ≠ ∅ ↔ ∃ ticket ∈ s.outstanding, ticket.key = key := by
  constructor
  · intro hactive
    obtain ⟨serial, hserial⟩ := Finset.nonempty_iff_ne_empty.mpr hactive
    obtain ⟨ticket, hticket, hkey, -⟩ := h.backed _ hmem serial hserial
    exact ⟨ticket, hticket, hkey⟩
  · rintro ⟨ticket, hticket, rfl⟩ hempty
    obtain ⟨-, found, hfound, -, hactive⟩ := h.accounts.known ticket hticket
    rw [h.accounts.unique.eq hfound hmem, hempty] at hactive
    simp at hactive

theorem draw (h : s.Sound) {registry : Registry}
    (haccounts : registry.Accounts (ticket :: s.outstanding))
    (hfew : s.outstanding.length < REPLY_CAPACITY)
    (hold : s.registry.nextSerial.toNat < registry.nextSerial.toNat)
    (hserial : registry.nextSerial = ticket.serial) {now : Instant}
    (hflows : ∀ entry ∈ registry.flows, (entry.1 ≠ ticket.key ∧ entry ∈ s.registry.flows) ∨
      (∃ wave, (ticket.key, wave) ∈ s.registry.flows ∧
        entry = (ticket.key, wave.join ticket.serial now)) ∨
      (∀ wave, (ticket.key, wave) ∉ s.registry.flows) ∧
        entry = (ticket.key, ⟨ticket.serial, {ticket.serial}, false, now⟩)) :
    Sound (WaveRun.draw ticket { s with registry }) := by
  have hfresh : ticket ∉ s.issued := by
    intro hmem
    have := h.old ticket hmem
    rw [hserial] at hold
    omega
  -- The wave of the flow goes on while it has active tickets, and starts again otherwise.
  have hcases : ∀ entry ∈ registry.flows, (entry.1 ≠ ticket.key ∧ entry ∈ s.registry.flows) ∨
      entry.1 = ticket.key ∧
        ((¬(∃ other ∈ s.outstanding, other.key = ticket.key) ∧
            entry.2 = ⟨ticket.serial, {ticket.serial}, false, now⟩) ∨
          (∃ other ∈ s.outstanding, other.key = ticket.key) ∧
            ∃ wave, (ticket.key, wave) ∈ s.registry.flows ∧
              entry.2 =
                { wave with active := insert ticket.serial wave.active, updated := now }) := by
    intro entry hentry
    rcases hflows entry hentry with hother | ⟨wave, hmem, rfl⟩ | ⟨hnew, rfl⟩
    · exact .inl hother
    · refine .inr ⟨rfl, ?_⟩
      rw [← h.active_iff hmem, Wave.join]
      split_ifs with hempty
      · exact .inl ⟨not_not.mpr hempty, rfl⟩
      · exact .inr ⟨hempty, wave, hmem, rfl⟩
    · refine .inr ⟨rfl, .inl ⟨?_, rfl⟩⟩
      rintro ⟨other, hother, hkey⟩
      obtain ⟨-, wave, hmem, -⟩ := h.accounts.known other hother
      exact hnew wave (hkey ▸ hmem)
  constructor
  case accounts => exact haccounts
  case few => exact hfew
  case backed =>
    intro entry hentry serial hin
    rcases hcases entry hentry with ⟨-, hmem⟩ | ⟨hkey, ⟨-, heq⟩ | ⟨-, wave, hmem, heq⟩⟩
    · obtain ⟨other, hother, hrest⟩ := h.backed entry hmem serial hin
      exact ⟨other, List.mem_cons_of_mem _ hother, hrest⟩
    · rw [heq] at hin
      exact ⟨ticket, List.mem_cons_self, hkey.symm, (Finset.mem_singleton.mp hin).symm⟩
    · rw [heq] at hin
      rcases Finset.mem_insert.mp hin with rfl | hin
      · exact ⟨ticket, List.mem_cons_self, hkey.symm, rfl⟩
      · obtain ⟨other, hother, hrest⟩ := h.backed _ hmem serial hin
        exact ⟨other, List.mem_cons_of_mem _ hother, hrest.1.trans hkey.symm, hrest.2⟩
  case old =>
    refine List.forall_mem_cons.mpr ⟨hserial ▸ le_rfl, fun other hother => ?_⟩
    exact (h.old other hother).trans hold.le
  case distinct =>
    refine List.nodup_cons.mpr ⟨fun hmem => ?_, h.distinct⟩
    obtain ⟨other, hother, heq⟩ := List.mem_map.mp hmem
    have hle := h.old other hother
    rw [show other.serial = registry.nextSerial from heq.trans hserial.symm] at hle
    omega
  case outstanding =>
    refine List.forall_mem_cons.mpr ⟨⟨List.mem_cons_self, ?_⟩, fun other hother => ?_⟩
    · simp only [WaveRun.draw, Function.update_self]
      split_ifs <;> exact List.mem_cons_self
    · obtain ⟨hissued, hwave⟩ := h.outstanding other hother
      refine ⟨List.mem_cons_of_mem _ hissued, ?_⟩
      by_cases hkey : other.key = ticket.key
      · simp only [WaveRun.draw, hkey, Function.update_self]
        rw [if_pos ⟨other, hother, hkey⟩, ← hkey]
        exact List.mem_cons_of_mem _ hwave
      · simpa only [WaveRun.draw, Function.update_of_ne hkey] using hwave
  case wave =>
    intro key other hother
    by_cases hkey : key = ticket.key
    · subst hkey
      simp only [WaveRun.draw, Function.update_self] at hother ⊢
      have hmem : other = ticket ∨ other ∈ s.wave ticket.key := by
        split_ifs at hother
        · exact List.mem_cons.mp hother
        · exact .inl (List.mem_singleton.mp hother)
      rcases hmem with rfl | hmem
      · exact ⟨rfl, List.mem_cons_self⟩
      · exact (h.wave _ other hmem).imp_right (List.mem_cons_of_mem _)
    · simp only [WaveRun.draw, Function.update_of_ne hkey] at hother
      exact (h.wave key other hother).imp_right (List.mem_cons_of_mem _)
  case refused => exact fun other hother => List.mem_cons_of_mem _ (h.refused other hother)
  case failed =>
    have hnot : ticket ∉ s.refused := fun hmem => hfresh (h.refused ticket hmem)
    intro entry hentry
    rcases hcases entry hentry with ⟨hkey, hmem⟩ | ⟨hkey, ⟨hnone, heq⟩ | ⟨hsome, wave, hmem, heq⟩⟩
    · simp only [WaveRun.draw, Function.update_of_ne hkey]
      exact h.failed entry hmem
    · simp [WaveRun.draw, hkey, hnone, heq, hnot]
    · have hfailed := h.failed _ hmem
      simp only [WaveRun.draw, hkey, Function.update_self, if_pos hsome, heq, List.mem_cons,
        or_and_right, exists_or, exists_eq_left, hnot, false_or]
      exact hfailed

theorem complete (h : s.Sound) (hissued : ticket ∈ s.issued) (succeeded : Bool) (now : Instant) :
    (s.step (.complete ticket succeeded now)).Sound := by
  simp only [step, if_pos hissued]
  by_cases hout : ticket ∈ s.outstanding
  · have hstep := h.accounts.complete hout succeeded now
    refine { h with
      accounts := hstep.1
      few := (List.length_erase_le ..).trans h.few
      old := hstep.2.2.2 ▸ h.old
      outstanding := fun other hother => h.outstanding other (List.mem_of_mem_erase hother)
      refused := ?refused
      backed := ?backed
      failed := ?failed }
    case refused =>
      intro other hother
      simp only at hother
      split_ifs at hother
      · rcases List.mem_cons.mp hother with rfl | hother
        · exact hissued
        · exact h.refused other hother
      · exact h.refused other hother
    case backed =>
      rw [h.accounts.complete_eq hout]
      intro entry hentry serial hin
      rcases Table.mem_alter.mp hentry with ⟨hkey, hentry⟩ | ⟨old, hold, rfl⟩
      · obtain ⟨other, hother, hrest⟩ := h.backed entry hentry serial hin
        refine ⟨other, (List.mem_erase_of_ne ?_).mpr hother, hrest⟩
        rintro rfl
        exact hkey hrest.1.symm
      · obtain ⟨hne, hin⟩ := Finset.mem_erase.mp hin
        obtain ⟨other, hother, hrest⟩ := h.backed _ hold serial hin
        refine ⟨other, (List.mem_erase_of_ne ?_).mpr hother, hrest⟩
        rintro rfl
        exact hne hrest.2.symm
    case failed =>
      rw [h.accounts.complete_eq hout]
      intro entry hentry
      rcases Table.mem_alter.mp hentry with ⟨hkey, hentry⟩ | ⟨old, hold, rfl⟩
      · have hnot : ticket ∉ s.wave entry.1 := fun hin => hkey (h.wave _ ticket hin).1.symm
        rw [h.failed entry hentry]
        cases succeeded <;> simp [hout]
        grind
      · have hfailed := h.failed _ hold
        have hwave := (h.outstanding ticket hout).2
        cases succeeded <;> simp [Wave.leave, hout, hfailed]
        exact ⟨ticket, hwave, .inl rfl⟩
  · rw [h.complete_of_not_mem hissued hout, List.erase_of_not_mem hout,
      if_neg fun hboth => hout hboth.1]
    exact h

theorem step (h : s.Sound) (call : WaveCall) : (s.step call).Sound := by
  cases call with
  | begin key generation now =>
    have hentered := (h.enter generation).forgets (Registry.forgets_prune _ now)
    have hsettled := hentered.forgets (Registry.forgets_evictFor hentered.accounts.unique key)
    simp only [WaveRun.step]
    rcases Registry.begin_cases s.registry key generation now with
      ⟨e, registry, hexec, rfl | rfl⟩ | ⟨serial, hcount, hroom, hserial, hexec⟩
    · rw [hexec]
      exact hentered
    · rw [hexec]
      exact hsettled
    · rw [hexec]
      have hfields := Registry.evictFor_eq ((s.registry.enter generation).prune now) key
      have hgeneration := (congrArg Registry.generation hfields).trans
        (Registry.enter_generation s.registry generation)
      obtain ⟨haccounts, hflows⟩ := hsettled.accounts.joined hgeneration hroom hserial now
      rw [hentered.accounts.count] at hcount
      have hnext : ({ ((s.registry.enter generation).prune now).evictFor key with
          nextSerial := serial }.joinFlow key serial now).nextSerial = serial := by
        unfold Registry.joinFlow
        split_ifs <;> rfl
      refine hsettled.draw haccounts hcount ?_ hnext hflows
      rw [hnext, toNat_of_checkedSucc hserial]
      exact Nat.lt_succ_self _
  | complete ticket succeeded now =>
    by_cases hissued : ticket ∈ s.issued
    · exact h.complete hissued succeeded now
    · simpa only [WaveRun.step, if_neg hissued] using h
  | readiness pending now =>
    have hprune : (s.registry.readiness pending now).2 = s.registry.prune now := by
      simp only [Registry.readiness]
      split_ifs
      · rfl
      · split <;> rfl
    simp only [WaveRun.step, hprune]
    exact h.forgets (Registry.forgets_prune _ now)

theorem run (h : s.Sound) (calls : List WaveCall) : (s.run calls).Sound := by
  induction calls generalizing s with
  | nil => exact h
  | cons call calls ih => exact ih (h.step call)

theorem begin_not_outstanding (h : s.Sound) (hissued : ticket ∈ s.issued) {key : FlowKey}
    {generation : BitVec 32} {now : Instant} (hkept : ticket ∉ s.keptBy generation) :
    ticket ∈ (s.step (.begin key generation now)).issued ∧
      ticket ∉ (s.step (.begin key generation now)).outstanding := by
  have hdistinct := (h.step (.begin key generation now)).distinct
  simp only [WaveRun.step] at hdistinct ⊢
  cases hresult : ((Registry.begin key generation now).exec s.registry).1 with
  | error e => exact ⟨hissued, hkept⟩
  | ok drawn =>
    simp only [hresult, WaveRun.draw, List.map_cons, List.nodup_cons] at hdistinct ⊢
    refine ⟨List.mem_cons_of_mem _ hissued, fun hmem => ?_⟩
    rcases List.mem_cons.mp hmem with rfl | hmem
    · exact hdistinct.1 (List.mem_map_of_mem hissued)
    · exact hkept hmem

theorem run_not_outstanding (h : s.Sound) (hissued : ticket ∈ s.issued)
    (hout : ticket ∉ s.outstanding) (calls : List WaveCall) :
    ticket ∈ (s.run calls).issued ∧ ticket ∉ (s.run calls).outstanding := by
  induction calls generalizing s with
  | nil => exact ⟨hissued, hout⟩
  | cons call calls ih =>
    have hstep : ticket ∈ (s.step call).issued ∧ ticket ∉ (s.step call).outstanding := by
      cases call with
      | begin key generation now =>
        exact h.begin_not_outstanding hissued fun hmem => hout (List.mem_filter.mp hmem).1
      | complete other succeeded now =>
        by_cases hother : other ∈ s.issued
        · simp only [WaveRun.step, if_pos hother]
          exact ⟨hissued, fun hmem => hout (List.mem_of_mem_erase hmem)⟩
        · simpa only [WaveRun.step, if_neg hother] using ⟨hissued, hout⟩
      | readiness pending now => exact ⟨hissued, hout⟩
    exact ih (h.step call) hstep.1 hstep.2

theorem complete_run_false (h : s.Sound) (hissued : ticket ∈ s.issued)
    (hout : ticket ∉ s.outstanding) (calls : List WaveCall) (succeeded : Bool) (now : Instant) :
    ((s.run calls).registry.complete ticket succeeded now).1 = false := by
  obtain ⟨hissued', hout'⟩ := h.run_not_outstanding hissued hout calls
  rw [(h.run calls).complete_of_not_mem hissued' hout']

end Sound

/-- After any calls, the completion of a drawn ticket takes effect exactly if it is outstanding.
It then changes the wave it was drawn for and nothing else, and never takes effect again; nor does
it after a call of `begin` for another generation. A wave has failed exactly if one of its tickets
was refused, a wave with outstanding tickets is there, and neither flows nor tickets exceed their
bound. -/
theorem run_waves (progress : QueueProgress) (calls : List WaveCall) :
    let s := (start progress).run calls
    (∀ ticket ∈ s.issued, ∀ succeeded now,
      ((s.registry.complete ticket succeeded now).1 = true ↔ ticket ∈ s.outstanding) ∧
      (ticket ∉ s.outstanding → (s.registry.complete ticket succeeded now).2 = s.registry) ∧
      (ticket ∈ s.outstanding → ticket ∈ s.wave ticket.key ∧
        ∃ wave, (ticket.key, wave) ∈ s.registry.flows ∧ wave.serial = ticket.wave ∧
          ticket.serial ∈ wave.active ∧
          (s.registry.complete ticket succeeded now).2 = { s.registry with
            flows := Table.alter ticket.key (·.leave ticket.serial succeeded now)
              s.registry.flows }) ∧
      (∀ more, let later := (s.step (.complete ticket succeeded now)).run more
        ∀ succeeded now, (later.registry.complete ticket succeeded now).1 = false) ∧
      ∀ key generation, generation ≠ ticket.generation → ∀ more,
        let later := (s.step (.begin key generation now)).run more
        ∀ succeeded now, (later.registry.complete ticket succeeded now).1 = false) ∧
    (∀ entry ∈ s.registry.flows,
      entry.2.failed = true ↔ ∃ ticket ∈ s.wave entry.1, ticket ∈ s.refused) ∧
    s.registry.flows.length ≤ 128 ∧ s.registry.activeCount ≤ 128 := by
  intro s
  have h : s.Sound := (Sound.start progress).run calls
  refine ⟨fun ticket hissued succeeded now => ⟨h.complete_iff hissued succeeded now, ?_, ?_, ?_,
    ?_⟩,
    h.failed, h.accounts.bound, h.accounts.count ▸ h.few⟩
  · intro hout
    rw [h.complete_of_not_mem hissued hout]
  · intro hout
    obtain ⟨-, wave, hmem, hserial, hactive⟩ := h.accounts.known ticket hout
    exact ⟨(h.outstanding ticket hout).2, wave, hmem, hserial, hactive, by
      rw [h.accounts.complete_eq hout]⟩
  · have hnodup : s.outstanding.Nodup := List.Nodup.of_map _ h.accounts.distinct
    refine fun more => (h.step (.complete ticket succeeded now)).complete_run_false ?_ ?_ more
    · simpa only [step, if_pos hissued] using hissued
    · simpa only [step, if_pos hissued] using hnodup.not_mem_erase
  · intro key generation hne more
    have hbegin := @Sound.begin_not_outstanding s ticket h hissued key generation now fun hmem =>
      hne (of_decide_eq_true (List.mem_filter.mp hmem).2).symm
    exact (h.step _).complete_run_false hbegin.1 hbegin.2 more

end WaveRun

end OpenShield
