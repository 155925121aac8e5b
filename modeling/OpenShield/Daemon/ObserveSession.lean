import OpenShield.Daemon.Observe
import OpenShield.Daemon.Noninterference

/-!
# Observation sessions are complete

A session that asks for a status and then follows the cursors gets every rule once, in order, in
pages that are as long as a frame allows, and the client accepts what it got.
-/

namespace OpenShield

def Rule.shown (rule : Rule) (redactSensitive : Bool) : Rule :=
  if redactSensitive then rule.redactedForObserver else rule

@[simp]
theorem Rule.shown_id (rule : Rule) (redactSensitive : Bool) :
    (rule.shown redactSensitive).id = rule.id := by
  unfold Rule.shown
  split_ifs
  · exact Rule.redactedForObserver_id
  · rfl

theorem Rule.shown_spec (rule : Rule) (redactSensitive : Bool) :
    ∃ name application, (rule.shown redactSensitive).spec = { rule.spec with name, application } ∧
      application.isNone = rule.spec.application.isNone := by
  unfold Rule.shown Rule.redactedForObserver
  split_ifs with hsensitive happ
  · exact ⟨_, _, rfl, (Option.isNone_eq_false_iff.mpr happ).symm⟩
  · exact ⟨_, _, rfl, rfl⟩
  · exact ⟨_, _, rfl, rfl⟩

structure ObservedPage where
  after : Option Uuid
  revision : BitVec 64
  rules : List Rule
  nextAfter : Option Uuid

def ObservedPage.response (page : ObservedPage) : Response :=
  .rulesPage page.revision page.rules page.nextAfter

namespace ObserveServer

variable (server : ObserveServer)

def shownAfter (after : Option Uuid) : List Rule :=
  (server.engine.state.rulesAfter after).map (·.shown server.redactSensitive)

def enginePage (after : Option Uuid) : Response :=
  redactRulePage (server.engine.rulesPageResponse after MAX_RULES_PER_PAGE) server.redactSensitive

inductive Follows (limit : BitVec 16) :
    ObserveSession → Option Uuid → List ObservedPage → Prop
  | last {session session' : ObserveSession} {page : ObservedPage}
      (answer : server.respond session (.rulesPage page.after limit) =
        .answered page.response session') (done : page.nextAfter = none) :
      Follows limit session page.after [page]
  | next {session session' : ObserveSession} {page : ObservedPage} {cursor : Uuid}
      {rest : List ObservedPage}
      (answer : server.respond session (.rulesPage page.after limit) =
        .answered page.response session') (more : page.nextAfter = some cursor)
      (follows : Follows limit session' (some cursor) rest) :
      Follows limit session page.after (page :: rest)

structure PageSound (page : ObservedPage) : Prop where
  revision : page.revision = server.engine.state.revision
  nonempty : server.engine.state.rulesAfter page.after ≠ [] → page.rules ≠ []
  longest : IsLongestBeginning server.codec (server.enginePage page.after) page.response
  short : page.rules.length ≤ MAX_RULES_PER_PAGE.toNat
  advances : ∀ cursor ∈ page.nextAfter, page.rules ≠ [] ∧ page.after ≠ some cursor

variable {server}

theorem enginePage_eq (hfatal : server.engine.fatal = false) (after : Option Uuid) :
    ∃ nextAfter : Option Uuid, server.enginePage after =
        .rulesPage server.engine.state.revision
          ((server.shownAfter after).take MAX_RULES_PER_PAGE.toNat) nextAfter ∧
      nextAfter.isSome =
        decide (MAX_RULES_PER_PAGE.toNat < (server.shownAfter after).length) := by
  have hlimit : clampPageLimit MAX_RULES_PER_PAGE = MAX_RULES_PER_PAGE := by decide
  unfold enginePage redactRulePage Engine.rulesPageResponse shownAfter
  simp only [hfatal, Bool.false_eq_true, if_false, hlimit]
  generalize server.engine.state.rulesAfter after = matching
  refine ⟨((matching.drop MAX_RULES_PER_PAGE.toNat).head?.bind fun _ =>
    (matching.take MAX_RULES_PER_PAGE.toNat).getLast?.map Rule.id), ?_, ?_⟩
  · cases server.redactSensitive with
    | false => simp [Rule.shown]
    | true => simp [Rule.shown, List.map_take]
  · rw [List.length_map]
    have hpositive : 0 < MAX_RULES_PER_PAGE.toNat := by decide
    by_cases hmore : MAX_RULES_PER_PAGE.toNat < matching.length
    · obtain ⟨rule, rest, hdrop⟩ := List.exists_cons_of_ne_nil
        (List.drop_eq_nil_iff.not.mpr (Nat.not_le.mpr hmore))
      have htake : matching.take MAX_RULES_PER_PAGE.toNat ≠ [] := by
        rw [← List.length_pos_iff, List.length_take]
        omega
      simp [hdrop, hmore, List.getLast?_eq_some_getLast htake]
    · simp [List.drop_eq_nil_of_le (Nat.not_lt.mp hmore), hmore]

theorem shownAfter_eq_map (after : Option Uuid) :
    server.shownAfter after = (server.engine.state.rules.entriesAfter after).map
      fun entry => entry.2.shown server.redactSensitive :=
  List.map_map

theorem shownAfter_none : server.shownAfter none =
    server.engine.state.rules.values.map (·.shown server.redactSensitive) := by
  rw [shownAfter_eq_map, OrderedMap.entriesAfter_none, OrderedMap.values, List.map_map]
  rfl

variable {after : Option Uuid} {session : ObserveSession} {status : PolicyStatus}

/-- The cursor of a page is the identifier of its last rule, and the rules behind it are those
that are not on the page. -/
theorem shownAfter_split {count : ℕ}
    (hentries : ∀ entry ∈ server.engine.state.rules.entries, entry.1 = entry.2.id)
    (hcount : 0 < count) (hle : count ≤ (server.shownAfter after).length) :
    ∃ cursor, (server.shownAfter after)[count - 1]?.map Rule.id = some cursor ∧
      server.shownAfter (some cursor) = (server.shownAfter after).drop count ∧
      after ≠ some cursor := by
  rw [shownAfter_eq_map after] at hle ⊢
  rw [List.length_map] at hle
  have hindex : count - 1 < (server.engine.state.rules.entriesAfter after).length := by omega
  obtain ⟨entry, hentry⟩ : ∃ entry,
      (server.engine.state.rules.entriesAfter after)[count - 1]? = some entry :=
    ⟨_, List.getElem?_eq_getElem hindex⟩
  have hsplit : server.engine.state.rules.entriesAfter after =
      (server.engine.state.rules.entriesAfter after).take (count - 1) ++
        entry :: (server.engine.state.rules.entriesAfter after).drop count := by
    have hdrop := List.drop_eq_getElem_cons hindex
    rw [Nat.sub_add_cancel hcount, (List.getElem?_eq_some_iff.mp hentry).2] at hdrop
    rw [← hdrop, List.take_append_drop]
  have hmem : entry ∈ server.engine.state.rules.entriesAfter after :=
    List.mem_of_getElem? hentry
  refine ⟨entry.1, ?_, ?_, ?_⟩
  · rw [List.getElem?_map, hentry, Option.map_some, Option.map_some, Rule.shown_id,
      hentries entry (List.mem_filter.mp hmem).1]
  · rw [shownAfter_eq_map, OrderedMap.entriesAfter_of_split hsplit, List.map_drop]
  · rintro rfl
    exact (OrderedMap.lt_of_mem_entriesAfter hmem).false

def OneRuleFits (server : ObserveServer) : Prop :=
  ∀ rule ∈ server.engine.state.rules.values,
    server.codec.fits (.rulesPage server.engine.state.revision
      [rule.shown server.redactSensitive] (some rule.id)) = true

instance : Decidable server.OneRuleFits :=
  inferInstanceAs (Decidable (∀ rule ∈ server.engine.state.rules.values, _))

theorem mem_values_of_mem_shownAfter {shown : Rule} (h : shown ∈ server.shownAfter after) :
    ∃ rule ∈ server.engine.state.rules.values, shown = rule.shown server.redactSensitive := by
  rw [shownAfter_eq_map] at h
  obtain ⟨entry, hentry, rfl⟩ := List.mem_map.mp h
  exact ⟨entry.2, List.mem_map_of_mem (List.mem_filter.mp hentry).1, rfl⟩

theorem OneRuleFits.cutPage_one (h : server.OneRuleFits) {limit : ℕ} (hlimit : 0 < limit)
    (hrules : server.shownAfter after ≠ []) (upstreamHasMore : Bool) :
    server.codec.fits (cutPage server.engine.state.revision
      ((server.shownAfter after).take limit) upstreamHasMore 1) = true := by
  obtain ⟨shown, rest, hshown⟩ := List.exists_cons_of_ne_nil hrules
  obtain ⟨limit, rfl⟩ := Nat.exists_eq_succ_of_ne_zero hlimit.ne'
  obtain ⟨rule, hrule, rfl⟩ := mem_values_of_mem_shownAfter (hshown ▸ List.mem_cons_self)
  have hfits := h rule hrule
  rw [hshown]
  simp only [FrameCodec.fits, decide_eq_true_eq, server.codec.page, cursorSize] at hfits ⊢
  rw [FrameCodec.size_cutPage Nat.one_pos (by simp)]
  have hcursor (more : Bool) : (if more then 38 else 4) ≤ 38 := by cases more <;> decide
  refine le_trans (Nat.add_le_add_left (hcursor _) _) ?_
  rwa [List.take_succ_cons, List.take_succ_cons, List.take_zero]

/-- A page that was cut holds the first rules behind the cursor. Its own cursor tells whether
there are more. -/
theorem cutPage_eq {nextAfter : Option Uuid} {count limit : ℕ} (hcount : 0 < count)
    (hle : count ≤ ((server.shownAfter after).take limit).length)
    (hmore : nextAfter.isSome = decide (limit < (server.shownAfter after).length)) :
    cutPage server.engine.state.revision ((server.shownAfter after).take limit) nextAfter.isSome
        count =
      .rulesPage server.engine.state.revision ((server.shownAfter after).take count)
        (if count < (server.shownAfter after).length then
          (server.shownAfter after)[count - 1]?.map Rule.id else none) := by
  rw [List.length_take] at hle
  have hcut : (nextAfter.isSome || decide (count < ((server.shownAfter after).take limit).length)) =
      decide (count < (server.shownAfter after).length) := by
    rw [hmore, List.length_take, ← Bool.decide_or]
    exact decide_eq_decide.mpr (by omega)
  simp only [cutPage, hcut, decide_eq_true_eq, List.take_take,
    Nat.min_eq_left (show count ≤ limit by omega),
    List.getElem?_take_of_lt (show count - 1 < limit by omega)]

theorem rulePage_spec (hfatal : server.engine.fatal = false)
    (hentries : ∀ entry ∈ server.engine.state.rules.entries, entry.1 = entry.2.id)
    (hone : server.OneRuleFits) (after : Option Uuid) :
    ∃ page : ObservedPage, page.after = after ∧
      rulePage server.codec server.engine after server.redactSensitive = page.response ∧
      server.codec.fits page.response = true ∧ server.PageSound page ∧
      (page.nextAfter = none → page.rules = server.shownAfter after) ∧
      ∀ cursor, page.nextAfter = some cursor → server.shownAfter (some cursor) ≠ [] ∧
        page.rules ++ server.shownAfter (some cursor) = server.shownAfter after := by
  obtain ⟨nextAfter, hengine, hmore⟩ := server.enginePage_eq hfatal after
  have hpage : rulePage server.codec server.engine after server.redactSensitive =
      fitRulePageWith server.codec.fits (server.enginePage after) := rfl
  rw [hengine] at hpage
  by_cases hempty : server.shownAfter after = []
  · -- nothing is left
    obtain ⟨hfit, hfits⟩ :=
      fitRulePageWith_nil server.codec server.engine.state.revision nextAfter
    rw [hempty, List.take_nil] at hpage hengine
    refine ⟨⟨after, server.engine.state.revision, [], none⟩, rfl, hpage.trans hfit, hfits,
      ⟨rfl, fun hrules => ?_, ?_, Nat.zero_le _, nofun⟩, fun _ => hempty.symm, nofun⟩
    · exact absurd (List.map_eq_nil_iff.mp hempty) hrules
    · refine ⟨_, _, nextAfter, 0, hengine, ?_, le_rfl, hfits, fun longer hlonger hle => ?_⟩
      · simp [cutPage, ObservedPage.response]
      · exact absurd (hlonger.trans_le hle) (Nat.lt_irrefl 0)
  · have htake : (server.shownAfter after).take MAX_RULES_PER_PAGE.toNat ≠ [] := by
      simpa using ⟨by decide, hempty⟩
    obtain ⟨count, hpositive, hle, hfit, hfits, hlongest⟩ :=
      fitRulePageWith_cutPage server.codec htake
        (hone.cutPage_one (by decide) hempty nextAfter.isSome)
    have hcut := cutPage_eq hpositive hle hmore
    have hlimit : count ≤ MAX_RULES_PER_PAGE.toNat ∧
        count ≤ (server.shownAfter after).length := by
      rw [List.length_take] at hle
      omega
    obtain ⟨cursor, hcursor, hrest, hadvance⟩ :=
      shownAfter_split hentries hpositive hlimit.2
    have hnonempty : (server.shownAfter after).take count ≠ [] := by
      simpa using ⟨hpositive.ne', hempty⟩
    rw [hcursor] at hcut
    have hfits := (congrArg server.codec.fits hcut).symm.trans hfits
    refine ⟨⟨after, server.engine.state.revision, (server.shownAfter after).take count,
      if count < (server.shownAfter after).length then some cursor else none⟩, rfl,
      (hpage.trans hfit).trans hcut, hfits,
      ⟨rfl, fun _ => hnonempty, ⟨_, _, nextAfter, count, hengine, hcut.symm, hle, hfits, hlongest⟩,
        ?_, ?_⟩, ?_, ?_⟩
    · rw [List.length_take]
      omega
    · intro other hother
      refine ⟨hnonempty, ?_⟩
      dsimp only at hother
      split_ifs at hother
      · rwa [← Option.mem_some_iff.mp hother]
      · cases hother
    · intro hnone
      dsimp only at hnone ⊢
      split_ifs at hnone with hlt
      exact List.take_of_length_le (Nat.not_lt.mp hlt)
    · intro other hother
      dsimp only at hother ⊢
      split_ifs at hother with hlt
      cases hother
      rw [hrest, List.take_append_drop]
      exact ⟨by simpa using hlt, rfl⟩

def Awaits (session : ObserveSession) (after : Option Uuid) : Prop :=
  session.pagesStarted = true ∧ session.pagesFinished = false ∧ after = session.expectedAfter ∨
    session.pagesStarted = false ∧ session.statusRequests ≠ 0 ∧ after = none

theorem respond_rulesPage {page : ObservedPage} (limit : BitVec 16)
    (hawaits : Awaits session page.after)
    (hlimit : session.requests < MAX_OBSERVE_REQUESTS_PER_CONNECTION)
    (hpage : rulePage server.codec server.engine page.after server.redactSensitive = page.response)
    (hfits : server.codec.fits page.response = true) :
    server.respond session (.rulesPage page.after limit) =
      .answered page.response
        { session with
          requests := session.requests + 1
          pagesStarted := true
          expectedAfter := page.nextAfter
          pagesFinished := page.nextAfter.isNone } := by
  have hvalid : (if session.pagesStarted then
      !session.pagesFinished && decide (page.after = session.expectedAfter)
      else decide (session.statusRequests ≠ 0) && page.after.isNone) = true := by
    rcases hawaits with ⟨hstarted, hunfinished, hafter⟩ | ⟨hstarted, hstatus, hafter⟩
    · simp [hstarted, hunfinished, hafter]
    · simp [hstarted, hstatus, hafter]
  rw [ObservedPage.response] at hfits
  simp only [respond, if_neg hlimit.ne, hvalid, Bool.not_true, Bool.false_eq_true, if_false,
    writeRulePage, hpage, ObservedPage.response, write, hfits, if_true]

/-- A session goes on until the last page. It has every rule behind its cursor, and no more pages
than rules, but at least one. -/
theorem exists_follows (hfatal : server.engine.fatal = false)
    (hentries : ∀ entry ∈ server.engine.state.rules.entries, entry.1 = entry.2.id)
    (hone : server.OneRuleFits) (limit : BitVec 16) (hawaits : Awaits session after)
    (hlimit : session.requests + max 1 (server.shownAfter after).length ≤
      MAX_OBSERVE_REQUESTS_PER_CONNECTION) :
    ∃ pages, server.Follows limit session after pages ∧
      (pages.flatMap ObservedPage.rules) = server.shownAfter after ∧
      pages.length ≤ max 1 (server.shownAfter after).length ∧
      ∀ page ∈ pages, server.PageSound page := by
  -- every page but the last one has a rule, so fewer rules are left
  induction hlength : (server.shownAfter after).length using Nat.strong_induction_on
    generalizing session after with
  | _ left ih =>
    obtain ⟨page, rfl, hpage, hfits, hsound, hlast, hnext⟩ :=
      rulePage_spec hfatal hentries hone after
    have hanswer := respond_rulesPage limit hawaits (by omega) hpage hfits
    cases hcursor : page.nextAfter with
    | none =>
      refine ⟨[page], .last hanswer hcursor, ?_, le_max_left _ _, ?_⟩
      · rw [List.flatMap_singleton, hlast hcursor]
      · rintro other hother
        rwa [List.mem_singleton.mp hother]
    | some cursor =>
      obtain ⟨hmore, hsplit⟩ := hnext cursor hcursor
      have hleft := List.length_pos_iff.mpr hmore
      have hrules := List.length_pos_iff.mpr (hsound.advances cursor hcursor).1
      have hlengths := congrArg List.length hsplit
      rw [List.length_append, hlength] at hlengths
      have hawaits' : Awaits
          { session with
            requests := session.requests + 1
            pagesStarted := true
            expectedAfter := page.nextAfter
            pagesFinished := page.nextAfter.isNone } (some cursor) :=
        .inl ⟨rfl, congrArg Option.isNone hcursor, hcursor.symm⟩
      obtain ⟨rest, hfollows, hall, hcount, hsounds⟩ :=
        ih _ (by omega) hawaits' (by dsimp only; omega) rfl
      refine ⟨page :: rest, .next hanswer hcursor hfollows, ?_, ?_, ?_⟩
      · rw [List.flatMap_cons, hall, hsplit]
      · rw [List.length_cons]
        omega
      · rintro other hother
        rcases List.mem_cons.mp hother with rfl | hother
        · exact hsound
        · exact hsounds other hother

/-! ### The client -/

theorem fetchPages_page {session' : ObserveSession} {page : ObservedPage} {expectedCount : ℕ}
    {rules : List Rule}
    (hanswer : server.respond session (.rulesPage page.after MAX_RULES_PER_PAGE) =
      .answered page.response session')
    (hsound : server.PageSound page) (hrevision : status.revision = server.engine.state.revision)
    (hcount : (rules ++ page.rules).length ≤ expectedCount) (hmax : expectedCount ≤ MAX_RULES) :
    server.fetchPages (some session) status expectedCount rules page.after =
      match page.nextAfter with
      | some cursor =>
        server.fetchPages (some session') status expectedCount (rules ++ page.rules) (some cursor)
      | none => .ok (rules ++ page.rules) := by
  have hcheck : checkPage status page.after page.revision page.rules page.nextAfter = .ok () := by
    refine checkPage_eq_ok_iff.mpr
      ⟨hsound.revision.trans hrevision.symm, hsound.short, fun hnext => ?_, fun hnext => ?_⟩
    · obtain ⟨cursor, hcursor⟩ := Option.isSome_iff_exists.mp hnext
      exact (hsound.advances cursor hcursor).1
    · obtain ⟨cursor, hcursor⟩ := Option.isSome_iff_exists.mp hnext
      exact fun h => (hsound.advances cursor hcursor).2 (h.symm.trans hcursor)
  have hfew : ¬((rules ++ page.rules).length > expectedCount ∨
      (rules ++ page.rules).length > MAX_RULES) := by omega
  obtain ⟨after, revision, fetched, nextAfter⟩ := page
  rw [fetchPages]
  simp only [ask, hanswer, ObservedPage.response, readRulesPage]
  split
  · next error herror =>
    rw [hcheck] at herror
    cases herror
  · rw [dif_neg hfew]
    cases nextAfter <;> rfl

theorem fetchPages_of_follows {pages : List ObservedPage} {expectedCount : ℕ} {rules : List Rule}
    (hfollows : server.Follows MAX_RULES_PER_PAGE session after pages)
    (hsound : ∀ page ∈ pages, server.PageSound page)
    (hrevision : status.revision = server.engine.state.revision)
    (hcount : rules.length + (pages.flatMap ObservedPage.rules).length ≤ expectedCount)
    (hmax : expectedCount ≤ MAX_RULES) :
    server.fetchPages (some session) status expectedCount rules after =
      .ok (rules ++ pages.flatMap ObservedPage.rules) := by
  induction hfollows generalizing rules with
  | @last session session' page answer done =>
    rw [List.flatMap_singleton] at hcount ⊢
    rw [fetchPages_page answer (hsound page List.mem_cons_self) hrevision
      (by rwa [List.length_append]) hmax, done]
  | @next session session' page cursor rest answer more follows ih =>
    rw [List.flatMap_cons, List.length_append] at hcount
    rw [fetchPages_page answer (hsound page List.mem_cons_self) hrevision
      (by rw [List.length_append]; omega) hmax, more]
    dsimp only
    rw [ih (fun other hother => hsound other (List.mem_cons_of_mem _ hother))
      (by rw [List.length_append]; omega), List.flatMap_cons, List.append_assoc]

/-! ### The status -/

theorem toNat_u32Saturating {n : ℕ} (h : n < 2 ^ 32) : (u32Saturating n).toNat = n := by
  rw [u32Saturating, if_pos h, BitVec.toNat_ofNat, Nat.mod_eq_of_lt h]

theorem u32Saturating_mono {a b : ℕ} (h : a ≤ b) : u32Saturating a ≤ u32Saturating b := by
  by_cases hb : b < 2 ^ 32
  · rw [BitVec.le_def, toNat_u32Saturating hb, toNat_u32Saturating (h.trans_lt hb)]
    exact h
  · rw [u32Saturating, u32Saturating, if_neg hb, BitVec.le_def, BitVec.toNat_allOnes]
    exact Nat.le_sub_one_of_lt (BitVec.isLt _)

theorem saturatedKeys_le {κ : Type} [DecidableEq κ] (limit : ℕ) (keys : List κ) :
    saturatedKeys limit keys ≤ keys.length :=
  (List.countP_le_length).trans (List.dedup_sublist keys).length_le

theorem length_owners_le (s : State) :
    (s.rules.values.filterMap learnedOwner?).length ≤ s.automaticCount := by
  rw [List.length_filterMap_eq_countP, State.automaticCount]
  refine List.countP_mono_left fun rule _ howner => ?_
  unfold learnedOwner? at howner
  split_ifs at howner with hlearned
  · rw [isLearnedOutbound, Bool.and_eq_true, decide_eq_true_eq] at hlearned
    exact decide_eq_true (.inl hlearned.1)
  · cases howner

variable (server) in
def policyStatus (protocol : StatusProtocol) : PolicyStatus :=
  { revision := server.engine.state.revision
    mode := server.engine.state.mode
    ruleCount := server.ruleCount
    backend := server.backend.kind
    runtimeCompatibility := server.runtimeCompatibility
    learning := if protocol = .v2 then none else some server.learningStatus
    enforcementStrategy :=
      if protocol = .v2 ∨ protocol = .v3 then none else some server.engine.state.enforcementStrategy }

theorem runtimeCompatibility_consistent :
    server.runtimeCompatibility.isConsistentWith server.engine.state.mode server.backend.kind =
      true := by
  unfold runtimeCompatibility
  generalize classifyApplicationInterception server.engine.state.mode
    server.engine.state.rules.values = interception
  cases server.engine.poisoned <;> cases server.engine.state.mode <;> cases server.backend <;>
    cases interception <;> rfl

/-- The budgets pass the checks of the client. -/
theorem validatedLearningPolicyStatus_eq (status : PolicyStatus)
    (hcount : status.ruleCount = server.ruleCount) (strategy : Option EnforcementStrategy) :
    validatedLearningPolicyStatus status server.learningStatus strategy =
      .ok { status with
        learning := some server.learningStatus
        enforcementStrategy := strategy } := by
  have hlimit : ∀ n, 0 < n → n ≤ MAX_RULES →
      ¬(u32Saturating n = 0 ∨ u32Saturating MAX_RULES < u32Saturating n) := by
    rintro n hpositive hle (hzero | hlt)
    · have hnat := congrArg BitVec.toNat hzero
      rw [toNat_u32Saturating (hle.trans_lt (by decide))] at hnat
      exact hpositive.ne' hnat
    · exact absurd hlt (BitVec.not_lt.mpr (u32Saturating_mono hle))
  obtain ⟨happlication, hle, huid⟩ := server.engine.learningLimits.valid
  have hauto : MAX_AUTOMATIC_LEARNED_RULES ≤ MAX_RULES := by decide
  have hsummary : ∀ keys : ℕ, keys ≤ server.engine.state.automaticCount →
      ¬u32Saturating server.engine.state.automaticCount < u32Saturating keys :=
    fun keys hkeys => BitVec.not_lt.mpr (u32Saturating_mono hkeys)
  have howners := length_owners_le server.engine.state
  refine Except.bind_unit_eq_ok_iff.mpr ⟨(ensure_eq_ok_iff _ _ _).mpr ?_, rfl⟩
  rintro (⟨limit, hmem, hbad⟩ | hcounts | huids | happlications)
  · simp only [learningStatus, List.mem_cons, List.not_mem_nil, or_false] at hmem
    rcases hmem with rfl | rfl | rfl | rfl
    · exact hlimit _ (by omega) (by omega) hbad
    · exact hlimit _ (by omega) (by omega) hbad
    · exact hlimit _ (by decide) hauto hbad
    · exact hlimit _ (by decide) le_rfl hbad
  · rw [hcount] at hcounts
    refine absurd hcounts (BitVec.not_lt.mpr (u32Saturating_mono ?_))
    exact List.countP_le_length.trans_eq (List.length_map _)
  · refine hsummary _ ((saturatedKeys_le _ _).trans ?_) huids
    rwa [List.length_map]
  · exact hsummary _ ((saturatedKeys_le _ _).trans howners) happlications

theorem respondStatus_new {response : Response} (hstatus : response.isStatus = true) :
    server.respondStatus { ObserveSession.new with requests := 1 } response =
      .answered response { ObserveSession.new with requests := 1, statusRequests := 1 } := by
  have hfits : server.codec.fits response = true :=
    decide_eq_true (server.codec.status response hstatus)
  simp only [respondStatus, write, hfits, if_true]
  rfl

theorem fetchStatus_of_readStatus {protocol : StatusProtocol} {response : Response}
    (hstatus : response.isStatus = true)
    (hrespond : server.respond .new protocol.request =
      server.respondStatus { ObserveSession.new with requests := 1 } response)
    (hread : readStatus protocol response = .ok status) :
    server.fetchStatus (some .new) protocol =
      .ok (status, some { ObserveSession.new with requests := 1, statusRequests := 1 }) := by
  refine Except.bind_eq_ok_iff.mpr ⟨(response, _), ?_, Except.bind_eq_ok_iff.mpr ⟨_, hread, rfl⟩⟩
  rw [ask, hrespond, respondStatus_new hstatus]

theorem fetchStatus_eq (hfatal : server.engine.fatal = false) {protocol : StatusProtocol}
    (hprotocol : protocol ≠ .legacy) :
    server.fetchStatus (some .new) protocol =
      .ok (server.policyStatus protocol,
        some { ObserveSession.new with requests := 1, statusRequests := 1 }) := by
  have hconsistent : validatedV2PolicyStatus server.engine.state.revision server.engine.state.mode
      server.ruleCount server.backend.kind server.runtimeCompatibility =
      .ok (server.policyStatus .v2) :=
    Except.bind_unit_eq_ok_iff.mpr
      ⟨(ensure_eq_ok_iff _ _ _).mpr server.runtimeCompatibility_consistent, rfl⟩
  have hlearning := validatedLearningPolicyStatus_eq (server.policyStatus .v2) rfl
  have hv2 : server.statusV2Response = _ := if_neg (by rw [hfatal]; decide)
  have hv3 : server.statusV3Response = _ := if_neg (by rw [hfatal]; decide)
  have hv4 : server.statusV4Response = _ := if_neg (by rw [hfatal]; decide)
  cases protocol with
  | legacy => exact absurd rfl hprotocol
  | v2 => exact fetchStatus_of_readStatus (hv2 ▸ rfl) rfl (hv2 ▸ hconsistent)
  | v3 =>
    refine fetchStatus_of_readStatus (hv3 ▸ rfl) rfl ?_
    rw [hv3]
    exact Except.bind_eq_ok_iff.mpr ⟨_, hconsistent, hlearning none⟩
  | v4 =>
    refine fetchStatus_of_readStatus (hv4 ▸ rfl) rfl ?_
    rw [hv4]
    exact Except.bind_eq_ok_iff.mpr ⟨_, hconsistent, hlearning (some _)⟩
  | probeV4 =>
    refine fetchStatus_of_readStatus (hv4 ▸ rfl) rfl ?_
    rw [hv4]
    exact Except.bind_eq_ok_iff.mpr ⟨_, hconsistent, hlearning (some _)⟩

/-! ### The policy -/

theorem classifyEnforcing_shown (redactSensitive : Bool) (interception : ApplicationInterception)
    (rules : List Rule) :
    classifyEnforcing interception (rules.map (·.shown redactSensitive)) =
      classifyEnforcing interception rules := by
  induction rules generalizing interception with
  | nil => rfl
  | cons rule rest ih =>
    obtain ⟨name, application, hspec, happlication⟩ := rule.shown_spec redactSensitive
    rw [List.map_cons, classifyEnforcing, classifyEnforcing, hspec, happlication, ih, ih]

variable (server) in
def shownSnapshot : Snapshot :=
  { revision := server.engine.state.revision
    flowGeneration := 1
    mode := server.engine.state.mode
    rules := server.shownAfter none }

theorem shownSnapshot_applicationInterception :
    server.shownSnapshot.applicationInterception =
      classifyApplicationInterception server.engine.state.mode
        server.engine.state.rules.values := by
  unfold Snapshot.applicationInterception classifyApplicationInterception shownSnapshot
  dsimp only
  rw [shownAfter_none]
  cases server.engine.state.mode with
  | blockAll => rfl
  | learning => rfl
  | enforcing => exact classifyEnforcing_shown _ _ _

theorem shownSnapshot_validateForObserver (hstate : server.engine.state.WellFormed) :
    server.shownSnapshot.validateForObserver = .ok () := by
  obtain ⟨hsize, -, hvalid, hids⟩ := (Snapshot.validate_eq_ok_iff _).mp hstate.snapshot_validate
  -- the client does not know the generation
  let snapshot : ValidSnapshot :=
    ⟨{ server.engine.state.snapshot with flowGeneration := 1 },
      (Snapshot.validate_eq_ok_iff _).mpr ⟨hsize, rfl, hvalid, hids⟩⟩
  cases hsensitive : server.redactSensitive with
  | false =>
    have hshown : server.shownSnapshot = snapshot.toSnapshot := by
      rw [shownSnapshot, shownAfter_none, hsensitive]
      simp [Rule.shown, snapshot, State.snapshot]
    rw [hshown]
    exact snapshot.unredacted_validateForObserver
  | true =>
    have hshown : server.shownSnapshot = snapshot.redactedForObserver := by
      rw [shownSnapshot, shownAfter_none, hsensitive]
      simp [Rule.shown, snapshot, State.snapshot, Snapshot.redactedForObserver]
    rw [hshown]
    exact snapshot.redacted_validateForObserver

theorem validateSnapshotRuntimeCompatibility_eq (protocol : StatusProtocol) :
    validateSnapshotRuntimeCompatibility server.shownSnapshot (server.policyStatus protocol)
      protocol = .ok () := by
  unfold validateSnapshotRuntimeCompatibility
  split_ifs with hlegacy
  · rfl
  · refine (ensure_eq_ok_iff _ _ _).mpr ?_
    rw [shownSnapshot_applicationInterception]
    rintro ⟨hdiffers, hquarantine⟩
    by_cases hemergency : (server.engine.poisoned &&
        decide (server.engine.state.mode = .blockAll)) = true
    · have hpath : (server.policyStatus protocol).runtimeCompatibility =
          ⟨.kernelNative, .emergencyBlockAll⟩ := if_pos hemergency
      obtain ⟨-, hmode⟩ := Bool.and_eq_true_iff.mp hemergency
      have hexpected : RuntimeCompatibility.forPolicy server.backend.kind server.engine.state.mode
          (classifyApplicationInterception server.engine.state.mode
            server.engine.state.rules.values) = ⟨.kernelNative, .blockAll⟩ := by
        rw [of_decide_eq_true hmode]
        cases server.backend <;> rfl
      rcases Bool.and_eq_false_iff.mp hquarantine with hother | hother
      · exact of_decide_eq_false hother hexpected
      · exact of_decide_eq_false hother hpath
    · exact hdiffers (if_neg hemergency)

theorem fetchConsistentSnapshotFromStatus_eq (hstate : server.engine.state.WellFormed)
    {pages : List ObservedPage} (hfollows : server.Follows MAX_RULES_PER_PAGE session none pages)
    (hsound : ∀ page ∈ pages, server.PageSound page)
    (hall : pages.flatMap ObservedPage.rules = server.shownAfter none) (protocol : StatusProtocol) :
    server.fetchConsistentSnapshotFromStatus (some session) (server.policyStatus protocol)
      protocol = .ok server.shownSnapshot := by
  have hlength : (server.shownAfter none).length = server.engine.state.rules.size := by
    rw [shownAfter_eq_map, OrderedMap.entriesAfter_none, List.length_map]
    rfl
  have hexpected : (server.policyStatus protocol).ruleCount.toNat =
      server.engine.state.rules.size :=
    toNat_u32Saturating (hstate.size.trans_lt (by decide))
  have hfetch : server.fetchPages (some session) (server.policyStatus protocol)
      (server.policyStatus protocol).ruleCount.toNat [] none = .ok (server.shownAfter none) := by
    rw [fetchPages_of_follows hfollows hsound rfl (by rw [hall, hlength, hexpected]; simp)
      (hexpected ▸ hstate.size), hall, List.nil_append]
  have hsnapshot : validateObserverSnapshot server.shownSnapshot = .ok () := by
    rw [validateObserverSnapshot, shownSnapshot_validateForObserver hstate]
  refine Except.bind_unit_eq_ok_iff.mpr
    ⟨(ensure_eq_ok_iff _ _ _).mpr (hexpected ▸ hstate.size), ?_⟩
  refine Except.bind_eq_ok_iff.mpr ⟨_, hfetch, ?_⟩
  refine Except.bind_unit_eq_ok_iff.mpr
    ⟨(ensure_eq_ok_iff _ _ _).mpr (hlength.trans hexpected.symm), ?_⟩
  refine Except.bind_unit_eq_ok_iff.mpr ⟨hsnapshot, ?_⟩
  exact Except.bind_unit_eq_ok_iff.mpr ⟨validateSnapshotRuntimeCompatibility_eq protocol, rfl⟩

end ObserveServer

/-- A session that asks for a status and follows the cursors is answered to its end, within the
limit on requests. Its pages are as long as a frame allows, those before rules are not empty, and
together they are all rules once, in the order of the identifiers. The client accepts the status
and the policy. -/
theorem observation_session_complete (server : ObserveServer)
    (hstate : server.engine.state.WellFormed) (hfatal : server.engine.fatal = false)
    (hone : server.OneRuleFits) (protocol : StatusProtocol) (hprotocol : protocol ≠ .legacy)
    (limit : BitVec 16) :
    ∃ session pages, server.fetchStatus (some .new) protocol =
        .ok (server.policyStatus protocol, some session) ∧
      server.Follows limit session none pages ∧
      pages.length + 1 ≤ MAX_OBSERVE_REQUESTS_PER_CONNECTION ∧
      (∀ page ∈ pages, server.engine.state.rulesAfter page.after ≠ [] → page.rules ≠ []) ∧
      pages.flatMap ObservedPage.rules =
        server.engine.state.rules.values.map (·.shown server.redactSensitive) ∧
      ((pages.flatMap ObservedPage.rules).map Rule.id).Pairwise (· < ·) ∧
      (∀ page ∈ pages,
        IsLongestBeginning server.codec (server.enginePage page.after) page.response) ∧
      server.fetchConsistentSnapshotFromStatus (some session) (server.policyStatus protocol)
        protocol = .ok server.shownSnapshot := by
  have hentries := fun entry hentry => (hstate.entries entry hentry).1
  have hawaits : ObserveServer.Awaits
      { ObserveSession.new with requests := 1, statusRequests := 1 } none :=
    .inr ⟨rfl, by decide, rfl⟩
  have hlength : (server.shownAfter none).length ≤ MAX_RULES := by
    rw [ObserveServer.shownAfter_none, List.length_map, OrderedMap.values, List.length_map]
    exact hstate.size
  have hlimit : 1 + max 1 (server.shownAfter none).length ≤
      MAX_OBSERVE_REQUESTS_PER_CONNECTION := by
    unfold MAX_OBSERVE_REQUESTS_PER_CONNECTION
    omega
  obtain ⟨pages, hfollows, hall, hcount, hsound⟩ :=
    server.exists_follows hfatal hentries hone limit hawaits hlimit
  -- the client always gives the same hint
  obtain ⟨fetched, hfetched, hfetchedAll, -, hfetchedSound⟩ :=
    server.exists_follows hfatal hentries hone MAX_RULES_PER_PAGE hawaits hlimit
  rw [ObserveServer.shownAfter_none] at hall
  refine ⟨_, pages, server.fetchStatus_eq hfatal hprotocol, hfollows, by omega,
    fun page hpage => (hsound page hpage).nonempty, hall, ?_,
    fun page hpage => (hsound page hpage).longest,
    server.fetchConsistentSnapshotFromStatus_eq hstate hfetched hfetchedSound hfetchedAll protocol⟩
  have hids : (pages.flatMap ObservedPage.rules).map Rule.id =
      server.engine.state.rules.entries.map Prod.fst := by
    rw [hall, List.map_map, OrderedMap.values, List.map_map]
    refine List.map_congr_left fun entry hentry => ?_
    rw [hentries entry hentry]
    exact Rule.shown_id _ _
  rw [hids]
  exact List.pairwise_map.mpr server.engine.state.rules.sorted

namespace Sample

def codec : FrameCodec where
  size
    | .rulesPage revision rules nextAfter =>
      pageOverhead revision + (rules.map fun _ => 38).sum + (rules.length - 1) +
        cursorSize nextAfter
    | _ => 0
  ruleSize _ := 38
  identified _ := le_rfl
  status response hstatus := by cases response <;> first | exact Nat.zero_le _ | cases hstatus
  page _ _ _ := rfl

def observeServer : ObserveServer :=
  { codec
    engine := (Runtime.Sample.runtime (twoApplications pathA pathB) fun _ => Fault.none).engine
    backend := .nftables
    nfqueue := ⟨0, 0, 0, 0⟩
    quotaSkippedObservations := 0
    redactSensitive := true }

end Sample

theorem observation_session_complete_sample :
    ∃ session pages, Sample.observeServer.fetchStatus (some .new) .v4 =
        .ok (Sample.observeServer.policyStatus .v4, some session) ∧
      Sample.observeServer.Follows MAX_RULES_PER_PAGE session none pages ∧
      Sample.observeServer.fetchConsistentSnapshotFromStatus (some session)
        (Sample.observeServer.policyStatus .v4) .v4 = .ok Sample.observeServer.shownSnapshot ∧
      Sample.observeServer.shownSnapshot.rules.length = 2 := by
  have hstate : Sample.observeServer.engine.state.WellFormed :=
    State.wellFormed_of_validate (show (Sample.twoApplications Sample.pathA Sample.pathB).validate
      Sample.json = .ok () by decide +kernel)
  obtain ⟨session, pages, hstatus, hfollows, -, -, -, -, -, hsnapshot⟩ :=
    observation_session_complete Sample.observeServer hstate rfl
      (by decide +kernel) .v4 (by decide) MAX_RULES_PER_PAGE
  exact ⟨session, pages, hstatus, hfollows, hsnapshot, by decide +kernel⟩

end OpenShield
