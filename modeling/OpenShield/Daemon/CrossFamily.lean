import OpenShield.Daemon.IptablesBackend

/-!
# Installations across both families

No transaction spans IPv4 and IPv6. An installation passes through moments at which one family
runs its new program and the other one does not yet, and it may stop at any of them. The
specification of each call says what the families run when the call ends, whether it returns or
fails; a predicate on everything they ran in between is carried along.

Two kinds of calls suffice: those that leave the programs alone, and those that install one
program in one family. Both kinds are closed under the ways in which the backend puts calls
together.
-/

namespace OpenShield

/-! ### What invocations leave behind -/

/-- The families run `contents`, and everything they ran was safe. -/
def XtablesHost.At (safe : Contents → Prop) (contents : Contents) (host : XtablesHost) : Prop :=
  host.contents = contents ∧ ∀ moment ∈ host.history, safe moment

namespace IptablesBackend

open Command

def Passive {α : Type} (call : Call α) : Prop :=
  ∀ (safe : Contents → Prop) (c : Contents), safe c →
    Triple (XtablesHost.At safe c) call (fun _ => XtablesHost.At safe c)
      (fun _ => XtablesHost.At safe c)

def Installs (family : Family) (program : Program) (call : Call Unit) : Prop :=
  ∀ (safe : Contents → Prop) (c : Contents), safe c → safe (Function.update c family program) →
    Triple (XtablesHost.At safe c) call
      (fun _ => XtablesHost.At safe (Function.update c family program))
      (fun _ host => XtablesHost.At safe c host ∨
        XtablesHost.At safe (Function.update c family program) host)

variable {α β : Type}

theorem invoke_spec (invocation : Invocation) (effect : Reply → Contents → Contents)
    (safe : Contents → Prop) (c : Contents) (hsafe : ∀ reply, safe (effect reply c)) :
    Triple (XtablesHost.At safe c) (invoke invocation effect)
      (fun reply => XtablesHost.At safe (effect reply c)) (fun _ _ => False) := by
  rintro host ⟨rfl, hhistory⟩
  refine ⟨rfl, ?_⟩
  intro moment hmem
  rcases List.mem_cons.mp hmem with rfl | hold
  · exact hsafe _
  · exact hhistory moment hold

namespace Passive

theorem pure (a : α) : Passive (Pure.pure a : Call α) := by
  intro safe c _
  exact Triple.pure fun _ h => h

theorem throw (e : Failure) : Passive (MonadExcept.throw e : Call α) := by
  intro safe c _
  exact Triple.throw fun _ h => h

theorem bind {call : Call α} {next : α → Call β} (hcall : Passive call)
    (hnext : ∀ a, Passive (next a)) : Passive (call >>= next) := by
  intro safe c hc
  exact Triple.bind (hcall safe c hc) fun a => hnext a safe c hc

theorem ofExcept (f : String → Failure) (x : Except String α) :
    Passive (Command.ofExcept f x : Call α) := by
  intro safe c _
  exact Triple.ofExcept (fun _ _ _ h => h) fun _ _ h => h

theorem ite {p : Prop} [Decidable p] {yes no : Call α} (hyes : Passive yes) (hno : Passive no) :
    Passive (if p then yes else no) := by
  split
  · exact hyes
  · exact hno

theorem forM {items : List β} {body : β → Call PUnit} (h : ∀ item, Passive (body item)) :
    Passive (items.forM body) := by
  intro safe c hc
  exact Triple.forM fun item _ => h item safe c hc

theorem withContext {call : Call α} (text : String) (h : Passive call) :
    Passive (withContext text call) := by
  intro safe c hc
  refine Triple.bind ((h safe c hc).attempt.mono (fun _ h => h)
    (fun _ _ h => h) fun _ _ h => h.elim) ?_
  rintro (e | a)
  · exact Triple.throw fun _ h => h
  · exact Triple.pure fun _ h => h

end Passive

theorem inspect_passive (invocation : Invocation) (failure : String) :
    Passive (inspect invocation failure) := by
  intro safe c hc
  refine Triple.bind ((invoke_spec invocation _ safe c fun _ => hc).mono (fun _ h => h)
    (fun _ _ h => h) fun _ _ h => h.elim) fun reply => ?_
  exact Passive.ite (.pure reply) (.throw _) safe c hc

variable (policy c : Contents) (family : Family) (table : XTable) (c' : Contents)

theorem restoreText_passive (text : List Line) (testOnly : Bool) :
    Passive (restoreText family text testOnly id) := by
  refine .ite (.throw _) ?_
  intro safe c hc
  refine Triple.bind ((invoke_spec _ _ safe c fun reply => ?_).mono (fun _ h => h)
    (fun reply _ h => ?_) fun _ _ h => h.elim) fun reply =>
      Passive.ite (.pure ()) (.throw _) safe c hc
  · simpa using hc
  · simpa using h

theorem captureTable_passive : Passive (captureTable family table) :=
  .bind (inspect_passive _ _) fun _ => .ofExcept _ _

theorem check_passive (p : Prop) [Decidable p] (text : String) : Passive (check p text) :=
  .ite (.pure ()) (.throw _)

theorem ensureOwnedChains_passive : Passive (ensureOwnedChains family table) := by
  refine .bind (captureTable_passive family table) fun snapshot => ?_
  refine .bind (.forM fun chain => .ite (.ofExcept _ _) (.pure ())) fun _ => ?_
  refine .bind ?_ fun _ => ?_
  · exact .ite (.pure ()) (.withContext _ (restoreText_passive family _ false))
  · refine .bind (captureTable_passive family table) fun installed => ?_
    refine .bind (.forM fun chain => ?_) fun _ => .pure installed
    exact .bind (check_passive _ _) fun _ => .ofExcept _ _

theorem captureVerifiedPolicy_passive : Passive (captureVerifiedPolicy family) := by
  refine .bind (captureTable_passive family .filter) fun filter => ?_
  refine .bind (captureTable_passive family .mangle) fun mangle => ?_
  refine .bind (.ofExcept _ _) fun _ => .bind (.ofExcept _ _) fun _ => ?_
  exact .bind (.ofExcept _ _) fun _ => .pure _

theorem ensureFirst_passive (snapshot : XtablesSnapshot) (pair : BuiltinChain × OwnedChain) :
    Passive (ensureFirst family table snapshot pair) :=
  .ite (.bind (inspect_passive _ _) fun _ => .pure ()) (.pure ())

theorem ensureLast_passive (snapshot : XtablesSnapshot) (pair : BuiltinChain × OwnedChain) :
    Passive (ensureLast family table snapshot pair) := by
  refine .bind (check_passive _ _) fun _ => .ite ?_ (.pure ())
  refine .bind (.bind (inspect_passive _ _) fun _ => .pure ()) fun _ => ?_
  exact .forM fun _ => .bind (inspect_passive _ _) fun _ => .pure ()

theorem ensureNoNftArtifacts_passive : Passive ensureNoNftArtifacts :=
  .bind (inspect_passive _ _) fun _ => check_passive _ _

theorem ensureNoAlternateXtablesArtifacts_passive :
    Passive ensureNoAlternateXtablesArtifacts := by
  have hreport (family : Family) :
      Passive (invoke (.alternateArtifacts family) fun _ contents => contents) := by
    intro safe c hc
    exact (invoke_spec _ _ safe c fun _ => hc).mono (fun _ h => h) (fun _ _ h => h)
      fun _ _ h => h.elim
  exact .bind (hreport .ipv4) fun _ => .bind (hreport .ipv6) fun _ => .ite (.pure ()) (.throw _)

theorem validatePair_passive : Passive (validatePair policy) :=
  .bind (.withContext _ (restoreText_passive _ _ true)) fun _ =>
    .withContext _ (restoreText_passive _ _ true)

/-! ### Installation of a family -/

theorem restore_installs (program : Program) :
    Installs family program (restore family program) := by
  intro safe c hc hnew
  refine Triple.ite (fun _ => Triple.throw fun _ h => .inl h) fun _ => ?_
  refine Triple.bind ((invoke_spec _ _ safe c fun reply => ?_).mono (fun _ h => h)
    (fun _ _ h => h) fun _ _ h => h.elim) fun reply => ?_
  · dsimp only
    split
    · exact hnew
    · exact hc
  -- the exit status decides the result, and a failure may have had an effect
  · cases hok : reply.succeeded with
    | true => exact Triple.pure fun _ h => by simpa [hok] using h
    | false =>
      refine Triple.throw fun _ h => ?_
      cases heffect : reply.tookEffect with
      | true => exact .inr (by simpa [hok, heffect] using h)
      | false => exact .inl (by simpa [hok, heffect] using h)

namespace Installs

variable {family : Family} {program : Program}

theorem after {first : Call α} {call : Call Unit} (hfirst : Passive first)
    (hcall : Installs family program call) :
    Installs family program (first >>= fun _ => call) := by
  intro safe c hc hnew
  exact Triple.bind ((hfirst safe c hc).mono (fun _ h => h) (fun _ _ h => h)
    fun _ _ h => .inl h) fun _ => hcall safe c hc hnew

theorem before {call next : Call Unit} (hcall : Installs family program call)
    (hnext : Passive next) : Installs family program (call >>= fun _ => next) := by
  intro safe c hc hnew
  exact Triple.bind (hcall safe c hc hnew) fun _ =>
    (hnext safe _ hnew).mono (fun _ h => h) (fun _ _ h => h) fun _ _ h => .inr h

theorem withContext {call : Call Unit} (text : String) (h : Installs family program call) :
    Installs family program (withContext text call) := by
  intro safe c hc hnew
  refine Triple.bind ((h safe c hc hnew).attempt.mono (fun _ h => h)
    (fun _ _ h => h) fun _ _ h => h.elim) ?_
  rintro (e | a)
  · exact Triple.throw fun _ h => h
  · exact Triple.pure fun _ h => h

end Installs

theorem installOwnedPolicy_installs (program : Program) :
    Installs family program (installOwnedPolicy family program) :=
  .after (ensureOwnedChains_passive family .mangle)
    (.after (ensureOwnedChains_passive family .filter) (restore_installs family program))

theorem ensureTopology_installs (blockProgram : Program) :
    Installs family blockProgram (ensureTopology family blockProgram) := by
  refine .after (ensureOwnedChains_passive family .mangle)
    (.after (ensureOwnedChains_passive family .filter)
      (.before (restore_installs family blockProgram) ?_))
  refine .bind (captureTable_passive family .filter) fun filter => ?_
  refine .bind (.forM (ensureFirst_passive family .filter filter)) fun _ => ?_
  refine .bind (captureTable_passive family .mangle) fun mangle => ?_
  refine .bind (.forM (ensureFirst_passive family .mangle mangle)) fun _ => ?_
  refine .bind (.forM (ensureLast_passive family .mangle mangle)) fun _ => ?_
  exact .bind (captureVerifiedPolicy_passive family) fun _ => .pure ()

/-! ### Installation of both families -/

/-- Each family runs its program of `c` or its program of `c'`. -/
def Mixes (c c' moment : Contents) : Prop :=
  ∀ family, moment family = c family ∨ moment family = c' family

theorem Mixes.left : Mixes c c' c := fun _ => .inl rfl

theorem Mixes.right : Mixes c c' c' := fun _ => .inr rfl

theorem Mixes.update {c c' moment : Contents} (h : Mixes c c' moment) (family : Family) :
    Mixes c c' (Function.update moment family (c' family)) :=
  (Function.forall_update_iff moment fun other value => value = c other ∨ value = c' other).mpr
    ⟨.inr rfl, fun other _ => h other⟩

theorem update_both :
    Function.update (Function.update c .ipv4 (c' .ipv4)) .ipv6 (c' .ipv6) = c' := by
  funext family
  cases family <;> rfl

theorem Installs.attempt_spec {family : Family} {program : Program} {call : Call Unit}
    (h : Installs family program call) (safe : Contents → Prop) (c : Contents) (hc : safe c)
    (hnew : safe (Function.update c family program)) :
    Triple (XtablesHost.At safe c) call.attempt
      (fun r host => ∃ c', XtablesHost.At safe c' host ∧
        (c' = Function.update c family program ∨ (c' = c ∧ (failureOf r).isSome = true)))
      (fun _ _ => False) := by
  refine (h safe c hc hnew).attempt.mono (fun _ h => h) ?_ fun _ _ h => h
  rintro (e | a) host hpost
  · rcases hpost with hold | hinstalled
    · exact ⟨c, hold, .inr ⟨rfl, rfl⟩⟩
    · exact ⟨_, hinstalled, .inl rfl⟩
  · exact ⟨_, hpost, .inl rfl⟩

theorem bothFamilies_spec (action : String) (pre : XtablesHost → Prop)
    (ipv4 ipv6 : Except Failure Unit) :
    Triple pre
      (match ipv4, ipv6 with
        | .ok (), .ok () => (Pure.pure () : Call Unit)
        | ipv4, ipv6 => throw (.outcome action (failureOf ipv4) (failureOf ipv6)))
      (fun _ host => pre host ∧ failureOf ipv4 = none ∧ failureOf ipv6 = none)
      (fun e host => pre host ∧ e = .outcome action (failureOf ipv4) (failureOf ipv6)) := by
  rcases ipv4 with e4 | ⟨⟩ <;> rcases ipv6 with e6 | ⟨⟩
  · exact Triple.throw fun _ h => ⟨h, rfl⟩
  · exact Triple.throw fun _ h => ⟨h, rfl⟩
  · exact Triple.throw fun _ h => ⟨h, rfl⟩
  · exact Triple.pure fun _ h => ⟨h, rfl, rfl⟩

/-- An installation in both families reaches both, and leaves a family alone only if it reports
a failure for it. -/
theorem attemptBothFamilies_spec (action : String) {command : Family → Call Unit}
    {programs : Contents} (h : ∀ family, Installs family (programs family) (command family))
    (safe : Contents → Prop) (c : Contents) (hsafe : ∀ moment, Mixes c programs moment →
      safe moment) :
    Triple (XtablesHost.At safe c) (attemptBothFamilies action command)
      (fun _ => XtablesHost.At safe programs)
      (fun e host => ∃ c', XtablesHost.At safe c' host ∧
        ∀ family, c' family = programs family ∨
          (c' family = c family ∧ e.failedFor family = true)) := by
  have hstart := Mixes.left c programs
  refine Triple.bind (((h .ipv4).attempt_spec safe c (hsafe c hstart)
    (hsafe _ (hstart.update .ipv4))).mono (fun _ h => h) (fun _ _ h => h)
      fun _ _ h => h.elim) fun ipv4 => ?_
  rintro host ⟨c4, hat, hfirst⟩
  have hmixed : Mixes c programs c4 := by
    rcases hfirst with rfl | ⟨rfl, _⟩
    · exact hstart.update .ipv4
    · exact hstart
  refine Triple.bind (((h .ipv6).attempt_spec safe c4 (hsafe c4 hmixed)
    (hsafe _ (hmixed.update .ipv6))).mono (fun _ h => h) (fun _ _ h => h)
      fun _ _ h => h.elim) (fun ipv6 => ?_) host hat
  refine (bothFamilies_spec action _ ipv4 ipv6).mono (fun _ h => h) ?_ ?_
  -- both succeeded: no family was left alone
  · rintro ⟨⟩ host' ⟨⟨c6, hat', hsecond⟩, hnone4, hnone6⟩
    rcases hsecond with rfl | ⟨rfl, hfailed⟩
    · rcases hfirst with rfl | ⟨rfl, hfailed⟩
      · rwa [update_both] at hat'
      · simp [hnone4] at hfailed
    · simp [hnone6] at hfailed
  · rintro e host' ⟨⟨c6, hat', hsecond⟩, rfl⟩
    refine ⟨c6, hat', fun family => ?_⟩
    cases family with
    | ipv4 =>
      have hkept : c6 .ipv4 = c4 .ipv4 := by
        rcases hsecond with rfl | ⟨rfl, _⟩ <;> rfl
      rcases hfirst with rfl | ⟨rfl, hfailed⟩
      · exact .inl hkept
      · exact .inr ⟨hkept, hfailed⟩
    | ipv6 =>
      rcases hsecond with rfl | ⟨rfl, hfailed⟩
      · exact .inl rfl
      · refine .inr ⟨?_, hfailed⟩
        rcases hfirst with rfl | ⟨rfl, _⟩ <;> rfl

variable (safe : Contents → Prop)

theorem applyPair_spec (c : Contents)
    (hsafe : ∀ moment, Mixes c policy moment → safe moment) :
    Triple (XtablesHost.At safe c) (applyPair policy) (fun _ => XtablesHost.At safe policy)
      (fun _ host => ∃ c', XtablesHost.At safe c' host ∧ Mixes c policy c') := by
  have hstart := Mixes.left c policy
  have hfirst := hstart.update .ipv4
  have hboth := hfirst.update .ipv6
  refine Triple.bind (((installOwnedPolicy_installs .ipv4 (policy .ipv4)).withContext _ safe c
    (hsafe c hstart) (hsafe _ hfirst)).mono (fun _ h => h) (fun _ _ h => h) ?_) fun _ => ?_
  · rintro _ _ (hold | hnew)
    · exact ⟨c, hold, hstart⟩
    · exact ⟨_, hnew, hfirst⟩
  · refine ((installOwnedPolicy_installs .ipv6 (policy .ipv6)).withContext _ safe _
      (hsafe _ hfirst) (hsafe _ hboth)).mono (fun _ h => h) ?_ ?_
    · intro _ host h
      rwa [update_both] at h
    · rintro _ _ (hold | hnew)
      · exact ⟨_, hold, hfirst⟩
      · exact ⟨_, hnew, hboth⟩

def Recorded (policy : Contents) (host : XtablesHost) : Prop :=
  ∀ family, ∃ rules, compiledOwnedRules (policy family).text = .ok rules ∧
    host.expected family = some rules

theorem recordExpected_spec (c : Contents) (hc : safe c) :
    Triple (XtablesHost.At safe c) (recordExpected policy)
      (fun _ host => XtablesHost.At safe c host ∧ Recorded policy host)
      (fun _ => XtablesHost.At safe c) := by
  have hcompiled (family : Family) : Triple (XtablesHost.At safe c)
      (Command.ofExcept Failure.message (compiledOwnedRules (policy family).text))
      (fun rules host => XtablesHost.At safe c host ∧
        compiledOwnedRules (policy family).text = .ok rules)
      (fun _ => XtablesHost.At safe c) :=
    Triple.ofExcept (fun _ _ hrules h => ⟨h, hrules⟩) fun _ _ h => h
  have hcompare (family : Family) (expected installed : List Line) :
      Passive (compareRules family expected installed) := .ite (.pure ()) (.throw _)
  refine Triple.bind (hcompiled .ipv4) fun rules4 => Triple.assuming fun h4 => ?_
  refine Triple.bind (hcompiled .ipv6) fun rules6 => Triple.assuming fun h6 => ?_
  refine Triple.bind (captureVerifiedPolicy_passive .ipv4 safe c hc) fun ipv4 => ?_
  refine Triple.bind (captureVerifiedPolicy_passive .ipv6 safe c hc) fun ipv6 => ?_
  refine Triple.bind (hcompare .ipv4 rules4 ipv4.1 safe c hc) fun _ => ?_
  refine Triple.bind (hcompare .ipv6 rules6 ipv6.1 safe c hc) fun _ => ?_
  refine Triple.bind (inspect_passive _ _ safe c hc) fun _ => ?_
  intro host hat
  refine ⟨hat, fun family => ?_⟩
  cases family with
  | ipv4 => exact ⟨rules4, h4, rfl⟩
  | ipv6 => exact ⟨rules6, h6, rfl⟩

/-- Blocking everything reaches both families, and leaves a family alone only if it reports a
failure for it. -/
theorem emergencyBlockAll_spec (block : Contents) (safe : Contents → Prop) (c : Contents)
    (hsafe : ∀ moment, Mixes c block moment → safe moment) :
    Triple (XtablesHost.At safe c) (emergencyBlockAll block)
      (fun _ => XtablesHost.At safe block)
      (fun e host => ∃ c', XtablesHost.At safe c' host ∧
        ∀ family, c' family = block family ∨
          (c' family = c family ∧ e.failedFor family = true)) := by
  refine Triple.bind (attemptBothFamilies_spec _
    (fun family => installOwnedPolicy_installs family (block family)) safe c hsafe) fun _ => ?_
  exact (recordExpected_spec block safe block (hsafe block (.right c block))).mono
    (fun _ h => h) (fun _ _ h => h.1) fun _ host h => ⟨block, h, fun _ => .inl rfl⟩

theorem blockAndReport_spec (block : Contents) (what restored : String) (cause : Failure)
    (safe : Contents → Prop) (c : Contents)
    (hsafe : ∀ moment, Mixes c block moment → safe moment) :
    Triple (XtablesHost.At safe c) (blockAndReport block what restored cause) (fun _ _ => False)
      (fun e host => ∃ c', XtablesHost.At safe c' host ∧
        ∀ family, c' family = block family ∨
          (c' family = c family ∧ e.emergencyFailedFor family = true)) := by
  refine Triple.bind ((emergencyBlockAll_spec block safe c hsafe).attempt.mono (fun _ h => h)
    (fun _ _ h => h) fun _ _ h => h.elim) ?_
  rintro (emergency | ⟨⟩)
  · exact Triple.throw fun _ h => h
  · exact Triple.throw fun host h => ⟨block, h, fun _ => .inl rfl⟩

/-! ### Runs of an installation -/

/-- Where the programs of an installation come from. -/
structure Tagged (start block policy : Contents) : Prop where
  start : ∀ family, (start family).source = .starting
  block : ∀ family, (block family).source = .blockAll
  policy : ∀ family, (policy family).source = .candidate

/-- A moment at which no family is open while the other one has not been closed yet. -/
structure Quarantined (start block policy moment : Contents) : Prop where
  known : ∀ family, moment family = start family ∨ moment family = block family ∨
    moment family = policy family
  apart : ∀ family other, (moment family).source = .candidate →
    (moment other).source ≠ .starting

/-- The families ran safe programs only, and one is open only if the error says that it could
not be blocked. -/
def Reported (e : Failure) (host : XtablesHost) : Prop :=
  ∃ c, XtablesHost.At safe c host ∧
    ∀ family, (c family).source = .candidate → e.emergencyFailedFor family = true

/-- Where a call left a family alone only if it said so, the family runs one of two
programs. -/
theorem Mixes.of_reported {c block c' : Contents} {failed : Family → Bool}
    (h : ∀ family, c' family = block family ∨ (c' family = c family ∧ failed family = true)) :
    Mixes c block c' :=
  fun family => (h family).elim .inr fun hkept => .inl hkept.1

theorem Mixes.remix {c c' c'' part moment : Contents} (h : Mixes c c' c'')
    (hpart : Mixes c c' part) (hmoment : Mixes c'' part moment) : Mixes c c' moment := by
  intro family
  rcases hmoment family with heq | heq
  · rw [heq]
    exact h family
  · rw [heq]
    exact hpart family

section Phases

variable {start block policy : Contents}

theorem Quarantined.closing (tags : Tagged start block policy) {moment : Contents}
    (h : Mixes start block moment) : Quarantined start block policy moment where
  known family := (h family).imp_right .inl
  apart family other hcandidate := by
    rcases h family with heq | heq <;> simp [heq, tags.start, tags.block] at hcandidate

theorem Quarantined.opening (tags : Tagged start block policy) {moment : Contents}
    (h : Mixes block policy moment) : Quarantined start block policy moment where
  known family := .inr (h family)
  apart family other _ hstarting := by
    rcases h other with heq | heq <;> simp [heq, tags.block, tags.policy] at hstarting

theorem reported_of_closing (tags : Tagged start block policy) {safe : Contents → Prop}
    {c : Contents} (hmix : Mixes start block c) (e : Failure) {host : XtablesHost}
    (hat : XtablesHost.At safe c host) : Reported safe e host := by
  refine ⟨c, hat, fun family hcandidate => ?_⟩
  rcases hmix family with heq | heq <;> simp [heq, tags.start, tags.block] at hcandidate

theorem blockAndReport_closing (tags : Tagged start block policy) (what restored : String)
    (cause : Failure) {c : Contents} (hmix : Mixes start block c) {ok : Unit → XtablesHost → Prop} :
    Triple (XtablesHost.At (Quarantined start block policy) c)
      (blockAndReport block what restored cause) ok
      (Reported (Quarantined start block policy)) := by
  refine (blockAndReport_spec block what restored cause _ c fun moment hmoment =>
    .closing tags (hmix.remix (Mixes.right _ _) hmoment)).mono (fun _ h => h) (fun _ _ h => h.elim) ?_
  rintro e host ⟨c', hat, hreported⟩
  exact reported_of_closing tags (hmix.remix (Mixes.right _ _) (.of_reported hreported)) e hat

theorem blockAndReport_opening (tags : Tagged start block policy) (what restored : String)
    (cause : Failure) {c : Contents} (hmix : Mixes block policy c)
    {ok : Unit → XtablesHost → Prop} :
    Triple (XtablesHost.At (Quarantined start block policy) c)
      (blockAndReport block what restored cause) ok
      (Reported (Quarantined start block policy)) := by
  refine (blockAndReport_spec block what restored cause _ c fun moment hmoment =>
    .opening tags (hmix.remix (Mixes.left _ _) hmoment)).mono (fun _ h => h) (fun _ _ h => h.elim) ?_
  rintro e host ⟨c', hat, hreported⟩
  refine ⟨c', hat, fun family hcandidate => ?_⟩
  rcases hreported family with heq | ⟨_, hfailed⟩
  · simp [heq, tags.block] at hcandidate
  · exact hfailed

theorem Passive.closing (tags : Tagged start block policy) {call : Call α} (h : Passive call)
    {c : Contents} (hmix : Mixes start block c) :
    Triple (XtablesHost.At (Quarantined start block policy) c) call
      (fun _ => XtablesHost.At (Quarantined start block policy) c)
      (Reported (Quarantined start block policy)) :=
  (h _ c (.closing tags hmix)).mono (fun _ h => h) (fun _ _ h => h)
    fun e _ hat => reported_of_closing tags hmix e hat

theorem quarantine_spec (tags : Tagged start block policy) (text : String) :
    Triple (XtablesHost.At (Quarantined start block policy) block)
      (IptablesBackend.withContext text (emergencyBlockAll block))
      (fun _ => XtablesHost.At (Quarantined start block policy) block)
      (Reported (Quarantined start block policy)) := by
  have hsafe : ∀ moment, Mixes block block moment → Quarantined start block policy moment :=
    fun moment h => .closing tags fun family => (h family).elim .inr .inr
  refine Triple.bind ((emergencyBlockAll_spec block _ block hsafe).attempt.mono (fun _ h => h)
    (fun _ _ h => h) fun _ _ h => h.elim) ?_
  rintro (emergency | ⟨⟩)
  · refine Triple.throw ?_
    rintro host ⟨c, hat, hreported⟩
    exact reported_of_closing tags (fun family => .inr ((hreported family).elim id And.left)) _ hat
  · exact Triple.pure fun _ h => h

theorem checkedApply_spec (tags : Tagged start block policy) :
    Triple (XtablesHost.At (Quarantined start block policy) start) (checkedApply policy block)
      (fun _ host => XtablesHost.At (Quarantined start block policy) policy host ∧
        Recorded policy host)
      (Reported (Quarantined start block policy)) := by
  refine Triple.bind (ensureNoNftArtifacts_passive.closing tags (Mixes.left _ _)) fun _ => ?_
  refine Triple.bind (ensureNoAlternateXtablesArtifacts_passive.closing tags (Mixes.left _ _))
    fun _ => ?_
  refine Triple.bind ((attemptBothFamilies_spec _ (fun family =>
    (ensureTopology_installs family (block family)).withContext _) _ start
      fun _ => .closing tags).attempt.mono (fun _ h => h) (fun _ _ h => h) fun _ _ h => h.elim) ?_
  rintro (cause | ⟨⟩)
  · rintro host ⟨c, hat, hreported⟩
    exact blockAndReport_closing tags _ _ cause (.of_reported hreported) host hat
  refine Triple.bind ((validatePair_passive policy).closing tags (Mixes.right _ _)) fun _ => ?_
  refine Triple.bind (quarantine_spec tags _) fun _ => ?_
  -- from here on both families are closed, and the first one is opened
  refine Triple.bind ((applyPair_spec policy _ block fun _ => .opening tags).attempt.mono
    (fun _ h => h) (fun _ _ h => h) fun _ _ h => h.elim) ?_
  rintro (cause | ⟨⟩)
  · rintro host ⟨c, hat, hmix⟩
    exact blockAndReport_opening tags _ _ cause hmix host hat
  refine Triple.bind ((recordExpected_spec policy _ policy
    (.opening tags (Mixes.right _ _))).attempt.mono (fun _ h => h) (fun _ _ h => h)
      fun _ _ h => h.elim) ?_
  rintro (cause | ⟨⟩)
  · exact blockAndReport_opening tags _ _ cause (Mixes.right _ _)
  · exact Triple.pure fun _ h => h

end Phases

def programsFrom (source : Source) (texts : Family → List Line) : Contents :=
  fun family => ⟨source, texts family⟩

def hostBefore (start : Family → List Line) (expected : Family → Option (List Line))
    (replies : ℕ → Invocation → Reply) : XtablesHost :=
  { contents := programsFrom .starting start
    expected
    history := [programsFrom .starting start]
    replies
    tick := 0 }

def applyRun (start policy block : Family → List Line) (expected : Family → Option (List Line))
    (replies : ℕ → Invocation → Reply) : Except Failure Unit × XtablesHost :=
  (checkedApply (programsFrom .candidate policy) (programsFrom .blockAll block)).exec
    (hostBefore start expected replies)

theorem tagged_programsFrom (start block policy : Family → List Line) :
    Tagged (programsFrom .starting start) (programsFrom .blockAll block)
      (programsFrom .candidate policy) :=
  ⟨fun _ => rfl, fun _ => rfl, fun _ => rfl⟩

/-- No installation authorises transiently. At every moment each family runs the program it had,
the blocking one or the new one, and neither runs the new one while the other still runs what it
had. An installation that returns leaves the new programs behind and remembers their rules. One
that fails leaves a new program behind only in a family that could not be blocked either. -/
theorem apply_never_opens_halfway (start policy block : Family → List Line)
    (expected : Family → Option (List Line)) (replies : ℕ → Invocation → Reply) :
    (∀ moment ∈ (applyRun start policy block expected replies).2.history,
      Quarantined (programsFrom .starting start) (programsFrom .blockAll block)
        (programsFrom .candidate policy) moment) ∧
    ((applyRun start policy block expected replies).1 = .ok () →
      (applyRun start policy block expected replies).2.contents =
          programsFrom .candidate policy ∧
        Recorded (programsFrom .candidate policy)
          (applyRun start policy block expected replies).2) ∧
    ∀ e, (applyRun start policy block expected replies).1 = .error e → ∀ family,
      ((applyRun start policy block expected replies).2.contents family).source = .candidate →
        e.emergencyFailedFor family = true := by
  have tags := tagged_programsFrom start block policy
  have hbefore : XtablesHost.At (Quarantined (programsFrom .starting start)
      (programsFrom .blockAll block) (programsFrom .candidate policy))
      (programsFrom .starting start) (hostBefore start expected replies) := by
    refine ⟨rfl, ?_⟩
    intro moment hmem
    rw [List.mem_singleton.mp hmem]
    exact .closing tags (Mixes.left _ _)
  rcases hrun : applyRun start policy block expected replies with ⟨result, host⟩
  cases result with
  | ok u =>
    obtain ⟨⟨hcontents, hhistory⟩, hrecorded⟩ := (checkedApply_spec tags).of_ok hbefore hrun
    exact ⟨hhistory, fun _ => ⟨hcontents, hrecorded⟩, fun e h => by cases h⟩
  | error e =>
    obtain ⟨c, ⟨rfl, hhistory⟩, hreported⟩ := (checkedApply_spec tags).of_error hbefore hrun
    refine ⟨hhistory, fun h => (by cases h), ?_⟩
    rintro e' ⟨⟩
    exact hreported

end IptablesBackend

end OpenShield
