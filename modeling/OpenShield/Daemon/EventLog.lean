import OpenShield.Daemon.TwoPhase

/-!
# The event log

An observer that starts from a snapshot and follows the published events knows the policy: the
events of a request or of a learning transaction are numbered by the revisions they produced, and
each of them carries the rule as it is stored.
-/

namespace OpenShield

def State.Observed.ofSnapshot (snapshot : Snapshot) : State.Observed :=
  ⟨snapshot.mode,
    snapshot.rules.foldl (fun rules rule => rules.insert rule.id rule) OrderedMap.empty,
    snapshot.revision⟩

theorem State.WellFormed.ofSnapshot_eq {s : State} (h : s.WellFormed) :
    State.Observed.ofSnapshot s.snapshot = s.observed := by
  rw [State.Observed.ofSnapshot, h.rules_rebuilt]
  rfl

namespace Runtime

variable {json : Serializer} {rt rt' : Runtime}

/-- The published events carry the revisions from the old to the new one, and following them from
the old snapshot leads to the new one. -/
def Reports (rt rt' : Runtime) : Prop :=
  ∃ events, rt'.world.published = rt.world.published ++ events ∧
    events.map (fun event => event.revision.toNat) =
      List.range' (rt.engine.state.revision.toNat + 1) events.length ∧
    rt'.engine.state.revision.toNat = rt.engine.state.revision.toNat + events.length ∧
    (events.foldl State.Observed.follow (.ofSnapshot rt.engine.state.snapshot)).mode =
      rt'.engine.state.snapshot.mode ∧
    (events.foldl State.Observed.follow (.ofSnapshot rt.engine.state.snapshot)).rules.values =
      rt'.engine.state.snapshot.rules ∧
    (events.foldl State.Observed.follow (.ofSnapshot rt.engine.state.snapshot)).revision =
      rt'.engine.state.snapshot.revision

theorem reports_of_changes {events : List Event} (hwellFormed : rt.engine.state.WellFormed)
    (hpublished : rt'.world.published = rt.world.published ++ events)
    (hchanges : rt.engine.state.Changes events rt'.engine.state) : rt.Reports rt' := by
  refine ⟨events, hpublished, hchanges.revisions, hchanges.revision_toNat, ?_⟩
  rw [hwellFormed.ofSnapshot_eq, hchanges.observed_eq hwellFormed]
  exact ⟨rfl, rfl, rfl⟩

theorem Progress.reports (h : rt.Progress json rt') (hsound : rt.Sound json)
    (hhealthy : rt'.engine.poisoned = false) : rt.Reports rt' := by
  have hwellFormed := hsound.consistent.wellFormed
  cases h.move with
  | stay published state =>
    rcases state with hpoisoned | hstate
    · rw [hhealthy] at hpoisoned
      cases hpoisoned
    · have hnothing : rt'.world.published = rt.world.published ++ [] := by
        rw [published, List.append_nil]
      exact reports_of_changes hwellFormed hnothing (hstate ▸ .refl)
  | change healthy published changes learned =>
    exact reports_of_changes hwellFormed published changes

theorem handleControl_healthy {input : ControlInput} {request : ControlRequest} {ack : Ack}
    (hsound : rt.Sound json) (hrun : handleControl json rt input request = (.ok ack, rt')) :
    rt'.engine.poisoned = false := by
  rcases handleControl_cases hrun with ⟨-, error, herror⟩ |
    ⟨hhealthy, hnot, candidate, events, affected, committed, -, hcommit, hresult⟩ |
    ⟨hhealthy, token, committed, -, -, hblock, hresult⟩
  · cases herror
  · rcases hsound.phase.cases_healthy hhealthy with ⟨hbetween, -⟩ | ⟨transaction, hflight, -⟩
    · cases commit_spec hbetween.reservation hcommit with
      | committed engine kernel disk published ran worker reservation =>
        rw [engine]
        exact hhealthy
      | restored engine kernel disk published ran worker reservation => cases hresult
      | emergency entered => cases hresult
    · exact absurd hflight.persistence (hnot _)
  · rcases commitBlockAllDuringLearning_cases (hsound.phase.coherent hhealthy) hblock with
      ⟨-, error, rfl⟩ | ⟨-, -, ⟨-, pending, revision, rfl, hovertaken⟩ | ⟨⟨error, rfl⟩, -⟩⟩
    · cases hresult
    · rw [hovertaken.engine]
      exact hhealthy
    · cases hresult

theorem finalizeApplicationLearning_healthy {transaction : ApplicationLearningTransaction}
    {outcome : LearningStoreOutcome} {count : ℕ} (hhealthy : rt.engine.poisoned = false)
    (hrun : finalizeApplicationLearning json rt transaction outcome = (.ok count, rt')) :
    rt'.engine.poisoned = false := by
  rcases finalizeApplicationLearning_cases hrun with ⟨-, -, rfl⟩ | ⟨-, -, rfl, error, herror⟩ |
    ⟨-, -, ⟨-, -, -, rfl⟩ | ⟨-, -, -, rfl⟩ | ⟨⟨error, herror⟩, -⟩⟩
  · exact hhealthy
  · exact hhealthy
  · exact hhealthy
  · exact hhealthy
  · cases herror

end Runtime

open OpenShield.Runtime in
/-- The events of requests and learning transactions are a faithful log of the policy. -/
theorem events_faithful {json : Serializer} {rt : Runtime} (hreach : rt.Reachable json)
    (hhealthy : rt.engine.poisoned = false) :
    (∀ input request ack rt', handleControl json rt input request = (.ok ack, rt') →
      rt.Reports rt') ∧
    (∀ transaction outcome count rt', rt.world.worker = .persisted transaction outcome →
      finalizeApplicationLearning json rt transaction outcome = (.ok count, rt') →
      rt.Reports rt') := by
  have hsound := hreach.sound
  refine ⟨fun input request ack rt' hrun => ?_, fun transaction outcome count rt' hworker hrun => ?_⟩
  · exact (handleControl_advances hsound hrun).2.reports hsound (handleControl_healthy hsound hrun)
  · have hadvances := finalize_advances hsound hworker
    rw [hrun] at hadvances
    -- releasing the worker is no part of the log
    have hafter := finalizeApplicationLearning_healthy hhealthy hrun
    exact hadvances.2.reports hsound hafter

/-- The `blockAll` of the sample reports the rules it found prepared. -/
theorem events_faithful_sample :
    Sample.prepared.Reports Sample.blocked.2 ∧ Sample.blocked.2.world.published.length = 3 := by
  obtain ⟨hcontrol, -⟩ := events_faithful Sample.prepared_reachable (by decide +kernel)
  have hok : Sample.blocked.1 = .ok ⟨4, none⟩ := by decide +kernel
  exact ⟨hcontrol _ _ _ Sample.blocked.2 (Prod.ext hok rfl), by decide +kernel⟩

end OpenShield
