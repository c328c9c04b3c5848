import RestartCheck.Proofs.Watcher.Conduct

/-!
# The watcher scenario when the service is out of reach

The first half ends with the service reported out of reach, and so does the second half up to the
end of its checks.  Then the watcher is stopped again.  When the checks have failed already,
whatever the stop meets is only logged, be it that the service is out of reach.

**Results.**
* `surfaces_checkRunning`, `surfaces_stop`: the checks, and the stop behind them.
* `surfaces_or_hides_of_runs_checkAndStop`: the one place where an outage can be hidden.
* `surfaces_or_hides_of_runs_verify`: the second half as a whole.
-/

namespace RestartCheck
namespace Watcher

open RestartCheck.Action Trace

section Parts

variable (settings : WatcherSettings) (ctx : ScenarioContext)

theorem surfaces_checkRunning
    (service : Json.Members) :
    Surfaces (checkRunning settings ctx service) :=
  Conforms.surfaces (conforms_checkRunning (fun _ _ => trivial) (fun _ _ _ => trivial)
    (fun _ _ => trivial) nofun)

theorem surfaces_stop
    (service : Json.Members) :
    Surfaces (stop settings ctx service) :=
  Conforms.surfaces (conforms_stop (fun _ _ => trivial) (fun _ _ _ => trivial)
    (fun _ _ => trivial) nofun)

end Parts

section Hiding

variable {settings : WatcherSettings} {ctx : ScenarioContext} {service : Json.Members}
  {before after : Session} {events : List Event} {result : Except Failure Unit}

/-- The checks have failed with the service in reach, which is what is reported; then the stop has
found it out of reach, which is only logged. -/
def HidesOutage
    (settings : WatcherSettings)
    (ctx : ScenarioContext)
    (events : List Event)
    (result : Except Failure Unit) : Prop :=
  ∃ service front checking stopping told first middle last failure cause,
    ctx.serving Capability.watcherService = .ok service ∧
    events = front ++ (checking ++ (stopping ++ [told])) ∧
    (checkRunning settings ctx service).Runs first checking (.error failure) middle ∧
    (stop settings ctx service).Runs middle stopping (.error (.unreachable cause)) last ∧
    told = noted last .error "watcher_stop_failed" [("exc_info", .json (.bool true))] ∧
    ¬IsOutage (some failure) ∧
    result = .error failure

theorem HidesOutage.of_suffix
    {back : List Event}
    (hhides : HidesOutage settings ctx back result)
    (front : List Event) :
    HidesOutage settings ctx (front ++ back) result := by
  obtain ⟨service, before, checking, stopping, told, first, middle, last, failure, cause, hservice,
    rfl, hrest⟩ := hhides
  exact ⟨service, front ++ before, checking, stopping, told, first, middle, last, failure, cause,
    hservice, (List.append_assoc _ _ _).symm, hrest⟩

/-- A stop that follows on failed checks. -/
theorem runs_stopAfterFailure_iff
    {failure : Failure} :
    Action.Runs (do
        match ← attempt (stop settings ctx service) with
        | .ok () => pure ()
        | .error _ => note .error "watcher_stop_failed" [("exc_info", .json (.bool true))]
        fail failure) before events result after ↔
      ∃ stopping stopped,
        (stop settings ctx service).Runs before stopping stopped after ∧
        events = stopping ++ (match stopped with
          | .ok () => []
          | .error _ =>
              [noted after .error "watcher_stop_failed" [("exc_info", .json (.bool true))]]) ∧
        result = .error failure := by
  rw [runs_attempt_bind_iff]
  constructor
  · rintro ⟨stopped, middle, stopping, rest, rfl, hstopped, hend⟩
    cases stopped with
    | ok value =>
        obtain ⟨rfl, rfl, rfl⟩ := runs_fail_iff.mp hend
        exact ⟨stopping, .ok value, hstopped, rfl, rfl⟩
    | error known =>
        obtain ⟨tail, rfl, hfail⟩ := runs_note_bind_iff.mp hend
        obtain ⟨rfl, rfl, rfl⟩ := runs_fail_iff.mp hfail
        exact ⟨stopping, .error known, hstopped, rfl, rfl⟩
  · rintro ⟨stopping, stopped, hstopped, rfl, rfl⟩
    refine ⟨stopped, after, stopping, _, rfl, hstopped, ?_⟩
    cases stopped with
    | ok value => exact runs_fail_iff.mpr ⟨rfl, rfl, rfl⟩
    | error known =>
        exact runs_note_bind_iff.mpr ⟨[], rfl, runs_fail_iff.mpr ⟨rfl, rfl, rfl⟩⟩

theorem surfaces_or_hides_of_runs_checkAndStop
    (hservice : ctx.serving Capability.watcherService = .ok service)
    (hrun : (checkAndStop settings ctx service).Runs before events result after) :
    Surfaced events (failure? result) ∨ HidesOutage settings ctx events result := by
  obtain ⟨checked, middle, checking, stopping, rfl, hchecks, hstop⟩ := runs_attempt_bind_iff.mp hrun
  have hchecking : Surfaced checking (failure? checked) :=
    surfaces_checkRunning settings ctx service hchecks
  cases checked with
  | ok value => exact Or.inl (Surfaced.append hchecking (surfaces_stop settings ctx service hstop))
  | error failure =>
      obtain ⟨front, stopped, hstopped, rfl, rfl⟩ := runs_stopAfterFailure_iff.mp hstop
      rcases hchecking with hunbroken | houtage
      · rcases surfaces_stop settings ctx service hstopped with hquiet | ⟨cause, hcause⟩
        · refine Or.inl (Or.inl (hunbroken.append (hquiet.append ?_)))
          cases stopped with
          | ok value => trivial
          | error known => exact followed_of_forall_not (by simp [noted, Event.isOutage])
        · rw [failure?_eq_some_iff.mp hcause] at hstopped ⊢
          by_cases houtage : IsOutage (some failure)
          · exact Or.inl (Or.inr houtage)
          · exact Or.inr ⟨service, [], checking, front, _, before, middle, after, failure, cause,
              hservice, rfl, hchecks, hstopped, rfl, houtage, rfl⟩
      · exact Or.inl (Or.inr houtage)

/-- What precedes the checks passes on what they do. -/
theorem surfaces_or_hides_of_runs_bind
    {α : Type} {action : Action α} {next : α → Action Unit}
    (haction : Surfaces action)
    (hnext : ∀ ⦃value before events⦄, (next value).Runs before events result after →
      Surfaced events (failure? result) ∨ HidesOutage settings ctx events result)
    (hrun : (action >>= next).Runs before events result after) :
    Surfaced events (failure? result) ∨ HidesOutage settings ctx events result := by
  rcases runs_bind_iff.mp hrun with
    ⟨value, middle, front, back, rfl, hfront, hback⟩ | ⟨failure, rfl, hfailed⟩
  · rcases hnext hback with hsurfaces | hhides
    · exact Or.inl (Surfaced.append (haction hfront) hsurfaces)
    · exact Or.inr (hhides.of_suffix front)
  · exact Or.inl (haction hfailed)

theorem surfaces_or_hides_of_runs_verify
    (hrun : (verify settings ctx).Runs before events result after) :
    Surfaced events (failure? result) ∨ HidesOutage settings ctx events result := by
  have hread : Conduct.showing.Reads := fun _ _ _ => trivial
  have hhealth : Surfaces
      (Health.await ctx.harness.table ctx.config.oldVersion (some healthResources)) :=
    Conforms.surfaces (Health.conforms_await (fun _ _ => trivial) hread)
  have hmigrates : Surfaces (migrateStores settings ctx) :=
    Conforms.surfaces (conforms_migrateStores (fun _ _ => trivial) trivial
      (fun _ _ _ _ => trivial) nofun)
  rcases runs_liftM_bind_iff.mp hrun with ⟨service, hservice, hprepared⟩ | ⟨_, _, rfl, _⟩
  · refine surfaces_or_hides_of_runs_bind hhealth ?_ hprepared
    intro _ _ _ hmigrate
    refine surfaces_or_hides_of_runs_bind hmigrates ?_ hmigrate
    intro _ _ _ hpath
    refine surfaces_or_hides_of_runs_bind (conforms_judging (failsWithin_textAt _ _)).surfaces
      ?_ hpath
    intro startPath _ _ hstart
    have hstarts : Surfaces (startWatcher settings ctx startPath) :=
      Conforms.surfaces (conforms_startWatcher (fun _ _ => trivial) hread trivial nofun)
    refine surfaces_or_hides_of_runs_bind hstarts ?_ hstart
    intro _ _ _ hchecks
    exact surfaces_or_hides_of_runs_checkAndStop hservice hchecks
  · exact Or.inl (Or.inl trivial)

end Hiding

end Watcher
end RestartCheck
