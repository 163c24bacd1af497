import DockerMap.Proofs.Concurrency
import DockerMap.Proofs.Workers

/-! Isolation of the mock source. A claim follows an application only after the lock was
dropped, so what keeps host collection out of a mock source is that no task is between the
two when the source is replaced. -/

namespace DockerMap

open Runs

/-! Tasks between an applied outcome and the workers that follow it -/

/-- The task will claim, or has claimed slots it will spawn workers for. -/
def TaskPhase.owesWorkers : TaskPhase → Bool
  | .followUp _ _ => true
  | .spawning _ due => !due.isEmpty
  | _ => false

/-- The condition at a publication of sample data over a Docker source. -/
def MockFindsNoFollowUp (s : AppState) (e : Event) : Prop :=
  e.readMode = some .mock → s.cache.mode ≠ .mock → ∀ task ∈ s.tasks, task.phase.owesWorkers = false

instance (s : AppState) (e : Event) : Decidable (MockFindsNoFollowUp s e) :=
  inferInstanceAs (Decidable (_ → _ → _))

/-- Nothing in the state leads to host collection. -/
structure HostIdle (s : AppState) : Prop where
  slots : ∀ slot, (s.cache.runtimeProviders slot).observation.isCollecting = false
  refresh : s.refresh = .idle
  tasks : ∀ task ∈ s.tasks, task.phase.owesWorkers = false

theorem claims_eq_nil {processBoot : BootToken} {s s' : AppState} {e : Event}
    (h : step processBoot s e = some s') (hidle : HostIdle s) : s.claims e = [] := by
  rw [List.eq_nil_iff_forall_not_mem]
  intro slot hclaims
  rcases claims_origin h hclaims with ⟨observed, publishedAt, hclaiming⟩ | ⟨task, htask, hfollow⟩
  · rw [hidle.refresh] at hclaiming
    cases hclaiming
  · obtain ⟨snapshot, appliedAt, hphase⟩ := hfollow
    have := hidle.tasks task htask
    rw [hphase] at this
    cases this

theorem owesWorkers_of_isOutstanding {phase : TaskPhase} (h : phase.isOutstanding = true) :
    phase.owesWorkers = false := by
  cases phase <;> first | rfl | cases h

/-- Sample data admits no follow-up. -/
theorem appliedPhase_mock {cache : DaemonCache} (h : cache.mode = .mock) (accepted : Bool)
    (appliedAt : ℕ) : appliedPhase accepted cache appliedAt = .done := by
  simp [appliedPhase, h]

theorem phaseStep_owesWorkers {s s' : AppState} {e : Event} {task : WorkerTask} {phase : TaskPhase}
    (h : PhaseStep s e s' task phase) (hmock : s'.cache.mode = .mock) (hclaims : s.claims e = [])
    (hidle : task.phase.owesWorkers = false) : phase.owesWorkers = false := by
  cases h with
  | kept => exact hidle
  | collecting _ hphase _ => exact owesWorkers_of_isOutstanding hphase
  | applied hready =>
    rw [appliedPhase_mock hmock]
    rfl
  | claimed hfollow =>
    rw [hclaims]
    rfl
  | spawned hspawning => rfl

theorem tasks_owesWorkers {processBoot : BootToken} {s s' : AppState} {e : Event}
    (h : step processBoot s e = some s') (hmock : s'.cache.mode = .mock)
    (hclaims : s.claims e = []) (hidle : ∀ task ∈ s.tasks, task.phase.owesWorkers = false) :
    ∀ task ∈ s'.tasks, task.phase.owesWorkers = false := by
  intro task htask
  cases step_tasks h task htask with
  | moved hmem hphase => exact phaseStep_owesWorkers hphase hmock hclaims (hidle _ hmem)
  | refreshed _ hslot => rfl
  | followed _ _ => rfl

theorem slots_not_collecting {processBoot : BootToken} {s s' : AppState} {e : Event}
    (hsame : SameSource processBoot s e s') (hclaims : s.claims e = [])
    (hidle : ∀ slot, (s.cache.runtimeProviders slot).observation.isCollecting = false)
    (slot : ProviderSlot) : (s'.cache.runtimeProviders slot).observation.isCollecting = false := by
  have hslot := hsame.slots slot
  generalize s'.cache.runtimeProviders slot = new at hslot ⊢
  cases hslot with
  | kept => exact hidle slot
  | staled hfresh => rfl
  | claimed hmem =>
    rw [hclaims] at hmem
    cases hmem
  | applied sameEvidence happ hslot => exact applyOutcome_isCollecting ..

theorem refresh_idle {processBoot : BootToken} {s s' : AppState} {e : Event}
    (h : step processBoot s e = some s') (hmock : s'.cache.mode = .mock)
    (hidle : e.readMode = none → s.refresh = .idle) : s'.refresh = .idle := by
  rcases step_refresh h with heq | ⟨heq, hnone⟩ | ⟨publishedAt, hdocker, -⟩
  · exact heq
  · rw [heq]
    exact hidle hnone
  · rw [hmock] at hdocker
    cases hdocker

/-- One step, from a mock source or into one. -/
theorem hostIdle_step {processBoot : BootToken} {s s' : AppState} {e : Event}
    (hok : MockFindsNoFollowUp s e) (h : step processBoot s e = some s')
    (hinv : s.cache.mode = .mock → HostIdle s) (hmock : s'.cache.mode = .mock) : HostIdle s' := by
  rcases step_source h with hsame | hflip
  · have hidle := hinv (hsame.mode ▸ hmock)
    have hclaims := claims_eq_nil h hidle
    exact ⟨slots_not_collecting hsame hclaims hidle.slots,
      refresh_idle h hmock fun _ => hidle.refresh,
      tasks_owesWorkers h hmock hclaims hidle.tasks⟩
  · have hread := hflip.readMode
    have hclaims : s.claims e = [] := by
      obtain ⟨read, now, boots, publication, rfl, -⟩ := hflip.publishes
      rfl
    have htasks := hok (hmock ▸ hread) (hmock ▸ hflip.mode.symm)
    refine ⟨fun slot => ?_, refresh_idle h hmock fun hnone => ?_,
      tasks_owesWorkers h hmock hclaims htasks⟩
    · rw [hflip.slots]
      rfl
    · rw [hread] at hnone
      cases hnone

/-- No step from an idle state adds a worker. -/
theorem length_tasks_of_hostIdle {processBoot : BootToken} {s s' : AppState} {e : Event}
    (hidle : HostIdle s) (h : step processBoot s e = some s') :
    s'.tasks.length = s.tasks.length := by
  cases e with
  | publish read now boots publication =>
    obtain ⟨-, rfl⟩ := step_publish h
    rfl
  | refreshClaim now wall =>
    obtain ⟨observed, publishedAt, hclaiming, -, -, -⟩ := step_refreshClaim h
    rw [hidle.refresh] at hclaiming
    cases hclaiming
  | start i =>
    obtain ⟨task, -, -, rfl⟩ := step_start h
    unfold startStep
    split_ifs <;> exact List.length_set
  | finish i result =>
    obtain ⟨task, startedAt, -, -, rfl⟩ := step_finish h
    exact List.length_set
  | timeout i =>
    obtain ⟨task, startedAt, -, -, rfl⟩ := step_timeout h
    exact List.length_set
  | unwind slot =>
    obtain ⟨-, rfl⟩ := step_unwind h
    rfl
  | apply i completedAt completedMs =>
    obtain ⟨task, outcome, readyAt, -, -, -, -, rfl⟩ := step_apply h
    exact List.length_set
  | followUpClaim i now wall =>
    obtain ⟨task, snapshot, appliedAt, -, -, -, -, rfl⟩ := step_followUpClaim h
    exact List.length_set
  | followUpSpawn i =>
    obtain ⟨task, snapshot, due, htask, hphase, rfl⟩ := step_followUpSpawn h
    have howes := hidle.tasks task (List.mem_of_getElem? htask)
    rw [hphase] at howes
    have hnil : due = [] := by simpa [TaskPhase.owesWorkers] using howes
    simp [followUpSpawnStep, hnil, spawnTasks]
  | tick elapsed =>
    obtain rfl := step_tick h
    rfl

/-! Whole runs -/

/-- No slot is collecting, and no step spawns a provider worker. -/
def HostIsolated (processBoot : BootToken) (s : AppState) : Prop :=
  (∀ slot, (s.cache.runtimeProviders slot).observation.isCollecting = false) ∧
    ∀ e s', step processBoot s e = some s' → s'.tasks.length = s.tasks.length

theorem hostIdle_new (processBoot : BootToken) (boots : CacheBoots) (now : ℕ) :
    HostIdle (AppState.new processBoot boots now) where
  slots _ := rfl
  refresh := rfl
  tasks _ h := by cases h

/-- A mock source never advertises or starts host collection, in every run whose mock
publications over a Docker source find no task between its outcome and its workers. -/
theorem mock_isolated {processBoot : BootToken} {boots : CacheBoots} {now : ℕ} {es : List Event}
    {s : AppState}
    (h : Steps (step processBoot) MockFindsNoFollowUp (AppState.new processBoot boots now) es s)
    (hmock : s.cache.mode = .mock) : HostIsolated processBoot s := by
  have hidle := h.invariant (I := fun s => s.cache.mode = .mock → HostIdle s)
    (fun _ _ _ hok hstep hinv => hostIdle_step hok hstep hinv)
    (fun _ => hostIdle_new processBoot boots now) hmock
  exact ⟨hidle.slots, fun _ _ hstep => length_tasks_of_hostIdle hidle hstep⟩

/-! Sample runs -/

def publishFailedRead (now : ℕ) : Event :=
  .publish (.failed "timeout") now sampleBoots samplePublicationBoots

theorem mockAfterDocker_reached :
    (run (step sampleBoot) MockFindsNoFollowUp (AppState.new sampleBoot sampleBoots 0)
      [publishEmpty 0, .refreshClaim 0 fun _ => some 0, .start 0, publishFailedRead 1000]).map
        (fun s => s.cache.mode) = some .mock := by
  decide

theorem mock_isolated_afterDocker :
    ∃ es s, es ≠ [] ∧
      Steps (step sampleBoot) MockFindsNoFollowUp (AppState.new sampleBoot sampleBoots 0) es s ∧
        s.cache.mode = .mock ∧ HostIsolated sampleBoot s := by
  obtain ⟨s, hrun, hmock⟩ := Option.map_eq_some_iff.1 mockAfterDocker_reached
  have hsteps := Steps.of_run hrun
  exact ⟨_, s, by simp, hsteps, hmock, mock_isolated hsteps hmock⟩

/-- The mock publication comes after an outcome was applied and before its claim. -/
theorem mockCollects_reached :
    (run (step sampleBoot) anyStep (AppState.new sampleBoot sampleBoots 0)
      [publishEmpty 0, .refreshClaim 0 fun _ => some 0, .start 0, .finish 0 .failed,
        .apply 0 0 (some 0), publishFailedRead 1000, .followUpClaim 0 0 fun _ => some 0]).map
        (fun s => (s.cache.mode,
          (s.cache.runtimeProviders .networkInfrastructure).observation.isCollecting)) =
      some (.mock, true) := by
  decide

theorem mock_collects :
    ¬ ∀ (processBoot : BootToken) (boots : CacheBoots) (now : ℕ) (es : List Event) (s : AppState),
      Steps (step processBoot) anyStep (AppState.new processBoot boots now) es s →
        s.cache.mode = .mock → HostIsolated processBoot s := by
  intro hisolated
  obtain ⟨s, hrun, hpair⟩ := Option.map_eq_some_iff.1 mockCollects_reached
  obtain ⟨hmock, hcollecting⟩ := Prod.mk.inj hpair
  have hidle := (hisolated sampleBoot sampleBoots 0 _ s (Steps.of_run hrun) hmock).1
    .networkInfrastructure
  rw [hcollecting] at hidle
  cases hidle

end DockerMap
