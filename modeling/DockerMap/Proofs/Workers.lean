import DockerMap.Daemon.Scheduler

/-! Where the worker tasks of a state come from: a step moves one task to its next phase,
or spawns a worker for every slot of a claim. -/

namespace DockerMap

/-- The source of the Docker read an event publishes. -/
def Event.readMode : Event → Option RuntimeMode
  | .publish read _ _ _ => some read.mode
  | _ => none

section

variable {processBoot : BootToken} {s s' : AppState} {e : Event}

/-- A spawned worker whose outcome is not applied yet. -/
def TaskPhase.isOutstanding : TaskPhase → Bool
  | .waiting | .running _ | .ready _ _ => true
  | _ => false

/-- The slots a task has claimed and not spawned workers for. -/
def TaskPhase.claimed : TaskPhase → List ProviderSlot
  | .spawning _ due => due
  | _ => []

theorem claimed_of_isOutstanding {phase : TaskPhase} (h : phase.isOutstanding = true) :
    phase.claimed = [] := by
  cases phase <;> first | rfl | cases h

@[simp] theorem appliedPhase_isOutstanding (accepted : Bool) (cache : DaemonCache)
    (appliedAt : ℕ) : (appliedPhase accepted cache appliedAt).isOutstanding = false := by
  unfold appliedPhase
  split_ifs <;> rfl

@[simp] theorem appliedPhase_claimed (accepted : Bool) (cache : DaemonCache) (appliedAt : ℕ) :
    (appliedPhase accepted cache appliedAt).claimed = [] := by
  unfold appliedPhase
  split_ifs <;> rfl

/-- A collected outcome is one pass of the slot's fixed collectors. -/
def TaskPhase.CollectsFor (slot : ProviderSlot) : TaskPhase → Prop
  | .ready (.collected collection) _ => ∃ reading, collection = collectProviderSlot slot reading
  | _ => True

/-- The next phase of a task. -/
inductive PhaseStep (s : AppState) (e : Event) (s' : AppState) (task : WorkerTask) :
    TaskPhase → Prop
  | kept : PhaseStep s e s' task task.phase
  | collecting {phase : TaskPhase} : task.phase.isOutstanding = true →
      phase.isOutstanding = true → phase.CollectsFor task.slot → PhaseStep s e s' task phase
  | applied {outcome : ProviderCollectionOutcome} {readyAt : ℕ} :
      task.phase = .ready outcome readyAt →
        PhaseStep s e s' task (appliedPhase (s.cache.accepts task.observed) s'.cache s.clock)
  | claimed {snapshot : DockerSnapshot} {appliedAt : ℕ} :
      task.phase = .followUp snapshot appliedAt →
        PhaseStep s e s' task (.spawning snapshot (s.claims e))
  | spawned {snapshot : DockerSnapshot} {due : List ProviderSlot} :
      task.phase = .spawning snapshot due → PhaseStep s e s' task .done

/-- Where a task of the next state comes from. -/
inductive TaskOrigin (s : AppState) (e : Event) (s' : AppState) : WorkerTask → Prop
  | moved {task : WorkerTask} {phase : TaskPhase} : task ∈ s.tasks →
      PhaseStep s e s' task phase → TaskOrigin s e s' { task with phase := phase }
  | refreshed {observed : Observed} {publishedAt : ℕ} {slot : ProviderSlot} :
      s.refresh = .claiming observed publishedAt → slot ∈ s.claims e →
        TaskOrigin s e s' ⟨slot, observed, .waiting⟩
  | followed {task : WorkerTask} {slot : ProviderSlot} {snapshot : DockerSnapshot} :
      task ∈ s.tasks → slot ∈ task.phase.claimed →
        TaskOrigin s e s' ⟨slot, ⟨snapshot, .docker, s.cache.sourceGeneration⟩, .waiting⟩

theorem TaskOrigin.of_mem {task : WorkerTask} (h : task ∈ s.tasks) : TaskOrigin s e s' task :=
  .moved h .kept

/-- Only the task at the event's position moves. -/
theorem TaskOrigin.of_set {i : ℕ} {task moved : WorkerTask} {phase : TaskPhase}
    (htask : s.tasks[i]? = some task) (hphase : PhaseStep s e s' task phase)
    (h : moved ∈ s.tasks.set i { task with phase := phase }) : TaskOrigin s e s' moved := by
  rcases List.mem_or_eq_of_mem_set h with hmem | rfl
  · exact .of_mem hmem
  · exact .moved (List.mem_of_getElem? htask) hphase

theorem mem_spawnTasks {observed : Observed} {due : List ProviderSlot} {task : WorkerTask} :
    task ∈ spawnTasks observed due ↔ ∃ slot ∈ due, task = ⟨slot, observed, .waiting⟩ := by
  simp [spawnTasks, eq_comm]

theorem step_tasks (h : step processBoot s e = some s') :
    ∀ task ∈ s'.tasks, TaskOrigin s e s' task := by
  intro moved hmoved
  cases e with
  | publish read now boots publication =>
    obtain ⟨-, rfl⟩ := step_publish h
    exact .of_mem hmoved
  | refreshClaim now wall =>
    obtain ⟨observed, publishedAt, hclaiming, -, -, rfl⟩ := step_refreshClaim h
    rcases List.mem_append.1 hmoved with hmem | hspawned
    · exact .of_mem hmem
    · obtain ⟨slot, hdue, rfl⟩ := mem_spawnTasks.1 hspawned
      exact .refreshed hclaiming hdue
  | start i =>
    obtain ⟨task, htask, hphase, rfl⟩ := step_start h
    have hwaiting : task.phase.isOutstanding = true := by rw [hphase]; rfl
    unfold startStep at hmoved ⊢
    split_ifs at hmoved ⊢
    · exact .of_set htask (.collecting hwaiting rfl (by trivial)) hmoved
    · exact .of_set htask (.collecting hwaiting rfl (by trivial)) hmoved
  | finish i result =>
    obtain ⟨task, startedAt, htask, hphase, rfl⟩ := step_finish h
    have hrunning : task.phase.isOutstanding = true := by rw [hphase]; rfl
    have hcollects : (TaskPhase.ready (providerCollectionOutcome task.slot result)
        s.clock).CollectsFor task.slot := by
      cases result with
      | collected reading => exact ⟨reading, rfl⟩
      | failed => trivial
      | timedOut => trivial
    exact .of_set htask (.collecting hrunning rfl hcollects) hmoved
  | timeout i =>
    obtain ⟨task, startedAt, htask, hphase, rfl⟩ := step_timeout h
    have hrunning : task.phase.isOutstanding = true := by rw [hphase]; rfl
    exact .of_set htask (.collecting hrunning rfl (by trivial)) hmoved
  | unwind slot =>
    obtain ⟨-, rfl⟩ := step_unwind h
    exact .of_mem hmoved
  | apply i completedAt completedMs =>
    obtain ⟨task, outcome, readyAt, htask, hphase, -, -, rfl⟩ := step_apply h
    exact .of_set htask (.applied hphase) hmoved
  | followUpClaim i now wall =>
    obtain ⟨task, snapshot, appliedAt, htask, hphase, -, -, rfl⟩ := step_followUpClaim h
    exact .of_set htask (.claimed hphase) hmoved
  | followUpSpawn i =>
    obtain ⟨task, snapshot, due, htask, hphase, rfl⟩ := step_followUpSpawn h
    rcases List.mem_append.1 hmoved with hmem | hspawned
    · exact .of_set htask (.spawned hphase) hmem
    · obtain ⟨slot, hdue, rfl⟩ := mem_spawnTasks.1 hspawned
      exact .followed (List.mem_of_getElem? htask) (by rw [hphase]; exact hdue)
  | tick elapsed =>
    obtain rfl := step_tick h
    exact .of_mem hmoved

/-- The refresh loop claims only after its own publication of a Docker read. -/
theorem step_refresh (h : step processBoot s e = some s') :
    s'.refresh = .idle ∨ (s'.refresh = s.refresh ∧ e.readMode = none) ∨
      ∃ publishedAt, s'.cache.mode = .docker ∧ s'.refresh =
        .claiming ⟨s'.cache.snapshot, .docker, s'.cache.sourceGeneration⟩ publishedAt := by
  cases e with
  | publish read now boots publication =>
    obtain ⟨-, rfl⟩ := step_publish h
    by_cases hmode : (publishDockerSnapshotCache s.cache
        (collectSnapshot processBoot boots now read) publication).mode = .docker
    · right
      right
      refine ⟨s.clock, hmode, ?_⟩
      simp only [publishStep, if_pos hmode]
      rw [hmode]
    · left
      simp only [publishStep, if_neg hmode]
  | refreshClaim now wall =>
    obtain ⟨observed, publishedAt, -, -, -, rfl⟩ := step_refreshClaim h
    exact Or.inl rfl
  | start i =>
    obtain ⟨task, -, -, rfl⟩ := step_start h
    right
    left
    refine ⟨?_, rfl⟩
    unfold startStep
    split_ifs <;> rfl
  | finish i result =>
    obtain ⟨task, startedAt, -, -, rfl⟩ := step_finish h
    exact Or.inr (Or.inl ⟨rfl, rfl⟩)
  | timeout i =>
    obtain ⟨task, startedAt, -, -, rfl⟩ := step_timeout h
    exact Or.inr (Or.inl ⟨rfl, rfl⟩)
  | unwind slot =>
    obtain ⟨-, rfl⟩ := step_unwind h
    exact Or.inr (Or.inl ⟨rfl, rfl⟩)
  | apply i completedAt completedMs =>
    obtain ⟨task, outcome, readyAt, -, -, -, -, rfl⟩ := step_apply h
    exact Or.inr (Or.inl ⟨rfl, rfl⟩)
  | followUpClaim i now wall =>
    obtain ⟨task, snapshot, appliedAt, -, -, -, -, rfl⟩ := step_followUpClaim h
    exact Or.inr (Or.inl ⟨rfl, rfl⟩)
  | followUpSpawn i =>
    obtain ⟨task, snapshot, due, -, -, rfl⟩ := step_followUpSpawn h
    exact Or.inr (Or.inl ⟨rfl, rfl⟩)
  | tick elapsed =>
    obtain rfl := step_tick h
    exact Or.inr (Or.inl ⟨rfl, rfl⟩)

/-- In every state of a run, what a worker collected is one pass of its slot. -/
theorem collectsFor_of_tasks (h : step processBoot s e = some s')
    (hinv : ∀ task ∈ s.tasks, task.phase.CollectsFor task.slot) :
    ∀ task ∈ s'.tasks, task.phase.CollectsFor task.slot := by
  intro moved hmoved
  cases step_tasks h moved hmoved with
  | moved hmem hphase =>
    cases hphase with
    | kept => exact hinv _ hmem
    | collecting _ _ hcollects => exact hcollects
    | applied hready =>
      unfold appliedPhase
      split_ifs <;> trivial
    | claimed hfollow => trivial
    | spawned hspawning => trivial
  | refreshed _ _ => trivial
  | followed _ _ => trivial

/-- A claimed slot is marked, in the source it was found in. -/
theorem claimSlot_of_claims {slot : ProviderSlot} (h : step processBoot s e = some s')
    (hclaims : slot ∈ s.claims e) :
    s'.cache.runtimeProviders slot =
        claimSlot (e.reading slot) (s.cache.runtimeProviders slot) ∧
      s'.cache.sourceGeneration = s.cache.sourceGeneration := by
  have hmark (now : ℕ) (wall : ProviderSlot → Option ℕ)
      (hmem : slot ∈ s.cache.dueSlots now (activeCount s.flights)) :
      (s.claimDue now wall).runtimeProviders slot =
        claimSlot (wall slot) (s.cache.runtimeProviders slot) := by
    rw [AppState.claimDue, claim_runtimeProviders, markClaimed, if_pos hmem]
  cases e with
  | refreshClaim now wall =>
    obtain ⟨observed, publishedAt, -, -, -, rfl⟩ := step_refreshClaim h
    exact ⟨hmark now wall hclaims, claim_sourceGeneration ..⟩
  | followUpClaim i now wall =>
    obtain ⟨task, snapshot, appliedAt, -, -, -, -, rfl⟩ := step_followUpClaim h
    exact ⟨hmark now wall hclaims, claim_sourceGeneration ..⟩
  | publish read now boots publication => cases hclaims
  | start i => cases hclaims
  | finish i result => cases hclaims
  | timeout i => cases hclaims
  | unwind slot => cases hclaims
  | apply i completedAt completedMs => cases hclaims
  | followUpSpawn i => cases hclaims
  | tick elapsed => cases hclaims

/-- An applied outcome is the result of a worker the cache still accepts. -/
theorem mem_of_application {a : Application} (h : s.application e = some a) :
    ∃ task ∈ s.tasks, ∃ readyAt, task.phase = .ready a.outcome readyAt ∧ task.slot = a.slot ∧
      s.cache.accepts task.observed = true := by
  cases e with
  | apply i completedAt completedMs =>
    simp only [AppState.application] at h
    split at h
    · rename_i slot observed outcome readyAt htask
      obtain ⟨haccepts, ha⟩ := Option.ite_none_right_eq_some.1 h
      cases ha
      exact ⟨_, List.mem_of_getElem? htask, readyAt, rfl, rfl, haccepts⟩
    · cases h
  | publish read now boots publication => cases h
  | refreshClaim now wall => cases h
  | start i => cases h
  | finish i result => cases h
  | timeout i => cases h
  | unwind slot => cases h
  | followUpClaim i now wall => cases h
  | followUpSpawn i => cases h
  | tick elapsed => cases h

/-- What an application leaves in its slot. -/
theorem applyOutcome_of_application {a : Application} (h : step processBoot s e = some s')
    (happ : s.application e = some a) :
    ∃ sameEvidence, s'.cache.runtimeProviders a.slot =
      applyOutcome processBoot a.outcome sameEvidence (e.reading a.slot) a.completedAt
        (s.cache.runtimeProviders a.slot) := by
  cases e with
  | apply i completedAt completedMs =>
    obtain ⟨task, outcome, readyAt, htask, hphase, -, -, rfl⟩ := step_apply h
    rw [application_of_ready htask hphase] at happ
    obtain ⟨haccepts, ha⟩ := Option.ite_none_right_eq_some.1 happ
    cases ha
    refine ⟨sameCollectionEvidence s.cache.snapshot task.observed.snapshot, ?_⟩
    simp only [applyStep, apply_runtimeProviders, if_pos haccepts, Function.update_self]
    rfl
  | publish read now boots publication => cases happ
  | refreshClaim now wall => cases happ
  | start i => cases happ
  | finish i result => cases happ
  | timeout i => cases happ
  | unwind slot => cases happ
  | followUpClaim i now wall => cases happ
  | followUpSpawn i => cases happ
  | tick elapsed => cases happ

theorem SourceFlip.readMode (h : SourceFlip s e s') : e.readMode = some s'.cache.mode := by
  obtain ⟨read, now, boots, publication, rfl, hmode⟩ := h.publishes
  rw [hmode, Event.readMode]

/-- Only the two claims change slots by claiming. -/
theorem claims_origin {slot : ProviderSlot} (h : step processBoot s e = some s')
    (hclaims : slot ∈ s.claims e) :
    (∃ observed publishedAt, s.refresh = .claiming observed publishedAt) ∨
      ∃ task ∈ s.tasks, ∃ snapshot appliedAt, task.phase = .followUp snapshot appliedAt := by
  cases e with
  | refreshClaim now wall =>
    obtain ⟨observed, publishedAt, hclaiming, -, -, -⟩ := step_refreshClaim h
    exact Or.inl ⟨observed, publishedAt, hclaiming⟩
  | followUpClaim i now wall =>
    obtain ⟨task, snapshot, appliedAt, htask, hphase, -, -, -⟩ := step_followUpClaim h
    exact Or.inr ⟨task, List.mem_of_getElem? htask, snapshot, appliedAt, hphase⟩
  | publish read now boots publication => cases hclaims
  | start i => cases hclaims
  | finish i result => cases hclaims
  | timeout i => cases hclaims
  | unwind slot => cases hclaims
  | apply i completedAt completedMs => cases hclaims
  | followUpSpawn i => cases hclaims
  | tick elapsed => cases hclaims

end

end DockerMap
