import DockerMap.Daemon.CacheRefresh
import DockerMap.Lib.Runs

/-! The daemon as a transition system: the refresh loop, the tasks of the spawned
provider workers, the blocking workers, the flags of the per-slot guards and the monotonic
clock. A step is one lock-protected section, or one change of a flag or of a task. A flag
is not its worker: whatever drops a guard of the slot clears it. -/

namespace DockerMap

/-- Budget of one slot's collection, in nanoseconds. -/
def runtimeMapCollectionTimeout : ℕ := durationFromSecs 15

inductive TaskPhase
  /-- Spawned; the guard is not acquired yet. -/
  | waiting
  /-- The task awaits its blocking worker, which holds a guard. -/
  | running (startedAt : ℕ)
  | ready (outcome : ProviderCollectionOutcome) (readyAt : ℕ)
  /-- The outcome is applied and the lock dropped; the follow-up claim is next. -/
  | followUp (snapshot : DockerSnapshot) (appliedAt : ℕ)
  /-- Slots are claimed; the generation is read and their workers spawned next. -/
  | spawning (snapshot : DockerSnapshot) (due : List ProviderSlot)
  | done

structure WorkerTask where
  slot : ProviderSlot
  observed : Observed
  phase : TaskPhase

def spawnTasks (observed : Observed) (due : List ProviderSlot) : List WorkerTask :=
  due.map fun slot => ⟨slot, observed, .waiting⟩

inductive RefreshPhase
  | idle
  | claiming (observed : Observed) (publishedAt : ℕ)

structure AppState where
  cache : DaemonCache
  /-- The flags that the guards are acquired by. -/
  flights : ProviderSlot → Bool
  /-- The slots of the blocking workers that no task awaits any more. -/
  orphans : List ProviderSlot
  refresh : RefreshPhase
  tasks : List WorkerTask
  clock : ℕ

inductive Event
  | publish (read : SnapshotRead) (now : ℕ) (boots : CacheBoots) (publication : PublicationBoots)
  | refreshClaim (now : ℕ) (wall : ProviderSlot → Option ℕ)
  | start (task : ℕ)
  | finish (task : ℕ) (result : WorkerResult)
  | timeout (task : ℕ)
  | unwind (slot : ProviderSlot)
  | apply (task : ℕ) (completedAt : ℕ) (completedMs : Option ℕ)
  | followUpClaim (task : ℕ) (now : ℕ) (wall : ProviderSlot → Option ℕ)
  | followUpSpawn (task : ℕ)
  | tick (elapsed : ℕ)

def AppState.new (processBoot : BootToken) (boots : CacheBoots) (now : ℕ) : AppState where
  cache := .mock processBoot boots now
  flights := fun _ => false
  orphans := []
  refresh := .idle
  tasks := []
  clock := 0

def activeCount (flights : ProviderSlot → Bool) : ℕ := staticProviderSlots.countP flights

def TaskPhase.isRunning : TaskPhase → Bool
  | .running _ => true
  | _ => false

def AppState.setPhase (s : AppState) (i : ℕ) (task : WorkerTask) (phase : TaskPhase) : AppState :=
  { s with tasks := s.tasks.set i { task with phase := phase } }

/-- The slots a claim takes in this state. -/
def AppState.due (s : AppState) (now : ℕ) : List ProviderSlot :=
  s.cache.dueSlots now (activeCount s.flights)

def AppState.claimDue (s : AppState) (now : ℕ) (wall : ProviderSlot → Option ℕ) : DaemonCache :=
  claimDueProviderSlots s.cache now (activeCount s.flights) wall

/-- When an event is a claim, the monotonic time it reads. -/
def Event.claimTime : Event → Option ℕ
  | .refreshClaim now _ | .followUpClaim _ now _ => some now
  | _ => none

/-- The slots an event claims in this state. -/
def AppState.claims (s : AppState) (e : Event) : List ProviderSlot :=
  match e.claimTime with
  | some now => s.due now
  | none => []

structure Application where
  slot : ProviderSlot
  outcome : ProviderCollectionOutcome
  completedAt : ℕ

/-- The outcome an event applies, unless the cache has left the worker's source. -/
def AppState.application (s : AppState) : Event → Option Application
  | .apply i completedAt _ =>
      match s.tasks[i]? with
      | some ⟨slot, observed, .ready outcome _⟩ =>
          if s.cache.accepts observed then some ⟨slot, outcome, completedAt⟩ else none
      | _ => none
  | _ => none

/-- The wall clock an event reads for a slot. -/
def Event.reading : Event → ProviderSlot → Option ℕ
  | .refreshClaim _ wall, slot | .followUpClaim _ _ wall, slot => wall slot
  | .apply _ _ completedMs, _ => completedMs
  | _, _ => none

section

variable (processBoot : BootToken) (s : AppState)

def publishStep (read : SnapshotRead) (now : ℕ) (boots : CacheBoots)
    (publication : PublicationBoots) : AppState :=
  let cache := publishDockerSnapshotCache s.cache (collectSnapshot processBoot boots now read)
    publication
  { s with
    cache := cache
    refresh :=
      if cache.mode = .docker then
        .claiming ⟨cache.snapshot, cache.mode, cache.sourceGeneration⟩ s.clock
      else .idle }

def refreshClaimStep (observed : Observed) (now : ℕ) (wall : ProviderSlot → Option ℕ) : AppState :=
  { s with
    cache := s.claimDue now wall
    refresh := .idle
    tasks := s.tasks ++ spawnTasks observed (s.due now) }

/-- `acquire` builds its guard even where the flag is set; the guard is dropped at once and
clears the flag of the worker that holds the slot. -/
def startStep (i : ℕ) (task : WorkerTask) : AppState :=
  if s.flights task.slot then
    { s.setPhase i task (.ready .inFlight s.clock) with
      flights := Function.update s.flights task.slot false }
  else
    { s.setPhase i task (.running s.clock) with
      flights := Function.update s.flights task.slot true }

def finishStep (i : ℕ) (task : WorkerTask) (result : WorkerResult) : AppState :=
  { s.setPhase i task (.ready (providerCollectionOutcome task.slot result) s.clock) with
    flights := Function.update s.flights task.slot false }

/-- The task stops waiting; its blocking worker keeps its guard. -/
def timeoutStep (i : ℕ) (task : WorkerTask) : AppState :=
  { s.setPhase i task (.ready .timedOut s.clock) with orphans := task.slot :: s.orphans }

/-- An orphan's guard clears the flag, whichever worker had set it. -/
def unwindStep (slot : ProviderSlot) : AppState :=
  { s with
    flights := Function.update s.flights slot false
    orphans := s.orphans.erase slot }

/-- An accepted outcome of a live source is followed by its own claim. -/
def appliedPhase (accepted : Bool) (cache : DaemonCache) (appliedAt : ℕ) : TaskPhase :=
  if accepted && cache.mode == .docker then .followUp cache.snapshot appliedAt else .done

def applyStep (i : ℕ) (task : WorkerTask) (outcome : ProviderCollectionOutcome) (completedAt : ℕ)
    (completedMs : Option ℕ) : AppState :=
  let cache := applyProviderSlotOutcome processBoot s.cache task.slot task.observed outcome
    completedMs completedAt
  { s.setPhase i task (appliedPhase (s.cache.accepts task.observed) cache s.clock) with
    cache := cache }

def followUpClaimStep (i : ℕ) (task : WorkerTask) (snapshot : DockerSnapshot) (now : ℕ)
    (wall : ProviderSlot → Option ℕ) : AppState :=
  { s.setPhase i task (.spawning snapshot (s.due now)) with cache := s.claimDue now wall }

/-- The generation of the new workers is read here, not at the claim. -/
def followUpSpawnStep (i : ℕ) (task : WorkerTask) (snapshot : DockerSnapshot)
    (due : List ProviderSlot) : AppState :=
  { s with
    tasks := s.tasks.set i { task with phase := .done } ++
      spawnTasks ⟨snapshot, .docker, s.cache.sourceGeneration⟩ due }

def step : Event → Option AppState
  | .publish read now boots publication =>
      match s.refresh with
      | .idle => some (publishStep processBoot s read now boots publication)
      | .claiming _ _ => none
  | .refreshClaim now wall =>
      match s.refresh with
      | .claiming observed publishedAt =>
          if publishedAt ≤ now ∧ now ≤ s.clock then some (refreshClaimStep s observed now wall)
          else none
      | .idle => none
  | .start i =>
      match s.tasks[i]? with
      | some ⟨slot, observed, .waiting⟩ => some (startStep s i ⟨slot, observed, .waiting⟩)
      | _ => none
  | .finish i result =>
      match s.tasks[i]? with
      | some ⟨slot, observed, .running startedAt⟩ =>
          some (finishStep s i ⟨slot, observed, .running startedAt⟩ result)
      | _ => none
  | .timeout i =>
      match s.tasks[i]? with
      | some ⟨slot, observed, .running startedAt⟩ =>
          if startedAt + runtimeMapCollectionTimeout ≤ s.clock then
            some (timeoutStep s i ⟨slot, observed, .running startedAt⟩)
          else none
      | _ => none
  | .unwind slot =>
      if slot ∈ s.orphans then some (unwindStep s slot) else none
  | .apply i completedAt completedMs =>
      match s.tasks[i]? with
      | some ⟨slot, observed, .ready outcome readyAt⟩ =>
          if readyAt ≤ completedAt ∧ completedAt ≤ s.clock then
            some (applyStep processBoot s i ⟨slot, observed, .ready outcome readyAt⟩ outcome
              completedAt completedMs)
          else none
      | _ => none
  | .followUpClaim i now wall =>
      match s.tasks[i]? with
      | some ⟨slot, observed, .followUp snapshot appliedAt⟩ =>
          if appliedAt ≤ now ∧ now ≤ s.clock then
            some (followUpClaimStep s i ⟨slot, observed, .followUp snapshot appliedAt⟩ snapshot
              now wall)
          else none
      | _ => none
  | .followUpSpawn i =>
      match s.tasks[i]? with
      | some ⟨slot, observed, .spawning snapshot due⟩ =>
          some (followUpSpawnStep s i ⟨slot, observed, .spawning snapshot due⟩ snapshot due)
      | _ => none
  | .tick elapsed => some { s with clock := s.clock + elapsed }

end

/-! What an enabled step does, event by event -/

section

variable {processBoot : BootToken} {s s' : AppState} {i now completedAt elapsed : ℕ}

theorem step_publish {read : SnapshotRead} {boots : CacheBoots} {publication : PublicationBoots}
    (h : step processBoot s (.publish read now boots publication) = some s') :
    s.refresh = .idle ∧ s' = publishStep processBoot s read now boots publication := by
  simp only [step] at h
  split at h
  · rename_i hidle
    exact ⟨hidle, (Option.some.inj h).symm⟩
  · cases h

theorem step_refreshClaim {wall : ProviderSlot → Option ℕ}
    (h : step processBoot s (.refreshClaim now wall) = some s') :
    ∃ observed publishedAt, s.refresh = .claiming observed publishedAt ∧ publishedAt ≤ now ∧
      now ≤ s.clock ∧ s' = refreshClaimStep s observed now wall := by
  simp only [step] at h
  split at h
  · rename_i observed publishedAt hclaiming
    obtain ⟨⟨hlow, hhigh⟩, hs⟩ := Option.ite_none_right_eq_some.1 h
    cases hs
    exact ⟨observed, publishedAt, hclaiming, hlow, hhigh, rfl⟩
  · cases h

theorem step_start (h : step processBoot s (.start i) = some s') :
    ∃ task, s.tasks[i]? = some task ∧ task.phase = .waiting ∧ s' = startStep s i task := by
  simp only [step] at h
  split at h
  · rename_i slot observed htask
    exact ⟨_, htask, rfl, (Option.some.inj h).symm⟩
  · cases h

theorem step_finish {result : WorkerResult} (h : step processBoot s (.finish i result) = some s') :
    ∃ task startedAt, s.tasks[i]? = some task ∧ task.phase = .running startedAt ∧
      s' = finishStep s i task result := by
  simp only [step] at h
  split at h
  · rename_i slot observed startedAt htask
    exact ⟨_, startedAt, htask, rfl, (Option.some.inj h).symm⟩
  · cases h

theorem step_timeout (h : step processBoot s (.timeout i) = some s') :
    ∃ task startedAt, s.tasks[i]? = some task ∧ task.phase = .running startedAt ∧
      s' = timeoutStep s i task := by
  simp only [step] at h
  split at h
  · rename_i slot observed startedAt htask
    obtain ⟨-, hs⟩ := Option.ite_none_right_eq_some.1 h
    cases hs
    exact ⟨_, startedAt, htask, rfl, rfl⟩
  · cases h

theorem step_unwind {slot : ProviderSlot} (h : step processBoot s (.unwind slot) = some s') :
    slot ∈ s.orphans ∧ s' = unwindStep s slot := by
  simp only [step] at h
  obtain ⟨horphan, hs⟩ := Option.ite_none_right_eq_some.1 h
  cases hs
  exact ⟨horphan, rfl⟩

theorem step_apply {completedMs : Option ℕ}
    (h : step processBoot s (.apply i completedAt completedMs) = some s') :
    ∃ task outcome readyAt, s.tasks[i]? = some task ∧ task.phase = .ready outcome readyAt ∧
      readyAt ≤ completedAt ∧ completedAt ≤ s.clock ∧
      s' = applyStep processBoot s i task outcome completedAt completedMs := by
  simp only [step] at h
  split at h
  · rename_i slot observed outcome readyAt htask
    obtain ⟨⟨hlow, hhigh⟩, hs⟩ := Option.ite_none_right_eq_some.1 h
    cases hs
    exact ⟨_, outcome, readyAt, htask, rfl, hlow, hhigh, rfl⟩
  · cases h

theorem step_followUpClaim {wall : ProviderSlot → Option ℕ}
    (h : step processBoot s (.followUpClaim i now wall) = some s') :
    ∃ task snapshot appliedAt, s.tasks[i]? = some task ∧
      task.phase = .followUp snapshot appliedAt ∧ appliedAt ≤ now ∧ now ≤ s.clock ∧
      s' = followUpClaimStep s i task snapshot now wall := by
  simp only [step] at h
  split at h
  · rename_i slot observed snapshot appliedAt htask
    obtain ⟨⟨hlow, hhigh⟩, hs⟩ := Option.ite_none_right_eq_some.1 h
    cases hs
    exact ⟨_, snapshot, appliedAt, htask, rfl, hlow, hhigh, rfl⟩
  · cases h

theorem step_followUpSpawn (h : step processBoot s (.followUpSpawn i) = some s') :
    ∃ task snapshot due, s.tasks[i]? = some task ∧ task.phase = .spawning snapshot due ∧
      s' = followUpSpawnStep s i task snapshot due := by
  simp only [step] at h
  split at h
  · rename_i slot observed snapshot due htask
    exact ⟨_, snapshot, due, htask, rfl, (Option.some.inj h).symm⟩
  · cases h

theorem step_tick (h : step processBoot s (.tick elapsed) = some s') :
    s' = { s with clock := s.clock + elapsed } :=
  (Option.some.inj h).symm

end

/-! What a step can do to the source and to one slot -/

section

variable {processBoot : BootToken} {s s' : AppState} {e : Event}

/-- The changes of a slot while the source stays. -/
inductive SlotStep (processBoot : BootToken) (s : AppState) (e : Event) (slot : ProviderSlot) :
    SlotRuntimeState → Prop
  | kept : SlotStep processBoot s e slot (s.cache.runtimeProviders slot)
  | staled {collection : ProviderCollection} :
      (s.cache.runtimeProviders slot).observation = .fresh collection →
        SlotStep processBoot s e slot
          { s.cache.runtimeProviders slot with observation := .degraded (some collection) }
  | claimed : slot ∈ s.claims e →
      SlotStep processBoot s e slot (claimSlot (e.reading slot) (s.cache.runtimeProviders slot))
  | applied {a : Application} (sameEvidence : Bool) : s.application e = some a → a.slot = slot →
      SlotStep processBoot s e slot
        (applyOutcome processBoot a.outcome sameEvidence (e.reading slot) a.completedAt
          (s.cache.runtimeProviders slot))

/-- A step keeps the source and changes each slot in one of four ways, or it replaces the
source and resets every slot. -/
structure SameSource (processBoot : BootToken) (s : AppState) (e : Event) (s' : AppState) :
    Prop where
  mode : s'.cache.mode = s.cache.mode
  generation : s'.cache.sourceGeneration = s.cache.sourceGeneration
  slots : ∀ slot, SlotStep processBoot s e slot (s'.cache.runtimeProviders slot)

structure SourceFlip (s : AppState) (e : Event) (s' : AppState) : Prop where
  publishes : ∃ read now boots publication, e = .publish read now boots publication ∧
    s'.cache.mode = read.mode
  mode : s'.cache.mode ≠ s.cache.mode
  generation : s'.cache.sourceGeneration = s.cache.sourceGeneration + 1
  slots : s'.cache.runtimeProviders = sourceResetProviderSlots

theorem SameSource.of_cache_eq (h : s'.cache = s.cache) : SameSource processBoot s e s' where
  mode := by rw [h]
  generation := by rw [h]
  slots slot := by
    rw [h]
    exact .kept

theorem SameSource.of_claim {now : ℕ} {wall : ProviderSlot → Option ℕ}
    (he : s.claims e = s.due now) (hwall : e.reading = wall)
    (h : s'.cache = s.claimDue now wall) : SameSource processBoot s e s' where
  mode := by rw [h, AppState.claimDue, claim_mode]
  generation := by rw [h, AppState.claimDue, claim_sourceGeneration]
  slots slot := by
    rw [h, AppState.claimDue, claim_runtimeProviders, markClaimed, ← hwall]
    split_ifs with hmem
    · exact .claimed (he ▸ hmem)
    · exact .kept

theorem application_of_ready {i : ℕ} {task : WorkerTask} {outcome : ProviderCollectionOutcome}
    {readyAt : ℕ} (htask : s.tasks[i]? = some task) (hphase : task.phase = .ready outcome readyAt)
    (completedAt : ℕ) (completedMs : Option ℕ) :
    s.application (.apply i completedAt completedMs) =
      if s.cache.accepts task.observed then some ⟨task.slot, outcome, completedAt⟩ else none := by
  obtain ⟨slot, observed, phase⟩ := task
  subst hphase
  simp [AppState.application, htask]

theorem SameSource.of_apply {i completedAt : ℕ} {completedMs : Option ℕ} {task : WorkerTask}
    {outcome : ProviderCollectionOutcome} {readyAt : ℕ} (htask : s.tasks[i]? = some task)
    (hphase : task.phase = .ready outcome readyAt) :
    SameSource processBoot s (.apply i completedAt completedMs)
      (applyStep processBoot s i task outcome completedAt completedMs) where
  mode := apply_mode ..
  generation := apply_sourceGeneration ..
  slots slot := by
    have happ := application_of_ready htask hphase completedAt completedMs
    simp only [applyStep, apply_runtimeProviders]
    split_ifs at happ ⊢ with haccepts
    · by_cases hslot : slot = task.slot
      · subst hslot
        rw [Function.update_self]
        exact .applied _ happ rfl
      · rw [Function.update_of_ne hslot]
        exact .kept
    · exact .kept

theorem publish_source {read : SnapshotRead} {now : ℕ} {boots : CacheBoots}
    {publication : PublicationBoots}
    (h : s' = publishStep processBoot s read now boots publication) :
    SameSource processBoot s (.publish read now boots publication) s' ∨
      SourceFlip s (.publish read now boots publication) s' := by
  subst h
  have hmode : (publishStep processBoot s read now boots publication).cache.mode = read.mode := by
    simp only [publishStep, DaemonCache.publish_mode, collectSnapshot_mode]
  have hgeneration := DaemonCache.publish_sourceGeneration s.cache
    (collectSnapshot processBoot boots now read) publication
  have hslots := DaemonCache.publish_runtimeProviders s.cache
    (collectSnapshot processBoot boots now read) publication
  rw [collectSnapshot_mode] at hgeneration
  by_cases hsame : s.cache.mode = read.mode
  · left
    rw [if_pos hsame] at hgeneration
    refine ⟨by rw [hmode, hsame], hgeneration, fun slot => ?_⟩
    have hslot := DaemonCache.replacedBy_of_same s.cache (collectSnapshot processBoot boots now read)
      publication (by rw [collectSnapshot_mode, hsame]) slot
    simp only [publishStep, hslots]
    rcases hslot with heq | ⟨collection, hfresh, heq⟩
    · rw [heq]
      exact .kept
    · rw [heq]
      exact .staled hfresh
  · right
    rw [if_neg hsame] at hgeneration
    refine ⟨⟨read, now, boots, publication, rfl, hmode⟩, ?_, hgeneration, ?_⟩
    · rw [hmode]
      exact Ne.symm hsame
    · simp only [publishStep, hslots]
      apply DaemonCache.replacedBy_of_flip
      rw [collectSnapshot_mode]
      exact hsame

theorem step_source (h : step processBoot s e = some s') :
    SameSource processBoot s e s' ∨ SourceFlip s e s' := by
  cases e with
  | publish read now boots publication => exact publish_source (step_publish h).2
  | refreshClaim now wall =>
    obtain ⟨observed, publishedAt, -, -, -, rfl⟩ := step_refreshClaim h
    exact Or.inl (.of_claim rfl rfl rfl)
  | start i =>
    obtain ⟨task, -, -, rfl⟩ := step_start h
    left
    apply SameSource.of_cache_eq
    unfold startStep
    split_ifs <;> rfl
  | finish i result =>
    obtain ⟨task, startedAt, -, -, rfl⟩ := step_finish h
    exact Or.inl (.of_cache_eq rfl)
  | timeout i =>
    obtain ⟨task, startedAt, -, -, rfl⟩ := step_timeout h
    exact Or.inl (.of_cache_eq rfl)
  | unwind slot =>
    obtain ⟨-, rfl⟩ := step_unwind h
    exact Or.inl (.of_cache_eq rfl)
  | apply i completedAt completedMs =>
    obtain ⟨task, outcome, readyAt, htask, hphase, -, -, rfl⟩ := step_apply h
    exact Or.inl (.of_apply htask hphase)
  | followUpClaim i now wall =>
    obtain ⟨task, snapshot, appliedAt, -, -, -, -, rfl⟩ := step_followUpClaim h
    exact Or.inl (.of_claim rfl rfl rfl)
  | followUpSpawn i =>
    obtain ⟨task, snapshot, due, -, -, rfl⟩ := step_followUpSpawn h
    exact Or.inl (.of_cache_eq rfl)
  | tick elapsed =>
    obtain rfl := step_tick h
    exact Or.inl (.of_cache_eq rfl)

theorem generation_le (h : step processBoot s e = some s') :
    s.cache.sourceGeneration ≤ s'.cache.sourceGeneration := by
  rcases step_source h with hsame | hflip
  · exact le_of_eq hsame.generation.symm
  · rw [hflip.generation]
    exact Nat.le_succ _

end

end DockerMap
