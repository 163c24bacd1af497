import DockerMap.Daemon.Scheduler
import Mathlib.Algebra.BigOperators.Group.List.Basic

/-! The number of blocking provider workers, over every interleaving of the scheduler's
steps. The capacity a claim sees is what the slots and the flags show; a worker that is
claimed but not started can be in neither, and so can a live one whose flag another guard
of its slot has cleared. -/

namespace DockerMap

open Runs

/-! Workers that are alive or will be -/

/-- The blocking workers that a task awaits or is to start. -/
def TaskPhase.committed : TaskPhase → ℕ
  | .waiting | .running _ => 1
  | .spawning _ due => due.length
  | _ => 0

def committedIn (tasks : List WorkerTask) : ℕ :=
  (tasks.map fun task => task.phase.committed).sum

/-- The blocking workers alive, each of which holds a guard. -/
def AppState.liveWorkers (s : AppState) : ℕ :=
  s.tasks.countP (fun task => task.phase.isRunning) + s.orphans.length

/-- The blocking workers alive or about to start. -/
def AppState.committedWorkers (s : AppState) : ℕ := committedIn s.tasks + s.orphans.length

theorem liveWorkers_le (s : AppState) : s.liveWorkers ≤ s.committedWorkers := by
  refine Nat.add_le_add_right ?_ s.orphans.length
  induction s.tasks with
  | nil => exact le_refl _
  | cons task tasks ih =>
    have hphase : (if task.phase.isRunning = true then 1 else 0) ≤ task.phase.committed := by
      cases task.phase <;> first | exact le_refl _ | exact Nat.zero_le _
    rw [List.countP_cons, committedIn, List.map_cons, List.sum_cons, Nat.add_comm]
    exact Nat.add_le_add hphase ih

theorem committedIn_set {tasks : List WorkerTask} {i : ℕ} {task : WorkerTask} (task' : WorkerTask)
    (h : tasks[i]? = some task) :
    committedIn (tasks.set i task') + task.phase.committed =
      committedIn tasks + task'.phase.committed := by
  induction tasks generalizing i with
  | nil => simp at h
  | cons t tasks ih =>
    cases i with
    | zero =>
      cases h
      simp only [List.set_cons_zero, committedIn, List.map_cons, List.sum_cons]
      omega
    | succ i =>
      have htail := ih (i := i) (by simpa using h)
      simp only [List.set_cons_succ, committedIn, List.map_cons, List.sum_cons] at htail ⊢
      omega

theorem committedIn_append (tasks more : List WorkerTask) :
    committedIn (tasks ++ more) = committedIn tasks + committedIn more := by
  simp [committedIn]

theorem committedIn_spawnTasks (observed : Observed) (due : List ProviderSlot) :
    committedIn (spawnTasks observed due) = due.length := by
  induction due with
  | nil => rfl
  | cons slot due ih =>
    simp only [committedIn, spawnTasks, List.map_cons, List.sum_cons, List.length_cons] at ih ⊢
    rw [ih, TaskPhase.committed, Nat.add_comm]

/-! One step -/

/-- The condition at a claim that takes a slot: the workers alive or about to start are all
visible in the larger of the two counts the claim reads. -/
def ClaimSeesWorkers (s : AppState) (e : Event) : Prop :=
  s.claims e ≠ [] →
    s.committedWorkers ≤ max (occupiedSlots s.cache.runtimeProviders) (activeCount s.flights)

instance (s : AppState) (e : Event) : Decidable (ClaimSeesWorkers s e) :=
  inferInstanceAs (Decidable (_ → _))

/-- A claim that sees every worker leaves room for exactly what it takes. -/
theorem claim_within_capacity {s : AppState} {now : ℕ}
    (hsees : s.due now ≠ [] → s.committedWorkers ≤
      max (occupiedSlots s.cache.runtimeProviders) (activeCount s.flights))
    (hinv : s.committedWorkers ≤ maxConcurrentProviderSlots) :
    s.committedWorkers + (s.due now).length ≤ maxConcurrentProviderSlots := by
  by_cases hdue : s.due now = []
  · rw [hdue]
    exact hinv
  · have hlen : (s.due now).length ≤ maxConcurrentProviderSlots -
        max (occupiedSlots s.cache.runtimeProviders) (activeCount s.flights) := length_dueSlots ..
    have hpos : 0 < (s.due now).length := List.length_pos_iff.2 hdue
    have hcap := hsees hdue
    omega

section

variable {s : AppState} {i : ℕ} {task : WorkerTask}

/-- A task that moves on commits no more workers than before. -/
theorem committedWorkers_setPhase (phase : TaskPhase) (htask : s.tasks[i]? = some task)
    (hphase : phase.committed ≤ task.phase.committed) :
    (s.setPhase i task phase).committedWorkers ≤ s.committedWorkers := by
  have hset := committedIn_set { task with phase := phase } htask
  dsimp only at hset
  simp only [AppState.committedWorkers, AppState.setPhase]
  omega

theorem committedWorkers_start (htask : s.tasks[i]? = some task) (hphase : task.phase = .waiting) :
    (startStep s i task).committedWorkers ≤ s.committedWorkers := by
  have hone : task.phase.committed = 1 := by
    rw [hphase]
    rfl
  unfold startStep
  split_ifs
  · exact committedWorkers_setPhase (.ready .inFlight s.clock) htask (Nat.zero_le _)
  · exact committedWorkers_setPhase (.running s.clock) htask hone.ge

/-- The worker of a task that gives up is an orphan from then on. -/
theorem committedWorkers_timeout {startedAt : ℕ} (htask : s.tasks[i]? = some task)
    (hphase : task.phase = .running startedAt) :
    (timeoutStep s i task).committedWorkers = s.committedWorkers := by
  have hset := committedIn_set { task with phase := .ready .timedOut s.clock } htask
  rw [hphase] at hset
  simp only [TaskPhase.committed] at hset
  simp only [AppState.committedWorkers, timeoutStep, AppState.setPhase, List.length_cons]
  omega

theorem committed_appliedPhase (accepted : Bool) (cache : DaemonCache) (appliedAt : ℕ) :
    (appliedPhase accepted cache appliedAt).committed = 0 := by
  unfold appliedPhase
  split_ifs <;> rfl

end

theorem committedWorkers_step {processBoot : BootToken} {s s' : AppState} {e : Event}
    (hsees : ClaimSeesWorkers s e) (h : step processBoot s e = some s')
    (hinv : s.committedWorkers ≤ maxConcurrentProviderSlots) :
    s'.committedWorkers ≤ maxConcurrentProviderSlots := by
  cases e with
  | publish read now boots publication =>
    obtain ⟨-, rfl⟩ := step_publish h
    exact hinv
  | refreshClaim now wall =>
    obtain ⟨observed, publishedAt, -, -, -, rfl⟩ := step_refreshClaim h
    have hroom := claim_within_capacity hsees hinv
    simp only [AppState.committedWorkers, refreshClaimStep, committedIn_append,
      committedIn_spawnTasks] at hroom ⊢
    omega
  | start i =>
    obtain ⟨task, htask, hphase, rfl⟩ := step_start h
    exact le_trans (committedWorkers_start htask hphase) hinv
  | finish i result =>
    obtain ⟨task, startedAt, htask, hphase, rfl⟩ := step_finish h
    exact le_trans (committedWorkers_setPhase
      (.ready (providerCollectionOutcome task.slot result) s.clock) htask
      (Nat.zero_le _)) hinv
  | timeout i =>
    obtain ⟨task, startedAt, htask, hphase, rfl⟩ := step_timeout h
    rw [committedWorkers_timeout htask hphase]
    exact hinv
  | unwind slot =>
    obtain ⟨-, rfl⟩ := step_unwind h
    have hfewer : (s.orphans.erase slot).length ≤ s.orphans.length := List.length_erase_le
    exact le_trans (Nat.add_le_add_left hfewer _) hinv
  | apply i completedAt completedMs =>
    obtain ⟨task, outcome, readyAt, htask, hphase, -, -, rfl⟩ := step_apply h
    refine le_trans (committedWorkers_setPhase _ htask ?_) hinv
    rw [committed_appliedPhase]
    exact Nat.zero_le _
  | followUpClaim i now wall =>
    obtain ⟨task, snapshot, appliedAt, htask, hphase, -, -, rfl⟩ := step_followUpClaim h
    have hroom := claim_within_capacity hsees hinv
    have hset := committedIn_set { task with phase := .spawning snapshot (s.due now) }
      htask
    simp only [hphase, TaskPhase.committed] at hset
    simp only [AppState.committedWorkers, followUpClaimStep, AppState.setPhase] at hroom ⊢
    omega
  | followUpSpawn i =>
    obtain ⟨task, snapshot, due, htask, hphase, rfl⟩ := step_followUpSpawn h
    have hset := committedIn_set { task with phase := .done } htask
    simp only [hphase, TaskPhase.committed] at hset
    simp only [AppState.committedWorkers, followUpSpawnStep, committedIn_append,
      committedIn_spawnTasks] at hinv ⊢
    omega
  | tick elapsed =>
    obtain rfl := step_tick h
    exact hinv

/-! Whole runs -/

/-- Never more blocking workers than slots the policy admits, in every run whose claims see
every worker that is alive or about to start. -/
theorem guards_within_bound {processBoot : BootToken} {boots : CacheBoots} {now : ℕ}
    {es : List Event} {s : AppState}
    (h : Steps (step processBoot) ClaimSeesWorkers (AppState.new processBoot boots now) es s) :
    s.liveWorkers ≤ maxConcurrentProviderSlots := by
  have hinit : (AppState.new processBoot boots now).committedWorkers = 0 := rfl
  have hinv := h.invariant (I := fun s => s.committedWorkers ≤ maxConcurrentProviderSlots)
    (fun _ _ _ hsees hstep hs => committedWorkers_step hsees hstep hs)
    (by rw [hinit]; exact Nat.zero_le _)
  exact le_trans (liveWorkers_le s) hinv

/-! Sample inputs -/

def sampleBoot : BootToken := ⟨"0123456789abcdef0123456789abcdef", by decide⟩

def sampleBoots : CacheBoots := ⟨sampleBoot, sampleBoot, sampleBoot⟩

def samplePublicationBoots : PublicationBoots := ⟨sampleBoot, sampleBoot⟩

/-- A Docker read of an empty engine at the given time. -/
def publishEmpty (now : ℕ) : Event :=
  .publish (.observed { lastUpdated := now } none) now sampleBoots samplePublicationBoots

theorem twoWorkers_alive :
    (run (step sampleBoot) ClaimSeesWorkers (AppState.new sampleBoot sampleBoots 0)
      [publishEmpty 0, .refreshClaim 0 fun _ => some 0, .start 0, .start 1]).map
        (fun s => s.liveWorkers) = some 2 := by
  decide

theorem guards_within_bound_two :
    ∃ es s, Steps (step sampleBoot) ClaimSeesWorkers (AppState.new sampleBoot sampleBoots 0) es s ∧
      s.liveWorkers = 2 ∧ s.liveWorkers ≤ maxConcurrentProviderSlots := by
  obtain ⟨s, hrun, htwo⟩ := Option.map_eq_some_iff.1 twoWorkers_alive
  have hsteps := Steps.of_run hrun
  exact ⟨_, s, hsteps, htwo, guards_within_bound hsteps⟩

/-- Two workers time out and one of them unwinds; a claimed worker that has not started is
hidden behind the other one's guard. -/
def threeWorkersRun : List Event :=
  let second := durationFromSecs 1
  [publishEmpty 0, .refreshClaim 0 fun _ => some 0, .start 0, .start 1, .tick (15 * second),
    .timeout 0, .timeout 1, .apply 0 (15 * second) (some 15000),
    .followUpClaim 0 (15 * second) fun _ => some 15000, .followUpSpawn 0,
    .apply 1 (15 * second) (some 15000), .followUpClaim 1 (15 * second) fun _ => some 15000,
    .followUpSpawn 1, .unwind .networkInfrastructure, publishEmpty 15000,
    .refreshClaim (15 * second) fun _ => some 15000, .tick (2 * second), publishEmpty 17000,
    .refreshClaim (17 * second) fun _ => some 17000, .start 2, .start 3]

theorem threeWorkers_alive :
    (run (step sampleBoot) anyStep (AppState.new sampleBoot sampleBoots 0) threeWorkersRun).map
      (fun s => s.liveWorkers) = some 3 := by
  decide

/-- Over all interleavings the number of blocking workers is not bounded by the policy's limit. -/
theorem guards_exceed_bound :
    ¬ ∀ (processBoot : BootToken) (boots : CacheBoots) (now : ℕ) (es : List Event) (s : AppState),
      Steps (step processBoot) anyStep (AppState.new processBoot boots now) es s →
        s.liveWorkers ≤ maxConcurrentProviderSlots := by
  intro hbound
  obtain ⟨s, hrun, hthree⟩ := Option.map_eq_some_iff.1 threeWorkers_alive
  have htwo := hbound sampleBoot sampleBoots 0 threeWorkersRun s (Steps.of_run hrun)
  rw [hthree] at htwo
  exact absurd htwo (by decide)

end DockerMap
