import DockerMap.Proofs.DataRevisions
import DockerMap.Proofs.Workers

/-! Provider results and source transitions. The generation of a worker is read after its slot
was claimed, so the source may be replaced and restored in between; what keeps a collection in
the generation of its claim is that the workers are spawned in that generation. -/

namespace DockerMap

open Runs

/-! Where collections come from -/

/-- The generations of the claims behind the tasks and the retained collections of a state. -/
structure Provenance where
  /-- Of the claim a task was spawned for. -/
  claimedIn : ℕ → ℕ
  /-- Of the claim a task has yet to spawn workers for. -/
  pendingIn : ℕ → ℕ
  /-- Of the claim whose worker collected what the slot retains. -/
  producedIn : ProviderSlot → ℕ

structure Traced where
  state : AppState
  provenance : Provenance

namespace Provenance

def new : Provenance := ⟨fun _ => 0, fun _ => 0, fun _ => 0⟩

/-- The tasks a step adds were claimed in the generation. -/
def spawn (p : Provenance) (s : AppState) (generation : ℕ) : Provenance :=
  { p with claimedIn := fun i => if i < s.tasks.length then p.claimedIn i else generation }

/-- An applied collection comes from the claim of its task. -/
def collect (p : Provenance) (i : ℕ) : Option Application → Provenance
  | some ⟨slot, .collected _, _⟩ =>
      { p with producedIn := Function.update p.producedIn slot (p.claimedIn i) }
  | _ => p

def next (p : Provenance) (s : AppState) (e : Event) : Provenance :=
  match e with
  | .refreshClaim _ _ => p.spawn s s.cache.sourceGeneration
  | .followUpClaim i _ _ =>
      { p with pendingIn := Function.update p.pendingIn i s.cache.sourceGeneration }
  | .followUpSpawn i => p.spawn s (p.pendingIn i)
  | .apply i _ _ => p.collect i (s.application e)
  | _ => p

end Provenance

namespace Traced

def new (processBoot : BootToken) (boots : CacheBoots) (now : ℕ) : Traced :=
  ⟨AppState.new processBoot boots now, .new⟩

def step (processBoot : BootToken) (t : Traced) (e : Event) : Option Traced :=
  (DockerMap.step processBoot t.state e).map fun s' => ⟨s', t.provenance.next t.state e⟩

theorem step_eq_some {processBoot : BootToken} {t t' : Traced} {e : Event} :
    step processBoot t e = some t' ↔ DockerMap.step processBoot t.state e = some t'.state ∧
      t'.provenance = t.provenance.next t.state e := by
  rw [step, Option.map_eq_some_iff]
  constructor
  · rintro ⟨s', hs', rfl⟩
    exact ⟨hs', rfl⟩
  · rintro ⟨hs', hp⟩
    refine ⟨t'.state, hs', ?_⟩
    rw [← hp]

/-- Every run can be traced. -/
theorem exists_traced {processBoot : BootToken} {t : Traced} {es : List Event} {s' : AppState}
    (h : Steps (DockerMap.step processBoot) anyStep t.state es s') :
    ∃ p, Steps (step processBoot) anyStep t es ⟨s', p⟩ := by
  induction h with
  | nil => exact ⟨t.provenance, .nil⟩
  | snoc _ _ hstep ih =>
    obtain ⟨p, hp⟩ := ih
    exact ⟨_, hp.snoc trivial (step_eq_some.2 ⟨hstep, rfl⟩)⟩

end Traced

/-- What a slot retains was collected by a worker that was claimed in the current source. -/
def RetainsCurrent (t : Traced) : Prop :=
  ∀ slot, (retainedCollection (t.state.cache.runtimeProviders slot).observation).isSome →
    t.provenance.producedIn slot = t.state.cache.sourceGeneration

/-- An outcome from another source leaves the cache as it is. -/
def DropsLate (processBoot : BootToken) (s : AppState) : Prop :=
  ∀ i completedAt completedMs task s', s.tasks[i]? = some task →
    (task.observed.mode ≠ s.cache.mode ∨ task.observed.generation ≠ s.cache.sourceGeneration) →
      step processBoot s (.apply i completedAt completedMs) = some s' → s'.cache = s.cache

/-- The task whose claimed slots get their workers at the event. -/
def Event.spawns : Event → Option ℕ
  | .followUpSpawn i => some i
  | _ => none

/-- The workers of a follow-up claim are spawned in the generation of the claim, or in a mock
source. -/
def SpawnsInClaim (t : Traced) (e : Event) : Prop :=
  ∀ i ∈ e.spawns, t.provenance.pendingIn i = t.state.cache.sourceGeneration ∨
    t.state.cache.mode = .mock

instance (t : Traced) (e : Event) : Decidable (SpawnsInClaim t e) :=
  inferInstanceAs (Decidable (∀ i ∈ e.spawns, _ ∨ _))

/-! What a step does to the tasks, by position -/

section

variable {processBoot : BootToken} {s s' : AppState} {e : Event}

/-- What the task at a position observed. -/
inductive ObservedOrigin (s : AppState) (e : Event) (j : ℕ) : Observed → Prop
  | kept {task : WorkerTask} : s.tasks[j]? = some task → ObservedOrigin s e j task.observed
  | refreshed {observed : Observed} {publishedAt now : ℕ} {wall : ProviderSlot → Option ℕ} :
      s.refresh = .claiming observed publishedAt → e = .refreshClaim now wall →
        s.tasks.length ≤ j → ObservedOrigin s e j observed
  | followed {i : ℕ} {snapshot : DockerSnapshot} : e = .followUpSpawn i →
      s.tasks.length ≤ j →
        ObservedOrigin s e j ⟨snapshot, .docker, s.cache.sourceGeneration⟩

theorem ObservedOrigin.of_set {i j : ℕ} {task moved : WorkerTask} {phase : TaskPhase}
    (htask : s.tasks[i]? = some task)
    (h : (s.tasks.set i { task with phase := phase })[j]? = some moved) :
    ObservedOrigin s e j moved.observed := by
  rw [List.getElem?_set] at h
  split_ifs at h with hij hlt
  · cases h
    have hkept : ObservedOrigin s e j task.observed := .kept (hij ▸ htask)
    exact hkept
  · exact .kept h

theorem ObservedOrigin.of_append {tasks : List WorkerTask} {observed : Observed}
    {due : List ProviderSlot} {j : ℕ} {moved : WorkerTask} (hlength : tasks.length = s.tasks.length)
    (hold : tasks[j]? = some moved → ObservedOrigin s e j moved.observed)
    (hnew : s.tasks.length ≤ j → ObservedOrigin s e j observed)
    (h : (tasks ++ spawnTasks observed due)[j]? = some moved) :
    ObservedOrigin s e j moved.observed := by
  by_cases hj : j < tasks.length
  · rw [List.getElem?_append_left hj] at h
    exact hold h
  · rw [List.getElem?_append_right (not_lt.1 hj)] at h
    obtain ⟨slot, -, rfl⟩ := mem_spawnTasks.1 (List.mem_of_getElem? h)
    exact hnew (hlength ▸ not_lt.1 hj)

theorem step_observed (h : step processBoot s e = some s') {j : ℕ} {moved : WorkerTask}
    (hmoved : s'.tasks[j]? = some moved) : ObservedOrigin s e j moved.observed := by
  cases e with
  | publish read now boots publication =>
    obtain ⟨-, rfl⟩ := step_publish h
    exact .kept hmoved
  | refreshClaim now wall =>
    obtain ⟨observed, publishedAt, hclaiming, -, -, rfl⟩ := step_refreshClaim h
    exact .of_append rfl .kept (fun hj => .refreshed hclaiming rfl hj) hmoved
  | start i =>
    obtain ⟨task, htask, -, rfl⟩ := step_start h
    unfold startStep at hmoved
    split_ifs at hmoved
    · exact .of_set htask hmoved
    · exact .of_set htask hmoved
  | finish i result =>
    obtain ⟨task, startedAt, htask, -, rfl⟩ := step_finish h
    exact .of_set htask hmoved
  | timeout i =>
    obtain ⟨task, startedAt, htask, -, rfl⟩ := step_timeout h
    exact .of_set htask hmoved
  | unwind slot =>
    obtain ⟨-, rfl⟩ := step_unwind h
    exact .kept hmoved
  | apply i completedAt completedMs =>
    obtain ⟨task, outcome, readyAt, htask, -, -, -, rfl⟩ := step_apply h
    exact .of_set htask hmoved
  | followUpClaim i now wall =>
    obtain ⟨task, snapshot, appliedAt, htask, -, -, -, rfl⟩ := step_followUpClaim h
    exact .of_set htask hmoved
  | followUpSpawn i =>
    obtain ⟨task, snapshot, due, htask, -, rfl⟩ := step_followUpSpawn h
    exact .of_append List.length_set (fun hold => .of_set htask hold)
      (fun hj => .followed rfl hj) hmoved
  | tick elapsed =>
    obtain rfl := step_tick h
    exact .kept hmoved

end

/-! The invariant -/

structure TracesClaims (t : Traced) : Prop where
  /-- No task observed a generation to come. -/
  observed : ∀ task ∈ t.state.tasks, task.observed.generation ≤ t.state.cache.sourceGeneration
  /-- A task that the cache would accept was claimed in its generation. -/
  claimed : ∀ i task, t.state.tasks[i]? = some task → t.state.cache.accepts task.observed = true →
    t.provenance.claimedIn i = t.state.cache.sourceGeneration
  /-- The refresh loop claims in the generation it published. -/
  refresh : ∀ observed publishedAt, t.state.refresh = .claiming observed publishedAt →
    observed.generation = t.state.cache.sourceGeneration
  retained : RetainsCurrent t

theorem tracesClaims_new (processBoot : BootToken) (boots : CacheBoots) (now : ℕ) :
    TracesClaims (.new processBoot boots now) where
  observed _ h := by cases h
  claimed _ _ h := by cases h
  refresh _ _ h := by cases h
  retained _ _ := rfl

section

variable {processBoot : BootToken} {t t' : Traced} {e : Event}

/-- A trace counts a task as claimed in the current source whenever the cache would accept it
and the step added it. -/
theorem claimedIn_next (hok : SpawnsInClaim t e) {j : ℕ} (hj : t.state.tasks.length ≤ j)
    {observed : Observed} (horigin : ObservedOrigin t.state e j observed)
    (hmode : observed.mode = t.state.cache.mode) :
    (t.provenance.next t.state e).claimedIn j = t.state.cache.sourceGeneration := by
  cases horigin with
  | kept htask =>
    have hlt := (List.getElem?_eq_some_iff.1 htask).1
    omega
  | refreshed _ he _ =>
    subst he
    exact if_neg (not_lt.2 hj)
  | @followed i snapshot he _ =>
    subst he
    have hspawn : (t.provenance.next t.state (.followUpSpawn i)).claimedIn j =
        t.provenance.pendingIn i := if_neg (not_lt.2 hj)
    rw [hspawn]
    refine (hok i rfl).resolve_right fun hmock => ?_
    rw [hmock] at hmode
    cases hmode

/-- Old tasks keep the generation of their claim. -/
theorem claimedIn_next_of_lt {j : ℕ} (hj : j < t.state.tasks.length) :
    (t.provenance.next t.state e).claimedIn j = t.provenance.claimedIn j := by
  cases e with
  | refreshClaim now wall => exact if_pos hj
  | followUpSpawn i => exact if_pos hj
  | apply i completedAt completedMs =>
    simp only [Provenance.next]
    unfold Provenance.collect
    split <;> rfl
  | publish read now boots publication => rfl
  | start i => rfl
  | finish i result => rfl
  | timeout i => rfl
  | unwind slot => rfl
  | followUpClaim i now wall => rfl
  | tick elapsed => rfl

/-- The task behind an application, at the event's position. -/
theorem task_of_application {a : Application} (h : t.state.application e = some a) :
    ∃ i completedAt completedMs task, e = .apply i completedAt completedMs ∧
      t.state.tasks[i]? = some task ∧ t.state.cache.accepts task.observed = true := by
  cases e with
  | apply i completedAt completedMs =>
    rw [AppState.application] at h
    split at h
    · rename_i slot observed outcome readyAt htask
      split_ifs at h with haccepts
      exact ⟨i, completedAt, completedMs, _, rfl, htask, haccepts⟩
    · cases h
  | publish read now boots publication => cases h
  | refreshClaim now wall => cases h
  | start i => cases h
  | finish i result => cases h
  | timeout i => cases h
  | unwind slot => cases h
  | followUpClaim i now wall => cases h
  | followUpSpawn i => cases h
  | tick elapsed => cases h

/-- A step leaves what produced a slot's collection, or sets it to the current source. -/
theorem producedIn_next (hinv : TracesClaims t) (slot : ProviderSlot) :
    (t.provenance.next t.state e).producedIn slot = t.provenance.producedIn slot ∨
      (t.provenance.next t.state e).producedIn slot = t.state.cache.sourceGeneration := by
  cases happ : t.state.application e with
  | none =>
    left
    cases e with
    | apply i completedAt completedMs => rw [Provenance.next, happ]; rfl
    | publish read now boots publication => rfl
    | refreshClaim now wall => rfl
    | start i => rfl
    | finish i result => rfl
    | timeout i => rfl
    | unwind slot => rfl
    | followUpClaim i now wall => rfl
    | followUpSpawn i => rfl
    | tick elapsed => rfl
  | some a =>
    obtain ⟨i, completedAt, completedMs, task, rfl, htask, haccepts⟩ := task_of_application happ
    obtain ⟨applied, outcome, appliedAt⟩ := a
    rw [Provenance.next, happ]
    cases outcome with
    | collected collection =>
      by_cases hslot : slot = applied
      · subst hslot
        right
        have hupdate : (t.provenance.collect i (some ⟨slot, .collected collection,
            appliedAt⟩)).producedIn slot = t.provenance.claimedIn i := Function.update_self ..
        rw [hupdate]
        exact hinv.claimed i task htask haccepts
      · left
        exact Function.update_of_ne hslot ..
    | inFlight => exact Or.inl rfl
    | failed => exact Or.inl rfl
    | timedOut => exact Or.inl rfl

/-- A collection that is applied was claimed in the current source. -/
theorem producedIn_collected (hinv : TracesClaims t) {a : Application}
    {collection : ProviderCollection} (happ : t.state.application e = some a)
    (houtcome : a.outcome = .collected collection) :
    (t.provenance.next t.state e).producedIn a.slot = t.state.cache.sourceGeneration := by
  obtain ⟨i, completedAt, completedMs, task, rfl, htask, haccepts⟩ := task_of_application happ
  obtain ⟨slot, outcome, appliedAt⟩ := a
  cases houtcome
  rw [Provenance.next, happ]
  have hupdate : (t.provenance.collect i (some ⟨slot, .collected collection,
      appliedAt⟩)).producedIn slot = t.provenance.claimedIn i := Function.update_self ..
  exact hupdate.trans (hinv.claimed i task htask haccepts)

/-- Only a collection gives a slot something else to retain. -/
theorem isSome_retained_of_slotStep {slot : ProviderSlot} {next : SlotRuntimeState}
    (h : SlotStep processBoot t.state e slot next)
    (hsome : (retainedCollection next.observation).isSome) :
    (retainedCollection (t.state.cache.runtimeProviders slot).observation).isSome ∨
      ∃ a collection, t.state.application e = some a ∧ a.slot = slot ∧
        a.outcome = .collected collection := by
  cases h with
  | kept => exact Or.inl hsome
  | staled hfresh =>
    rw [hfresh]
    exact Or.inl rfl
  | claimed _ => exact Or.inl hsome
  | @applied a sameEvidence happ hslot =>
    cases houtcome : a.outcome with
    | collected collection => exact Or.inr ⟨a, collection, happ, hslot, houtcome⟩
    | inFlight =>
      rw [houtcome] at hsome
      exact Or.inl hsome
    | failed =>
      rw [houtcome] at hsome
      exact Or.inl hsome
    | timedOut =>
      rw [houtcome] at hsome
      exact Or.inl hsome

theorem accepts_iff {cache : DaemonCache} {observed : Observed} :
    cache.accepts observed = true ↔
      observed.mode = cache.mode ∧ observed.generation = cache.sourceGeneration := by
  rw [DaemonCache.accepts, Bool.and_eq_true, beq_iff_eq, beq_iff_eq, eq_comm,
    @eq_comm _ cache.sourceGeneration]

theorem ObservedOrigin.generation_le {j : ℕ} {observed : Observed}
    (h : ObservedOrigin t.state e j observed) (hinv : TracesClaims t) :
    observed.generation ≤ t.state.cache.sourceGeneration := by
  cases h with
  | kept hold => exact hinv.observed _ (List.mem_of_getElem? hold)
  | refreshed hclaiming _ _ => exact (hinv.refresh _ _ hclaiming).le
  | followed _ _ => exact le_refl _

theorem ObservedOrigin.kept_of_lt {j : ℕ} {observed : Observed}
    (h : ObservedOrigin t.state e j observed) (hj : j < t.state.tasks.length) :
    ∃ task, t.state.tasks[j]? = some task ∧ task.observed = observed := by
  cases h with
  | kept hold => exact ⟨_, hold, rfl⟩
  | refreshed _ _ hle => exact absurd hj (not_lt.2 hle)
  | followed _ hle => exact absurd hj (not_lt.2 hle)

theorem observed_next (h : step processBoot t.state e = some t'.state) (hinv : TracesClaims t) :
    ∀ task ∈ t'.state.tasks,
      task.observed.generation ≤ t'.state.cache.sourceGeneration := by
  intro task hmem
  obtain ⟨j, htask⟩ := List.getElem?_of_mem hmem
  exact ((step_observed h htask).generation_le hinv).trans (generation_le h)

theorem claimed_next (hok : SpawnsInClaim t e) (h : Traced.step processBoot t e = some t')
    (hinv : TracesClaims t) : ∀ i task, t'.state.tasks[i]? = some task →
      t'.state.cache.accepts task.observed = true →
        t'.provenance.claimedIn i = t'.state.cache.sourceGeneration := by
  intro j task htask haccepts
  obtain ⟨hstep, hp⟩ := Traced.step_eq_some.1 h
  have horigin := step_observed hstep htask
  obtain hsame | hflip := step_source hstep
  · rw [hp, hsame.generation]
    rw [accepts_iff, hsame.mode, hsame.generation] at haccepts
    by_cases hj : j < t.state.tasks.length
    · rw [claimedIn_next_of_lt hj]
      obtain ⟨old, hold, hobserved⟩ := horigin.kept_of_lt hj
      rw [← hobserved] at haccepts
      exact hinv.claimed j old hold (accepts_iff.2 haccepts)
    · exact claimedIn_next hok (not_lt.1 hj) horigin haccepts.1
  -- no task has observed the new generation
  · have hbound := horigin.generation_le hinv
    have hgeneration := (accepts_iff.1 haccepts).2
    rw [hflip.generation] at hgeneration
    omega

theorem refresh_next (h : step processBoot t.state e = some t'.state) (hinv : TracesClaims t) :
    ∀ observed publishedAt, t'.state.refresh = .claiming observed publishedAt →
      observed.generation = t'.state.cache.sourceGeneration := by
  intro observed publishedAt hclaiming
  obtain hidle | ⟨hkept, hread⟩ | ⟨at', -, hpublished⟩ := step_refresh h
  · rw [hidle] at hclaiming
    cases hclaiming
  · rw [hkept] at hclaiming
    obtain hsame | hflip := step_source h
    · rw [hsame.generation]
      exact hinv.refresh _ _ hclaiming
    · obtain ⟨read, now, boots, publication, rfl, -⟩ := hflip.publishes
      cases hread
  · rw [hpublished] at hclaiming
    cases hclaiming
    rfl

theorem retained_next (h : Traced.step processBoot t e = some t') (hinv : TracesClaims t) :
    RetainsCurrent t' := by
  intro slot hsome
  obtain ⟨hstep, hp⟩ := Traced.step_eq_some.1 h
  obtain hsame | hflip := step_source hstep
  · rw [hp, hsame.generation]
    obtain hold | ⟨a, collection, happ, rfl, houtcome⟩ :=
      isSome_retained_of_slotStep (hsame.slots slot) hsome
    · obtain hkept | hset := producedIn_next hinv slot
      · rw [hkept]
        exact hinv.retained slot hold
      · exact hset
    · exact producedIn_collected hinv happ houtcome
  · rw [hflip.slots] at hsome
    cases hsome

theorem tracesClaims_step (hok : SpawnsInClaim t e) (h : Traced.step processBoot t e = some t')
    (hinv : TracesClaims t) : TracesClaims t' where
  observed := observed_next (Traced.step_eq_some.1 h).1 hinv
  claimed := claimed_next hok h hinv
  refresh := refresh_next (Traced.step_eq_some.1 h).1 hinv
  retained := retained_next h hinv

end

theorem dropsLate (processBoot : BootToken) (s : AppState) : DropsLate processBoot s := by
  intro i completedAt completedMs task s' htask hlate h
  obtain ⟨task', outcome, readyAt, htask', -, -, -, rfl⟩ := step_apply h
  cases htask.symm.trans htask'
  have hrefused : s.cache.accepts task.observed = false := by
    rw [← Bool.not_eq_true, accepts_iff, not_and_or]
    exact hlate
  change applyProviderSlotOutcome processBoot s.cache task.slot task.observed outcome completedMs
    completedAt = s.cache
  rw [applyProviderSlotOutcome, hrefused, if_neg Bool.false_ne_true]

/-- In every run whose follow-up workers are spawned in the generation of their claim. -/
theorem late_results_never_cross {processBoot : BootToken} {boots : CacheBoots} {now : ℕ}
    {es : List Event} {t : Traced}
    (h : Steps (Traced.step processBoot) SpawnsInClaim (.new processBoot boots now) es t) :
    RetainsCurrent t ∧ DropsLate processBoot t.state := by
  have hinv := h.invariant (fun _ _ _ hok hstep hinv => tracesClaims_step hok hstep hinv)
    (tracesClaims_new processBoot boots now)
  exact ⟨hinv.retained, dropsLate processBoot t.state⟩

/-! Sample runs -/

def followedRun : List Event :=
  [publishEmpty 0, .refreshClaim 0 fun _ => some 0, .start 0, .finish 0 .failed,
    .apply 0 0 (some 0), .followUpClaim 0 0 fun _ => some 0, .followUpSpawn 0, .start 2,
    .finish 2 (.collected (readingOf "b")), .apply 2 0 (some 0)]

theorem followedRun_reached :
    (run (Traced.step sampleBoot) SpawnsInClaim (.new sampleBoot sampleBoots 0) followedRun).map
      (fun t => (retainedCollection
        (t.state.cache.runtimeProviders .tmux).observation).isSome) = some true := by
  decide +kernel

theorem late_results_never_cross_followed :
    ∃ t, Steps (Traced.step sampleBoot) SpawnsInClaim (.new sampleBoot sampleBoots 0)
        followedRun t ∧
      (retainedCollection (t.state.cache.runtimeProviders .tmux).observation).isSome = true ∧
      RetainsCurrent t ∧ DropsLate sampleBoot t.state := by
  obtain ⟨t, hrun, hsome⟩ := Option.map_eq_some_iff.1 followedRun_reached
  have hsteps := Steps.of_run hrun
  exact ⟨t, hsteps, hsome, late_results_never_cross hsteps⟩

/-- The source leaves Docker and comes back between a claim and the workers it is for. -/
def flippedRun : List Event :=
  [publishEmpty 0, .refreshClaim 0 fun _ => some 0, .start 0, .finish 0 .failed,
    .apply 0 0 (some 0), .followUpClaim 0 0 fun _ => some 0,
    .publish (.failed "timeout") 1000 sampleBoots samplePublicationBoots, publishEmpty 2000,
    .followUpSpawn 0, .start 2, .finish 2 (.collected (readingOf "b")), .apply 2 0 (some 0)]

theorem flippedRun_reached :
    (run (Traced.step sampleBoot) anyStep (.new sampleBoot sampleBoots 0) flippedRun).map
      (fun t => ((retainedCollection
        (t.state.cache.runtimeProviders .tmux).observation).isSome,
          t.provenance.producedIn .tmux, t.state.cache.sourceGeneration)) =
      some (true, 1, 3) := by
  decide

theorem result_crosses_transition :
    ¬ ∀ (processBoot : BootToken) (boots : CacheBoots) (now : ℕ) (es : List Event) (t : Traced),
      Steps (Traced.step processBoot) anyStep (.new processBoot boots now) es t →
        RetainsCurrent t ∧ DropsLate processBoot t.state := by
  intro h
  obtain ⟨t, hrun, hfields⟩ := Option.map_eq_some_iff.1 flippedRun_reached
  obtain ⟨hsome, hgenerations⟩ := Prod.mk.inj hfields
  obtain ⟨hproduced, hcurrent⟩ := Prod.mk.inj hgenerations
  have hretains := (h sampleBoot sampleBoots 0 flippedRun t (Steps.of_run hrun)).1 .tmux hsome
  rw [hproduced, hcurrent] at hretains
  exact absurd hretains (by decide)

end DockerMap
