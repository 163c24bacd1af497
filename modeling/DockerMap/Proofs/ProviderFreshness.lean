import DockerMap.Daemon.DaemonApi
import DockerMap.Proofs.Concurrency
import DockerMap.Proofs.SlotFreshness

/-! Producer and consumer agree on provider freshness. Every slot of a live source stays
coherent because a worker whose outcome the cache accepts was spawned for a slot that has
been attempted in the same source. -/

namespace DockerMap

open Runs

/-! The wall clock -/

/-- The wall-clock readings of an event in the order it makes them. -/
def Event.readings : Event → List (Option ℕ)
  | .refreshClaim _ wall | .followUpClaim _ _ wall => staticProviderSlots.map wall
  | .apply _ _ completedMs => [completedMs]
  | _ => []

def wallReadings (es : List Event) : List (Option ℕ) := es.flatMap Event.readings

/-- Readings never decrease and stay within the safe integers. -/
structure WallClock (es : List Event) : Prop where
  safe : ∀ reading ∈ wallReadings es, ∃ ms, reading = some ms ∧ ms ≤ Api.maxSafeInteger
  forward : (wallReadings es).Pairwise fun earlier later => earlier.getD 0 ≤ later.getD 0

theorem WallClock.snoc {es : List Event} {e : Event} (h : WallClock (es ++ [e])) :
    WallClock es ∧
      (∀ reading ∈ e.readings, ∃ ms, reading = some ms ∧ ms ≤ Api.maxSafeInteger) ∧
      ∀ earlier ∈ wallReadings es, ∀ later ∈ e.readings, earlier.getD 0 ≤ later.getD 0 := by
  obtain ⟨hsafe, hforward⟩ := h
  have happend : wallReadings (es ++ [e]) = wallReadings es ++ e.readings := by
    simp [wallReadings]
  rw [happend] at hsafe hforward
  obtain ⟨hleft, -, hcross⟩ := List.pairwise_append.1 hforward
  exact ⟨⟨fun r hr => hsafe r (List.mem_append_left _ hr), hleft⟩,
    fun r hr => hsafe r (List.mem_append_right _ hr), hcross⟩

/-! Workers and the slots they were spawned for -/

/-- The condition at a publication that changes the source: no task has claimed slots it has
not spawned workers for. -/
def FlipFindsNoClaim (s : AppState) (e : Event) : Prop :=
  e.readMode.isSome → e.readMode ≠ some s.cache.mode → ∀ task ∈ s.tasks, task.phase.claimed = []

instance (s : AppState) (e : Event) : Decidable (FlipFindsNoClaim s e) :=
  inferInstanceAs (Decidable (_ → _ → _))

def AppState.attempted (s : AppState) (slot : ProviderSlot) : Bool :=
  (s.cache.runtimeProviders slot).freshness.lastAttemptMs.isSome

/-- What the tasks and the slots of a reachable state say about each other. -/
structure SlotsCoherent (es : List Event) (s : AppState) : Prop where
  slots : ∀ slot, CoherentSlot slot (s.cache.runtimeProviders slot)
  read : ∀ slot ms, (s.cache.runtimeProviders slot).freshness.lastAttemptMs = some ms →
    some ms ∈ wallReadings es
  collects : ∀ task ∈ s.tasks, task.phase.CollectsFor task.slot
  refresh : ∀ observed publishedAt, s.refresh = .claiming observed publishedAt →
    observed.generation = s.cache.sourceGeneration
  generations : ∀ task ∈ s.tasks, task.observed.generation ≤ s.cache.sourceGeneration
  outstanding : ∀ task ∈ s.tasks, task.phase.isOutstanding = true →
    s.cache.accepts task.observed = true → s.attempted task.slot = true
  claimed : ∀ task ∈ s.tasks, ∀ slot ∈ task.phase.claimed, s.attempted slot = true

theorem slotsCoherent_new (processBoot : BootToken) (boots : CacheBoots) (now : ℕ) :
    SlotsCoherent [] (AppState.new processBoot boots now) where
  slots _ := Or.inl ⟨rfl, Or.inl rfl⟩
  read _ _ h := by cases h
  collects _ h := by cases h
  refresh _ _ h := by cases h
  generations _ h := by cases h
  outstanding _ h := by cases h
  claimed _ h := by cases h

theorem mem_readings_of_claims {s : AppState} {e : Event} {slot : ProviderSlot}
    (h : slot ∈ s.claims e) : e.reading slot ∈ e.readings := by
  cases e with
  | refreshClaim now wall => exact List.mem_map_of_mem (mem_staticProviderSlots slot)
  | followUpClaim i now wall => exact List.mem_map_of_mem (mem_staticProviderSlots slot)
  | publish read now boots publication => cases h
  | start i => cases h
  | finish i result => cases h
  | timeout i => cases h
  | unwind slot => cases h
  | apply i completedAt completedMs => cases h
  | followUpSpawn i => cases h
  | tick elapsed => cases h

theorem mem_readings_of_application {s : AppState} {e : Event} {a : Application}
    (h : s.application e = some a) (slot : ProviderSlot) : e.reading slot ∈ e.readings := by
  cases e with
  | apply i completedAt completedMs => exact List.mem_singleton_self _
  | publish read now boots publication => cases h
  | refreshClaim now wall => cases h
  | start i => cases h
  | finish i result => cases h
  | timeout i => cases h
  | unwind slot => cases h
  | followUpClaim i now wall => cases h
  | followUpSpawn i => cases h
  | tick elapsed => cases h

theorem attempted_of_coherent {slot : ProviderSlot} {state : SlotRuntimeState}
    (h : CoherentSlot slot state) (hattempt : state.freshness.lastAttemptMs.isSome) :
    ∃ attempt, Attempted slot state attempt := by
  rcases h with hnever | hattempted
  · rcases hnever.freshness with hfreshness | hfreshness
    · rw [hfreshness] at hattempt
      cases hattempt
    · rw [hfreshness] at hattempt
      cases hattempt
  · exact hattempted

/-! One step -/

section

variable {processBoot : BootToken} {es : List Event} {e : Event} {s s' : AppState}

theorem attempted_of_application {a : Application} (hinv : SlotsCoherent es s)
    (h : s.application e = some a) :
    ∃ attempt readyAt, Attempted a.slot (s.cache.runtimeProviders a.slot) attempt ∧
      some attempt ∈ wallReadings es ∧ (TaskPhase.ready a.outcome readyAt).CollectsFor a.slot := by
  obtain ⟨task, htask, readyAt, hphase, hslot, haccepts⟩ := mem_of_application h
  have hattempted := hinv.outstanding task htask (by rw [hphase]; rfl) haccepts
  have hcollects := hinv.collects task htask
  rw [hslot] at hattempted hcollects
  rw [hphase] at hcollects
  obtain ⟨attempt, hslots⟩ := attempted_of_coherent (hinv.slots a.slot) hattempted
  exact ⟨attempt, readyAt, hslots, hinv.read _ _ hslots.lastAttempt, hcollects⟩

/-- A slot after a step of the same source. -/
structure SlotAfter (es : List Event) (e : Event) (s : AppState) (slot : ProviderSlot)
    (state : SlotRuntimeState) : Prop where
  coherent : CoherentSlot slot state
  read : ∀ ms, state.freshness.lastAttemptMs = some ms → some ms ∈ wallReadings (es ++ [e])
  keeps : s.attempted slot = true → state.freshness.lastAttemptMs.isSome

theorem slotAfter_of_attempted {slot : ProviderSlot} {state : SlotRuntimeState} {attempt : ℕ}
    (h : Attempted slot state attempt) (hread : some attempt ∈ wallReadings es ++ e.readings) :
    SlotAfter es e s slot state where
  coherent := Or.inr ⟨attempt, h⟩
  read ms hms := by
    have hattempt := h.lastAttempt
    rw [hms] at hattempt
    cases hattempt
    simpa [wallReadings] using hread
  keeps _ := by rw [h.lastAttempt]; rfl

theorem slotAfter_step (hclock : WallClock (es ++ [e])) (hinv : SlotsCoherent es s)
    (hsame : SameSource processBoot s e s') (slot : ProviderSlot) :
    SlotAfter es e s slot (s'.cache.runtimeProviders slot) := by
  obtain ⟨-, hsafe, hforward⟩ := hclock.snoc
  have hslot := hsame.slots slot
  have hbefore := hinv.slots slot
  generalize s'.cache.runtimeProviders slot = new at hslot ⊢
  cases hslot with
  | kept =>
    refine ⟨hbefore, fun ms hms => ?_, fun hattempted => hattempted⟩
    have hread := hinv.read slot ms hms
    simp only [wallReadings, List.flatMap_append] at hread ⊢
    exact List.mem_append_left _ hread
  | staled hfresh =>
    obtain ⟨attempt, hattempted⟩ := hbefore.resolve_left fun hnever => by
      rw [hnever.observation] at hfresh
      cases hfresh
    exact slotAfter_of_attempted (attempted_staled hfresh hattempted)
      (List.mem_append_left _ (hinv.read slot attempt hattempted.lastAttempt))
  | claimed hclaims =>
    have hmem := mem_readings_of_claims hclaims
    obtain ⟨ms, hms, hbound⟩ := hsafe _ hmem
    rw [hms] at hmem ⊢
    exact slotAfter_of_attempted (attempted_claimSlot hbound hbefore)
      (List.mem_append_right _ hmem)
  | @applied a sameEvidence happ hslot =>
    subst hslot
    obtain ⟨attempt, readyAt, hattempted, hread, hcollects⟩ := attempted_of_application hinv happ
    have hmem := mem_readings_of_application happ a.slot
    obtain ⟨ms, hms, hbound⟩ := hsafe _ hmem
    have hle := hforward _ hread _ hmem
    rw [hms] at hle ⊢
    exact slotAfter_of_attempted
      (attempted_applyOutcome sameEvidence hcollects hle hbound hattempted)
      (List.mem_append_left _ hread)

/-- Tasks move on, and new ones observe the source that was found. -/
theorem slotsCoherent_same (hclock : WallClock (es ++ [e])) (h : step processBoot s e = some s')
    (hsame : SameSource processBoot s e s') (hinv : SlotsCoherent es s) :
    SlotsCoherent (es ++ [e]) s' := by
  have hafter := slotAfter_step hclock hinv hsame
  have hkeeps (slot : ProviderSlot) (hattempted : s.attempted slot = true) :
      s'.attempted slot = true := (hafter slot).keeps hattempted
  have hclaims (slot : ProviderSlot) (hmem : slot ∈ s.claims e) : s'.attempted slot = true := by
    obtain ⟨ms, hms, -⟩ := hclock.snoc.2.1 _ (mem_readings_of_claims hmem)
    rw [AppState.attempted, (claimSlot_of_claims h hmem).1, hms]
    rfl
  have haccepts (observed : Observed) : s'.cache.accepts observed = s.cache.accepts observed := by
    simp only [DaemonCache.accepts, hsame.mode, hsame.generation]
  refine ⟨fun slot => (hafter slot).coherent, fun slot => (hafter slot).read,
    collectsFor_of_tasks h hinv.collects, ?_, ?_, ?_, ?_⟩
  · intro observed publishedAt hclaiming
    rcases step_refresh h with hidle | ⟨hrefresh, -⟩ | ⟨at_, -, hrefresh⟩
    · rw [hidle] at hclaiming
      cases hclaiming
    · rw [hsame.generation]
      exact hinv.refresh observed publishedAt (hrefresh ▸ hclaiming)
    · rw [hrefresh] at hclaiming
      cases hclaiming
      rfl
  · intro moved hmoved
    rw [hsame.generation]
    cases step_tasks h moved hmoved with
    | @moved task phase hmem hphase => exact hinv.generations task hmem
    | refreshed hclaiming hslot => exact le_of_eq (hinv.refresh _ _ hclaiming)
    | followed hmem hslot => exact le_refl _
  · intro moved hmoved houtstanding hmovedAccepts
    rw [haccepts] at hmovedAccepts
    cases step_tasks h moved hmoved with
    | @moved task phase hmem hphase =>
      apply hkeeps
      cases hphase with
      | kept => exact hinv.outstanding task hmem houtstanding hmovedAccepts
      | collecting hbefore _ _ => exact hinv.outstanding task hmem hbefore hmovedAccepts
      | applied hready => simp at houtstanding
      | claimed hfollow => cases houtstanding
      | spawned hspawning => cases houtstanding
    | refreshed hclaiming hslot => exact hclaims _ hslot
    | followed hmem hslot => exact hkeeps _ (hinv.claimed _ hmem _ hslot)
  · intro moved hmoved slot hslot
    cases step_tasks h moved hmoved with
    | @moved task phase hmem hphase =>
      cases hphase with
      | kept => exact hkeeps _ (hinv.claimed task hmem slot hslot)
      | collecting _ hnext _ =>
        rw [claimed_of_isOutstanding hnext] at hslot
        cases hslot
      | applied hready => simp at hslot
      | claimed hfollow => exact hclaims slot hslot
      | spawned hspawning => cases hslot
    | refreshed _ _ => cases hslot
    | followed _ _ => cases hslot

/-- A new source starts with unattempted slots, and no worker it accepts exists yet. -/
theorem slotsCoherent_flip (hok : FlipFindsNoClaim s e) (h : step processBoot s e = some s')
    (hflip : SourceFlip s e s') (hinv : SlotsCoherent es s) : SlotsCoherent (es ++ [e]) s' := by
  have hread := hflip.readMode
  have hclaimed := hok (by rw [hread]; rfl) fun hsame => by
    rw [hread] at hsame
    exact hflip.mode (Option.some.inj hsame)
  have htasks : s'.tasks = s.tasks := by
    obtain ⟨read, now, boots, publication, rfl, -⟩ := hflip.publishes
    obtain ⟨-, rfl⟩ := step_publish h
    rfl
  refine ⟨fun slot => ?_, fun slot ms hms => ?_, ?_, ?_, ?_, ?_, ?_⟩
  · rw [hflip.slots]
    exact Or.inl ⟨rfl, Or.inr rfl⟩
  · rw [hflip.slots] at hms
    cases hms
  · rw [htasks]
    exact hinv.collects
  · intro observed publishedAt hclaiming
    rcases step_refresh h with hidle | ⟨-, hnone⟩ | ⟨at_, -, hrefresh⟩
    · rw [hidle] at hclaiming
      cases hclaiming
    · rw [hread] at hnone
      cases hnone
    · rw [hrefresh] at hclaiming
      cases hclaiming
      rfl
  · intro task htask
    rw [htasks] at htask
    rw [hflip.generation]
    exact (hinv.generations task htask).trans (Nat.le_succ _)
  · intro task htask _ haccepts
    rw [htasks] at htask
    have hle := hinv.generations task htask
    simp only [DaemonCache.accepts, Bool.and_eq_true, beq_iff_eq, hflip.generation] at haccepts
    omega
  · intro task htask slot hslot
    rw [htasks] at htask
    rw [hclaimed task htask] at hslot
    cases hslot

/-! Whole runs -/

theorem slotsCoherent {boots : CacheBoots} {now : ℕ}
    (h : Steps (step processBoot) FlipFindsNoClaim (AppState.new processBoot boots now) es s)
    (hclock : WallClock es) : SlotsCoherent es s := by
  induction h with
  | nil => exact slotsCoherent_new processBoot boots now
  | snoc hrun hok hstep ih =>
    have hinv := ih hclock.snoc.1
    rcases step_source hstep with hsame | hflip
    · exact slotsCoherent_same hclock hstep hsame hinv
    · exact slotsCoherent_flip hok hstep hflip hinv

/-- The published vector is always the projection of the slots. -/
theorem providerStates_step (h : step processBoot s e = some s')
    (hinv : s.cache.runtimeMap.providerStates = providerStatesFor s.cache.runtimeProviders) :
    s'.cache.runtimeMap.providerStates = providerStatesFor s'.cache.runtimeProviders := by
  have hclaim (now : ℕ) (wall : ProviderSlot → Option ℕ) :
      (s.claimDue now wall).runtimeMap.providerStates =
        providerStatesFor (s.claimDue now wall).runtimeProviders := by
    simp only [AppState.claimDue, claimDueProviderSlots]
    split_ifs
    · exact hinv
    · simp
  cases e with
  | publish read now boots publication =>
    obtain ⟨-, rfl⟩ := step_publish h
    simp [publishStep, publishDockerSnapshotCache]
  | refreshClaim now wall =>
    obtain ⟨observed, publishedAt, -, -, -, rfl⟩ := step_refreshClaim h
    exact hclaim now wall
  | start i =>
    obtain ⟨task, -, -, rfl⟩ := step_start h
    unfold startStep
    split_ifs <;> exact hinv
  | finish i result =>
    obtain ⟨task, startedAt, -, -, rfl⟩ := step_finish h
    exact hinv
  | timeout i =>
    obtain ⟨task, startedAt, -, -, rfl⟩ := step_timeout h
    exact hinv
  | unwind slot =>
    obtain ⟨-, rfl⟩ := step_unwind h
    exact hinv
  | apply i completedAt completedMs =>
    obtain ⟨task, outcome, readyAt, -, -, -, -, rfl⟩ := step_apply h
    simp only [applyStep, applyProviderSlotOutcome]
    split_ifs
    · simp
    · exact hinv
  | followUpClaim i now wall =>
    obtain ⟨task, snapshot, appliedAt, -, -, -, -, rfl⟩ := step_followUpClaim h
    exact hclaim now wall
  | followUpSpawn i =>
    obtain ⟨task, snapshot, due, -, -, rfl⟩ := step_followUpSpawn h
    exact hinv
  | tick elapsed =>
    obtain rfl := step_tick h
    exact hinv

theorem providerStates_eq {ok : AppState → Event → Prop} {boots : CacheBoots} {now : ℕ}
    (h : Steps (step processBoot) ok (AppState.new processBoot boots now) es s) :
    s.cache.runtimeMap.providerStates = providerStatesFor s.cache.runtimeProviders :=
  h.invariant (I := fun s => s.cache.runtimeMap.providerStates =
      providerStatesFor s.cache.runtimeProviders)
    (fun _ _ _ _ hstep hinv => providerStates_step hstep hinv) rfl

/-- The vector of the slots is what the daemon publishes, and the browser boundary accepts
the publication. -/
def AcceptedByApi (cache : DaemonCache) : Prop :=
  (getRuntimeMap cache).providerStates = providerStatesFor cache.runtimeProviders ∧
    Api.hasCompleteProviderStateVector (Json.encode (getRuntimeMap cache)) = true ∧
    Api.hasCoherentProviderFreshness (Json.encode (getRuntimeMap cache)) = true

theorem acceptedByApi_of_coherent {cache : DaemonCache}
    (hstates : cache.runtimeMap.providerStates = providerStatesFor cache.runtimeProviders)
    (hslots : ∀ slot, CoherentSlot slot (cache.runtimeProviders slot)) : AcceptedByApi cache := by
  refine ⟨hstates, ?_, ?_⟩
  · apply Api.hasCompleteProviderStateVector_encode
    change (cache.runtimeMap.providerStates.map _).Perm _
    rw [hstates, providerStatesFor, List.map_map]
    exact (by decide :
      (staticProviderSlots.map ProviderSlot.wireName).Perm Api.providerStateSlots)
  · rw [Api.hasCoherentProviderFreshness_encode]
    change cache.runtimeMap.providerStates.all _ = true
    rw [hstates, providerStatesFor, List.all_map, List.all_eq_true]
    intro slot _
    exact coherentFreshness_of_coherent (hslots slot)

/-- In every state of a run whose wall clock never decreases, and in which the source is
replaced only while no claim awaits its workers. -/
theorem provider_states_accepted {boots : CacheBoots} {now : ℕ}
    (h : Steps (step processBoot) FlipFindsNoClaim (AppState.new processBoot boots now) es s)
    (hclock : WallClock es) : AcceptedByApi s.cache :=
  acceptedByApi_of_coherent (providerStates_eq h) (slotsCoherent h hclock).slots

end

/-! Sample runs -/

def acceptedRun : List Event :=
  [publishEmpty 0, .refreshClaim 0 fun _ => some 5, .start 0, .finish 0 .failed,
    .apply 0 0 (some 9)]

theorem acceptedRun_reached :
    (run (step sampleBoot) FlipFindsNoClaim (AppState.new sampleBoot sampleBoots 0)
      acceptedRun).map (fun s => s.cache.mode) = some .docker := by
  decide

theorem wallClock_acceptedRun : WallClock acceptedRun := by
  have hreadings : wallReadings acceptedRun = List.replicate 8 (some 5) ++ [some 9] := rfl
  constructor
  · rw [hreadings]
    intro reading hreading
    simp only [List.mem_append, List.mem_replicate, List.mem_singleton] at hreading
    rcases hreading with ⟨-, rfl⟩ | rfl
    · exact ⟨5, rfl, by decide⟩
    · exact ⟨9, rfl, by decide⟩
  · rw [hreadings]
    decide

theorem provider_states_accepted_failed :
    ∃ s, Steps (step sampleBoot) FlipFindsNoClaim (AppState.new sampleBoot sampleBoots 0)
        acceptedRun s ∧
      s.cache.mode = .docker ∧ AcceptedByApi s.cache := by
  obtain ⟨s, hrun, hdocker⟩ := Option.map_eq_some_iff.1 acceptedRun_reached
  have hsteps := Steps.of_run hrun
  exact ⟨s, hsteps, hdocker, provider_states_accepted hsteps wallClock_acceptedRun⟩

/-- A slot is claimed while the source is mock; the source is Docker again before the workers
are spawned, so their outcomes are accepted for slots that were never attempted in it. -/
def relabelledRun : List Event :=
  [publishEmpty 0, .refreshClaim 0 fun _ => some 5, .start 0, .finish 0 .failed,
    .apply 0 0 (some 9), .followUpClaim 0 0 fun _ => some 9,
    .publish (.failed "timeout") 1000 sampleBoots samplePublicationBoots, publishEmpty 2000,
    .followUpSpawn 0, .start 2, .finish 2 .failed, .apply 2 0 (some 9)]

theorem relabelledRun_rejected :
    (run (step sampleBoot) anyStep (AppState.new sampleBoot sampleBoots 0)
      relabelledRun).map (fun s => (s.cache.mode,
        Api.hasCoherentProviderFreshness (Json.encode (getRuntimeMap s.cache)))) =
      some (.docker, false) := by
  decide

theorem wallClock_relabelledRun : WallClock relabelledRun := by
  have hreadings : wallReadings relabelledRun =
      List.replicate 8 (some 5) ++ List.replicate 10 (some 9) := rfl
  constructor
  · rw [hreadings]
    intro reading hreading
    simp only [List.mem_append, List.mem_replicate] at hreading
    rcases hreading with ⟨-, rfl⟩ | ⟨-, rfl⟩
    · exact ⟨5, rfl, by decide⟩
    · exact ⟨9, rfl, by decide⟩
  · rw [hreadings]
    decide

/-- Over all runs the browser boundary rejects some publications of a live source. -/
theorem provider_states_rejected :
    ¬ ∀ (processBoot : BootToken) (boots : CacheBoots) (now : ℕ) (es : List Event) (s : AppState),
      Steps (step processBoot) anyStep (AppState.new processBoot boots now) es s →
        WallClock es → s.cache.mode = .docker → AcceptedByApi s.cache := by
  intro haccepted
  obtain ⟨s, hrun, hpair⟩ := Option.map_eq_some_iff.1 relabelledRun_rejected
  obtain ⟨hdocker, hrejected⟩ := Prod.mk.inj hpair
  obtain ⟨-, -, hcoherent⟩ := haccepted sampleBoot sampleBoots 0 relabelledRun s
    (Steps.of_run hrun) wallClock_relabelledRun hdocker
  rw [hrejected] at hcoherent
  cases hcoherent

end DockerMap
