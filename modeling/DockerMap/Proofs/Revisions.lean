import DockerMap.Daemon.DaemonApi
import DockerMap.Proofs.Concurrency

/-! The model revision of a publication. Every step of the scheduler that publishes assigns
the revision last, from the observable of exactly the models it leaves in the cache. -/

namespace DockerMap

open Runs

/-! One publication -/

/-- The bodies of a publication and the value its revision was last assigned. -/
structure CarriesRevision (cache : DaemonCache) : Prop where
  last : cache.revision.last = some cache.published.observable
  snapshot : cache.snapshot.modelRevision = cache.revision.current
  health : cache.health.modelRevision = cache.revision.current
  runtimeMap : cache.runtimeMap.modelRevision = cache.revision.current
  findings : cache.findings.modelRevision = cache.revision.current

theorem assignRevision_published (cache : DaemonCache) :
    cache.assignRevision.published = cache.published := rfl

theorem carriesRevision_assignRevision (cache : DaemonCache) :
    CarriesRevision cache.assignRevision where
  last := by
    rw [assignRevision_published]
    exact ChangeToken.assign_last ..
  snapshot := rfl
  health := rfl
  runtimeMap := rfl
  findings := rfl

theorem carriesRevision_observeHistory {cache : DaemonCache} (boots : PublicationBoots)
    (h : CarriesRevision cache) : CarriesRevision (cache.observeHistory boots) := by
  unfold DaemonCache.observeHistory
  split_ifs
  · exact ⟨h.last, h.snapshot, h.health, h.runtimeMap, h.findings⟩
  · exact h

theorem observeHistory_published (cache : DaemonCache) (boots : PublicationBoots) :
    (cache.observeHistory boots).published = cache.published := by
  unfold DaemonCache.observeHistory
  split_ifs <;> rfl

theorem observeHistory_revision (cache : DaemonCache) (boots : PublicationBoots) :
    (cache.observeHistory boots).revision = cache.revision := by
  unfold DaemonCache.observeHistory
  split_ifs <;> rfl

/-- The cache after a step publishes under the revision before it, advanced by what it
publishes. -/
structure Republished (cache cache' : DaemonCache) : Prop where
  carries : CarriesRevision cache'
  revision : cache'.revision = cache.revision.assign cache'.published.observable

theorem Republished.refl {cache : DaemonCache} (h : CarriesRevision cache) :
    Republished cache cache where
  carries := h
  revision := (ChangeToken.assign_of_last h.last).symm

theorem republished_assignRevision {cache changed : DaemonCache}
    (h : changed.revision = cache.revision) : Republished cache changed.assignRevision where
  carries := carriesRevision_assignRevision changed
  revision := by
    rw [assignRevision_published, ← h]
    rfl

theorem republished_publish (cache updated : DaemonCache) (boots : PublicationBoots) :
    Republished cache (publishDockerSnapshotCache cache updated boots) := by
  have hassigned : Republished cache { (cache.replacedBy updated boots).rebuildRuntimeMap with
      revision := cache.revision }.assignRevision := republished_assignRevision rfl
  refine ⟨carriesRevision_observeHistory boots hassigned.carries, ?_⟩
  simp only [publishDockerSnapshotCache, observeHistory_published, observeHistory_revision]
  exact hassigned.revision

theorem republished_claim {cache : DaemonCache} (h : CarriesRevision cache)
    (now activeWorkers : ℕ) (wall : ProviderSlot → Option ℕ) :
    Republished cache (claimDueProviderSlots cache now activeWorkers wall) := by
  simp only [claimDueProviderSlots]
  split_ifs
  · exact .refl h
  · exact republished_assignRevision rfl

theorem republished_apply (processBoot : BootToken) {cache : DaemonCache}
    (h : CarriesRevision cache) (slot : ProviderSlot) (observed : Observed)
    (outcome : ProviderCollectionOutcome) (completedMs : Option ℕ) (completedAt : ℕ) :
    Republished cache (applyProviderSlotOutcome processBoot cache slot observed outcome completedMs
      completedAt) := by
  unfold applyProviderSlotOutcome
  split_ifs
  · exact republished_assignRevision rfl
  · exact .refl h

theorem republished_step {processBoot : BootToken} {s s' : AppState} {e : Event}
    (h : step processBoot s e = some s') (hcarries : CarriesRevision s.cache) :
    Republished s.cache s'.cache := by
  cases e with
  | publish read now boots publication =>
    obtain ⟨-, rfl⟩ := step_publish h
    exact republished_publish ..
  | refreshClaim now wall =>
    obtain ⟨observed, publishedAt, -, -, -, rfl⟩ := step_refreshClaim h
    exact republished_claim hcarries ..
  | start i =>
    obtain ⟨task, -, -, rfl⟩ := step_start h
    unfold startStep
    split_ifs <;> exact .refl hcarries
  | finish i result =>
    obtain ⟨task, startedAt, -, -, rfl⟩ := step_finish h
    exact .refl hcarries
  | timeout i =>
    obtain ⟨task, startedAt, -, -, rfl⟩ := step_timeout h
    exact .refl hcarries
  | unwind slot =>
    obtain ⟨-, rfl⟩ := step_unwind h
    exact .refl hcarries
  | apply i completedAt completedMs =>
    obtain ⟨task, outcome, readyAt, -, -, -, -, rfl⟩ := step_apply h
    exact republished_apply processBoot hcarries ..
  | followUpClaim i now wall =>
    obtain ⟨task, snapshot, appliedAt, -, -, -, -, rfl⟩ := step_followUpClaim h
    exact republished_claim hcarries ..
  | followUpSpawn i =>
    obtain ⟨task, snapshot, due, -, -, rfl⟩ := step_followUpSpawn h
    exact .refl hcarries
  | tick elapsed =>
    obtain rfl := step_tick h
    exact .refl hcarries

/-! Whole runs -/

section

variable {processBoot : BootToken} {ok : AppState → Event → Prop} {es : List Event}
  {s s' : AppState}

theorem carriesRevision_new (boots : CacheBoots) (now : ℕ) :
    CarriesRevision (AppState.new processBoot boots now).cache :=
  carriesRevision_assignRevision _

theorem carriesRevision_run (h : Steps (step processBoot) ok s es s')
    (hcarries : CarriesRevision s.cache) : CarriesRevision s'.cache :=
  h.invariant (I := fun s => CarriesRevision s.cache)
    (fun _ _ _ _ hstep hinv => (republished_step hstep hinv).carries) hcarries

theorem extends_run (h : Steps (step processBoot) ok s es s')
    (hcarries : CarriesRevision s.cache) : s.cache.revision.Extends s'.cache.revision := by
  induction h with
  | nil => exact .refl _
  | snoc hrun _ hstep ih =>
    have hmid := carriesRevision_run hrun hcarries
    rw [(republished_step hstep hmid).revision]
    exact ih.trans (ChangeToken.extends_assign ..)

/-- The models of every state the run passes through are those of its first state. -/
def KeepsModels (processBoot : BootToken) (s : AppState) (es : List Event) : Prop :=
  ∀ before after mid, es = before ++ after → Steps (step processBoot) anyStep s before mid →
    mid.cache.published = s.cache.published

theorem KeepsModels.init {e : Event} (h : KeepsModels processBoot s (es ++ [e])) :
    KeepsModels processBoot s es := by
  rintro before after mid rfl hmid
  exact h before (after ++ [e]) mid (List.append_assoc ..) hmid

/-- While the models stay, so does the revision. -/
theorem revision_eq_of_keepsModels (h : Steps (step processBoot) ok s es s')
    (hcarries : CarriesRevision s.cache) (hkeeps : KeepsModels processBoot s es) :
    s'.cache.revision = s.cache.revision := by
  induction h with
  | nil => rfl
  | @snoc mid last es e hrun hok hstep ih =>
    have hmid := carriesRevision_run hrun hcarries
    have hbefore : mid.cache.published = s.cache.published :=
      hkeeps es [e] mid rfl (hrun.mono fun _ _ _ => trivial)
    have hafter : last.cache.published = s.cache.published :=
      hkeeps (es ++ [e]) [] last (List.append_nil _).symm
        ((hrun.mono fun _ _ _ => trivial).snoc trivial hstep)
    rw [(republished_step hstep hmid).revision, hafter, ← hbefore,
      ChangeToken.assign_of_last hmid.last]
    exact ih hkeeps.init

end

/-- The served snapshot, health, runtime map and findings carry one revision. -/
def EnvelopesAgree (cache : DaemonCache) : Prop :=
  (getHealth cache).modelRevision = (getSnapshot cache).modelRevision ∧
    (getRuntimeMap cache).modelRevision = (getSnapshot cache).modelRevision ∧
    (getFindings cache).modelRevision = (getSnapshot cache).modelRevision

theorem CarriesRevision.getSnapshot {cache : DaemonCache} (h : CarriesRevision cache) :
    (getSnapshot cache).modelRevision = cache.revision.current := h.snapshot

theorem CarriesRevision.envelopesAgree {cache : DaemonCache} (h : CarriesRevision cache) :
    EnvelopesAgree cache := by
  refine ⟨?_, ?_, ?_⟩
  · exact h.health.trans h.getSnapshot.symm
  · exact h.runtimeMap.trans h.getSnapshot.symm
  · exact h.findings.trans h.getSnapshot.symm

/-- Between any two publications of a run: equal revisions belong to equal models, and the
revision stays while the models do; the bodies of each publication share its revision. -/
theorem model_revision_identifies_models {processBoot : BootToken} {boots : CacheBoots} {now : ℕ}
    {es es' : List Event} {s s' : AppState}
    (h : Steps (step processBoot) anyStep (AppState.new processBoot boots now) es s)
    (h' : Steps (step processBoot) anyStep s es' s') :
    ((getSnapshot s'.cache).modelRevision = (getSnapshot s.cache).modelRevision →
        s'.cache.published = s.cache.published) ∧
      (KeepsModels processBoot s es' →
        (getSnapshot s'.cache).modelRevision = (getSnapshot s.cache).modelRevision) ∧
      EnvelopesAgree s.cache ∧ EnvelopesAgree s'.cache := by
  have hcarries := carriesRevision_run h (carriesRevision_new boots now)
  have hcarries' := carriesRevision_run h' hcarries
  rw [hcarries.getSnapshot, hcarries'.getSnapshot]
  refine ⟨fun hrevision => ?_, fun hkeeps => ?_, hcarries.envelopesAgree,
    hcarries'.envelopesAgree⟩
  · have hlast := (extends_run h' hcarries).last_of_current hrevision
    rw [hcarries.last, hcarries'.last] at hlast
    exact PublishedModel.observable_injective (Option.some.inj hlast)
  · rw [revision_eq_of_keepsModels h' hcarries hkeeps]

theorem twoRefreshes_reached :
    ((run (step sampleBoot) anyStep (AppState.new sampleBoot sampleBoots 0)
      [publishEmpty 0, .refreshClaim 0 fun _ => some 0]).bind fun s =>
        run (step sampleBoot) anyStep s [publishEmpty 2000]).isSome := by
  decide

theorem model_revision_identifies_models_refresh :
    ∃ es s es' s', es' ≠ [] ∧
      Steps (step sampleBoot) anyStep (AppState.new sampleBoot sampleBoots 0) es s ∧
      Steps (step sampleBoot) anyStep s es' s' ∧
      ((getSnapshot s'.cache).modelRevision = (getSnapshot s.cache).modelRevision →
        s'.cache.published = s.cache.published) ∧
      (KeepsModels sampleBoot s es' →
        (getSnapshot s'.cache).modelRevision = (getSnapshot s.cache).modelRevision) ∧
      EnvelopesAgree s.cache ∧ EnvelopesAgree s'.cache := by
  obtain ⟨s', hbind⟩ := Option.isSome_iff_exists.1 twoRefreshes_reached
  obtain ⟨s, hrun, hrun'⟩ := Option.bind_eq_some_iff.1 hbind
  have hsteps := Steps.of_run hrun
  have hsteps' := Steps.of_run hrun'
  exact ⟨_, s, _, s', List.cons_ne_nil _ _, hsteps, hsteps',
    model_revision_identifies_models hsteps hsteps'⟩

end DockerMap
