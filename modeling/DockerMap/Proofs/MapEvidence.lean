import DockerMap.Daemon.Tmux
import DockerMap.Proofs.DataRevisions
import DockerMap.Proofs.InventoryOrder

/-! Where the evidence of the runtime map comes from. Collectors give none: Docker evidence is
made from the snapshot, a slot binds its own to the edges it retains, and the integrity fact
carries one. -/

namespace DockerMap

open Runs

/-! What the slots retain -/

/-- The collection is one pass of the slot, over a reading of this kind. -/
def PassOf (reads : ProviderSlot → HostReading → Prop) (slot : ProviderSlot)
    (collection : ProviderCollection) : Prop :=
  ∃ reading, reads slot reading ∧ collection = collectProviderSlot slot reading

/-- The outcome that a worker has ready is such a pass. -/
def TaskPhase.Passes (reads : ProviderSlot → HostReading → Prop) (slot : ProviderSlot) :
    TaskPhase → Prop
  | .ready (.collected collection) _ => PassOf reads slot collection
  | _ => True

/-- What the event's worker read is of this kind. -/
def ReadsAs (reads : ProviderSlot → HostReading → Prop) (s : AppState) (e : Event) : Prop :=
  ∀ i reading, e = .finish i (.collected reading) → ∀ task ∈ s.tasks[i]?, reads task.slot reading

/-- Every retained collection, and every one a worker has ready, is one pass of its slot. -/
structure Collects (reads : ProviderSlot → HostReading → Prop) (s : AppState) : Prop where
  slots : ∀ slot, ∀ collection ∈ retainedCollection (s.cache.runtimeProviders slot).observation,
    ∃ raw, PassOf reads slot raw ∧ collection = raw.sanitizedForRetention
  tasks : ∀ task ∈ s.tasks, task.phase.Passes reads task.slot

section

variable {reads : ProviderSlot → HostReading → Prop} {processBoot : BootToken}
  {s s' : AppState} {e : Event}

theorem passes_of_set {i : ℕ} {task : WorkerTask} {phase : TaskPhase}
    (hinv : ∀ task ∈ s.tasks, task.phase.Passes reads task.slot)
    (hphase : phase.Passes reads task.slot) :
    ∀ moved ∈ s.tasks.set i { task with phase := phase }, moved.phase.Passes reads moved.slot := by
  intro moved hmoved
  rcases List.mem_or_eq_of_mem_set hmoved with hmem | rfl
  · exact hinv moved hmem
  · exact hphase

theorem passes_spawn {tasks : List WorkerTask}
    (hinv : ∀ task ∈ tasks, task.phase.Passes reads task.slot) (observed : Observed)
    (due : List ProviderSlot) :
    ∀ task ∈ tasks ++ spawnTasks observed due, task.phase.Passes reads task.slot := by
  intro task htask
  rcases List.mem_append.1 htask with hmem | hspawned
  · exact hinv task hmem
  · obtain ⟨slot, -, rfl⟩ := mem_spawnTasks.1 hspawned
    trivial

theorem passes_step (hreads : ReadsAs reads s e) (h : step processBoot s e = some s')
    (hinv : ∀ task ∈ s.tasks, task.phase.Passes reads task.slot) :
    ∀ task ∈ s'.tasks, task.phase.Passes reads task.slot := by
  cases e with
  | publish read now boots publication =>
    obtain ⟨-, rfl⟩ := step_publish h
    exact hinv
  | refreshClaim now wall =>
    obtain ⟨observed, publishedAt, -, -, -, rfl⟩ := step_refreshClaim h
    exact passes_spawn hinv observed _
  | start i =>
    obtain ⟨task, -, -, rfl⟩ := step_start h
    unfold startStep
    split_ifs
    · exact passes_of_set hinv (by trivial)
    · exact passes_of_set hinv (by trivial)
  | finish i result =>
    obtain ⟨task, startedAt, htask, -, rfl⟩ := step_finish h
    refine passes_of_set hinv ?_
    cases result with
    | collected reading => exact ⟨reading, hreads i reading rfl task htask, rfl⟩
    | failed => trivial
    | timedOut => trivial
  | timeout i =>
    obtain ⟨task, startedAt, -, -, rfl⟩ := step_timeout h
    exact passes_of_set hinv (by trivial)
  | unwind slot =>
    obtain ⟨-, rfl⟩ := step_unwind h
    exact hinv
  | apply i completedAt completedMs =>
    obtain ⟨task, outcome, readyAt, -, -, -, -, rfl⟩ := step_apply h
    refine passes_of_set hinv ?_
    unfold appliedPhase
    split_ifs
    · trivial
    · trivial
  | followUpClaim i now wall =>
    obtain ⟨task, snapshot, appliedAt, -, -, -, -, rfl⟩ := step_followUpClaim h
    exact passes_of_set hinv (by trivial)
  | followUpSpawn i =>
    obtain ⟨task, snapshot, due, -, -, rfl⟩ := step_followUpSpawn h
    exact passes_spawn (passes_of_set hinv (by trivial)) _ due
  | tick elapsed =>
    obtain rfl := step_tick h
    exact hinv

theorem passes_of_application (hinv : ∀ task ∈ s.tasks, task.phase.Passes reads task.slot)
    {a : Application} (happ : s.application e = some a) {collection : ProviderCollection}
    (houtcome : a.outcome = .collected collection) : PassOf reads a.slot collection := by
  obtain ⟨task, htask, readyAt, hphase, hslot, -⟩ := mem_of_application happ
  have hpasses := hinv task htask
  rw [hphase, hslot, houtcome] at hpasses
  exact hpasses

theorem retained_slotStep (hinv : Collects reads s) {slot : ProviderSlot}
    {state : SlotRuntimeState} (h : SlotStep processBoot s e slot state)
    {collection : ProviderCollection} (hretained : collection ∈ retainedCollection state.observation) :
    ∃ raw, PassOf reads slot raw ∧ collection = raw.sanitizedForRetention := by
  cases h with
  | kept => exact hinv.slots slot collection hretained
  | staled hfresh =>
    refine hinv.slots slot collection ?_
    rw [hfresh]
    exact hretained
  | claimed hclaims => exact hinv.slots slot collection hretained
  | @applied a sameEvidence happ hslot =>
    cases houtcome : a.outcome with
    | collected collected =>
      have hpass := passes_of_application hinv.tasks happ houtcome
      rw [hslot] at hpass
      refine ⟨collected, hpass, ?_⟩
      rw [houtcome] at hretained
      unfold applyOutcome collectSlot at hretained
      dsimp only at hretained
      cases sameEvidence with
      | true => exact (Option.some.inj hretained).symm
      | false => exact (Option.some.inj hretained).symm
    | inFlight =>
      rw [houtcome] at hretained
      exact hinv.slots slot collection hretained
    | failed =>
      rw [houtcome] at hretained
      exact hinv.slots slot collection hretained
    | timedOut =>
      rw [houtcome] at hretained
      exact hinv.slots slot collection hretained

theorem collects_step (hreads : ReadsAs reads s e) (h : step processBoot s e = some s')
    (hinv : Collects reads s) : Collects reads s' where
  slots slot collection hretained := by
    rcases step_source h with hsame | hflip
    · exact retained_slotStep hinv (hsame.slots slot) hretained
    · rw [hflip.slots] at hretained
      cases hretained
  tasks := passes_step hreads h hinv.tasks

theorem collects_new (boots : CacheBoots) (now : ℕ) :
    Collects reads (AppState.new processBoot boots now) where
  slots _ _ hretained := by cases hretained
  tasks _ htask := by cases htask

end

/-! Evidence bound by a slot -/

/-- The evidence that a slot binds to an edge it retains. -/
structure BoundBy (slots : RuntimeProviderSlots) (edge : RuntimeMapEdge)
    (evidence : RuntimeEvidenceRef) (binding : EvidenceBinding) : Prop where
  known : binding ∈ [systemdBinding, npmBinding, cronBinding, tmuxBinding]
  fact : ∃ value idPrefix, binding.fact value = some (evidence.kind, idPrefix, evidence.summary)
  version : evidence.version = binding.version
  revision : ∃ revision ∈ (slots binding.slot).freshness.dataRevision,
    evidence.providerRevision = revision.toPublic
  source : redactRuntimeDisplayText edge.source = edge.source

theorem known_of_evidenceBinding {slot : ProviderSlot} {binding : EvidenceBinding}
    (h : evidenceBinding slot = some binding) :
    binding.slot = slot ∧ binding ∈ [systemdBinding, npmBinding, cronBinding, tmuxBinding] := by
  cases slot with
  | systemd =>
    cases h
    exact ⟨rfl, List.mem_cons_self⟩
  | projectNpm =>
    cases h
    exact ⟨rfl, List.mem_cons_of_mem _ List.mem_cons_self⟩
  | cron =>
    cases h
    exact ⟨rfl, List.mem_cons_of_mem _ (List.mem_cons_of_mem _ List.mem_cons_self)⟩
  | tmux =>
    cases h
    exact ⟨rfl, List.mem_cons_of_mem _ (List.mem_cons_of_mem _
      (List.mem_cons_of_mem _ List.mem_cons_self))⟩
  | networkInfrastructure => cases h
  | hostScoped => cases h
  | pythonProcesses => cases h
  | nativeProcesses => cases h

theorem revision_of_attestation {slot : ProviderSlot} {state : SlotRuntimeState}
    {attestation : SlotAttestation} (h : slotAttestation slot state = some attestation) :
    ∃ revision ∈ state.freshness.dataRevision, attestation.revision = revision.toPublic := by
  unfold slotAttestation at h
  split_ifs at h
  simp only [bind, Option.bind_eq_some_iff] at h
  obtain ⟨freshness, -, revision, hrevision, collectedAt, -, hattestation⟩ := h
  cases hattestation
  exact ⟨revision, hrevision, rfl⟩

theorem boundBy_of_boundEvidence {slots : RuntimeProviderSlots} {binding : EvidenceBinding}
    {attestation : SlotAttestation} {edge : RuntimeMapEdge} {evidence : RuntimeEvidenceRef}
    (hknown : binding ∈ [systemdBinding, npmBinding, cronBinding, tmuxBinding])
    (hattestation : slotAttestation binding.slot (slots binding.slot) = some attestation)
    (hsource : redactRuntimeDisplayText edge.source = edge.source)
    (h : evidence ∈ boundEvidence binding attestation edge) :
    BoundBy slots (bindEdgeEvidence binding (slots binding.slot) edge) evidence binding := by
  unfold boundEvidence at h
  split at h
  · rename_i kind idPrefix summary hfact
    obtain ⟨value, -, hvalue⟩ := Option.bind_eq_some_iff.1 hfact
    split_ifs at h
    · rw [List.mem_singleton] at h
      subst h
      exact ⟨hknown, ⟨value, idPrefix, hvalue⟩, rfl, revision_of_attestation hattestation, hsource⟩
    · cases h
  · cases h

theorem retained_edges {reads : ProviderSlot → HostReading → Prop} {slot : ProviderSlot}
    {raw : ProviderCollection} (h : PassOf reads slot raw) {edge : RuntimeMapEdge}
    (hedge : edge ∈ raw.sanitizedForRetention.edges) :
    edge.evidenceRefs = [] ∧ redactRuntimeDisplayText edge.source = edge.source := by
  obtain ⟨reading, -, rfl⟩ := h
  obtain ⟨read, hread, rfl⟩ := List.mem_map.1 hedge
  rw [collectProviderSlot_edges] at hread
  refine ⟨?_, ?_⟩
  · rcases evidenceRefs_redactRuntimeEdge read with hrefs | hnil
    · rw [hrefs, reading.bare read hread]
      rfl
    · exact hnil
  · rw [redactRuntimeEdge_rest]
    exact redact_redact _

theorem boundBy_of_contribution {reads : ProviderSlot → HostReading → Prop}
    {slots : RuntimeProviderSlots} {slot : ProviderSlot}
    (hcollects : ∀ collection ∈ retainedCollection (slots slot).observation,
      ∃ raw, PassOf reads slot raw ∧ collection = raw.sanitizedForRetention)
    {edge : RuntimeMapEdge} (hedge : edge ∈ (slotContribution slots slot).edges)
    {evidence : RuntimeEvidenceRef} (hevidence : evidence ∈ edge.evidenceRefs) :
    ∃ binding, BoundBy slots edge evidence binding := by
  unfold slotContribution at hedge
  cases hretained : retainedCollection (slots slot).observation with
  | none =>
    rw [hretained] at hedge
    cases hedge
  | some collection =>
    rw [hretained] at hedge
    obtain ⟨raw, hpass, rfl⟩ := hcollects collection hretained
    dsimp only at hedge
    unfold bindSlotEvidence at hedge
    cases hbinding : evidenceBinding slot with
    | none =>
      rw [hbinding] at hedge
      rw [(retained_edges hpass hedge).1] at hevidence
      cases hevidence
    | some binding =>
      rw [hbinding] at hedge
      obtain ⟨rfl, hknown⟩ := known_of_evidenceBinding hbinding
      obtain ⟨read, hread, rfl⟩ := List.mem_map.1 hedge
      cases hattestation : slotAttestation binding.slot (slots binding.slot) with
      | none =>
        simp only [bindEdgeEvidence, hattestation] at hevidence
        cases hevidence
      | some attestation =>
        refine ⟨binding, boundBy_of_boundEvidence hknown hattestation
          (retained_edges hpass hread).2 ?_⟩
        simp only [bindEdgeEvidence, hattestation] at hevidence
        exact hevidence

/-! Evidence of the derived map -/

/-- The listener of a port that a container of the snapshot publishes on the host. -/
def IsPublishedPort (snapshot : DockerSnapshot) (target port : String) : Prop :=
  ∃ container ∈ snapshot.containers, port ∈ container.ports ∧
    isHostPublishedDockerPort port = true ∧ target = listenerId container port

/-- The ids of two containers of the snapshot. -/
def JoinsContainers (snapshot : DockerSnapshot) (source target : String) : Prop :=
  ∃ container ∈ snapshot.containers, ∃ dependency ∈ snapshot.containers,
    source = runtimeContainerId container ∧ target = runtimeContainerId dependency

/-- Evidence as the daemon makes it, before it is published. -/
inductive MadeEvidence (snapshot : DockerSnapshot) (revision : String)
    (slots : RuntimeProviderSlots) (edge : RuntimeMapEdge) : RuntimeEvidenceRef → Prop
  | docker (kind : RuntimeEvidenceKind) (hversion : kind.shape.version = 1)
      (hport : kind = .dockerPortPublication →
        ∃ port, IsPublishedPort snapshot edge.target port)
      (hdepends : kind = .dockerComposeDependsOn →
        JoinsContainers snapshot edge.source edge.target) :
      MadeEvidence snapshot revision slots edge
        (dockerRuntimeEvidence snapshot edge.source edge.target kind revision)
  | bound {evidence : RuntimeEvidenceRef} {binding : EvidenceBinding}
      (hbound : BoundBy slots edge evidence binding)
      (hkept : keepsHostRelationship (combinedCollection slots).nodes .docker edge = true) :
      MadeEvidence snapshot revision slots edge evidence

section

variable {snapshot : DockerSnapshot} {revision : String} {slots : RuntimeProviderSlots}

theorem made_dockerEdge {source target : String} {relationship : RuntimeRelationshipKind}
    {kind : RuntimeEvidenceKind} (hkind : kind.shape.version = 1)
    (hport : kind = .dockerPortPublication → ∃ port, IsPublishedPort snapshot target port)
    (hdepends : kind = .dockerComposeDependsOn → JoinsContainers snapshot source target)
    {evidence : RuntimeEvidenceRef}
    (h : evidence ∈ (dockerEdge snapshot revision source target relationship kind).evidenceRefs) :
    MadeEvidence snapshot revision slots
      (dockerEdge snapshot revision source target relationship kind) evidence := by
  obtain rfl := List.mem_singleton.1 h
  exact .docker kind hkind hport hdepends

theorem made_withHostRisk {sources : List String} {node : RuntimeMapNode}
    {relationship : RuntimeRelationshipKind} {kind : RuntimeEvidenceKind}
    (hkind : kind.shape.version = 1) (hport : kind ≠ .dockerPortPublication)
    (hdepends : kind ≠ .dockerComposeDependsOn)
    {topology : List RuntimeMapNode × List RuntimeMapEdge}
    (h : ∀ edge ∈ topology.2, ∀ evidence ∈ edge.evidenceRefs,
      MadeEvidence snapshot revision slots edge evidence) :
    ∀ edge ∈ (withHostRisk snapshot revision sources node relationship kind topology).2,
      ∀ evidence ∈ edge.evidenceRefs, MadeEvidence snapshot revision slots edge evidence := by
  intro edge hedge evidence hevidence
  unfold withHostRisk at hedge
  split_ifs at hedge
  · rcases List.mem_append.1 hedge with hold | hnew
    · exact h edge hold evidence hevidence
    · obtain ⟨source, -, rfl⟩ := List.mem_map.1 hnew
      exact made_dockerEdge hkind (fun heq => absurd heq hport) (fun heq => absurd heq hdepends)
        hevidence
  · exact h edge hedge evidence hevidence

theorem made_containerEdge {edge : RuntimeMapEdge}
    (h : edge ∈ snapshot.containers.zipIdx.flatMap (containerEdges snapshot revision))
    {evidence : RuntimeEvidenceRef} (hevidence : evidence ∈ edge.evidenceRefs) :
    MadeEvidence snapshot revision slots edge evidence := by
  rcases mem_containerEdges.1 h with ⟨c, -, network, -, rfl⟩ | ⟨c, hc, port, hport, rfl⟩ |
    ⟨c, hc, dependency, -, target, htarget, -, -, -, -, rfl⟩
  · exact made_dockerEdge rfl (fun heq => by cases heq) (fun heq => by cases heq) hevidence
  · unfold portEdge at hevidence ⊢
    split_ifs at hevidence ⊢ with hpublished
    · exact made_dockerEdge rfl (fun _ => ⟨port, c, hc, hport, hpublished, rfl⟩)
        (fun heq => by cases heq) hevidence
    · cases hevidence
  · exact made_dockerEdge rfl (fun heq => by cases heq)
      (fun _ => ⟨c, hc, target, htarget, rfl, rfl⟩) hevidence

theorem made_deriveRuntimeMap {nodes : List RuntimeMapNode} {edges : List RuntimeMapEdge}
    {diagnostics : List RuntimeMapDiagnostic}
    (h : ∀ edge ∈ edges, ∀ evidence ∈ edge.evidenceRefs,
      MadeEvidence snapshot revision slots edge evidence) :
    ∀ edge ∈ (deriveRuntimeMap snapshot nodes edges diagnostics revision).edges,
      ∀ evidence ∈ edge.evidenceRefs, MadeEvidence snapshot revision slots edge evidence := by
  intro edge hedge
  rw [deriveRuntimeMap_eq, dedup, KeyedSort.mem_destutter, mem_sortByKey, derivedTopology,
    riskTopology] at hedge
  refine made_withHostRisk rfl (by decide) (by decide)
    (made_withHostRisk rfl (by decide) (by decide) ?_) edge hedge
  intro edge hedge evidence hevidence
  rcases List.mem_append.1 hedge with hedge | hvolume
  · rcases List.mem_append.1 hedge with hprovider | hcontainer
    · exact h edge hprovider evidence hevidence
    · exact made_containerEdge hcontainer hevidence
  · obtain ⟨volume, -, attached, -, container, -, rfl⟩ := mem_volumeEdges.1 hvolume
    exact made_dockerEdge rfl (fun heq => by cases heq) (fun heq => by cases heq) hevidence

/-- Evidence as it is published on an edge of a runtime map. -/
structure PublishedEvidence (snapshot : DockerSnapshot) (revision : String)
    (slots : RuntimeProviderSlots) (edge : RuntimeMapEdge) (evidence : RuntimeEvidenceRef) :
    Prop where
  made : ∃ rawEdge raw, MadeEvidence snapshot revision slots rawEdge raw ∧
    edge = redactRuntimeEdge rawEdge ∧ evidence = redactRuntimeEvidenceRef raw
  mem : evidence ∈ edge.evidenceRefs

/-- Without Docker no evidence is published. -/
theorem published_runtimeMapForSnapshot {reads : ProviderSlot → HostReading → Prop}
    {mode : RuntimeMode}
    (hcollects : ∀ slot, ∀ collection ∈ retainedCollection (slots slot).observation,
      ∃ raw, PassOf reads slot raw ∧ collection = raw.sanitizedForRetention)
    {edge : RuntimeMapEdge}
    (hedge : edge ∈ (runtimeMapForSnapshot snapshot mode slots revision).edges)
    {evidence : RuntimeEvidenceRef} (hevidence : evidence ∈ edge.evidenceRefs) :
    mode = .docker ∧ PublishedEvidence snapshot revision slots edge evidence := by
  obtain ⟨rawEdge, hraw, rfl⟩ := List.mem_map.1 (mem_normalize_edges.1 hedge).1
  obtain ⟨raw, hrawEvidence, rfl⟩ := exists_raw_of_mem hevidence
  split_ifs at hraw with hmode
  · subst hmode
    refine ⟨rfl, ⟨rawEdge, raw, made_deriveRuntimeMap ?_ rawEdge hraw raw hrawEvidence, rfl, rfl⟩,
      hevidence⟩
    intro edge hedge evidence hevidence
    obtain ⟨hmem, hkept⟩ := List.mem_filter.1 hedge
    obtain ⟨slot, -, hslot⟩ := List.mem_flatMap.1 hmem
    obtain ⟨binding, hbound⟩ := boundBy_of_contribution (hcollects slot) hslot hevidence
    exact .bound hbound hkept
  · obtain ⟨derived, -, rfl⟩ := List.mem_map.1 hraw
    cases hrawEvidence

end

/-! What a step does to the cache -/

section

variable {processBoot : BootToken} {s s' : AppState} {e : Event}

/-- The cache of the next state: as it was, a new Docker read, or a map rebuilt for other
slots. -/
inductive CacheStep (processBoot : BootToken) (s : AppState) (e : Event) : DaemonCache → Prop
  | kept : CacheStep processBoot s e s.cache
  | published {read : SnapshotRead} {now : ℕ} {boots : CacheBoots}
      {publication : PublicationBoots} : e = .publish read now boots publication →
      CacheStep processBoot s e (publishDockerSnapshotCache s.cache
        (collectSnapshot processBoot boots now read) publication)
  | reslotted (slots : RuntimeProviderSlots) :
      CacheStep processBoot s e
        { s.cache with runtimeProviders := slots }.rebuildRuntimeMap.assignRevision

theorem CacheStep.of_claim (now : ℕ) (wall : ProviderSlot → Option ℕ) :
    CacheStep processBoot s e (s.claimDue now wall) := by
  unfold AppState.claimDue claimDueProviderSlots
  dsimp only
  split_ifs
  · exact .kept
  · exact .reslotted _

theorem step_cache (h : step processBoot s e = some s') : CacheStep processBoot s e s'.cache := by
  cases e with
  | publish read now boots publication =>
    obtain ⟨-, rfl⟩ := step_publish h
    exact .published rfl
  | refreshClaim now wall =>
    obtain ⟨observed, publishedAt, -, -, -, rfl⟩ := step_refreshClaim h
    exact .of_claim now wall
  | start i =>
    obtain ⟨task, -, -, rfl⟩ := step_start h
    unfold startStep
    split_ifs <;> exact .kept
  | finish i result =>
    obtain ⟨task, startedAt, -, -, rfl⟩ := step_finish h
    exact .kept
  | timeout i =>
    obtain ⟨task, startedAt, -, -, rfl⟩ := step_timeout h
    exact .kept
  | unwind slot =>
    obtain ⟨-, rfl⟩ := step_unwind h
    exact .kept
  | apply i completedAt completedMs =>
    obtain ⟨task, outcome, readyAt, -, -, -, -, rfl⟩ := step_apply h
    unfold applyStep applyProviderSlotOutcome
    dsimp only
    split_ifs
    · exact .reslotted _
    · exact .kept
  | followUpClaim i now wall =>
    obtain ⟨task, snapshot, appliedAt, -, -, -, -, rfl⟩ := step_followUpClaim h
    exact .of_claim now wall
  | followUpSpawn i =>
    obtain ⟨task, snapshot, due, -, -, rfl⟩ := step_followUpSpawn h
    exact .kept
  | tick elapsed =>
    obtain rfl := step_tick h
    exact .kept

end

end DockerMap
