import DockerMap.Core.ComposeRuntimeBinding
import DockerMap.Core.Fixtures
import DockerMap.Core.ObservedHistory
import DockerMap.Daemon.RuntimeCollection
import DockerMap.Lib.ChangeToken

/-! Daemon cache state: the retained observations of every provider slot, the opaque
revisions, and the three lock-protected transitions (publish a Docker read, claim due
slots, apply a slot's outcome). Clock readings and random boot components are inputs.
Sequences are unbounded: the source stops the process on overflow. -/

namespace DockerMap

/-! Opaque revisions -/

/-- Sixteen random bytes in lowercase hexadecimal. -/
structure BootToken where
  text : String
  wellFormed : text.toList.length = 32 ∧ text.toList.all isLowerHex

abbrev PublicationRevision := ChangeToken String

abbrev DockerObservationRevision := ChangeToken String

abbrev IntegrityObservationRevision := ChangeToken Bool

def clearEvidenceTime (evidence : RuntimeEvidenceRef) : RuntimeEvidenceRef :=
  { evidence with collectedAt := 0 }

def clearEdgeTime (edge : RuntimeMapEdge) : RuntimeMapEdge :=
  { edge with evidenceRefs := edge.evidenceRefs.map clearEvidenceTime }

def clearVolatileSnapshot (snapshot : DockerSnapshot) : DockerSnapshot :=
  { snapshot with modelRevision := "", lastUpdated := 0 }

def clearVolatileHealth (health : HealthResponse) : HealthResponse :=
  { health with modelRevision := "", lastUpdated := 0, snapshotVersion := "" }

def clearVolatileRuntimeMap (runtimeMap : RuntimeMap) : RuntimeMap :=
  { runtimeMap with
    modelRevision := ""
    lastUpdated := 0
    edges := runtimeMap.edges.map clearEdgeTime }

/-- The sanitized models without their observation markers. -/
structure PublishedModel where
  snapshot : DockerSnapshot
  health : HealthResponse
  runtimeMap : RuntimeMap
  deriving DecidableEq

def publishedModel (snapshot : DockerSnapshot) (health : HealthResponse)
    (runtimeMap : RuntimeMap) : PublishedModel where
  snapshot := clearVolatileSnapshot (publishDockerSnapshot snapshot)
  health := clearVolatileHealth (redactHealthResponse health)
  runtimeMap := clearVolatileRuntimeMap (redactRuntimeMap runtimeMap)

def PublishedModel.observable (model : PublishedModel) : String :=
  (Json.arr [Json.encode model.snapshot, Json.encode model.health,
    Json.encode model.runtimeMap]).toText

theorem PublishedModel.observable_injective : Function.Injective PublishedModel.observable := by
  intro a b h
  have hparts := Json.arr.inj (Json.toText_injective h)
  cases a
  cases b
  simpa using hparts

/-- What the Docker token observes; `mode` is the source of the bytes. -/
def dockerObservable (snapshot : DockerSnapshot) (mode : RuntimeMode) : String :=
  (Json.arr [Json.encode mode,
    Json.encode (clearVolatileSnapshot (publishDockerSnapshot snapshot))]).toText

/-! Provider slots -/

inductive RuntimeProviderState
  | unavailable
  | fresh (collection : ProviderCollection)
  | collecting (retained : Option ProviderCollection)
  | degraded (retained : Option ProviderCollection)
  | timedOut (retained : Option ProviderCollection)

def RuntimeProviderState.isCollecting : RuntimeProviderState → Bool
  | .collecting _ => true
  | _ => false

structure SlotDataRevision where
  boot : String
  sequence : ℕ
  deriving DecidableEq

def SlotDataRevision.first (boot : BootToken) : SlotDataRevision where
  boot := boot.text
  sequence := 1

def SlotDataRevision.advance (revision : SlotDataRevision) : SlotDataRevision :=
  { revision with sequence := revision.sequence + 1 }

def SlotDataRevision.toPublic (revision : SlotDataRevision) : String :=
  ChangeToken.text revision.boot revision.sequence

structure SlotFreshness where
  lastAttemptMs : Option ℕ := none
  lastSuccessMs : Option ℕ := none
  lastDurationMs : Option ℕ := none
  consecutiveFailureCount : ℕ := 0
  dataRevision : Option SlotDataRevision := none
  dataObservable : Option String := none
  statusReason : Option ProviderStatusReason := none

structure SlotRuntimeState where
  observation : RuntimeProviderState := .unavailable
  completedAt : Option ℕ := none
  freshness : SlotFreshness := {}

abbrev RuntimeProviderSlots := ProviderSlot → SlotRuntimeState

def unavailableProviderSlots : RuntimeProviderSlots := fun _ => {}

/-- A source flip drops all retained evidence and its opaque identity. -/
def sourceResetProviderSlots : RuntimeProviderSlots := fun _ =>
  { freshness := { statusReason := some .sourceReset } }

def retainedCollection : RuntimeProviderState → Option ProviderCollection
  | .fresh collection => some collection
  | .collecting retained | .degraded retained | .timedOut retained => retained
  | .unavailable => none

def markNetworkObservationStale (slots : RuntimeProviderSlots) : RuntimeProviderSlots :=
  match (slots .networkInfrastructure).observation with
  | .fresh collection =>
      Function.update slots .networkInfrastructure
        { slots .networkInfrastructure with observation := .degraded (some collection) }
  | _ => slots

/-! Public slot states -/

def providerStateKind (slot : ProviderSlot) (observation : RuntimeProviderState) :
    ProviderStateKind :=
  let base := ((retainedCollection observation).bind fun collection =>
    collection.stateOf slot).getD .unavailable
  match observation with
  | .fresh _ => base
  | .collecting _ =>
      if base = .disabled then .disabled
      else if base = .unavailable then .collecting
      else .stale
  | .degraded retained =>
      if base = .disabled then .disabled
      else if retained.isSome then .stale
      else .unavailable
  | .timedOut _ => if base = .disabled then .disabled else .timedOut
  | .unavailable => .unavailable

def providerStateFor (slots : RuntimeProviderSlots) (slot : ProviderSlot) : ProviderState :=
  let freshness := (slots slot).freshness
  let state := providerStateKind slot (slots slot).observation
  { slot := slot
    state := state
    lastAttemptMs := freshness.lastAttemptMs
    lastSuccessMs := freshness.lastSuccessMs
    lastDurationMs := freshness.lastDurationMs
    consecutiveFailureCount := freshness.consecutiveFailureCount
    dataRevision := freshness.dataRevision.map SlotDataRevision.toPublic
    statusReason := if state = .disabled then some .disabled else freshness.statusReason }

def providerStatesFor (slots : RuntimeProviderSlots) : List ProviderState :=
  staticProviderSlots.map (providerStateFor slots)

def unavailableProviderStates : List ProviderState :=
  staticProviderSlots.map fun slot => initialProviderState slot .unavailable

/-! Evidence of host-provider relationships -/

/-- How a slot turns the private marker of an edge into public evidence. -/
structure EvidenceBinding where
  slot : ProviderSlot
  marker : String
  version : ℕ
  provider : RuntimeEvidenceProvider
  assertionKind : RuntimeEvidenceAssertionKind
  /-- Kind, id prefix and summary for a marker value. -/
  fact : String → Option (RuntimeEvidenceKind × String × String)
  attests : RuntimeMapEdge → RuntimeEvidenceKind → Bool

def systemdBinding : EvidenceBinding where
  slot := .systemd
  marker := "__dockermapSystemdEvidenceKind"
  version := 2
  provider := .systemd
  assertionKind := .declared
  fact value :=
    if value = "requires" then
      some (.systemdRequires, "systemd_evidence_requires_",
        "systemd declared a Requires dependency")
    else if value = "wants" then
      some (.systemdWants, "systemd_evidence_wants_", "systemd declared a Wants dependency")
    else if value = "part_of" then
      some (.systemdPartOf, "systemd_evidence_part-of_", "systemd declared a PartOf dependency")
    else none
  attests edge kind :=
    edge.links
      (match kind with
        | .systemdRequires => .requires
        | .systemdWants => .wants
        | _ => .partOf) "systemd_service_" "systemd_service_"

def declaredFact (expected : String) (fact : RuntimeEvidenceKind × String × String)
    (value : String) : Option (RuntimeEvidenceKind × String × String) :=
  if value = expected then some fact else none

def npmBinding : EvidenceBinding where
  slot := .projectNpm
  marker := "__dockermapNpmManifestDependency"
  version := 3
  provider := .npm
  assertionKind := .declared
  fact := declaredFact "declared" (.npmPackageManifestDependency,
    "npm_evidence_manifest_dependency_", "package manifest declared a dependency")
  attests edge _ := edge.links .dependsOn "npm_project_" "npm_package_"

def cronBinding : EvidenceBinding where
  slot := .cron
  marker := "__dockermapCronScheduleDeclaration"
  version := 4
  provider := .cron
  assertionKind := .declared
  fact := declaredFact "declared" (.cronScheduleDeclaration, "cron_evidence_schedule_",
    "cron declared a scheduled job")
  attests edge _ := edge.links .runsOn "scheduled_job_" "" && edge.target == "host_local"

def tmuxBinding : EvidenceBinding where
  slot := .tmux
  marker := "__dockermapTmuxSessionListing"
  version := 5
  provider := .tmux
  assertionKind := .observed
  fact := declaredFact "observed" (.tmuxSessionListing, "tmux_evidence_session_listing_",
    "tmux listed a local session")
  attests edge _ := edge.links .runsOn "tmux_session_" "" && edge.target == "host_local"

/-- Freshness of the evidence a retained observation still gives. -/
def evidenceFreshness : RuntimeProviderState → Option RuntimeEvidenceFreshness
  | .fresh _ => some .fresh
  | .collecting (some _) | .degraded (some _) => some .stale
  | .timedOut (some _) => some .timedOut
  | _ => none

structure SlotAttestation where
  freshness : RuntimeEvidenceFreshness
  revision : String
  collectedAt : ℕ

/-- What a slot can attest: nothing while it is disabled, unavailable or revision-less. -/
def slotAttestation (slot : ProviderSlot) (state : SlotRuntimeState) : Option SlotAttestation :=
  if (retainedCollection state.observation).any fun collection => collection.isDisabled slot then
    none
  else do
    let freshness ← evidenceFreshness state.observation
    let revision ← state.freshness.dataRevision
    let collectedAt ← state.freshness.lastSuccessMs
    some ⟨freshness, revision.toPublic, collectedAt⟩

def boundEvidence (binding : EvidenceBinding) (attestation : SlotAttestation)
    (edge : RuntimeMapEdge) : List RuntimeEvidenceRef :=
  match (edge.metadata.get? binding.marker).bind binding.fact with
  | some (kind, idPrefix, summary) =>
      if binding.attests edge kind && edge.source != edge.target then
        [{ version := binding.version
           id := idPrefix ++ pairIdentity edge.source edge.target
           provider := binding.provider
           kind := kind
           assertionKind := binding.assertionKind
           summary := summary
           subjectRef := edge.source
           collectedAt := attestation.collectedAt
           providerRevision := attestation.revision
           providerSlot := some binding.slot
           freshness := attestation.freshness }]
      else []
  | none => []

/-- The private marker is removed in every path. -/
def bindEdgeEvidence (binding : EvidenceBinding) (state : SlotRuntimeState)
    (edge : RuntimeMapEdge) : RuntimeMapEdge :=
  { edge with
    metadata := edge.metadata.erase binding.marker
    evidenceRefs :=
      match slotAttestation binding.slot state with
      | some attestation => boundEvidence binding attestation edge
      | none => [] }

def evidenceBinding : ProviderSlot → Option EvidenceBinding
  | .systemd => some systemdBinding
  | .projectNpm => some npmBinding
  | .cron => some cronBinding
  | .tmux => some tmuxBinding
  | _ => none

def bindSlotEvidence (slot : ProviderSlot) (state : SlotRuntimeState)
    (edges : List RuntimeMapEdge) : List RuntimeMapEdge :=
  match evidenceBinding slot with
  | some binding => edges.map (bindEdgeEvidence binding state)
  | none => edges

/-! The public runtime map -/

def slotDiagnosticMessage : RuntimeProviderState → String
  | .collecting (some _) =>
      "Runtime provider slot refresh is in progress; serving retained observations (stale)"
  | .collecting none =>
      "Runtime provider slot refresh is in progress; no successful observations are available"
  | .degraded (some _) =>
      "Runtime provider slot refresh failed or observed older Docker evidence; serving retained observations (stale)"
  | .degraded none =>
      "Runtime provider slot refresh failed; no successful observations are available"
  | .timedOut (some _) =>
      "Runtime provider slot refresh timed out; serving retained observations (stale)"
  | .timedOut none =>
      "Runtime provider slot refresh timed out; no successful observations are available"
  | .unavailable =>
      "Runtime provider observations are unavailable until the first successful collection"
  -- unreachable in the source: fresh slots have no degradation diagnostic
  | .fresh _ => ""

def slotDiagnostic (observation : RuntimeProviderState) : Option RuntimeMapDiagnostic :=
  match observation with
  | .fresh _ => none
  | _ => some
      { provider := .other
        severity := .warning
        message := slotDiagnosticMessage observation }

def slotContribution (slots : RuntimeProviderSlots) (slot : ProviderSlot) : ProviderCollection :=
  match retainedCollection (slots slot).observation with
  | some collection =>
      { nodes := collection.nodes
        edges := bindSlotEvidence slot (slots slot) collection.edges
        diagnostics := collection.diagnostics }
  | none => {}

def combinedCollection (slots : RuntimeProviderSlots) : ProviderCollection where
  nodes := staticProviderSlots.flatMap fun slot => (slotContribution slots slot).nodes
  edges := staticProviderSlots.flatMap fun slot => (slotContribution slots slot).edges
  diagnostics := staticProviderSlots.flatMap fun slot => (slotContribution slots slot).diagnostics

def hasExactlyOneCanonicalHost (nodes : List RuntimeMapNode) : Bool :=
  match nodes.filter fun node => node.id == "host_local" with
  | [node] => node.provider == .host && node.kind == .host
  | _ => false

def isUniqueTmuxSession (nodes : List RuntimeMapNode) (id : String) : Bool :=
  match nodes.filter fun node => node.id == id with
  | [node] => node.provider == .tmux && node.kind == .tmuxSession
  | _ => false

/-- A relationship to the local host is kept only while that host is canonical. -/
def keepsHostRelationship (nodes : List RuntimeMapNode) (mode : RuntimeMode)
    (edge : RuntimeMapEdge) : Bool :=
  if edge.target != "host_local" || edge.relationship != .runsOn then true
  else if Text.startsWith edge.source.toList "scheduled_job_".toList then
    hasExactlyOneCanonicalHost nodes
  else if Text.startsWith edge.source.toList "tmux_session_".toList then
    mode == .docker && hasExactlyOneCanonicalHost nodes && isUniqueTmuxSession nodes edge.source
  else true

def runtimeMapForSnapshot (snapshot : DockerSnapshot) (mode : RuntimeMode)
    (slots : RuntimeProviderSlots) (dockerObservationRevision : String) : RuntimeMap :=
  let combined := combinedCollection slots
  let combined :=
    { combined with edges := combined.edges.filter (keepsHostRelationship combined.nodes mode) }
  let runtimeMap := runtimeMapFromCollection snapshot combined dockerObservationRevision mode
  { runtimeMap with
    providerStates := providerStatesFor slots
    diagnostics := runtimeMap.diagnostics ++
      staticProviderSlots.filterMap fun slot => slotDiagnostic (slots slot).observation }

/-! Observed history -/

structure ObservedHistoryCache where
  boot : String
  nextSequence : ℕ := 0
  lastObservedAtMs : Option ℕ := none
  baseline : Option ObservedContainerInventory := none
  events : List ObservedChangeEvent := []

namespace ObservedHistoryCache

def maxSafeJsInteger : ℕ := 9007199254740991

def push (history : ObservedHistoryCache) (observedAtMs : ℕ) (containerId : String)
    (kind : ObservedChangeKind) (previousStatus currentStatus : Option ObservedContainerStatus) :
    ObservedHistoryCache :=
  let sequence := history.nextSequence + 1
  let events := history.events ++
    [{ id := ChangeToken.text history.boot sequence
       kind := kind
       observedAtMs := observedAtMs
       containerId := containerId
       previousStatus := previousStatus
       currentStatus := currentStatus }]
  { history with
    nextSequence := sequence
    events := events.drop (events.length - maxObservedChangeEvents) }

def pushDisappeared (current : ObservedContainerInventory) (observedAtMs : ℕ)
    (history : ObservedHistoryCache) (previous : String × ObservedContainerStatus) :
    ObservedHistoryCache :=
  if (current.containers.get? previous.1).isSome || current.ambiguousIds.mem previous.1 then history
  else history.push observedAtMs previous.1 .containerDisappeared (some previous.2) none

def pushCurrent (previous : ObservedContainerInventory) (observedAtMs : ℕ)
    (history : ObservedHistoryCache) (current : String × ObservedContainerStatus) :
    ObservedHistoryCache :=
  match previous.containers.get? current.1 with
  | none =>
      if previous.ambiguousIds.mem current.1 then history
      else history.push observedAtMs current.1 .containerAppeared none (some current.2)
  | some previousStatus =>
      if previousStatus ≠ current.2 then
        history.push observedAtMs current.1 .containerStatusChanged (some previousStatus)
          (some current.2)
      else history

/-- A first snapshot is a baseline; an unusable clock reading starts a fresh epoch. -/
def observePublishedSnapshot (history : ObservedHistoryCache) (freshBoot : BootToken)
    (snapshot : DockerSnapshot) : ObservedHistoryCache :=
  let current := observedContainerInventory snapshot
  if maxSafeJsInteger < snapshot.lastUpdated ||
      history.lastObservedAtMs.any (fun previous => snapshot.lastUpdated < previous) then
    { boot := freshBoot.text, baseline := some current }
  else
    let observed :=
      { history with lastObservedAtMs := some snapshot.lastUpdated, baseline := some current }
    match history.baseline with
    | none => observed
    | some previous =>
        let observed := previous.containers.entries.foldl
          (pushDisappeared current snapshot.lastUpdated) observed
        current.containers.entries.foldl (pushCurrent previous snapshot.lastUpdated) observed

def response (history : ObservedHistoryCache) (source : RuntimeMode)
    (currentModelRevision observedRevision : String) : ObservedChangeHistoryResponse :=
  if source ≠ .docker ∨ history.baseline = none then
    { source := source
      baselineEstablished := false
      currentModelRevision := none
      observedRevision := none
      events := [] }
  else
    { source := source
      baselineEstablished := true
      currentModelRevision := some currentModelRevision
      observedRevision := some observedRevision
      events := history.events.reverse }

end ObservedHistoryCache

/-! The cache -/

structure DaemonCache where
  snapshot : DockerSnapshot
  health : HealthResponse
  runtimeMap : RuntimeMap := {}
  findings : FindingsResponse := {}
  composeRuntimeBinding : Option (ComposeScan × ComposeRuntimeBinding) := none
  runtimeProviders : RuntimeProviderSlots := unavailableProviderSlots
  sourceGeneration : ℕ := 0
  dockerObservationRevision : DockerObservationRevision
  integrityObservationRevision : IntegrityObservationRevision
  revision : PublicationRevision
  observedHistory : ObservedHistoryCache

def emptyRuntimeMap (lastUpdated : ℕ) : RuntimeMap where
  lastUpdated := lastUpdated
  providerStates := unavailableProviderStates

def snapshotObservationToken (lastUpdated : ℕ) : String := toString lastUpdated

/-- The random boot components a new cache draws. -/
structure CacheBoots where
  docker : BootToken
  integrity : BootToken
  history : BootToken

namespace DaemonCache

variable (cache : DaemonCache)

abbrev mode : RuntimeMode := cache.health.mode

def published : PublishedModel := publishedModel cache.snapshot cache.health cache.runtimeMap

def dockerObservationToken : String := cache.dockerObservationRevision.current

/-- The Compose findings of a Docker publication, attested by the Docker token. -/
def composeFindings : List Finding :=
  if cache.mode = .docker then
    match cache.composeRuntimeBinding with
    | some (scan, binding) =>
        deriveComposeRuntimeMountFindings scan
          { binding with providerRevision := cache.dockerObservationToken }
    | none => []
  else []

def findingsFor (modelRevision : String) : FindingsResponse :=
  let findings := sortByKey Finding.id
    (deriveFindings { cache.runtimeMap with modelRevision := modelRevision } ++
      cache.composeFindings)
  { findings := findings
    summary := .fromFindings findings
    modelRevision := modelRevision
    source := none }

/-- All model envelopes of one publication attest the same revision. -/
def assignRevision : DaemonCache :=
  let revision := cache.revision.assign cache.published.observable
  let modelRevision := revision.current
  { cache with
    revision := revision
    snapshot := { cache.snapshot with modelRevision := modelRevision }
    health := { cache.health with modelRevision := modelRevision }
    runtimeMap := { cache.runtimeMap with modelRevision := modelRevision }
    findings := cache.findingsFor modelRevision }

def assignDockerObservationRevision : DaemonCache :=
  { cache with
    dockerObservationRevision :=
      cache.dockerObservationRevision.assign (dockerObservable cache.snapshot cache.mode) }

def applyRuntimeIdentityCollisionFact : DaemonCache :=
  let active := cache.mode == .docker && runtimeMapHasIdentityCollision cache.runtimeMap
  let integrity := cache.integrityObservationRevision.assign active
  { cache with
    integrityObservationRevision := integrity
    runtimeMap :=
      if active then
        appendRuntimeIdentityCollisionFact cache.runtimeMap integrity.current
          cache.snapshot.lastUpdated
      else cache.runtimeMap }

def rebuildRuntimeMap : DaemonCache :=
  let cache := cache.assignDockerObservationRevision
  applyRuntimeIdentityCollisionFact
    { cache with
      runtimeMap := runtimeMapForSnapshot cache.snapshot cache.mode cache.runtimeProviders
        cache.dockerObservationToken }

def observedHistoryResponse : ObservedChangeHistoryResponse :=
  cache.observedHistory.response cache.mode cache.snapshot.modelRevision
    cache.dockerObservationToken

end DaemonCache

/-- The caches of one process: `processBoot` is its boot instance component. -/
def newCache (processBoot : BootToken) (boots : CacheBoots) (snapshot : DockerSnapshot)
    (health : HealthResponse) : DaemonCache where
  snapshot := snapshot
  health := health
  dockerObservationRevision := .new boots.docker.text
  integrityObservationRevision := .new boots.integrity.text
  revision := .new processBoot.text
  observedHistory := { boot := boots.history.text }

def mockHealth (lastUpdated : ℕ) : HealthResponse :=
  redactHealthResponse
    { status := .degraded
      mode := .mock
      dockerReachable := false
      lastUpdated := lastUpdated
      snapshotVersion := snapshotObservationToken lastUpdated
      modelRevision := ""
      message := some "Docker unavailable, serving mock data" }

def DaemonCache.mock (processBoot : BootToken) (boots : CacheBoots) (now : ℕ) : DaemonCache :=
  let snapshot := mockSnapshot now
  let snapshot := { snapshot with images := deriveImages snapshot }
  ({ newCache processBoot boots snapshot (mockHealth snapshot.lastUpdated) with
      runtimeMap := emptyRuntimeMap snapshot.lastUpdated }
    |>.assignDockerObservationRevision).assignRevision

def dockerHealth (lastUpdated : ℕ) : HealthResponse where
  status := .ok
  mode := .docker
  dockerReachable := true
  lastUpdated := lastUpdated
  snapshotVersion := snapshotObservationToken lastUpdated
  modelRevision := ""
  message := some "Docker engine connected"

/-- How one attempt to read Docker ended. The binding is absent when the bounded Compose
projection was still in flight, timed out or found no usable declaration. -/
inductive SnapshotRead
  | forcedMock
  | observed (snapshot : DockerSnapshot) (binding : Option (ComposeScan × ComposeRuntimeBinding))
  | failed (error : String)
  | timedOut
  | unavailable (error : String)

def SnapshotRead.mode : SnapshotRead → RuntimeMode
  | .observed _ _ => .docker
  | _ => .mock

def DaemonCache.withMessage (cache : DaemonCache) (message : String) : DaemonCache :=
  { cache with health := redactHealthResponse { cache.health with message := some message } }

def dockerSnapshotCandidate (processBoot : BootToken) (boots : CacheBoots)
    (snapshot : DockerSnapshot) (binding : Option (ComposeScan × ComposeRuntimeBinding)) :
    DaemonCache :=
  let snapshot := { snapshot with images := deriveImages snapshot }
  { newCache processBoot boots snapshot (redactHealthResponse (dockerHealth snapshot.lastUpdated))
      with
    runtimeMap := emptyRuntimeMap 0
    composeRuntimeBinding := binding }

/-- The candidate cache of a refresh; every failure falls back to the sample data. -/
def collectSnapshot (processBoot : BootToken) (boots : CacheBoots) (now : ℕ) :
    SnapshotRead → DaemonCache
  | .forcedMock =>
      (DaemonCache.mock processBoot boots now).withMessage
        "Mock mode forced by DOCKERMAP_FORCE_MOCK"
  | .observed snapshot binding => dockerSnapshotCandidate processBoot boots snapshot binding
  | .failed error =>
      (DaemonCache.mock processBoot boots now).withMessage
        ("Docker read failed, serving mock data: " ++ error)
  | .timedOut =>
      (DaemonCache.mock processBoot boots now).withMessage
        "Docker snapshot read timed out, serving mock data"
  | .unavailable error =>
      (DaemonCache.mock processBoot boots now).withMessage
        ("Docker unavailable, serving mock data: " ++ error)

/-- A provider pass is bound to Docker evidence, not to the publication revision. -/
def sameCollectionEvidence (left right : DockerSnapshot) : Bool :=
  { publishDockerSnapshot left with modelRevision := "" } =
    { publishDockerSnapshot right with modelRevision := "" }

/-! Publishing a Docker read -/

/-- The boot components a publication may draw: a history epoch for a new source and
one for an unusable clock reading. -/
structure PublicationBoots where
  newSource : BootToken
  newEpoch : BootToken

/-- The new cache before its model revision is assigned. -/
def DaemonCache.replacedBy (cache updated : DaemonCache) (boots : PublicationBoots) :
    DaemonCache :=
  let sameSource := cache.mode = updated.mode
  let slots := if sameSource then cache.runtimeProviders else sourceResetProviderSlots
  { updated with
    sourceGeneration :=
      if sameSource then cache.sourceGeneration else cache.sourceGeneration + 1
    runtimeProviders :=
      if sameSource ∧ !sameCollectionEvidence cache.snapshot updated.snapshot then
        markNetworkObservationStale slots
      else slots
    dockerObservationRevision := cache.dockerObservationRevision
    integrityObservationRevision :=
      if sameSource then cache.integrityObservationRevision
      else updated.integrityObservationRevision
    observedHistory :=
      if sameSource then cache.observedHistory else { boot := boots.newSource.text } }

def DaemonCache.observeHistory (cache : DaemonCache) (boots : PublicationBoots) : DaemonCache :=
  if cache.mode = .docker then
    { cache with
      observedHistory := cache.observedHistory.observePublishedSnapshot boots.newEpoch
        { publishDockerSnapshot cache.snapshot with
          lastUpdated := cache.snapshot.lastUpdated
          modelRevision := "" } }
  else cache

def publishDockerSnapshotCache (cache updated : DaemonCache) (boots : PublicationBoots) :
    DaemonCache :=
  let rebuilt := (cache.replacedBy updated boots).rebuildRuntimeMap
  ({ rebuilt with revision := cache.revision }.assignRevision).observeHistory boots

/-! Claiming due slots -/

def maxConcurrentProviderSlots : ℕ := 2

def isDue (now : ℕ) (slot : ProviderSlot) (state : SlotRuntimeState) : Bool :=
  match state.completedAt with
  | some completedAt => slotInterval slot ≤ now - completedAt
  | none => true

/-- Disabled is a profile fact: it is probed once and never queued again. -/
def isDisabledFresh (slot : ProviderSlot) : RuntimeProviderState → Bool
  | .fresh collection => collection.isDisabled slot
  | _ => false

def isClaimable (now : ℕ) (slot : ProviderSlot) (state : SlotRuntimeState) : Bool :=
  !state.observation.isCollecting && isDue now slot state && !isDisabledFresh slot state.observation

def claimSlot (attemptMs : Option ℕ) (state : SlotRuntimeState) : SlotRuntimeState :=
  { state with
    observation := .collecting (retainedCollection state.observation)
    freshness :=
      { state.freshness with
        lastAttemptMs := attemptMs
        statusReason := some .refreshing } }

/-- The slots the claim takes, from the candidates left and the capacity left. -/
def claimedSlots (now : ℕ) (slots : RuntimeProviderSlots) :
    List ProviderSlot → ℕ → List ProviderSlot
  | [], _ => []
  | _ :: _, 0 => []
  | slot :: rest, remaining + 1 =>
      if isClaimable now slot (slots slot) then slot :: claimedSlots now slots rest remaining
      else claimedSlots now slots rest (remaining + 1)

def occupiedSlots (slots : RuntimeProviderSlots) : ℕ :=
  staticProviderSlots.countP fun slot => (slots slot).observation.isCollecting

def claimDueSlotsWithActiveWorkers (slots : RuntimeProviderSlots) (now maxConcurrency : ℕ)
    (activeWorkers : ℕ) : List ProviderSlot :=
  claimedSlots now slots staticProviderSlots
    (maxConcurrency - max (occupiedSlots slots) activeWorkers)

/-- Every claimed slot reads the wall clock at its own claim. -/
def markClaimed (wall : ProviderSlot → Option ℕ) (claimed : List ProviderSlot)
    (slots : RuntimeProviderSlots) : RuntimeProviderSlots :=
  fun slot => if slot ∈ claimed then claimSlot (wall slot) (slots slot) else slots slot

/-- The claimed slots; `activeWorkers` counts the guards held. -/
def DaemonCache.dueSlots (cache : DaemonCache) (now activeWorkers : ℕ) : List ProviderSlot :=
  claimDueSlotsWithActiveWorkers cache.runtimeProviders now maxConcurrentProviderSlots activeWorkers

def claimDueProviderSlots (cache : DaemonCache) (now activeWorkers : ℕ)
    (wall : ProviderSlot → Option ℕ) : DaemonCache :=
  let due := cache.dueSlots now activeWorkers
  if due = [] then cache
  else
    ({ cache with
        runtimeProviders := markClaimed wall due cache.runtimeProviders }.rebuildRuntimeMap)
      |>.assignRevision

/-! Applying an outcome -/

def updateSlotDataRevision (processBoot : BootToken) (freshness : SlotFreshness)
    (collection : ProviderCollection) : SlotFreshness :=
  let observable := collection.sanitizedObservableIdentity
  if freshness.dataObservable = some observable then freshness
  else
    { freshness with
      dataRevision :=
        match freshness.dataRevision with
        | some revision => some revision.advance
        | none => some (.first processBoot)
      dataObservable := some observable }

def successfulDurationMs (attemptMs completedMs : Option ℕ) : Option ℕ := do
  let completed ← completedMs
  let attempt ← attemptMs
  some (completed - attempt)

/-- A successful collection; it is fresh only against the Docker evidence it observed. -/
def collectSlot (processBoot : BootToken) (collection : ProviderCollection) (sameEvidence : Bool)
    (completedMs : Option ℕ) (completedAt : ℕ) (state : SlotRuntimeState) : SlotRuntimeState :=
  let collection := collection.sanitizedForRetention
  let freshness := updateSlotDataRevision processBoot state.freshness collection
  { observation := if sameEvidence then .fresh collection else .degraded (some collection)
    completedAt := some completedAt
    freshness :=
      { freshness with
        lastSuccessMs := completedMs
        lastDurationMs := successfulDurationMs freshness.lastAttemptMs completedMs
        consecutiveFailureCount := 0
        statusReason := none } }

def failSlot (reason : ProviderStatusReason) (observation : RuntimeProviderState)
    (completedAt : Option ℕ) (state : SlotRuntimeState) : SlotRuntimeState where
  observation := observation
  completedAt := completedAt
  freshness :=
    { state.freshness with
      consecutiveFailureCount := u32SaturatingSucc state.freshness.consecutiveFailureCount
      statusReason := some reason }

def applyOutcome (processBoot : BootToken) (outcome : ProviderCollectionOutcome)
    (sameEvidence : Bool) (completedMs : Option ℕ) (completedAt : ℕ) (state : SlotRuntimeState) :
    SlotRuntimeState :=
  let retained := retainedCollection state.observation
  match outcome with
  | .collected collection =>
      collectSlot processBoot collection sameEvidence completedMs completedAt state
  -- a prior timed-out worker still owns the guard; the completion time is left as it was
  | .inFlight => failSlot .collectionTimedOut (.timedOut retained) state.completedAt state
  | .failed => failSlot .collectionFailed (.degraded retained) (some completedAt) state
  | .timedOut => failSlot .collectionTimedOut (.timedOut retained) (some completedAt) state

/-- What a worker observed when it was spawned. -/
structure Observed where
  snapshot : DockerSnapshot
  mode : RuntimeMode
  generation : ℕ

/-- An outcome is never applied across a source transition. -/
def DaemonCache.accepts (cache : DaemonCache) (observed : Observed) : Bool :=
  cache.mode == observed.mode && cache.sourceGeneration == observed.generation

def applyProviderSlotOutcome (processBoot : BootToken) (cache : DaemonCache) (slot : ProviderSlot)
    (observed : Observed) (outcome : ProviderCollectionOutcome) (completedMs : Option ℕ)
    (completedAt : ℕ) : DaemonCache :=
  if cache.accepts observed then
    let sameEvidence := sameCollectionEvidence cache.snapshot observed.snapshot
    ({ cache with
        runtimeProviders := Function.update cache.runtimeProviders slot
          (applyOutcome processBoot outcome sameEvidence completedMs completedAt
            (cache.runtimeProviders slot)) }.rebuildRuntimeMap)
      |>.assignRevision
  else cache

/-! What the transitions do to the source and to the slots -/

namespace DaemonCache

variable (cache updated : DaemonCache) (boots : PublicationBoots)

@[simp] theorem assignRevision_mode : cache.assignRevision.mode = cache.mode := rfl

@[simp] theorem assignRevision_sourceGeneration :
    cache.assignRevision.sourceGeneration = cache.sourceGeneration := rfl

@[simp] theorem assignRevision_runtimeProviders :
    cache.assignRevision.runtimeProviders = cache.runtimeProviders := rfl

@[simp] theorem assignRevision_providerStates :
    cache.assignRevision.runtimeMap.providerStates = cache.runtimeMap.providerStates := rfl

@[simp] theorem rebuildRuntimeMap_mode : cache.rebuildRuntimeMap.mode = cache.mode := rfl

@[simp] theorem rebuildRuntimeMap_sourceGeneration :
    cache.rebuildRuntimeMap.sourceGeneration = cache.sourceGeneration := rfl

@[simp] theorem rebuildRuntimeMap_runtimeProviders :
    cache.rebuildRuntimeMap.runtimeProviders = cache.runtimeProviders := rfl

@[simp] theorem appendRuntimeIdentityCollisionFact_providerStates (runtimeMap : RuntimeMap)
    (providerRevision : String) (collectedAt : ℕ) :
    (appendRuntimeIdentityCollisionFact runtimeMap providerRevision collectedAt).providerStates =
      runtimeMap.providerStates := by
  unfold appendRuntimeIdentityCollisionFact
  split_ifs <;> rfl

@[simp] theorem applyRuntimeIdentityCollisionFact_providerStates :
    cache.applyRuntimeIdentityCollisionFact.runtimeMap.providerStates =
      cache.runtimeMap.providerStates := by
  simp only [applyRuntimeIdentityCollisionFact]
  split
  · rw [appendRuntimeIdentityCollisionFact_providerStates]
  · rfl

/-- The slot vector of a rebuilt map is the projection of the slots. -/
@[simp] theorem rebuildRuntimeMap_providerStates :
    cache.rebuildRuntimeMap.runtimeMap.providerStates =
      providerStatesFor cache.runtimeProviders := by
  simp [rebuildRuntimeMap, runtimeMapForSnapshot, assignDockerObservationRevision]

@[simp] theorem observeHistory_mode : (cache.observeHistory boots).mode = cache.mode := by
  unfold observeHistory
  split_ifs <;> rfl

@[simp] theorem observeHistory_sourceGeneration :
    (cache.observeHistory boots).sourceGeneration = cache.sourceGeneration := by
  unfold observeHistory
  split_ifs <;> rfl

@[simp] theorem observeHistory_runtimeProviders :
    (cache.observeHistory boots).runtimeProviders = cache.runtimeProviders := by
  unfold observeHistory
  split_ifs <;> rfl

@[simp] theorem observeHistory_runtimeMap :
    (cache.observeHistory boots).runtimeMap = cache.runtimeMap := by
  unfold observeHistory
  split_ifs <;> rfl

@[simp] theorem publish_mode : (publishDockerSnapshotCache cache updated boots).mode =
    updated.mode := by
  simp only [publishDockerSnapshotCache, observeHistory_mode, assignRevision_mode]
  rfl

theorem publish_sourceGeneration :
    (publishDockerSnapshotCache cache updated boots).sourceGeneration =
      if cache.mode = updated.mode then cache.sourceGeneration
      else cache.sourceGeneration + 1 := by
  simp only [publishDockerSnapshotCache, observeHistory_sourceGeneration,
    assignRevision_sourceGeneration, rebuildRuntimeMap_sourceGeneration]
  rfl

theorem publish_runtimeProviders :
    (publishDockerSnapshotCache cache updated boots).runtimeProviders =
      (cache.replacedBy updated boots).runtimeProviders := by
  simp only [publishDockerSnapshotCache, observeHistory_runtimeProviders,
    assignRevision_runtimeProviders, rebuildRuntimeMap_runtimeProviders]

theorem replacedBy_of_flip (h : cache.mode ≠ updated.mode) :
    (cache.replacedBy updated boots).runtimeProviders = sourceResetProviderSlots := by
  simp [replacedBy, h]

theorem markNetworkObservationStale_apply (slots : RuntimeProviderSlots) (slot : ProviderSlot) :
    markNetworkObservationStale slots slot = slots slot ∨
      ∃ collection, (slots slot).observation = .fresh collection ∧
        markNetworkObservationStale slots slot =
          { slots slot with observation := .degraded (some collection) } := by
  by_cases hslot : slot = .networkInfrastructure
  · subst hslot
    cases hobs : (slots .networkInfrastructure).observation with
    | fresh collection =>
      right
      refine ⟨collection, rfl, ?_⟩
      simp [markNetworkObservationStale, hobs]
    | unavailable => left; simp [markNetworkObservationStale, hobs]
    | collecting retained => left; simp [markNetworkObservationStale, hobs]
    | degraded retained => left; simp [markNetworkObservationStale, hobs]
    | timedOut retained => left; simp [markNetworkObservationStale, hobs]
  · left
    cases hobs : (slots .networkInfrastructure).observation <;>
      simp [markNetworkObservationStale, hobs, hslot]

/-- A refresh of the same source touches a slot only by marking fresh network
observations stale. -/
theorem replacedBy_of_same (h : cache.mode = updated.mode) (slot : ProviderSlot) :
    (cache.replacedBy updated boots).runtimeProviders slot = cache.runtimeProviders slot ∨
      ∃ collection, (cache.runtimeProviders slot).observation = .fresh collection ∧
        (cache.replacedBy updated boots).runtimeProviders slot =
          { cache.runtimeProviders slot with observation := .degraded (some collection) } := by
  simp only [replacedBy, h, if_true, true_and]
  split_ifs with hevidence
  · exact markNetworkObservationStale_apply ..
  · exact Or.inl rfl

end DaemonCache

section

variable (cache : DaemonCache) (now activeWorkers : ℕ) (wall : ProviderSlot → Option ℕ)

theorem markClaimed_nil (slots : RuntimeProviderSlots) : markClaimed wall [] slots = slots := by
  funext slot
  simp [markClaimed]

theorem claim_runtimeProviders :
    (claimDueProviderSlots cache now activeWorkers wall).runtimeProviders =
      markClaimed wall (cache.dueSlots now activeWorkers) cache.runtimeProviders := by
  simp only [claimDueProviderSlots]
  split
  · rename_i hnil
    rw [hnil, markClaimed_nil]
  · rfl

@[simp] theorem claim_mode : (claimDueProviderSlots cache now activeWorkers wall).mode =
    cache.mode := by
  simp only [claimDueProviderSlots]
  split <;> rfl

@[simp] theorem claim_sourceGeneration :
    (claimDueProviderSlots cache now activeWorkers wall).sourceGeneration =
      cache.sourceGeneration := by
  simp only [claimDueProviderSlots]
  split <;> rfl

end

section

variable (processBoot : BootToken) (cache : DaemonCache) (slot : ProviderSlot)
  (observed : Observed) (outcome : ProviderCollectionOutcome) (completedMs : Option ℕ)
  (completedAt : ℕ)

@[simp] theorem apply_mode : (applyProviderSlotOutcome processBoot cache slot observed outcome
    completedMs completedAt).mode = cache.mode := by
  unfold applyProviderSlotOutcome
  split <;> rfl

@[simp] theorem apply_sourceGeneration : (applyProviderSlotOutcome processBoot cache slot observed
    outcome completedMs completedAt).sourceGeneration = cache.sourceGeneration := by
  unfold applyProviderSlotOutcome
  split <;> rfl

theorem apply_runtimeProviders : (applyProviderSlotOutcome processBoot cache slot observed outcome
    completedMs completedAt).runtimeProviders =
      if cache.accepts observed then
        Function.update cache.runtimeProviders slot
          (applyOutcome processBoot outcome
            (sameCollectionEvidence cache.snapshot observed.snapshot) completedMs completedAt
            (cache.runtimeProviders slot))
      else cache.runtimeProviders := by
  unfold applyProviderSlotOutcome
  split <;> rfl

end

/-! What a claim takes -/

theorem claimedSlots_subset {now : ℕ} {slots : RuntimeProviderSlots} {slot : ProviderSlot}
    {candidates : List ProviderSlot} {remaining : ℕ}
    (h : slot ∈ claimedSlots now slots candidates remaining) :
    isClaimable now slot (slots slot) := by
  induction candidates, remaining using claimedSlots.induct now slots with
  | case1 => simp [claimedSlots] at h
  | case2 => simp [claimedSlots] at h
  | case3 c rest remaining hc ih =>
    rw [claimedSlots, if_pos hc] at h
    rcases List.mem_cons.1 h with rfl | h
    · exact hc
    · exact ih h
  | case4 c rest remaining hc ih =>
    rw [claimedSlots, if_neg hc] at h
    exact ih h

theorem length_claimedSlots (now : ℕ) (slots : RuntimeProviderSlots)
    (candidates : List ProviderSlot) (remaining : ℕ) :
    (claimedSlots now slots candidates remaining).length ≤ remaining := by
  induction candidates, remaining using claimedSlots.induct now slots with
  | case1 => simp [claimedSlots]
  | case2 => simp [claimedSlots]
  | case3 c rest remaining hc ih =>
    rw [claimedSlots, if_pos hc, List.length_cons]
    omega
  | case4 c rest remaining hc ih =>
    rw [claimedSlots, if_neg hc]
    exact ih

section

variable {cache : DaemonCache} {now activeWorkers : ℕ}

theorem isClaimable_of_due {slot : ProviderSlot} (h : slot ∈ cache.dueSlots now activeWorkers) :
    isClaimable now slot (cache.runtimeProviders slot) :=
  claimedSlots_subset h

theorem length_dueSlots (cache : DaemonCache) (now activeWorkers : ℕ) :
    (cache.dueSlots now activeWorkers).length ≤
      maxConcurrentProviderSlots - max (occupiedSlots cache.runtimeProviders) activeWorkers :=
  length_claimedSlots ..

end

theorem isCollecting_of_isClaimable {now : ℕ} {slot : ProviderSlot} {state : SlotRuntimeState}
    (h : isClaimable now slot state) : state.observation.isCollecting = false := by
  simp only [isClaimable, Bool.and_eq_true, Bool.not_eq_true'] at h
  exact h.1.1

theorem isDue_of_isClaimable {now : ℕ} {slot : ProviderSlot} {state : SlotRuntimeState}
    (h : isClaimable now slot state) : isDue now slot state := by
  simp only [isClaimable, Bool.and_eq_true] at h
  exact h.1.2

/-- No outcome leaves its slot collecting. -/
theorem applyOutcome_isCollecting (processBoot : BootToken) (outcome : ProviderCollectionOutcome)
    (sameEvidence : Bool) (completedMs : Option ℕ) (completedAt : ℕ) (state : SlotRuntimeState) :
    (applyOutcome processBoot outcome sameEvidence completedMs completedAt
      state).observation.isCollecting = false := by
  cases outcome with
  | collected collection => cases sameEvidence <;> rfl
  | inFlight => rfl
  | failed => rfl
  | timedOut => rfl

@[simp] theorem collectSnapshot_mode (processBoot : BootToken) (boots : CacheBoots) (now : ℕ)
    (read : SnapshotRead) : (collectSnapshot processBoot boots now read).mode = read.mode := by
  cases read <;> rfl

end DockerMap
