import DockerMap.Core.Findings
import DockerMap.Daemon.DisplayText

/-! The single boundary that turns provider and Docker observations into data safe to
publish: redaction, Unicode normalization and collision handling. -/

namespace DockerMap

def redactDisplayStrings (values : List String) : List String :=
  values.map redactRuntimeDisplayText

/-! Docker snapshot and health -/

def redactContainerMount (mount : ContainerMount) : ContainerMount :=
  { mount with
    id := redactRuntimeDisplayText mount.id
    source := mount.source.map redactRuntimeDisplayText
    target := redactRuntimeDisplayText mount.target }

def redactContainerRecord (container : ContainerRecord) : ContainerRecord :=
  { container with
    id := redactRuntimeDisplayText container.id
    name := redactRuntimeDisplayText container.name
    image := redactRuntimeDisplayText container.image
    status := redactRuntimeDisplayText container.status
    role := redactRuntimeDisplayText container.role
    networks := redactDisplayStrings container.networks
    ports := redactDisplayStrings container.ports
    dependsOn := redactDisplayStrings container.dependsOn
    mounts := container.mounts.map redactContainerMount }

def redactImageRecord (image : ImageRecord) : ImageRecord where
  image := redactRuntimeDisplayText image.image
  containers := redactDisplayStrings image.containers
  status := redactRuntimeDisplayText image.status

def redactNetworkRecord (network : NetworkRecord) : NetworkRecord :=
  { network with
    id := redactRuntimeDisplayText network.id
    name := redactRuntimeDisplayText network.name
    driver := redactRuntimeDisplayText network.driver
    members := redactDisplayStrings network.members }

def redactVolumeRecord (volume : VolumeRecord) : VolumeRecord where
  id := redactRuntimeDisplayText volume.id
  name := redactRuntimeDisplayText volume.name
  attachedTo := redactDisplayStrings volume.attachedTo

def publishDockerSnapshot (snapshot : DockerSnapshot) : DockerSnapshot :=
  { snapshot with
    containers := snapshot.containers.map redactContainerRecord
    images := snapshot.images.map redactImageRecord
    networks := snapshot.networks.map redactNetworkRecord
    volumes := snapshot.volumes.map redactVolumeRecord }

def redactHealthResponse (health : HealthResponse) : HealthResponse :=
  { health with message := health.message.map redactRuntimeDisplayText }

/-! Runtime nodes -/

def redactOwnership (owner : RuntimeOwnership) : RuntimeOwnership :=
  { owner with
    name := redactRuntimeDisplayText owner.name
    id := owner.id.map redactRuntimeDisplayText }

def redactLocation (location : RuntimeLocation) : RuntimeLocation :=
  { location with
    value := redactRuntimeDisplayText location.value
    detail := location.detail.map redactRuntimeDisplayText }

def redactServiceHealth (health : RuntimeHealth) : RuntimeHealth :=
  { health with
    source := health.source.map redactRuntimeDisplayText
    message := health.message.map redactRuntimeDisplayText }

def redactLogRef (log : RuntimeLogRef) : RuntimeLogRef :=
  { log with
    id := redactRuntimeDisplayText log.id
    source := redactRuntimeDisplayText log.source }

def redactServiceEntity (service : RuntimeServiceEntity) : RuntimeServiceEntity :=
  { service with
    name := redactRuntimeDisplayText service.name
    dependencies := redactDisplayStrings service.dependencies
    dependents := redactDisplayStrings service.dependents
    health := service.health.map redactServiceHealth
    logs := service.logs.map redactLogRef
    owner := service.owner.map redactOwnership
    location := service.location.map redactLocation }

def redactPackageAdvisory (advisory : RuntimePackageAdvisory) : RuntimePackageAdvisory :=
  { advisory with
    id := redactRuntimeDisplayText advisory.id
    title := redactRuntimeDisplayText advisory.title
    source := redactRuntimeDisplayText advisory.source
    fixedVersion := advisory.fixedVersion.map redactRuntimeDisplayText
    url := advisory.url.map redactRuntimeDisplayText }

def redactPackageUpdate (update : RuntimePackageUpdate) : RuntimePackageUpdate :=
  { update with
    currentVersion := redactRuntimeDisplayText update.currentVersion
    latestVersion := update.latestVersion.map redactRuntimeDisplayText
    advisories := update.advisories.map redactPackageAdvisory }

def redactPackageEntity (package : RuntimePackageEntity) : RuntimePackageEntity :=
  { package with
    name := redactRuntimeDisplayText package.name
    version := redactRuntimeDisplayText package.version
    dependencies := redactDisplayStrings package.dependencies
    dependents := redactDisplayStrings package.dependents
    update := package.update.map redactPackageUpdate
    owner := package.owner.map redactOwnership
    location := package.location.map redactLocation }

def redactRuntimeNode (node : RuntimeMapNode) : RuntimeMapNode :=
  { node with
    id := redactRuntimeDisplayText node.id
    label := redactRuntimeDisplayText node.label
    status := node.status.map redactRuntimeDisplayText
    metadata := node.metadata.mapValues redactRuntimeDisplayText
    service := node.service.map redactServiceEntity
    package := node.package.map redactPackageEntity }

def redactRuntimeNodes (nodes : List RuntimeMapNode) : List RuntimeMapNode :=
  nodes.map redactRuntimeNode

/-! Runtime edges -/

def redactEvidenceText (value : String) : String :=
  truncateChars (redactRuntimeDisplayText value) maxRuntimeEvidenceTextChars

/-- The subject is an edge endpoint, so it is not truncated apart from its edge. -/
def redactRuntimeEvidenceRef (evidence : RuntimeEvidenceRef) : RuntimeEvidenceRef :=
  { evidence with
    subjectRef := redactRuntimeDisplayText evidence.subjectRef
    id := redactEvidenceText evidence.id
    summary := redactEvidenceText evidence.summary
    providerRevision := redactEvidenceText evidence.providerRevision }

def runtimeEvidenceSortKey (evidence : RuntimeEvidenceRef) : String :=
  (Json.encode evidence).toText

def redactRuntimeEvidenceRefs (evidenceRefs : List RuntimeEvidenceRef) :
    List RuntimeEvidenceRef :=
  sortByKey runtimeEvidenceSortKey (evidenceRefs.map redactRuntimeEvidenceRef)

/-- No evidence is better than a plausible fact attached to the wrong relationship. -/
def dropInvalidEvidence (edge : RuntimeMapEdge) : RuntimeMapEdge :=
  if edge.hasValidEvidenceRefs then edge else { edge with evidenceRefs := [] }

def redactRuntimeEdge (edge : RuntimeMapEdge) : RuntimeMapEdge :=
  dropInvalidEvidence
    { edge with
      source := redactRuntimeDisplayText edge.source
      target := redactRuntimeDisplayText edge.target
      metadata := edge.metadata.mapValues redactRuntimeDisplayText
      evidenceRefs := redactRuntimeEvidenceRefs edge.evidenceRefs }

def redactRuntimeEdges (edges : List RuntimeMapEdge) : List RuntimeMapEdge :=
  edges.map redactRuntimeEdge

def redactRuntimeDiagnostics (diagnostics : List RuntimeMapDiagnostic) :
    List RuntimeMapDiagnostic :=
  diagnostics.map fun diagnostic =>
    { diagnostic with message := redactRuntimeDisplayText diagnostic.message }

/-! Topology -/

def hasEndpoints (nodes : List RuntimeMapNode) (edge : RuntimeMapEdge) : Bool :=
  nodes.any (fun node => node.id == edge.source) && nodes.any fun node => node.id == edge.target

/-- Every observed node is kept; edges without both endpoints are not. -/
def normalizeRuntimeMapTopology (runtimeMap : RuntimeMap) : RuntimeMap :=
  { runtimeMap with
    nodes := sortByKey runtimeNodeSortKey runtimeMap.nodes
    edges := dedup (sortByKey runtimeEdgeSortKey
      (runtimeMap.edges.filter (hasEndpoints runtimeMap.nodes))) }

def redactRuntimeMap (runtimeMap : RuntimeMap) : RuntimeMap :=
  normalizeRuntimeMapTopology
    { runtimeMap with
      nodes := redactRuntimeNodes runtimeMap.nodes
      edges := redactRuntimeEdges runtimeMap.edges
      diagnostics := redactRuntimeDiagnostics runtimeMap.diagnostics }

/-- Whether the sanitized topology contains an ambiguous identity. -/
def runtimeMapHasIdentityCollision (runtimeMap : RuntimeMap) : Bool :=
  duplicateRuntimeNodeIds runtimeMap.nodes ≠ []

def integrityNode (id label : String) (kind : RuntimeNodeKind) : RuntimeMapNode where
  id := id
  provider := .other
  kind := kind
  label := label
  status := none
  layer := some .advisory
  metadata := ∅
  service := none
  package := none

def integrityScopeNode : RuntimeMapNode :=
  integrityNode runtimeIntegrityScopeId "Runtime identity integrity" .integrityScope

def identityCollisionRiskNode : RuntimeMapNode :=
  integrityNode runtimeIdentityCollisionRiskId "Duplicate runtime topology identity" .hostRisk

def identityCollisionEdge (providerRevision : String) (collectedAt : ℕ) : RuntimeMapEdge where
  source := runtimeIntegrityScopeId
  target := runtimeIdentityCollisionRiskId
  relationship := .relatedTo
  metadata := ∅
  evidenceRefs :=
    [{ version := 7
       id := "dockermap_evidence_runtime_identity_collision"
       provider := .dockermap
       kind := .runtimeIdentityCollision
       assertionKind := .observed
       summary := runtimeIdentityCollisionEvidenceSummary
       subjectRef := runtimeIntegrityScopeId
       collectedAt := collectedAt
       providerRevision := providerRevision
       providerSlot := none
       freshness := .fresh }]

def isReservedIntegrityId (id : String) : Bool :=
  id == runtimeIntegrityScopeId || id == runtimeIdentityCollisionRiskId

/-- Append one fixed, aggregate integrity fact, unless a node already uses a reserved id. -/
def appendRuntimeIdentityCollisionFact (runtimeMap : RuntimeMap) (providerRevision : String)
    (collectedAt : ℕ) : RuntimeMap :=
  if providerRevision = "" ∨ runtimeMap.nodes.any fun node => isReservedIntegrityId node.id then
    runtimeMap
  else
    { runtimeMap with
      nodes := sortByKey runtimeNodeSortKey
        (runtimeMap.nodes ++ [integrityScopeNode, identityCollisionRiskNode])
      edges := sortByKey runtimeEdgeSortKey
        (runtimeMap.edges ++ [identityCollisionEdge providerRevision collectedAt]) }

end DockerMap
