import DockerMap.Core.Evidence
import DockerMap.Core.SnapshotRuntime
import Mathlib.Data.Prod.Lex

/-! Advisory findings derived from the already-public runtime topology. Every rule
fails closed on its own evidence shape and on uniquely identified entities. -/

namespace DockerMap

def runtimeIntegrityScopeId : String := "runtime_integrity_scope"

def runtimeIdentityCollisionRiskId : String := "runtime_integrity_risk_identity_collision"

def runtimeIdentityCollisionEvidenceSummary : String :=
  "DockerMap detected duplicate runtime identities after publication normalization"

/-! Node predicates -/

def isDockerContainer (node : RuntimeMapNode) : Bool :=
  node.provider == .docker && node.kind == .container

def isDockerDaemonStateRisk (node : RuntimeMapNode) : Bool :=
  node.provider == .docker && node.kind == .hostRisk && node.id == dockerDaemonStateRiskId &&
    node.metadata.isEmpty

def isDockerNetwork (node : RuntimeMapNode) : Bool :=
  node.provider == .docker && node.kind == .dockerNetwork &&
    node.metadata.get? "internal" == some "true"

def isNetworkListener (node : RuntimeMapNode) : Bool :=
  node.provider == .network && node.kind == .networkListener

def hasHostPublishedPort (node : RuntimeMapNode) : Bool :=
  (node.metadata.get? "port").any isHostPublishedDockerPort

def isDockerListener (node : RuntimeMapNode) : Bool :=
  isNetworkListener node && hasHostPublishedPort node

/-- A synthetic node with exactly its id, label and layer. -/
def isBareNode (node : RuntimeMapNode) (id label : String) (layer : RuntimeNodeLayer) : Bool :=
  node.id == id && node.label == label && node.status == none && node.layer == some layer &&
    node.metadata.isEmpty && node.service == none && node.package == none

def isRuntimeIntegrityScope (node : RuntimeMapNode) : Bool :=
  isBareNode node runtimeIntegrityScopeId "Runtime identity integrity" .advisory &&
    node.provider == .other && node.kind == .integrityScope

def isRuntimeIdentityCollisionRisk (node : RuntimeMapNode) : Bool :=
  isBareNode node runtimeIdentityCollisionRiskId "Duplicate runtime topology identity" .advisory &&
    node.provider == .other && node.kind == .hostRisk

def isUnspecifiedAddressPortRisk (node : RuntimeMapNode) : Bool :=
  isBareNode node dockerUnspecifiedAddressPortRiskId "Unspecified-address Docker port publication"
    .host && node.provider == .docker && node.kind == .hostRisk

def isSystemdService (node : RuntimeMapNode) : Bool :=
  node.provider == .systemd && node.kind == .systemdService

/-! Evidence predicates -/

/-- The edge's only evidence reference, once all of it is valid for the edge. -/
def soleEvidence (edge : RuntimeMapEdge) : Option RuntimeEvidenceRef :=
  if edge.hasValidEvidenceRefs then
    match edge.evidenceRefs with
    | [evidence] => some evidence
    | _ => none
  else none

def isFreshDockerEvidence (edge : RuntimeMapEdge) (kind : RuntimeEvidenceKind) : Bool :=
  (soleEvidence edge).any fun evidence =>
    evidence.version == 1 && evidence.provider == .docker && evidence.kind == kind &&
      evidence.assertionKind == .observed && evidence.freshness == .fresh &&
      evidence.subjectRef == edge.source && evidence.providerSlot == none

def hasEvidenceSummary (edge : RuntimeMapEdge) (summary : String) : Bool :=
  edge.evidenceRefs.head?.any fun evidence => evidence.summary == summary

def isSystemdDeclaration (edge : RuntimeMapEdge) (evidence : RuntimeEvidenceRef) : Bool :=
  evidence.version == 2 && evidence.provider == .systemd && evidence.assertionKind == .declared &&
    evidence.subjectRef == edge.source && evidence.providerSlot == some .systemd

/-- A fresh systemd declaration of the given relationship. -/
def isCandidateDeclaration (relationship : RuntimeRelationshipKind) (kind : RuntimeEvidenceKind)
    (edge : RuntimeMapEdge) : Bool :=
  edge.relationship == relationship && edge.source != edge.target &&
    (soleEvidence edge).any fun evidence =>
      isSystemdDeclaration edge evidence && evidence.kind == kind && evidence.freshness == .fresh

def isCandidateRequires : RuntimeMapEdge → Bool := isCandidateDeclaration .requires .systemdRequires

def isCandidatePartOf : RuntimeMapEdge → Bool := isCandidateDeclaration .partOf .systemdPartOf

def isCandidateNonCurrentDeclaredRelationship (edge : RuntimeMapEdge) : Bool :=
  edge.source != edge.target &&
    (soleEvidence edge).any fun evidence =>
      ((edge.relationship == .requires && evidence.kind == .systemdRequires) ||
        (edge.relationship == .wants && evidence.kind == .systemdWants) ||
        (edge.relationship == .partOf && evidence.kind == .systemdPartOf)) &&
      isSystemdDeclaration edge evidence &&
      (evidence.freshness == .stale || evidence.freshness == .timedOut)

/-! Edges between uniquely identified nodes -/

/-- The node with this id, when there is exactly one. -/
def uniqueNode (nodes : List RuntimeMapNode) (id : String) : Option RuntimeMapNode :=
  if nodes.countP (fun node => node.id == id) = 1 then nodes.find? fun node => node.id == id
  else none

section

variable (nodes : List RuntimeMapNode)

def joins (source target : RuntimeMapNode → Bool) (edge : RuntimeMapEdge) : Bool :=
  (uniqueNode nodes edge.source).any source && (uniqueNode nodes edge.target).any target

def isDockerDaemonStatePairShape (edge : RuntimeMapEdge) : Bool :=
  edge.relationship == .exposesDaemonState &&
    joins nodes isDockerContainer isDockerDaemonStateRisk edge

def isDockerDaemonStateShape (edge : RuntimeMapEdge) : Bool :=
  edge.metadata.isEmpty && isDockerDaemonStatePairShape nodes edge

def isCandidateDockerDaemonStateBindMount (edge : RuntimeMapEdge) : Bool :=
  isDockerDaemonStateShape nodes edge && isFreshDockerEvidence edge .dockerDaemonStateBindMount &&
    hasEvidenceSummary edge "Docker reported a bind mount exposing Docker daemon state"

def isDockerMembershipShape (edge : RuntimeMapEdge) : Bool :=
  edge.relationship == .connectedTo && joins nodes isDockerContainer isDockerNetwork edge

def isDockerPortShape (edge : RuntimeMapEdge) : Bool :=
  edge.relationship == .exposes && joins nodes isDockerContainer isDockerListener edge

def isDockerPortPublicationPairShape (edge : RuntimeMapEdge) : Bool :=
  edge.relationship == .exposes && joins nodes isDockerContainer isNetworkListener edge

def isUnspecifiedAddressPortShape (edge : RuntimeMapEdge) : Bool :=
  edge.relationship == .exposes && joins nodes isDockerContainer isUnspecifiedAddressPortRisk edge

def isCandidateUnspecifiedAddressPort (edge : RuntimeMapEdge) : Bool :=
  edge.metadata.isEmpty && isUnspecifiedAddressPortShape nodes edge &&
    isFreshDockerEvidence edge .dockerUnspecifiedAddressPortPublication &&
    hasEvidenceSummary edge
      "Docker reported a container port published on an unspecified host address"

def isCandidateInternalNetworkMembership (edge : RuntimeMapEdge) : Bool :=
  isDockerMembershipShape nodes edge && isFreshDockerEvidence edge .dockerNetworkMembership

def isCandidatePortPublication (edge : RuntimeMapEdge) : Bool :=
  isDockerPortShape nodes edge && isFreshDockerEvidence edge .dockerPortPublication

def isCandidateDockerDaemonStatePortPublication (edge : RuntimeMapEdge) : Bool :=
  edge.metadata.isEmpty && isDockerPortPublicationPairShape nodes edge &&
    (uniqueNode nodes edge.target).any hasHostPublishedPort &&
    isFreshDockerEvidence edge .dockerPortPublication

def isCandidateComposeDependency (edge : RuntimeMapEdge) : Bool :=
  edge.metadata.isEmpty && edge.relationship == .dependsOn && edge.source != edge.target &&
    joins nodes isDockerContainer isDockerContainer edge &&
    isFreshDockerEvidence edge .dockerComposeDependsOn &&
    hasEvidenceSummary edge "Docker recorded Compose dependency declaration"

def isCandidateRuntimeIdentityCollision (edge : RuntimeMapEdge) : Bool :=
  edge.metadata.isEmpty && edge.relationship == .relatedTo &&
    joins nodes isRuntimeIntegrityScope isRuntimeIdentityCollisionRisk edge &&
    (soleEvidence edge).any fun evidence =>
      evidence.version == 7 && evidence.id == "dockermap_evidence_runtime_identity_collision" &&
        evidence.provider == .dockermap && evidence.kind == .runtimeIdentityCollision &&
        evidence.assertionKind == .observed &&
        evidence.summary == runtimeIdentityCollisionEvidenceSummary &&
        evidence.subjectRef == edge.source && evidence.freshness == .fresh &&
        evidence.providerSlot == none && evidence.providerRevision != "" &&
        evidence.providerRevision != toString evidence.collectedAt

end

/-! Rules -/

structure RuleText where
  idPrefix : String
  ruleId : FindingRule
  severity : FindingSeverity
  summary : String
  recommendation : String

def RuleText.finding (text : RuleText) (edge : RuntimeMapEdge) (identity : String)
    (evidenceRefs : List RuntimeEvidenceRef) : Finding where
  id := text.idPrefix ++ identity
  ruleId := text.ruleId
  severity := text.severity
  summary := text.summary
  recommendation := text.recommendation
  subjectRef := edge.source
  targetRef := edge.target
  evidenceRefs := evidenceRefs

/-- The finding about one edge, supported by that edge's first evidence reference. -/
def RuleText.about (text : RuleText) (edge : RuntimeMapEdge) : Finding :=
  text.finding edge (pairIdentity edge.source edge.target) (edge.evidenceRefs.take 1)

def nonCurrentRule : RuleText where
  idPrefix := "finding_runtime_declared_relationship_evidence_not_current_"
  ruleId := .runtimeDeclaredRelationshipEvidenceNotCurrent
  severity := .advisory
  summary :=
    "A declared systemd dependency relationship is attested only by stale or timed-out evidence."
  recommendation :=
    "Inspect the systemd provider collection state before trusting dependency conclusions for this pair."

def collisionRule : RuleText where
  idPrefix := "finding_runtime_identity_collision_detected"
  ruleId := .runtimeIdentityCollisionDetected
  severity := .advisory
  summary := "DockerMap detected duplicate runtime identities after publication normalization."
  recommendation :=
    "Review the duplicate identity condition before relying on topology relationships."

def unspecifiedAddressRule : RuleText where
  idPrefix := "finding_docker_port_published_on_unspecified_address_"
  ruleId := .dockerPortPublishedOnUnspecifiedAddress
  severity := .advisory
  summary := "Docker reported a container port published on an unspecified host address."
  recommendation := "Review whether publishing this container port beyond loopback is intended."

def requiresRule : RuleText where
  idPrefix := "finding_systemd_requires_target_not_active_"
  ruleId := .systemdRequiresTargetNotActive
  severity := .warning
  summary := "An active systemd service requires a target that is inactive or failed"
  recommendation := "Inspect the target service state and its declared dependency configuration."

def partOfRule : RuleText where
  idPrefix := "finding_systemd_part_of_target_not_active_"
  ruleId := .systemdPartOfTargetNotActive
  severity := .advisory
  summary := "An active systemd service is PartOf a unit that is inactive or failed."
  recommendation :=
    "Inspect the coupling target unit's state and the declaring unit's PartOf configuration."

def daemonStatePortRule : RuleText where
  idPrefix := "finding_docker_daemon_state_bind_mount_publishes_port_"
  ruleId := .dockerDaemonStateBindMountPublishesPort
  severity := .warning
  summary := "A container with Docker daemon state access also has a published host port."
  recommendation :=
    "Review whether the daemon-state access and host-port publication are both intended."

def mutualDependencyRule : RuleText where
  idPrefix := "finding_docker_compose_mutual_dependency_"
  ruleId := .dockerComposeMutualDependency
  severity := .advisory
  summary := "Docker recorded mutually declared Compose dependencies between two containers."
  recommendation := "Review the declared dependencies and remove any unintended mutual dependency."

def targetNotActiveRule : RuleText where
  idPrefix := "finding_docker_compose_declared_target_not_active_"
  ruleId := .dockerComposeDeclaredTargetNotActive
  severity := .advisory
  summary := "A running Docker Compose service declares a dependency whose container is not active."
  recommendation := "Review the declared dependency and the target container state."

def daemonStateRule : RuleText where
  idPrefix := "finding_docker_daemon_state_bind_mount_"
  ruleId := .dockerDaemonStateBindMount
  severity := .warning
  summary :=
    "A container has Docker daemon state access that may provide Docker daemon API authority."
  recommendation := "Review whether this container requires Docker daemon API authority."

def internalNetworkPortRule : RuleText where
  idPrefix := "finding_docker_internal_network_member_publishes_port_"
  ruleId := .dockerInternalNetworkMemberPublishesPort
  severity := .advisory
  summary := "A container on an internal Docker network also has a published host port."
  recommendation :=
    "Review whether the host-port publication is intended for this internal-network service."

section

variable (nodes : List RuntimeMapNode) (edges : List RuntimeMapEdge)

/-- How many edges of the pair have the shape. -/
def pairCount (shape : RuntimeMapEdge → Bool) (source target : String) : ℕ :=
  edges.countP fun edge => shape edge && edge.source == source && edge.target == target

def sourceCount (shape : RuntimeMapEdge → Bool) (source : String) : ℕ :=
  edges.countP fun edge => shape edge && edge.source == source

/-- One finding for every edge that is the only one of its pair with the shape. -/
def pairFindings (text : RuleText) (shape admitted : RuntimeMapEdge → Bool) : List Finding :=
  (edges.filter fun edge =>
    pairCount edges shape edge.source edge.target == 1 && admitted edge).map text.about

def nonCurrentFindings : List Finding :=
  pairFindings edges nonCurrentRule isCandidateNonCurrentDeclaredRelationship fun edge =>
    isCandidateNonCurrentDeclaredRelationship edge &&
      joins nodes isSystemdService isSystemdService edge

def integrityEdgeCount : ℕ :=
  edges.countP fun edge =>
    edge.source == runtimeIntegrityScopeId && edge.target == runtimeIdentityCollisionRiskId

def collisionFindings : List Finding :=
  (edges.filter fun edge =>
    integrityEdgeCount edges == 1 && isCandidateRuntimeIdentityCollision nodes edge).map
      fun edge => collisionRule.finding edge "" (edge.evidenceRefs.take 1)

def unspecifiedAddressFindings : List Finding :=
  (edges.filter fun edge =>
    sourceCount edges (isUnspecifiedAddressPortShape nodes) edge.source == 1 &&
      isCandidateUnspecifiedAddressPort nodes edge).map unspecifiedAddressRule.about

def hasStatus (status : String) (node : RuntimeMapNode) : Bool := node.status == some status

/-- An active systemd service with a target that is inactive or failed. -/
def joinsInactiveTarget (edge : RuntimeMapEdge) : Bool :=
  joins nodes (fun source => isSystemdService source && hasStatus "active" source)
    (fun target => isSystemdService target &&
      (hasStatus "inactive" target || hasStatus "failed" target)) edge

def requiresFindings : List Finding :=
  pairFindings edges requiresRule isCandidateRequires fun edge =>
    isCandidateRequires edge && joinsInactiveTarget nodes edge

def partOfFindings : List Finding :=
  pairFindings edges partOfRule isCandidatePartOf fun edge =>
    isCandidatePartOf edge && joinsInactiveTarget nodes edge

/-- Two facts of one observation. -/
def sameObservation (left right : RuntimeEvidenceRef) : Bool :=
  left.collectedAt == right.collectedAt && left.providerRevision == right.providerRevision

/-- A finding supported by the first evidence of two edges of one observation. -/
def jointFinding (text : RuleText) (edge other : RuntimeMapEdge) : Option Finding :=
  match edge.evidenceRefs.head?, other.evidenceRefs.head? with
  | some evidence, some otherEvidence =>
      if sameObservation evidence otherEvidence then
        some (text.finding edge (pairIdentity edge.source edge.target) [evidence, otherEvidence])
      else none
  | _, _ => none

def daemonStatePortFindings : List Finding :=
  edges.filterMap fun edge =>
    if sourceCount edges (isDockerDaemonStatePairShape nodes) edge.source == 1 &&
        sourceCount edges (isDockerPortPublicationPairShape nodes) edge.source == 1 &&
        isCandidateDockerDaemonStateBindMount nodes edge then
      (edges.find? fun candidate => candidate.source == edge.source &&
        isCandidateDockerDaemonStatePortPublication nodes candidate).bind
          (jointFinding daemonStatePortRule edge)
    else none

def isDependsOn (edge : RuntimeMapEdge) : Bool := edge.relationship == .dependsOn

/-- The only dependency edge of its pair, and a Compose declaration. -/
def isSoleComposeDependency (source target : String) : Bool :=
  pairCount edges isDependsOn source target == 1 &&
    pairCount edges (isCandidateComposeDependency nodes) source target == 1

/-- One finding for an unordered pair, from its lexicographically first direction. -/
def mutualDependencyFindings : List Finding :=
  edges.filterMap fun edge =>
    if edge.source < edge.target && isSoleComposeDependency nodes edges edge.source edge.target &&
        isCandidateComposeDependency nodes edge &&
        isSoleComposeDependency nodes edges edge.target edge.source then
      (edges.find? fun candidate => candidate.source == edge.target &&
        candidate.target == edge.source && isCandidateComposeDependency nodes candidate).bind
          (jointFinding mutualDependencyRule edge)
    else none

def hasServiceStatus (statuses : List RuntimeServiceStatus) (node : RuntimeMapNode) : Bool :=
  node.status.any fun status => statuses.contains (.fromStatusText status)

def targetNotActiveFindings : List Finding :=
  (edges.filter fun edge =>
    isSoleComposeDependency nodes edges edge.source edge.target &&
      isCandidateComposeDependency nodes edge &&
      joins nodes (fun source => isDockerContainer source && hasServiceStatus [.running] source)
        (fun target => isDockerContainer target && hasServiceStatus [.stopped, .failed] target)
        edge).map targetNotActiveRule.about

def daemonStateFindings : List Finding :=
  pairFindings edges daemonStateRule (isDockerDaemonStateShape nodes)
    (isCandidateDockerDaemonStateBindMount nodes)

def internalNetworkPortFinding (edge port : RuntimeMapEdge) : Finding :=
  internalNetworkPortRule.finding edge
    (collisionResistantIdComponent
      (edge.source ++ unitSeparator ++ edge.target ++ unitSeparator ++ port.target))
    (edge.evidenceRefs.take 1 ++ port.evidenceRefs.take 1)

def internalNetworkPortFindings : List Finding :=
  (edges.filter fun edge =>
    pairCount edges (isDockerMembershipShape nodes) edge.source edge.target == 1 &&
      isCandidateInternalNetworkMembership nodes edge).flatMap fun edge =>
    (edges.filter fun port => port.source == edge.source &&
      pairCount edges (isDockerPortPublicationPairShape nodes) port.source port.target == 1 &&
      isCandidatePortPublication nodes port).map (internalNetworkPortFinding edge)

end

def findingOrder (left right : Finding) : Prop :=
  toLex (left.id, toLex (left.subjectRef, left.targetRef)) ≤
    toLex (right.id, toLex (right.subjectRef, right.targetRef))

instance : DecidableRel findingOrder := fun _ _ => inferInstanceAs (Decidable (_ ≤ _))

def deriveFindings (runtimeMap : RuntimeMap) : List Finding :=
  if runtimeMap.source = some .mock then []
  else
    let (nodes, edges) := (runtimeMap.nodes, runtimeMap.edges)
    (nonCurrentFindings nodes edges ++ collisionFindings nodes edges ++
      unspecifiedAddressFindings nodes edges ++ requiresFindings nodes edges ++
      partOfFindings nodes edges ++ daemonStatePortFindings nodes edges ++
      mutualDependencyFindings nodes edges ++ targetNotActiveFindings nodes edges ++
      daemonStateFindings nodes edges ++ internalNetworkPortFindings nodes edges).insertionSort
        findingOrder

end DockerMap
