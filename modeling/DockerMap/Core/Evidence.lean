import DockerMap.Core.Models
import DockerMap.Lib.Text

/-! The closed shapes of runtime evidence and the relationship each one attests. -/

namespace DockerMap

def maxEvidenceTextChars : ℕ := 259

structure EvidenceShape where
  version : ℕ
  provider : RuntimeEvidenceProvider
  assertionKind : RuntimeEvidenceAssertionKind
  providerSlot : Option ProviderSlot
  /-- Host-provider evidence may be retained as stale or timed out. -/
  retained : Bool

/-- Every fact family has exactly one versioned shape. -/
def RuntimeEvidenceKind.shape : RuntimeEvidenceKind → EvidenceShape
  | .dockerNetworkMembership | .dockerVolumeMount | .dockerPortPublication
  | .dockerUnspecifiedAddressPortPublication | .dockerComposeDependsOn
  | .dockerDaemonStateBindMount => ⟨1, .docker, .observed, none, false⟩
  | .systemdRequires | .systemdWants | .systemdPartOf =>
      ⟨2, .systemd, .declared, some .systemd, true⟩
  | .npmPackageManifestDependency => ⟨3, .npm, .declared, some .projectNpm, true⟩
  | .cronScheduleDeclaration => ⟨4, .cron, .declared, some .cron, true⟩
  | .tmuxSessionListing => ⟨5, .tmux, .observed, some .tmux, true⟩
  | .composeDeclaredMount => ⟨6, .compose, .declared, none, false⟩
  | .dockerComposeRuntimeBinding => ⟨6, .docker, .observed, none, false⟩
  | .runtimeIdentityCollision => ⟨7, .dockermap, .observed, none, false⟩

def RuntimeEvidenceRef.hasValidVersionedShape (evidence : RuntimeEvidenceRef) : Bool :=
  let shape := evidence.kind.shape
  evidence.version == shape.version && evidence.provider == shape.provider &&
    evidence.assertionKind == shape.assertionKind &&
    evidence.providerSlot == shape.providerSlot &&
    (shape.retained || evidence.freshness == .fresh)

namespace RuntimeMapEdge

def links (edge : RuntimeMapEdge) (relationship : RuntimeRelationshipKind)
    (sourcePrefix targetPrefix : String) : Bool :=
  edge.relationship == relationship &&
    Text.startsWith edge.source.toList sourcePrefix.toList &&
    Text.startsWith edge.target.toList targetPrefix.toList

theorem links_iff {edge : RuntimeMapEdge} {relationship : RuntimeRelationshipKind}
    {sourcePrefix targetPrefix : String} :
    edge.links relationship sourcePrefix targetPrefix = true ↔
      edge.relationship = relationship ∧
        Text.startsWith edge.source.toList sourcePrefix.toList = true ∧
        Text.startsWith edge.target.toList targetPrefix.toList = true := by
  rw [links, Bool.and_eq_true, Bool.and_eq_true, beq_iff_eq, and_assoc]

/-- The semantic edge a fact family supports. -/
def attestedBy (edge : RuntimeMapEdge) : RuntimeEvidenceKind → Bool
  | .dockerNetworkMembership => edge.links .connectedTo "docker_container_" "docker_network_"
  | .dockerDaemonStateBindMount =>
      edge.links .exposesDaemonState "docker_container_" "" &&
        edge.target == "host_risk_docker_daemon_state"
  | .dockerVolumeMount => edge.links .mounts "docker_container_" "docker_volume_"
  | .dockerPortPublication => edge.links .exposes "docker_container_" "network_listener_"
  | .dockerUnspecifiedAddressPortPublication =>
      edge.links .exposes "docker_container_" "" &&
        edge.target == "host_risk_docker_unspecified_address_port"
  | .dockerComposeDependsOn =>
      edge.links .dependsOn "docker_container_" "docker_container_" && edge.source != edge.target
  | .runtimeIdentityCollision =>
      edge.relationship == .relatedTo && edge.source == "runtime_integrity_scope" &&
        edge.target == "runtime_integrity_risk_identity_collision"
  | .systemdRequires =>
      edge.links .requires "systemd_service_" "systemd_service_" && edge.source != edge.target
  | .systemdWants =>
      edge.links .wants "systemd_service_" "systemd_service_" && edge.source != edge.target
  | .systemdPartOf =>
      edge.links .partOf "systemd_service_" "systemd_service_" && edge.source != edge.target
  | .npmPackageManifestDependency =>
      edge.links .dependsOn "npm_project_" "npm_package_" && edge.source != edge.target
  | .cronScheduleDeclaration =>
      edge.links .runsOn "scheduled_job_" "" && edge.target == "host_local" &&
        edge.source != edge.target
  -- the two Compose families share the arm of the tmux listing
  | .tmuxSessionListing | .composeDeclaredMount | .dockerComposeRuntimeBinding =>
      edge.links .runsOn "tmux_session_" "" && edge.target == "host_local" &&
        edge.source != edge.target

def isBoundedText (value : String) : Bool :=
  value ≠ "" && value.toList.length ≤ maxEvidenceTextChars

def evidenceRefMatchesEdge (edge : RuntimeMapEdge) (evidence : RuntimeEvidenceRef) : Bool :=
  isBoundedText evidence.id && isBoundedText evidence.summary &&
    isBoundedText evidence.providerRevision && evidence.subjectRef == edge.source &&
    evidence.hasValidVersionedShape && edge.attestedBy evidence.kind

def hasValidEvidenceRefs (edge : RuntimeMapEdge) : Bool :=
  edge.evidenceRefs.all edge.evidenceRefMatchesEdge

end RuntimeMapEdge

end DockerMap
