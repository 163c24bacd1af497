import DockerMap.Api.FindingsValidation

/-! The browser's own table of findings. A finding that fits no row is not shown: the
screen gets static copy, never an identifier, a reference or an evidence text. -/

namespace DockerMap.Web

open JavaScript (asNumber isNullish strictEqual textLess propertyText)
open Api (asText safeInteger nonEmptyText hasText startsText withItems isIntegrityRevision
  digestAfter)

inductive Tone | warn | muted
  deriving DecidableEq, Repr

structure Inspection where
  ruleLabel : String
  ruleId : String
  freshEvidenceRequirement : String
  factDescription : String
  limits : String
  deriving DecidableEq, Repr

structure FindingPresentation where
  title : String
  summary : String
  category : String
  hint : String
  recommendation : String
  tone : Tone
  severityLabel : String
  inspectChanges : Option Bool := none
  inspection : Inspection
  deriving DecidableEq, Repr

structure EvidenceSpec where
  version : ℕ
  provider : String
  kind : String
  kinds : Option (List String) := none
  assertionKind : String
  /-- `none` is `null`. -/
  providerSlot : Option String := none

structure FindingSpec extends FindingPresentation where
  ruleId : String
  severity : String
  idPrefix : String
  subjectPrefix : String
  targetPrefix : Option String := none
  targetRef : Option String := none
  evidenceCount : ℕ
  evidence : EvidenceSpec

def notCurrentSpec : FindingSpec where
  ruleId := "runtime.declared_relationship_evidence_not_current"
  severity := "advisory"
  summary :=
    "A declared systemd dependency relationship is attested only by stale or timed-out evidence."
  recommendation :=
    "Inspect the systemd provider collection state before trusting dependency conclusions for this pair."
  idPrefix := "finding_runtime_declared_relationship_evidence_not_current_"
  subjectPrefix := "systemd_service_"
  targetPrefix := some "systemd_service_"
  evidenceCount := 1
  evidence :=
    { version := 2
      provider := "systemd"
      kind := "systemd_requires"
      kinds := some ["systemd_requires", "systemd_wants", "systemd_part_of"]
      assertionKind := "declared"
      providerSlot := some "systemd" }
  title := "Declared relationship evidence is not current"
  category := "Evidence Integrity"
  hint := "Evidence freshness"
  tone := .muted
  severityLabel := "Advisory"
  inspection :=
    { ruleLabel := "Relationship evidence freshness"
      ruleId := "runtime.declared_relationship_evidence_not_current"
      freshEvidenceRequirement :=
        "Requires fresh relationship evidence to assert a dependency conclusion."
      factDescription := "One declared relationship whose evidence is stale or timed out."
      limits :=
        "Does not establish that the dependency is broken, unhealthy, or unavailable; it states only that current evidence does not support the conclusion." }

def requiresSpec : FindingSpec where
  ruleId := "systemd.requires_target_not_active"
  severity := "warning"
  summary := "An active systemd service requires a target that is inactive or failed"
  recommendation := "Inspect the target service state and its declared dependency configuration."
  idPrefix := "finding_systemd_requires_target_not_active_"
  subjectPrefix := "systemd_service_"
  targetPrefix := some "systemd_service_"
  evidenceCount := 1
  evidence :=
    { version := 2
      provider := "systemd"
      kind := "systemd_requires"
      assertionKind := "declared"
      providerSlot := some "systemd" }
  title := "Declared dependency needs review"
  category := "Systemd Requires"
  hint := "Observed declaration"
  tone := .warn
  severityLabel := "Warning"
  inspection :=
    { ruleLabel := "Systemd declared dependency"
      ruleId := "systemd.requires_target_not_active"
      freshEvidenceRequirement := "Requires one fresh declared systemd fact."
      factDescription := "One declared dependency fact."
      limits := "Does not establish service readiness, causality, traffic, or remediation." }

def partOfSpec : FindingSpec where
  ruleId := "systemd.part_of_target_not_active"
  severity := "advisory"
  summary := "An active systemd service is PartOf a unit that is inactive or failed."
  recommendation :=
    "Inspect the coupling target unit's state and the declaring unit's PartOf configuration."
  idPrefix := "finding_systemd_part_of_target_not_active_"
  subjectPrefix := "systemd_service_"
  targetPrefix := some "systemd_service_"
  evidenceCount := 1
  evidence :=
    { version := 2
      provider := "systemd"
      kind := "systemd_part_of"
      assertionKind := "declared"
      providerSlot := some "systemd" }
  title := "Lifecycle coupling target is not active"
  category := "Systemd PartOf"
  hint := "Observed declaration"
  tone := .muted
  severityLabel := "Advisory"
  inspection :=
    { ruleLabel := "Systemd lifecycle coupling"
      ruleId := "systemd.part_of_target_not_active"
      freshEvidenceRequirement := "Requires one fresh declared PartOf fact."
      factDescription := "One declared PartOf dependency fact."
      limits :=
        "Does not establish service readiness, causality, restart behaviour, traffic, or remediation." }

def internalNetworkPortSpec : FindingSpec where
  ruleId := "docker.internal_network_member_publishes_port"
  severity := "advisory"
  summary := "A container on an internal Docker network also has a published host port."
  recommendation :=
    "Review whether the host-port publication is intended for this internal-network service."
  idPrefix := "finding_docker_internal_network_member_publishes_port_"
  subjectPrefix := "docker_container_"
  targetPrefix := some "docker_network_"
  evidenceCount := 2
  evidence :=
    { version := 1
      provider := "docker"
      kind := "docker_network_membership"
      assertionKind := "observed" }
  title := "Internal-network port publication needs review"
  category := "Internal network + host port"
  hint := "Observed Docker facts"
  tone := .muted
  severityLabel := "Advisory"
  inspection :=
    { ruleLabel := "Internal network and host port"
      ruleId := "docker.internal_network_member_publishes_port"
      freshEvidenceRequirement := "Requires two fresh observed Docker facts."
      factDescription := "One network-membership fact and one host-port-publication fact."
      limits := "Does not establish Internet reachability, traffic, causality, or remediation." }

def unspecifiedAddressPortSpec : FindingSpec where
  ruleId := "docker.port_published_on_unspecified_address"
  severity := "advisory"
  summary := "Docker reported a container port published on an unspecified host address."
  recommendation := "Review whether publishing this container port beyond loopback is intended."
  idPrefix := "finding_docker_port_published_on_unspecified_address_"
  subjectPrefix := "docker_container_"
  targetRef := some "host_risk_docker_unspecified_address_port"
  evidenceCount := 1
  evidence :=
    { version := 1
      provider := "docker"
      kind := "docker_unspecified_address_port_publication"
      assertionKind := "observed" }
  title := "Unspecified-address port publication needs review"
  category := "Host port publication"
  hint := "Observed Docker fact"
  tone := .muted
  severityLabel := "Advisory"
  inspection :=
    { ruleLabel := "Unspecified-address host port"
      ruleId := "docker.port_published_on_unspecified_address"
      freshEvidenceRequirement := "Requires one fresh observed Docker fact."
      factDescription :=
        "One Docker fact that records a valid nonzero port published on an unspecified host address."
      limits :=
        "Does not establish Internet reachability, reachability from any network, traffic, causality, or remediation." }

def daemonStateSpec : FindingSpec where
  ruleId := "docker.daemon_state_bind_mount"
  severity := "warning"
  summary :=
    "A container has Docker daemon state access that may provide Docker daemon API authority."
  recommendation := "Review whether this container requires Docker daemon API authority."
  idPrefix := "finding_docker_daemon_state_bind_mount_"
  subjectPrefix := "docker_container_"
  targetRef := some "host_risk_docker_daemon_state"
  evidenceCount := 1
  evidence :=
    { version := 1
      provider := "docker"
      kind := "docker_daemon_state_bind_mount"
      assertionKind := "observed" }
  title := "Docker daemon-state access needs review"
  category := "Docker daemon state"
  hint := "Observed Docker fact"
  tone := .warn
  severityLabel := "Warning"
  inspection :=
    { ruleLabel := "Docker daemon-state access"
      ruleId := "docker.daemon_state_bind_mount"
      freshEvidenceRequirement := "Requires one fresh observed Docker fact."
      factDescription := "One Docker daemon-state fact."
      limits := "Does not establish effective authority, exploitation, causality, or remediation." }

def daemonStatePortSpec : FindingSpec where
  ruleId := "docker.daemon_state_bind_mount_publishes_port"
  severity := "warning"
  summary := "A container with Docker daemon state access also has a published host port."
  recommendation :=
    "Review whether the daemon-state access and host-port publication are both intended."
  idPrefix := "finding_docker_daemon_state_bind_mount_publishes_port_"
  subjectPrefix := "docker_container_"
  targetRef := some "host_risk_docker_daemon_state"
  evidenceCount := 2
  evidence :=
    { version := 1
      provider := "docker"
      kind := "docker_daemon_state_bind_mount"
      assertionKind := "observed" }
  title := "Docker daemon-state and host-port publication need review"
  category := "Docker daemon state + host port"
  hint := "Observed Docker facts"
  tone := .warn
  severityLabel := "Warning"
  inspectChanges := some true
  inspection :=
    { ruleLabel := "Docker daemon-state access and host port"
      ruleId := "docker.daemon_state_bind_mount_publishes_port"
      freshEvidenceRequirement := "Requires two fresh observed Docker facts from one collection."
      factDescription := "One Docker daemon-state fact and one host-port-publication fact."
      limits :=
        "Does not establish effective authority, exploitation, Internet reachability, causality, or remediation." }

def declaredTargetSpec : FindingSpec where
  ruleId := "docker.compose_declared_target_not_active"
  severity := "advisory"
  summary := "A running Docker Compose service declares a dependency whose container is not active."
  recommendation := "Review the declared dependency and the target container state."
  idPrefix := "finding_docker_compose_declared_target_not_active_"
  subjectPrefix := "docker_container_"
  targetPrefix := some "docker_container_"
  evidenceCount := 1
  evidence :=
    { version := 1
      provider := "docker"
      kind := "docker_compose_depends_on"
      assertionKind := "observed" }
  title := "Declared Compose dependency needs review"
  category := "Docker Compose"
  hint := "Observed Compose declaration"
  tone := .muted
  severityLabel := "Advisory"
  inspectChanges := some true
  inspection :=
    { ruleLabel := "Compose declared dependency"
      ruleId := "docker.compose_declared_target_not_active"
      freshEvidenceRequirement := "Requires one fresh observed Compose declaration."
      factDescription := "One declared dependency fact."
      limits := "Does not establish startup order, causality, readiness, or remediation." }

def mutualDependencySpec : FindingSpec where
  ruleId := "docker.compose_mutual_dependency"
  severity := "advisory"
  summary := "Docker recorded mutually declared Compose dependencies between two containers."
  recommendation := "Review the declared dependencies and remove any unintended mutual dependency."
  idPrefix := "finding_docker_compose_mutual_dependency_"
  subjectPrefix := "docker_container_"
  targetPrefix := some "docker_container_"
  evidenceCount := 2
  evidence :=
    { version := 1
      provider := "docker"
      kind := "docker_compose_depends_on"
      assertionKind := "observed" }
  title := "Mutual Compose declarations need review"
  category := "Docker Compose"
  hint := "Observed Compose declarations"
  tone := .muted
  severityLabel := "Advisory"
  inspectChanges := some true
  inspection :=
    { ruleLabel := "Mutual Compose declarations"
      ruleId := "docker.compose_mutual_dependency"
      freshEvidenceRequirement :=
        "Requires two fresh observed Compose declarations from one collection."
      factDescription := "Two declared dependency facts in opposite directions."
      limits := "Does not establish startup order, causality, readiness, or remediation." }

def declaredMountSpec : FindingSpec where
  ruleId := "compose.declared_mount_missing_at_bound_container"
  severity := "warning"
  summary := "A Compose-declared mount is absent from its exactly bound runtime container"
  recommendation :=
    "Inspect the Compose mount declaration and the bound container's current mount configuration."
  idPrefix := "finding_compose_declared_mount_missing_at_bound_container_"
  subjectPrefix := "compose_runtime_binding_"
  targetPrefix := some "compose_runtime_binding_"
  evidenceCount := 2
  evidence :=
    { version := 6
      provider := "compose"
      kind := "compose_declared_mount"
      assertionKind := "declared" }
  title := "Declared Compose mount needs review"
  category := "Compose runtime drift"
  hint := "Bounded structural facts"
  tone := .warn
  severityLabel := "Warning"
  inspectChanges := some true
  inspection :=
    { ruleLabel := "Compose declaration and runtime binding"
      ruleId := "compose.declared_mount_missing_at_bound_container"
      freshEvidenceRequirement := "Requires two fresh, paired structural facts from one collection."
      factDescription :=
        "One Compose mount declaration and one exact Docker Compose/runtime binding fact."
      limits :=
        "Does not expose mount paths, names, labels, or container identity, and does not establish causality or remediation." }

def identityCollisionSpec : FindingSpec where
  ruleId := "runtime.identity_collision_detected"
  severity := "advisory"
  summary := "DockerMap detected duplicate runtime identities after publication normalization."
  recommendation :=
    "Review the duplicate identity condition before relying on topology relationships."
  idPrefix := "finding_runtime_identity_collision_detected"
  subjectPrefix := "runtime_integrity_scope"
  targetRef := some "runtime_integrity_risk_identity_collision"
  evidenceCount := 1
  evidence :=
    { version := 7
      provider := "dockermap"
      kind := "runtime_identity_collision"
      assertionKind := "observed" }
  title := "Runtime identity integrity needs review"
  category := "Evidence integrity"
  hint := "Aggregate structural fact"
  tone := .muted
  severityLabel := "Advisory"
  inspection :=
    { ruleLabel := "Published runtime identity integrity"
      ruleId := "runtime.identity_collision_detected"
      freshEvidenceRequirement := "Requires one fresh aggregate DockerMap integrity fact."
      factDescription :=
        "One aggregate fact that duplicate identities were detected after publication normalization."
      limits :=
        "Does not expose or identify any collided runtime identity, count, provider data, health, causality, or remediation." }

def specs : List FindingSpec :=
  [notCurrentSpec, requiresSpec, partOfSpec, internalNetworkPortSpec, unspecifiedAddressPortSpec,
    daemonStateSpec, daemonStatePortSpec, declaredTargetSpec, mutualDependencySpec,
    declaredMountSpec, identityCollisionSpec]

def composeDeclarationEvidenceSummary : String := "Docker recorded Compose dependency declaration"

def unspecifiedAddressPublicationEvidenceSummary : String :=
  "Docker reported a container port published on an unspecified host address"

def runtimeIdentityCollisionEvidenceSummary : String :=
  "DockerMap detected duplicate runtime identities after publication normalization"

/-! The closed shapes -/

def isRecord : Json → Bool
  | .obj _ => true
  | _ => false

/-- A non-negative safe collection time and a revision that is no copy of it. -/
def isCollected (evidence : Json) : Bool :=
  (safeInteger (evidence.field? "collectedAt")).isSome &&
    (nonEmptyText (evidence.field? "providerRevision")).any fun revision =>
      revision ≠ propertyText (evidence.field? "collectedAt")

def fromOneCollection (evidence other : Json) : Bool :=
  strictEqual (evidence.field? "collectedAt") (other.field? "collectedAt") &&
    strictEqual (evidence.field? "providerRevision") (other.field? "providerRevision")

section

variable (spec : FindingSpec) (finding : Json)

def sameRefs : Bool := strictEqual (finding.field? "subjectRef") (finding.field? "targetRef")

def inCanonicalDirection : Bool :=
  (asText (finding.field? "subjectRef")).any fun subjectRef =>
    (asText (finding.field? "targetRef")).any fun targetRef => textLess subjectRef targetRef

/-- The texts and references of the row. -/
def matchesSpec : Bool :=
  hasText finding "severity" spec.severity && hasText finding "summary" spec.summary &&
    hasText finding "recommendation" spec.recommendation &&
    startsText (finding.field? "id") spec.idPrefix &&
    startsText (finding.field? "subjectRef") spec.subjectPrefix &&
    (asText (finding.field? "targetRef")).isSome &&
    spec.targetPrefix.all (startsText (finding.field? "targetRef")) &&
    spec.targetRef.all (hasText finding "targetRef") &&
    (spec.ruleId == "compose.declared_mount_missing_at_bound_container" || !sameRefs finding) &&
    (spec.ruleId != "runtime.identity_collision_detected" ||
      hasText finding "id" "finding_runtime_identity_collision_detected" &&
        hasText finding "subjectRef" "runtime_integrity_scope") &&
    (spec.ruleId != "docker.compose_mutual_dependency" || inCanonicalDirection finding)

/-- The rules whose slot may be absent as well as null. -/
def absentSlotRules : List String :=
  ["docker.compose_declared_target_not_active", "docker.daemon_state_bind_mount_publishes_port",
    "docker.compose_mutual_dependency", "compose.declared_mount_missing_at_bound_container",
    "docker.port_published_on_unspecified_address", "runtime.identity_collision_detected"]

/-- `value === slot`, where the slot is a name or null. -/
def isSlot (slot : Option String) : Option Json → Bool
  | some .null => slot == none
  | value => (asText value).any fun name => slot == some name

/-- The first fact of the row. -/
def matchesEvidence (evidence : Json) : Bool :=
  isRecord evidence && asNumber (evidence.field? "version") == some spec.evidence.version &&
    hasText evidence "provider" spec.evidence.provider &&
    (spec.evidence.kinds.getD [spec.evidence.kind]).any (hasText evidence "kind") &&
    hasText evidence "assertionKind" spec.evidence.assertionKind &&
    (if absentSlotRules.contains spec.ruleId then isNullish (evidence.field? "providerSlot")
      else isSlot spec.evidence.providerSlot (evidence.field? "providerSlot")) &&
    (if spec.ruleId = "runtime.declared_relationship_evidence_not_current" then
        hasText evidence "freshness" "stale" || hasText evidence "freshness" "timed_out"
      else hasText evidence "freshness" "fresh") &&
    strictEqual (evidence.field? "subjectRef") (finding.field? "subjectRef")

/-- The host-port fact that completes a pair. -/
def isPortFact (slot : Option Json → Bool) (port : Json) : Bool :=
  isRecord port && asNumber (port.field? "version") == some 1 && hasText port "provider" "docker" &&
    hasText port "kind" "docker_port_publication" && hasText port "assertionKind" "observed" &&
    slot (port.field? "providerSlot") && hasText port "freshness" "fresh" &&
    strictEqual (port.field? "subjectRef") (finding.field? "subjectRef")

def isFreshComposeEvidence (candidate : Json) (subjectRef : Option Json) : Bool :=
  isRecord candidate && asNumber (candidate.field? "version") == some 1 &&
    hasText candidate "provider" "docker" &&
    hasText candidate "kind" "docker_compose_depends_on" &&
    hasText candidate "assertionKind" "observed" &&
    isNullish (candidate.field? "providerSlot") && hasText candidate "freshness" "fresh" &&
    strictEqual (candidate.field? "subjectRef") subjectRef &&
    (nonEmptyText (candidate.field? "id")).isSome &&
    hasText candidate "summary" composeDeclarationEvidenceSummary && isCollected candidate

def isOpaqueComposeRuntimeBindingId (value : Option Json) : Bool :=
  (digestAfter "compose_runtime_binding_" value).isSome

def composeMountFindingDigest (value : Option Json) : Option String :=
  digestAfter "finding_compose_declared_mount_missing_at_bound_container_" value

def isV6BindingEvidence (candidate : Json)
    (provider kind assertionKind summary idPrefix digest : String) : Bool :=
  isRecord candidate && asNumber (candidate.field? "version") == some 6 &&
    hasText candidate "provider" provider && hasText candidate "kind" kind &&
    hasText candidate "assertionKind" assertionKind && hasText candidate "summary" summary &&
    hasText candidate "id" (idPrefix ++ "_" ++ digest) &&
    strictEqual (candidate.field? "subjectRef") (finding.field? "subjectRef") &&
    isNullish (candidate.field? "providerSlot") && hasText candidate "freshness" "fresh" &&
    isCollected candidate

/-- The facts only this rule asks for. -/
def matchesRule (evidenceRefs : List Json) : Bool :=
  let evidence := evidenceRefs.headD .null
  let other := (evidenceRefs[1]?).getD .null
  match spec.ruleId with
  | "docker.internal_network_member_publishes_port" => isPortFact finding (isSlot none) other
  | "docker.port_published_on_unspecified_address" =>
      hasText evidence "summary" unspecifiedAddressPublicationEvidenceSummary &&
        isCollected evidence
  | "runtime.identity_collision_detected" =>
      hasText evidence "id" "dockermap_evidence_runtime_identity_collision" &&
        hasText evidence "summary" runtimeIdentityCollisionEvidenceSummary &&
        isCollected evidence &&
        (asText (evidence.field? "providerRevision")).any isIntegrityRevision
  | "docker.daemon_state_bind_mount_publishes_port" =>
      isPortFact finding isNullish other && fromOneCollection other evidence
  | "docker.compose_mutual_dependency" =>
      isFreshComposeEvidence evidence (finding.field? "subjectRef") &&
        isFreshComposeEvidence other (finding.field? "targetRef") &&
        fromOneCollection evidence other
  | "compose.declared_mount_missing_at_bound_container" =>
      (composeMountFindingDigest (finding.field? "id")).any fun digest =>
        isOpaqueComposeRuntimeBindingId (finding.field? "subjectRef") && sameRefs finding &&
          isV6BindingEvidence finding evidence "compose" "compose_declared_mount" "declared"
            "Compose declared a mount for the bound service" "compose_declared_mount" digest &&
          isV6BindingEvidence finding other "docker" "docker_compose_runtime_binding" "observed"
            "Docker confirmed an exact Compose project, service, and config binding"
            "docker_compose_runtime_binding" digest &&
          fromOneCollection evidence other
  | _ => true

end

/-- Static presentation, only for a fully bounded supported finding. -/
def presentationForFinding (value : Json) : Option FindingPresentation :=
  match specs.find? fun candidate => hasText value "ruleId" candidate.ruleId with
  | some spec =>
      if isRecord value && matchesSpec spec value &&
          withItems (value.field? "evidenceRefs") (fun evidenceRefs =>
            evidenceRefs.length == spec.evidenceCount &&
              evidenceRefs.head?.any (matchesEvidence spec value) &&
              matchesRule spec value evidenceRefs) then
        some spec.toFindingPresentation
      else none
  | none => none

end DockerMap.Web
