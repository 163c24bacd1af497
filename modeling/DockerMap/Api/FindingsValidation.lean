import DockerMap.Api.FindingIdentity
import DockerMap.Api.ResponseValidation
import DockerMap.Core.ComposeRuntimeBinding
import DockerMap.Lib.JavaScript

/-! The exact rule table the browser boundary holds a findings response to. -/

namespace DockerMap.Api

open JavaScript (asNumber codeUnits isNullish strictEqual textLess propertyText)

/-! Reading evidence -/

def hasText (json : Json) (name text : String) : Bool := asText (json.field? name) == some text

def startsText (value : Option Json) (word : String) : Bool :=
  (asText value).any fun text => Text.startsWith text.toList word.toList

/-- What a test says of the only element of an array. -/
def withOne (value : Option Json) (test : Json → Bool) : Bool :=
  match value with
  | some (.arr [item]) => test item
  | _ => false

/-- What a test says of the two elements of an array. -/
def withPair (value : Option Json) (test : Json → Json → Bool) : Bool :=
  match value with
  | some (.arr [first, second]) => test first second
  | _ => false

/-- What a test says of the elements of an array. -/
def withItems (value : Option Json) (test : List Json → Bool) : Bool :=
  match value with
  | some (.arr items) => test items
  | _ => false

/-- The digits of `^word[a-f0-9]{64}$`. -/
def digestAfter (word : String) (value : Option Json) : Option String :=
  (asText value).bind fun text =>
    let digest := text.toList.drop word.length
    if Text.startsWith text.toList word.toList && digest.length == 64 && digest.all isLowerHex then
      some (String.ofList digest)
    else none

def isOpaqueComposeRuntimeBindingId (value : Option Json) : Bool :=
  (digestAfter "compose_runtime_binding_" value).isSome

def composeMountFindingDigest (value : Option Json) : Option String :=
  digestAfter "finding_compose_declared_mount_missing_at_bound_container_" value

/-- `^[a-f0-9]{32}-[1-9][0-9]*$`. -/
def isIntegrityRevision (text : String) : Bool :=
  let epoch := text.toList.take 32
  epoch.length == 32 && epoch.all isLowerHex &&
    match text.toList.drop 32 with
    | '-' :: first :: rest => first.isDigit && first ≠ '0' && rest.all Char.isDigit
    | _ => false

/-- A revision that is not the collection time in disguise. -/
def hasOpaqueRevision (evidence : Json) : Bool :=
  (asText (evidence.field? "providerRevision")).any fun revision =>
    revision ≠ propertyText (evidence.field? "collectedAt")

def isEvidence (evidence : Json) (version : ℕ) (provider : String) (kinds : List String)
    (assertionKind : String) (subjectRef : Option Json) : Bool :=
  isObject evidence && asNumber (evidence.field? "version") == some version &&
    hasText evidence "provider" provider && kinds.any (hasText evidence "kind") &&
    hasText evidence "assertionKind" assertionKind &&
    strictEqual (evidence.field? "subjectRef") subjectRef

/-- A fresh fact of a collector that has no slot. -/
def isFreshFact (evidence : Json) (version : ℕ) (provider kind assertionKind : String)
    (subjectRef : Option Json) : Bool :=
  isEvidence evidence version provider [kind] assertionKind subjectRef &&
    isNullish (evidence.field? "providerSlot") && hasText evidence "freshness" "fresh" &&
    hasOpaqueRevision evidence

def isFreshDockerEvidence (evidence : Json) (kind summary : String) (subjectRef : Option Json) :
    Bool :=
  isFreshFact evidence 1 "docker" kind "observed" subjectRef &&
    hasText evidence "summary" summary

/-- A systemd declaration in one of the freshness states. -/
def isSystemdDeclaration (evidence : Json) (kinds freshness : List String)
    (subjectRef : Option Json) : Bool :=
  isEvidence evidence 2 "systemd" kinds "declared" subjectRef &&
    hasText evidence "providerSlot" "systemd" &&
    freshness.any (hasText evidence "freshness")

def fromOneCollection (evidence other : Json) : Bool :=
  strictEqual (evidence.field? "collectedAt") (other.field? "collectedAt") &&
    strictEqual (evidence.field? "providerRevision") (other.field? "providerRevision")

/-! Rules -/

structure FindingText where
  rule : String
  severity : String
  summary : String
  recommendation : String

section

variable (finding : Json)

def FindingText.matches (text : FindingText) : Bool :=
  hasText finding "severity" text.severity && hasText finding "summary" text.summary &&
    hasText finding "recommendation" text.recommendation

def joinsPrefixes (source target : String) : Bool :=
  startsText (finding.field? "subjectRef") source && startsText (finding.field? "targetRef") target

/-- The id is bound to the subject and the target, byte for byte as the daemon derives it. -/
def hasPairId (idPrefix : String) : Bool :=
  (asText (finding.field? "subjectRef")).any fun subjectRef =>
    (asText (finding.field? "targetRef")).any fun targetRef =>
      (asText (finding.field? "id")).any fun id =>
        codeUnits id == codeUnits idPrefix ++
          collisionResistantIdComponent (codeUnits (subjectRef ++ unitSeparator ++ targetRef))

def differingRefs : Bool :=
  !strictEqual (finding.field? "subjectRef") (finding.field? "targetRef")

/-- A fresh declaration between two systemd services. -/
def isSystemdFinding (text : FindingText) (idPrefix kind : String) : Bool :=
  text.matches finding && startsText (finding.field? "id") idPrefix &&
    joinsPrefixes finding "systemd_service_" "systemd_service_" && differingRefs finding &&
    withOne (finding.field? "evidenceRefs") fun evidence =>
      isSystemdDeclaration evidence [kind] ["fresh"] (finding.field? "subjectRef")

def systemdRequiresText : FindingText where
  rule := "systemd.requires_target_not_active"
  severity := "warning"
  summary := "An active systemd service requires a target that is inactive or failed"
  recommendation := "Inspect the target service state and its declared dependency configuration."

def systemdPartOfText : FindingText where
  rule := "systemd.part_of_target_not_active"
  severity := "advisory"
  summary := "An active systemd service is PartOf a unit that is inactive or failed."
  recommendation :=
    "Inspect the coupling target unit's state and the declaring unit's PartOf configuration."

def declaredRelationshipEvidenceNotCurrentText : FindingText where
  rule := "runtime.declared_relationship_evidence_not_current"
  severity := "advisory"
  summary :=
    "A declared systemd dependency relationship is attested only by stale or timed-out evidence."
  recommendation :=
    "Inspect the systemd provider collection state before trusting dependency conclusions for this pair."

def internalNetworkPortText : FindingText where
  rule := "docker.internal_network_member_publishes_port"
  severity := "advisory"
  summary := "A container on an internal Docker network also has a published host port."
  recommendation :=
    "Review whether the host-port publication is intended for this internal-network service."

def unspecifiedAddressPortText : FindingText where
  rule := "docker.port_published_on_unspecified_address"
  severity := "advisory"
  summary := "Docker reported a container port published on an unspecified host address."
  recommendation := "Review whether publishing this container port beyond loopback is intended."

def dockerDaemonStateText : FindingText where
  rule := "docker.daemon_state_bind_mount"
  severity := "warning"
  summary :=
    "A container has Docker daemon state access that may provide Docker daemon API authority."
  recommendation := "Review whether this container requires Docker daemon API authority."

def dockerDaemonStatePublishedPortText : FindingText where
  rule := "docker.daemon_state_bind_mount_publishes_port"
  severity := "warning"
  summary := "A container with Docker daemon state access also has a published host port."
  recommendation :=
    "Review whether the daemon-state access and host-port publication are both intended."

def composeDeclaredTargetNotActiveText : FindingText where
  rule := "docker.compose_declared_target_not_active"
  severity := "advisory"
  summary := "A running Docker Compose service declares a dependency whose container is not active."
  recommendation := "Review the declared dependency and the target container state."

def composeMutualDependencyText : FindingText where
  rule := "docker.compose_mutual_dependency"
  severity := "advisory"
  summary := "Docker recorded mutually declared Compose dependencies between two containers."
  recommendation := "Review the declared dependencies and remove any unintended mutual dependency."

def composeDeclaredMountMissingText : FindingText where
  rule := "compose.declared_mount_missing_at_bound_container"
  severity := "warning"
  summary := "A Compose-declared mount is absent from its exactly bound runtime container"
  recommendation :=
    "Inspect the Compose mount declaration and the bound container's current mount configuration."

def runtimeIdentityCollisionText : FindingText where
  rule := "runtime.identity_collision_detected"
  severity := "advisory"
  summary := "DockerMap detected duplicate runtime identities after publication normalization."
  recommendation :=
    "Review the duplicate identity condition before relying on topology relationships."

def unspecifiedAddressPortEvidenceSummary : String :=
  "Docker reported a container port published on an unspecified host address"

def runtimeIdentityCollisionEvidenceSummary : String :=
  "DockerMap detected duplicate runtime identities after publication normalization"

def composeDependencyEvidenceSummary : String := "Docker recorded Compose dependency declaration"

def daemonStateEvidenceSummary : String :=
  "Docker reported a bind mount exposing Docker daemon state"

def portPublicationEvidenceSummary : String := "Docker reported container port publication"

def composeDeclaredMountEvidenceSummary : String :=
  "Compose declared a mount for the bound service"

def dockerComposeRuntimeBindingEvidenceSummary : String :=
  "Docker confirmed an exact Compose project, service, and config binding"

def isSystemdRequiresFinding : Bool :=
  isSystemdFinding finding systemdRequiresText "finding_systemd_requires_target_not_active_"
    "systemd_requires"

def isSystemdPartOfFinding : Bool :=
  isSystemdFinding finding systemdPartOfText "finding_systemd_part_of_target_not_active_"
    "systemd_part_of"

def isDeclaredRelationshipFinding : Bool :=
  declaredRelationshipEvidenceNotCurrentText.matches finding &&
    joinsPrefixes finding "systemd_service_" "systemd_service_" && differingRefs finding &&
    hasPairId finding "finding_runtime_declared_relationship_evidence_not_current_" &&
    withOne (finding.field? "evidenceRefs") fun evidence =>
      isSystemdDeclaration evidence ["systemd_requires", "systemd_wants", "systemd_part_of"]
        ["stale", "timed_out"] (finding.field? "subjectRef")

def isDaemonStateFinding : Bool :=
  dockerDaemonStateText.matches finding &&
    startsText (finding.field? "id") "finding_docker_daemon_state_bind_mount_" &&
    startsText (finding.field? "subjectRef") "docker_container_" &&
    hasText finding "targetRef" "host_risk_docker_daemon_state" &&
    withOne (finding.field? "evidenceRefs") fun evidence =>
      isFreshDockerEvidence evidence "docker_daemon_state_bind_mount"
        daemonStateEvidenceSummary (finding.field? "subjectRef")

def isDaemonStatePublishedPortFinding : Bool :=
  dockerDaemonStatePublishedPortText.matches finding &&
    startsText (finding.field? "subjectRef") "docker_container_" &&
    hasText finding "targetRef" "host_risk_docker_daemon_state" &&
    hasPairId finding "finding_docker_daemon_state_bind_mount_publishes_port_" &&
    withPair (finding.field? "evidenceRefs") fun daemonState port =>
      isFreshDockerEvidence daemonState "docker_daemon_state_bind_mount"
        daemonStateEvidenceSummary (finding.field? "subjectRef") &&
      isFreshDockerEvidence port "docker_port_publication" portPublicationEvidenceSummary
        (finding.field? "subjectRef") &&
      fromOneCollection daemonState port

def isComposeDeclaredTargetFinding : Bool :=
  composeDeclaredTargetNotActiveText.matches finding &&
    joinsPrefixes finding "docker_container_" "docker_container_" && differingRefs finding &&
    hasPairId finding "finding_docker_compose_declared_target_not_active_" &&
    withOne (finding.field? "evidenceRefs") fun evidence =>
      isFreshDockerEvidence evidence "docker_compose_depends_on"
        composeDependencyEvidenceSummary (finding.field? "subjectRef")

def inTextOrder : Bool :=
  (asText (finding.field? "subjectRef")).any fun subjectRef =>
    (asText (finding.field? "targetRef")).any fun targetRef => textLess subjectRef targetRef

def isCanonicalComposeEvidence (evidence : Json) (sourceRef : Option Json) : Bool :=
  isFreshDockerEvidence evidence "docker_compose_depends_on" composeDependencyEvidenceSummary
      sourceRef && (asNumber (evidence.field? "collectedAt")).isSome

def isComposeMutualDependencyFinding : Bool :=
  composeMutualDependencyText.matches finding &&
    joinsPrefixes finding "docker_container_" "docker_container_" && inTextOrder finding &&
    hasPairId finding "finding_docker_compose_mutual_dependency_" &&
    withPair (finding.field? "evidenceRefs") fun forward reverse =>
      isCanonicalComposeEvidence forward (finding.field? "subjectRef") &&
      isCanonicalComposeEvidence reverse (finding.field? "targetRef") &&
      fromOneCollection forward reverse

def isNonEmptyRevision (evidence : Json) : Bool :=
  (nonEmptyText (evidence.field? "providerRevision")).isSome

def isV6Evidence (evidence : Json) (provider kind assertionKind summary idPrefix digest : String) :
    Bool :=
  isFreshFact evidence 6 provider kind assertionKind (finding.field? "subjectRef") &&
    hasText evidence "summary" summary && hasText evidence "id" (idPrefix ++ "_" ++ digest) &&
    (safeInteger (evidence.field? "collectedAt")).isSome && isNonEmptyRevision evidence

def isComposeDeclaredMountMissingFinding : Bool :=
  composeDeclaredMountMissingText.matches finding &&
    (composeMountFindingDigest (finding.field? "id")).any fun digest =>
      isOpaqueComposeRuntimeBindingId (finding.field? "subjectRef") && !differingRefs finding &&
        withPair (finding.field? "evidenceRefs") fun declared binding =>
          isV6Evidence finding declared "compose" "compose_declared_mount" "declared"
            composeDeclaredMountEvidenceSummary "compose_declared_mount" digest &&
          isV6Evidence finding binding "docker" "docker_compose_runtime_binding" "observed"
            dockerComposeRuntimeBindingEvidenceSummary "docker_compose_runtime_binding" digest &&
          fromOneCollection declared binding

def isRuntimeIdentityCollisionFinding : Bool :=
  runtimeIdentityCollisionText.matches finding &&
    hasText finding "id" "finding_runtime_identity_collision_detected" &&
    hasText finding "subjectRef" "runtime_integrity_scope" &&
    hasText finding "targetRef" "runtime_integrity_risk_identity_collision" &&
    withOne (finding.field? "evidenceRefs") fun evidence =>
      isFreshFact evidence 7 "dockermap" "runtime_identity_collision" "observed"
        (finding.field? "subjectRef") &&
      hasText evidence "id" "dockermap_evidence_runtime_identity_collision" &&
      hasText evidence "summary" runtimeIdentityCollisionEvidenceSummary &&
      (safeInteger (evidence.field? "collectedAt")).isSome &&
      (asText (evidence.field? "providerRevision")).any isIntegrityRevision

def isUnspecifiedAddressPortFinding : Bool :=
  unspecifiedAddressPortText.matches finding &&
    startsText (finding.field? "id") "finding_docker_port_published_on_unspecified_address_" &&
    startsText (finding.field? "subjectRef") "docker_container_" &&
    hasText finding "targetRef" "host_risk_docker_unspecified_address_port" &&
    withOne (finding.field? "evidenceRefs") fun evidence =>
      isFreshDockerEvidence evidence "docker_unspecified_address_port_publication"
        unspecifiedAddressPortEvidenceSummary (finding.field? "subjectRef") &&
      (safeInteger (evidence.field? "collectedAt")).isSome && isNonEmptyRevision evidence

def isInternalNetworkPortFinding : Bool :=
  internalNetworkPortText.matches finding &&
    startsText (finding.field? "id") "finding_docker_internal_network_member_publishes_port_" &&
    joinsPrefixes finding "docker_container_" "docker_network_" &&
    withPair (finding.field? "evidenceRefs") fun membership port =>
      isFreshFact membership 1 "docker" "docker_network_membership" "observed"
        (finding.field? "subjectRef") &&
      isFreshFact port 1 "docker" "docker_port_publication" "observed"
        (finding.field? "subjectRef")

end

structure FindingRuleRow where
  rule : String
  /-- The summary count the rule belongs to. -/
  category : String
  check : Json → Bool

def findingRules : List FindingRuleRow :=
  [⟨systemdRequiresText.rule, "declaredDependencyCount", isSystemdRequiresFinding⟩,
    ⟨systemdPartOfText.rule, "declaredDependencyCount", isSystemdPartOfFinding⟩,
    ⟨declaredRelationshipEvidenceNotCurrentText.rule, "evidenceIntegrityCount",
      isDeclaredRelationshipFinding⟩,
    ⟨internalNetworkPortText.rule, "hostPortPublicationCount", isInternalNetworkPortFinding⟩,
    ⟨unspecifiedAddressPortText.rule, "hostPortPublicationCount",
      isUnspecifiedAddressPortFinding⟩,
    ⟨dockerDaemonStateText.rule, "dockerDaemonAuthorityCount", isDaemonStateFinding⟩,
    ⟨dockerDaemonStatePublishedPortText.rule, "hostPortPublicationCount",
      isDaemonStatePublishedPortFinding⟩,
    ⟨composeDeclaredTargetNotActiveText.rule, "declaredDependencyCount",
      isComposeDeclaredTargetFinding⟩,
    ⟨composeMutualDependencyText.rule, "declaredDependencyCount",
      isComposeMutualDependencyFinding⟩,
    ⟨composeDeclaredMountMissingText.rule, "declaredDependencyCount",
      isComposeDeclaredMountMissingFinding⟩,
    ⟨runtimeIdentityCollisionText.rule, "evidenceIntegrityCount",
      isRuntimeIdentityCollisionFinding⟩]

def findingRule? (finding : Json) : Option FindingRuleRow :=
  findingRules.find? fun row => hasText finding "ruleId" row.rule

def isCoherentFinding (finding : Json) : Bool :=
  isObject finding && (findingRule? finding).any fun row => row.check finding

/-! The summary -/

def findingSummaryKeys : List String :=
  ["warningCount", "advisoryCount", "declaredDependencyCount", "dockerDaemonAuthorityCount",
    "hostPortPublicationCount", "evidenceIntegrityCount"]

def severityCount (finding : Json) : Option String :=
  match asText (finding.field? "severity") with
  | some "warning" => some "warningCount"
  | some "advisory" => some "advisoryCount"
  | _ => none

def expectedCount (findings : List Json) (key : String) : ℕ :=
  findings.countP (fun finding => severityCount finding == some key) +
    findings.countP fun finding => (findingRule? finding).any fun row => row.category == key

/-- Exactly the six counts, each as the findings give it. -/
def coherentFindingSummary (summary : Option Json) (findings : List Json) : Bool :=
  match summary with
  | some (.obj fields) =>
      fields.length == findingSummaryKeys.length &&
        findingSummaryKeys.all (fun key => (fields.map Prod.fst).contains key) &&
        findings.all (fun finding => isObject finding && (severityCount finding).isSome &&
          (findingRule? finding).isSome) &&
        findingSummaryKeys.all fun key =>
          safeInteger ((Json.obj fields).field? key) == some (expectedCount findings key)
  | _ => false

def coherentSource : Option Json → Bool
  | none => true
  | some source => ["docker", "mock"].any fun mode => asText (some source) == some mode

/-- A findings response the browser boundary lets through. -/
def hasCoherentFindings (payload : Json) : Bool :=
  isObject payload && coherentSource (payload.field? "source") &&
    withItems (payload.field? "findings") fun findings =>
      findings.countP (fun finding =>
          isObject finding && hasText finding "ruleId" runtimeIdentityCollisionText.rule) ≤ 1 &&
        coherentFindingSummary (payload.field? "summary") findings &&
        findings.all isCoherentFinding

end DockerMap.Api
