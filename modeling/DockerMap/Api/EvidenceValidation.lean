import DockerMap.Api.FindingsValidation

/-! The checks the browser boundary makes on the evidence of a runtime map: the closed tuple of
each version, the relationship a kind can support, and the nodes it names. -/

namespace DockerMap.Api

open JavaScript (asNumber isNullish strictEqual propertyText)

inductive RuntimeEvidenceDiagnostic
  | edgeShape | baseTuple | edgeBinding | sourceBinding | daemonStateTarget
  | portListenerMissing | portListenerAmbiguous | portListenerShape | portListenerGrammar
  | tmuxSessionShape | revision
  deriving DecidableEq, Repr

/-! Tables -/

/-- What an edge has to look like to carry a fact of one kind. -/
structure EvidenceEdge where
  relationship : String
  sourcePrefix : String
  targetPrefix : String
  summary : String
  deriving DecidableEq

def v1EvidenceEdge : List (String × EvidenceEdge) :=
  [("docker_network_membership",
      ⟨"connected_to", "docker_container_", "docker_network_",
        "Docker reported container network membership"⟩),
    ("docker_volume_mount",
      ⟨"mounts", "docker_container_", "docker_volume_", "Docker reported volume attachment"⟩),
    ("docker_port_publication",
      ⟨"exposes", "docker_container_", "network_listener_",
        "Docker reported container port publication"⟩),
    ("docker_unspecified_address_port_publication",
      ⟨"exposes", "docker_container_", "host_risk_docker_unspecified_address_port",
        unspecifiedAddressPortEvidenceSummary⟩),
    ("docker_compose_depends_on",
      ⟨"depends_on", "docker_container_", "docker_container_",
        "Docker recorded Compose dependency declaration"⟩),
    ("docker_daemon_state_bind_mount",
      ⟨"exposes_daemon_state", "docker_container_", "host_risk_docker_daemon_state",
        "Docker reported a bind mount exposing Docker daemon state"⟩)]

def v2EvidenceEdge : List (String × EvidenceEdge) :=
  [("systemd_requires",
      ⟨"requires", "systemd_service_", "systemd_service_",
        "systemd declared a Requires dependency"⟩),
    ("systemd_wants",
      ⟨"wants", "systemd_service_", "systemd_service_", "systemd declared a Wants dependency"⟩),
    ("systemd_part_of",
      ⟨"part_of", "systemd_service_", "systemd_service_",
        "systemd declared a PartOf dependency"⟩)]

def v3EvidenceEdge : List (String × EvidenceEdge) :=
  [("npm_package_manifest_dependency",
      ⟨"depends_on", "npm_project_", "npm_package_", "package manifest declared a dependency"⟩)]

def v4EvidenceEdge : List (String × EvidenceEdge) :=
  [("cron_schedule_declaration",
      ⟨"runs_on", "scheduled_job_", "host_", "cron declared a scheduled job"⟩)]

def v5EvidenceEdge : List (String × EvidenceEdge) :=
  [("tmux_session_listing",
      ⟨"runs_on", "tmux_session_", "host_", "tmux listed a local session"⟩)]

def v7EvidenceEdge : List (String × EvidenceEdge) :=
  [("runtime_identity_collision",
      ⟨"related_to", "runtime_integrity_scope", "runtime_integrity_risk_identity_collision",
        runtimeIdentityCollisionEvidenceSummary⟩)]

/-! The tuple -/

/-- The slot of the version; without one, null or missing. -/
def hasSlot (evidence : Json) : Option String → Bool
  | none => isNullish (evidence.field? "providerSlot")
  | some slot => hasText evidence "providerSlot" slot

/-- The fields around the kind. -/
def hasBaseTuple (version : ℕ) (provider assertionKind : String) (slot : Option String)
    (freshness : List String) (evidence : Json) : Bool :=
  asNumber (evidence.field? "version") == some version &&
    hasText evidence "provider" provider && hasText evidence "assertionKind" assertionKind &&
    hasSlot evidence slot && freshness.any (hasText evidence "freshness")

def retainedFreshness : List String := ["fresh", "stale", "timed_out"]

def isV1 : Json → Bool := hasBaseTuple 1 "docker" "observed" none ["fresh"]

def isV2 : Json → Bool := hasBaseTuple 2 "systemd" "declared" (some "systemd") retainedFreshness

def isV3 : Json → Bool := hasBaseTuple 3 "npm" "declared" (some "project_npm") retainedFreshness

def isV4 : Json → Bool := hasBaseTuple 4 "cron" "declared" (some "cron") retainedFreshness

def isV5 : Json → Bool := hasBaseTuple 5 "tmux" "observed" (some "tmux") retainedFreshness

def isV7 : Json → Bool := hasBaseTuple 7 "dockermap" "observed" none ["fresh"]

def isVersioned (evidence : Json) : Bool :=
  isV1 evidence || isV2 evidence || isV3 evidence || isV4 evidence || isV5 evidence ||
    isV7 evidence

def evidenceEdges (evidence : Json) : List (String × EvidenceEdge) :=
  if isV1 evidence then v1EvidenceEdge
  else if isV2 evidence then v2EvidenceEdge
  else if isV3 evidence then v3EvidenceEdge
  else if isV4 evidence then v4EvidenceEdge
  else if isV5 evidence then v5EvidenceEdge
  else v7EvidenceEdge

def expectedEdge (evidence : Json) : Option EvidenceEdge :=
  (asText (evidence.field? "kind")).bind fun kind => (evidenceEdges evidence).lookup kind

/-! The edge -/

def bindsRelationship (edge evidence : Json) (expected : EvidenceEdge) : Bool :=
  hasText edge "relationship" expected.relationship &&
    hasText evidence "summary" expected.summary && (asText (edge.field? "source")).isSome &&
    (asText (edge.field? "target")).isSome

def bindsSource (edge evidence : Json) (expected : EvidenceEdge) : Bool :=
  strictEqual (evidence.field? "subjectRef") (edge.field? "source") &&
    (if isV7 evidence then hasText edge "source" "runtime_integrity_scope"
      else startsText (edge.field? "source") expected.sourcePrefix) &&
    startsText (edge.field? "target") expected.targetPrefix &&
    !strictEqual (edge.field? "source") (edge.field? "target")

/-- The tuple, then what its kind says of the edge. -/
def bindingDiagnostic (edge evidence : Json) : Option RuntimeEvidenceDiagnostic :=
  if !isVersioned evidence then some .baseTuple
  else match expectedEdge evidence with
    | none => some .edgeBinding
    | some expected =>
        if !bindsRelationship edge evidence expected then some .edgeBinding
        else if !bindsSource edge evidence expected then some .sourceBinding
        else if (isV4 evidence || isV5 evidence) && !hasText edge "target" "host_local" then
          some .edgeBinding
        else if isV7 evidence &&
            !(hasText edge "target" "runtime_integrity_risk_identity_collision" &&
              hasText evidence "summary" runtimeIdentityCollisionEvidenceSummary) then
          some .edgeBinding
        else none

/-- The two risks are literal targets. -/
def targetDiagnostic (edge evidence : Json) : Option RuntimeEvidenceDiagnostic :=
  if hasText evidence "kind" "docker_daemon_state_bind_mount" &&
      !hasText edge "target" "host_risk_docker_daemon_state" then
    some .daemonStateTarget
  else if hasText evidence "kind" "docker_unspecified_address_port_publication" &&
      !(hasText edge "target" "host_risk_docker_unspecified_address_port" &&
        hasText evidence "summary" unspecifiedAddressPortEvidenceSummary) then
    some .edgeBinding
  else none

/-! The nodes -/

def isNonZeroPort (port : List Char) : Bool :=
  !port.isEmpty && port.all Char.isDigit && 0 < Nat.ofDigitChars 10 port 0 &&
    Nat.ofDigitChars 10 port 0 ≤ 65535

def isHostPublishedDockerPort (value : Option Json) : Bool :=
  (asText value).any fun text =>
    match text.toList.splitOn ':' with
    | [host, privateAndProtocol] =>
        match privateAndProtocol.splitOn '/' with
        | [privatePort, protocol] =>
            isNonZeroPort host && isNonZeroPort privatePort &&
              (protocol == "tcp".toList || protocol == "udp".toList || protocol == "sctp".toList)
        | _ => false
    | _ => false

def isEmptyRecord : Option Json → Bool
  | some (.obj []) => true
  | _ => false

/-- A record with one field, the given text. -/
def isRecordOf (name text : String) : Option Json → Bool
  | some (.obj [(field, value)]) => field == name && asText (some value) == some text
  | _ => false

def isCoherentTmuxSessionNode (node : Json) : Bool :=
  hasText node "provider" "tmux" && hasText node "type" "tmux_session" &&
    hasText node "label" "tmux session" && isNullish (node.field? "status") &&
    hasText node "layer" "session" && isNullish (node.field? "service") &&
    isNullish (node.field? "package") &&
    isRecordOf "serviceEntityKind" "session" (node.field? "metadata")

def isFixedNode (type label : String) (node : Json) : Bool :=
  hasText node "provider" "other" && hasText node "type" type && hasText node "label" label &&
    isNullish (node.field? "status") && hasText node "layer" "advisory" &&
    isEmptyRecord (node.field? "metadata") && isNullish (node.field? "service") &&
    isNullish (node.field? "package")

section

variable (nodes edges : List Json)

/-- `nodesById.get`, without its entry the empty list. -/
def nodesById (id : Option Json) : List Json :=
  nodes.filter fun node => strictEqual (node.field? "id") id

def isSyntheticId (node : Json) : Bool :=
  hasText node "id" "runtime_integrity_scope" ||
    hasText node "id" "runtime_integrity_risk_identity_collision"

def hasNonSyntheticIdentityCollision : Bool :=
  nodes.any fun node => !isSyntheticId node && 1 < (nodesById nodes (node.field? "id")).length

def isIdentityCollisionEvidence (evidence : Json) : Bool :=
  isObject evidence && asNumber (evidence.field? "version") == some 7 &&
    hasText evidence "provider" "dockermap" &&
    hasText evidence "kind" "runtime_identity_collision"

def identityCollisionEdgeCount : ℕ :=
  edges.countP fun edge => withItems (edge.field? "evidenceRefs") fun evidenceRefs =>
    evidenceRefs.any isIdentityCollisionEvidence

def identityCollisionDiagnostic (edge evidence : Json) : Option RuntimeEvidenceDiagnostic :=
  if !(withItems (edge.field? "evidenceRefs") (fun evidenceRefs => evidenceRefs.length == 1) &&
      isEmptyRecord (edge.field? "metadata") &&
      hasText evidence "id" "dockermap_evidence_runtime_identity_collision") then
    some .edgeBinding
  else if !(identityCollisionEdgeCount edges == 1 && hasNonSyntheticIdentityCollision nodes &&
      withOne (some (.arr (nodesById nodes (some (.str "runtime_integrity_scope")))))
        (isFixedNode "integrity_scope" "Runtime identity integrity") &&
      withOne (some (.arr (nodesById nodes
          (some (.str "runtime_integrity_risk_identity_collision")))))
        (isFixedNode "host_risk" "Duplicate runtime topology identity")) then
    some .edgeBinding
  else if !(asText (evidence.field? "providerRevision")).any isIntegrityRevision then
    some .revision
  else none

/-- A record of the same listener fact. -/
def isSameListener (listener : Json) (port : String) (candidate : Json) : Bool :=
  hasText candidate "provider" "network" && hasText candidate "type" "network_listener" &&
    strictEqual (candidate.field? "label") (listener.field? "label") &&
    strictEqual (candidate.field? "status") (listener.field? "status") &&
    strictEqual (candidate.field? "layer") (listener.field? "layer") &&
    isNullish (candidate.field? "service") && isNullish (candidate.field? "package") &&
    isRecordOf "port" port (candidate.field? "metadata")

def portListenerDiagnostic (edge : Json) : Option RuntimeEvidenceDiagnostic :=
  match nodesById nodes (edge.field? "target") with
  | [] => some .portListenerMissing
  | listener :: others =>
      let metadata := listener.field? "metadata"
      if !(hasText listener "provider" "network" && hasText listener "type" "network_listener" &&
          metadata.any isObject) then
        some .portListenerShape
      else match metadata.bind fun metadata => metadata.field? "port" with
        | some (.str port) =>
            if !isHostPublishedDockerPort (some (.str port)) then some .portListenerGrammar
            else if !(listener :: others).all (isSameListener listener port) then
              some .portListenerAmbiguous
            else none
        | _ => some .portListenerGrammar

def evidenceDiagnostic (edge evidence : Json) : Option RuntimeEvidenceDiagnostic :=
  if !isObject evidence then some .edgeShape
  else
    (bindingDiagnostic edge evidence).or <|
    (if isV7 evidence then identityCollisionDiagnostic nodes edges edge evidence else none).or <|
    (targetDiagnostic edge evidence).or <|
    (if hasText evidence "kind" "docker_port_publication" then portListenerDiagnostic nodes edge
      else none).or <|
    (if isV5 evidence && !withOne (some (.arr (nodesById nodes (edge.field? "source"))))
        isCoherentTmuxSessionNode then some .tmuxSessionShape
      else none).or <|
    if !hasOpaqueRevision evidence then some .revision else none

def edgeDiagnostic (edge : Json) : Option RuntimeEvidenceDiagnostic :=
  match edge.field? "evidenceRefs" with
  | some (.arr evidenceRefs) => evidenceRefs.findSome? (evidenceDiagnostic nodes edges edge)
  | _ => some .edgeShape

end

/-- The first thing wrong with the evidence of a payload. -/
def runtimeEvidenceDiagnostic (payload : Json) : Option RuntimeEvidenceDiagnostic :=
  match payload.field? "nodes", payload.field? "edges" with
  | some (.arr nodes), some (.arr edges) =>
      if nodes.all fun node => (asText (node.field? "id")).isSome then
        edges.findSome? (edgeDiagnostic nodes edges)
      else some .edgeShape
  | _, _ => some .edgeShape

end DockerMap.Api
