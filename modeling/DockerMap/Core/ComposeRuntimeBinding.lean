import DockerMap.Core.Findings

/-! Private Compose-to-Docker coherence contract used by the findings cache. Project
names, config file paths, Docker labels and raw container ids never cross the API
boundary. -/

namespace DockerMap

def maxComposeRuntimeBindingContainers : ℕ := 64
def maxComposeRuntimeBindingConfigFiles : ℕ := 8
def maxComposeRuntimeBindingServices : ℕ := 128
def maxComposeRuntimeBindingMounts : ℕ := 256
def maxRuntimeMountsPerBoundContainer : ℕ := 128
def maxPrivateIdChars : ℕ := 259

structure ComposeRuntimeContainer where
  containerId : String
  project : String
  service : String
  configFiles : SortedSet String
  mounts : List ContainerMount
  deriving DecidableEq

structure ComposeRuntimeBinding where
  project : String
  configFiles : SortedSet String
  containers : List ComposeRuntimeContainer
  collectedAt : ℕ
  providerRevision : String
  fresh : Bool
  deriving DecidableEq

def isPrivateId (value : String) : Bool := value.toList.length ≤ maxPrivateIdChars

def isLowerHex (character : Char) : Bool :=
  character.isDigit || ('a' ≤ character && character ≤ 'f')

def isDockerContainerId (value : String) : Bool :=
  value.toList.length == 64 && value.toList.all isLowerHex

def mountsMatch (declared : ComposeMount) (runtime : ContainerMount) : Bool :=
  declared.kind == runtime.kind && declared.target == runtime.target &&
    match declared.kind with
    | .bind => declared.resolvedSource.or declared.source == runtime.source
    | .namedVolume => declared.source == runtime.source
    | _ => false

def ComposeRuntimeContainer.isBounded (container : ComposeRuntimeContainer) : Bool :=
  container.containerId ≠ "" && isDockerContainerId container.containerId &&
    isPrivateId container.containerId && isPrivateId container.project &&
    container.service ≠ "" && isPrivateId container.service &&
    container.configFiles.toList.length ≤ maxComposeRuntimeBindingConfigFiles &&
    container.configFiles.toList.all isPrivateId &&
    container.mounts.length ≤ maxRuntimeMountsPerBoundContainer

/-- The guard of the rule: every bound and identity check that must hold first. -/
def isUsableBinding (scan : ComposeScan) (binding : ComposeRuntimeBinding) : Bool :=
  binding.fresh && binding.project ≠ "" && isPrivateId binding.project &&
    !binding.configFiles.isEmpty &&
    binding.configFiles.toList.length ≤ maxComposeRuntimeBindingConfigFiles &&
    binding.providerRevision ≠ "" &&
    binding.containers.length ≤ maxComposeRuntimeBindingContainers &&
    scan.services.length ≤ maxComposeRuntimeBindingServices &&
    scan.mounts.length ≤ maxComposeRuntimeBindingMounts &&
    SortedSet.ofList scan.files == binding.configFiles &&
    scan.diagnostics.all (fun diagnostic => diagnostic.severity == .info) &&
    binding.configFiles.toList.all isPrivateId &&
    binding.containers.all ComposeRuntimeContainer.isBounded

section

variable (binding : ComposeRuntimeBinding)

def isBound (container : ComposeRuntimeContainer) : Bool :=
  container.project == binding.project && container.configFiles == binding.configFiles

/-- The first container exactly and unambiguously bound to the service. -/
def boundContainer (service : String) : Option ComposeRuntimeContainer :=
  binding.containers.find? fun container =>
    isBound binding container && container.service == service && container.containerId ≠ "" &&
      binding.containers.countP (fun other => other.containerId == container.containerId) == 1 &&
      binding.containers.countP
        (fun other => isBound binding other && other.service == container.service) == 1

/-- The declared mounts absent from their bound container, each as the container's id
and the ordinal of the mount in the scan. -/
def missingMounts (scan : ComposeScan) : List (String × ℕ) :=
  scan.mounts.zipIdx.filterMap fun (mount, ordinal) =>
    if mount.kind == .bind || mount.kind == .namedVolume then
      match boundContainer binding mount.service with
      | some container =>
          if container.mounts.any (mountsMatch mount) then none
          else some (container.containerId, ordinal)
      | none => none
    else none

def composeSubjectRef (containerId : String) : String :=
  "compose_runtime_binding_" ++ Sha256.hex containerId

def evidenceSeed (missing : String × ℕ) : String :=
  missing.1 ++ unitSeparator ++ toString missing.2

def composeEvidence (idPrefix : String) (provider : RuntimeEvidenceProvider)
    (kind : RuntimeEvidenceKind) (assertionKind : RuntimeEvidenceAssertionKind)
    (summary : String) (missing : String × ℕ) : RuntimeEvidenceRef where
  version := 6
  id := idPrefix ++ "_" ++ Sha256.hex (evidenceSeed missing)
  provider := provider
  kind := kind
  assertionKind := assertionKind
  summary := summary
  subjectRef := composeSubjectRef missing.1
  collectedAt := binding.collectedAt
  providerRevision := binding.providerRevision
  providerSlot := none
  freshness := .fresh

def missingMountFinding (missing : String × ℕ) : Finding where
  id := "finding_compose_declared_mount_missing_at_bound_container_" ++
    Sha256.hex (evidenceSeed missing)
  ruleId := .composeDeclaredMountMissingAtBoundContainer
  severity := .warning
  summary := "A Compose-declared mount is absent from its exactly bound runtime container"
  recommendation :=
    "Inspect the Compose mount declaration and the bound container's current mount configuration."
  subjectRef := composeSubjectRef missing.1
  targetRef := composeSubjectRef missing.1
  evidenceRefs :=
    [composeEvidence binding "compose_declared_mount" .compose .composeDeclaredMount .declared
        "Compose declared a mount for the bound service" missing,
      composeEvidence binding "docker_compose_runtime_binding" .docker
        .dockerComposeRuntimeBinding .observed
        "Docker confirmed an exact Compose project, service, and config binding" missing]

end

/-- Derive only the one high-signal missing-mount rule. -/
def deriveComposeRuntimeMountFindings (scan : ComposeScan) (binding : ComposeRuntimeBinding) :
    List Finding :=
  if isUsableBinding scan binding then
    sortByKey Finding.id ((missingMounts binding scan).map (missingMountFinding binding))
  else []

end DockerMap
