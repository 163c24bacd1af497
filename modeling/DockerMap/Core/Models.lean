import DockerMap.Lib.SortedMap
import Mathlib.Data.String.Basic
import Mathlib.Data.Fin.Basic

/-! The public domain models. `u64` values whose decimal text is parsed back are
`Fin (2 ^ 64)`; timestamps and counters that are only compared are `ℕ`. -/

namespace DockerMap

abbrev U64 := Fin (2 ^ 64)

inductive RuntimeMode | docker | mock
  deriving DecidableEq, Repr

inductive ComposeMountKind | bind | namedVolume | anonymousVolume | unsupported
  deriving DecidableEq, Repr

inductive DiagnosticSeverity | info | warning | error | blocked
  deriving DecidableEq, Repr

/-! Docker snapshot -/

structure ContainerMount where
  id : String
  kind : ComposeMountKind
  source : Option String
  target : String
  readOnly : Bool
  deriving DecidableEq

structure ContainerRecord where
  id : String
  name : String
  image : String
  status : String
  role : String
  networks : List String
  ports : List String
  publishesOnUnspecifiedAddress : Bool
  mounts : List ContainerMount
  dependsOn : List String
  deriving DecidableEq

structure ImageRecord where
  image : String
  containers : List String
  status : String
  deriving DecidableEq

structure NetworkRecord where
  id : String
  name : String
  driver : String
  internal : Bool
  members : List String
  deriving DecidableEq

structure VolumeRecord where
  id : String
  name : String
  attachedTo : List String
  deriving DecidableEq

structure DockerSnapshot where
  containers : List ContainerRecord := []
  images : List ImageRecord := []
  networks : List NetworkRecord := []
  volumes : List VolumeRecord := []
  lastUpdated : ℕ := 0
  modelRevision : String := ""
  source : Option RuntimeMode := none
  deriving DecidableEq

/-! Observed history -/

inductive ObservedChangeKind | containerAppeared | containerDisappeared | containerStatusChanged
  deriving DecidableEq, Repr

inductive ObservedContainerStatus | running | stopped | other
  deriving DecidableEq, Repr

structure ObservedChangeEvent where
  id : String
  kind : ObservedChangeKind
  observedAtMs : ℕ
  containerId : String
  previousStatus : Option ObservedContainerStatus
  currentStatus : Option ObservedContainerStatus
  deriving DecidableEq

structure ObservedChangeHistoryResponse where
  source : RuntimeMode
  baselineEstablished : Bool
  currentModelRevision : Option String
  observedRevision : Option String
  events : List ObservedChangeEvent
  deriving DecidableEq

/-! Provider slots -/

inductive ProviderSlot
  | networkInfrastructure | hostScoped | tmux | cron | systemd
  | pythonProcesses | nativeProcesses | projectNpm
  deriving DecidableEq, Repr

inductive ProviderStateKind | fresh | stale | collecting | unavailable | timedOut | disabled
  deriving DecidableEq, Repr

inductive ProviderStatusReason
  | initial | refreshing | collectionFailed | collectionTimedOut | sourceReset | disabled
  deriving DecidableEq, Repr

structure ProviderState where
  slot : ProviderSlot
  state : ProviderStateKind
  lastAttemptMs : Option ℕ
  lastSuccessMs : Option ℕ
  lastDurationMs : Option ℕ
  consecutiveFailureCount : ℕ
  dataRevision : Option String
  statusReason : Option ProviderStatusReason
  deriving DecidableEq

/-! Health -/

inductive HealthState | ok | degraded
  deriving DecidableEq, Repr

structure HealthResponse where
  status : HealthState
  mode : RuntimeMode
  dockerReachable : Bool
  lastUpdated : ℕ
  snapshotVersion : String
  modelRevision : String
  message : Option String
  deriving DecidableEq

/-! Logs -/

inductive LogLevel | info | warn | error
  deriving DecidableEq, Repr

structure LogEntry where
  id : String
  timestamp : U64
  container : String
  level : LogLevel
  message : String
  deriving DecidableEq

structure LogsResponse where
  service : Option String := none
  entries : List LogEntry := []
  nextCursor : Option String := none
  source : Option RuntimeMode := none
  deriving DecidableEq

/-! Compose declarations -/

structure ComposeFileOrigin where
  file : String
  service : Option String
  field : String
  deriving DecidableEq

structure ComposeDiagnostic where
  id : String
  severity : DiagnosticSeverity
  message : String
  origin : ComposeFileOrigin
  deriving DecidableEq

structure ComposeMount where
  id : String
  service : String
  kind : ComposeMountKind
  source : Option String
  resolvedSource : Option String
  target : String
  readOnly : Bool
  origin : ComposeFileOrigin
  deriving DecidableEq

structure ComposeService where
  name : String
  image : Option String
  environment : SortedMap String String
  dependsOn : List String
  deriving DecidableEq

inductive MountCorrelationStatus | matched | missing | extra
  deriving DecidableEq, Repr

structure MountCorrelation where
  id : String
  service : String
  container : Option String
  composeMountId : Option String
  kind : ComposeMountKind
  target : String
  declaredSource : Option String
  runtimeSource : Option String
  status : MountCorrelationStatus
  deriving DecidableEq

structure ComposeScan where
  files : List String
  projectRoot : String
  services : List ComposeService
  mounts : List ComposeMount
  correlations : List MountCorrelation
  diagnostics : List ComposeDiagnostic
  deriving DecidableEq

/-! Runtime topology -/

inductive ServiceEntityKind
  | service | nodeApplication | pythonApplication | aiAgent | session | host | storage
  | externalApi | dnsProvider | reverseProxy | packageDependency
  deriving DecidableEq, Repr

inductive RuntimeProviderKind
  | docker | compose | host | systemd | scheduledJob | npm | pm2 | tmux | tailscale | headscale
  | cloudflare | caddy | reverseProxy | localDns | dnsProvider | externalApi | process | python
  | network | kubernetes | other
  deriving DecidableEq, Repr

inductive RuntimeNodeKind
  | container | dockerNetwork | dockerVolume | host | hostRisk | service | systemdService
  | scheduledJob | pm2App | tmuxSession | tailnetNode | reverseProxy | localDnsResolver
  | dnsProvider | nodeApplication | pythonApplication | aiAgent | package | storage | externalApi
  | packageDependency | database | worker | process | networkListener | orchestratorWorkload
  | integrityScope
  deriving DecidableEq, Repr

inductive RuntimeRelationshipKind
  | connectedTo | dependsOn | requiredBy | requires | wants | after | before | partOf | bindsTo
  | conflictsWith | mounts | manages | exposes | exposesDaemonState | runsOn | uses | calls
  | resolvesVia | proxiesTo | contains | owns | relatedTo
  deriving DecidableEq, Repr

inductive RuntimeNodeLayer
  | edge | host | service | container | process | session | package | network | storage | advisory
  deriving DecidableEq, Repr

inductive RuntimeHealthState | healthy | degraded | unhealthy | unknown
  deriving DecidableEq, Repr

inductive RuntimeLogLevel | debug | info | warn | error
  deriving DecidableEq, Repr

inductive RuntimeOwnershipKind | person | team | system | automation | vendor
  deriving DecidableEq, Repr

inductive RuntimeLocationKind | host | container | path | cluster | region | workspace | tailnet
  deriving DecidableEq, Repr

inductive RuntimeServiceStatus
  | running | starting | stopping | stopped | degraded | failed | unknown
  deriving DecidableEq, Repr

inductive RuntimePackageManager | npm | pnpm | yarn | pip | apt | apk | brew | cargo | system
  deriving DecidableEq, Repr

inductive RuntimeAdvisorySeverity | low | moderate | high | critical
  deriving DecidableEq, Repr

structure RuntimeHealth where
  state : RuntimeHealthState
  checkedAt : Option ℕ
  source : Option String
  message : Option String
  deriving DecidableEq

structure RuntimeLogRef where
  id : String
  source : String
  level : Option RuntimeLogLevel
  deriving DecidableEq

structure RuntimeOwnership where
  kind : RuntimeOwnershipKind
  name : String
  id : Option String
  deriving DecidableEq

structure RuntimeLocation where
  kind : RuntimeLocationKind
  value : String
  detail : Option String
  deriving DecidableEq

structure RuntimeServiceEntity where
  name : String
  status : RuntimeServiceStatus
  dependencies : List String
  dependents : List String
  health : Option RuntimeHealth
  logs : List RuntimeLogRef
  owner : Option RuntimeOwnership
  location : Option RuntimeLocation
  deriving DecidableEq

def RuntimeServiceEntity.minimal (name : String) (status : RuntimeServiceStatus) :
    RuntimeServiceEntity where
  name := name
  status := status
  dependencies := []
  dependents := []
  health := none
  logs := []
  owner := none
  location := none

structure RuntimePackageAdvisory where
  id : String
  source : String
  title : String
  severity : RuntimeAdvisorySeverity
  fixedVersion : Option String
  url : Option String
  publishedAt : Option ℕ
  deriving DecidableEq

structure RuntimePackageUpdate where
  currentVersion : String
  latestVersion : Option String
  available : Bool
  advisories : List RuntimePackageAdvisory
  deriving DecidableEq

structure RuntimePackageEntity where
  name : String
  manager : RuntimePackageManager
  version : String
  dependencies : List String
  dependents : List String
  update : Option RuntimePackageUpdate
  owner : Option RuntimeOwnership
  location : Option RuntimeLocation
  deriving DecidableEq

abbrev Metadata := SortedMap String String

structure RuntimeMapNode where
  id : String
  provider : RuntimeProviderKind
  kind : RuntimeNodeKind
  label : String
  status : Option String
  layer : Option RuntimeNodeLayer
  metadata : Metadata
  service : Option RuntimeServiceEntity
  package : Option RuntimePackageEntity
  deriving DecidableEq

inductive RuntimeEvidenceProvider | docker | compose | systemd | npm | cron | tmux | dockermap
  deriving DecidableEq, Repr

inductive RuntimeEvidenceAssertionKind | observed | declared
  deriving DecidableEq, Repr

inductive RuntimeEvidenceKind
  | dockerNetworkMembership | dockerVolumeMount | dockerPortPublication
  | dockerUnspecifiedAddressPortPublication | dockerComposeDependsOn | dockerDaemonStateBindMount
  | systemdRequires | systemdWants | systemdPartOf | npmPackageManifestDependency
  | cronScheduleDeclaration | tmuxSessionListing | composeDeclaredMount
  | dockerComposeRuntimeBinding | runtimeIdentityCollision
  deriving DecidableEq, Repr

inductive RuntimeEvidenceFreshness | fresh | stale | timedOut
  deriving DecidableEq, Repr

structure RuntimeEvidenceRef where
  version : ℕ
  id : String
  provider : RuntimeEvidenceProvider
  kind : RuntimeEvidenceKind
  assertionKind : RuntimeEvidenceAssertionKind
  summary : String
  subjectRef : String
  collectedAt : ℕ
  providerRevision : String
  providerSlot : Option ProviderSlot
  freshness : RuntimeEvidenceFreshness
  deriving DecidableEq

structure RuntimeMapEdge where
  source : String
  target : String
  relationship : RuntimeRelationshipKind
  metadata : Metadata
  evidenceRefs : List RuntimeEvidenceRef
  deriving DecidableEq

structure RuntimeMapDiagnostic where
  provider : RuntimeProviderKind
  severity : DiagnosticSeverity
  message : String
  deriving DecidableEq

structure RuntimeMap where
  nodes : List RuntimeMapNode := []
  edges : List RuntimeMapEdge := []
  diagnostics : List RuntimeMapDiagnostic := []
  lastUpdated : ℕ := 0
  modelRevision : String := ""
  providerStates : List ProviderState := []
  source : Option RuntimeMode := none
  deriving DecidableEq

/-! Findings -/

inductive FindingSeverity | warning | advisory
  deriving DecidableEq, Repr

inductive FindingRule
  | systemdRequiresTargetNotActive | systemdPartOfTargetNotActive
  | dockerInternalNetworkMemberPublishesPort | dockerPortPublishedOnUnspecifiedAddress
  | dockerDaemonStateBindMount | dockerDaemonStateBindMountPublishesPort
  | dockerComposeDeclaredTargetNotActive | dockerComposeMutualDependency
  | composeDeclaredMountMissingAtBoundContainer | runtimeIdentityCollisionDetected
  | runtimeDeclaredRelationshipEvidenceNotCurrent
  deriving DecidableEq, Repr

inductive FindingCategory
  | declaredDependency | dockerDaemonAuthority | hostPortPublication | evidenceIntegrity
  deriving DecidableEq, Repr

def FindingRule.category : FindingRule → FindingCategory
  | .systemdRequiresTargetNotActive | .systemdPartOfTargetNotActive
  | .dockerComposeDeclaredTargetNotActive | .dockerComposeMutualDependency => .declaredDependency
  | .dockerDaemonStateBindMount => .dockerDaemonAuthority
  | .dockerInternalNetworkMemberPublishesPort | .dockerDaemonStateBindMountPublishesPort
  | .dockerPortPublishedOnUnspecifiedAddress => .hostPortPublication
  | .composeDeclaredMountMissingAtBoundContainer => .declaredDependency
  | .runtimeIdentityCollisionDetected
  | .runtimeDeclaredRelationshipEvidenceNotCurrent => .evidenceIntegrity

structure Finding where
  id : String
  ruleId : FindingRule
  severity : FindingSeverity
  summary : String
  recommendation : String
  subjectRef : String
  targetRef : String
  evidenceRefs : List RuntimeEvidenceRef
  deriving DecidableEq

structure FindingSummary where
  warningCount : ℕ := 0
  advisoryCount : ℕ := 0
  declaredDependencyCount : ℕ := 0
  dockerDaemonAuthorityCount : ℕ := 0
  hostPortPublicationCount : ℕ := 0
  evidenceIntegrityCount : ℕ := 0
  deriving DecidableEq

def u32Max : ℕ := 4294967295

/-- `u32::saturating_add(1)`. -/
def u32SaturatingSucc (n : ℕ) : ℕ := min (n + 1) u32Max

def FindingSummary.add (summary : FindingSummary) (finding : Finding) : FindingSummary :=
  let summary := match finding.severity with
    | .warning => { summary with warningCount := u32SaturatingSucc summary.warningCount }
    | .advisory => { summary with advisoryCount := u32SaturatingSucc summary.advisoryCount }
  match finding.ruleId.category with
    | .declaredDependency =>
        { summary with
          declaredDependencyCount := u32SaturatingSucc summary.declaredDependencyCount }
    | .dockerDaemonAuthority =>
        { summary with
          dockerDaemonAuthorityCount := u32SaturatingSucc summary.dockerDaemonAuthorityCount }
    | .hostPortPublication =>
        { summary with
          hostPortPublicationCount := u32SaturatingSucc summary.hostPortPublicationCount }
    | .evidenceIntegrity =>
        { summary with
          evidenceIntegrityCount := u32SaturatingSucc summary.evidenceIntegrityCount }

def FindingSummary.fromFindings (findings : List Finding) : FindingSummary :=
  findings.foldl FindingSummary.add {}

structure FindingsResponse where
  findings : List Finding := []
  summary : FindingSummary := {}
  modelRevision : String := ""
  source : Option RuntimeMode := none
  deriving DecidableEq

end DockerMap
