import DockerMap.Core.Models
import DockerMap.Lib.Json

/-! The JSON form of the public models: field names, variant names and which fields
are left out when they have no value. Every encoding is faithful. -/

namespace DockerMap

open Json (Encode encode nullable record record_inj record_ne_null)

/-! Variant names -/

def RuntimeMode.wireName : RuntimeMode → String
  | .docker => "docker"
  | .mock => "mock"

theorem RuntimeMode.wireName_injective : Function.Injective RuntimeMode.wireName := by
  intro a b h
  cases a <;> cases b <;> first | rfl | simp [RuntimeMode.wireName] at h

def ComposeMountKind.wireName : ComposeMountKind → String
  | .bind => "bind"
  | .namedVolume => "named_volume"
  | .anonymousVolume => "anonymous_volume"
  | .unsupported => "unsupported"

theorem ComposeMountKind.wireName_injective : Function.Injective ComposeMountKind.wireName := by
  intro a b h
  cases a <;> cases b <;> first | rfl | simp [ComposeMountKind.wireName] at h

def DiagnosticSeverity.wireName : DiagnosticSeverity → String
  | .info => "info"
  | .warning => "warning"
  | .error => "error"
  | .blocked => "blocked"

theorem DiagnosticSeverity.wireName_injective : Function.Injective DiagnosticSeverity.wireName := by
  intro a b h
  cases a <;> cases b <;> first | rfl | simp [DiagnosticSeverity.wireName] at h

def HealthState.wireName : HealthState → String
  | .ok => "ok"
  | .degraded => "degraded"

theorem HealthState.wireName_injective : Function.Injective HealthState.wireName := by
  intro a b h
  cases a <;> cases b <;> first | rfl | simp [HealthState.wireName] at h

def ProviderSlot.wireName : ProviderSlot → String
  | .networkInfrastructure => "network_infrastructure"
  | .hostScoped => "host_scoped"
  | .tmux => "tmux"
  | .cron => "cron"
  | .systemd => "systemd"
  | .pythonProcesses => "python_processes"
  | .nativeProcesses => "native_processes"
  | .projectNpm => "project_npm"

theorem ProviderSlot.wireName_injective : Function.Injective ProviderSlot.wireName := by
  intro a b h
  cases a <;> cases b <;> first | rfl | simp [ProviderSlot.wireName] at h

def ProviderStateKind.wireName : ProviderStateKind → String
  | .fresh => "fresh"
  | .stale => "stale"
  | .collecting => "collecting"
  | .unavailable => "unavailable"
  | .timedOut => "timed_out"
  | .disabled => "disabled"

theorem ProviderStateKind.wireName_injective : Function.Injective ProviderStateKind.wireName := by
  intro a b h
  cases a <;> cases b <;> first | rfl | simp [ProviderStateKind.wireName] at h

def ProviderStatusReason.wireName : ProviderStatusReason → String
  | .initial => "initial"
  | .refreshing => "refreshing"
  | .collectionFailed => "collection_failed"
  | .collectionTimedOut => "collection_timed_out"
  | .sourceReset => "source_reset"
  | .disabled => "disabled"

theorem ProviderStatusReason.wireName_injective : Function.Injective ProviderStatusReason.wireName := by
  intro a b h
  cases a <;> cases b <;> first | rfl | simp [ProviderStatusReason.wireName] at h

def RuntimeProviderKind.wireName : RuntimeProviderKind → String
  | .docker => "docker"
  | .compose => "compose"
  | .host => "host"
  | .systemd => "systemd"
  | .scheduledJob => "scheduled_job"
  | .npm => "npm"
  | .pm2 => "pm2"
  | .tmux => "tmux"
  | .tailscale => "tailscale"
  | .headscale => "headscale"
  | .cloudflare => "cloudflare"
  | .caddy => "caddy"
  | .reverseProxy => "reverse_proxy"
  | .localDns => "local_dns"
  | .dnsProvider => "dns_provider"
  | .externalApi => "external_api"
  | .process => "process"
  | .python => "python"
  | .network => "network"
  | .kubernetes => "kubernetes"
  | .other => "other"

theorem RuntimeProviderKind.wireName_injective : Function.Injective RuntimeProviderKind.wireName := by
  intro a b h
  cases a <;> cases b <;> first | rfl | simp [RuntimeProviderKind.wireName] at h

def RuntimeNodeKind.wireName : RuntimeNodeKind → String
  | .container => "container"
  | .dockerNetwork => "docker_network"
  | .dockerVolume => "docker_volume"
  | .host => "host"
  | .hostRisk => "host_risk"
  | .service => "service"
  | .systemdService => "systemd_service"
  | .scheduledJob => "scheduled_job"
  | .pm2App => "pm2_app"
  | .tmuxSession => "tmux_session"
  | .tailnetNode => "tailnet_node"
  | .reverseProxy => "reverse_proxy"
  | .localDnsResolver => "local_dns_resolver"
  | .dnsProvider => "dns_provider"
  | .nodeApplication => "node_application"
  | .pythonApplication => "python_application"
  | .aiAgent => "ai_agent"
  | .package => "package"
  | .storage => "storage"
  | .externalApi => "external_api"
  | .packageDependency => "package_dependency"
  | .database => "database"
  | .worker => "worker"
  | .process => "process"
  | .networkListener => "network_listener"
  | .orchestratorWorkload => "orchestrator_workload"
  | .integrityScope => "integrity_scope"

theorem RuntimeNodeKind.wireName_injective : Function.Injective RuntimeNodeKind.wireName := by
  intro a b h
  cases a <;> cases b <;> first | rfl | simp [RuntimeNodeKind.wireName] at h

def RuntimeRelationshipKind.wireName : RuntimeRelationshipKind → String
  | .connectedTo => "connected_to"
  | .dependsOn => "depends_on"
  | .requiredBy => "required_by"
  | .requires => "requires"
  | .wants => "wants"
  | .after => "after"
  | .before => "before"
  | .partOf => "part_of"
  | .bindsTo => "binds_to"
  | .conflictsWith => "conflicts_with"
  | .mounts => "mounts"
  | .manages => "manages"
  | .exposes => "exposes"
  | .exposesDaemonState => "exposes_daemon_state"
  | .runsOn => "runs_on"
  | .uses => "uses"
  | .calls => "calls"
  | .resolvesVia => "resolves_via"
  | .proxiesTo => "proxies_to"
  | .contains => "contains"
  | .owns => "owns"
  | .relatedTo => "related_to"

theorem RuntimeRelationshipKind.wireName_injective : Function.Injective RuntimeRelationshipKind.wireName := by
  intro a b h
  cases a <;> cases b <;> first | rfl | simp [RuntimeRelationshipKind.wireName] at h

def RuntimeNodeLayer.wireName : RuntimeNodeLayer → String
  | .edge => "edge"
  | .host => "host"
  | .service => "service"
  | .container => "container"
  | .process => "process"
  | .session => "session"
  | .package => "package"
  | .network => "network"
  | .storage => "storage"
  | .advisory => "advisory"

theorem RuntimeNodeLayer.wireName_injective : Function.Injective RuntimeNodeLayer.wireName := by
  intro a b h
  cases a <;> cases b <;> first | rfl | simp [RuntimeNodeLayer.wireName] at h

def RuntimeHealthState.wireName : RuntimeHealthState → String
  | .healthy => "healthy"
  | .degraded => "degraded"
  | .unhealthy => "unhealthy"
  | .unknown => "unknown"

theorem RuntimeHealthState.wireName_injective : Function.Injective RuntimeHealthState.wireName := by
  intro a b h
  cases a <;> cases b <;> first | rfl | simp [RuntimeHealthState.wireName] at h

def RuntimeLogLevel.wireName : RuntimeLogLevel → String
  | .debug => "debug"
  | .info => "info"
  | .warn => "warn"
  | .error => "error"

theorem RuntimeLogLevel.wireName_injective : Function.Injective RuntimeLogLevel.wireName := by
  intro a b h
  cases a <;> cases b <;> first | rfl | simp [RuntimeLogLevel.wireName] at h

def RuntimeOwnershipKind.wireName : RuntimeOwnershipKind → String
  | .person => "person"
  | .team => "team"
  | .system => "system"
  | .automation => "automation"
  | .vendor => "vendor"

theorem RuntimeOwnershipKind.wireName_injective : Function.Injective RuntimeOwnershipKind.wireName := by
  intro a b h
  cases a <;> cases b <;> first | rfl | simp [RuntimeOwnershipKind.wireName] at h

def RuntimeLocationKind.wireName : RuntimeLocationKind → String
  | .host => "host"
  | .container => "container"
  | .path => "path"
  | .cluster => "cluster"
  | .region => "region"
  | .workspace => "workspace"
  | .tailnet => "tailnet"

theorem RuntimeLocationKind.wireName_injective : Function.Injective RuntimeLocationKind.wireName := by
  intro a b h
  cases a <;> cases b <;> first | rfl | simp [RuntimeLocationKind.wireName] at h

def RuntimeServiceStatus.wireName : RuntimeServiceStatus → String
  | .running => "running"
  | .starting => "starting"
  | .stopping => "stopping"
  | .stopped => "stopped"
  | .degraded => "degraded"
  | .failed => "failed"
  | .unknown => "unknown"

theorem RuntimeServiceStatus.wireName_injective : Function.Injective RuntimeServiceStatus.wireName := by
  intro a b h
  cases a <;> cases b <;> first | rfl | simp [RuntimeServiceStatus.wireName] at h

def RuntimePackageManager.wireName : RuntimePackageManager → String
  | .npm => "npm"
  | .pnpm => "pnpm"
  | .yarn => "yarn"
  | .pip => "pip"
  | .apt => "apt"
  | .apk => "apk"
  | .brew => "brew"
  | .cargo => "cargo"
  | .system => "system"

theorem RuntimePackageManager.wireName_injective : Function.Injective RuntimePackageManager.wireName := by
  intro a b h
  cases a <;> cases b <;> first | rfl | simp [RuntimePackageManager.wireName] at h

def RuntimeAdvisorySeverity.wireName : RuntimeAdvisorySeverity → String
  | .low => "low"
  | .moderate => "moderate"
  | .high => "high"
  | .critical => "critical"

theorem RuntimeAdvisorySeverity.wireName_injective : Function.Injective RuntimeAdvisorySeverity.wireName := by
  intro a b h
  cases a <;> cases b <;> first | rfl | simp [RuntimeAdvisorySeverity.wireName] at h

def RuntimeEvidenceProvider.wireName : RuntimeEvidenceProvider → String
  | .docker => "docker"
  | .compose => "compose"
  | .systemd => "systemd"
  | .npm => "npm"
  | .cron => "cron"
  | .tmux => "tmux"
  | .dockermap => "dockermap"

theorem RuntimeEvidenceProvider.wireName_injective : Function.Injective RuntimeEvidenceProvider.wireName := by
  intro a b h
  cases a <;> cases b <;> first | rfl | simp [RuntimeEvidenceProvider.wireName] at h

def RuntimeEvidenceAssertionKind.wireName : RuntimeEvidenceAssertionKind → String
  | .observed => "observed"
  | .declared => "declared"

theorem RuntimeEvidenceAssertionKind.wireName_injective : Function.Injective RuntimeEvidenceAssertionKind.wireName := by
  intro a b h
  cases a <;> cases b <;> first | rfl | simp [RuntimeEvidenceAssertionKind.wireName] at h

def RuntimeEvidenceKind.wireName : RuntimeEvidenceKind → String
  | .dockerNetworkMembership => "docker_network_membership"
  | .dockerVolumeMount => "docker_volume_mount"
  | .dockerPortPublication => "docker_port_publication"
  | .dockerUnspecifiedAddressPortPublication => "docker_unspecified_address_port_publication"
  | .dockerComposeDependsOn => "docker_compose_depends_on"
  | .dockerDaemonStateBindMount => "docker_daemon_state_bind_mount"
  | .systemdRequires => "systemd_requires"
  | .systemdWants => "systemd_wants"
  | .systemdPartOf => "systemd_part_of"
  | .npmPackageManifestDependency => "npm_package_manifest_dependency"
  | .cronScheduleDeclaration => "cron_schedule_declaration"
  | .tmuxSessionListing => "tmux_session_listing"
  | .composeDeclaredMount => "compose_declared_mount"
  | .dockerComposeRuntimeBinding => "docker_compose_runtime_binding"
  | .runtimeIdentityCollision => "runtime_identity_collision"

theorem RuntimeEvidenceKind.wireName_injective : Function.Injective RuntimeEvidenceKind.wireName := by
  intro a b h
  cases a <;> cases b <;> first | rfl | simp [RuntimeEvidenceKind.wireName] at h

def RuntimeEvidenceFreshness.wireName : RuntimeEvidenceFreshness → String
  | .fresh => "fresh"
  | .stale => "stale"
  | .timedOut => "timed_out"

theorem RuntimeEvidenceFreshness.wireName_injective : Function.Injective RuntimeEvidenceFreshness.wireName := by
  intro a b h
  cases a <;> cases b <;> first | rfl | simp [RuntimeEvidenceFreshness.wireName] at h

def FindingSeverity.wireName : FindingSeverity → String
  | .warning => "warning"
  | .advisory => "advisory"

theorem FindingSeverity.wireName_injective : Function.Injective FindingSeverity.wireName := by
  intro a b h
  cases a <;> cases b <;> first | rfl | simp [FindingSeverity.wireName] at h

def FindingRule.wireName : FindingRule → String
  | .systemdRequiresTargetNotActive => "systemd.requires_target_not_active"
  | .systemdPartOfTargetNotActive => "systemd.part_of_target_not_active"
  | .dockerInternalNetworkMemberPublishesPort => "docker.internal_network_member_publishes_port"
  | .dockerPortPublishedOnUnspecifiedAddress => "docker.port_published_on_unspecified_address"
  | .dockerDaemonStateBindMount => "docker.daemon_state_bind_mount"
  | .dockerDaemonStateBindMountPublishesPort => "docker.daemon_state_bind_mount_publishes_port"
  | .dockerComposeDeclaredTargetNotActive => "docker.compose_declared_target_not_active"
  | .dockerComposeMutualDependency => "docker.compose_mutual_dependency"
  | .composeDeclaredMountMissingAtBoundContainer =>
      "compose.declared_mount_missing_at_bound_container"
  | .runtimeIdentityCollisionDetected => "runtime.identity_collision_detected"
  | .runtimeDeclaredRelationshipEvidenceNotCurrent =>
      "runtime.declared_relationship_evidence_not_current"

theorem FindingRule.wireName_injective : Function.Injective FindingRule.wireName := by
  have hnames : ∀ a b : FindingRule, FindingRule.wireName a = FindingRule.wireName b → a = b := by
    intro a b
    cases a <;> cases b <;> decide
  exact fun a b => hnames a b

def ObservedChangeKind.wireName : ObservedChangeKind → String
  | .containerAppeared => "container_appeared"
  | .containerDisappeared => "container_disappeared"
  | .containerStatusChanged => "container_status_changed"

theorem ObservedChangeKind.wireName_injective : Function.Injective ObservedChangeKind.wireName := by
  intro a b h
  cases a <;> cases b <;> first | rfl | simp [ObservedChangeKind.wireName] at h

def ObservedContainerStatus.wireName : ObservedContainerStatus → String
  | .running => "running"
  | .stopped => "stopped"
  | .other => "other"

theorem ObservedContainerStatus.wireName_injective :
    Function.Injective ObservedContainerStatus.wireName := by
  intro a b h
  cases a <;> cases b <;> first | rfl | simp [ObservedContainerStatus.wireName] at h

instance : Encode RuntimeMode := .ofNames RuntimeMode.wireName RuntimeMode.wireName_injective
instance : Encode ComposeMountKind := .ofNames ComposeMountKind.wireName ComposeMountKind.wireName_injective
instance : Encode DiagnosticSeverity := .ofNames DiagnosticSeverity.wireName DiagnosticSeverity.wireName_injective
instance : Encode HealthState := .ofNames HealthState.wireName HealthState.wireName_injective
instance : Encode ProviderSlot := .ofNames ProviderSlot.wireName ProviderSlot.wireName_injective
instance : Encode ProviderStateKind := .ofNames ProviderStateKind.wireName ProviderStateKind.wireName_injective
instance : Encode ProviderStatusReason := .ofNames ProviderStatusReason.wireName ProviderStatusReason.wireName_injective
instance : Encode RuntimeProviderKind := .ofNames RuntimeProviderKind.wireName RuntimeProviderKind.wireName_injective
instance : Encode RuntimeNodeKind := .ofNames RuntimeNodeKind.wireName RuntimeNodeKind.wireName_injective
instance : Encode RuntimeRelationshipKind := .ofNames RuntimeRelationshipKind.wireName RuntimeRelationshipKind.wireName_injective
instance : Encode RuntimeNodeLayer := .ofNames RuntimeNodeLayer.wireName RuntimeNodeLayer.wireName_injective
instance : Encode RuntimeHealthState := .ofNames RuntimeHealthState.wireName RuntimeHealthState.wireName_injective
instance : Encode RuntimeLogLevel := .ofNames RuntimeLogLevel.wireName RuntimeLogLevel.wireName_injective
instance : Encode RuntimeOwnershipKind := .ofNames RuntimeOwnershipKind.wireName RuntimeOwnershipKind.wireName_injective
instance : Encode RuntimeLocationKind := .ofNames RuntimeLocationKind.wireName RuntimeLocationKind.wireName_injective
instance : Encode RuntimeServiceStatus := .ofNames RuntimeServiceStatus.wireName RuntimeServiceStatus.wireName_injective
instance : Encode RuntimePackageManager := .ofNames RuntimePackageManager.wireName RuntimePackageManager.wireName_injective
instance : Encode RuntimeAdvisorySeverity := .ofNames RuntimeAdvisorySeverity.wireName RuntimeAdvisorySeverity.wireName_injective
instance : Encode RuntimeEvidenceProvider := .ofNames RuntimeEvidenceProvider.wireName RuntimeEvidenceProvider.wireName_injective
instance : Encode RuntimeEvidenceAssertionKind := .ofNames RuntimeEvidenceAssertionKind.wireName RuntimeEvidenceAssertionKind.wireName_injective
instance : Encode RuntimeEvidenceKind := .ofNames RuntimeEvidenceKind.wireName RuntimeEvidenceKind.wireName_injective
instance : Encode RuntimeEvidenceFreshness := .ofNames RuntimeEvidenceFreshness.wireName RuntimeEvidenceFreshness.wireName_injective
instance : Encode FindingSeverity := .ofNames FindingSeverity.wireName FindingSeverity.wireName_injective
instance : Encode FindingRule := .ofNames FindingRule.wireName FindingRule.wireName_injective
instance : Encode ObservedChangeKind := .ofNames ObservedChangeKind.wireName ObservedChangeKind.wireName_injective
instance : Encode ObservedContainerStatus := .ofNames ObservedContainerStatus.wireName ObservedContainerStatus.wireName_injective

/-! Records -/

instance : Encode Metadata where
  encode m := .obj (m.entries.map fun e => (e.1, encode e.2))
  injective := by
    intro m n h
    have hentry : Function.Injective fun e : String × String => (e.1, encode e.2) := by
      intro a b hab
      simpa [Prod.ext_iff] using hab
    exact SortedMap.ext_entries (hentry.list_map (Json.obj.inj h))
  ne_null := fun _ h => nomatch h

instance : Encode ContainerMount where
  encode mount := record
    [("id", some (encode mount.id)), ("kind", some (encode mount.kind)),
      ("source", some (nullable mount.source)), ("target", some (encode mount.target)),
      ("readOnly", some (encode mount.readOnly))]
  injective := by
    intro a b h
    have hfields := record_inj h rfl (by simp)
    cases a
    cases b
    simpa using hfields
  ne_null := fun _ => record_ne_null _

instance : Encode ContainerRecord where
  encode container := record
    [("id", some (encode container.id)), ("name", some (encode container.name)),
      ("image", some (encode container.image)), ("status", some (encode container.status)),
      ("role", some (encode container.role)), ("networks", some (encode container.networks)),
      ("ports", some (encode container.ports)),
      ("publishesOnUnspecifiedAddress", some (encode container.publishesOnUnspecifiedAddress)),
      ("mounts", some (encode container.mounts)),
      ("dependsOn", some (encode container.dependsOn))]
  injective := by
    intro a b h
    have hfields := record_inj h rfl (by simp)
    cases a
    cases b
    simpa using hfields
  ne_null := fun _ => record_ne_null _

instance : Encode ImageRecord where
  encode image := record
    [("image", some (encode image.image)), ("containers", some (encode image.containers)),
      ("status", some (encode image.status))]
  injective := by
    intro a b h
    have hfields := record_inj h rfl (by simp)
    cases a
    cases b
    simpa using hfields
  ne_null := fun _ => record_ne_null _

instance : Encode NetworkRecord where
  encode network := record
    [("id", some (encode network.id)), ("name", some (encode network.name)),
      ("driver", some (encode network.driver)), ("internal", some (encode network.internal)),
      ("members", some (encode network.members))]
  injective := by
    intro a b h
    have hfields := record_inj h rfl (by simp)
    cases a
    cases b
    simpa using hfields
  ne_null := fun _ => record_ne_null _

instance : Encode VolumeRecord where
  encode volume := record
    [("id", some (encode volume.id)), ("name", some (encode volume.name)),
      ("attachedTo", some (encode volume.attachedTo))]
  injective := by
    intro a b h
    have hfields := record_inj h rfl (by simp)
    cases a
    cases b
    simpa using hfields
  ne_null := fun _ => record_ne_null _

instance : Encode DockerSnapshot where
  encode snapshot := record
    [("containers", some (encode snapshot.containers)), ("images", some (encode snapshot.images)),
      ("networks", some (encode snapshot.networks)), ("volumes", some (encode snapshot.volumes)),
      ("lastUpdated", some (encode snapshot.lastUpdated)),
      ("modelRevision", some (encode snapshot.modelRevision)),
      ("source", snapshot.source.map encode)]
  injective := by
    intro a b h
    have hfields := record_inj h rfl (by simp)
    cases a
    cases b
    simpa using hfields
  ne_null := fun _ => record_ne_null _

instance : Encode ProviderState where
  encode state := record
    [("slot", some (encode state.slot)), ("state", some (encode state.state)),
      ("lastAttemptMs", some (nullable state.lastAttemptMs)),
      ("lastSuccessMs", some (nullable state.lastSuccessMs)),
      ("lastDurationMs", some (nullable state.lastDurationMs)),
      ("consecutiveFailureCount", some (encode state.consecutiveFailureCount)),
      ("dataRevision", some (nullable state.dataRevision)),
      ("statusReason", some (nullable state.statusReason))]
  injective := by
    intro a b h
    have hfields := record_inj h rfl (by simp)
    cases a
    cases b
    simpa using hfields
  ne_null := fun _ => record_ne_null _

instance : Encode HealthResponse where
  encode health := record
    [("status", some (encode health.status)), ("mode", some (encode health.mode)),
      ("dockerReachable", some (encode health.dockerReachable)),
      ("lastUpdated", some (encode health.lastUpdated)),
      ("snapshotVersion", some (encode health.snapshotVersion)),
      ("modelRevision", some (encode health.modelRevision)),
      ("message", some (nullable health.message))]
  injective := by
    intro a b h
    have hfields := record_inj h rfl (by simp)
    cases a
    cases b
    simpa using hfields
  ne_null := fun _ => record_ne_null _

instance : Encode ObservedChangeEvent where
  encode event := record
    [("id", some (encode event.id)), ("kind", some (encode event.kind)),
      ("observedAtMs", some (encode event.observedAtMs)),
      ("containerId", some (encode event.containerId)),
      ("previousStatus", some (nullable event.previousStatus)),
      ("currentStatus", some (nullable event.currentStatus))]
  injective := by
    intro a b h
    have hfields := record_inj h rfl (by simp)
    cases a
    cases b
    simpa using hfields
  ne_null := fun _ => record_ne_null _

instance : Encode ObservedChangeHistoryResponse where
  encode response := record
    [("source", some (encode response.source)),
      ("baselineEstablished", some (encode response.baselineEstablished)),
      ("currentModelRevision", some (nullable response.currentModelRevision)),
      ("observedRevision", some (nullable response.observedRevision)),
      ("events", some (encode response.events))]
  injective := by
    intro a b h
    have hfields := record_inj h rfl (by simp)
    cases a
    cases b
    simpa using hfields
  ne_null := fun _ => record_ne_null _

instance : Encode RuntimeHealth where
  encode r := record
    [("state", some (encode r.state)), ("checkedAt", r.checkedAt.map encode),
      ("source", r.source.map encode), ("message", r.message.map encode)]
  injective := by
    intro a b h
    have hfields := record_inj h rfl (by simp)
    cases a
    cases b
    simpa using hfields
  ne_null := fun _ => record_ne_null _

instance : Encode RuntimeLogRef where
  encode r := record
    [("id", some (encode r.id)), ("source", some (encode r.source)),
      ("level", r.level.map encode)]
  injective := by
    intro a b h
    have hfields := record_inj h rfl (by simp)
    cases a
    cases b
    simpa using hfields
  ne_null := fun _ => record_ne_null _

instance : Encode RuntimeOwnership where
  encode r := record
    [("kind", some (encode r.kind)), ("name", some (encode r.name)), ("id", r.id.map encode)]
  injective := by
    intro a b h
    have hfields := record_inj h rfl (by simp)
    cases a
    cases b
    simpa using hfields
  ne_null := fun _ => record_ne_null _

instance : Encode RuntimeLocation where
  encode r := record
    [("kind", some (encode r.kind)), ("value", some (encode r.value)),
      ("detail", r.detail.map encode)]
  injective := by
    intro a b h
    have hfields := record_inj h rfl (by simp)
    cases a
    cases b
    simpa using hfields
  ne_null := fun _ => record_ne_null _

instance : Encode RuntimeServiceEntity where
  encode r := record
    [("name", some (encode r.name)), ("status", some (encode r.status)),
      ("dependencies", some (encode r.dependencies)), ("dependents", some (encode r.dependents)),
      ("health", r.health.map encode), ("logs", some (encode r.logs)),
      ("owner", r.owner.map encode), ("location", r.location.map encode)]
  injective := by
    intro a b h
    have hfields := record_inj h rfl (by simp)
    cases a
    cases b
    simpa using hfields
  ne_null := fun _ => record_ne_null _

instance : Encode RuntimePackageAdvisory where
  encode r := record
    [("id", some (encode r.id)), ("source", some (encode r.source)),
      ("title", some (encode r.title)), ("severity", some (encode r.severity)),
      ("fixedVersion", r.fixedVersion.map encode), ("url", r.url.map encode),
      ("publishedAt", r.publishedAt.map encode)]
  injective := by
    intro a b h
    have hfields := record_inj h rfl (by simp)
    cases a
    cases b
    simpa using hfields
  ne_null := fun _ => record_ne_null _

instance : Encode RuntimePackageUpdate where
  encode r := record
    [("currentVersion", some (encode r.currentVersion)),
      ("latestVersion", r.latestVersion.map encode), ("available", some (encode r.available)),
      ("advisories", some (encode r.advisories))]
  injective := by
    intro a b h
    have hfields := record_inj h rfl (by simp)
    cases a
    cases b
    simpa using hfields
  ne_null := fun _ => record_ne_null _

instance : Encode RuntimePackageEntity where
  encode r := record
    [("name", some (encode r.name)), ("manager", some (encode r.manager)),
      ("version", some (encode r.version)), ("dependencies", some (encode r.dependencies)),
      ("dependents", some (encode r.dependents)), ("update", r.update.map encode),
      ("owner", r.owner.map encode), ("location", r.location.map encode)]
  injective := by
    intro a b h
    have hfields := record_inj h rfl (by simp)
    cases a
    cases b
    simpa using hfields
  ne_null := fun _ => record_ne_null _

instance : Encode RuntimeMapNode where
  encode r := record
    [("id", some (encode r.id)), ("provider", some (encode r.provider)),
      ("type", some (encode r.kind)), ("label", some (encode r.label)),
      ("status", some (nullable r.status)), ("layer", r.layer.map encode),
      ("metadata", some (encode r.metadata)), ("service", r.service.map encode),
      ("package", r.package.map encode)]
  injective := by
    intro a b h
    have hfields := record_inj h rfl (by simp)
    cases a
    cases b
    simpa using hfields
  ne_null := fun _ => record_ne_null _

instance : Encode RuntimeEvidenceRef where
  encode r := record
    [("version", some (encode r.version)), ("id", some (encode r.id)),
      ("provider", some (encode r.provider)), ("kind", some (encode r.kind)),
      ("assertionKind", some (encode r.assertionKind)), ("summary", some (encode r.summary)),
      ("subjectRef", some (encode r.subjectRef)), ("collectedAt", some (encode r.collectedAt)),
      ("providerRevision", some (encode r.providerRevision)),
      ("providerSlot", r.providerSlot.map encode), ("freshness", some (encode r.freshness))]
  injective := by
    intro a b h
    have hfields := record_inj h rfl (by simp)
    cases a
    cases b
    simpa using hfields
  ne_null := fun _ => record_ne_null _

instance : Encode RuntimeMapEdge where
  encode r := record
    [("source", some (encode r.source)), ("target", some (encode r.target)),
      ("relationship", some (encode r.relationship)), ("metadata", some (encode r.metadata)),
      ("evidenceRefs", some (encode r.evidenceRefs))]
  injective := by
    intro a b h
    have hfields := record_inj h rfl (by simp)
    cases a
    cases b
    simpa using hfields
  ne_null := fun _ => record_ne_null _

instance : Encode RuntimeMapDiagnostic where
  encode r := record
    [("provider", some (encode r.provider)), ("severity", some (encode r.severity)),
      ("message", some (encode r.message))]
  injective := by
    intro a b h
    have hfields := record_inj h rfl (by simp)
    cases a
    cases b
    simpa using hfields
  ne_null := fun _ => record_ne_null _

instance : Encode RuntimeMap where
  encode r := record
    [("nodes", some (encode r.nodes)), ("edges", some (encode r.edges)),
      ("diagnostics", some (encode r.diagnostics)), ("lastUpdated", some (encode r.lastUpdated)),
      ("modelRevision", some (encode r.modelRevision)),
      ("providerStates", some (encode r.providerStates)), ("source", r.source.map encode)]
  injective := by
    intro a b h
    have hfields := record_inj h rfl (by simp)
    cases a
    cases b
    simpa using hfields
  ne_null := fun _ => record_ne_null _

instance : Encode Finding where
  encode r := record
    [("id", some (encode r.id)), ("ruleId", some (encode r.ruleId)),
      ("severity", some (encode r.severity)), ("summary", some (encode r.summary)),
      ("recommendation", some (encode r.recommendation)),
      ("subjectRef", some (encode r.subjectRef)), ("targetRef", some (encode r.targetRef)),
      ("evidenceRefs", some (encode r.evidenceRefs))]
  injective := by
    intro a b h
    have hfields := record_inj h rfl (by simp)
    cases a
    cases b
    simpa using hfields
  ne_null := fun _ => record_ne_null _

instance : Encode FindingSummary where
  encode r := record
    [("warningCount", some (encode r.warningCount)),
      ("advisoryCount", some (encode r.advisoryCount)),
      ("declaredDependencyCount", some (encode r.declaredDependencyCount)),
      ("dockerDaemonAuthorityCount", some (encode r.dockerDaemonAuthorityCount)),
      ("hostPortPublicationCount", some (encode r.hostPortPublicationCount)),
      ("evidenceIntegrityCount", some (encode r.evidenceIntegrityCount))]
  injective := by
    intro a b h
    have hfields := record_inj h rfl (by simp)
    cases a
    cases b
    simpa using hfields
  ne_null := fun _ => record_ne_null _

instance : Encode FindingsResponse where
  encode r := record
    [("findings", some (encode r.findings)), ("summary", some (encode r.summary)),
      ("modelRevision", some (encode r.modelRevision)), ("source", r.source.map encode)]
  injective := by
    intro a b h
    have hfields := record_inj h rfl (by simp)
    cases a
    cases b
    simpa using hfields
  ne_null := fun _ => record_ne_null _

end DockerMap
