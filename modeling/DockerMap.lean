import DockerMap.Lib.SortedMap
import DockerMap.Lib.RunPaging
import DockerMap.Lib.Text
import DockerMap.Lib.Binary64
import DockerMap.Lib.Json
import DockerMap.Core.Models
import DockerMap.Core.Wire
import DockerMap.Core.SnapshotRuntime
import DockerMap.Core.ComposeRuntimeBinding
import DockerMap.Core.ObservedHistory
import DockerMap.Core.Fixtures
import DockerMap.Core.Logs
import DockerMap.Daemon.DisplayText
import DockerMap.Daemon.Publication
import DockerMap.Daemon.Scheduler
import DockerMap.Daemon.LogCollector
import DockerMap.Daemon.LogWindow
import DockerMap.Api.Publication
import DockerMap.Proofs.LogPaging
import DockerMap.Proofs.LiveLogs
import DockerMap.Proofs.LogAgreement
import DockerMap.Proofs.Cadence
import DockerMap.Proofs.MockIsolation
import DockerMap.Proofs.ProviderFreshness
import DockerMap.Proofs.DataRevisions
import DockerMap.Proofs.Revisions
import DockerMap.Proofs.RedactionAgreement
import DockerMap.Proofs.PublicationNormalForm
import DockerMap.Proofs.EnvironmentSecrets
import DockerMap.Proofs.InventoryOrder
import DockerMap.Proofs.IdentityCollisions
import DockerMap.Proofs.GraphRedaction
import DockerMap.Proofs.FindingDuplication
import DockerMap.Proofs.PresentedFindings
import DockerMap.Proofs.GatewayPolicy
import DockerMap.Proofs.LiveStream
import DockerMap.Proofs.HistoryAdmission
import DockerMap.Proofs.AdmittedFindings
import DockerMap.Proofs.GatewayDecision
import DockerMap.Proofs.DiffRedaction
import DockerMap.Proofs.UrlCredentials
import DockerMap.Proofs.MountCorrelation
import DockerMap.Proofs.EvidenceAgreement
import DockerMap.Proofs.SourceTransitions
import DockerMap.Proofs.StreamRegistry
import DockerMap.Proofs.AtlasTruth
import DockerMap.Lib.Binary64Sum
import DockerMap.Proofs.AtlasLayout
import DockerMap.Proofs.AtlasRouting
import DockerMap.Api.Logout
import DockerMap.Api.SessionAttempts
import DockerMap.Core.ComposeScan
import DockerMap.Daemon.CronJobs
import DockerMap.Daemon.Listeners
import DockerMap.Daemon.Npm
import DockerMap.Daemon.Processes
import DockerMap.Daemon.Systemd
import DockerMap.Lib.Calendar
import DockerMap.Lib.Traversal
import DockerMap.Proofs.CronCommands
import DockerMap.Proofs.Impact
import DockerMap.Proofs.Logout
import DockerMap.Proofs.ParentTraversal
import DockerMap.Proofs.ProcessTable
import DockerMap.Proofs.ProjectInventory
import DockerMap.Proofs.ServiceStatus
import DockerMap.Proofs.SessionAttempts
import DockerMap.Proofs.SystemdInventory
import DockerMap.Proofs.Timestamps
import DockerMap.Api.FindingIdentity
import DockerMap.Core.ComposeGraph
import DockerMap.Daemon.FormQuery
import DockerMap.Lib.FormRoundTrip
import DockerMap.Proofs.AtlasInteraction
import DockerMap.Proofs.BindSources
import DockerMap.Proofs.ComposeGraph
import DockerMap.Proofs.DerivedKeys
import DockerMap.Proofs.FormQuery
import DockerMap.Proofs.IdentityAgreement
import DockerMap.Proofs.LaneGeometry
import DockerMap.Proofs.RoutingPopulation
import DockerMap.Api.Authentication
import DockerMap.Api.RequestContracts
import DockerMap.Daemon.RequestQueries
import DockerMap.Daemon.Tmux
import DockerMap.Lib.Chronicle
import DockerMap.Proofs.AtlasRoutePlan
import DockerMap.Proofs.Authentication
import DockerMap.Proofs.CopilotAuthority
import DockerMap.Proofs.DependencyGraphs
import DockerMap.Proofs.ForwardedQueries
import DockerMap.Proofs.CollectedNodes
import DockerMap.Proofs.EvidenceNodes
import DockerMap.Proofs.MapAdmission
import DockerMap.Proofs.PublishedFindings
import DockerMap.Proofs.MapEvidence
import DockerMap.Proofs.SessionRetention
