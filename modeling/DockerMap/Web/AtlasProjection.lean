import DockerMap.Api.ResponseValidation
import DockerMap.Lib.InsertionMap
import DockerMap.Lib.JavaScript
import DockerMap.Lib.StableSort
import Mathlib.Data.List.Lex

/-! The projection of a runtime map onto the Atlas. Its input is a parsed payload; a text that is
shown is a list of UTF-16 code units, because cutting it can split a surrogate pair. -/

namespace DockerMap.Web.Atlas

open Api (asText safeInteger)
open JavaScript (codeUnits isNullish propertyText trimUnits isSpaceUnit codePoints)
open StableSort (sortBy)

/-! Caps -/

def inputNodesCap : ℕ := 250
def inputEdgesCap : ℕ := 400
def inputFindingsCap : ℕ := 250
def subjectsCap : ℕ := 250
def relationsCap : ℕ := 400
def attachmentsPerSubjectCap : ℕ := 8
def edgeEvidenceCap : ℕ := 8
def displayLengthCap : ℕ := 96
def rawRoutingIdLengthCap : ℕ := 360
def statusWindowCap : ℕ := 256
def diagnosticsCap : ℕ := 250

/-- Kept below the per-subject attachment cap. -/
def highDegreeThreshold : ℕ := 6

/-! Vocabulary -/

inductive AtlasRole | primary | context | attachment | inspectorOnly | unsupported
  deriving DecidableEq

def AtlasRole.wireName : AtlasRole → String
  | .primary => "primary"
  | .context => "context"
  | .attachment => "attachment"
  | .inspectorOnly => "inspector_only"
  | .unsupported => "unsupported"

inductive AtlasOperationalState | healthy | warning | degraded | offline | updating | unknown
  deriving DecidableEq

inductive AtlasFreshness | fresh | stale | timedOut | unavailable | disabled | unknown
  deriving DecidableEq

inductive AtlasAttention | none | advisory | warning
  deriving DecidableEq

inductive AtlasAmbiguity | none | collision | unresolved | unsupported
  deriving DecidableEq

inductive AtlasDiagnosticKind | collision | unresolved | unsupported | boundedOmission
  deriving DecidableEq

def AtlasDiagnosticKind.wireName : AtlasDiagnosticKind → String
  | .collision => "collision"
  | .unresolved => "unresolved"
  | .unsupported => "unsupported"
  | .boundedOmission => "bounded_omission"

def subjectRule : String := "atlas-v1/runtime-subject"
def diagnosticRule : String := "atlas-v1/non-routable-diagnostic"
def laneRule : String := "atlas-v1/presentation-lane"
def relationRule : String := "atlas-v1/evidenced-declaration"
def attachmentRule : String := "atlas-v1/evidenced-context"
def aggregateRule : String := "atlas-v1/high-degree-aggregate"

/-! The model -/

/-- The slot of a published reference: missing, `null` or a slot. -/
inductive PublishedSlot
  | missing
  | null
  | slot (slot : ProviderSlot)
  deriving DecidableEq

structure AtlasPublishedEvidenceRef where
  id : String
  provider : RuntimeEvidenceProvider
  kind : RuntimeEvidenceKind
  assertionKind : RuntimeEvidenceAssertionKind
  freshness : RuntimeEvidenceFreshness
  providerRevision : String
  subjectRef : String
  summary : String
  collectedAt : ℕ
  version : ℕ
  providerSlot : PublishedSlot
  deriving DecidableEq

structure AtlasEdgeEvidenceSourceRef where
  source : String
  target : String
  relationship : String
  evidence : AtlasPublishedEvidenceRef
  deriving DecidableEq

/-- A subject is routable when its source is a runtime node. -/
inductive AtlasSubjectSource
  | runtimeNode (provider : Option Json) (nodeId : String) (runtimeKind : RuntimeNodeKind)
  | projection (rule : String)

structure AtlasSubject where
  key : String
  source : AtlasSubjectSource
  role : AtlasRole
  display : List ℕ
  operationalState : AtlasOperationalState
  freshness : AtlasFreshness
  attention : AtlasAttention
  ambiguity : AtlasAmbiguity
  rule : String

def AtlasSubjectSource.isRuntimeNode : AtlasSubjectSource → Bool
  | .runtimeNode .. => true
  | .projection _ => false

def AtlasSubject.routable (subject : AtlasSubject) : Bool := subject.source.isRuntimeNode

structure AtlasLane where
  key : String
  subjectKeys : List String
  rule : String

structure AtlasRelation where
  source : String
  target : String
  direction : String
  evidence : List AtlasEdgeEvidenceSourceRef
  rule : String
  deriving DecidableEq

structure AtlasAttachment where
  subject : String
  context : String
  evidence : List AtlasEdgeEvidenceSourceRef
  rule : String
  deriving DecidableEq

structure AtlasPopulation where
  resolved : ℕ
  unresolved : ℕ
  ambiguous : ℕ
  omitted : ℕ
  deriving DecidableEq

structure AtlasAggregate where
  key : String
  population : AtlasPopulation
  sourceCoverage : List AtlasEdgeEvidenceSourceRef
  rule : String
  deriving DecidableEq

structure AtlasStats where
  subjects : ℕ
  relations : ℕ
  attachments : ℕ
  unsupported : ℕ
  boundedOmissions : ℕ

/-- The groups and the memberships are always empty. -/
structure AtlasModel where
  subjects : List AtlasSubject
  lanes : List AtlasLane
  relations : List AtlasRelation
  attachments : List AtlasAttachment
  aggregates : List AtlasAggregate
  diagnostics : List AtlasDiagnosticKind
  stats : AtlasStats

/-- What is read of a runtime map. -/
structure AtlasRuntimeMapInput where
  modelRevision : String
  nodes : List Json
  edges : List Json
  providerStates : Option Json

structure FindingsOverlay where
  modelRevision : String
  findings : List Json

/-! Text -/

/-- The text operations that rest on the tables of the Unicode standard. -/
structure UnicodeTables where
  normalizeNFC : List ℕ → List ℕ
  toLowerCase : List ℕ → List ℕ

/-- A value of a closed vocabulary. -/
def oneOf {α : Type*} (name : α → String) (items : List α) (value : Option Json) : Option α :=
  (asText value).bind fun text => items.find? fun item => name item == text

def isKeyChar (c : Char) : Bool := c.isAlphanum || c ∈ [':', '.', '_', '-']

/-- The length is checked before the trim, the syntax after it. -/
def safeKey (value : Option Json) : Option String :=
  (asText value).bind fun text =>
    let size := (codeUnits text).length
    if size = 0 ∨ rawRoutingIdLengthCap < size then none
    else
      let trimmed := JavaScript.trim text.toList
      if 1 ≤ trimmed.length ∧ trimmed.length ≤ 180 ∧ trimmed.all isKeyChar then
        some (String.ofList trimmed)
      else none

def derivedKey (kind : String) (ordinal : ℕ) : String :=
  "atlas:" ++ kind ++ ":" ++ String.ofList (Nat.toDigits 10 ordinal)

/-- A control unit becomes a space. -/
def blankControl (unit : ℕ) : ℕ := if unit < 0x20 ∨ unit = 0x7F then 0x20 else unit

variable (unicode : UnicodeTables)

def boundedDisplay (value : Option Json) (fallback : String) : List ℕ :=
  match asText value with
  | none => codeUnits fallback
  | some text =>
      let raw := (codeUnits text).take (displayLengthCap * 4)
      let normalized := trimUnits ((unicode.normalizeNFC raw).map blankControl)
      if normalized = [] then codeUnits fallback
      else
        let characters := codePoints normalized
        if characters.length ≤ displayLengthCap then normalized
        else (characters.take (displayLengthCap - 1)).flatten ++ [0x2026]

def stateOfWord (word : List ℕ) : AtlasOperationalState :=
  if word ∈ ["running", "up", "healthy"].map codeUnits then .healthy
  else if word = codeUnits "paused" then .warning
  else if word ∈ ["unhealthy", "degraded", "failed"].map codeUnits then .degraded
  else if word ∈ ["stopped", "exited", "dead", "down"].map codeUnits then .offline
  else if word ∈ ["starting", "stopping", "restarting", "created", "updating"].map codeUnits then
    .updating
  else .unknown

/-- The first word of a fixed leading window. -/
def stateForRuntimeStatus (status : Option Json) : AtlasOperationalState :=
  match asText status with
  | none => .unknown
  | some text =>
      let window := trimUnits ((codeUnits text).take statusWindowCap)
      stateOfWord ((unicode.toLowerCase window).takeWhile fun unit =>
        !(isSpaceUnit unit || unit == '('.toNat))

def roleForKind : RuntimeNodeKind → AtlasRole
  | .container | .systemdService | .pm2App | .nodeApplication | .pythonApplication | .database
  | .worker => .primary
  | .host | .tailnetNode | .reverseProxy | .localDnsResolver | .dnsProvider | .externalApi
  | .orchestratorWorkload => .context
  | .dockerNetwork | .dockerVolume | .storage | .networkListener => .attachment
  | .scheduledJob | .tmuxSession | .process | .package | .packageDependency | .aiAgent
  | .hostRisk | .service | .integrityScope => .inspectorOnly

def runtimeKinds : List RuntimeNodeKind :=
  [.container, .dockerNetwork, .dockerVolume, .host, .hostRisk, .service, .systemdService,
    .scheduledJob, .pm2App, .tmuxSession, .tailnetNode, .reverseProxy, .localDnsResolver,
    .dnsProvider, .nodeApplication, .pythonApplication, .aiAgent, .package, .storage,
    .externalApi, .packageDependency, .database, .worker, .process, .networkListener,
    .orchestratorWorkload, .integrityScope]

def runtimeKind (value : Option Json) : Option RuntimeNodeKind :=
  oneOf RuntimeNodeKind.wireName runtimeKinds value

/-! Evidence -/

def evidenceKinds : List RuntimeEvidenceKind :=
  [.dockerNetworkMembership, .dockerVolumeMount, .dockerPortPublication, .dockerComposeDependsOn,
    .dockerDaemonStateBindMount, .systemdRequires, .systemdWants, .systemdPartOf,
    .npmPackageManifestDependency, .cronScheduleDeclaration]

def evidenceProviders : List RuntimeEvidenceProvider := [.docker, .systemd, .npm, .cron]

def evidenceFreshness : List RuntimeEvidenceFreshness := [.fresh, .stale, .timedOut]

def assertionKinds : List RuntimeEvidenceAssertionKind := [.observed, .declared]

def providerSlots : List ProviderSlot :=
  [.networkInfrastructure, .hostScoped, .cron, .systemd, .pythonProcesses, .nativeProcesses,
    .projectNpm, .tmux]

def boundedEvidenceText (value : Option Json) : Option String :=
  (asText value).filter fun text =>
    0 < (codeUnits text).length ∧ (codeUnits text).length ≤ 259 * 2 ∧ text.toList.length ≤ 259

def publishedSlot : Option Json → Option PublishedSlot
  | none => some .missing
  | some .null => some .null
  | value => (oneOf ProviderSlot.wireName providerSlots value).map .slot

def evidenceRef (value : Json) : Option AtlasPublishedEvidenceRef := do
  let id ← boundedEvidenceText (value.field? "id")
  let provider ← oneOf RuntimeEvidenceProvider.wireName evidenceProviders (value.field? "provider")
  let kind ← oneOf RuntimeEvidenceKind.wireName evidenceKinds (value.field? "kind")
  let assertionKind ← oneOf RuntimeEvidenceAssertionKind.wireName assertionKinds
    (value.field? "assertionKind")
  let freshness ← oneOf RuntimeEvidenceFreshness.wireName evidenceFreshness
    (value.field? "freshness")
  let providerRevision ← boundedEvidenceText (value.field? "providerRevision")
  let subjectRef ← boundedEvidenceText (value.field? "subjectRef")
  let summary ← boundedEvidenceText (value.field? "summary")
  let collectedAt ← safeInteger (value.field? "collectedAt")
  let version ← (safeInteger (value.field? "version")).filter (1 ≤ ·)
  let providerSlot ← publishedSlot (value.field? "providerSlot")
  return {
    id, provider, kind, assertionKind, freshness, providerRevision, subjectRef, summary,
    collectedAt, version, providerSlot }

namespace AtlasPublishedEvidenceRef

variable (evidence : AtlasPublishedEvidenceRef)

/-- `providerSlot ?? ""`. -/
def slotText : String :=
  match evidence.providerSlot with
  | .missing | .null => ""
  | .slot slot => slot.wireName

def hasNoSlot : Bool := evidence.providerSlot == .missing || evidence.providerSlot == .null

/-- The encoding that evidence is sorted by. -/
def canonicalEvidenceKey : String :=
  Json.toText (.arr ([evidence.provider.wireName, evidence.kind.wireName,
    evidence.assertionKind.wireName, evidence.freshness.wireName, evidence.id,
    evidence.providerRevision, evidence.slotText, evidence.subjectRef, evidence.summary,
    String.ofList (JavaScript.numberText evidence.collectedAt),
    String.ofList (JavaScript.numberText evidence.version)].map Json.str))

end AtlasPublishedEvidenceRef

def evidenceRefs (edge : Json) : Option (List Json) :=
  match edge.field? "evidenceRefs" with
  | some (.arr values) =>
      if values.length = 0 ∨ edgeEvidenceCap < values.length then none else some values
  | _ => none

/-- The key of the edge comparator; references that are malformed do not count. -/
def edgeEvidenceKey (edge : Json) : String :=
  match evidenceRefs edge with
  | none => "invalid"
  | some values =>
      String.intercalate "\u0002" (sortBy codeUnits
        ((values.filterMap evidenceRef).map (·.canonicalEvidenceKey)))

def starts (text word : String) : Bool := Text.startsWith text.toList word.toList

section

variable (edge : Json) (source target : String)

def relates (relationship : String) : Bool := asText (edge.field? "relationship") == some relationship

/-- The relationship and the endpoints of a Docker fact. -/
def dockerEnds : RuntimeEvidenceKind → Bool
  | .dockerComposeDependsOn =>
      relates edge "depends_on" && starts source "docker_container_" &&
        starts target "docker_container_"
  | .dockerNetworkMembership =>
      relates edge "connected_to" && starts source "docker_container_" &&
        starts target "docker_network_"
  | .dockerVolumeMount =>
      relates edge "mounts" && starts source "docker_container_" && starts target "docker_volume_"
  | .dockerPortPublication =>
      relates edge "exposes" && starts source "docker_container_" &&
        starts target "network_listener_"
  | .dockerDaemonStateBindMount =>
      relates edge "exposes_daemon_state" && starts source "docker_container_" &&
        target == "host_risk_docker_daemon_state"
  | _ => false

def canonicalDockerBinding (evidence : AtlasPublishedEvidenceRef) : Bool :=
  evidence.version == 1 && evidence.provider == .docker && evidence.assertionKind == .observed &&
    evidence.freshness == .fresh && evidence.hasNoSlot && evidence.subjectRef == source &&
    dockerEnds edge source target evidence.kind

/-- The relationship of a systemd declaration. -/
def systemdRelates : RuntimeEvidenceKind → Bool
  | .systemdRequires => relates edge "requires"
  | .systemdWants => relates edge "wants"
  | .systemdPartOf => relates edge "part_of"
  | _ => false

def canonicalSystemdBinding (evidence : AtlasPublishedEvidenceRef) : Bool :=
  evidence.version == 2 && evidence.provider == .systemd && evidence.assertionKind == .declared &&
    evidence.providerSlot == .slot .systemd && evidence.subjectRef == source &&
    evidenceFreshness.contains evidence.freshness && starts source "systemd_service_" &&
    starts target "systemd_service_" && source != target && systemdRelates edge evidence.kind

/-- npm and cron have no projection rule. -/
def canonicalBinding (evidence : AtlasPublishedEvidenceRef) : Bool :=
  match evidence.provider with
  | .docker => canonicalDockerBinding edge source target evidence
  | .systemd => canonicalSystemdBinding edge source target evidence
  | _ => false

def evidenceSource (value : Json) : Option AtlasEdgeEvidenceSourceRef :=
  ((evidenceRef value).filter (canonicalBinding edge source target)).map fun evidence =>
    { source, target, relationship := (asText (edge.field? "relationship")).getD "", evidence }

/-- Every reference of the edge, or none. -/
def structuralEvidence : Option (List AtlasEdgeEvidenceSourceRef) :=
  (evidenceRefs edge).bind fun values =>
    let refs := values.filterMap (evidenceSource edge source target)
    if refs.length = values.length then
      some (sortBy (fun entry => codeUnits entry.evidence.canonicalEvidenceKey) refs)
    else none

end

inductive EdgePurpose | relation | attachment
  deriving DecidableEq

def edgePurpose (edge : Json) (evidence : List AtlasEdgeEvidenceSourceRef) : Option EdgePurpose :=
  let kinds := evidence.map (·.evidence.kind)
  if (kinds.contains .dockerComposeDependsOn && relates edge "depends_on") ||
      (kinds.contains .systemdRequires && relates edge "requires") ||
      (kinds.contains .systemdWants && relates edge "wants") ||
      (kinds.contains .systemdPartOf && relates edge "part_of") then
    some .relation
  else if kinds.contains .dockerNetworkMembership || kinds.contains .dockerVolumeMount ||
      kinds.contains .dockerPortPublication || kinds.contains .dockerDaemonStateBindMount then
    some .attachment
  else none

/-! Overlays -/

def stateFreshness (state : Option Json) : AtlasFreshness :=
  match asText state with
  | some "fresh" => .fresh
  | some "stale" => .stale
  | some "timed_out" => .timedOut
  | some "unavailable" => .unavailable
  | some "disabled" => .disabled
  | _ => .unknown

def stateSlot (state : Json) : Option ProviderSlot :=
  oneOf ProviderSlot.wireName providerSlots (state.field? "slot")

/-- The first state of a slot counts. -/
def addState (freshness : InsertionMap ProviderSlot AtlasFreshness) (state : Json) :
    InsertionMap ProviderSlot AtlasFreshness :=
  match stateSlot state with
  | none => freshness
  | some slot =>
      if (freshness.get? slot).isSome then freshness
      else freshness.set slot (stateFreshness (state.field? "state"))

def providerFreshnessBySlot (input : AtlasRuntimeMapInput) :
    InsertionMap ProviderSlot AtlasFreshness :=
  match input.providerStates with
  | some (.arr states) =>
      if providerSlots.length < states.length then ∅ else states.foldl addState ∅
  | _ => ∅

def slotOfProvider (provider : String) : Option ProviderSlot :=
  if provider = "systemd" then some .systemd
  else if provider = "npm" then some .projectNpm
  else if provider = "tmux" then some .tmux
  else if provider = "scheduled_job" then some .cron
  else if provider = "python" then some .pythonProcesses
  else if provider = "process" then some .nativeProcesses
  else if provider ∈ ["tailscale", "headscale", "cloudflare", "caddy", "reverse_proxy",
      "local_dns", "dns_provider", "external_api", "network"] then some .networkInfrastructure
  else if provider ∈ ["docker", "compose", "host", "pm2"] then some .hostScoped
  else none

def freshnessForNode (node : Json) (freshness : InsertionMap ProviderSlot AtlasFreshness) :
    AtlasFreshness :=
  (((asText (node.field? "provider")).bind slotOfProvider).bind freshness.get?).getD .unknown

structure Attention where
  attention : InsertionMap String AtlasAttention := ∅
  omitted : ℕ := 0

def addFinding (attention : InsertionMap String AtlasAttention) (finding : Json) :
    InsertionMap String AtlasAttention :=
  match safeKey (finding.field? "subjectRef") with
  | none => attention
  | some key =>
      let next : AtlasAttention :=
        if asText (finding.field? "severity") = some "warning" then .warning else .advisory
      if next = .warning ∨ (attention.get? key).isNone then attention.set key next else attention

/-- A coherent overlay only, and never a part of one. -/
def attentionBySubject (input : AtlasRuntimeMapInput) (findings : Option FindingsOverlay) :
    Attention :=
  match findings with
  | none => {}
  | some overlay =>
      if overlay.modelRevision ≠ input.modelRevision then {}
      else if inputFindingsCap < overlay.findings.length then
        { omitted := overlay.findings.length }
      else { attention := overlay.findings.foldl addFinding ∅ }

/-! Nodes -/

def addDiagnostic (diagnostics : List AtlasDiagnosticKind) (kind : AtlasDiagnosticKind) :
    List AtlasDiagnosticKind :=
  if diagnostics.length < diagnosticsCap then diagnostics ++ [kind] else diagnostics

def addDiagnosticIf (condition : Prop) [Decidable condition]
    (diagnostics : List AtlasDiagnosticKind) (kind : AtlasDiagnosticKind) :
    List AtlasDiagnosticKind :=
  if condition then addDiagnostic diagnostics kind else diagnostics

def boundedSortText (value : Option Json) : List ℕ :=
  ((asText value).elim [] codeUnits).take statusWindowCap

/-- What `canonicalNodeSort` compares, in its order. -/
def canonicalNodeKey (node : Json) : List (List ℕ) :=
  [boundedSortText (node.field? "id"), codeUnits (propertyText (node.field? "provider")),
    codeUnits (propertyText (node.field? "type")),
    boundedDisplay unicode (node.field? "label") "Runtime subject",
    boundedSortText (node.field? "status")]

abbrev NodeRecords := InsertionMap String (List Json)

def addNode (state : List AtlasDiagnosticKind × NodeRecords) (node : Json) :
    List AtlasDiagnosticKind × NodeRecords :=
  match safeKey (node.field? "id") with
  | none => (addDiagnostic state.1 .unresolved, state.2)
  | some key => (state.1, state.2.push key node)

structure SubjectTable where
  diagnostics : List AtlasDiagnosticKind
  subjects : List AtlasSubject := []
  routable : InsertionMap String AtlasSubject := ∅
  nonRoutableOrdinal : ℕ := 0

def nonRoutableSubject (kind display : String) (ambiguity : AtlasAmbiguity) (ordinal : ℕ) :
    AtlasSubject where
  key := derivedKey kind ordinal
  source := .projection diagnosticRule
  role := .unsupported
  display := codeUnits display
  operationalState := .unknown
  freshness := .unknown
  attention := .none
  ambiguity := ambiguity
  rule := diagnosticRule

def collisionSubject : ℕ → AtlasSubject :=
  nonRoutableSubject "collision" "Ambiguous runtime identity" .collision

def unsupportedSubject : ℕ → AtlasSubject :=
  nonRoutableSubject "unsupported" "Unsupported runtime subject" .unsupported

/-- `node.status ?? node.service?.status`. -/
def nodeStatus (node : Json) : Option Json :=
  if isNullish (node.field? "status") then (node.field? "service").bind (Json.field? "status")
  else node.field? "status"

def routableSubject (freshness : InsertionMap ProviderSlot AtlasFreshness)
    (attention : InsertionMap String AtlasAttention) (key : String) (node : Json)
    (kind : RuntimeNodeKind) : AtlasSubject where
  key := key
  source := .runtimeNode (node.field? "provider") key kind
  role := roleForKind kind
  display := boundedDisplay unicode (node.field? "label") "Runtime subject"
  operationalState := stateForRuntimeStatus unicode (nodeStatus node)
  freshness := freshnessForNode node freshness
  attention := (attention.get? key).getD .none
  ambiguity := .none
  rule := subjectRule

/-- A key that several records share gives no route target. -/
def addSubject (freshness : InsertionMap ProviderSlot AtlasFreshness)
    (attention : InsertionMap String AtlasAttention) (table : SubjectTable)
    (entry : String × List Json) : SubjectTable :=
  match entry.2 with
  | [node] =>
      match runtimeKind (node.field? "type") with
      | none =>
          { table with
            subjects := table.subjects ++ [unsupportedSubject table.nonRoutableOrdinal]
            nonRoutableOrdinal := table.nonRoutableOrdinal + 1
            diagnostics := addDiagnostic table.diagnostics .unsupported }
      | some kind =>
          let subject := routableSubject unicode freshness attention entry.1 node kind
          { table with
            subjects := table.subjects ++ [subject]
            routable := table.routable.set entry.1 subject }
  | records =>
      { table with
        subjects := table.subjects ++
          (List.range' table.nonRoutableOrdinal records.length).map collisionSubject
        nonRoutableOrdinal := table.nonRoutableOrdinal + records.length
        diagnostics := addDiagnostic table.diagnostics .collision }

/-- Subjects past the cap are not routable either. -/
def capSubjects (table : SubjectTable) : SubjectTable :=
  if subjectsCap < table.subjects.length then
    let kept := table.subjects.take subjectsCap
    { table with
      subjects := kept
      routable := (table.subjects.drop subjectsCap).foldl
        (fun routable subject => if subject.routable then routable.delete subject.key else routable)
        table.routable
      diagnostics := addDiagnostic table.diagnostics .boundedOmission }
  else table

/-- The nodes that are projected, and what is known of them. -/
def subjectTable (input : AtlasRuntimeMapInput) (findings : Option FindingsOverlay) :
    SubjectTable :=
  let rejected := inputNodesCap < input.nodes.length
  let nodes := if rejected then [] else sortBy (canonicalNodeKey unicode) input.nodes
  let overlay := attentionBySubject input findings
  let diagnostics := addDiagnosticIf (0 < overlay.omitted)
    (addDiagnosticIf rejected [] .boundedOmission) .boundedOmission
  let records := nodes.foldl addNode (diagnostics, ∅)
  (sortBy (fun entry => codeUnits entry.1) records.2.entries).foldl
    (addSubject unicode (providerFreshnessBySlot input) overlay.attention)
    { diagnostics := records.1 }

/-! Lanes -/

def addToLane (lanes : InsertionMap String (List String)) (subject : AtlasSubject) :
    InsertionMap String (List String) :=
  match subject.source with
  | .runtimeNode provider _ _ =>
      lanes.push ("lane:" ++ propertyText provider ++ ":" ++ subject.role.wireName) subject.key
  | .projection _ => lanes

def lanesOf (subjects : List AtlasSubject) : List AtlasLane :=
  (sortBy (fun entry => codeUnits entry.1) (subjects.foldl addToLane ∅).entries).mapIdx
    fun ordinal entry =>
      { key := derivedKey "lane" ordinal
        subjectKeys := sortBy codeUnits entry.2
        rule := laneRule }

/-! Edges -/

/-- What the comparator of the edges compares, in its order. -/
def edgeKey (edge : Json) : List (List ℕ) :=
  [codeUnits (propertyText (edge.field? "source")), codeUnits (propertyText (edge.field? "target")),
    codeUnits (propertyText (edge.field? "relationship")), codeUnits (edgeEvidenceKey edge)]

/-- What an edge comes to. -/
inductive EdgeOutcome
  | unresolved
  | rejected
  | unsupported
  | relation (relation : AtlasRelation)
  | attachment (attachment : AtlasAttachment)

def edgeOutcome (routable : InsertionMap String AtlasSubject) (edge : Json) : EdgeOutcome :=
  match safeKey (edge.field? "source"), safeKey (edge.field? "target") with
  | some source, some target =>
      if (routable.get? source).isSome && (routable.get? target).isSome then
        match structuralEvidence edge source target with
        | none => .rejected
        | some evidence =>
            match edgePurpose edge evidence with
            | none => .unsupported
            | some .relation =>
                .relation { source, target, direction := "forward", evidence, rule := relationRule }
            | some .attachment =>
                .attachment
                  { subject := source, context := target, evidence, rule := attachmentRule }
      else .unresolved
  | _, _ => .unresolved

structure EdgeTable where
  diagnostics : List AtlasDiagnosticKind
  relations : List AtlasRelation := []
  attachments : List AtlasAttachment := []
  attachmentCounts : InsertionMap String ℕ := ∅
  attachmentPopulation : InsertionMap String ℕ := ∅
  attachmentOmissions : InsertionMap String ℕ := ∅
  omittedEdges : ℕ

def countOf (counts : InsertionMap String ℕ) (key : String) : ℕ := (counts.get? key).getD 0

def addCount (counts : InsertionMap String ℕ) (key : String) : InsertionMap String ℕ :=
  counts.set key (countOf counts key + 1)

def addOutcome (table : EdgeTable) : EdgeOutcome → EdgeTable
  | .unresolved => { table with diagnostics := addDiagnostic table.diagnostics .unresolved }
  | .rejected => table
  | .unsupported => { table with diagnostics := addDiagnostic table.diagnostics .unsupported }
  | .relation relation =>
      if relationsCap ≤ table.relations.length then
        { table with omittedEdges := table.omittedEdges + 1 }
      else { table with relations := table.relations ++ [relation] }
  | .attachment attachment =>
      let counted :=
        { table with
          attachmentPopulation := addCount table.attachmentPopulation attachment.subject }
      if attachmentsPerSubjectCap ≤ countOf table.attachmentCounts attachment.subject then
        { counted with
          attachmentOmissions := addCount table.attachmentOmissions attachment.subject
          omittedEdges := table.omittedEdges + 1 }
      else
        { counted with
          attachmentCounts := addCount table.attachmentCounts attachment.subject
          attachments := table.attachments ++ [attachment] }

def edgeTable (input : AtlasRuntimeMapInput) (subjects : SubjectTable) : EdgeTable :=
  let rejected := inputEdgesCap < input.edges.length
  let edges := if rejected then [] else sortBy edgeKey input.edges
  edges.foldl (fun table edge => addOutcome table (edgeOutcome subjects.routable edge))
    { diagnostics := addDiagnosticIf rejected subjects.diagnostics .boundedOmission
      omittedEdges := if rejected then input.edges.length else 0 }

/-! Aggregates -/

def addAggregate (edges : EdgeTable) (aggregates : List AtlasAggregate) (entry : String × ℕ) :
    List AtlasAggregate :=
  if entry.2 ≤ highDegreeThreshold then aggregates
  else
    let sourceCoverage := ((edges.attachments.filter (·.subject == entry.1)).flatMap
      (·.evidence)).take edgeEvidenceCap
    if sourceCoverage = [] then aggregates
    else
      aggregates ++ [
        { key := derivedKey "attachment-aggregate" aggregates.length
          population :=
            { resolved := entry.2
              unresolved := 0
              ambiguous := 0
              omitted := countOf edges.attachmentOmissions entry.1 }
          sourceCoverage
          rule := aggregateRule }]

def aggregatesOf (edges : EdgeTable) : List AtlasAggregate :=
  (sortBy (fun entry => codeUnits entry.1) edges.attachmentPopulation.entries).foldl
    (addAggregate edges) []

/-! The projection -/

def projectRuntimeMap (input : AtlasRuntimeMapInput) (findings : Option FindingsOverlay) :
    AtlasModel :=
  let table := subjectTable unicode input findings
  let omittedSubjects := table.subjects.length - subjectsCap
  let capped := capSubjects table
  let edges := edgeTable input capped
  let diagnostics := addDiagnosticIf (0 < edges.omittedEdges) edges.diagnostics .boundedOmission
  { subjects := sortBy (fun subject => codeUnits subject.key) capped.subjects
    lanes := lanesOf capped.subjects
    relations := sortBy (fun relation => [codeUnits relation.source, codeUnits relation.target])
      edges.relations
    attachments :=
      sortBy (fun attachment => [codeUnits attachment.subject, codeUnits attachment.context])
        edges.attachments
    aggregates := aggregatesOf edges
    diagnostics := sortBy (fun kind => codeUnits kind.wireName) diagnostics
    stats :=
      { subjects := capped.subjects.length
        relations := edges.relations.length
        attachments := edges.attachments.length
        unsupported := diagnostics.count .unsupported
        boundedOmissions :=
          (if inputNodesCap < input.nodes.length then input.nodes.length else 0) +
            omittedSubjects + edges.omittedEdges + (attentionBySubject input findings).omitted } }

end DockerMap.Web.Atlas
