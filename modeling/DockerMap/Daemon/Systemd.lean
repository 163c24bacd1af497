import DockerMap.Core.SnapshotRuntime
import DockerMap.Daemon.Providers
import DockerMap.Lib.TextLines
import Mathlib.Data.Prod.Lex

/-! The systemd inventory: the listed service units, the properties `systemctl show` prints
of them, and the dependencies between them. -/

namespace DockerMap

open Text

def maxSystemdUnits : ℕ := 128

def systemdEvidenceKindMarker : String := "__dockermapSystemdEvidenceKind"

inductive SystemdDependencyKind | requires | wants | partOf
  deriving DecidableEq, Repr

namespace SystemdDependencyKind

def marker : SystemdDependencyKind → String
  | requires => "requires"
  | wants => "wants"
  | partOf => "part_of"

def relationship : SystemdDependencyKind → RuntimeRelationshipKind
  | requires => .requires
  | wants => .wants
  | partOf => .partOf

/-- The derived order. -/
def rank : SystemdDependencyKind → ℕ
  | requires => 0
  | wants => 1
  | partOf => 2

theorem rank_injective : Function.Injective rank := by
  intro a b h
  cases a <;> cases b <;> first | rfl | cases h

theorem relationship_injective : Function.Injective relationship := by
  intro a b h
  cases a <;> cases b <;> first | rfl | cases h

instance : LinearOrder SystemdDependencyKind := LinearOrder.lift' rank rank_injective

end SystemdDependencyKind

structure SystemdUnitSummary where
  unit : String
  activeState : String
  subState : String
  description : String
  deriving DecidableEq

structure SystemdUnitDetails where
  id : String := ""
  activeState : Option String := none
  subState : Option String := none
  description : Option String := none
  fragmentPath : Option String := none
  loadState : Option String := none
  execStart : Option String := none
  restart : Option String := none
  activeEnterTimestamp : Option String := none
  activeEnterMonotonicUs : Option ℕ := none
  requires : List String := []
  wants : List String := []
  partOf : List String := []
  deriving DecidableEq

/-! Reading the output of systemctl -/

def endsWith (value suffix : List Char) : Bool := decide (suffix <:+ value)

def parseSystemdListLine (line : List Char) : Option SystemdUnitSummary :=
  match splitWhitespace line with
  | unit :: _ :: activeState :: subState :: description =>
      if endsWith unit ".service".toList then
        some ⟨String.ofList unit, String.ofList activeState, String.ofList subState,
          " ".intercalate (description.map String.ofList)⟩
      else none
  | _ => none

def parseSystemdListUnits (value : List Char) : List SystemdUnitSummary :=
  (lines value).filterMap parseSystemdListLine

def parseSystemdUnitList (value : List Char) : List String :=
  (SortedSet.ofList (((splitWhitespace value).filter fun unit =>
    endsWith unit ".service".toList).map String.ofList)).toList

def maxU64 : ℕ := 2 ^ 64

/-- One `key=value` line of a record. -/
def SystemdUnitDetails.set (current : SystemdUnitDetails) (key parsedValue : List Char) :
    SystemdUnitDetails :=
  let is := fun (name : String) => key == name.toList
  if is "Id" then { current with id := String.ofList parsedValue }
  else if is "ActiveState" then { current with activeState := nonEmptyString parsedValue }
  else if is "SubState" then { current with subState := nonEmptyString parsedValue }
  else if is "Description" then { current with description := nonEmptyString parsedValue }
  else if is "FragmentPath" then { current with fragmentPath := nonEmptyString parsedValue }
  else if is "LoadState" then { current with loadState := nonEmptyString parsedValue }
  else if is "ExecStart" then { current with execStart := nonEmptyString parsedValue }
  else if is "Restart" then { current with restart := nonEmptyString parsedValue }
  else if is "ActiveEnterTimestamp" then
    { current with activeEnterTimestamp := nonEmptyString parsedValue }
  else if is "ActiveEnterTimestampMonotonic" then
    { current with activeEnterMonotonicUs := parseUnsigned maxU64 parsedValue }
  else if is "Requires" then { current with requires := parseSystemdUnitList parsedValue }
  else if is "Wants" then { current with wants := parseSystemdUnitList parsedValue }
  else if is "PartOf" then { current with partOf := parseSystemdUnitList parsedValue }
  else current

/-- The finished records and the one being read. -/
structure ShowReading where
  records : List SystemdUnitDetails := []
  current : SystemdUnitDetails := {}

/-- A record without an id is dropped. -/
def ShowReading.finish (reading : ShowReading) : List SystemdUnitDetails :=
  if reading.current.id = "" then reading.records else reading.records ++ [reading.current]

def ShowReading.line (reading : ShowReading) (line : List Char) : ShowReading :=
  if trim line = [] then { records := reading.finish }
  else
    match splitOnce '=' line with
    | none => reading
    | some (key, rawValue) =>
        { reading with current := reading.current.set (trim key) (trim rawValue) }

def parseSystemdShowRecords (value : List Char) : List SystemdUnitDetails :=
  ((lines value).foldl ShowReading.line {}).finish

def systemdDependencyPairs (detail : SystemdUnitDetails) :
    List (SystemdDependencyKind × String) :=
  (detail.requires.map fun dependency => (.requires, dependency)) ++
    (detail.wants.map fun dependency => (.wants, dependency)) ++
    detail.partOf.map fun dependency => (.partOf, dependency)

/-! Nodes -/

def systemdNodeId (unit : String) : String :=
  "systemd_service_" ++ safeRuntimeIdComponent unit "redacted"

def classifySystemdServiceEntity (detail : Option SystemdUnitDetails) : ServiceEntityKind :=
  match detail.bind SystemdUnitDetails.execStart with
  | none => .service
  | some execStart =>
      let haystack := asciiLower execStart.toList
      let holds := fun (needle : String) => contains haystack needle.toList
      if looksLikeAiAgent haystack then .aiAgent
      else if holds "python" || holds ".py" || holds "uvicorn" || holds "gunicorn" ||
        holds "celery" then .pythonApplication
      else if holds "node" || holds "npm" || holds "npx" || holds ".js" || holds ".mjs" then
        .nodeApplication
      else .service

/-- `trim_end_matches` on the reversed text; the number bounds the repetitions. -/
def trimStartMatches (needle : List Char) : ℕ → List Char → List Char
  | 0, value => value
  | repetitions + 1, value =>
      if startsWith value needle then
        trimStartMatches needle repetitions (value.drop needle.length)
      else value

def trimEndMatches (value needle : List Char) : List Char :=
  (trimStartMatches needle.reverse value.length value.reverse).reverse

def insertSome (metadata : Metadata) (key : String) (value : Option String) : Metadata :=
  match value with
  | some text => metadata.insert key text
  | none => metadata

section

-- How long ago, in whole seconds, the monotonic clock had a reading in microseconds: the
-- rounded difference to `/proc/uptime`, absent when the host does not expose it.
variable (secondsSince : ℕ → Option ℕ)

/-- Only an active unit has an uptime. -/
def systemdUptimeSeconds (detail : SystemdUnitDetails) : Option ℕ :=
  if detail.activeState = some "active" then detail.activeEnterMonotonicUs.bind secondsSince
  else none

def systemdMetadata (unit : String) (summary : Option SystemdUnitSummary)
    (detail : Option SystemdUnitDetails) : Metadata :=
  let metadata := (∅ : Metadata).insert "unit" unit
  let metadata := metadata.insert "serviceEntityKind"
    (serviceEntityKindName (classifySystemdServiceEntity detail))
  let metadata := insertSome metadata "subState"
    ((detail.bind SystemdUnitDetails.subState).or (summary.map SystemdUnitSummary.subState))
  let metadata := insertSome metadata "description"
    (((detail.bind SystemdUnitDetails.description).or
      (summary.map SystemdUnitSummary.description)).filter (· ≠ ""))
  let metadata := insertSome metadata "fragmentPath" (detail.bind SystemdUnitDetails.fragmentPath)
  let metadata := insertSome metadata "loadState" (detail.bind SystemdUnitDetails.loadState)
  let metadata := insertSome metadata "restartPolicy"
    ((detail.bind SystemdUnitDetails.restart).filter fun value => value ≠ "" && value ≠ "no")
  let metadata := insertSome metadata "activeEnter"
    (detail.bind SystemdUnitDetails.activeEnterTimestamp)
  insertSome metadata "uptimeSeconds"
    ((detail.bind (systemdUptimeSeconds secondsSince)).map toString)

def systemdRuntimeNode (unit : String) (summary : Option SystemdUnitSummary)
    (detail : Option SystemdUnitDetails) : RuntimeMapNode where
  id := systemdNodeId unit
  provider := .systemd
  kind := .systemdService
  label := String.ofList (trimEndMatches unit.toList ".service".toList)
  status := (detail.bind SystemdUnitDetails.activeState).or
    (summary.map SystemdUnitSummary.activeState)
  layer := some .service
  metadata := systemdMetadata secondsSince unit summary detail
  service := none
  package := none

/-! Collecting -/

/-- The two commands the collector runs. -/
inductive SystemctlCommand
  | listUnits
  | show (units : List String)

/-- What one pass pushes, and how it ends. -/
structure SystemdPass where
  nodes : List RuntimeMapNode := []
  edges : List RuntimeMapEdge := []
  diagnostics : List RuntimeMapDiagnostic := []
  result : Except ProviderCommandError Unit := .ok ()

def systemdDiagnostic (severity : DiagnosticSeverity) (message : String) :
    RuntimeMapDiagnostic :=
  providerDiagnostic .systemd severity message

/-- The last record of a unit counts. -/
def detailsByUnit (records : List SystemdUnitDetails) : SortedMap String SystemdUnitDetails :=
  SortedMap.ofEntries ((records.filter (·.id ≠ "")).map fun detail => (detail.id, detail))

abbrev SystemdDependency := String ×ₗ String ×ₗ SystemdDependencyKind

/-- The dependencies met so far and the nodes pushed. -/
structure DependencyReading where
  dependencies : SortedSet SystemdDependency
  nodes : List RuntimeMapNode

def DependencyReading.pair (listed : List String) (detail : SystemdUnitDetails)
    (reading : DependencyReading) (pair : SystemdDependencyKind × String) : DependencyReading :=
  let source := systemdNodeId detail.id
  let target := systemdNodeId pair.2
  if source = target then reading
  else
    { dependencies := reading.dependencies.add (toLex (source, toLex (target, pair.1)))
      nodes :=
        if pair.2 ∈ listed then reading.nodes
        else reading.nodes ++ [systemdRuntimeNode secondsSince pair.2 none none] }

def readDependencies (listed : List String) (details : List SystemdUnitDetails)
    (nodes : List RuntimeMapNode) : DependencyReading :=
  details.foldl
    (fun reading detail =>
      (systemdDependencyPairs detail).foldl
        (DependencyReading.pair secondsSince listed detail) reading)
    ⟨∅, nodes⟩

def systemdEdge (dependency : SystemdDependency) : RuntimeMapEdge where
  source := dependency.1
  target := dependency.2.1
  relationship := dependency.2.2.relationship
  metadata := (∅ : Metadata).insert systemdEvidenceKindMarker dependency.2.2.marker
  evidenceRefs := []

/-- The nodes and edges of the units taken and the details shown of them. -/
def systemdTopology (summaries : List SystemdUnitSummary)
    (details : SortedMap String SystemdUnitDetails) (diagnostics : List RuntimeMapDiagnostic) :
    SystemdPass :=
  let listed := summaries.map SystemdUnitSummary.unit
  let nodes := summaries.map fun summary =>
    systemdRuntimeNode secondsSince summary.unit (some summary) (details.get? summary.unit)
  let reading := readDependencies secondsSince listed (details.entries.map Prod.snd) nodes
  { nodes := reading.nodes
    edges := reading.dependencies.toList.map systemdEdge
    diagnostics := diagnostics }

def systemdCapped : RuntimeMapDiagnostic :=
  systemdDiagnostic .info ("systemd discovery capped at " ++ toString maxSystemdUnits ++ " services")

def collectSystemdServicesWithRunner
    (runCommand : SystemctlCommand → Except ProviderCommandError ProviderCommandOutput) :
    SystemdPass :=
  match runCommand .listUnits with
  | .error error =>
      { diagnostics := [systemdDiagnostic .info ("systemd discovery skipped: " ++ error.text)]
        result := .error error }
  | .ok output =>
      if output.success then
        let listed := parseSystemdListUnits output.stdout
        let summaries := listed.take maxSystemdUnits
        let diagnostics := if maxSystemdUnits < listed.length then [systemdCapped] else []
        if summaries = [] then systemdTopology secondsSince summaries ∅ diagnostics
        else
          match runCommand (.show (summaries.map SystemdUnitSummary.unit)) with
          | .ok showOutput =>
              if showOutput.success then
                systemdTopology secondsSince summaries
                  (detailsByUnit (parseSystemdShowRecords showOutput.stdout)) diagnostics
              else
                { diagnostics := diagnostics ++ [systemdDiagnostic .warning
                    "systemd show command failed; dependency edges omitted"]
                  result := .error .wait }
          | .error error =>
              { diagnostics := diagnostics ++ [systemdDiagnostic .info
                  ("systemd dependency discovery skipped: " ++ error.text)]
                result := .error error }
      else
        { diagnostics := [systemdDiagnostic .warning "systemd discovery command failed"]
          result := .error .wait }

end

end DockerMap
