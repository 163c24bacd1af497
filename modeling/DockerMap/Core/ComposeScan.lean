import DockerMap.Core.ComposeEdit
import DockerMap.Core.ComposeEnvironment
import DockerMap.Core.SnapshotRuntime
import DockerMap.Lib.LexicalPath
import Mathlib.Data.Prod.Lex

/-! Scanning Compose documents: the mounts they declare, where bind sources resolve to, and
the checks of the whole scan. A document is the YAML value of a file; a file that is no YAML
has the parser's message instead. -/

namespace DockerMap

open Text

/-! Paths -/

structure NormalizedPath where
  rooted : Bool := false
  names : List (List Char) := []

/-- `pop` leaves an empty path and the root as they are. -/
def NormalizedPath.step (normalized : NormalizedPath) :
    LexicalPath.Component → NormalizedPath
  | .curDir => normalized
  | .parentDir => { normalized with names := normalized.names.dropLast }
  | .rootDir => { rooted := true }
  | .normal name => { normalized with names := normalized.names ++ [name] }

def normalizeLexical (path : List Char) : List Char :=
  let normalized := (LexicalPath.components path).foldl NormalizedPath.step {}
  LexicalPath.text normalized.rooted normalized.names

/-! Sources -/

/-- `split_once` at a text. -/
def splitOnceAt (needle : List Char) : List Char → Option (List Char × List Char)
  | [] => none
  | c :: rest =>
      if startsWith (c :: rest) needle then some ([], (c :: rest).drop needle.length)
      else (splitOnceAt needle rest).map fun parts => (c :: parts.1, parts.2)

/-- Only the first variable is looked at, and only its default is put in. -/
def interpolateDefault (value : List Char) : List Char :=
  match splitOnceAt "$\x7b".toList value with
  | none => value
  | some (before, rest) =>
      match splitOnce '}' rest with
      | none => value
      | some (expression, after) =>
          match (splitOnceAt ":-".toList expression).or (splitOnce '-' expression) with
          | some (_, default) => before ++ default ++ after
          | none => value

def expandTilde (home : Option (List Char)) (value : List Char) : List Char :=
  match home.filter (· ≠ []) with
  | none => value
  | some home =>
      match value with
      | ['~'] => home
      | '~' :: '/' :: rest => home ++ '/' :: rest
      | value => value

/-- A bind source as it is resolved against the base directory. -/
def sourcePath (home : Option (List Char)) (source : String) : List Char :=
  expandTilde home (interpolateDefault source.toList)

def resolveSource (home : Option (List Char)) (baseDir : List Char) (kind : ComposeMountKind)
    (source : Option String) : Option String :=
  source.bind fun source =>
    if kind ≠ .bind then none
    else
      let path := sourcePath home source
      let resolved :=
        if LexicalPath.isAbsolute path || isWindowsAbsolutePath path then path
        else LexicalPath.join baseDir path
      some (String.ofList (normalizeLexical resolved))

def looksLikeHostPath (value : List Char) : Bool :=
  value.head? == some '.' || value.head? == some '/' || value.head? == some '~' ||
    value.head? == some '\\' || isWindowsAbsolutePath value

def classifyShortSource : Option (List Char) → ComposeMountKind
  | none => .anonymousVolume
  | some value => if looksLikeHostPath value then .bind else .namedVolume

/-- A colon after a drive letter does not separate. -/
def splitShortVolume : List Char → List (List Char)
  | drive :: ':' :: rest =>
      if drive.isAlpha then (rest.splitOn ':').modifyHead fun piece => drive :: ':' :: piece
      else (drive :: ':' :: rest).splitOn ':'
  | raw => raw.splitOn ':'

/-! Documents -/

namespace YamlValue

/-- These look through tags, as `asStr` does. -/
def asMapping : YamlValue → Option (List (YamlValue × YamlValue))
  | .mapping entries => some entries
  | .tagged _ value => value.asMapping
  | _ => none

def asSequence : YamlValue → Option (List YamlValue)
  | .sequence items => some items
  | .tagged _ value => value.asSequence
  | _ => none

def asBool : YamlValue → Option Bool
  | .bool value => some value
  | .tagged _ value => value.asBool
  | _ => none

end YamlValue

def isKey (key : String) : YamlValue → Bool
  | .string text => text == key
  | _ => false

def entryOf (entries : List (YamlValue × YamlValue)) (key : String) : Option YamlValue :=
  (entries.find? fun entry => isKey key entry.1).map Prod.snd

def mappingGet (value : YamlValue) (key : String) : Option YamlValue :=
  value.asMapping.bind fun entries => entryOf entries key

def parseDependsOn : Option YamlValue → List String
  | some (.sequence items) => items.filterMap YamlValue.asStr
  | some (.mapping entries) => entries.filterMap fun entry => entry.1.asStr
  | _ => []

/-- A Compose file with its parent directory and what its content parses to. -/
structure ComposeDocument where
  file : String
  baseDir : List Char
  content : Except String YamlValue

namespace ComposeDocument

variable (home : Option (List Char)) (document : ComposeDocument)

def origin (service : Option String) (field : String) : ComposeFileOrigin where
  file := document.file
  service := service
  field := field

def volumeField (service : String) (index : ℕ) : String :=
  "services." ++ service ++ ".volumes[" ++ toString index ++ "]"

/-- A mount at its place in the service's list. -/
def mount (service : String) (index : ℕ) (kind : ComposeMountKind) (source : Option String)
    (target : String) (readOnly : Bool) : ComposeMount where
  id := document.file ++ ":" ++ service ++ ":" ++ toString index
  service := service
  kind := kind
  source := source
  resolvedSource := resolveSource home document.baseDir kind source
  target := target
  readOnly := readOnly
  origin := document.origin (some service) (volumeField service index)

def error (id message : String) (origin : ComposeFileOrigin) : ComposeDiagnostic where
  id := id
  severity := .error
  message := message
  origin := origin

def isReadOnlyMode (mode : List Char) : Bool :=
  (mode.splitOn ',').any fun part => part == "ro".toList || part == "readonly".toList

def parseShortMount (service : String) (index : ℕ) (raw : String) :
    Except ComposeDiagnostic ComposeMount :=
  let short := fun (source : Option (List Char)) (target : List Char) (readOnly : Bool) =>
    document.mount home service index (classifyShortSource source) (source.map String.ofList)
      (String.ofList target) readOnly
  match splitShortVolume raw.toList with
  | [target] => .ok (short none target false)
  | [source, target] => .ok (short (some source) target false)
  | [source, target, mode] => .ok (short (some source) target (isReadOnlyMode mode))
  | _ => .error (error "compose_invalid_short_mount"
      "Short volume syntax must be target, source:target, or source:target:mode."
      (document.origin (some service) (volumeField service index)))

def longKind (mountType : String) (source : Option String) : ComposeMountKind :=
  if mountType = "bind" then .bind
  else if mountType = "volume" then
    if source.isSome then .namedVolume else .anonymousVolume
  else .unsupported

def parseLongMount (service : String) (index : ℕ) (entries : List (YamlValue × YamlValue)) :
    Except ComposeDiagnostic ComposeMount :=
  let text := fun (value : Option YamlValue) => value.bind YamlValue.asStr
  let mountType := (text (entryOf entries "type")).getD "volume"
  let source := text ((entryOf entries "source").or (entryOf entries "src"))
  match text (((entryOf entries "target").or (entryOf entries "dst")).or
      (entryOf entries "destination")) with
  | none => .error (error "compose_mount_missing_target"
      "Volume mapping is missing a target path."
      (document.origin (some service) (volumeField service index)))
  | some target =>
      .ok (document.mount home service index (longKind mountType source) source target
        (((entryOf entries "read_only").bind YamlValue.asBool).getD false))

def parseMount (service : String) (index : ℕ) (item : YamlValue) :
    Except ComposeDiagnostic ComposeMount :=
  match item.asStr with
  | some short => document.parseShortMount home service index short
  | none =>
      match item.asMapping with
      | some entries => document.parseLongMount home service index entries
      | none => .error (error "compose_unsupported_mount"
          "Volume entries must be strings or mappings."
          (document.origin (some service) (volumeField service index)))

end ComposeDocument

/-! The scan -/

/-- What the documents read so far declare. -/
structure ComposeReading where
  services : List ComposeService := []
  mounts : List ComposeMount := []
  diagnostics : List ComposeDiagnostic := []

namespace ComposeReading

variable (home : Option (List Char)) (document : ComposeDocument)

def diagnose (reading : ComposeReading) (diagnostic : ComposeDiagnostic) : ComposeReading :=
  { reading with diagnostics := reading.diagnostics ++ [diagnostic] }

def volume (service : String) (reading : ComposeReading) (entry : YamlValue × ℕ) :
    ComposeReading :=
  match document.parseMount home service entry.2 entry.1 with
  | .ok mount => { reading with mounts := reading.mounts ++ [mount] }
  | .error diagnostic => reading.diagnose diagnostic

def service (reading : ComposeReading) (entry : YamlValue × YamlValue) : ComposeReading :=
  match entry.1.asStr with
  | none => reading.diagnose (ComposeDocument.error "compose_non_string_service_name"
      "Service names must be strings." (document.origin none "services"))
  | some name =>
      let declared : ComposeService :=
        { name := name
          image := (mappingGet entry.2 "image").bind YamlValue.asStr
          environment := parseEnvironment (mappingGet entry.2 "environment")
          dependsOn := parseDependsOn (mappingGet entry.2 "depends_on") }
      let reading := { reading with services := reading.services ++ [declared] }
      match mappingGet entry.2 "volumes" with
      | none => reading
      | some volumes =>
          match volumes.asSequence with
          | none => reading.diagnose (ComposeDocument.error "compose_invalid_volumes"
              "Service volumes must be a sequence."
              (document.origin (some name) "services.volumes"))
          | some items => items.zipIdx.foldl (volume home document name) reading

def parseComposeFile (reading : ComposeReading) (document : ComposeDocument) : ComposeReading :=
  match document.content with
  | .error error => reading.diagnose
      { id := "compose_yaml_parse_error"
        severity := .blocked
        message := "Compose YAML could not be parsed: " ++ error
        origin := document.origin none "document" }
  | .ok value =>
      match (mappingGet value "services").bind YamlValue.asMapping with
      | none => reading.diagnose (ComposeDocument.error "compose_missing_services"
          "Compose file does not contain a services mapping." (document.origin none "services"))
      | some services => services.foldl (service home document) reading

end ComposeReading

/-- A later declaration of a service overrides its image and environment and adds
dependencies. -/
def ComposeService.merge (existing later : ComposeService) : ComposeService :=
  { existing with
    image := later.image.or existing.image
    environment := later.environment.entries.foldl
      (fun environment entry => environment.insert entry.1 entry.2) existing.environment
    dependsOn := later.dependsOn.foldl
      (fun known dependency => if dependency ∈ known then known else known ++ [dependency])
      existing.dependsOn }

def coalesceComposeServices (services : List ComposeService) : List ComposeService :=
  (services.foldl (fun (byName : SortedMap String ComposeService) service =>
    byName.insert service.name (((byName.get? service.name).map (·.merge service)).getD service))
    ∅).entries.map Prod.snd

/-! Validation -/

def sensitiveSystemRoots : List String :=
  ["/etc", "/proc", "/sys", "/dev", "/boot", "/usr", "/bin", "/sbin", "/lib", "/lib64",
    "/var/log", "/root"]

def credentialDirNames : List String :=
  [".ssh", ".aws", ".gnupg", ".kube", ".docker", ".netrc", "gcloud"]

def unsafeBindSourceDiagnostic (resolved : String) : Option (DiagnosticSeverity × String) :=
  if isDockerDaemonStateBindSource resolved then
    some (.blocked, "Bind source `" ++ resolved ++ "` exposes Docker daemon state; a compromised " ++
      "container could control the host daemon.")
  else if (LexicalPath.components resolved.toList).any fun component =>
      credentialDirNames.any fun needle => component = .normal needle.toList then
    some (.blocked, "Bind source `" ++ resolved ++
      "` exposes credential material to the container.")
  else if sensitiveSystemRoots.any fun root =>
      resolved = root || startsWith resolved.toList (root ++ "/").toList then
    some (.warning, "Bind source `" ++ resolved ++ "` mounts a sensitive host path.")
  else none

/-- The path's own type, without following it: no file, a symbolic link or another file. -/
inductive PathState | missing | symlink | other
  deriving DecidableEq

section

variable (pathState : String → PathState) (mount : ComposeMount)

def mountDiagnostic (id : String) (severity : DiagnosticSeverity) (message : String) :
    ComposeDiagnostic where
  id := id
  severity := severity
  message := message
  origin := mount.origin

def targetDiagnostics : List ComposeDiagnostic :=
  if trim mount.target.toList = [] || !looksLikeContainerPath mount.target.toList then
    [mountDiagnostic mount "compose_invalid_container_target" .error
      ("Mount target `" ++ mount.target ++ "` is not an absolute container path.")]
  else []

def kindDiagnostics : List ComposeDiagnostic :=
  if mount.kind = .unsupported then
    [mountDiagnostic mount "compose_unsupported_mount_type" .warning
      "Unsupported mount type was preserved but cannot be validated yet."]
  else []

def sourceDiagnostics (source : String) : List ComposeDiagnostic :=
  (if '$' ∈ source.toList then
    [mountDiagnostic mount "compose_unresolved_variable" .warning
      ("Mount source `" ++ source ++ "` contains an unresolved variable.")]
  else []) ++
  if '\x00' ∈ source.toList then
    [mountDiagnostic mount "compose_invalid_source_path" .blocked
      "Mount source contains a NUL byte."]
  else []

def unsafeDiagnostics (resolved : String) : List ComposeDiagnostic :=
  (unsafeBindSourceDiagnostic resolved).toList.map fun finding =>
    mountDiagnostic mount "compose_unsafe_bind_source" finding.1 finding.2

def traversalDiagnostics (resolved : String) : List ComposeDiagnostic :=
  if hasParentTraversal resolved.toList then
    [mountDiagnostic mount "compose_parent_traversal" .warning
      ("Bind source `" ++ resolved ++ "` traverses outside its compose directory.")]
  else []

def stateDiagnostics (resolved : String) : List ComposeDiagnostic :=
  match pathState resolved with
  | .symlink => [mountDiagnostic mount "compose_bind_source_symlink" .warning
      ("Bind source `" ++ resolved ++
        "` is a symlink; DockerMap will not follow it during validation.")]
  | .missing => [mountDiagnostic mount "compose_missing_bind_source" .warning
      ("Bind source `" ++ resolved ++ "` does not exist on the host.")]
  | .other => []

/-- The checks of one mount, in their order. -/
def mountDiagnostics : List ComposeDiagnostic :=
  targetDiagnostics mount ++ kindDiagnostics mount ++
    mount.source.elim [] (sourceDiagnostics mount) ++
    if mount.kind = .bind then
      mount.resolvedSource.elim [] fun resolved =>
        unsafeDiagnostics mount resolved ++ traversalDiagnostics mount resolved ++
          stateDiagnostics pathState mount resolved
    else []

end

abbrev MountTarget := String ×ₗ String

/-- Every origin of a service and target that more than one mount declares. -/
def duplicateTargets (mounts : List ComposeMount) : List ComposeDiagnostic :=
  let targets := mounts.foldl (fun (targets : SortedMap MountTarget (List ComposeFileOrigin))
    mount => targets.push (toLex (mount.service, mount.target)) mount.origin) ∅
  targets.entries.flatMap fun entry =>
    if 1 < entry.2.length then
      entry.2.map (ComposeDocument.error "compose_duplicate_target"
        ("Service `" ++ entry.1.1 ++ "` declares multiple mounts for `" ++ entry.1.2 ++ "`."))
    else []

def validateComposeScan (pathState : String → PathState) (scan : ComposeScan) : ComposeScan :=
  { scan with
    diagnostics := scan.diagnostics ++ scan.mounts.flatMap (mountDiagnostics pathState) ++
      duplicateTargets scan.mounts }

def noComposeFiles (projectRoot : String) : ComposeDiagnostic where
  id := "compose_no_files"
  severity := .warning
  message := "No Compose files were discovered or supplied."
  origin := { file := projectRoot, service := none, field := "files" }

/-- The documents are the given files, all of them read. -/
def scanComposeFiles (home : Option (List Char)) (pathState : String → PathState)
    (projectRoot : String) (documents : List ComposeDocument) : ComposeScan :=
  let scan := fun (reading : ComposeReading) (services : List ComposeService) =>
    { files := documents.map ComposeDocument.file
      projectRoot := projectRoot
      services := services
      mounts := reading.mounts
      correlations := []
      diagnostics := reading.diagnostics : ComposeScan }
  if documents = [] then scan { diagnostics := [noComposeFiles projectRoot] } []
  else
    let reading := documents.foldl (ComposeReading.parseComposeFile home) {}
    validateComposeScan pathState (scan reading (coalesceComposeServices reading.services))

end DockerMap
