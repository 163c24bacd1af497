import DockerMap.Core.SnapshotRuntime
import DockerMap.Daemon.Providers

/-! npm projects beneath the configured root, and the packages their manifests declare. -/

namespace DockerMap

def maxNpmDependenciesPerProject : ℕ := 64

def maxNpmScripts : ℕ := 16

def maxScriptChars : ℕ := 200

def npmEvidenceDependencyMarker : String := "__dockermapNpmManifestDependency"

structure PackageDependencyRecord where
  name : String
  version : String
  scope : String
  deriving DecidableEq

structure PackageManifestDocument where
  name : Option String := none
  isPrivate : Bool := false
  packageManager : Option String := none
  scripts : SortedMap String String := ∅
  dependencies : SortedMap String String := ∅
  optionalDependencies : SortedMap String String := ∅
  peerDependencies : SortedMap String String := ∅
  devDependencies : SortedMap String String := ∅

structure NpmProjectSummary where
  /-- The path beneath the project root. -/
  directory : String
  packageName : Option String
  displayName : String
  kind : RuntimeNodeKind
  serviceEntityKind : ServiceEntityKind
  packageManager : Option String
  lockfiles : List String
  dependencies : List PackageDependencyRecord
  scripts : SortedMap String String
  frameworkHints : List String
  isPrivate : Bool

/-! Manifests -/

def boundedPackageScripts (scripts : SortedMap String String) : SortedMap String String :=
  SortedMap.ofEntries ((scripts.entries.take maxNpmScripts).map fun entry =>
    (redactSensitiveText entry.1, truncateChars (redactSensitiveText entry.2) maxScriptChars))

def frameworkMarkers : List (String × String) :=
  [("@nestjs/core", "NestJS"), ("@remix-run/react", "Remix"), ("@sveltejs/kit", "SvelteKit"),
    ("@vitejs/plugin-react", "Vite"), ("angular/core", "Angular"), ("astro", "Astro"),
    ("docusaurus", "Docusaurus"), ("electron", "Electron"), ("expo", "Expo"),
    ("express", "Express"), ("fastify", "Fastify"), ("gatsby", "Gatsby"), ("hono", "Hono"),
    ("next", "Next.js"), ("nuxt", "Nuxt"), ("react", "React"), ("solid-js", "Solid"),
    ("svelte", "Svelte"), ("tauri", "Tauri"), ("vite", "Vite"), ("vue", "Vue")]

namespace PackageManifestDocument

variable (manifest : PackageManifestDocument)

def classifyPackageFrameworks : List String :=
  let sections := [manifest.scripts, manifest.dependencies, manifest.devDependencies,
    manifest.optionalDependencies, manifest.peerDependencies]
  let haystacks := sections.flatMap fun entries => entries.entries.map Prod.fst
  frameworkMarkers.foldl (fun hints marker =>
    if hints.length < 4 &&
        haystacks.any (fun value => Text.contains value.toList marker.1.toList) &&
        marker.2 ∉ hints then
      hints ++ [marker.2]
    else hints) []

def collectDependencyScope (scope : String) (entries : SortedMap String String) :
    List PackageDependencyRecord :=
  entries.entries.map fun entry =>
    ⟨redactSensitiveText entry.1, redactSensitiveText entry.2, scope⟩

def packageManifestDependencies : List PackageDependencyRecord :=
  (collectDependencyScope "dependencies" manifest.dependencies ++
    collectDependencyScope "optional_dependencies" manifest.optionalDependencies ++
    collectDependencyScope "peer_dependencies" manifest.peerDependencies ++
    collectDependencyScope "dev_dependencies" manifest.devDependencies).take
      maxNpmDependenciesPerProject

def classifyPackageManifest : RuntimeNodeKind × ServiceEntityKind :=
  let keys := fun (entries : SortedMap String String) => entries.entries.map Prod.fst
  let haystack := manifest.name.toList ++ keys manifest.scripts ++
    manifest.scripts.entries.map Prod.snd ++ keys manifest.dependencies ++
    keys manifest.optionalDependencies ++ keys manifest.peerDependencies ++
    keys manifest.devDependencies
  if haystack.any fun value => looksLikeAiAgent (Text.asciiLower value.toList) then
    (.aiAgent, .aiAgent)
  else (.nodeApplication, .nodeApplication)

end PackageManifestDocument

/-- The name shown for a project: its manifest's, else the directory's, unless that is empty. -/
def npmDisplayName (directory : String) (fileName : Option String)
    (manifest : Option PackageManifestDocument) : String :=
  let name := ((manifest.bind PackageManifestDocument.name).or fileName).filter (· ≠ "")
  name.getD (if directory = "" then "project-root" else directory)

def summarizeNpmProject (directory : String) (fileName : Option String)
    (manifest : Option PackageManifestDocument) (lockfiles : List String) :
    Option NpmProjectSummary :=
  if manifest.isNone && lockfiles.isEmpty then none
  else
    let kinds := (manifest.map PackageManifestDocument.classifyPackageManifest).getD
      (.nodeApplication, .nodeApplication)
    some
      { directory := directory
        packageName := (manifest.bind PackageManifestDocument.name).map redactSensitiveText
        displayName := redactSensitiveText (npmDisplayName directory fileName manifest)
        kind := kinds.1
        serviceEntityKind := kinds.2
        packageManager :=
          (manifest.bind PackageManifestDocument.packageManager).map redactSensitiveText
        lockfiles := lockfiles
        dependencies := (manifest.map
          PackageManifestDocument.packageManifestDependencies).getD []
        scripts := (manifest.map fun value => boundedPackageScripts value.scripts).getD ∅
        frameworkHints := (manifest.map
          PackageManifestDocument.classifyPackageFrameworks).getD []
        isPrivate := (manifest.map PackageManifestDocument.isPrivate).getD false }

/-! Topology -/

def RuntimePackageEntity.minimal (name version : String) : RuntimePackageEntity where
  name := name
  manager := .npm
  version := version
  dependencies := []
  dependents := []
  update := none
  owner := none
  location := none

def npmProjectId (projectIndex : ℕ) (project : NpmProjectSummary) : String :=
  "npm_project_" ++ safeRuntimeIdComponent project.directory ("project_" ++ toString projectIndex)

def npmProjectMetadata (project : NpmProjectSummary) : Metadata :=
  let add := fun (metadata : Metadata) (key : String) (value : Option String) =>
    value.elim metadata (metadata.insert key)
  let joined := fun (values : List String) =>
    if values = [] then none else some (",".intercalate values)
  let metadata := (∅ : Metadata).insert "path" project.directory
  let metadata := metadata.insert "serviceEntityKind"
    (serviceEntityKindName project.serviceEntityKind)
  let metadata := metadata.insert "private" (if project.isPrivate then "true" else "false")
  let metadata := add metadata "packageName" project.packageName
  let metadata := add metadata "packageManager" project.packageManager
  let metadata := add metadata "lockfiles" (joined project.lockfiles)
  let metadata := add metadata "frameworks" (joined project.frameworkHints)
  if project.scripts.entries = [] then metadata
  else
    metadata.insert "scripts" (truncateChars (" | ".intercalate
      (project.scripts.entries.map fun entry => entry.1 ++ "=" ++ entry.2)) 1600)

def npmProjectNode (projectIndex : ℕ) (project : NpmProjectSummary) : RuntimeMapNode where
  id := npmProjectId projectIndex project
  provider := .npm
  kind := project.kind
  label := project.displayName
  status := some "discovered"
  layer := some .package
  metadata := npmProjectMetadata project
  service := none
  package := none

/-- A redacted version is told by the place of its entry only. -/
def npmPackageId (index : ℕ) (dependency : PackageDependencyRecord) : String :=
  let safeVersion := redactSensitiveText dependency.version
  "npm_package_" ++ safeRuntimeIdComponent (redactSensitiveText dependency.name) "package" ++
    "_" ++
    if safeVersion = redactedValue then "redacted_" ++ toString index
    else safeRuntimeIdComponent safeVersion "version"

def npmPackageNode (index : ℕ) (dependency : PackageDependencyRecord) : RuntimeMapNode where
  id := npmPackageId index dependency
  provider := .npm
  kind := .packageDependency
  label := redactSensitiveText dependency.name
  status := none
  layer := some .package
  metadata := ((((∅ : Metadata).insert "package" (redactSensitiveText dependency.name)).insert
    "version" (redactSensitiveText dependency.version)).insert
    "scope" (redactSensitiveText dependency.scope)).insert
    "serviceEntityKind" (serviceEntityKindName .packageDependency)
  service := none
  package := some (.minimal (redactSensitiveText dependency.name)
    (redactSensitiveText dependency.version))

def npmRunsOnEdge (projectIndex : ℕ) (project : NpmProjectSummary) : RuntimeMapEdge where
  source := npmProjectId projectIndex project
  target := "host_local"
  relationship := .runsOn
  metadata := ∅
  evidenceRefs := []

def npmDependsOnEdge (projectIndex : ℕ) (project : NpmProjectSummary) (index : ℕ)
    (dependency : PackageDependencyRecord) : RuntimeMapEdge where
  source := npmProjectId projectIndex project
  target := npmPackageId index dependency
  relationship := .dependsOn
  metadata := (((∅ : Metadata).insert "version" (redactSensitiveText dependency.version)).insert
    "scope" (redactSensitiveText dependency.scope)).insert npmEvidenceDependencyMarker "declared"
  evidenceRefs := []

/-- What one pass pushes. -/
structure NpmPass where
  nodes : List RuntimeMapNode := []
  edges : List RuntimeMapEdge := []

def NpmPass.dependency (projectIndex : ℕ) (project : NpmProjectSummary) (pass : NpmPass)
    (entry : PackageDependencyRecord × ℕ) : NpmPass :=
  { nodes := pass.nodes ++ [npmPackageNode entry.2 entry.1]
    edges := pass.edges ++ [npmDependsOnEdge projectIndex project entry.2 entry.1] }

def NpmPass.project (restricted : Bool) (pass : NpmPass) (entry : NpmProjectSummary × ℕ) :
    NpmPass :=
  entry.1.dependencies.zipIdx.foldl (NpmPass.dependency entry.2 entry.1)
    { nodes := pass.nodes ++ [npmProjectNode entry.2 entry.1]
      edges :=
        if restricted then pass.edges else pass.edges ++ [npmRunsOnEdge entry.2 entry.1] }

/-- The projects are the ones discovered; `restricted` tells the PID namespace. -/
def collectNpmProjects (restricted : Bool) (projects : List NpmProjectSummary) : NpmPass :=
  projects.zipIdx.foldl (NpmPass.project restricted) {}

end DockerMap
