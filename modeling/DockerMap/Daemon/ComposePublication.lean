import DockerMap.Core.ComposeEdit
import DockerMap.Daemon.Publication

/-! The publication boundary of Compose data. Environment keys and values are redacted one
by one, in key order; of the keys that are published alike the first one is kept. The diff of
an edit plan is redacted line by line. -/

namespace DockerMap

def redactComposeOrigin (origin : ComposeFileOrigin) : ComposeFileOrigin where
  file := redactRuntimeDisplayText origin.file
  service := origin.service.map redactRuntimeDisplayText
  field := redactRuntimeDisplayText origin.field

def environmentKeyCollision (diagnosticFile service : String) : ComposeDiagnostic where
  id := "compose_environment_key_collision"
  severity := .warning
  message := "An environment key was dropped after publication normalization"
  origin := { file := diagnosticFile, service := some service, field := "environment" }

/-- The published environment and one collision for every dropped key. -/
def redactEnvironment (collision : ComposeDiagnostic) (environment : SortedMap String String) :
    SortedMap String String × List ComposeDiagnostic :=
  environment.entries.foldl (fun (published, collisions) (key, value) =>
    let publishedKey := redactRuntimeDisplayText key
    let publishedValue := redactRuntimeDisplayText value
    match published.get? publishedKey with
    | some _ => (published, collisions ++ [collision])
    | none => (published.insert publishedKey publishedValue, collisions)) (∅, [])

def redactComposeService (diagnosticFile : String) (service : ComposeService) :
    ComposeService × List ComposeDiagnostic :=
  let name := redactRuntimeDisplayText service.name
  let (environment, collisions) :=
    redactEnvironment (environmentKeyCollision diagnosticFile name) service.environment
  ({ name := name
     image := service.image.map redactRuntimeDisplayText
     environment := environment
     dependsOn := redactDisplayStrings service.dependsOn }, collisions)

def redactComposeMount (mount : ComposeMount) : ComposeMount :=
  { mount with
    id := redactRuntimeDisplayText mount.id
    service := redactRuntimeDisplayText mount.service
    source := mount.source.map redactRuntimeDisplayText
    resolvedSource := mount.resolvedSource.map redactRuntimeDisplayText
    target := redactRuntimeDisplayText mount.target
    origin := redactComposeOrigin mount.origin }

def redactMountCorrelation (correlation : MountCorrelation) : MountCorrelation :=
  { correlation with
    id := redactRuntimeDisplayText correlation.id
    service := redactRuntimeDisplayText correlation.service
    container := correlation.container.map redactRuntimeDisplayText
    composeMountId := correlation.composeMountId.map redactRuntimeDisplayText
    target := redactRuntimeDisplayText correlation.target
    declaredSource := correlation.declaredSource.map redactRuntimeDisplayText
    runtimeSource := correlation.runtimeSource.map redactRuntimeDisplayText }

def redactComposeDiagnostic (diagnostic : ComposeDiagnostic) : ComposeDiagnostic :=
  { diagnostic with
    id := redactRuntimeDisplayText diagnostic.id
    message := redactRuntimeDisplayText diagnostic.message
    origin := redactComposeOrigin diagnostic.origin }

def redactComposeScan (scan : ComposeScan) : ComposeScan :=
  let files := redactDisplayStrings scan.files
  let services := scan.services.map (redactComposeService (files.headD ""))
  { files := files
    projectRoot := redactRuntimeDisplayText scan.projectRoot
    services := services.map Prod.fst
    mounts := scan.mounts.map redactComposeMount
    correlations := scan.correlations.map redactMountCorrelation
    diagnostics :=
      (scan.diagnostics ++ services.flatMap Prod.snd).map redactComposeDiagnostic }

/-- The leading marker of a line of a diff. -/
def diffMarker : List Char → List Char
  | '+' :: _ => ['+']
  | '-' :: _ => ['-']
  | ' ' :: _ => [' ']
  | _ => []

def redactDiffLine (line : List Char) : List Char :=
  if isSensitiveText (line.drop (diffMarker line).length) then
    diffMarker line ++ redactedValue.toList
  else line

/-- Sensitive lines lose their text and keep their markers. -/
def redactUnifiedDiff (diff : String) : String :=
  String.ofList (List.intercalate ['\n'] ((Text.lines diff.toList).map redactDiffLine))

def redactComposeEditPlan (plan : ComposeEditPlan) : ComposeEditPlan :=
  { plan with
    file := redactRuntimeDisplayText plan.file
    service := redactRuntimeDisplayText plan.service
    mountId := redactRuntimeDisplayText plan.mountId
    originalSource := plan.originalSource.map redactRuntimeDisplayText
    originalTarget := redactRuntimeDisplayText plan.originalTarget
    newSource := plan.newSource.map redactRuntimeDisplayText
    newTarget := plan.newTarget.map redactRuntimeDisplayText
    unifiedDiff := normalizeRuntimeDisplayString (redactUnifiedDiff plan.unifiedDiff)
    diagnostics := plan.diagnostics.map redactComposeDiagnostic }

/-! The published environment -/

theorem redactEnvironment_fold (collision : ComposeDiagnostic) (l : List (String × String))
    (published : SortedMap String String) (collisions : List ComposeDiagnostic) :
    (l.foldl (fun (published, collisions) (key, value) =>
        let publishedKey := redactRuntimeDisplayText key
        let publishedValue := redactRuntimeDisplayText value
        match published.get? publishedKey with
        | some _ => (published, collisions ++ [collision])
        | none => (published.insert publishedKey publishedValue, collisions))
      (published, collisions)).1 =
      l.foldl (fun published entry => published.insertNew (redactRuntimeDisplayText entry.1)
        (redactRuntimeDisplayText entry.2)) published := by
  induction l generalizing published collisions with
  | nil => rfl
  | cons entry l ih =>
    rw [List.foldl_cons, List.foldl_cons, SortedMap.insertNew]
    cases hkey : published.get? (redactRuntimeDisplayText entry.1) with
    | some old => simp only [hkey, ih]
    | none => simp only [hkey, ih]

/-- The published value of a key is that of the first entry published under it. -/
theorem get?_redactEnvironment (collision : ComposeDiagnostic)
    (environment : SortedMap String String) (key : String) :
    (redactEnvironment collision environment).1.get? key =
      (environment.entries.find? fun entry => redactRuntimeDisplayText entry.1 = key).map
        fun entry => redactRuntimeDisplayText entry.2 := by
  rw [redactEnvironment, redactEnvironment_fold, SortedMap.get?_foldl_insertNew,
    SortedMap.get?_empty, Option.none_or]

end DockerMap
