import DockerMap.Core.SnapshotRuntime

/-! The correlation of declared Compose mounts with the mounts Docker reports. -/

namespace DockerMap.Compose

def declaredMountSource (mount : ComposeMount) : Option String :=
  match mount.kind with
  | .bind => mount.resolvedSource.or mount.source
  | .namedVolume => mount.source
  | .anonymousVolume | .unsupported => mount.source

def mountsMatch (composeMount : ComposeMount) (runtimeMount : ContainerMount) : Bool :=
  composeMount.kind == runtimeMount.kind && composeMount.target == runtimeMount.target &&
    match composeMount.kind with
    | .bind | .namedVolume => declaredMountSource composeMount == runtimeMount.source
    | .anonymousVolume => true
    | .unsupported => false

def containerMatchesService (service : String) (container : ContainerRecord) : Bool :=
  container.role == service || container.name == service ||
    decide (("_" ++ service ++ "_1").toList <:+ container.name.toList) ||
    decide (("-" ++ service ++ "-1").toList <:+ container.name.toList)

section

variable (snapshot : DockerSnapshot)

def serviceContainers (service : String) : List ContainerRecord :=
  snapshot.containers.filter (containerMatchesService service)

/-- The first matching mount of the first container of the service that has one. -/
def matchResult (mount : ComposeMount) : Option (ContainerRecord × ContainerMount) :=
  (serviceContainers snapshot mount.service).findSome? fun container =>
    (container.mounts.find? (mountsMatch mount)).map fun runtimeMount => (container, runtimeMount)

def declaredCorrelation (mount : ComposeMount) : MountCorrelation :=
  match matchResult snapshot mount with
  | some (container, runtimeMount) =>
      { id := "matched:" ++ mount.id
        service := mount.service
        container := some container.name
        composeMountId := some mount.id
        kind := mount.kind
        target := mount.target
        declaredSource := declaredMountSource mount
        runtimeSource := runtimeMount.source
        status := .matched }
  | none =>
      { id := "missing:" ++ mount.id
        service := mount.service
        container := (serviceContainers snapshot mount.service).head?.map ContainerRecord.name
        composeMountId := some mount.id
        kind := mount.kind
        target := mount.target
        declaredSource := declaredMountSource mount
        runtimeSource := none
        status := .missing }

variable (scan : ComposeScan)

def matchedRuntimeMounts : SortedSet String :=
  SortedSet.ofList ((scan.mounts.filterMap (matchResult snapshot)).map fun found => found.2.id)

/-- The turns of the loop over services, containers and mounts that report a mount. -/
def extraMounts : List (ComposeService × ContainerRecord × ContainerMount) :=
  scan.services.flatMap fun service =>
    (serviceContainers snapshot service.name).flatMap fun container =>
      (container.mounts.filter fun runtimeMount =>
        !(matchedRuntimeMounts snapshot scan).toList.contains runtimeMount.id).map
          fun runtimeMount => (service, container, runtimeMount)

def extraCorrelation (extra : ComposeService × ContainerRecord × ContainerMount) :
    MountCorrelation where
  id := "extra:" ++ extra.2.1.id ++ ":" ++ extra.2.2.id
  service := extra.1.name
  container := some extra.2.1.name
  composeMountId := none
  kind := extra.2.2.kind
  target := extra.2.2.target
  declaredSource := none
  runtimeSource := extra.2.2.source
  status := .extra

def correlateComposeRuntime : List MountCorrelation :=
  sortByKey MountCorrelation.id
    (scan.mounts.map (declaredCorrelation snapshot) ++
      (extraMounts snapshot scan).map extraCorrelation)

end

end DockerMap.Compose
