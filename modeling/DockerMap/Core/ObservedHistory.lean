import DockerMap.Core.Models
import DockerMap.Lib.Sha256

/-! Safe comparison primitives for the daemon's bounded observed-history cache. -/

namespace DockerMap

def maxObservedChangeEvents : ℕ := 64

/-- A comparison-only projection of a publication-sanitized snapshot. Ambiguous public
identities are kept apart, so that a collision is never an appearance or a removal. -/
structure ObservedContainerInventory where
  containers : SortedMap String ObservedContainerStatus := ∅
  ambiguousIds : SortedSet String := ∅
  deriving DecidableEq

def observedContainerIdentity (rawContainerId : String) : String :=
  "docker_container_" ++ Sha256.hex rawContainerId

def observedStatusClass (status : String) : ObservedContainerStatus :=
  let normalized := Text.asciiLower (Text.trim status.toList)
  let is := fun (text : String) => normalized == text.toList
  let begins := fun (text : String) => Text.startsWith normalized text.toList
  if is "paused" || (begins "up " && Text.contains normalized "(paused)".toList) then .other
  else if is "running" || begins "up " then .running
  else if is "exited" || is "dead" || begins "exited " then .stopped
  else .other

def observedContainerInventory (snapshot : DockerSnapshot) : ObservedContainerInventory :=
  let candidates := snapshot.containers.foldl
    (fun (groups : SortedMap String (List ContainerRecord)) container =>
      let id := observedContainerIdentity container.id
      groups.insert id ((groups.get? id).getD [] ++ [container])) ∅
  candidates.entries.foldl (fun inventory candidate =>
    match candidate.2 with
    | [record] =>
        { inventory with
          containers := inventory.containers.insert candidate.1
            (observedStatusClass record.status) }
    | _ => { inventory with ambiguousIds := inventory.ambiguousIds.add candidate.1 }) {}

end DockerMap
