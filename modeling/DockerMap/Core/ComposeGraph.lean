import DockerMap.Core.Identity

/-! The graph of a Compose scan: services, the container paths they mount at, and what they
mount there. -/

namespace DockerMap

inductive ComposeNodeKind
  | service | hostPath | containerPath | namedVolume | anonymousVolume
  deriving DecidableEq, Repr

inductive ComposeRelationshipKind | declaresMount | mountedAt
  deriving DecidableEq, Repr

structure ComposeGraphNode where
  id : String
  kind : ComposeNodeKind
  label : String
  deriving DecidableEq

structure ComposeGraphEdge where
  source : String
  target : String
  relationship : ComposeRelationshipKind
  deriving DecidableEq

structure ComposeGraph where
  nodes : List ComposeGraphNode
  edges : List ComposeGraphEdge
  deriving DecidableEq

def composeServiceNodeId (service : String) : String :=
  "compose_service_" ++ collisionResistantIdComponent service

def composeContainerPathId (service target : String) : String :=
  "compose_container_path_" ++ collisionResistantIdComponent service ++ "_" ++
    collisionResistantIdComponent target

def serviceNode (service : String) : ComposeGraphNode where
  id := composeServiceNodeId service
  kind := .service
  label := service

def containerPathNode (service target : String) : ComposeGraphNode where
  id := composeContainerPathId service target
  kind := .containerPath
  label := service ++ ":" ++ target

def hostPathNode (source : String) : ComposeGraphNode where
  id := "compose_host_path_" ++ collisionResistantIdComponent source
  kind := .hostPath
  label := source

def namedVolumeNode (source : String) : ComposeGraphNode where
  id := "compose_named_volume_" ++ collisionResistantIdComponent source
  kind := .namedVolume
  label := source

def anonymousVolumeNode (mountId : String) : ComposeGraphNode where
  id := "compose_anonymous_volume_" ++ collisionResistantIdComponent mountId
  kind := .anonymousVolume
  label := "anonymous volume"

/-- What is mounted; an unsupported mount has no source node. -/
def sourceNode (mount : ComposeMount) : Option ComposeGraphNode :=
  match mount.kind with
  | .bind => (mount.resolvedSource.or mount.source).map hostPathNode
  | .namedVolume => mount.source.map namedVolumeNode
  | .anonymousVolume => some (anonymousVolumeNode mount.id)
  | .unsupported => none

abbrev NodesById := SortedMap String ComposeGraphNode

/-- `entry(id).or_insert`: the first node of an id stays. -/
def addNode (nodes : NodesById) (node : ComposeGraphNode) : NodesById :=
  nodes.insertNew node.id node

/-- The body of the loop over the mounts; its edges are appended as they come. -/
def addMount (graph : NodesById × List ComposeGraphEdge) (mount : ComposeMount) :
    NodesById × List ComposeGraphEdge :=
  let serviceId := composeServiceNodeId mount.service
  let targetId := composeContainerPathId mount.service mount.target
  let nodes := addNode (addNode graph.1 (serviceNode mount.service))
    (containerPathNode mount.service mount.target)
  let edges := graph.2 ++
    [{ source := serviceId, target := targetId, relationship := .declaresMount }]
  match sourceNode mount with
  | none => (nodes, edges)
  | some node =>
      (addNode nodes node,
        edges ++ [{ source := node.id, target := targetId, relationship := .mountedAt }])

def deriveComposeGraph (scan : ComposeScan) : ComposeGraph :=
  let services := scan.services.foldl (fun nodes service => addNode nodes (serviceNode service.name)) ∅
  let graph := scan.mounts.foldl addMount (services, [])
  { nodes := graph.1.entries.map Prod.snd
    edges := graph.2 }

end DockerMap
