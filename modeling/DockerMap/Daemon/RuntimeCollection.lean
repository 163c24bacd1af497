import DockerMap.Daemon.Publication

/-! Host-side runtime collection: the fixed provider slots, what one bounded pass of a
slot contributes, and the runtime map built from retained collections. What the fixed
read-only collectors read from the host is the input `HostReading`. -/

namespace DockerMap

/-! Provider collections -/

structure ProviderCollection where
  nodes : List RuntimeMapNode := []
  edges : List RuntimeMapEdge := []
  diagnostics : List RuntimeMapDiagnostic := []
  states : List ProviderState := []
  deriving DecidableEq

def staticProviderSlots : List ProviderSlot :=
  [.networkInfrastructure, .hostScoped, .tmux, .cron, .systemd, .pythonProcesses,
    .nativeProcesses, .projectNpm]

theorem mem_staticProviderSlots (slot : ProviderSlot) : slot ∈ staticProviderSlots := by
  cases slot <;> decide

/-- The derived order of the slots. -/
def ProviderSlot.rank (slot : ProviderSlot) : ℕ := staticProviderSlots.idxOf slot

def initialProviderState (slot : ProviderSlot) (state : ProviderStateKind) : ProviderState where
  slot := slot
  state := state
  lastAttemptMs := none
  lastSuccessMs := none
  lastDurationMs := none
  consecutiveFailureCount := 0
  dataRevision := none
  statusReason := none

namespace ProviderCollection

/-- A provider cannot forge timestamps or revisions: a new entry has none. -/
def setState (collection : ProviderCollection) (slot : ProviderSlot)
    (state : ProviderStateKind) : ProviderCollection :=
  match collection.states.findIdx? fun existing => existing.slot == slot with
  | some index =>
      { collection with
        states := collection.states.modify index fun existing =>
          { existing with state := state } }
  | none =>
      { collection with
        states := sortByKey (fun state => state.slot.rank)
          (collection.states ++ [initialProviderState slot state]) }

/-- The recorded state of a slot. -/
def stateOf (collection : ProviderCollection) (slot : ProviderSlot) : Option ProviderStateKind :=
  (collection.states.find? fun candidate => candidate.slot == slot).map ProviderState.state

def isDisabled (collection : ProviderCollection) (slot : ProviderSlot) : Bool :=
  collection.states.any fun candidate => candidate.slot == slot && candidate.state == .disabled

/-- A private equality key for an already-sanitized retained collection. -/
def sanitizedObservableIdentity (collection : ProviderCollection) : String :=
  (Json.arr [Json.encode collection.nodes, Json.encode collection.edges,
    Json.encode collection.diagnostics, Json.encode collection.states]).toText

theorem sanitizedObservableIdentity_injective :
    Function.Injective sanitizedObservableIdentity := by
  intro a b h
  have hparts := Json.arr.inj (Json.toText_injective h)
  cases a
  cases b
  simpa using hparts

/-- No topology normalization here: provider edges may target Docker nodes that only
the public map adds. -/
def sanitizedForRetention (collection : ProviderCollection) : ProviderCollection :=
  { collection with
    nodes := redactRuntimeNodes collection.nodes
    edges := redactRuntimeEdges collection.edges
    diagnostics := redactRuntimeDiagnostics collection.diagnostics }

@[simp] theorem sanitizedForRetention_states (collection : ProviderCollection) :
    collection.sanitizedForRetention.states = collection.states := rfl

end ProviderCollection

/-! One bounded pass -/

def durationFromSecs (secs : ℕ) : ℕ := secs * 1000000000

/-- Completion-relative cadence, in nanoseconds. -/
def slotInterval : ProviderSlot → ℕ
  | .networkInfrastructure => durationFromSecs 10
  | .hostScoped => durationFromSecs 15
  | .tmux => durationFromSecs 15
  | .cron => durationFromSecs 15
  | .systemd => durationFromSecs 15
  | .pythonProcesses => durationFromSecs 10
  | .nativeProcesses => durationFromSecs 10
  | .projectNpm => durationFromSecs 60

/-- What a slot's fixed collectors read. Host providers never construct evidence: it is
bound to an edge only once the slot owns a revision. `available` is false in a restricted
PID namespace and, for npm, without a project root. -/
structure HostReading where
  nodes : List RuntimeMapNode
  edges : List RuntimeMapEdge
  diagnostics : List RuntimeMapDiagnostic
  available : Bool
  bare : ∀ edge ∈ edges, edge.evidenceRefs = []

/-- The network slot has no disabled profile. -/
def collectedState (slot : ProviderSlot) (reading : HostReading) : ProviderStateKind :=
  if slot = .networkInfrastructure ∨ reading.available then .fresh else .disabled

/-- One self-contained collection with a single state entry. -/
def collectProviderSlot (slot : ProviderSlot) (reading : HostReading) : ProviderCollection :=
  ProviderCollection.setState
    { nodes := reading.nodes, edges := reading.edges, diagnostics := reading.diagnostics }
    slot (collectedState slot reading)

@[simp] theorem collectProviderSlot_states (slot : ProviderSlot) (reading : HostReading) :
    (collectProviderSlot slot reading).states =
      [initialProviderState slot (collectedState slot reading)] := by
  simp [collectProviderSlot, ProviderCollection.setState, sortByKey]

@[simp] theorem collectProviderSlot_edges (slot : ProviderSlot) (reading : HostReading) :
    (collectProviderSlot slot reading).edges = reading.edges := by
  simp [collectProviderSlot, ProviderCollection.setState]

inductive ProviderCollectionOutcome
  | collected (collection : ProviderCollection)
  | inFlight
  | failed
  | timedOut

/-- What the blocking worker of a slot returned. -/
inductive WorkerResult
  | collected (reading : HostReading)
  | failed
  | timedOut

def providerCollectionOutcome (slot : ProviderSlot) : WorkerResult → ProviderCollectionOutcome
  | .collected reading => .collected (collectProviderSlot slot reading)
  | .failed => .failed
  | .timedOut => .timedOut

/-- Sample topology is no observation: without Docker no evidence attests it. -/
def runtimeMapFromCollection (snapshot : DockerSnapshot) (collection : ProviderCollection)
    (dockerObservationRevision : String) (mode : RuntimeMode) : RuntimeMap :=
  let runtimeMap := deriveRuntimeMap snapshot collection.nodes collection.edges
    collection.diagnostics dockerObservationRevision
  redactRuntimeMap
    (if mode = .docker then runtimeMap
    else { runtimeMap with
      edges := runtimeMap.edges.map fun edge => { edge with evidenceRefs := [] } })

end DockerMap
