import DockerMap.Web.AtlasProjection
import DockerMap.Web.PublishedModel

/-! The browser's resources and the model it composes from them. A fetch belongs to an effect;
when an effect runs again it aborts the fetch of the one before. What a fetch brings is any
body, or any failure, at any time. -/

namespace DockerMap.Web

open Atlas (AtlasModel AtlasRuntimeMapInput FindingsOverlay UnicodeTables)

/-! Where bytes come from -/

inductive EvidenceMode | live | mock | demo
  deriving DecidableEq, Repr

inductive ModelProvenance | demo | mock | live
  deriving DecidableEq, Repr

def modelProvenanceForMode : Option EvidenceMode → Option ModelProvenance
  | some .demo => some .demo
  | some .mock => some .mock
  | some .live => some .live
  | none => none

/-- Demo Mode is looked at first. -/
def resolveEvidenceMode (demoMode : Bool) (healthMode : Option RuntimeMode) :
    Option EvidenceMode :=
  if demoMode then some .demo
  else
    match healthMode with
    | some .docker => some .live
    | some .mock => some .mock
    | none => none

/-! One resource -/

structure ResourceState (α : Type) where
  data : Option α := none
  error : Option String := none
  loading : Bool := true
  generation : ℕ := 0
  provenance : Option ModelProvenance := none
  deriving DecidableEq

/-- The dependencies of the effect. Only a resource of the model requests a provenance, which
may be unresolved. -/
structure EffectDeps where
  refreshTick : ℕ
  demoMode : Bool
  requestedProvenance : Option (Option ModelProvenance)
  enabled : Bool
  deriving DecidableEq

/-- A fetch that was neither settled nor aborted: its attempt and what it was requested under. -/
structure Request where
  attempt : ℕ
  deps : EffectDeps
  deriving DecidableEq

namespace Request

def demoModeAtRequest (request : Request) : Bool := request.deps.demoMode

def isModelResource (request : Request) : Bool := request.deps.requestedProvenance.isSome

/-- Outside Demo Mode the stamp of the bytes decides, not what was requested. -/
def actualProvenance (request : Request) (stamped : Option RuntimeMode) :
    Option ModelProvenance :=
  if request.demoModeAtRequest then some .demo
  else
    match stamped with
    | some .docker => some .live
    | some .mock => some .mock
    | none => if request.isModelResource then none else some .live

end Request

structure ApiResource (α : Type) where
  state : ResourceState α := {}
  attempt : ℕ := 0
  deps : Option EffectDeps := none
  request : Option Request := none
  deriving DecidableEq

namespace ApiResource

variable {α : Type} (sourceOf : α → Option RuntimeMode) (resource : ApiResource α)

/-- The effect, run when a dependency changed. -/
def runEffect (deps : EffectDeps) : ApiResource α :=
  if resource.deps = some deps then resource
  else if deps.enabled then
    { state := { resource.state with loading := true, error := none }
      attempt := resource.attempt + 1
      deps := some deps
      request := some ⟨resource.attempt + 1, deps⟩ }
  else
    { state := { loading := false }
      attempt := resource.attempt
      deps := some deps
      request := none }

/-- A body is `none` where the response is `null`. Data outlives a failure. -/
def receive (request : Request) : Except String (Option α) → ResourceState α
  | .ok data =>
      { data := data
        error := none
        loading := false
        generation := request.attempt
        provenance := request.actualProvenance (data.bind sourceOf) }
  | .error message => { resource.state with error := some message, loading := false }

/-- The fetch of an attempt settles; an aborted one changes nothing. -/
def settle (attempt : ℕ) (result : Except String (Option α)) : ApiResource α :=
  match resource.request with
  | some request =>
      if request.attempt = attempt then
        { resource with state := resource.receive sourceOf request result, request := none }
      else resource
  | none => resource

end ApiResource

/-! The composed model -/

structure AtlasEnvelope where
  sourceRevision : String
  model : AtlasModel

/-- The payload of a map as the projection reads it. -/
def atlasInput (runtimeMap : RuntimeMap) : AtlasRuntimeMapInput where
  modelRevision := runtimeMap.modelRevision
  nodes := runtimeMap.nodes.map Json.encode
  edges := runtimeMap.edges.map Json.encode
  providerStates := some (Json.encode runtimeMap.providerStates)

def findingsOverlay (findings : FindingsResponse) : FindingsOverlay where
  modelRevision := findings.modelRevision
  findings := findings.findings.map Json.encode

def projectAtlas (unicode : UnicodeTables) (runtimeMap : RuntimeMap)
    (findings : Option FindingsResponse) : AtlasEnvelope where
  sourceRevision := runtimeMap.modelRevision
  model := Atlas.projectRuntimeMap unicode (atlasInput runtimeMap) (findings.map findingsOverlay)

def sameNonEmptyModelRevision (snapshotRevision runtimeRevision : String) : Bool :=
  snapshotRevision ≠ "" && snapshotRevision == runtimeRevision

/-- What the memos of the model depend on. -/
structure PairDeps where
  snapshot : Option DockerSnapshot
  snapshotGeneration : ℕ
  snapshotProvenance : Option ModelProvenance
  runtimeMap : Option RuntimeMap
  runtimeMapGeneration : ℕ
  runtimeMapProvenance : Option ModelProvenance
  deriving DecidableEq

/-- The pair that a model may be built from. -/
def PairDeps.coherent (pair : PairDeps) : Option (DockerSnapshot × RuntimeMap) :=
  match pair.snapshot, pair.runtimeMap with
  | some snapshot, some runtimeMap =>
      if pair.snapshotGeneration ≠ pair.runtimeMapGeneration then none
      else if pair.snapshotProvenance ≠ pair.runtimeMapProvenance then none
      else if sameNonEmptyModelRevision snapshot.modelRevision runtimeMap.modelRevision then
        some (snapshot, runtimeMap)
      else none
  | _, _ => none

structure AtlasDeps extends PairDeps where
  findings : Option FindingsResponse
  findingsGeneration : ℕ
  findingsProvenance : Option ModelProvenance
  includeFindings : Bool
  deriving DecidableEq

/-- The findings that attest the publication of a revision. -/
def AtlasDeps.findingsFor (deps : AtlasDeps) (revision : String) : Option FindingsResponse :=
  deps.findings.filter fun findings =>
    deps.includeFindings && deps.snapshotProvenance == some .live &&
      deps.findingsGeneration == deps.snapshotGeneration &&
      deps.findingsProvenance == deps.snapshotProvenance &&
      sameNonEmptyModelRevision findings.modelRevision revision

/-- A value kept from the render that had these dependencies. -/
structure Memo (δ β : Type) where
  deps : δ
  value : β

/-- The references and the memos of the hook. -/
structure ModelRefs where
  lastModel : Option PublishedModel := none
  lastAtlas : Option AtlasEnvelope := none
  lastProvenance : Option ModelProvenance := none
  model : Option (Memo PairDeps (Option PublishedModel)) := none
  atlas : Option (Memo AtlasDeps (Option AtlasEnvelope)) := none
  provenance : Option (Memo PairDeps (Option ModelProvenance)) := none

/-- A memo serves equal dependencies. -/
def served {δ β : Type} [DecidableEq δ] (memo : Option (Memo δ β)) (deps : δ) : Option β :=
  (memo.filter fun memo => memo.deps = deps).map Memo.value

section

variable (localeCompare : String → String → ℤ) (unicode : UnicodeTables)

def renderModel (pair : PairDeps) (refs : ModelRefs) : Option PublishedModel × ModelRefs :=
  match served refs.model pair with
  | some model => (model, refs)
  | none =>
      match pair.coherent with
      | some (snapshot, runtimeMap) =>
          let built := buildPublishedModel localeCompare unicode snapshot runtimeMap
          (some built,
            { refs with
              lastModel := some built
              lastProvenance := pair.snapshotProvenance
              model := some ⟨pair, some built⟩ })
      | none => (refs.lastModel, { refs with model := some ⟨pair, refs.lastModel⟩ })

def renderAtlas (deps : AtlasDeps) (refs : ModelRefs) : Option AtlasEnvelope × ModelRefs :=
  match served refs.atlas deps with
  | some atlas => (atlas, refs)
  | none =>
      match deps.toPairDeps.coherent with
      | some (_, runtimeMap) =>
          let projected := projectAtlas unicode runtimeMap
            (deps.findingsFor runtimeMap.modelRevision)
          (some projected,
            { refs with lastAtlas := some projected, atlas := some ⟨deps, some projected⟩ })
      | none => (refs.lastAtlas, { refs with atlas := some ⟨deps, refs.lastAtlas⟩ })

/-- The findings of the atlas, where the model has the same revision. -/
def renderFindings (deps : AtlasDeps) (model : Option PublishedModel)
    (atlas : Option AtlasEnvelope) : Option FindingsResponse :=
  if atlas.map AtlasEnvelope.sourceRevision = model.map PublishedModel.modelRevision then
    atlas.bind fun atlas => deps.findingsFor atlas.sourceRevision
  else none

def provenanceOf (pair : PairDeps) (refs : ModelRefs) : Option ModelProvenance :=
  match pair.snapshot, pair.runtimeMap, pair.coherent with
  | some _, some _, some _ => pair.snapshotProvenance
  | some _, some _, none => refs.lastProvenance
  | _, _, _ => none

def renderProvenance (pair : PairDeps) (refs : ModelRefs) :
    Option ModelProvenance × ModelRefs :=
  match served refs.provenance pair with
  | some provenance => (provenance, refs)
  | none =>
      (provenanceOf pair refs,
        { refs with provenance := some ⟨pair, provenanceOf pair refs⟩ })

structure SystemModelState where
  model : Option PublishedModel
  atlas : Option AtlasEnvelope
  findings : Option FindingsResponse
  modelProvenance : Option ModelProvenance
  loading : Bool
  error : Option String

end

/-! The hook -/

/-- What a render is given. -/
structure HookInputs where
  refreshTick : ℕ
  demoMode : Bool
  evidenceMode : Option EvidenceMode
  includeFindings : Bool
  deriving DecidableEq

namespace HookInputs

variable (inputs : HookInputs)

def effectDeps (enabled : Bool) : EffectDeps where
  refreshTick := inputs.refreshTick
  demoMode := inputs.demoMode
  requestedProvenance := some (modelProvenanceForMode inputs.evidenceMode)
  enabled := enabled

end HookInputs

/-- The hook with its three resources; `rendered` is what the last render was given. -/
structure SystemModelHook where
  rendered : Option HookInputs := none
  snapshot : ApiResource DockerSnapshot := {}
  runtimeMap : ApiResource RuntimeMap := {}
  findings : ApiResource FindingsResponse := {}
  refs : ModelRefs := {}

namespace SystemModelHook

variable (hook : SystemModelHook)

def pairDeps : PairDeps where
  snapshot := hook.snapshot.state.data
  snapshotGeneration := hook.snapshot.state.generation
  snapshotProvenance := hook.snapshot.state.provenance
  runtimeMap := hook.runtimeMap.state.data
  runtimeMapGeneration := hook.runtimeMap.state.generation
  runtimeMapProvenance := hook.runtimeMap.state.provenance

def atlasDeps (includeFindings : Bool) : AtlasDeps where
  toPairDeps := hook.pairDeps
  findings := hook.findings.state.data
  findingsGeneration := hook.findings.state.generation
  findingsProvenance := hook.findings.state.provenance
  includeFindings := includeFindings

variable (localeCompare : String → String → ℤ) (unicode : UnicodeTables)

/-- One call of the hook: what it returns, and the hook after it. -/
def render (inputs : HookInputs) : SystemModelState × SystemModelHook :=
  let pair := hook.pairDeps
  let deps := hook.atlasDeps inputs.includeFindings
  let (model, refs) := renderModel localeCompare unicode pair hook.refs
  let (atlas, refs) := renderAtlas unicode deps refs
  let (provenance, refs) := renderProvenance pair refs
  ({ model := model
     atlas := atlas
     findings := renderFindings deps model atlas
     modelProvenance := provenance
     loading := hook.snapshot.state.loading || hook.runtimeMap.state.loading
     error := hook.snapshot.state.error.or hook.runtimeMap.state.error },
    { hook with rendered := some inputs, refs := refs })

/-- The effects of the last render. -/
def flushEffects : SystemModelHook :=
  match hook.rendered with
  | none => hook
  | some inputs =>
      { hook with
        snapshot := hook.snapshot.runEffect (inputs.effectDeps true)
        runtimeMap := hook.runtimeMap.runEffect (inputs.effectDeps true)
        findings := hook.findings.runEffect (inputs.effectDeps inputs.includeFindings) }

inductive Action
  | render (inputs : HookInputs)
  | flushEffects
  | settleSnapshot (attempt : ℕ) (result : Except String (Option DockerSnapshot))
  | settleRuntimeMap (attempt : ℕ) (result : Except String (Option RuntimeMap))
  | settleFindings (attempt : ℕ) (result : Except String (Option FindingsResponse))

def step : Action → SystemModelHook
  | .render inputs => (hook.render localeCompare unicode inputs).2
  | .flushEffects => hook.flushEffects
  | .settleSnapshot attempt result =>
      { hook with snapshot := hook.snapshot.settle DockerSnapshot.source attempt result }
  | .settleRuntimeMap attempt result =>
      { hook with runtimeMap := hook.runtimeMap.settle RuntimeMap.source attempt result }
  | .settleFindings attempt result =>
      { hook with findings := hook.findings.settle FindingsResponse.source attempt result }

/-- The hook after a run of actions, from its mounting. -/
def run (actions : List Action) : SystemModelHook :=
  actions.foldl (fun hook action => hook.step localeCompare unicode action) {}

end SystemModelHook

end DockerMap.Web
