import DockerMap.Lib.FormRoundTrip
import DockerMap.Lib.UriComponent
import DockerMap.Lib.Utf16
import DockerMap.Web.AtlasRouting

/-! The route state of the Atlas in the query of its URL. A search text is a list of UTF-16 code
units, as the browser hands it over. -/

namespace DockerMap.Web.Atlas

open JavaScript (codeUnits decodeUriComponent)

namespace Interaction

def maxSearchLength : ℕ := 768
def maxParameters : ℕ := 3
def maxOversizeScanCharacters : ℕ := 4096
def maxOversizeScanParameters : ℕ := 32
def safeKeyLength : ℕ := 360

/-- A letter, a digit or one of `_.:-`. -/
def isSafeUnit (unit : ℕ) : Bool :=
  (0x41 ≤ unit && unit ≤ 0x5A) || (0x61 ≤ unit && unit ≤ 0x7A) || (0x30 ≤ unit && unit ≤ 0x39) ||
    [0x5F, 0x2E, 0x3A, 0x2D].contains unit

def safeKey (value : Option (List ℕ)) : Option (List ℕ) :=
  value.filter fun text => text ≠ [] ∧ text.length ≤ safeKeyLength ∧ text.all isSafeUnit

end Interaction

/-! Lenses -/

def AtlasRoutingLens.wireName : AtlasRoutingLens → String
  | .overview => "overview"
  | .connectivity => "connectivity"
  | .dependencies => "dependencies"
  | .storage => "storage"
  | .runtime => "runtime"
  | .attention => "attention"

def atlasLenses : List AtlasRoutingLens :=
  [.overview, .connectivity, .dependencies, .storage, .runtime, .attention]

def atlasRouteLens : AtlasRoutingLens := .overview

/-- `isAtlasLens`, with the lens that it finds. -/
def atlasLens? (value : List ℕ) : Option AtlasRoutingLens :=
  atlasLenses.find? fun lens => codeUnits lens.wireName = value

/-! Route state -/

inductive AtlasFocusTarget | directory | subject | aggregate
  deriving DecidableEq

structure AtlasRouteState where
  lens : AtlasRoutingLens
  selectedKey : Option String
  expandedKey : Option String
  focusTarget : AtlasFocusTarget
  deriving DecidableEq

structure AtlasRouteParseResult where
  state : AtlasRouteState
  rejectedSubject : Bool
  rejectedExpansion : Bool
  rejectedLens : Bool
  deriving DecidableEq

structure AtlasRouteIntent where
  lens : Option (List ℕ) := none
  selectedKey : Option (List ℕ) := none
  expandedKey : Option (List ℕ) := none

def defaultState : AtlasRouteState where
  lens := atlasRouteLens
  selectedKey := none
  expandedKey := none
  focusTarget := .directory

def selectedSubject (model : AtlasModel) (key : Option (List ℕ)) : Option AtlasSubject :=
  (key.filter (· ≠ [])).bind fun text =>
    model.subjects.find? fun subject => subject.routable && codeUnits subject.key = text

def actualSelection (model : AtlasModel) (value : Option (List ℕ)) : Option String :=
  (selectedSubject model (Interaction.safeKey value)).map AtlasSubject.key

/-- The groups of a model are empty, so that only an aggregate expands. -/
def actualExpansion (model : AtlasModel) (value : Option (List ℕ)) :
    Option (String × AtlasFocusTarget) :=
  (Interaction.safeKey value).bind fun text =>
    (model.aggregates.find? fun aggregate => codeUnits aggregate.key = text).map fun aggregate =>
      (aggregate.key, .aggregate)

def focusTarget (selectedKey : Option String) (expansion : Option (String × AtlasFocusTarget)) :
    AtlasFocusTarget :=
  match expansion with
  | some found => found.2
  | none => if (selectedKey.filter (· ≠ "")).isSome then .subject else .directory

/-! Oversized texts -/

/-- Without the question mark that it may begin with. -/
def dropMark {α : Type*} [DecidableEq α] (mark : α) (text : List α) : List α :=
  if text.head? = some mark then text.tail else text

/-- A text that is too long is only looked at for names. -/
def hasExactParameter (search : List ℕ) (name : String) : Bool :=
  let bounded := dropMark 0x3F (search.take Interaction.maxOversizeScanCharacters)
  ((bounded.splitOnP (· == 0x26)).take Interaction.maxOversizeScanParameters).any fun part =>
    decodeUriComponent ((part.takeWhile (· != 0x3D)).map fun unit => if unit = 0x2B then 0x20 else unit)
      == some (codeUnits name)

/-! Parameters -/

abbrev SearchParams := List (String × String)

/-- `new URLSearchParams(search)`. -/
def searchParams (search : List ℕ) : SearchParams :=
  FormEncoding.parse (FormEncoding.utf8 (dropMark '?' (JavaScript.scalars search)))

namespace SearchParams

variable (params : SearchParams)

def getAll (name : String) : List String := (params.filter fun pair => pair.1 = name).map Prod.snd

def has (name : String) : Bool := params.any fun pair => pair.1 = name

end SearchParams

/-- Default and empty values are left out. -/
def stateParams (state : AtlasRouteState) : SearchParams :=
  (if state.lens ≠ atlasRouteLens then [("lens", state.lens.wireName)] else []) ++
    (state.selectedKey.filter (· ≠ "")).toList.map (fun key => ("subject", key)) ++
    (state.expandedKey.filter (· ≠ "")).toList.map fun key => ("expand", key)

def encodedSearch (state : AtlasRouteState) : List ℕ :=
  let value := FormEncoding.serialize (stateParams state)
  if value = [] then [] else codeUnits (String.ofList ('?' :: value))

/-- What is rejected as a whole, with the names that it has. -/
def rejectedSearch (has : String → Bool) (rejectedLens : Bool) : AtlasRouteParseResult where
  state := defaultState
  rejectedSubject := has "subject"
  rejectedExpansion := has "expand"
  rejectedLens := rejectedLens

def parseAtlasSearch (search : List ℕ) (model : AtlasModel) : AtlasRouteParseResult :=
  if Interaction.maxSearchLength < search.length then
    rejectedSearch (hasExactParameter search) (hasExactParameter search "lens")
  else
    let params := searchParams search
    if Interaction.maxParameters < params.length then rejectedSearch params.has (params.has "lens")
    else if params.any fun pair => pair.1 ∉ ["lens", "subject", "expand"] then
      rejectedSearch params.has true
    else
      let lensValues := params.getAll "lens"
      let subjectValues := params.getAll "subject"
      let expansionValues := params.getAll "expand"
      let requestedLens := (lensValues.head?.map codeUnits).getD (codeUnits atlasRouteLens.wireName)
      match if lensValues.length ≤ 1 ∧ requestedLens ≠ [] then atlasLens? requestedLens else none with
      | none =>
          { state := defaultState
            rejectedSubject := 0 < subjectValues.length
            rejectedExpansion := 0 < expansionValues.length
            rejectedLens := true }
      | some lens =>
          let selectedKey := if subjectValues.length = 1 then
            actualSelection model (subjectValues.head?.map codeUnits) else none
          let expansion := if expansionValues.length = 1 then
            actualExpansion model (expansionValues.head?.map codeUnits) else none
          { state :=
              { lens
                selectedKey
                expandedKey := expansion.map Prod.fst
                focusTarget := focusTarget selectedKey expansion }
            rejectedSubject := 1 < subjectValues.length ||
              (subjectValues.length == 1 && (selectedKey.filter (· ≠ "")).isNone)
            rejectedExpansion := 1 < expansionValues.length ||
              (expansionValues.length == 1 && ((expansion.map Prod.fst).filter (· ≠ "")).isNone)
            rejectedLens := false }

/-- The state that an intent comes to in a model. -/
def intendedState (model : AtlasModel) (intent : AtlasRouteIntent) : AtlasRouteState :=
  let selectedKey := actualSelection model intent.selectedKey
  let expansion := actualExpansion model intent.expandedKey
  { lens := (intent.lens.bind atlasLens?).getD atlasRouteLens
    selectedKey
    expandedKey := expansion.map Prod.fst
    focusTarget := focusTarget selectedKey expansion }

def serializeAtlasState (model : AtlasModel) (intent : AtlasRouteIntent) : List ℕ :=
  encodedSearch (intendedState model intent)

/-! Reconciliation -/

/-- A state is an intent as well. -/
def AtlasRouteState.intent (state : AtlasRouteState) : AtlasRouteIntent where
  lens := some (codeUnits state.lens.wireName)
  selectedKey := state.selectedKey.map codeUnits
  expandedKey := state.expandedKey.map codeUnits

def canonicalSearch (model : AtlasModel) (search : List ℕ) : List ℕ :=
  serializeAtlasState model (parseAtlasSearch search model).state.intent

/-- The effect of `useAtlasState`: the search that it navigates to, if it does. -/
def reconciliation (model : AtlasModel) (search : List ℕ) : Option (List ℕ) :=
  let canonical := canonicalSearch model search
  if canonical = search then none else some canonical

end DockerMap.Web.Atlas
