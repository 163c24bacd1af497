import DockerMap.Lib.Binary64Sum
import DockerMap.Web.AtlasLayout

/-! The bounded planner of the connectors that a lens draws over the layout. -/

namespace DockerMap.Web.Atlas

open JavaScript (codeUnits)
open StableSort (sortBy)

namespace Routing

def inputCandidates : ℕ := 80
def maxModelSubjects : ℕ := 250
def maxModelRelations : ℕ := 400
def maxModelAttachments : ℕ := 400
def maxEvidencePerRecord : ℕ := 8
def regionWidth : ℕ := 494
def regionHeight : ℕ := 222
def regionClearance : ℕ := 18

end Routing

/-! Vocabulary -/

inductive AtlasRoutingLens | overview | connectivity | dependencies | storage | runtime | attention
  deriving DecidableEq

inductive AtlasRouteClass
  | declaration
  | networkAttachment
  | storageAttachment
  | portAttachment
  | daemonStateAttachment
  deriving DecidableEq

def AtlasRouteClass.wireName : AtlasRouteClass → String
  | .declaration => "declaration"
  | .networkAttachment => "network_attachment"
  | .storageAttachment => "storage_attachment"
  | .portAttachment => "port_attachment"
  | .daemonStateAttachment => "daemon_state_attachment"

/-- A number that is missing or not finite is `none`. -/
structure AtlasRoutingViewport where
  x : Option ℚ
  y : Option ℚ
  width : Option ℚ
  height : Option ℚ

structure AtlasRoutingInput where
  lens : AtlasRoutingLens
  selected : Option String := none
  viewport : Option AtlasRoutingViewport := none

structure AtlasRouteSegment where
  x1 : ℚ
  y1 : ℚ
  x2 : ℚ
  y2 : ℚ
  deriving DecidableEq

structure AtlasPlannedRoute where
  key : String
  source : String
  target : String
  routeClass : AtlasRouteClass
  segments : List AtlasRouteSegment
  bundlePopulation : ℕ
  selected : Bool

structure AtlasRouteMetrics where
  connectors : ℕ := 0
  segments : ℕ := 0
  crossings : ℕ := 0
  maxRegionConnectors : ℕ := 0
  maxRegionSegments : ℕ := 0
  maxRegionCrossings : ℕ := 0
  viewportConnectors : ℕ := 0
  viewportSegments : ℕ := 0
  viewportCrossings : ℕ := 0

structure AtlasRoutingPlan where
  routes : List AtlasPlannedRoute := []
  population : AtlasPopulation := ⟨0, 0, 0, 0⟩
  metrics : AtlasRouteMetrics := {}

structure Candidate where
  source : String
  target : String
  routeClass : AtlasRouteClass
  evidenceKey : String
  selected : Bool
  bundlePopulation : ℕ

structure Budget where
  connectors : ℕ := 0
  segments : ℕ := 0
  crossings : ℕ := 0

/-! Candidates -/

/-- A collection within its cap. -/
def dataArray {α : Type*} (cap : ℕ) (items : List α) : Option (List α) :=
  if cap < items.length then none else some items

def safePoint (point : AtlasPoint) : Option AtlasPoint :=
  if 0 < point.width ∧ 0 < point.height then some point else none

def safeEvidence (evidence : List AtlasEdgeEvidenceSourceRef) : Bool :=
  0 < evidence.length && evidence.length ≤ Routing.maxEvidencePerRecord

def routeEvidenceKey (evidence : List AtlasEdgeEvidenceSourceRef) : String :=
  String.intercalate "\u0002"
    (sortBy codeUnits (evidence.map (·.evidence.canonicalEvidenceKey)))

def declares (relation : AtlasRelation) (entry : AtlasEdgeEvidenceSourceRef) : Bool :=
  let evidence := entry.evidence
  let systemd := evidence.provider == .systemd && evidence.version == 2 &&
    evidence.assertionKind == .declared && evidence.providerSlot == .slot .systemd &&
    evidence.subjectRef == relation.source &&
    ((evidence.kind == .systemdRequires && entry.relationship == "requires") ||
      (evidence.kind == .systemdWants && entry.relationship == "wants") ||
      (evidence.kind == .systemdPartOf && entry.relationship == "part_of"))
  let docker := evidence.provider == .docker && evidence.version == 1 &&
    evidence.assertionKind == .observed && evidence.freshness == .fresh && evidence.hasNoSlot &&
    evidence.subjectRef == relation.source && evidence.kind == .dockerComposeDependsOn &&
    entry.relationship == "depends_on"
  entry.source == relation.source && entry.target == relation.target && (systemd || docker)

def declarationClass (relation : AtlasRelation) : Option AtlasRouteClass :=
  (dataArray Routing.maxEvidencePerRecord relation.evidence).bind fun evidence =>
    if relation.rule ≠ relationRule ∨ relation.direction ≠ "forward" ∨ !safeEvidence evidence then
      none
    else if evidence.all (declares relation) then some .declaration
    else none

def classifyAttachment (attachment : AtlasAttachment) (entry : AtlasEdgeEvidenceSourceRef) :
    Option AtlasRouteClass :=
  let evidence := entry.evidence
  if entry.source ≠ attachment.subject ∨ entry.target ≠ attachment.context ∨
      evidence.provider ≠ .docker ∨ evidence.version ≠ 1 ∨ evidence.assertionKind ≠ .observed ∨
      evidence.freshness ≠ .fresh ∨ !evidence.hasNoSlot ∨
      evidence.subjectRef ≠ attachment.subject then none
  else if evidence.kind = .dockerNetworkMembership ∧ entry.relationship = "connected_to" then
    some .networkAttachment
  else if evidence.kind = .dockerVolumeMount ∧ entry.relationship = "mounts" then
    some .storageAttachment
  else if evidence.kind = .dockerPortPublication ∧ entry.relationship = "exposes" then
    some .portAttachment
  else if evidence.kind = .dockerDaemonStateBindMount ∧
      entry.relationship = "exposes_daemon_state" then some .daemonStateAttachment
  else none

/-- One class for all of the evidence. -/
def attachmentClass (attachment : AtlasAttachment) : Option AtlasRouteClass :=
  (dataArray Routing.maxEvidencePerRecord attachment.evidence).bind fun evidence =>
    if attachment.rule ≠ attachmentRule ∨ !safeEvidence evidence then none
    else
      (evidence.head?.bind (classifyAttachment attachment)).filter fun first =>
        evidence.all fun entry => classifyAttachment attachment entry == some first

/-- The views of state never draw a connector. -/
def lensAccepts : AtlasRoutingLens → AtlasRouteClass → Bool
  | .dependencies, routeClass => routeClass == .declaration
  | .connectivity, routeClass => routeClass == .networkAttachment ||
      routeClass == .portAttachment || routeClass == .daemonStateAttachment
  | .storage, routeClass => routeClass == .storageAttachment
  | .overview, _ | .runtime, _ | .attention, _ => false

/-- What a relation or an attachment comes to. -/
inductive Connector
  | skipped
  | unresolved
  | candidate (candidate : Candidate)

def Connector.candidate? : Connector → Option Candidate
  | .candidate found => some found
  | .skipped | .unresolved => none

def Connector.isUnresolved : Connector → Bool
  | .unresolved => true
  | .skipped | .candidate _ => false

section

variable (input : AtlasRoutingInput) (routable : List String)
  (points : InsertionMap String AtlasPoint)

def hasPoint (key : String) : Bool := routable.contains key && (points.get? key).isSome

def connector (routeClass : Option AtlasRouteClass) (source target : String)
    (evidence : List AtlasEdgeEvidenceSourceRef) : Connector :=
  match routeClass with
  | none => .skipped
  | some routeClass =>
      if !lensAccepts input.lens routeClass then .skipped
      else if !(hasPoint routable points source && hasPoint routable points target) then
        .unresolved
      else if !safeEvidence evidence then .skipped
      else
        .candidate {
          source, target, routeClass, evidenceKey := routeEvidenceKey evidence
          selected := input.selected == some source || input.selected == some target
          bundlePopulation := 1 }

def relationConnector (relation : AtlasRelation) : Connector :=
  connector input routable points (declarationClass relation) relation.source relation.target
    relation.evidence

def attachmentConnector (attachment : AtlasAttachment) : Connector :=
  connector input routable points (attachmentClass attachment) attachment.subject
    attachment.context attachment.evidence

end

/-- What the candidates are sorted by, the selected ones first. -/
def candidateSortKey (candidate : Candidate) : List (List ℕ) :=
  [if candidate.selected then [] else [1], codeUnits candidate.routeClass.wireName,
    codeUnits candidate.source, codeUnits candidate.target, codeUnits candidate.evidenceKey]

/-- Neighbours of one class and the same ends are one connector. -/
def bundle (canonical : List Candidate) (candidate : Candidate) : List Candidate :=
  match canonical.getLast? with
  | none => [candidate]
  | some previous =>
      if previous.routeClass = candidate.routeClass ∧ previous.source = candidate.source ∧
          previous.target = candidate.target then
        canonical.dropLast ++ [{ previous with bundlePopulation := previous.bundlePopulation + 1 }]
      else canonical ++ [candidate]

/-! Regions -/

def caps (subjects : ℕ) : Budget :=
  if subjects ≤ 25 then { connectors := 24, crossings := 4, segments := 72 }
  else { connectors := 80, crossings := 12, segments := 240 }

def regionCaps (subjects : ℕ) : Budget :=
  if subjects ≤ 25 then { connectors := 12, crossings := 2, segments := 36 }
  else { connectors := 16, crossings := 3, segments := 48 }

inductive RegionKey
  | tile (lane row : ℤ)
  | viewport
  deriving DecidableEq

def intText (n : ℤ) : String :=
  (if n < 0 then "-" else "") ++ String.ofList (Nat.toDigits 10 n.natAbs)

def RegionKey.text : RegionKey → String
  | .tile lane row => intText lane ++ ":" ++ intText row
  | .viewport => "viewport"

structure Region where
  key : RegionKey
  x : ℚ
  y : ℚ
  width : ℚ
  height : ℚ

/-- The tile of a card: lanes are 608 wide, and tiles five rows high. -/
def regionFor (point : AtlasPoint) : ℤ × ℤ := (⌊point.x / 608⌋, ⌊point.y / 240⌋)

def tileRegion (tile : ℤ × ℤ) : Region where
  key := .tile tile.1 tile.2
  x := tile.1 * 608 - Routing.regionClearance
  y := tile.2 * 240 - Routing.regionClearance
  width := Routing.regionWidth + Routing.regionClearance * 2
  height := Routing.regionHeight + Routing.regionClearance * 2

/-- The region of each tile that has a card, once. -/
def regionsFor (points : List AtlasPoint) : List Region :=
  sortBy (fun region => codeUnits region.key.text) ((points.map regionFor).dedup.map tileRegion)

def segmentIntersects (segment : AtlasRouteSegment) (region : Region) : Bool :=
  region.x ≤ max segment.x1 segment.x2 &&
    (min segment.x1 segment.x2 : ℚ) ≤ Binary64.sum region.x region.width &&
    region.y ≤ max segment.y1 segment.y2 &&
    (min segment.y1 segment.y2 : ℚ) ≤ Binary64.sum region.y region.height

def routeRegionUsage (segments : List AtlasRouteSegment) (regions : List Region) :
    List (RegionKey × ℕ) :=
  regions.filterMap fun region =>
    let here := segments.countP fun segment => segmentIntersects segment region
    if here = 0 then none else some (region.key, here)

/-! Geometry -/

/-- Bounds are strict: a segment may run along a border. -/
def segmentHitsInterior (segment : AtlasRouteSegment) (box : AtlasPoint) : Bool :=
  if segment.x1 = segment.x2 then
    box.x < segment.x1 && segment.x1 < box.x + box.width &&
      max (min segment.y1 segment.y2) box.y <
        min (max segment.y1 segment.y2) (box.y + box.height)
  else if segment.y1 = segment.y2 then
    box.y < segment.y1 && segment.y1 < box.y + box.height &&
      max (min segment.x1 segment.x2) box.x <
        min (max segment.x1 segment.x2) (box.x + box.width)
  else true

/-- The last point of a subject counts. -/
def pointMap (points : List AtlasPoint) : InsertionMap String AtlasPoint :=
  points.foldl (fun points point => points.set point.subject point) ∅

def legal (segments : List AtlasRouteSegment) (source target : String)
    (points : InsertionMap String AtlasPoint) : Bool :=
  points.entries.all fun entry => entry.1 == source || entry.1 == target ||
    !segments.any fun segment => segmentHitsInterior segment entry.2

def least : List ℚ → ℚ
  | [] => 0
  | value :: values => values.foldl min value

def greatest : List ℚ → ℚ
  | [] => 0
  | value :: values => values.foldl max value

/-- The straight way, or else around the cards on one of the four sides. -/
def routeGeometry (source target : AtlasPoint) (allPoints : List AtlasPoint)
    (sourceKey targetKey : String) (offset : ℕ) : Option (List AtlasRouteSegment) :=
  let startX := source.x + source.width / 2
  let startY := source.y + source.height / 2
  let endX := target.x + target.width / 2
  let endY := target.y + target.height / 2
  let points := pointMap allPoints
  let direct : List AtlasRouteSegment := [⟨startX, startY, endX, endY⟩]
  if (startX = endX ∨ startY = endY) ∧ legal direct sourceKey targetKey points then some direct
  else
    let minX := least (allPoints.map (·.x)) - 18 - offset
    let maxX := greatest (allPoints.map fun point => point.x + point.width) + 18 + offset
    let minY := least (allPoints.map (·.y)) - 18 - offset
    let maxY := greatest (allPoints.map fun point => point.y + point.height) + 18 + offset
    let choices : List (List AtlasRouteSegment) := [
      [⟨startX, startY, minX, startY⟩, ⟨minX, startY, minX, endY⟩, ⟨minX, endY, endX, endY⟩],
      [⟨startX, startY, maxX, startY⟩, ⟨maxX, startY, maxX, endY⟩, ⟨maxX, endY, endX, endY⟩],
      [⟨startX, startY, startX, minY⟩, ⟨startX, minY, endX, minY⟩, ⟨endX, minY, endX, endY⟩],
      [⟨startX, startY, startX, maxY⟩, ⟨startX, maxY, endX, maxY⟩, ⟨endX, maxY, endX, endY⟩]]
    choices.find? fun candidate => legal candidate sourceKey targetKey points

/-! Crossings -/

def strictBetween (value first second : ℚ) : Bool :=
  min first second < value && value < max first second

/-- Parallel segments do not cross. -/
def segmentCrosses (left right : AtlasRouteSegment) : Bool :=
  let leftVertical := left.x1 == left.x2
  let rightVertical := right.x1 == right.x2
  if leftVertical == rightVertical then false
  else
    let vertical := if leftVertical then left else right
    let horizontal := if leftVertical then right else left
    strictBetween vertical.x1 horizontal.x1 horizontal.x2 &&
      strictBetween horizontal.y1 vertical.y1 vertical.y2

def crossingsWith (candidate : List AtlasRouteSegment) (routes : List AtlasPlannedRoute) : ℕ :=
  (candidate.map fun segment =>
    (routes.map fun route => route.segments.countP (segmentCrosses segment)).sum).sum

def segmentTotal (routes : List AtlasPlannedRoute) : ℕ :=
  (routes.map fun route => route.segments.length).sum

/-- Each route with the routes before it. -/
def crossingTotal (routes : List AtlasPlannedRoute) : ℕ :=
  (routes.mapIdx fun index route => crossingsWith route.segments (routes.take index)).sum

def metrics (routes : List AtlasPlannedRoute) (regionUse : InsertionMap RegionKey Budget)
    (viewportUse : Budget) : AtlasRouteMetrics where
  connectors := routes.length
  segments := segmentTotal routes
  crossings := crossingTotal routes
  maxRegionConnectors := (regionUse.entries.map (·.2.connectors)).foldl max 0
  maxRegionSegments := (regionUse.entries.map (·.2.segments)).foldl max 0
  maxRegionCrossings := (regionUse.entries.map (·.2.crossings)).foldl max 0
  viewportConnectors := viewportUse.connectors
  viewportSegments := viewportUse.segments
  viewportCrossings := viewportUse.crossings

/-! The plan -/

/-- What the loop reads. -/
structure RoutingContext where
  points : InsertionMap String AtlasPoint
  total : Budget
  regionLimit : Budget
  regions : List Region
  viewport : Region

structure RoutingState where
  routes : List AtlasPlannedRoute := []
  regionUse : InsertionMap RegionKey Budget := ∅
  viewportUse : Budget := {}
  omitted : ℕ

def Budget.charge (budget : Budget) (segments crossings : ℕ) : Budget where
  connectors := budget.connectors + 1
  segments := budget.segments + segments
  crossings := budget.crossings + crossings

def Budget.exceeds (budget limit : Budget) : Bool :=
  limit.connectors < budget.connectors || limit.segments < budget.segments ||
    limit.crossings < budget.crossings

def usedBy (regionUse : InsertionMap RegionKey Budget) (key : RegionKey) : Budget :=
  (regionUse.get? key).getD {}

def chargeRegions (crossings : ℕ) (regionUse : InsertionMap RegionKey Budget)
    (usage : List (RegionKey × ℕ)) : InsertionMap RegionKey Budget :=
  usage.foldl
    (fun regionUse entry =>
      regionUse.set entry.1 ((usedBy regionUse entry.1).charge entry.2 crossings))
    regionUse

/-- Both ends of a candidate have a point. -/
def candidateGeometry (context : RoutingContext) (state : RoutingState) (candidate : Candidate) :
    Option (List AtlasRouteSegment) :=
  (context.points.get? candidate.source).bind fun source =>
    (context.points.get? candidate.target).bind fun target =>
      routeGeometry source target (context.points.entries.map Prod.snd) candidate.source
        candidate.target (state.routes.length % 8 * 3)

def planCandidate (context : RoutingContext) (state : RoutingState) (candidate : Candidate) :
    RoutingState :=
  let dropped := { state with omitted := state.omitted + 1 }
  if context.total.connectors ≤ state.routes.length then dropped
  else
    match candidateGeometry context state candidate with
    | none => dropped
    | some geometry =>
        let crossings := crossingsWith geometry state.routes
        let usage := routeRegionUsage geometry context.regions
        let viewportSegments := geometry.countP fun segment =>
          segmentIntersects segment context.viewport
        let charged := state.viewportUse.charge viewportSegments crossings
        if usage.any (fun entry => ((usedBy state.regionUse entry.1).charge entry.2
              crossings).exceeds context.regionLimit) ||
            0 < viewportSegments && charged.exceeds context.total then dropped
        else if context.total.segments < segmentTotal state.routes + geometry.length ∨
            context.total.crossings < crossingTotal state.routes + crossings then dropped
        else
          { state with
            routes := state.routes ++ [
              { key := "atlas-route:" ++ String.ofList (Nat.toDigits 10 state.routes.length)
                source := candidate.source
                target := candidate.target
                routeClass := candidate.routeClass
                segments := geometry
                bundlePopulation := candidate.bundlePopulation
                selected := candidate.selected }]
            regionUse := chargeRegions crossings state.regionUse usage
            viewportUse := if 0 < viewportSegments then charged else state.viewportUse }

/-- The viewport of the caller, or all of the regions. -/
def viewportRegion (viewport : Option AtlasRoutingViewport) (regions : List Region) : Region :=
  let minX := least (regions.map (·.x))
  let minY := least (regions.map (·.y))
  let maxX := greatest (regions.map fun region => region.x + region.width)
  let maxY := greatest (regions.map fun region => region.y + region.height)
  { key := .viewport
    x := (viewport.bind (·.x)).getD minX
    y := (viewport.bind (·.y)).getD minY
    width := ((viewport.bind (·.width)).filter (0 < ·)).getD (maxX - minX)
    height := ((viewport.bind (·.height)).filter (0 < ·)).getD (maxY - minY) }

def routableKeysOf (model : AtlasModel) : List String :=
  ((model.subjects.filter fun subject => subject.routable && subject.ambiguity == .none).map
    AtlasSubject.key).dedup

def planAtlasRoutes (model : AtlasModel) (layout : AtlasLayout) (input : AtlasRoutingInput) :
    AtlasRoutingPlan :=
  if input.lens = .overview ∨ Routing.maxModelSubjects < model.subjects.length ∨
      Routing.maxModelSubjects < layout.points.length ∨
      Routing.maxModelRelations < model.relations.length ∨
      Routing.maxModelAttachments < model.attachments.length then {}
  else
    let routable := routableKeysOf model
    let validPoints := layout.points.filterMap safePoint
    if validPoints.length ≠ layout.points.length then {}
    else
      let points := pointMap (validPoints.filter fun point => routable.contains point.subject)
      if points.size ≠ routable.length then {}
      else
        let connectors := model.relations.map (relationConnector input routable points) ++
          model.attachments.map (attachmentConnector input routable points)
        let ordered := sortBy candidateSortKey (connectors.filterMap Connector.candidate?)
        let canonical := (ordered.take Routing.inputCandidates).foldl bundle []
        let regions := regionsFor validPoints
        if regions = [] then {}
        else
          let final := canonical.foldl
            (planCandidate
              { points
                total := caps model.subjects.length
                regionLimit := regionCaps model.subjects.length
                regions
                viewport := viewportRegion input.viewport regions })
            { omitted := ordered.length - canonical.length }
          { routes := final.routes
            population :=
              { resolved := final.routes.length
                unresolved := connectors.countP Connector.isUnresolved
                ambiguous := 0
                omitted := final.omitted }
            metrics := metrics final.routes final.regionUse final.viewportUse }

def routeAvoidsSubjectInteriors (route : AtlasPlannedRoute) (layout : AtlasLayout) : Bool :=
  legal route.segments route.source route.target (pointMap layout.points)

end DockerMap.Web.Atlas
