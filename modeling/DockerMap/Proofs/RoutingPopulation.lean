import DockerMap.Proofs.AtlasRouting
import Mathlib.Algebra.Order.BigOperators.Group.List

/-! The population of a plan. Drawn and left out connectors make up all that a lens accepts, so
that every further record of a drawn bundle is counted twice. -/

namespace DockerMap.Web.Atlas

open StableSort (sortBy)

/-! What a lens accepts -/

def accepts (lens : AtlasRoutingLens) (routeClass : Option AtlasRouteClass) : Bool :=
  routeClass.any (lensAccepts lens)

/-- The relations and attachments that a lens accepts. -/
def acceptedRecords (model : AtlasModel) (lens : AtlasRoutingLens) : ℕ :=
  model.relations.countP (fun relation => accepts lens (declarationClass relation)) +
    model.attachments.countP fun attachment => accepts lens (attachmentClass attachment)

section

variable {input : AtlasRoutingInput} {routable : List String}
  {points : InsertionMap String AtlasPoint}

theorem connector_ne_skipped_iff {routeClass : Option AtlasRouteClass}
    {evidence : List AtlasEdgeEvidenceSourceRef}
    (h : ∀ found ∈ routeClass, safeEvidence evidence = true) (source target : String) :
    connector input routable points routeClass source target evidence ≠ .skipped ↔
      accepts input.lens routeClass = true := by
  cases routeClass with
  | none => exact iff_of_false (fun hne => hne rfl) Bool.false_ne_true
  | some found =>
    have hsafe := h found rfl
    rw [accepts, Option.any_some, connector, hsafe]
    cases lensAccepts input.lens found with
    | false => exact iff_of_false (fun hne => hne rfl) Bool.false_ne_true
    | true =>
      refine iff_of_true ?_ rfl
      rw [if_neg (by decide)]
      split_ifs with hplaced hevidence
      · exact Connector.noConfusion
      · exact absurd hevidence Bool.false_ne_true
      · exact Connector.noConfusion

theorem safeEvidence_of_declarationClass {relation : AtlasRelation} :
    ∀ found ∈ declarationClass relation, safeEvidence relation.evidence = true := by
  intro found hfound
  rw [declarationClass, dataArray, Option.mem_def, Option.bind_eq_some_iff] at hfound
  obtain ⟨evidence, hevidence, hclass⟩ := hfound
  split_ifs at hevidence hclass with hlength hrejected
  cases hevidence
  rw [not_or, not_or, Bool.not_eq_true', Bool.not_eq_false] at hrejected
  exact hrejected.2.2

theorem safeEvidence_of_attachmentClass {attachment : AtlasAttachment} :
    ∀ found ∈ attachmentClass attachment, safeEvidence attachment.evidence = true := by
  intro found hfound
  rw [attachmentClass, dataArray, Option.mem_def, Option.bind_eq_some_iff] at hfound
  obtain ⟨evidence, hevidence, hclass⟩ := hfound
  split_ifs at hevidence hclass with hlength hrejected
  cases hevidence
  rw [not_or, Bool.not_eq_true', Bool.not_eq_false] at hrejected
  exact hrejected.2

theorem count_connectors {α : Type*} {f : α → Connector} {p : α → Bool}
    (h : ∀ a, f a ≠ .skipped ↔ p a = true) (l : List α) :
    (l.map f).countP Connector.isUnresolved +
      ((l.map f).filterMap Connector.candidate?).length = l.countP p := by
  induction l with
  | nil => rfl
  | cons a l ih =>
    have ha := h a
    rw [List.map_cons, List.countP_cons, List.countP_cons, ← ih]
    cases hfa : f a with
    | skipped =>
      rw [hfa] at ha
      rw [List.filterMap_cons_none rfl, if_neg (mt ha.2 fun hne => hne rfl)]
      rfl
    | unresolved =>
      rw [hfa] at ha
      rw [List.filterMap_cons_none rfl, if_pos (ha.1 Connector.noConfusion), Connector.isUnresolved,
        if_pos rfl]
      omega
    | candidate found =>
      rw [hfa] at ha
      rw [List.filterMap_cons_some (f := Connector.candidate?) (b := found) rfl,
        if_pos (ha.1 Connector.noConfusion), Connector.isUnresolved, if_neg Bool.false_ne_true,
        List.length_cons]
      omega

end

/-! The loop -/

/-- Every budget that a way is charged to has room for it. -/
structure Fits (context : RoutingContext) (state : RoutingState)
    (geometry : List AtlasRouteSegment) : Prop where
  regions : (routeRegionUsage geometry context.regions).any (fun entry =>
    ((usedBy state.regionUse entry.1).charge entry.2
      (crossingsWith geometry state.routes)).exceeds context.regionLimit) = false
  viewport : (decide (0 < geometry.countP fun segment =>
      segmentIntersects segment context.viewport) &&
    (state.viewportUse.charge (geometry.countP fun segment =>
      segmentIntersects segment context.viewport)
      (crossingsWith geometry state.routes)).exceeds context.total) = false
  segments : segmentTotal state.routes + geometry.length ≤ context.total.segments
  crossings : crossingTotal state.routes + crossingsWith geometry state.routes ≤
    context.total.crossings

/-- The route of a candidate. -/
def routeOf (state : RoutingState) (candidate : Candidate) (geometry : List AtlasRouteSegment) :
    AtlasPlannedRoute where
  key := "atlas-route:" ++ String.ofList (Nat.toDigits 10 state.routes.length)
  source := candidate.source
  target := candidate.target
  routeClass := candidate.routeClass
  segments := geometry
  bundlePopulation := candidate.bundlePopulation
  selected := candidate.selected

/-- The state with the route of a candidate, charged to every budget. -/
def accept (context : RoutingContext) (state : RoutingState) (candidate : Candidate)
    (geometry : List AtlasRouteSegment) : RoutingState :=
  let crossings := crossingsWith geometry state.routes
  let visible := geometry.countP fun segment => segmentIntersects segment context.viewport
  { state with
    routes := state.routes ++ [routeOf state candidate geometry]
    regionUse :=
      chargeRegions crossings state.regionUse (routeRegionUsage geometry context.regions)
    viewportUse :=
      if 0 < visible then state.viewportUse.charge visible crossings else state.viewportUse }

section

variable (context : RoutingContext) (state : RoutingState)

theorem planCandidate_cases (candidate : Candidate) :
    (∃ geometry, state.routes.length < context.total.connectors ∧
      candidateGeometry context state candidate = some geometry ∧ Fits context state geometry ∧
      planCandidate context state candidate = accept context state candidate geometry) ∨
    planCandidate context state candidate = { state with omitted := state.omitted + 1 } := by
  rw [planCandidate]
  dsimp only
  by_cases hfull : context.total.connectors ≤ state.routes.length
  · rw [if_pos hfull]
    exact Or.inr rfl
  · rw [if_neg hfull]
    cases hgeometry : candidateGeometry context state candidate with
    | none => exact Or.inr rfl
    | some geometry =>
      dsimp only
      by_cases hexceeds : ((routeRegionUsage geometry context.regions).any (fun entry =>
          ((usedBy state.regionUse entry.1).charge entry.2
            (crossingsWith geometry state.routes)).exceeds context.regionLimit) ||
        decide (0 < geometry.countP fun segment => segmentIntersects segment context.viewport) &&
          (state.viewportUse.charge (geometry.countP fun segment =>
            segmentIntersects segment context.viewport)
            (crossingsWith geometry state.routes)).exceeds context.total) = true
      · rw [if_pos hexceeds]
        exact Or.inr rfl
      · rw [if_neg hexceeds]
        rw [Bool.not_eq_true, Bool.or_eq_false_iff] at hexceeds
        by_cases htotal : context.total.segments < segmentTotal state.routes + geometry.length ∨
            context.total.crossings <
              crossingTotal state.routes + crossingsWith geometry state.routes
        · rw [if_pos htotal]
          exact Or.inr rfl
        · rw [if_neg htotal]
          rw [not_or, not_lt, not_lt] at htotal
          exact Or.inl ⟨geometry, not_le.1 hfull, rfl,
            ⟨hexceeds.1, hexceeds.2, htotal.1, htotal.2⟩, rfl⟩

/-- What holds at first, after a candidate that is left out and after one that is drawn holds after
every run. -/
theorem foldl_planCandidate {P : RoutingState → Prop}
    (hdrop : ∀ state, P state → P { state with omitted := state.omitted + 1 })
    (haccept : ∀ state candidate geometry, P state →
      state.routes.length < context.total.connectors →
      candidateGeometry context state candidate = some geometry → Fits context state geometry →
      P (accept context state candidate geometry))
    (hstate : P state) (candidates : List Candidate) :
    P (candidates.foldl (planCandidate context) state) := by
  induction candidates generalizing state with
  | nil => exact hstate
  | cons candidate candidates ih =>
    refine ih _ ?_
    obtain ⟨geometry, hroom, hgeometry, hfits, heq⟩ | heq :=
      planCandidate_cases context state candidate
    · rw [heq]
      exact haccept state candidate geometry hstate hroom hgeometry hfits
    · rw [heq]
      exact hdrop state hstate

/-- Every candidate is a route or left out. -/
theorem count_planCandidate (candidates : List Candidate) :
    (candidates.foldl (planCandidate context) state).routes.length +
        (candidates.foldl (planCandidate context) state).omitted =
      state.routes.length + state.omitted + candidates.length := by
  induction candidates generalizing state with
  | nil => rfl
  | cons candidate candidates ih =>
    rw [List.foldl_cons, ih, List.length_cons]
    obtain ⟨geometry, -, -, -, heq⟩ | heq := planCandidate_cases context state candidate
    · rw [heq, accept, List.length_append, List.length_singleton]
      dsimp only
      omega
    · rw [heq]
      dsimp only
      omega

/-- The routes of a run have the populations of the candidates that are drawn. -/
theorem populations_sublist (candidates : List Candidate) :
    ((candidates.foldl (planCandidate context) state).routes.map
      AtlasPlannedRoute.bundlePopulation).Sublist
        (state.routes.map AtlasPlannedRoute.bundlePopulation ++
          candidates.map Candidate.bundlePopulation) := by
  induction candidates generalizing state with
  | nil => simp
  | cons candidate candidates ih =>
    rw [List.foldl_cons, List.map_cons]
    refine (ih _).trans ?_
    obtain ⟨geometry, -, -, -, heq⟩ | heq := planCandidate_cases context state candidate
    · rw [heq, accept, List.map_append, List.append_assoc]
      exact List.Sublist.refl _
    · rw [heq]
      exact List.Sublist.append (List.Sublist.refl _) (List.sublist_cons_self _ _)

end

/-! Bundles -/

theorem wireName_injective : Function.Injective AtlasRouteClass.wireName := by
  intro left right h
  cases left <;> cases right <;> first | rfl | exact absurd h (by decide)

/-- What the records of one bundle share. -/
def Candidate.ends (candidate : Candidate) : AtlasRouteClass × String × String :=
  (candidate.routeClass, candidate.source, candidate.target)

/-- The bundles have each class with its ends once, and every candidate is in one of them. -/
structure Bundles (candidates canonical : List Candidate) : Prop where
  last : canonical.getLast?.map Candidate.ends = candidates.getLast?.map Candidate.ends
  ends : ∀ found, found ∈ canonical.map Candidate.ends ↔ found ∈ candidates.map Candidate.ends
  nodup : (canonical.map Candidate.ends).Nodup
  positive : ∀ n ∈ canonical.map Candidate.bundlePopulation, 1 ≤ n
  population : (canonical.map Candidate.bundlePopulation).sum = candidates.length

theorem bundles_nil : Bundles [] [] where
  last := rfl
  ends := fun _ => Iff.rfl
  nodup := List.nodup_nil
  positive := List.forall_mem_nil _
  population := rfl

theorem bundle_concat (front : List Candidate) (previous candidate : Candidate) :
    bundle (front ++ [previous]) candidate =
      if previous.ends = candidate.ends then
        front ++ [{ previous with bundlePopulation := previous.bundlePopulation + 1 }]
      else front ++ [previous] ++ [candidate] := by
  rw [bundle, List.getLast?_concat]
  dsimp only
  rw [List.dropLast_concat]
  refine if_congr ?_ rfl rfl
  rw [Candidate.ends, Candidate.ends, Prod.mk.injEq, Prod.mk.injEq]

section

variable {candidates canonical : List Candidate} {candidate : Candidate}

theorem Bundles.append (h : Bundles candidates canonical) (hone : candidate.bundlePopulation = 1)
    (hnew : candidate.ends ∉ candidates.map Candidate.ends) :
    Bundles (candidates ++ [candidate]) (canonical ++ [candidate]) where
  last := by rw [List.getLast?_concat, List.getLast?_concat]
  ends := fun found => by
    rw [List.map_append, List.map_append, List.mem_append, List.mem_append, h.ends]
  nodup := by
    rw [List.map_append, List.map_singleton, List.nodup_append_comm, List.singleton_append,
      List.nodup_cons, h.ends]
    exact ⟨hnew, h.nodup⟩
  positive := by
    rw [List.map_append, List.forall_mem_append, List.map_singleton, List.forall_mem_singleton]
    exact ⟨h.positive, hone.ge⟩
  population := by
    rw [List.map_append, List.sum_append, h.population, List.map_singleton, List.sum_singleton,
      hone, List.length_append, List.length_singleton]

/-- A candidate comes beside those of its class and ends, or it is the first of them. -/
theorem Bundles.step (h : Bundles candidates canonical) (hone : candidate.bundlePopulation = 1)
    (hlast : candidate.ends ∈ candidates.map Candidate.ends →
      candidates.getLast?.map Candidate.ends = some candidate.ends) :
    Bundles (candidates ++ [candidate]) (bundle canonical candidate) := by
  have hbeside := h.last
  cases canonical using List.reverseRecOn with
  | nil =>
    have hnil : candidates = [] := by simpa using hbeside.symm
    subst hnil
    exact h.append hone (List.not_mem_nil)
  | append_singleton front previous =>
    rw [List.getLast?_concat, Option.map_some] at hbeside
    rw [bundle_concat]
    split_ifs with hsame
    · have hends : (front ++ [{ previous with
          bundlePopulation := previous.bundlePopulation + 1 }]).map Candidate.ends =
          (front ++ [previous]).map Candidate.ends := by
        rw [List.map_append, List.map_append]
        rfl
      have hpositive := h.positive
      have hpopulation := h.population
      rw [List.map_append, List.forall_mem_append, List.map_singleton,
        List.forall_mem_singleton] at hpositive
      rw [List.map_append, List.sum_append, List.map_singleton, List.sum_singleton] at hpopulation
      refine ⟨?_, fun found => ?_, hends ▸ h.nodup, ?_, ?_⟩
      · rw [List.getLast?_concat, List.getLast?_concat]
        exact congrArg some hsame
      · have hmem : candidate.ends ∈ candidates.map Candidate.ends := by
          rw [← h.ends, List.map_append, List.mem_append, ← hsame]
          exact Or.inr List.mem_cons_self
        rw [hends, h.ends, List.map_append, List.mem_append, List.map_singleton,
          List.mem_singleton]
        exact ⟨Or.inl, fun hfound => hfound.elim id fun heq => heq ▸ hmem⟩
      · rw [List.map_append, List.forall_mem_append, List.map_singleton,
          List.forall_mem_singleton]
        exact ⟨hpositive.1, Nat.le_add_left 1 _⟩
      · rw [List.map_append, List.sum_append, List.map_singleton, List.sum_singleton,
          List.length_append, List.length_singleton, ← hpopulation]
        exact (Nat.add_assoc ..).symm
    · refine h.append hone fun hmem => hsame ?_
      rw [hlast hmem] at hbeside
      exact Option.some.inj hbeside

end

section

variable {α : Type*} [LinearOrder α] {a b : α} {l m n : List α}

theorem cons_le_cons_cases (h : a :: l ≤ b :: m) : a < b ∨ a = b ∧ l ≤ m := by
  rcases le_iff_lt_or_eq.1 h with hlt | heq
  · exact (List.cons_lt_cons_iff.1 hlt).imp_right (And.imp_right le_of_lt)
  · obtain ⟨rfl, rfl⟩ := List.cons.inj heq
    exact Or.inr ⟨rfl, le_refl _⟩

theorem cons_between (h : a :: l ≤ b :: m) (h' : b :: m ≤ a :: n) : b = a ∧ l ≤ m ∧ m ≤ n := by
  rcases cons_le_cons_cases h with hlt | ⟨rfl, hl⟩
  · rcases cons_le_cons_cases h' with hgt | ⟨rfl, -⟩
    · exact absurd hgt (lt_asymm hlt)
    · exact absurd hlt (lt_irrefl _)
  · rcases cons_le_cons_cases h' with hlt | ⟨-, hm⟩
    · exact absurd hlt (lt_irrefl _)
    · exact ⟨rfl, hl, hm⟩

end

/-- Candidates of one class and the same ends are neighbours. -/
theorem ends_eq_of_between {first middle last : Candidate}
    (hselected : first.selected = last.selected) (hends : first.ends = last.ends)
    (hfirst : candidateSortKey first ≤ candidateSortKey middle)
    (hlast : candidateSortKey middle ≤ candidateSortKey last) : middle.ends = last.ends := by
  rw [Candidate.ends, Candidate.ends, Prod.mk.injEq, Prod.mk.injEq] at hends
  rw [candidateSortKey, candidateSortKey, hselected, hends.1, hends.2.1, hends.2.2] at hfirst
  rw [candidateSortKey, candidateSortKey] at hlast
  obtain ⟨-, hfirst, hlast⟩ := cons_between hfirst hlast
  obtain ⟨hclass, hfirst, hlast⟩ := cons_between hfirst hlast
  obtain ⟨hsource, hfirst, hlast⟩ := cons_between hfirst hlast
  obtain ⟨htarget, -, -⟩ := cons_between hfirst hlast
  rw [Candidate.ends, Candidate.ends, wireName_injective (JavaScript.codeUnits_injective hclass),
    JavaScript.codeUnits_injective hsource, JavaScript.codeUnits_injective htarget]

/-- Sorted candidates are bundled by class and ends. -/
theorem bundles_foldl (input : AtlasRoutingInput) {candidates : List Candidate}
    (hsorted : candidates.Pairwise fun left right =>
      candidateSortKey left ≤ candidateSortKey right)
    (hcandidates : ∀ candidate ∈ candidates, candidate.bundlePopulation = 1 ∧
      candidate.selected =
        (input.selected == some candidate.source || input.selected == some candidate.target)) :
    Bundles candidates (candidates.foldl bundle []) := by
  induction candidates using List.reverseRecOn with
  | nil => exact bundles_nil
  | append_singleton candidates candidate ih =>
    rw [List.pairwise_append] at hsorted
    rw [List.forall_mem_append, List.forall_mem_singleton] at hcandidates
    obtain ⟨hsorted, -, hbefore⟩ := hsorted
    obtain ⟨hcandidates, hone, hselected⟩ := hcandidates
    rw [List.foldl_append]
    refine (ih hsorted hcandidates).step hone fun hmem => ?_
    obtain ⟨found, hfound, hends⟩ := List.mem_map.1 hmem
    cases candidates using List.reverseRecOn with
    | nil => cases hfound
    | append_singleton front previous =>
      rw [List.getLast?_concat, Option.map_some, Option.some_inj]
      have hprevious := hbefore previous (List.mem_append_right _ List.mem_cons_self) candidate
        List.mem_cons_self
      rcases List.mem_append.1 hfound with hfront | hlast
      · have hfoundPrevious := (List.pairwise_append.1 hsorted).2.2 found hfront previous
          List.mem_cons_self
        refine ends_eq_of_between ?_ hends hfoundPrevious hprevious
        rw [Candidate.ends, Candidate.ends, Prod.mk.injEq, Prod.mk.injEq] at hends
        rw [hselected, (hcandidates found hfound).2, hends.2.1, hends.2.2]
      · rw [List.mem_singleton.1 hlast] at hends
        exact hends

/-! The plan -/

section

variable (model : AtlasModel) (layout : AtlasLayout) (input : AtlasRoutingInput)

def routingPoints : InsertionMap String AtlasPoint :=
  pointMap ((layout.points.filterMap safePoint).filter fun point =>
    (routableKeysOf model).contains point.subject)

def routingConnectors : List Connector :=
  model.relations.map
      (relationConnector input (routableKeysOf model) (routingPoints model layout)) ++
    model.attachments.map
      (attachmentConnector input (routableKeysOf model) (routingPoints model layout))

def orderedCandidates : List Candidate :=
  sortBy candidateSortKey
    ((routingConnectors model layout input).filterMap Connector.candidate?)

/-- The bundles of the first candidates. -/
def canonicalCandidates : List Candidate :=
  ((orderedCandidates model layout input).take Routing.inputCandidates).foldl bundle []

def routingContext : RoutingContext where
  points := routingPoints model layout
  total := caps model.subjects.length
  regionLimit := regionCaps model.subjects.length
  regions := regionsFor (layout.points.filterMap safePoint)
  viewport := viewportRegion input.viewport (regionsFor (layout.points.filterMap safePoint))

/-- The loop after some of the bundles. -/
def routingState (bundles : List Candidate) : RoutingState :=
  bundles.foldl (planCandidate (routingContext model layout input))
    { omitted := (orderedCandidates model layout input).length -
        (canonicalCandidates model layout input).length }

/-- The planner does not fail closed. -/
structure Plans : Prop where
  lens : input.lens ≠ .overview
  subjects : model.subjects.length ≤ Routing.maxModelSubjects
  cards : layout.points.length ≤ Routing.maxModelSubjects
  relations : model.relations.length ≤ Routing.maxModelRelations
  attachments : model.attachments.length ≤ Routing.maxModelAttachments
  valid : (layout.points.filterMap safePoint).length = layout.points.length
  placed : (routingPoints model layout).size = (routableKeysOf model).length
  regions : regionsFor (layout.points.filterMap safePoint) ≠ []

/-- The connector that a record asks for between routable subjects. -/
def lensCandidate (routeClass : Option AtlasRouteClass) (source target : String)
    (evidence : List AtlasEdgeEvidenceSourceRef) : Option Candidate :=
  (routeClass.filter (lensAccepts input.lens)).bind fun routeClass =>
    if (routableKeysOf model).contains source && (routableKeysOf model).contains target then
      some {
        source, target, routeClass, evidenceKey := routeEvidenceKey evidence
        selected := input.selected == some source || input.selected == some target
        bundlePopulation := 1 }
    else none

/-- The connectors that the records of a lens ask for. -/
def lensCandidates : List Candidate :=
  model.relations.filterMap (fun relation =>
      lensCandidate model input (declarationClass relation) relation.source relation.target
        relation.evidence) ++
    model.attachments.filterMap fun attachment =>
      lensCandidate model input (attachmentClass attachment) attachment.subject
        attachment.context attachment.evidence

/-- The class and the ends of each of the first records in canonical order. -/
def consideredEnds : List (AtlasRouteClass × String × String) :=
  ((sortBy candidateSortKey (lensCandidates model input)).take Routing.inputCandidates).map
    Candidate.ends

variable {model layout input}

theorem planAtlasRoutes_eq (h : Plans model layout input) :
    planAtlasRoutes model layout input =
      { routes := (routingState model layout input (canonicalCandidates model layout input)).routes
        population :=
          { resolved :=
              (routingState model layout input (canonicalCandidates model layout input)).routes.length
            unresolved := (routingConnectors model layout input).countP Connector.isUnresolved
            ambiguous := 0
            omitted :=
              (routingState model layout input (canonicalCandidates model layout input)).omitted }
        metrics := metrics
          (routingState model layout input (canonicalCandidates model layout input)).routes
          (routingState model layout input (canonicalCandidates model layout input)).regionUse
          (routingState model layout input (canonicalCandidates model layout input)).viewportUse } := by
  have hopen : ¬ (input.lens = .overview ∨ Routing.maxModelSubjects < model.subjects.length ∨
      Routing.maxModelSubjects < layout.points.length ∨
      Routing.maxModelRelations < model.relations.length ∨
      Routing.maxModelAttachments < model.attachments.length) := by
    simp only [not_or, not_lt]
    exact ⟨h.lens, h.subjects, h.cards, h.relations, h.attachments⟩
  rw [planAtlasRoutes, if_neg hopen]
  dsimp only
  rw [if_neg (not_not.2 h.valid)]
  exact (if_neg (not_not.2 h.placed)).trans (if_neg h.regions)

theorem planAtlasRoutes_of_not (h : ¬ Plans model layout input) :
    planAtlasRoutes model layout input = {} := by
  rw [planAtlasRoutes]
  dsimp only
  split_ifs with hopen hvalid hplaced hregions
  · rfl
  · rfl
  · rfl
  · rfl
  · refine absurd ?_ h
    simp only [not_or, not_lt] at hopen
    exact ⟨hopen.1, hopen.2.1, hopen.2.2.1, hopen.2.2.2.1, hopen.2.2.2.2, not_not.1 hvalid,
      not_not.1 hplaced, hregions⟩

theorem acceptedRecords_eq (model : AtlasModel) (layout : AtlasLayout) (input : AtlasRoutingInput) :
    acceptedRecords model input.lens =
      (routingConnectors model layout input).countP Connector.isUnresolved +
        (orderedCandidates model layout input).length := by
  have hrelations := count_connectors
    (f := relationConnector input (routableKeysOf model) (routingPoints model layout))
    (fun relation => connector_ne_skipped_iff safeEvidence_of_declarationClass _ _) model.relations
  have hattachments := count_connectors
    (f := attachmentConnector input (routableKeysOf model) (routingPoints model layout))
    (fun attachment => connector_ne_skipped_iff safeEvidence_of_attachmentClass _ _)
    model.attachments
  rw [orderedCandidates, StableSort.length_sortBy, routingConnectors, List.countP_append,
    List.filterMap_append, List.length_append, acceptedRecords]
  omega

theorem isSome_get?_routingPoints (h : Plans model layout input) {key : String}
    (hkey : key ∈ routableKeysOf model) :
    ((routingPoints model layout).get? key).isSome = true := by
  have hsubset : (routingPoints model layout).entries.map Prod.fst ⊆ routableKeysOf model := by
    intro placed hplaced
    obtain ⟨point, hpoint⟩ :=
      Option.ne_none_iff_exists'.1 (InsertionMap.mem_keys_iff.1 hplaced)
    obtain ⟨hmem, rfl⟩ := mem_of_get?_pointMap hpoint
    exact List.contains_iff_mem.1 (List.mem_filter.1 hmem).2
  have hlength : (routableKeysOf model).length ≤
      ((routingPoints model layout).entries.map Prod.fst).length := by
    rw [List.length_map]
    exact h.placed.ge
  have hperm := ((routingPoints model layout).nodup.subperm hsubset).perm_of_length_le hlength
  exact Option.ne_none_iff_isSome.1 (InsertionMap.mem_keys_iff.1 (hperm.mem_iff.2 hkey))

theorem hasPoint_iff (h : Plans model layout input) (key : String) :
    hasPoint (routableKeysOf model) (routingPoints model layout) key =
      (routableKeysOf model).contains key := by
  rw [hasPoint]
  cases hkey : (routableKeysOf model).contains key with
  | false => rfl
  | true => exact isSome_get?_routingPoints h (List.contains_iff_mem.1 hkey)

theorem candidate?_connector (h : Plans model layout input)
    {routeClass : Option AtlasRouteClass} {evidence : List AtlasEdgeEvidenceSourceRef}
    (hsafe : ∀ found ∈ routeClass, safeEvidence evidence = true) (source target : String) :
    (connector input (routableKeysOf model) (routingPoints model layout) routeClass source target
      evidence).candidate? = lensCandidate model input routeClass source target evidence := by
  cases routeClass with
  | none => rfl
  | some routeClass =>
    rw [connector, lensCandidate, hasPoint_iff h, hasPoint_iff h, hsafe routeClass rfl,
      Option.filter_some]
    cases lensAccepts input.lens routeClass with
    | false => rfl
    | true =>
      rw [if_neg (by decide), if_pos rfl, Option.bind_some]
      cases (routableKeysOf model).contains source && (routableKeysOf model).contains target with
      | false => rfl
      | true => rfl

theorem orderedCandidates_eq (h : Plans model layout input) :
    orderedCandidates model layout input =
      sortBy candidateSortKey (lensCandidates model input) := by
  rw [orderedCandidates, routingConnectors, List.filterMap_append, List.filterMap_map,
    List.filterMap_map, lensCandidates]
  refine congrArg (sortBy candidateSortKey) (congrArg₂ _ ?_ ?_)
  · exact List.filterMap_congr fun relation _ =>
      candidate?_connector h safeEvidence_of_declarationClass _ _
  · exact List.filterMap_congr fun attachment _ =>
      candidate?_connector h safeEvidence_of_attachmentClass _ _

theorem lensCandidate_eq_some {routeClass : Option AtlasRouteClass} {source target : String}
    {evidence : List AtlasEdgeEvidenceSourceRef} {found : Candidate}
    (h : lensCandidate model input routeClass source target evidence = some found) :
    found.bundlePopulation = 1 ∧ found.selected =
      (input.selected == some found.source || input.selected == some found.target) := by
  obtain ⟨accepted, -, hfound⟩ := Option.bind_eq_some_iff.1 h
  split_ifs at hfound
  cases hfound
  exact ⟨rfl, rfl⟩

theorem mem_lensCandidates {candidate : Candidate} (h : candidate ∈ lensCandidates model input) :
    candidate.bundlePopulation = 1 ∧ candidate.selected =
      (input.selected == some candidate.source || input.selected == some candidate.target) := by
  rcases List.mem_append.1 h with hrelation | hattachment
  · obtain ⟨relation, -, heq⟩ := List.mem_filterMap.1 hrelation
    exact lensCandidate_eq_some heq
  · obtain ⟨attachment, -, heq⟩ := List.mem_filterMap.1 hattachment
    exact lensCandidate_eq_some heq

/-- The planner bundles the first records of the lens. -/
theorem bundles_canonicalCandidates (h : Plans model layout input) :
    Bundles ((sortBy candidateSortKey (lensCandidates model input)).take Routing.inputCandidates)
      (canonicalCandidates model layout input) := by
  rw [canonicalCandidates, orderedCandidates_eq h]
  refine bundles_foldl input ?_ fun candidate hcandidate => ?_
  · exact (StableSort.sorted_sortBy candidateSortKey _).sublist (List.take_sublist _ _)
  · exact mem_lensCandidates (StableSort.mem_sortBy.1 (List.mem_of_mem_take hcandidate))

theorem length_consideredEnds (h : Plans model layout input) :
    (consideredEnds model input).dedup.length = (canonicalCandidates model layout input).length := by
  have hbundles := bundles_canonicalCandidates h
  have hperm : ((canonicalCandidates model layout input).map Candidate.ends).Perm
      (consideredEnds model input).dedup :=
    (List.perm_ext_iff_of_nodup hbundles.nodup (List.nodup_dedup _)).2 fun found => by
      rw [hbundles.ends, List.mem_dedup, consideredEnds]
  rw [← hperm.length_eq, List.length_map]

/-- All that a lens accepts is a route, left out or unresolved. -/
theorem resolved_add_omitted (h : Plans model layout input) :
    (planAtlasRoutes model layout input).routes.length +
        (planAtlasRoutes model layout input).population.omitted +
        (planAtlasRoutes model layout input).population.unresolved =
      acceptedRecords model input.lens := by
  have hcount := count_planCandidate (routingContext model layout input)
    { omitted := (orderedCandidates model layout input).length -
        (canonicalCandidates model layout input).length } (canonicalCandidates model layout input)
  have hbundles := bundles_canonicalCandidates h
  have hle := List.length_le_sum_of_one_le _ hbundles.positive
  rw [List.length_map, hbundles.population, ← orderedCandidates_eq h] at hle
  have hle := hle.trans (List.length_take_le' ..)
  rw [planAtlasRoutes_eq h, acceptedRecords_eq model layout input]
  dsimp only at hcount ⊢
  rw [routingState]
  rw [List.length_nil] at hcount
  omega

/-- What a plan accounts for. -/
def AtlasRoutingPlan.accounted (plan : AtlasRoutingPlan) : ℕ :=
  (plan.routes.map AtlasPlannedRoute.bundlePopulation).sum + plan.population.omitted +
    plan.population.unresolved

theorem sum_eq_length_add {l : List ℕ} (h : ∀ n ∈ l, 1 ≤ n) :
    l.sum = l.length + (l.map (· - 1)).sum := by
  induction l with
  | nil => rfl
  | cons n l ih =>
    rw [List.forall_mem_cons] at h
    rw [List.sum_cons, ih h.2, List.length_cons, List.map_cons, List.sum_cons]
    omega

theorem populations_sublist_canonical (h : Plans model layout input) :
    ((planAtlasRoutes model layout input).routes.map AtlasPlannedRoute.bundlePopulation).Sublist
      ((canonicalCandidates model layout input).map Candidate.bundlePopulation) := by
  rw [planAtlasRoutes_eq h]
  exact populations_sublist _ _ _

/-- Every record of a drawn bundle but the first is counted twice. -/
theorem accounted_eq (h : Plans model layout input) :
    (planAtlasRoutes model layout input).accounted = acceptedRecords model input.lens +
      ((planAtlasRoutes model layout input).routes.map (·.bundlePopulation - 1)).sum := by
  have hpositive : ∀ n ∈ (planAtlasRoutes model layout input).routes.map
      AtlasPlannedRoute.bundlePopulation, 1 ≤ n := fun n hn =>
    (bundles_canonicalCandidates h).positive n ((populations_sublist_canonical h).subset hn)
  have hsum := sum_eq_length_add hpositive
  rw [List.length_map, List.map_map] at hsum
  have hcount := resolved_add_omitted h
  rw [AtlasRoutingPlan.accounted, hsum, ← hcount]
  simp only [Function.comp_def]
  omega

/-- No class and pair of ends is there twice exactly when every bundle is one record. -/
theorem nodup_consideredEnds_iff (h : Plans model layout input) :
    (consideredEnds model input).Nodup ↔
      (((canonicalCandidates model layout input).map Candidate.bundlePopulation).map
        (· - 1)).sum = 0 := by
  have hbundles := bundles_canonicalCandidates h
  have hlength := length_consideredEnds h
  have hsurplus := sum_eq_length_add hbundles.positive
  rw [hbundles.population, List.length_map] at hsurplus
  have htaken : (consideredEnds model input).length =
      ((sortBy candidateSortKey (lensCandidates model input)).take
        Routing.inputCandidates).length := List.length_map _
  have hdedup : (consideredEnds model input).Nodup ↔
      (consideredEnds model input).dedup.length = (consideredEnds model input).length :=
    ⟨fun hnodup => by rw [hnodup.dedup],
      fun heq => List.dedup_eq_self.1 ((List.dedup_sublist _).eq_of_length heq)⟩
  rw [hdedup, hlength, htaken]
  omega

/-- The counts are those of the accepted records when each class and pair of ends is there once
among the first records. Otherwise a plan that draws all of these connectors counts too many. -/
theorem populations_conserved (h : Plans model layout input) :
    ((consideredEnds model input).Nodup →
      (planAtlasRoutes model layout input).accounted = acceptedRecords model input.lens) ∧
    ((planAtlasRoutes model layout input).routes.length =
        (consideredEnds model input).dedup.length →
      ((planAtlasRoutes model layout input).accounted = acceptedRecords model input.lens ↔
        (consideredEnds model input).Nodup)) ∧
    (planAtlasRoutes model layout input).accounted = acceptedRecords model input.lens +
      ((planAtlasRoutes model layout input).routes.map (·.bundlePopulation - 1)).sum := by
  have hdrawn := populations_sublist_canonical h
  have haccounted := accounted_eq h
  have hroutes : ((planAtlasRoutes model layout input).routes.map
      (·.bundlePopulation - 1)).sum =
      (((planAtlasRoutes model layout input).routes.map
        AtlasPlannedRoute.bundlePopulation).map (· - 1)).sum := by
    rw [List.map_map]
    rfl
  refine ⟨fun hnodup => ?_, fun hall => ?_, haccounted⟩
  · have hle := (hdrawn.map (· - 1)).sum_le_sum fun _ _ => Nat.zero_le _
    rw [(nodup_consideredEnds_iff h).1 hnodup] at hle
    rw [haccounted, hroutes]
    omega
  · have heq := hdrawn.eq_of_length
      (by rw [List.length_map, List.length_map, hall, length_consideredEnds h])
    rw [nodup_consideredEnds_iff h, haccounted, hroutes, heq]
    omega

end

/-! The memberships of a network -/

def connectedTo (members : List String) : AtlasModel :=
  projectRuntimeMap plainTables
    (mapOf
      (nodeJson "docker_network_n" "docker" "docker_network" ::
        members.dedup.map fun key => nodeJson key "docker" "container")
      (members.map fun key => membershipJson key "docker_network_n" [])) none

theorem plans_connectedTo {members : List String}
    (h : members = ["docker_container_a", "docker_container_b"] ∨
      members = ["docker_container_a", "docker_container_a"]) :
    Plans (connectedTo members) (layoutAtlas (connectedTo members)) { lens := .connectivity } := by
  have hregions {regions : List Region} (hlength : regions.length = 2) : regions ≠ [] := by
    rintro rfl
    cases hlength
  rcases h with rfl | rfl
  · exact ⟨by decide, by decide +kernel, by decide +kernel, by decide +kernel, by decide +kernel,
      by decide +kernel, by decide +kernel, hregions (by decide +kernel)⟩
  · exact ⟨by decide, by decide +kernel, by decide +kernel, by decide +kernel, by decide +kernel,
      by decide +kernel, by decide +kernel, hregions (by decide +kernel)⟩

/-- Two containers in a network are two connectors. -/
theorem populations_conserved_applied :
    (planAtlasRoutes (connectedTo ["docker_container_a", "docker_container_b"])
      (layoutAtlas (connectedTo ["docker_container_a", "docker_container_b"]))
      { lens := .connectivity }).accounted =
        acceptedRecords (connectedTo ["docker_container_a", "docker_container_b"]) .connectivity ∧
    (consideredEnds (connectedTo ["docker_container_a", "docker_container_b"])
      { lens := .connectivity }).Nodup ∧
    acceptedRecords (connectedTo ["docker_container_a", "docker_container_b"]) .connectivity =
      2 := by
  obtain ⟨hconserved, hall, -⟩ := populations_conserved (plans_connectedTo (Or.inl rfl))
  have hnodup : (consideredEnds (connectedTo ["docker_container_a", "docker_container_b"])
      { lens := .connectivity }).Nodup := by decide +kernel
  exact ⟨hconserved hnodup, (hall (by decide +kernel)).1 (hconserved hnodup), by decide +kernel⟩

/-- A container that a network lists twice is three. -/
theorem bundle_counted_as_omitted :
    Plans (connectedTo ["docker_container_a", "docker_container_a"])
      (layoutAtlas (connectedTo ["docker_container_a", "docker_container_a"]))
      { lens := .connectivity } ∧
    (planAtlasRoutes (connectedTo ["docker_container_a", "docker_container_a"])
      (layoutAtlas (connectedTo ["docker_container_a", "docker_container_a"]))
      { lens := .connectivity }).accounted = 3 ∧
    acceptedRecords (connectedTo ["docker_container_a", "docker_container_a"]) .connectivity = 2 :=
  ⟨plans_connectedTo (Or.inr rfl), by decide +kernel, by decide +kernel⟩

end DockerMap.Web.Atlas
