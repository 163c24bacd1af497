import DockerMap.Proofs.RoutingPopulation

/-! A plan draws clear ways within its budgets, whatever the order of the records it is made of. -/

namespace DockerMap.Web.Atlas

open JavaScript (codeUnits)
open StableSort (sortBy)

/-! Budgets, counted from the routes -/

/-- All that routes use. -/
def drawn (routes : List AtlasPlannedRoute) : Budget where
  connectors := routes.length
  segments := segmentTotal routes
  crossings := crossingTotal routes

def touches (region : Region) (route : AtlasPlannedRoute) : Bool :=
  route.segments.any fun segment => segmentIntersects segment region

/-- What the routes that touch a region use of it. -/
def drawnIn (region : Region) (routes : List AtlasPlannedRoute) : Budget where
  connectors := (routes.filter (touches region)).length
  segments := (routes.map fun route =>
    route.segments.countP fun segment => segmentIntersects segment region).sum
  crossings := crossingTotal (routes.filter (touches region))

structure Budget.Within (budget limit : Budget) : Prop where
  connectors : budget.connectors ≤ limit.connectors
  segments : budget.segments ≤ limit.segments
  crossings : budget.crossings ≤ limit.crossings

section

variable {budget budget' limit : Budget}

theorem Budget.Within.trans (h : budget.Within budget') (h' : budget'.Within limit) :
    budget.Within limit where
  connectors := h.connectors.trans h'.connectors
  segments := h.segments.trans h'.segments
  crossings := h.crossings.trans h'.crossings

theorem Budget.exceeds_eq_false : budget.exceeds limit = false ↔ budget.Within limit := by
  simp only [Budget.exceeds, Bool.or_eq_false_iff, decide_eq_false_iff_not, not_lt]
  exact ⟨fun ⟨⟨hconnectors, hsegments⟩, hcrossings⟩ => ⟨hconnectors, hsegments, hcrossings⟩,
    fun h => ⟨⟨h.connectors, h.segments⟩, h.crossings⟩⟩

theorem Budget.Within.charge (h : budget.Within budget') (segments : ℕ) {crossings crossings' : ℕ}
    (hcrossings : crossings ≤ crossings') :
    (budget.charge segments crossings).Within (budget'.charge segments crossings') where
  connectors := Nat.add_le_add_right h.connectors 1
  segments := Nat.add_le_add_right h.segments segments
  crossings := Nat.add_le_add h.crossings hcrossings

end

section

variable (routes : List AtlasPlannedRoute) (route : AtlasPlannedRoute)

theorem crossingTotal_concat : crossingTotal (routes ++ [route]) =
    crossingTotal routes + crossingsWith route.segments routes := by
  have hfront : routes.mapIdx (fun index other =>
        crossingsWith other.segments ((routes ++ [route]).take index)) =
      routes.mapIdx fun index other => crossingsWith other.segments (routes.take index) := by
    refine List.ext_getElem (by simp) fun index hindex hindex' => ?_
    rw [List.length_mapIdx] at hindex
    rw [List.getElem_mapIdx, List.getElem_mapIdx, List.take_append_of_le_length hindex.le]
  rw [crossingTotal, List.mapIdx_append, List.sum_append, List.mapIdx_singleton,
    List.sum_singleton, Nat.zero_add, List.take_left, crossingTotal]
  exact congrArg (fun front => front.sum + _) hfront

theorem crossingsWith_filter_le (segments : List AtlasRouteSegment) (p : AtlasPlannedRoute → Bool) :
    crossingsWith segments (routes.filter p) ≤ crossingsWith segments routes := by
  rw [crossingsWith, crossingsWith]
  refine List.sum_le_sum fun segment _ => ?_
  exact (List.filter_sublist.map _).sum_le_sum fun _ _ => Nat.zero_le _

theorem crossingTotal_filter_le (p : AtlasPlannedRoute → Bool) :
    crossingTotal (routes.filter p) ≤ crossingTotal routes := by
  induction routes using List.reverseRecOn with
  | nil => exact le_refl _
  | append_singleton routes route ih =>
    rw [crossingTotal_concat, List.filter_append]
    cases hroute : p route with
    | false =>
      rw [List.filter_cons_of_neg (by simp [hroute]), List.filter_nil, List.append_nil]
      exact ih.trans (Nat.le_add_right _ _)
    | true =>
      rw [List.filter_cons_of_pos hroute, List.filter_nil, crossingTotal_concat]
      exact Nat.add_le_add ih (crossingsWith_filter_le routes route.segments p)

theorem drawnIn_within (region : Region) : (drawnIn region routes).Within (drawn routes) where
  connectors := List.length_filter_le ..
  segments := List.sum_le_sum fun _ _ => List.countP_le_length
  crossings := crossingTotal_filter_le routes _

theorem drawn_concat : drawn (routes ++ [route]) =
    (drawn routes).charge route.segments.length (crossingsWith route.segments routes) := by
  simp only [drawn, Budget.charge, segmentTotal, crossingTotal_concat, List.length_append,
    List.length_singleton, List.map_append, List.map_singleton, List.sum_append, List.sum_singleton]

theorem drawnIn_concat_of_touches {region : Region} (h : touches region route = true) :
    drawnIn region (routes ++ [route]) =
      (drawnIn region routes).charge
        (route.segments.countP fun segment => segmentIntersects segment region)
        (crossingsWith route.segments (routes.filter (touches region))) := by
  simp only [drawnIn, Budget.charge, List.filter_append, List.filter_cons_of_pos h, List.filter_nil,
    crossingTotal_concat, List.length_append, List.length_singleton, List.map_append,
    List.map_singleton, List.sum_append, List.sum_singleton]

theorem drawnIn_concat_of_not_touches {region : Region} (h : touches region route = false) :
    drawnIn region (routes ++ [route]) = drawnIn region routes := by
  have hnone : route.segments.countP (fun segment => segmentIntersects segment region) = 0 := by
    rw [List.countP_eq_zero]
    exact fun segment hsegment => List.any_eq_false.1 h segment hsegment
  simp only [drawnIn, List.filter_append, List.filter_cons_of_neg (by simp [h] : ¬ touches region route = true),
    List.filter_nil, List.append_nil, List.map_append, List.map_singleton, List.sum_append,
    List.sum_singleton, hnone, Nat.add_zero]

end

/-! The regions that a route touches -/

theorem nodup_regionKeys (points : List AtlasPoint) :
    ((regionsFor points).map Region.key).Nodup := by
  rw [regionsFor, ((StableSort.sortBy_perm _ _).map _).nodup_iff, List.map_map]
  refine (List.nodup_dedup _).map ?_
  intro tile tile' h
  exact Prod.ext (RegionKey.tile.inj h).1 (RegionKey.tile.inj h).2

theorem routeRegionUsage_eq (segments : List AtlasRouteSegment) (regions : List Region) :
    routeRegionUsage segments regions =
      (regions.filter fun region => segments.any fun segment => segmentIntersects segment region).map
        fun region => (region.key, segments.countP fun segment => segmentIntersects segment region) := by
  induction regions with
  | nil => rfl
  | cons region regions ih =>
    have htouched : segments.countP (fun segment => segmentIntersects segment region) = 0 ↔
        ¬ (segments.any fun segment => segmentIntersects segment region) = true := by
      rw [List.countP_eq_zero, List.any_eq_true]
      simp
    rw [routeRegionUsage] at ih ⊢
    rw [List.filterMap_cons]
    by_cases hnone : segments.countP (fun segment => segmentIntersects segment region) = 0
    · rw [List.filter_cons, if_neg (htouched.1 hnone), ← ih]
      simp only [if_pos hnone]
    · rw [List.filter_cons, if_pos (not_not.1 (mt htouched.2 hnone)), List.map_cons, ← ih]
      simp only [if_neg hnone]

section

variable {crossings : ℕ} {regionUse : InsertionMap RegionKey Budget} {key : RegionKey}

theorem usedBy_set (charged : RegionKey) (budget : Budget) :
    usedBy (regionUse.set charged budget) key =
      if key = charged then budget else usedBy regionUse key := by
  rw [usedBy, InsertionMap.get?_set]
  split_ifs <;> rfl

theorem usedBy_chargeRegions_of_not_mem {usage : List (RegionKey × ℕ)}
    (h : key ∉ usage.map Prod.fst) :
    usedBy (chargeRegions crossings regionUse usage) key = usedBy regionUse key := by
  induction usage generalizing regionUse with
  | nil => rfl
  | cons entry usage ih =>
    rw [List.map_cons, List.mem_cons, not_or] at h
    rw [chargeRegions, List.foldl_cons]
    exact (ih h.2).trans ((usedBy_set _ _).trans (if_neg h.1))

/-- A region is charged once for a route. -/
theorem usedBy_chargeRegions {usage : List (RegionKey × ℕ)} (hnodup : (usage.map Prod.fst).Nodup)
    {segments : ℕ} (h : (key, segments) ∈ usage) :
    usedBy (chargeRegions crossings regionUse usage) key =
      (usedBy regionUse key).charge segments crossings := by
  induction usage generalizing regionUse with
  | nil => cases h
  | cons entry usage ih =>
    rw [List.map_cons, List.nodup_cons] at hnodup
    rw [chargeRegions, List.foldl_cons]
    rcases List.mem_cons.1 h with rfl | h
    · exact (usedBy_chargeRegions_of_not_mem hnodup.1).trans ((usedBy_set _ _).trans (if_pos rfl))
    · have hne : key ≠ entry.1 := by
        rintro rfl
        exact hnodup.1 (List.mem_map.2 ⟨_, h, rfl⟩)
      refine (ih hnodup.2 h).trans ?_
      rw [usedBy_set, if_neg hne]

end

/-! The loop keeps the budgets -/

/-- The records of the loop cover what is drawn and stay within the limits. -/
structure KeepsBudgets (context : RoutingContext) (state : RoutingState) : Prop where
  total : (drawn state.routes).Within context.total
  covers : ∀ region ∈ context.regions,
    (drawnIn region state.routes).Within (usedBy state.regionUse region.key)
  limited : ∀ key, (usedBy state.regionUse key).Within context.regionLimit

section

variable {context : RoutingContext} {state : RoutingState}

theorem keepsBudgets_accept (hnodup : (context.regions.map Region.key).Nodup)
    (h : KeepsBudgets context state) (hroom : state.routes.length < context.total.connectors)
    {geometry : List AtlasRouteSegment} (hfits : Fits context state geometry)
    (candidate : Candidate) :
    KeepsBudgets context (accept context state candidate geometry) := by
  have husage := routeRegionUsage_eq geometry context.regions
  have hkeys : ((routeRegionUsage geometry context.regions).map Prod.fst).Nodup := by
    rw [husage, List.map_map]
    exact hnodup.sublist (List.filter_sublist.map _)
  refine ⟨?_, fun region hregion => ?_, fun key => ?_⟩
  · rw [accept, drawn_concat]
    exact ⟨hroom, hfits.segments, hfits.crossings⟩
  · rw [accept]
    dsimp only
    cases htouches : touches region (routeOf state candidate geometry) with
    | false =>
      have hnot : region.key ∉ (routeRegionUsage geometry context.regions).map Prod.fst := by
        rw [husage, List.map_map, List.mem_map]
        rintro ⟨other, hother, hkey⟩
        obtain ⟨hmem, htouched⟩ := List.mem_filter.1 hother
        obtain rfl := List.inj_on_of_nodup_map hnodup hmem hregion hkey
        exact Bool.false_ne_true (htouches.symm.trans htouched)
      rw [drawnIn_concat_of_not_touches _ _ htouches, usedBy_chargeRegions_of_not_mem hnot]
      exact h.covers region hregion
    | true =>
      have hmem : (region.key, geometry.countP fun segment => segmentIntersects segment region) ∈
          routeRegionUsage geometry context.regions := by
        rw [husage]
        exact List.mem_map.2 ⟨region, List.mem_filter.2 ⟨hregion, htouches⟩, rfl⟩
      rw [drawnIn_concat_of_touches _ _ htouches, usedBy_chargeRegions hkeys hmem]
      exact (h.covers region hregion).charge _ (crossingsWith_filter_le ..)
  · rw [accept]
    dsimp only
    by_cases hkey : key ∈ (routeRegionUsage geometry context.regions).map Prod.fst
    · obtain ⟨⟨key, segments⟩, hentry, rfl⟩ := List.mem_map.1 hkey
      rw [usedBy_chargeRegions hkeys hentry]
      have hlimit := List.any_eq_false.1 hfits.regions (key, segments) hentry
      exact Budget.exceeds_eq_false.1 (Bool.not_eq_true _ ▸ hlimit)
    · rw [usedBy_chargeRegions_of_not_mem hkey]
      exact h.limited key

theorem keepsBudgets_initial (omitted : ℕ) : KeepsBudgets context { omitted } where
  total := ⟨Nat.zero_le _, Nat.zero_le _, Nat.zero_le _⟩
  covers := fun _ _ => ⟨Nat.zero_le _, Nat.zero_le _, Nat.zero_le _⟩
  limited := fun _ => ⟨Nat.zero_le _, Nat.zero_le _, Nat.zero_le _⟩

end


/-! The points of the planner -/

theorem filterMap_safePoint_eq {points : List AtlasPoint}
    (h : (points.filterMap safePoint).length = points.length) :
    points.filterMap safePoint = points := by
  induction points with
  | nil => rfl
  | cons point points ih =>
    have hle := List.length_filterMap_le safePoint points
    by_cases hsafe : 0 < point.width ∧ 0 < point.height
    · have hpoint : safePoint point = some point := if_pos hsafe
      rw [List.filterMap_cons_some hpoint, List.length_cons, List.length_cons,
        Nat.add_right_cancel_iff] at h
      rw [List.filterMap_cons_some hpoint, ih h]
    · have hpoint : safePoint point = none := if_neg hsafe
      rw [List.filterMap_cons_none hpoint, List.length_cons] at h
      omega

/-- Routable subjects of the model are not ambiguous. -/
def AtlasModel.Unambiguous (model : AtlasModel) : Prop :=
  ∀ subject ∈ model.subjects, subject.routable = true → subject.ambiguity = .none

theorem unambiguous_projectRuntimeMap (unicode : UnicodeTables) (map : AtlasRuntimeMapInput)
    (findings : Option FindingsOverlay) :
    (projectRuntimeMap unicode map findings).Unambiguous := by
  intro subject hsubject hroutable
  obtain ⟨node, -, found, kind, -, -, heq⟩ :=
    isProjected_of_mem unicode map findings hsubject hroutable
  rw [heq]
  rfl

theorem contains_routableKeysOf {model : AtlasModel} (h : model.Unambiguous) (key : String) :
    (routableKeysOf model).contains key = model.isRoutable key := by
  rw [Bool.eq_iff_iff, List.contains_iff_mem, routableKeysOf, List.mem_dedup, List.mem_map,
    AtlasModel.isRoutable, List.any_eq_true]
  constructor
  · rintro ⟨subject, hsubject, rfl⟩
    obtain ⟨hmem, hroutable⟩ := List.mem_filter.1 hsubject
    rw [Bool.and_eq_true] at hroutable
    exact ⟨subject, hmem, by rw [hroutable.1, beq_self_eq_true]; rfl⟩
  · rintro ⟨subject, hmem, hsubject⟩
    rw [Bool.and_eq_true, beq_iff_eq] at hsubject
    refine ⟨subject, List.mem_filter.2 ⟨hmem, ?_⟩, hsubject.2⟩
    rw [hsubject.1, h subject hmem hsubject.1]
    rfl

section

variable {model : AtlasModel} {input : AtlasRoutingInput}

theorem mem_of_routingPoints (hplans : Plans model (layoutAtlas model) input)
    (hclear : model.Unambiguous) {key : String} {point : AtlasPoint}
    (h : (routingPoints model (layoutAtlas model)).get? key = some point) :
    point ∈ (layoutAtlas model).points ∧ point.subject = key ∧ model.isRoutable key = true := by
  rw [routingPoints, filterMap_safePoint_eq hplans.valid] at h
  obtain ⟨hpoint, rfl⟩ := mem_of_get?_pointMap h
  obtain ⟨hmem, hroutable⟩ := List.mem_filter.1 hpoint
  rw [contains_routableKeysOf hclear] at hroutable
  exact ⟨hmem, rfl, hroutable⟩

theorem get?_routingPoints (hplans : Plans model (layoutAtlas model) input)
    (hclear : model.Unambiguous) (happart : model.KeysApart) (hnodup : model.routableKeys.Nodup)
    {point : AtlasPoint} (h : point ∈ (layoutAtlas model).points)
    (hroutable : model.isRoutable point.subject = true) :
    (routingPoints model (layoutAtlas model)).get? point.subject = some point := by
  rw [routingPoints, filterMap_safePoint_eq hplans.valid]
  refine get?_pointMap_of_unique (List.mem_filter.2 ⟨h, ?_⟩) fun other hother hsubject => ?_
  · rw [contains_routableKeysOf hclear]
    exact hroutable
  · exact card_unique happart hnodup h (List.mem_filter.1 hother).1 hsubject hroutable

theorem pointFor_of_routingPoints (hplans : Plans model (layoutAtlas model) input)
    (hclear : model.Unambiguous) (happart : model.KeysApart) (hnodup : model.routableKeys.Nodup)
    {key : String} {point : AtlasPoint}
    (h : (routingPoints model (layoutAtlas model)).get? key = some point) :
    pointFor (layoutAtlas model) key = some point := by
  obtain ⟨hmem, rfl, hroutable⟩ := mem_of_routingPoints hplans hclear h
  cases hfound : pointFor (layoutAtlas model) point.subject with
  | none =>
    have hnone := List.find?_eq_none.1 hfound point hmem
    rw [beq_self_eq_true] at hnone
    exact absurd rfl hnone
  | some found =>
    have hsubject : found.subject = point.subject := eq_of_beq
      (List.find?_some (p := fun other : AtlasPoint => other.subject == point.subject) hfound)
    rw [card_unique happart hnodup hmem (List.mem_of_find?_eq_some hfound) hsubject hroutable]

end

/-! The cards of the planner -/

/-- The cards in the column of the diagnostics. -/
def diagnosticPoints (model : AtlasModel) : List AtlasPoint :=
  (sortBy (fun subject => codeUnits subject.key)
    (model.subjects.foldl addToLayout (∅, [])).2).mapIdx fun index subject =>
      pointForDiagnostic subject index

section

variable {model : AtlasModel} {key : String}

theorem isCard_of_mem_routablePoints {point : AtlasPoint} (h : point ∈ routablePoints model) :
    IsCard point := by
  obtain ⟨entry, -, hpoint⟩ := List.mem_flatMap.1 h
  obtain ⟨index, -, rfl⟩ := List.exists_of_mem_mapIdx hpoint
  exact isCard_pointForRoutable ..

theorem isDiagnosticCard_of_mem_diagnosticPoints {point : AtlasPoint}
    (h : point ∈ diagnosticPoints model) : IsDiagnosticCard point := by
  obtain ⟨index, -, rfl⟩ := List.exists_of_mem_mapIdx h
  exact isDiagnosticCard_pointForDiagnostic ..

/-- The card of a diagnostic comes after that of a routable subject with its key. -/
theorem filter_layoutAtlas (model : AtlasModel) (key : String) :
    (layoutAtlas model).points.filter (fun point => point.subject = key) =
      (routablePoints model).filter (fun point => point.subject = key) ++
        (diagnosticPoints model).filter fun point => point.subject = key := by
  have hcls (points : List AtlasPoint) : points.filter (fun point => point.subject = key) =
      StableSort.cls (fun point => codeUnits point.subject) (codeUnits key) points :=
    List.filter_congr fun point _ =>
      decide_eq_decide.2 JavaScript.codeUnits_injective.eq_iff.symm
  rw [← List.filter_append, hcls, hcls, layoutAtlas, StableSort.cls_sortBy]
  rfl

theorem exists_mem_diagnosticPoints {subject : AtlasSubject} (h : subject ∈ model.subjects)
    (hnot : subject.routable = false) :
    ∃ point ∈ diagnosticPoints model, point.subject = subject.key := by
  have hkeys : (diagnosticPoints model).map AtlasPoint.subject =
      (sortBy (fun subject => codeUnits subject.key)
        (model.subjects.foldl addToLayout (∅, [])).2).map AtlasSubject.key := by
    rw [diagnosticPoints]
    apply map_mapIdx
    exact fun _ _ => rfl
  have hmem : subject.key ∈ (diagnosticPoints model).map AtlasPoint.subject := by
    rw [hkeys, diagnostics_foldl_addToLayout, List.nil_append]
    refine List.mem_map_of_mem (StableSort.mem_sortBy.2 (List.mem_filter.2 ⟨h, ?_⟩))
    rw [hnot]
    rfl
  exact List.mem_map.1 hmem

theorem exists_mem_routablePoints (h : model.isRoutable key = true) :
    ∃ point ∈ routablePoints model, point.subject = key := by
  obtain ⟨subject, hsubject, hand⟩ := List.any_eq_true.1 h
  rw [Bool.and_eq_true, beq_iff_eq] at hand
  obtain ⟨hroutable, rfl⟩ := hand
  refine List.mem_map.1 ((routablePoints_perm model).mem_iff.2 ?_)
  exact List.mem_map_of_mem (List.mem_filter.2 ⟨hsubject, hroutable⟩)

/-- The planner starts at the cards of the routable subjects exactly when no diagnostic has the
key of one. -/
theorem planner_cards_iff {input : AtlasRoutingInput}
    (hplans : Plans model (layoutAtlas model) input) (hclear : model.Unambiguous)
    (hnodup : model.routableKeys.Nodup) :
    (∀ key, model.isRoutable key = true →
      (routingPoints model (layoutAtlas model)).get? key = pointFor (layoutAtlas model) key) ↔
      model.KeysApart := by
  constructor
  · intro h subject hsubject hnot
    by_contra hroutable
    rw [Bool.not_eq_false] at hroutable
    obtain ⟨first, hfirst, hfirstKey⟩ := exists_mem_routablePoints hroutable
    obtain ⟨last, hlast, hlastKey⟩ := exists_mem_diagnosticPoints hsubject hnot
    have hpoints := filter_layoutAtlas model subject.key
    have hfronts : first ∈ (routablePoints model).filter fun point =>
        point.subject = subject.key := List.mem_filter.2 ⟨hfirst, decide_eq_true hfirstKey⟩
    have hbacks : last ∈ (diagnosticPoints model).filter fun point =>
        point.subject = subject.key := List.mem_filter.2 ⟨hlast, decide_eq_true hlastKey⟩
    -- the search finds a card at the right of the origin, the map keeps one at its left
    have hsearch : pointFor (layoutAtlas model) subject.key =
        ((routablePoints model).filter fun point => point.subject = subject.key).head? := by
      rw [pointFor, ← List.head?_filter]
      have hsame : (fun point : AtlasPoint => point.subject == subject.key) =
          fun point => decide (point.subject = subject.key) := rfl
      rw [hsame, hpoints, List.head?_append_of_ne_nil _ (List.ne_nil_of_mem hfronts)]
    have hmap : (routingPoints model (layoutAtlas model)).get? subject.key =
        ((diagnosticPoints model).filter fun point => point.subject = subject.key).getLast? := by
      rw [routingPoints, filterMap_safePoint_eq hplans.valid, get?_pointMap, List.filter_filter]
      have hsame : (fun point : AtlasPoint => decide (point.subject = subject.key) &&
            (routableKeysOf model).contains point.subject) =
          fun point => decide (point.subject = subject.key) := by
        funext point
        by_cases hkey : point.subject = subject.key
        · rw [hkey, contains_routableKeysOf hclear, hroutable, Bool.and_true]
        · rw [decide_eq_false hkey, Bool.false_and]
      rw [hsame, hpoints, List.getLast?_append_of_ne_nil _ (List.ne_nil_of_mem hbacks)]
    obtain ⟨card, hcard⟩ := Option.isSome_iff_exists.1
      (List.getLast?_isSome.2 (List.ne_nil_of_mem hbacks))
    have heq := h subject.key hroutable
    rw [hmap, hsearch, hcard] at heq
    have hleft := isDiagnosticCard_of_mem_diagnosticPoints
      (List.mem_filter.1 (List.mem_of_getLast? hcard)).1
    have hright := isCard_of_mem_routablePoints
      (List.mem_filter.1 (List.mem_of_head? heq.symm)).1
    have hx := hright.x_nonneg
    rw [hleft.x_eq] at hx
    norm_num at hx
  · intro happart key hroutable
    obtain ⟨point, hpoint, rfl⟩ := exists_mem_routablePoints hroutable
    have hmem : point ∈ (layoutAtlas model).points := by
      rw [layoutAtlas, StableSort.mem_sortBy]
      exact List.mem_append_left _ hpoint
    have hget := get?_routingPoints hplans hclear happart hnodup hmem hroutable
    rw [hget, pointFor_of_routingPoints hplans hclear happart hnodup hget]

end

/-! Clear ways -/

/-- A route leads from the card of its source to that of its target, and through no other card. -/
structure IsLegalRoute (layout : AtlasLayout) (route : AtlasPlannedRoute) : Prop where
  clear : ∃ source target, pointFor layout route.source = some source ∧
    pointFor layout route.target = some target ∧
    Leads source.centre target.centre route.segments ∧
    ∀ point ∈ layout.points, point ≠ source → point ≠ target →
      ∀ segment ∈ route.segments, segmentHitsInterior segment point = false
  positive : 1 ≤ route.segments.length
  short : route.segments.length ≤ 3
  avoids : routeAvoidsSubjectInteriors route layout = true

section

variable {model : AtlasModel} {input : AtlasRoutingInput}

theorem isLegalRoute_routeOf (hplans : Plans model (layoutAtlas model) input)
    (hclear : model.Unambiguous) (happart : model.KeysApart) (hnodup : model.routableKeys.Nodup)
    {state : RoutingState} {candidate : Candidate} {geometry : List AtlasRouteSegment}
    (h : candidateGeometry (routingContext model (layoutAtlas model) input) state candidate =
      some geometry) :
    IsLegalRoute (layoutAtlas model) (routeOf state candidate geometry) := by
  rw [candidateGeometry, Option.bind_eq_some_iff] at h
  obtain ⟨source, hsource, h⟩ := h
  rw [Option.bind_eq_some_iff] at h
  obtain ⟨target, htarget, hgeometry⟩ := h
  change (routingPoints model (layoutAtlas model)).get? candidate.source = some source at hsource
  change (routingPoints model (layoutAtlas model)).get? candidate.target = some target at htarget
  set cards := (routingContext model (layoutAtlas model) input).points.entries.map Prod.snd
    with hcards
  have hcard {card : AtlasPoint} (hcard : card ∈ cards) :
      card ∈ (layoutAtlas model).points ∧ model.isRoutable card.subject = true := by
    obtain ⟨⟨key, card⟩, hentry, rfl⟩ := List.mem_map.1 hcard
    obtain ⟨hmem, rfl, hroutable⟩ :=
      mem_of_routingPoints hplans hclear (InsertionMap.get?_eq_some_iff.2 hentry)
    exact ⟨hmem, hroutable⟩
  have hsourceCard := mem_of_routingPoints hplans hclear hsource
  have htargetCard := mem_of_routingPoints hplans hclear htarget
  have hway := isWay_of_routeGeometry hgeometry
  have hright := right_of_diagnostics hgeometry
    (by have := Nat.mod_lt state.routes.length (by decide : 0 < 8); omega)
    (List.ne_nil_of_mem (List.mem_map.2 ⟨_, InsertionMap.get?_eq_some_iff.1 hsource, rfl⟩))
    (fun card hmem => isCard_of_routable happart (hcard hmem).1 (hcard hmem).2)
    (isCard_of_routable happart hsourceCard.1 (hsourceCard.2.1 ▸ hsourceCard.2.2))
    (isCard_of_routable happart htargetCard.1 (htargetCard.2.1 ▸ htargetCard.2.2))
  -- a card is one of the planner's, or else stands in the column of the diagnostics
  have havoids : ∀ point ∈ (layoutAtlas model).points, point.subject ≠ candidate.source →
      point.subject ≠ candidate.target →
        ∀ segment ∈ geometry, segmentHitsInterior segment point = false := by
    intro point hpoint hnotSource hnotTarget segment hsegment
    cases hroutable : model.isRoutable point.subject with
    | true =>
      have hget := get?_routingPoints hplans hclear happart hnodup hpoint hroutable
      have hmem : point ∈ cards :=
        List.mem_map.2 ⟨_, InsertionMap.get?_eq_some_iff.1 hget, rfl⟩
      have hunique := get?_pointMap_of_unique hmem fun other hother hsubject =>
        card_unique happart hnodup hpoint (hcard hother).1 hsubject hroutable
      exact legal_iff.1 hway.legal _ _ hunique hnotSource hnotTarget segment hsegment
    | false =>
      obtain ⟨subject, hsubject, hkey, ⟨hrouted, -⟩ | ⟨-, hdiagnostic⟩⟩ := mem_layoutAtlas hpoint
      · rw [hkey, isRoutable_of_mem hsubject hrouted] at hroutable
        cases hroutable
      · exact not_hits_diagnostic (aligned_of_leads hway.leads segment hsegment)
          (hright segment hsegment) hdiagnostic
  refine ⟨⟨source, target, ?_, ?_, hway.leads, ?_⟩, hway.positive, hway.short, ?_⟩
  · exact pointFor_of_routingPoints hplans hclear happart hnodup hsource
  · exact pointFor_of_routingPoints hplans hclear happart hnodup htarget
  · intro point hpoint hnotSource hnotTarget
    refine havoids point hpoint (fun hsubject => hnotSource ?_) fun hsubject => hnotTarget ?_
    · exact card_unique happart hnodup hsourceCard.1 hpoint
        (hsubject.trans hsourceCard.2.1.symm) (hsourceCard.2.1 ▸ hsourceCard.2.2)
    · exact card_unique happart hnodup htargetCard.1 hpoint
        (hsubject.trans htargetCard.2.1.symm) (htargetCard.2.1 ▸ htargetCard.2.2)
  · refine legal_iff.2 fun key point hget hnotSource hnotTarget => ?_
    obtain ⟨hpoint, rfl⟩ := mem_of_get?_pointMap hget
    exact havoids point hpoint hnotSource hnotTarget

end

/-! The order of the records -/

theorem candidateSortKey_injective {left right : Candidate}
    (h : candidateSortKey left = candidateSortKey right)
    (hpopulation : left.bundlePopulation = right.bundlePopulation) : left = right := by
  rw [candidateSortKey, candidateSortKey] at h
  simp only [List.cons.injEq, and_true] at h
  obtain ⟨hselected, hclass, hsource, htarget, hevidence⟩ := h
  have hselected : left.selected = right.selected := by
    cases hleft : left.selected <;> cases hright : right.selected <;>
      simp [hleft, hright] at hselected ⊢
  cases left
  cases right
  simp only [Candidate.mk.injEq]
  exact ⟨JavaScript.codeUnits_injective hsource, JavaScript.codeUnits_injective htarget,
    wireName_injective (JavaScript.codeUnits_injective hclass),
    JavaScript.codeUnits_injective hevidence, hselected, hpopulation⟩

/-- The model with its records in another order. -/
def AtlasModel.reordered (model : AtlasModel) (relations : List AtlasRelation)
    (attachments : List AtlasAttachment) : AtlasModel :=
  { model with relations, attachments }

section

variable {model : AtlasModel} {relations : List AtlasRelation}
  {attachments : List AtlasAttachment} (hrelations : relations.Perm model.relations)
  (hattachments : attachments.Perm model.attachments) (layout : AtlasLayout)
  (input : AtlasRoutingInput)

include hrelations hattachments

theorem routingConnectors_reordered :
    (routingConnectors (model.reordered relations attachments) layout input).Perm
      (routingConnectors model layout input) :=
  (hrelations.map _).append (hattachments.map _)

theorem plans_reordered : Plans (model.reordered relations attachments) layout input ↔
    Plans model layout input := by
  have hlengths := hrelations.length_eq
  have hlengths' := hattachments.length_eq
  constructor
  · intro h
    exact ⟨h.lens, h.subjects, h.cards, hlengths.symm.le.trans h.relations,
      hlengths'.symm.le.trans h.attachments, h.valid, h.placed, h.regions⟩
  · intro h
    exact ⟨h.lens, h.subjects, h.cards, hlengths.le.trans h.relations,
      hlengths'.le.trans h.attachments, h.valid, h.placed, h.regions⟩

theorem lensCandidates_reordered :
    (lensCandidates (model.reordered relations attachments) input).Perm
      (lensCandidates model input) :=
  (hrelations.filterMap _).append (hattachments.filterMap _)

theorem orderedCandidates_reordered (h : Plans model layout input) :
    orderedCandidates (model.reordered relations attachments) layout input =
      orderedCandidates model layout input := by
  rw [orderedCandidates_eq h,
    orderedCandidates_eq ((plans_reordered hrelations hattachments layout input).2 h)]
  refine StableSort.sortBy_eq_of_perm (lensCandidates_reordered hrelations hattachments input) ?_
  intro left hleft right hright hkey
  have hpopulation {candidate : Candidate}
      (hcandidate : candidate ∈ lensCandidates (model.reordered relations attachments) input) :
      candidate.bundlePopulation = 1 := (mem_lensCandidates hcandidate).1
  exact candidateSortKey_injective hkey ((hpopulation hleft).trans (hpopulation hright).symm)

theorem planAtlasRoutes_reordered :
    planAtlasRoutes (model.reordered relations attachments) layout input =
      planAtlasRoutes model layout input := by
  have hiff := plans_reordered hrelations hattachments layout input
  by_cases hplans : Plans model layout input
  · have hordered := orderedCandidates_reordered hrelations hattachments layout input hplans
    have hcanonical : canonicalCandidates (model.reordered relations attachments) layout input =
        canonicalCandidates model layout input := by
      rw [canonicalCandidates, hordered, canonicalCandidates]
    have hstate : routingState (model.reordered relations attachments) layout input =
        routingState model layout input := by
      funext bundles
      rw [routingState, hordered, hcanonical, routingState]
      rfl
    rw [planAtlasRoutes_eq (hiff.2 hplans), planAtlasRoutes_eq hplans, hcanonical, hstate,
      (routingConnectors_reordered hrelations hattachments layout input).countP_eq]
  · rw [planAtlasRoutes_of_not hplans, planAtlasRoutes_of_not (mt hiff.1 hplans)]

end

/-! Plans -/

structure IsWithinBudgets (model : AtlasModel) (layout : AtlasLayout) (input : AtlasRoutingInput)
    (routes : List AtlasPlannedRoute) : Prop where
  total : (drawn routes).Within (caps model.subjects.length)
  regions : ∀ region ∈ regionsFor layout.points,
    (drawnIn region routes).Within (regionCaps model.subjects.length)
  viewport : (drawnIn (viewportRegion input.viewport (regionsFor layout.points)) routes).Within
    (caps model.subjects.length)

theorem isWithinBudgets_nil (model : AtlasModel) (layout : AtlasLayout)
    (input : AtlasRoutingInput) : IsWithinBudgets model layout input [] where
  total := ⟨Nat.zero_le _, Nat.zero_le _, Nat.zero_le _⟩
  regions := fun _ _ => ⟨Nat.zero_le _, Nat.zero_le _, Nat.zero_le _⟩
  viewport := ⟨Nat.zero_le _, Nat.zero_le _, Nat.zero_le _⟩

theorem isWithinBudgets_planAtlasRoutes (model : AtlasModel) (layout : AtlasLayout)
    (input : AtlasRoutingInput) :
    IsWithinBudgets model layout input (planAtlasRoutes model layout input).routes := by
  by_cases hplans : Plans model layout input
  · have hregions : (routingContext model layout input).regions = regionsFor layout.points := by
      rw [routingContext, filterMap_safePoint_eq hplans.valid]
    have hkeeps : KeepsBudgets (routingContext model layout input)
        (routingState model layout input (canonicalCandidates model layout input)) := by
      refine foldl_planCandidate _ _ (fun _ h => ⟨h.total, h.covers, h.limited⟩) (fun state candidate geometry h hroom _ hfits => ?_)
        (keepsBudgets_initial _) _
      exact keepsBudgets_accept (nodup_regionKeys _) h hroom hfits candidate
    rw [planAtlasRoutes_eq hplans]
    refine ⟨hkeeps.total, fun region hregion => ?_, (drawnIn_within _ _).trans hkeeps.total⟩
    rw [← hregions] at hregion
    exact (hkeeps.covers region hregion).trans (hkeeps.limited _)
  · rw [planAtlasRoutes_of_not hplans]
    exact isWithinBudgets_nil ..

/-- The planner comes to the records of the lens, and these ask for a connector. -/
def Draws (model : AtlasModel) (layout : AtlasLayout) (input : AtlasRoutingInput) : Prop :=
  Plans model layout input ∧ lensCandidates model input ≠ []

theorem routes_of_not_draws {model : AtlasModel} {layout : AtlasLayout} {input : AtlasRoutingInput}
    (h : ¬ Draws model layout input) : (planAtlasRoutes model layout input).routes = [] := by
  by_cases hplans : Plans model layout input
  · have hnone : lensCandidates model input = [] := by
      by_contra hne
      exact h ⟨hplans, hne⟩
    have hcanonical : canonicalCandidates model layout input = [] := by
      rw [canonicalCandidates, orderedCandidates_eq hplans, hnone]
      rfl
    rw [planAtlasRoutes_eq hplans, hcanonical]
    rfl
  · rw [planAtlasRoutes_of_not hplans]

theorem isLegalRoute_of_mem {model : AtlasModel} (hclear : model.Unambiguous)
    (happart : model.KeysApart) (hnodup : model.routableKeys.Nodup) {input : AtlasRoutingInput} :
    ∀ route ∈ (planAtlasRoutes model (layoutAtlas model) input).routes,
      IsLegalRoute (layoutAtlas model) route := by
  by_cases hplans : Plans model (layoutAtlas model) input
  · rw [planAtlasRoutes_eq hplans]
    refine foldl_planCandidate _ _
      (P := fun state => ∀ route ∈ state.routes, IsLegalRoute (layoutAtlas model) route)
      (fun _ h => h) (fun state candidate geometry h _ hgeometry _ => ?_) (List.forall_mem_nil _) _
    refine List.forall_mem_append.2 ⟨h, List.forall_mem_singleton.2 ?_⟩
    exact isLegalRoute_routeOf hplans hclear happart hnodup hgeometry
  · rw [planAtlasRoutes_of_not hplans]
    exact List.forall_mem_nil _

/-- The routes of a plan are clear and within their budgets, whatever the order of the records. -/
structure IsSoundPlan (model : AtlasModel) (input : AtlasRoutingInput) : Prop where
  legal : ∀ route ∈ (planAtlasRoutes model (layoutAtlas model) input).routes,
    IsLegalRoute (layoutAtlas model) route
  budgets : IsWithinBudgets model (layoutAtlas model) input
    (planAtlasRoutes model (layoutAtlas model) input).routes
  reordered : ∀ relations attachments, relations.Perm model.relations →
    attachments.Perm model.attachments →
    planAtlasRoutes (model.reordered relations attachments)
      (layoutAtlas (model.reordered relations attachments)) input =
        planAtlasRoutes model (layoutAtlas model) input

/-- A planner that draws works from the cards of the layout. -/
def WorksFromCards (model : AtlasModel) (input : AtlasRoutingInput) : Prop :=
  Draws model (layoutAtlas model) input → ∀ key, model.isRoutable key = true →
    (routingPoints model (layoutAtlas model)).get? key = pointFor (layoutAtlas model) key

/-- A plan is sound when there is no connector to draw between routable subjects, or no diagnostic
has the key of one. Otherwise the planner works from wrong cards. -/
theorem isSoundPlan_unless_shared (unicode : UnicodeTables) (map : AtlasRuntimeMapInput)
    (findings : Option FindingsOverlay) (input : AtlasRoutingInput) :
    (¬ Draws (projectRuntimeMap unicode map findings)
          (layoutAtlas (projectRuntimeMap unicode map findings)) input ∨
        (projectRuntimeMap unicode map findings).KeysApart →
      IsSoundPlan (projectRuntimeMap unicode map findings) input) ∧
    (WorksFromCards (projectRuntimeMap unicode map findings) input ↔
      ¬ Draws (projectRuntimeMap unicode map findings)
          (layoutAtlas (projectRuntimeMap unicode map findings)) input ∨
        (projectRuntimeMap unicode map findings).KeysApart) := by
  have hclear := unambiguous_projectRuntimeMap unicode map findings
  have hnodup := nodup_routableKeys unicode map findings
  constructor
  · refine fun h => ⟨?_, isWithinBudgets_planAtlasRoutes _ _ _, fun _ _ hrelations hattachments =>
      planAtlasRoutes_reordered hrelations hattachments _ _⟩
    rcases h with hnone | happart
    · rw [routes_of_not_draws hnone]
      exact List.forall_mem_nil _
    · exact isLegalRoute_of_mem hclear happart hnodup
  · rw [WorksFromCards, ← imp_iff_not_or]
    exact forall_congr' fun hdraws => planner_cards_iff hdraws.1 hclear hnodup

/-! A dependency beside a key that three records share -/

def dependsJson (source target : String) : Json :=
  edgeJson source target "depends_on"
    [dockerRefJson "docker_compose_depends_on" source "Docker reported a Compose dependency" []]

def besideCollision (keys : List String) : AtlasModel :=
  projectRuntimeMap plainTables
    (mapOf ((List.replicate 3 "dup" ++ keys).map fun key => nodeJson key "docker" "container")
      [dependsJson "docker_container_h" "docker_container_a"]) none

/-- A dependency of two containers is drawn, and no connector of a storage lens is. -/
theorem isSoundPlan_applied :
    IsSoundPlan (besideCollision ["docker_container_a", "docker_container_h"])
      { lens := .dependencies } ∧
    (planAtlasRoutes (besideCollision ["docker_container_a", "docker_container_h"])
      (layoutAtlas (besideCollision ["docker_container_a", "docker_container_h"]))
      { lens := .dependencies }).routes.length = 1 ∧
    IsSoundPlan (besideCollision ["atlas:collision:2", "docker_container_a",
      "docker_container_h"]) { lens := .storage } := by
  have happart : ∀ subject ∈
      (besideCollision ["docker_container_a", "docker_container_h"]).subjects,
      subject.routable = false →
        (besideCollision ["docker_container_a", "docker_container_h"]).isRoutable subject.key =
          false := by decide +kernel
  have hnone : lensCandidates (besideCollision ["atlas:collision:2", "docker_container_a",
      "docker_container_h"]) { lens := .storage } = [] := by
    refine List.length_eq_zero_iff.1 ?_
    decide +kernel
  exact ⟨(isSoundPlan_unless_shared plainTables _ none { lens := .dependencies }).1
      (Or.inr happart), by decide +kernel,
    (isSoundPlan_unless_shared plainTables _ none { lens := .storage }).1
      (Or.inl fun hdraws => hdraws.2 hnone)⟩

def dependencyOfNine : AtlasModel :=
  besideCollision ["atlas:collision:2", "docker_container_a", "docker_container_b",
    "docker_container_c", "docker_container_d", "docker_container_e", "docker_container_f",
    "docker_container_g", "docker_container_h"]

/-- A diagnostic takes the place of the first card, and the connector leads through two others. -/
theorem connector_through_cards : ¬ IsSoundPlan dependencyOfNine { lens := .dependencies } := by
  have hcrossed : ∃ route ∈ (planAtlasRoutes dependencyOfNine (layoutAtlas dependencyOfNine)
      { lens := .dependencies }).routes,
      routeAvoidsSubjectInteriors route (layoutAtlas dependencyOfNine) = false := by
    decide +kernel
  rintro ⟨hlegal, -, -⟩
  obtain ⟨route, hroute, hhits⟩ := hcrossed
  rw [(hlegal route hroute).avoids] at hhits
  cases hhits

def dependencyOfThree : AtlasModel :=
  besideCollision ["atlas:collision:2", "docker_container_a", "docker_container_h"]

/-- A diagnostic takes the place of the first card here too, but the one connector is straight and
hits no card: whether a shared key does harm is up to the connectors that are drawn. -/
theorem sound_though_shared : ¬ dependencyOfThree.KeysApart ∧
    (planAtlasRoutes dependencyOfThree (layoutAtlas dependencyOfThree)
      { lens := .dependencies }).routes.length = 1 ∧
    IsSoundPlan dependencyOfThree { lens := .dependencies } := by
  have hshared : ∃ subject ∈ dependencyOfThree.subjects, subject.routable = false ∧
      dependencyOfThree.isRoutable subject.key = true := by decide +kernel
  have hlegal : ∀ route ∈ (planAtlasRoutes dependencyOfThree (layoutAtlas dependencyOfThree)
      { lens := .dependencies }).routes,
      (∃ source ∈ pointFor (layoutAtlas dependencyOfThree) route.source,
        ∃ target ∈ pointFor (layoutAtlas dependencyOfThree) route.target,
          Leads source.centre target.centre route.segments ∧
          ∀ point ∈ (layoutAtlas dependencyOfThree).points, point ≠ source → point ≠ target →
            ∀ segment ∈ route.segments, segmentHitsInterior segment point = false) ∧
      1 ≤ route.segments.length ∧ route.segments.length ≤ 3 ∧
      routeAvoidsSubjectInteriors route (layoutAtlas dependencyOfThree) = true := by
    decide +kernel
  refine ⟨fun happart => ?_, by decide +kernel, fun route hroute => ?_,
    isWithinBudgets_planAtlasRoutes _ _ _, fun _ _ hrelations hattachments =>
      planAtlasRoutes_reordered hrelations hattachments _ _⟩
  · obtain ⟨subject, hsubject, hroutable, hkey⟩ := hshared
    rw [happart subject hsubject hroutable] at hkey
    cases hkey
  · obtain ⟨⟨source, hsource, target, htarget, hleads, hclear⟩, hpositive, hshort, havoids⟩ :=
      hlegal route hroute
    exact ⟨⟨source, target, hsource, htarget, hleads, hclear⟩, hpositive, hshort, havoids⟩

end DockerMap.Web.Atlas
