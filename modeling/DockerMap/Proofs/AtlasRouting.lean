import DockerMap.Proofs.AtlasLayout
import DockerMap.Web.AtlasRouting

/-! The geometry of a planned route. It leads from card to card along the axes, clear of the cards
it knows of, and keeps to the right of the diagnostics. -/

namespace DockerMap.Web.Atlas

/-! Maps of points -/

theorem pointMap_concat (points : List AtlasPoint) (point : AtlasPoint) :
    pointMap (points ++ [point]) = (pointMap points).set point.subject point := by
  rw [pointMap, List.foldl_append]
  rfl

theorem get?_pointMap (points : List AtlasPoint) (key : String) :
    (pointMap points).get? key = (points.filter fun point => point.subject = key).getLast? := by
  induction points using List.reverseRecOn with
  | nil => rfl
  | append_singleton points point ih =>
    rw [pointMap_concat, InsertionMap.get?_set, List.filter_append]
    by_cases hkey : key = point.subject
    · rw [if_pos hkey, List.filter_cons_of_pos (by simp [hkey]), List.filter_nil,
        List.getLast?_append_of_ne_nil _ (List.cons_ne_nil _ _)]
      rfl
    · rw [if_neg hkey, List.filter_cons_of_neg (by simpa using Ne.symm hkey), List.filter_nil,
        List.append_nil, ih]

theorem mem_of_get?_pointMap {points : List AtlasPoint} {key : String} {point : AtlasPoint}
    (h : (pointMap points).get? key = some point) : point ∈ points ∧ point.subject = key := by
  rw [get?_pointMap] at h
  obtain ⟨hmem, hkey⟩ := List.mem_filter.1 (List.mem_of_getLast? h)
  exact ⟨hmem, of_decide_eq_true hkey⟩

theorem get?_pointMap_of_unique {points : List AtlasPoint} {point : AtlasPoint}
    (h : point ∈ points) (hunique : ∀ point' ∈ points, point'.subject = point.subject →
      point' = point) : (pointMap points).get? point.subject = some point := by
  rw [get?_pointMap]
  have hmem : point ∈ points.filter fun other => other.subject = point.subject :=
    List.mem_filter.2 ⟨h, decide_eq_true rfl⟩
  obtain ⟨last, hlast⟩ := Option.isSome_iff_exists.1
    (List.getLast?_isSome.2 (List.ne_nil_of_mem hmem))
  obtain ⟨hlastMem, hkey⟩ := List.mem_filter.1 (List.mem_of_getLast? hlast)
  rw [hlast, hunique last hlastMem (of_decide_eq_true hkey)]

theorem legal_iff {segments : List AtlasRouteSegment} {source target : String}
    {points : InsertionMap String AtlasPoint} :
    legal segments source target points = true ↔
      ∀ key point, points.get? key = some point → key ≠ source → key ≠ target →
        ∀ segment ∈ segments, segmentHitsInterior segment point = false := by
  rw [legal, List.all_eq_true]
  constructor
  · intro h key point hget hsource htarget segment hsegment
    have hentry := h (key, point) (InsertionMap.get?_eq_some_iff.1 hget)
    rw [beq_false_of_ne hsource, beq_false_of_ne htarget, Bool.false_or, Bool.false_or,
      Bool.not_eq_true', List.any_eq_false] at hentry
    exact Bool.eq_false_iff.2 (hentry segment hsegment)
  · rintro h ⟨key, point⟩ hentry
    by_cases hsource : key = source
    · rw [hsource, beq_self_eq_true]
      rfl
    · by_cases htarget : key = target
      · rw [htarget, beq_self_eq_true, Bool.or_true, Bool.true_or]
      · have hclear := h key point (InsertionMap.get?_eq_some_iff.2 hentry) hsource htarget
        have hany : (segments.any fun segment => segmentHitsInterior segment point) = false :=
          List.any_eq_false.2 fun segment hsegment => by
            rw [hclear segment hsegment]
            exact Bool.false_ne_true
        rw [hany, Bool.not_false, Bool.or_true]

/-! Extents -/

theorem le_foldl_min {bound : ℚ} (values : List ℚ) (start : ℚ) (hstart : bound ≤ start)
    (h : ∀ value ∈ values, bound ≤ value) : bound ≤ values.foldl min start := by
  induction values generalizing start with
  | nil => exact hstart
  | cons value values ih =>
    exact ih _ (le_min hstart (h value List.mem_cons_self))
      fun other hother => h other (List.mem_cons_of_mem _ hother)

theorem le_least {bound : ℚ} {values : List ℚ} (hne : values ≠ [])
    (h : ∀ value ∈ values, bound ≤ value) : bound ≤ least values := by
  cases values with
  | nil => exact absurd rfl hne
  | cons value values =>
    exact le_foldl_min values value (h value List.mem_cons_self)
      fun other hother => h other (List.mem_cons_of_mem _ hother)

theorem le_foldl_max (values : List ℚ) (start : ℚ) : start ≤ values.foldl max start := by
  induction values generalizing start with
  | nil => exact le_refl _
  | cons value values ih => exact (le_max_left start value).trans (ih _)

theorem le_greatest {bound : ℚ} {values : List ℚ} (hne : values ≠ [])
    (h : ∀ value ∈ values, bound ≤ value) : bound ≤ greatest values := by
  cases values with
  | nil => exact absurd rfl hne
  | cons value values => exact (h value List.mem_cons_self).trans (le_foldl_max values value)

/-! Routes -/

def AtlasPoint.centre (point : AtlasPoint) : ℚ × ℚ :=
  (point.x + point.width / 2, point.y + point.height / 2)

/-- The segments lead along the axes from one place to another. -/
def Leads (start stop : ℚ × ℚ) : List AtlasRouteSegment → Prop
  | [] => start = stop
  | segment :: rest => (segment.x1, segment.y1) = start ∧
      (segment.x1 = segment.x2 ∨ segment.y1 = segment.y2) ∧
      Leads (segment.x2, segment.y2) stop rest

instance decidableLeads (start stop : ℚ × ℚ) : (segments : List AtlasRouteSegment) →
    Decidable (Leads start stop segments)
  | [] => inferInstanceAs (Decidable (start = stop))
  | segment :: rest =>
      have := decidableLeads (segment.x2, segment.y2) stop rest
      inferInstanceAs (Decidable (_ ∧ _ ∧ _))

/-- A way between two cards that is clear of all others on the map. -/
structure IsWay (source target : AtlasPoint) (allPoints : List AtlasPoint)
    (sourceKey targetKey : String) (segments : List AtlasRouteSegment) : Prop where
  leads : Leads source.centre target.centre segments
  positive : 1 ≤ segments.length
  short : segments.length ≤ 3
  legal : legal segments sourceKey targetKey (pointMap allPoints) = true

section

variable {source target : AtlasPoint} {allPoints : List AtlasPoint}
  {sourceKey targetKey : String} {offset : ℕ} {segments : List AtlasRouteSegment}

theorem isWay_of_routeGeometry
    (h : routeGeometry source target allPoints sourceKey targetKey offset = some segments) :
    IsWay source target allPoints sourceKey targetKey segments := by
  rw [routeGeometry] at h
  dsimp only at h
  split_ifs at h with hdirect
  · cases h
    exact ⟨⟨rfl, hdirect.1, rfl⟩, by simp, by simp, hdirect.2⟩
  · have hlegal := List.find?_some h
    have hmem := List.mem_of_find?_eq_some h
    simp only [List.mem_cons, List.not_mem_nil, or_false] at hmem
    obtain rfl | rfl | rfl | rfl := hmem
    · exact ⟨⟨rfl, Or.inr rfl, rfl, Or.inl rfl, rfl, Or.inr rfl, rfl⟩, by simp, by simp, hlegal⟩
    · exact ⟨⟨rfl, Or.inr rfl, rfl, Or.inl rfl, rfl, Or.inr rfl, rfl⟩, by simp, by simp, hlegal⟩
    · exact ⟨⟨rfl, Or.inl rfl, rfl, Or.inr rfl, rfl, Or.inl rfl, rfl⟩, by simp, by simp, hlegal⟩
    · exact ⟨⟨rfl, Or.inl rfl, rfl, Or.inr rfl, rfl, Or.inl rfl, rfl⟩, by simp, by simp, hlegal⟩

/-- How far to the left a route can go. -/
def leftBound : ℚ := -39

/-- The rails stay close to the cards. -/
theorem right_of_diagnostics
    (h : routeGeometry source target allPoints sourceKey targetKey offset = some segments)
    (hoffset : offset ≤ 21) (hne : allPoints ≠ []) (hcards : ∀ point ∈ allPoints, IsCard point)
    (hsource : IsCard source) (htarget : IsCard target) :
    ∀ segment ∈ segments, leftBound ≤ segment.x1 ∧ leftBound ≤ segment.x2 := by
  have hoffset : (offset : ℚ) ≤ 21 := by exact_mod_cast hoffset
  have hoffsetNonneg : (0 : ℚ) ≤ offset := Nat.cast_nonneg offset
  have hleast : 0 ≤ least (allPoints.map (·.x)) := by
    refine le_least (by simpa using hne) fun value hvalue => ?_
    obtain ⟨point, hpoint, rfl⟩ := List.mem_map.1 hvalue
    exact (hcards point hpoint).x_nonneg
  have hgreatest : 0 ≤ greatest (allPoints.map fun point => point.x + point.width) := by
    refine le_greatest (by simpa using hne) fun value hvalue => ?_
    obtain ⟨point, hpoint, rfl⟩ := List.mem_map.1 hvalue
    rw [(hcards point hpoint).width]
    have hx := (hcards point hpoint).x_nonneg
    linarith
  have hstart : leftBound ≤ source.x + source.width / 2 := by
    rw [hsource.width, leftBound]
    have hx := hsource.x_nonneg
    linarith
  have hend : leftBound ≤ target.x + target.width / 2 := by
    rw [htarget.width, leftBound]
    have hx := htarget.x_nonneg
    linarith
  have hleft : leftBound ≤ least (allPoints.map (·.x)) - 18 - offset := by
    rw [leftBound]
    linarith
  have hright : leftBound ≤
      greatest (allPoints.map fun point => point.x + point.width) + 18 + offset := by
    rw [leftBound]
    linarith
  rw [routeGeometry] at h
  dsimp only at h
  split_ifs at h
  · cases h
    simp only [List.mem_singleton, forall_eq]
    exact ⟨hstart, hend⟩
  · have hmem := List.mem_of_find?_eq_some h
    simp only [List.mem_cons, List.not_mem_nil, or_false] at hmem
    obtain rfl | rfl | rfl | rfl := hmem
    · simp only [List.forall_mem_cons, List.not_mem_nil, false_implies, implies_true, and_true]
      exact ⟨⟨hstart, hleft⟩, ⟨hleft, hleft⟩, hleft, hend⟩
    · simp only [List.forall_mem_cons, List.not_mem_nil, false_implies, implies_true, and_true]
      exact ⟨⟨hstart, hright⟩, ⟨hright, hright⟩, hright, hend⟩
    · simp only [List.forall_mem_cons, List.not_mem_nil, false_implies, implies_true, and_true]
      exact ⟨⟨hstart, hstart⟩, ⟨hstart, hend⟩, hend, hend⟩
    · simp only [List.forall_mem_cons, List.not_mem_nil, false_implies, implies_true, and_true]
      exact ⟨⟨hstart, hstart⟩, ⟨hstart, hend⟩, hend, hend⟩

end

theorem aligned_of_leads {segments : List AtlasRouteSegment} {start stop : ℚ × ℚ}
    (h : Leads start stop segments) :
    ∀ segment ∈ segments, segment.x1 = segment.x2 ∨ segment.y1 = segment.y2 := by
  induction segments generalizing start with
  | nil => exact fun segment hsegment => by cases hsegment
  | cons first rest ih =>
    obtain ⟨-, haligned, hrest⟩ := h
    exact List.forall_mem_cons.2 ⟨haligned, ih hrest⟩

/-- The column of the diagnostics is out of reach. -/
theorem not_hits_diagnostic {segment : AtlasRouteSegment} {point : AtlasPoint}
    (haligned : segment.x1 = segment.x2 ∨ segment.y1 = segment.y2)
    (hleft : leftBound ≤ segment.x1 ∧ leftBound ≤ segment.x2) (hpoint : IsDiagnosticCard point) :
    segmentHitsInterior segment point = false := by
  have hbound : point.x + point.width < leftBound := by
    rw [hpoint.x_eq, hpoint.width, leftBound]
    norm_num
  rw [segmentHitsInterior]
  split_ifs with hvertical hhorizontal
  · have hright : ¬ segment.x1 < point.x + point.width := by linarith [hleft.1]
    rw [decide_eq_false hright, Bool.and_false, Bool.false_and]
  · have hmin : leftBound ≤ min segment.x1 segment.x2 := le_min hleft.1 hleft.2
    have hright : ¬ max (min segment.x1 segment.x2) point.x <
        min (max segment.x1 segment.x2) (point.x + point.width) := by
      rw [not_lt]
      refine (min_le_right _ _).trans (le_max_of_le_left ?_)
      linarith
    rw [decide_eq_false hright, Bool.and_false]
  · exact absurd haligned (not_or.2 ⟨hvertical, hhorizontal⟩)

end DockerMap.Web.Atlas
