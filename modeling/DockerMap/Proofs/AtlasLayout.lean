import DockerMap.Lib.SoleMember
import DockerMap.Proofs.AtlasProjection
import DockerMap.Web.AtlasLayout

/-! The cards of the layout. Every subject of the model has one, the routable ones at the right of
the origin and the diagnostics in their column at its left. -/

namespace DockerMap.Web.Atlas

open StableSort (sortBy)

theorem map_mapIdx {α β γ : Type*} {f : ℕ → α → β} {g : β → γ} {k : α → γ}
    (h : ∀ i a, g (f i a) = k a) (l : List α) : (l.mapIdx f).map g = l.map k := by
  refine List.ext_getElem (by simp) fun i hi hi' => ?_
  rw [List.getElem_map, List.getElem_mapIdx, List.getElem_map, h]

section

variable (subjects : List AtlasSubject)

theorem lanes_foldl_addToLayout (state : InsertionMap ℕ (List AtlasSubject) × List AtlasSubject) :
    ((subjects.foldl addToLayout state).1.entries.flatMap Prod.snd).Perm
      (state.1.entries.flatMap Prod.snd ++ subjects.filter AtlasSubject.routable) := by
  induction subjects generalizing state with
  | nil => rw [List.filter_nil, List.append_nil]; exact List.Perm.refl _
  | cons subject subjects ih =>
    rw [List.foldl_cons]
    refine (ih _).trans ?_
    rw [addToLayout]
    cases hsource : subject.source with
    | runtimeNode provider id kind =>
      have hroutable : subject.routable = true := by
        rw [AtlasSubject.routable, hsource]
        rfl
      rw [List.filter_cons_of_pos hroutable]
      refine ((InsertionMap.flatMap_push_perm ..).append_right _).trans ?_
      rw [List.append_assoc]
      exact List.Perm.refl _
    | projection rule =>
      have hroutable : ¬ subject.routable = true := by
        rw [AtlasSubject.routable, hsource]
        exact Bool.false_ne_true
      rw [List.filter_cons_of_neg hroutable]

theorem diagnostics_foldl_addToLayout
    (state : InsertionMap ℕ (List AtlasSubject) × List AtlasSubject) :
    (subjects.foldl addToLayout state).2 =
      state.2 ++ subjects.filter fun subject => !subject.routable := by
  induction subjects generalizing state with
  | nil => exact (List.append_nil _).symm
  | cons subject subjects ih =>
    rw [List.foldl_cons, ih, addToLayout]
    cases hsource : subject.source with
    | runtimeNode provider id kind =>
      have hroutable : ¬ (!subject.routable) = true := by
        rw [AtlasSubject.routable, hsource]
        exact Bool.false_ne_true
      rw [List.filter_cons_of_neg (by exact hroutable)]
    | projection rule =>
      have hroutable : (!subject.routable) = true := by
        rw [AtlasSubject.routable, hsource]
        rfl
      rw [List.filter_cons_of_pos (by exact hroutable), List.append_assoc]
      rfl

end

/-! Cards -/

/-- The card of a routable subject. -/
structure IsCard (point : AtlasPoint) : Prop where
  width : point.width = 46
  height : point.height = 30
  x_nonneg : 0 ≤ point.x

/-- A card in the column of the diagnostics. -/
structure IsDiagnosticCard (point : AtlasPoint) : Prop where
  width : point.width = 46
  x_eq : point.x = -128

section

variable {model : AtlasModel} {point : AtlasPoint}

theorem isCard_pointForRoutable (lane : ℕ) (subject : AtlasSubject) (index : ℕ) :
    IsCard (pointForRoutable lane subject index) where
  width := by norm_num [pointForRoutable, Layout.cardWidth]
  height := by norm_num [pointForRoutable, Layout.cardHeight]
  x_nonneg := Nat.cast_nonneg _

theorem isDiagnosticCard_pointForDiagnostic (subject : AtlasSubject) (index : ℕ) :
    IsDiagnosticCard (pointForDiagnostic subject index) where
  width := by norm_num [pointForDiagnostic, Layout.cardWidth]
  x_eq := by norm_num [pointForDiagnostic, Layout.diagnosticX]

/-- What a card of the layout stands for. -/
theorem mem_layoutAtlas (h : point ∈ (layoutAtlas model).points) :
    ∃ subject ∈ model.subjects, point.subject = subject.key ∧
      (subject.routable = true ∧ IsCard point ∨
        subject.routable = false ∧ IsDiagnosticCard point) := by
  rw [layoutAtlas, StableSort.mem_sortBy, List.mem_append] at h
  obtain h | h := h
  · obtain ⟨entry, hentry, hpoint⟩ := List.mem_flatMap.1 h
    obtain ⟨index, hindex, rfl⟩ := List.exists_of_mem_mapIdx hpoint
    have hmem := StableSort.mem_sortBy.1 (List.getElem_mem hindex)
    have hflat := List.mem_flatMap.2 ⟨entry, StableSort.mem_sortBy.1 hentry, hmem⟩
    obtain ⟨hsubject, hroutable⟩ := List.mem_filter.1
      ((lanes_foldl_addToLayout model.subjects (∅, [])).mem_iff.1 hflat)
    exact ⟨_, hsubject, rfl, Or.inl ⟨hroutable, isCard_pointForRoutable ..⟩⟩
  · obtain ⟨index, hindex, rfl⟩ := List.exists_of_mem_mapIdx h
    have hmem := StableSort.mem_sortBy.1 (List.getElem_mem hindex)
    generalize (sortBy _ _)[index] = subject at hmem ⊢
    rw [diagnostics_foldl_addToLayout] at hmem
    obtain ⟨hsubject, hroutable⟩ := List.mem_filter.1 hmem
    exact ⟨_, hsubject, rfl, Or.inr ⟨by simpa using hroutable, isDiagnosticCard_pointForDiagnostic ..⟩⟩

theorem map_subject_lanePoints (entry : ℕ × List AtlasSubject) :
    ((lanePoints entry).map AtlasPoint.subject).Perm (entry.2.map AtlasSubject.key) := by
  have hkeys (l : List AtlasSubject) : (l.mapIdx fun index subject =>
      pointForRoutable entry.1 subject index).map AtlasPoint.subject = l.map AtlasSubject.key := by
    apply map_mapIdx
    exact fun _ _ => rfl
  rw [lanePoints, hkeys]
  exact (StableSort.sortBy_perm _ _).map _

/-- The cards of the lanes. -/
def routablePoints (model : AtlasModel) : List AtlasPoint :=
  (sortBy Prod.fst (model.subjects.foldl addToLayout (∅, [])).1.entries).flatMap lanePoints

theorem routablePoints_perm (model : AtlasModel) :
    ((routablePoints model).map AtlasPoint.subject).Perm
      ((model.subjects.filter AtlasSubject.routable).map AtlasSubject.key) := by
  rw [routablePoints, List.map_flatMap]
  refine (List.Perm.flatMap_left _ fun entry _ => map_subject_lanePoints entry).trans ?_
  refine ((StableSort.sortBy_perm _ _).flatMap_right _).trans ?_
  rw [← List.map_flatMap]
  exact (lanes_foldl_addToLayout model.subjects (∅, [])).map _

/-- Every subject has one card. -/
theorem layout_subjects_perm (model : AtlasModel) :
    ((layoutAtlas model).points.map AtlasPoint.subject).Perm
      (model.subjects.map AtlasSubject.key) := by
  have hkeys (l : List AtlasSubject) : (l.mapIdx fun index subject =>
      pointForDiagnostic subject index).map AtlasPoint.subject = l.map AtlasSubject.key := by
    apply map_mapIdx
    exact fun _ _ => rfl
  rw [layoutAtlas]
  refine ((StableSort.sortBy_perm _ _).map _).trans ?_
  rw [List.map_append, hkeys]
  refine ((routablePoints_perm model).append ((StableSort.sortBy_perm _ _).map _)).trans ?_
  rw [diagnostics_foldl_addToLayout, List.nil_append, ← List.map_append]
  exact (List.filter_append_perm _ _).map _

end

/-! One card for one key -/

/-- No diagnostic has the key of a routable subject. -/
def AtlasModel.KeysApart (model : AtlasModel) : Prop :=
  ∀ subject ∈ model.subjects, subject.routable = false → model.isRoutable subject.key = false

section

variable {model : AtlasModel}

theorem isRoutable_of_mem {subject : AtlasSubject} (h : subject ∈ model.subjects)
    (hroutable : subject.routable = true) : model.isRoutable subject.key = true := by
  refine List.any_eq_true.2 ⟨subject, h, ?_⟩
  rw [hroutable, beq_self_eq_true]
  rfl

theorem count_routable_key (happart : model.KeysApart) (hnodup : model.routableKeys.Nodup)
    {key : String} (h : model.isRoutable key = true) :
    (model.subjects.map AtlasSubject.key).count key ≤ 1 := by
  have hcount : (model.subjects.map AtlasSubject.key).count key =
      model.routableKeys.count key := by
    rw [AtlasModel.routableKeys, List.count_eq_countP, List.count_eq_countP, List.countP_map,
      List.countP_map, List.countP_filter]
    refine List.countP_congr fun subject hsubject => ?_
    simp only [Function.comp_apply, beq_iff_eq, Bool.and_eq_true]
    refine ⟨fun hkey => ⟨hkey, ?_⟩, And.left⟩
    by_contra hnot
    have hfalse := happart subject hsubject (Bool.eq_false_iff.2 hnot)
    rw [hkey, h] at hfalse
    cases hfalse
  rw [hcount]
  exact List.nodup_iff_count_le_one.1 hnodup key

/-- A routable subject has one card. -/
theorem card_unique (happart : model.KeysApart) (hnodup : model.routableKeys.Nodup)
    {point point' : AtlasPoint} (h : point ∈ (layoutAtlas model).points)
    (h' : point' ∈ (layoutAtlas model).points) (hsubject : point'.subject = point.subject)
    (hroutable : model.isRoutable point.subject = true) : point' = point := by
  have hcount := count_routable_key happart hnodup hroutable
  rw [← (layout_subjects_perm model).count_eq] at hcount
  exact SoleMember.eq_of_count_map_le_one hcount h h' hsubject

/-- The card of a routable key is no diagnostic's. -/
theorem isCard_of_routable (happart : model.KeysApart) {point : AtlasPoint}
    (h : point ∈ (layoutAtlas model).points) (hroutable : model.isRoutable point.subject = true) :
    IsCard point := by
  obtain ⟨subject, hsubject, hkey, ⟨-, hcard⟩ | ⟨hnot, -⟩⟩ := mem_layoutAtlas h
  · exact hcard
  · have hfalse := happart subject hsubject hnot
    rw [← hkey, hroutable] at hfalse
    cases hfalse

end

end DockerMap.Web.Atlas
