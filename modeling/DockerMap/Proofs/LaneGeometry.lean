import DockerMap.Proofs.AtlasLayout

/-! No two cards of a layout overlap, and the cards of a lane depend on the keys of its subjects
alone. -/

namespace DockerMap.Web.Atlas

open Api (asText)
open JavaScript (codeUnits codeUnits_injective)
open StableSort (sortBy)

/-! Cards -/

/-- The card at a place of a lane. -/
def cardAt (lane : ℕ) (key : String) (index : ℕ) : AtlasPoint where
  subject := key
  x := (lane * (Layout.columnsPerLane * (Layout.cardWidth + Layout.columnGap) + Layout.laneGap) +
    index % Layout.columnsPerLane * (Layout.cardWidth + Layout.columnGap) : ℕ)
  y := (index / Layout.columnsPerLane * (Layout.cardHeight + Layout.rowGap) : ℕ)
  width := Layout.cardWidth
  height := Layout.cardHeight

/-- The cards of a lane whose subjects have these keys. -/
def laneCards (lane : ℕ) (keys : List String) : List AtlasPoint :=
  (sortBy codeUnits keys).mapIdx fun index key => cardAt lane key index

theorem pointForRoutable_eq (lane : ℕ) (subject : AtlasSubject) (index : ℕ) :
    pointForRoutable lane subject index = cardAt lane subject.key index := rfl

theorem lanePoints_eq (lane : ℕ) (subjects : List AtlasSubject) :
    lanePoints (lane, subjects) = laneCards lane (subjects.map AtlasSubject.key) := by
  rw [laneCards, ← StableSort.map_sortBy]
  refine List.ext_getElem (by simp [lanePoints]) fun index hindex hindex' => ?_
  simp only [lanePoints, List.getElem_mapIdx, List.getElem_map, pointForRoutable_eq]

theorem rectanglesOverlap_comm (left right : AtlasPoint) :
    rectanglesOverlap left right = rectanglesOverlap right left := by
  rw [rectanglesOverlap, rectanglesOverlap, Bool.eq_iff_iff]
  simp only [Bool.and_eq_true, decide_eq_true_eq]
  tauto

/-- Cards that overlap are at the same place. -/
theorem place_of_overlap {lane lane' index index' : ℕ} {key key' : String}
    (h : rectanglesOverlap (cardAt lane key index) (cardAt lane' key' index') = true) :
    lane = lane' ∧ index = index' := by
  rw [rectanglesOverlap, Bool.and_eq_true, Bool.and_eq_true, Bool.and_eq_true, decide_eq_true_eq,
    decide_eq_true_eq, decide_eq_true_eq, decide_eq_true_eq] at h
  dsimp only [cardAt] at h
  norm_cast at h
  simp only [Layout.columnsPerLane, Layout.cardWidth, Layout.columnGap, Layout.laneGap,
    Layout.cardHeight, Layout.rowGap] at h
  have hcolumn := Nat.mod_lt index (show 8 > 0 by decide)
  have hcolumn' := Nat.mod_lt index' (show 8 > 0 by decide)
  have hlane : lane = lane' := by
    rcases lt_trichotomy lane lane' with hlt | heq | hgt
    · omega
    · exact heq
    · omega
  have hrow : index / 8 = index' / 8 := by omega
  refine ⟨hlane, ?_⟩
  omega

theorem row_of_overlap {subject subject' : AtlasSubject} {index index' : ℕ}
    (h : rectanglesOverlap (pointForDiagnostic subject index)
      (pointForDiagnostic subject' index') = true) : index = index' := by
  rw [rectanglesOverlap, Bool.and_eq_true, Bool.and_eq_true, Bool.and_eq_true, decide_eq_true_eq,
    decide_eq_true_eq, decide_eq_true_eq, decide_eq_true_eq] at h
  dsimp only [pointForDiagnostic] at h
  norm_cast at h
  simp only [Layout.diagnosticY, Layout.cardHeight, Layout.rowGap] at h
  omega

/-- The column of the diagnostics ends before the first lane. -/
theorem not_overlap_diagnostic {point point' : AtlasPoint} (h : IsCard point)
    (h' : IsDiagnosticCard point') : rectanglesOverlap point point' = false := by
  have hx := h.x_nonneg
  rw [rectanglesOverlap, h'.width, h'.x_eq]
  simp only [Bool.and_eq_false_iff, decide_eq_false_iff_not, not_lt]
  exact Or.inl (Or.inl (Or.inl (by linarith)))

theorem pairwise_mapIdx {α β : Type*} {r : β → β → Prop} {f : ℕ → α → β}
    (h : ∀ i j a b, i ≠ j → r (f i a) (f j b)) (l : List α) : (l.mapIdx f).Pairwise r := by
  rw [List.pairwise_iff_getElem]
  intro i j hi hj hlt
  rw [List.getElem_mapIdx, List.getElem_mapIdx]
  exact h i j _ _ hlt.ne

section

variable {point point' : AtlasPoint}

theorem exists_cardAt {entry : ℕ × List AtlasSubject} (h : point ∈ lanePoints entry) :
    ∃ key index, point = cardAt entry.1 key index := by
  obtain ⟨index, hindex, rfl⟩ := List.exists_of_mem_mapIdx h
  exact ⟨_, index, pointForRoutable_eq ..⟩

theorem exists_cardAt_flatMap {entries : List (ℕ × List AtlasSubject)}
    (h : point ∈ entries.flatMap lanePoints) : ∃ lane key index, point = cardAt lane key index := by
  obtain ⟨entry, -, hpoint⟩ := List.mem_flatMap.1 h
  exact ⟨entry.1, exists_cardAt hpoint⟩

theorem isCard_cardAt (lane : ℕ) (key : String) (index : ℕ) : IsCard (cardAt lane key index) where
  width := by norm_num [cardAt, Layout.cardWidth]
  height := by norm_num [cardAt, Layout.cardHeight]
  x_nonneg := Nat.cast_nonneg _

end

theorem pairwise_lanePoints (entry : ℕ × List AtlasSubject) :
    (lanePoints entry).Pairwise fun left right => rectanglesOverlap left right = false := by
  refine pairwise_mapIdx (fun index index' subject subject' hne => ?_) _
  rw [Bool.eq_false_iff]
  exact fun hoverlap => hne (place_of_overlap hoverlap).2

theorem pairwise_lanes {entries : List (ℕ × List AtlasSubject)}
    (h : (entries.map Prod.fst).Nodup) : (entries.flatMap lanePoints).Pairwise
      fun left right => rectanglesOverlap left right = false := by
  refine List.pairwise_flatMap.2 ⟨fun entry _ => pairwise_lanePoints entry, ?_⟩
  refine (List.pairwise_map.1 h).imp fun hne left hleft right hright => ?_
  obtain ⟨key, index, rfl⟩ := exists_cardAt hleft
  obtain ⟨key', index', rfl⟩ := exists_cardAt hright
  rw [Bool.eq_false_iff]
  exact fun hoverlap => hne (place_of_overlap hoverlap).1

/-- The cards do not overlap, whatever the model. -/
theorem pairwise_layoutAtlas (model : AtlasModel) : (layoutAtlas model).points.Pairwise
    fun left right => rectanglesOverlap left right = false := by
  rw [layoutAtlas]
  refine (StableSort.sortBy_perm _ _).symm.pairwise ?_ fun hoverlap => ?_
  · refine List.pairwise_append.2 ⟨?_, ?_, ?_⟩
    · apply pairwise_lanes
      exact ((StableSort.sortBy_perm _ _).map Prod.fst).nodup_iff.2 (InsertionMap.nodup _)
    · refine pairwise_mapIdx (fun index index' subject subject' hne => ?_) _
      rw [Bool.eq_false_iff]
      exact fun hoverlap => hne (row_of_overlap hoverlap)
    · intro left hleft right hright
      obtain ⟨lane, key, index, rfl⟩ := exists_cardAt_flatMap hleft
      obtain ⟨index', hindex', rfl⟩ := List.exists_of_mem_mapIdx hright
      exact not_overlap_diagnostic (isCard_cardAt ..) (isDiagnosticCard_pointForDiagnostic ..)
  · rw [rectanglesOverlap_comm]
    exact hoverlap

/-! Lanes -/

/-- A provider and a role; providers out of the list have a lane together. -/
abbrev LaneName := Option String × AtlasRole

def laneProvider (provider : Option Json) : Option String :=
  (asText provider).filter (· ∈ Layout.providers)

def laneOf (subject : AtlasSubject) : Option LaneName :=
  match subject.source with
  | .runtimeNode provider _ _ => some (laneProvider provider, subject.role)
  | .projection _ => none

/-- The keys of the subjects of a lane. -/
def laneKeys (model : AtlasModel) (lane : LaneName) : List String :=
  (model.subjects.filter fun subject => laneOf subject = some lane).map AtlasSubject.key

def laneNumber (lane : LaneName) : ℕ :=
  lane.1.elim Layout.providers.length Layout.providers.idxOf * Layout.roles.length +
    Layout.roles.idxOf lane.2

theorem laneOrdinal_eq (provider : Option Json) (role : AtlasRole) :
    laneOrdinal provider role = laneNumber (laneProvider provider, role) := by
  rw [laneOrdinal, laneNumber, laneProvider]
  cases asText provider with
  | none => rfl
  | some text =>
    by_cases hmem : text ∈ Layout.providers
    · rw [Option.filter_some_pos (by exact decide_eq_true hmem)]
    · rw [Option.filter_some_neg (by simpa using hmem), Option.elim_some, Option.elim_none,
        List.idxOf_eq_length hmem]

theorem idxOf_role_lt (role : AtlasRole) : Layout.roles.idxOf role < Layout.roles.length := by
  cases role <;> decide

theorem laneProvider_mem {provider : Option Json} {text : String}
    (h : laneProvider provider = some text) : text ∈ Layout.providers := by
  rw [laneProvider, Option.filter_eq_some_iff] at h
  exact of_decide_eq_true h.2

theorem laneNumber_inj {provider provider' : Option Json} {role role' : AtlasRole}
    (h : laneNumber (laneProvider provider, role) = laneNumber (laneProvider provider', role')) :
    (laneProvider provider, role) = (laneProvider provider', role') := by
  have hrole := idxOf_role_lt role
  have hrole' := idxOf_role_lt role'
  rw [laneNumber, laneNumber] at h
  generalize hi : Layout.roles.idxOf role = i at *
  generalize hj : Layout.roles.idxOf role' = j at *
  have hroles : i = j := by
    have hmod := congrArg (· % Layout.roles.length) h
    simpa [Nat.add_mod, Nat.mod_eq_of_lt hrole, Nat.mod_eq_of_lt hrole'] using hmod
  have hproviders := Nat.eq_of_mul_eq_mul_right (Nat.zero_lt_of_lt hrole)
    (Nat.add_right_cancel (hroles ▸ h))
  have hsame : role = role' :=
    List.idxOf_inj (by cases role <;> decide) |>.1 (hi.trans (hroles.trans hj.symm))
  refine Prod.ext ?_ hsame
  cases hleft : laneProvider provider with
  | none =>
    cases hright : laneProvider provider' with
    | none => rfl
    | some text =>
      have hlt := List.idxOf_lt_length_iff.2 (laneProvider_mem hright)
      rw [hleft, hright] at hproviders
      exact absurd hproviders hlt.ne'
  | some text =>
    have hmem := laneProvider_mem hleft
    cases hright : laneProvider provider' with
    | none =>
      rw [hleft, hright] at hproviders
      exact absurd hproviders (List.idxOf_lt_length_iff.2 hmem).ne
    | some text' =>
      rw [hleft, hright] at hproviders
      exact congrArg some ((List.idxOf_inj hmem).1 hproviders)

/-- Lanes with one number are one lane. -/
theorem lane_eq_of_number {subject subject' : AtlasSubject} {lane lane' : LaneName}
    (h : laneOf subject = some lane) (h' : laneOf subject' = some lane')
    (hnumber : laneNumber lane = laneNumber lane') : lane = lane' := by
  unfold laneOf at h h'
  cases hsource : subject.source with
  | projection rule =>
    rw [hsource] at h
    cases h
  | runtimeNode provider id kind =>
    cases hsource' : subject'.source with
    | projection rule =>
      rw [hsource'] at h'
      cases h'
    | runtimeNode provider' id' kind' =>
      rw [hsource] at h
      rw [hsource'] at h'
      obtain rfl := Option.some.inj h
      obtain rfl := Option.some.inj h'
      exact laneNumber_inj hnumber

/-! The cards of a lane -/

theorem group_foldl_addToLayout (subjects : List AtlasSubject) (number : ℕ)
    (state : InsertionMap ℕ (List AtlasSubject) × List AtlasSubject) :
    (subjects.foldl addToLayout state).1.group number = state.1.group number ++
      subjects.filter fun subject => (laneOf subject).map laneNumber = some number := by
  induction subjects generalizing state with
  | nil => exact (List.append_nil _).symm
  | cons subject subjects ih =>
    rw [List.foldl_cons, ih, List.filter_cons, addToLayout, laneOf]
    cases subject.source with
    | projection rule => rfl
    | runtimeNode provider id kind =>
      rw [InsertionMap.group_push, laneOrdinal_eq, List.append_assoc]
      by_cases hnumber : laneNumber (laneProvider provider, subject.role) = number
      · rw [if_pos hnumber.symm, if_pos (by simpa using hnumber)]
        rfl
      · rw [if_neg (Ne.symm hnumber), if_neg (by simpa using hnumber)]
        rfl

theorem inhabited_foldl_addToLayout (subjects : List AtlasSubject)
    {state : InsertionMap ℕ (List AtlasSubject) × List AtlasSubject} (h : state.1.Inhabited) :
    (subjects.foldl addToLayout state).1.Inhabited := by
  induction subjects generalizing state with
  | nil => exact h
  | cons subject subjects ih =>
    rw [List.foldl_cons]
    apply ih
    rw [addToLayout]
    cases subject.source with
    | projection rule => exact h
    | runtimeNode provider id kind => exact h.push _ subject

section

variable {model : AtlasModel} {lane : LaneName} {key : String}

theorem lane_subjects_eq (h : key ∈ laneKeys model lane) :
    (model.subjects.filter fun subject => (laneOf subject).map laneNumber = some (laneNumber lane)) =
      model.subjects.filter fun subject => laneOf subject = some lane := by
  obtain ⟨found, hfound, -⟩ := List.mem_map.1 h
  have hlane := of_decide_eq_true (List.mem_filter.1 hfound).2
  refine List.filter_congr fun subject _ => ?_
  rw [decide_eq_decide, Option.map_eq_some_iff]
  constructor
  · rintro ⟨lane', hlane', hnumber⟩
    rw [hlane', lane_eq_of_number hlane' hlane hnumber]
  · exact fun hsubject => ⟨lane, hsubject, rfl⟩

theorem laneCards_subset (h : key ∈ laneKeys model lane) :
    laneCards (laneNumber lane) (laneKeys model lane) ⊆ routablePoints model := by
  have hne : (model.subjects.filter fun subject => laneOf subject = some lane) ≠ [] := by
    intro hnil
    rw [laneKeys, hnil] at h
    cases h
  have hgroup := group_foldl_addToLayout model.subjects (laneNumber lane) (∅, [])
  rw [lane_subjects_eq h] at hgroup
  have hentry := InsertionMap.get?_eq_some_iff.1
    ((inhabited_foldl_addToLayout model.subjects InsertionMap.inhabited_empty).get?_eq_some_iff.2
      ⟨hgroup, hne⟩)
  intro point hpoint
  rw [laneKeys, ← lanePoints_eq] at hpoint
  exact List.mem_flatMap.2 ⟨_, StableSort.mem_sortBy.2 hentry, hpoint⟩

/-- The place of a key among the keys of its lane. -/
def laneIndex (keys : List String) (key : String) : ℕ := (sortBy codeUnits keys).idxOf key

theorem cardAt_mem_laneCards {keys : List String} (h : key ∈ keys) (number : ℕ) :
    cardAt number key (laneIndex keys key) ∈ laneCards number keys := by
  have hlt : laneIndex keys key < (sortBy codeUnits keys).length :=
    List.idxOf_lt_length_iff.2 (StableSort.mem_sortBy.2 h)
  refine List.mem_iff_getElem.2 ⟨laneIndex keys key, by simpa [laneCards] using hlt, ?_⟩
  simp only [laneCards, List.getElem_mapIdx]
  congr 1
  exact List.getElem_idxOf hlt

/-- The card that a key of a lane has. -/
theorem pointFor_layoutAtlas (hnodup : model.routableKeys.Nodup) (h : key ∈ laneKeys model lane) :
    pointFor (layoutAtlas model) key =
      some (cardAt (laneNumber lane) key (laneIndex (laneKeys model lane) key)) := by
  have hcount : (routablePoints model).countP (fun point => point.subject == key) ≤ 1 := by
    have hperm := (routablePoints_perm model).count_eq key
    rw [List.count, List.countP_map] at hperm
    exact hperm.trans_le (List.nodup_iff_count_le_one.1 hnodup key)
  have hfind : (routablePoints model).find? (fun point => point.subject == key) =
      some (cardAt (laneNumber lane) key (laneIndex (laneKeys model lane) key)) := by
    refine (SoleMember.find?_eq_some_iff hcount fun _ _ => id).2
      ⟨laneCards_subset h (cardAt_mem_laneCards h _), ?_⟩
    exact beq_self_eq_true _
  rw [pointFor, layoutAtlas]
  dsimp only
  rw [StableSort.find?_sortBy (k := codeUnits key), List.find?_append]
  swap
  · intro point
    rw [beq_iff_eq, codeUnits_injective.eq_iff]
  exact congrArg (Option.or · _) hfind

theorem nodup_laneKeys (hnodup : model.routableKeys.Nodup) : (laneKeys model lane).Nodup := by
  refine hnodup.sublist (List.Sublist.map _ ?_)
  refine List.monotone_filter_right _ fun subject hsubject => ?_
  have hlane := of_decide_eq_true hsubject
  unfold laneOf at hlane
  rw [AtlasSubject.routable]
  cases hsource : subject.source with
  | projection rule =>
    rw [hsource] at hlane
    cases hlane
  | runtimeNode provider id kind => rfl

theorem laneIndex_congr {keys keys' : List String} (h : keys.Perm keys') :
    laneIndex keys = laneIndex keys' := by
  have hsort : sortBy codeUnits keys = sortBy codeUnits keys' :=
    StableSort.sortBy_eq_of_perm h fun a _ b _ heq => codeUnits_injective heq
  funext key
  rw [laneIndex, hsort, laneIndex]

end

/-- No card overlaps another, every subject has one card, and the cards of a lane stay where they
are as long as the lane has the same keys. -/
theorem layout_disjoint_and_local (unicode : UnicodeTables) :
    (∀ input findings,
      (layoutAtlas (projectRuntimeMap unicode input findings)).points.Pairwise
        (fun left right => rectanglesOverlap left right = false) ∧
      ((layoutAtlas (projectRuntimeMap unicode input findings)).points.map
        AtlasPoint.subject).Perm
          ((projectRuntimeMap unicode input findings).subjects.map AtlasSubject.key)) ∧
    ∀ input findings input' findings' lane,
      (∀ key, key ∈ laneKeys (projectRuntimeMap unicode input findings) lane ↔
        key ∈ laneKeys (projectRuntimeMap unicode input' findings') lane) →
      ∀ key ∈ laneKeys (projectRuntimeMap unicode input findings) lane, ∃ point,
        pointFor (layoutAtlas (projectRuntimeMap unicode input findings)) key = some point ∧
        pointFor (layoutAtlas (projectRuntimeMap unicode input' findings')) key = some point := by
  refine ⟨fun input findings => ⟨pairwise_layoutAtlas _, layout_subjects_perm _⟩, ?_⟩
  intro input findings input' findings' lane hlane key hkey
  have hnodup := nodup_routableKeys unicode input findings
  have hnodup' := nodup_routableKeys unicode input' findings'
  have hperm := (List.perm_ext_iff_of_nodup (nodup_laneKeys hnodup) (nodup_laneKeys hnodup')).2 hlane
  refine ⟨_, pointFor_layoutAtlas hnodup hkey, ?_⟩
  rw [pointFor_layoutAtlas hnodup' ((hlane key).1 hkey), laneIndex_congr hperm]

/-! A container beside which a host appears -/

def containerAlone : AtlasRuntimeMapInput := mapOf [nodeJson "app" "docker" "container"] []

def containerAndHost : AtlasRuntimeMapInput :=
  mapOf [nodeJson "app" "docker" "container", nodeJson "host" "host" "host"] []

theorem layout_disjoint_and_local_applied : ∃ point,
    pointFor (layoutAtlas (projectRuntimeMap plainTables containerAlone none)) "app" = some point ∧
    pointFor (layoutAtlas (projectRuntimeMap plainTables containerAndHost none)) "app" =
      some point := by
  have halone : laneKeys (projectRuntimeMap plainTables containerAlone none)
      (some "docker", .primary) = ["app"] := by decide +kernel
  have hboth : laneKeys (projectRuntimeMap plainTables containerAndHost none)
      (some "docker", .primary) = ["app"] := by decide +kernel
  refine (layout_disjoint_and_local plainTables).2 containerAlone none containerAndHost none
    (some "docker", .primary) (fun key => by rw [halone, hboth]) "app" ?_
  rw [halone]
  exact List.mem_singleton_self _

end DockerMap.Web.Atlas
