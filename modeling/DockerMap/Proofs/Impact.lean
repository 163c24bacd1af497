import DockerMap.Lib.SoleMember
import DockerMap.Web.SystemModel

/-! Impact analysis against reachability along the dependencies of the model. -/

namespace DockerMap.Web

open Traversal

/-! Keys that occur once -/

section

variable {α : Type} {keys : List String} {key : String}

theorem get?_countKeys (hkey : key ≠ "") (keys : List String) :
    ((countKeys keys).get? key).getD 0 = keys.count key := by
  induction keys using List.reverseRecOn with
  | nil => rfl
  | append_singleton keys k ih =>
    rw [countKeys, List.foldl_append, List.foldl_cons, List.foldl_nil, ← countKeys,
      List.count_append, List.count_singleton, ← ih]
    split_ifs with hempty hk hk
    · exact absurd ((beq_iff_eq.1 hk).symm.trans hempty) hkey
    · rfl
    · rw [InsertionMap.get?_set, if_pos (beq_iff_eq.1 hk).symm, beq_iff_eq.1 hk]
      rfl
    · rw [InsertionMap.get?_set, if_neg fun heq => hk (beq_iff_eq.2 heq.symm)]
      rfl

theorem isCollided_iff (hkey : key ≠ "") : isCollided keys key = true ↔ 1 < keys.count key := by
  rw [isCollided, get?_countKeys hkey, decide_eq_true_eq]

/-- A key that names one record. -/
def IsSole (keys : List String) (key : String) : Prop :=
  key ∈ keys ∧ key ≠ "" ∧ ¬ isCollided keys key

variable {keyFor : α → String} {records : List α} {record : α}

/-- The first record of a key is indexed, unless the key is empty or collides. -/
theorem get?_identityIndex (keyFor : α → String) (records : List α) (key : String) :
    (identityIndex keyFor records).get? key =
      if key = "" ∨ isCollided (records.map keyFor) key then none
      else records.find? fun record => keyFor record = key := by
  rw [identityIndex]
  generalize records.map keyFor = keys
  induction records using List.reverseRecOn with
  | nil =>
    rw [List.foldl_nil, InsertionMap.get?_empty]
    split_ifs
    · rfl
    · rfl
  | append_singleton records record ih =>
    rw [List.foldl_append, List.foldl_cons, List.foldl_nil]
    dsimp only
    generalize List.foldl (fun (index : InsertionMap String α) record =>
      if keyFor record = "" ∨ isCollided keys (keyFor record) = true ∨
          (index.get? (keyFor record)).isSome then index
      else index.set (keyFor record) record) ∅ records = index at ih ⊢
    rw [List.find?_append, List.find?_singleton]
    by_cases hrecord : keyFor record = key
    · subst hrecord
      by_cases hbad : keyFor record = "" ∨ isCollided keys (keyFor record) = true
      · rw [if_pos hbad] at ih ⊢
        rw [if_pos (hbad.imp_right Or.inl), ih]
      · rw [if_neg hbad] at ih ⊢
        rw [← ih, decide_eq_true rfl, if_pos rfl]
        cases hget : index.get? (keyFor record) with
        | none =>
          have hnew : ¬ (keyFor record = "" ∨ isCollided keys (keyFor record) = true ∨
              (none : Option α).isSome = true) := by
            rw [← or_assoc]
            exact not_or.2 ⟨hbad, by simp⟩
          rw [if_neg hnew, InsertionMap.get?_set, if_pos rfl]
          rfl
        | some found =>
          have hthere : keyFor record = "" ∨ isCollided keys (keyFor record) = true ∨
              (some found).isSome = true := Or.inr (Or.inr rfl)
          rw [if_pos hthere, hget]
          rfl
    · have hnone : (if decide (keyFor record = key) = true then some record else none) = none :=
        if_neg (by simpa using hrecord)
      rw [hnone, Option.or_none, ← ih]
      split_ifs
      · rfl
      · rw [InsertionMap.get?_set, if_neg (Ne.symm hrecord)]

theorem get?_identityIndex_eq_some : (identityIndex keyFor records).get? key = some record ↔
    record ∈ records ∧ keyFor record = key ∧ IsSole (records.map keyFor) key := by
  rw [get?_identityIndex]
  constructor
  · intro h
    split_ifs at h with hbad
    have hkey : keyFor record = key := by simpa using List.find?_some h
    have hmem := List.mem_of_find?_eq_some h
    exact ⟨hmem, hkey, List.mem_map.2 ⟨record, hmem, hkey⟩, not_or.1 hbad⟩
  · rintro ⟨hmem, rfl, -, hnot⟩
    rw [if_neg (not_or.2 hnot)]
    cases hfind : records.find? fun other => keyFor other = keyFor record with
    | none => exact absurd (decide_eq_true rfl) (List.find?_eq_none.1 hfind record hmem)
    | some other =>
      have hother : keyFor other = keyFor record := by simpa using List.find?_some hfind
      have hcount : (records.map keyFor).count (keyFor record) ≤ 1 :=
        not_lt.1 fun hlt => hnot.2 ((isCollided_iff hnot.1).2 hlt)
      rw [SoleMember.eq_of_count_map_le_one hcount hmem (List.mem_of_find?_eq_some hfind) hother]

/-! Aliases -/

variable {aliasesFor : α → List String} {valueFor : α → String}

theorem valueFor_of_owner {name : String} {occurrence : ℕ}
    (h : occurrence ∈ (aliasOwners aliasesFor valueFor records).group name) :
    ∃ record, records[occurrence]? = some record ∧ valueFor record ≠ "" := by
  rw [aliasOwners] at h
  have hall : ∀ entry ∈ records.zipIdx, records[entry.2]? = some entry.1 := fun entry hentry =>
    List.mem_zipIdx_iff_getElem?.1 hentry
  generalize records.zipIdx = entries at h hall
  induction entries using List.reverseRecOn with
  | nil => cases h
  | append_singleton entries entry ih =>
    rw [List.forall_mem_append] at hall
    rw [List.foldl_append, List.foldl_cons, List.foldl_nil] at h
    split_ifs at h with hvalue
    · exact ih h hall.1
    · -- one owner is added to each alias of the record
      generalize (aliasesFor entry.1).dedup = names at h
      induction names using List.reverseRecOn with
      | nil => exact ih h hall.1
      | append_singleton names owned ih' =>
        rw [List.foldl_append, List.foldl_cons, List.foldl_nil] at h
        split_ifs at h
        · exact ih' h
        · rw [InsertionMap.group_push, List.mem_append] at h
          rcases h with h | h
          · exact ih' h
          · split_ifs at h
            · rw [List.mem_singleton.1 h]
              exact ⟨entry.1, hall.2 entry (List.mem_singleton_self entry), hvalue⟩
            · cases h

/-- An alias resolves to the identity of one record. -/
theorem isSole_of_aliasIndex {name value : String}
    (h : (aliasIndex aliasesFor valueFor records).get? name = some value) :
    IsSole (records.map valueFor) value := by
  rw [aliasIndex] at h
  have hall : ∀ entry ∈ (aliasOwners aliasesFor valueFor records).entries,
      ∀ occurrence ∈ entry.2, ∃ record, records[occurrence]? = some record ∧
        valueFor record ≠ "" := by
    intro entry hentry occurrence hoccurrence
    have howner : occurrence ∈ (aliasOwners aliasesFor valueFor records).group entry.1 := by
      rw [InsertionMap.group, InsertionMap.get?_eq_some_iff.2 hentry]
      exact hoccurrence
    exact valueFor_of_owner howner
  generalize (aliasOwners aliasesFor valueFor records).entries = entries at h hall
  induction entries using List.reverseRecOn with
  | nil => cases h
  | append_singleton entries entry ih =>
    rw [List.forall_mem_append] at hall
    rw [List.foldl_append, List.foldl_cons, List.foldl_nil] at h
    split at h
    · rename_i occurrence hentry
      obtain ⟨record, hrecord, hvalue⟩ := hall.2 entry (List.mem_singleton_self entry) occurrence
        (by rw [hentry]; exact List.mem_singleton_self occurrence)
      rw [hrecord] at h
      dsimp only at h
      split_ifs at h with hcollided
      · exact ih h hall.1
      · rw [InsertionMap.get?_set] at h
        split_ifs at h
        · cases h
          exact ⟨List.mem_map_of_mem (List.mem_of_getElem? hrecord), hvalue, hcollided⟩
        · exact ih h hall.1
    · exact ih h hall.1

end

/-! Dependencies -/

section

variable {containers : List ContainerRecord} {container : ContainerRecord} {ref x y : String}

def idsOf (containers : List ContainerRecord) : List String := containers.map ContainerRecord.id

theorem isSole_of_resolve (h : resolveDependency containers ref = some y) :
    IsSole (idsOf containers) y := by
  rw [resolveDependency] at h
  split_ifs at h
  exact isSole_of_aliasIndex h

theorem isSemanticSource_iff (hx : x ∈ idsOf containers) :
    isSemanticSource containers x = true ↔ IsSole (idsOf containers) x := by
  rw [isSemanticSource, Bool.and_eq_true, decide_eq_true_eq, Bool.not_eq_true', IsSole, idsOf,
    Bool.not_eq_true]
  exact ⟨fun h => ⟨hx, h⟩, And.right⟩

theorem ids_buildServices (containers : List ContainerRecord) :
    (buildServices containers).map Service.id = idsOf containers := by
  rw [buildServices, List.map_map]
  rfl

/-- What the references of a container resolve to. -/
def resolvedOf (containers : List ContainerRecord) (container : ContainerRecord) : List String :=
  container.dependsOn.filterMap (resolveDependency containers)

theorem dependsOn_serviceOf (containers : List ContainerRecord) (container : ContainerRecord) :
    (serviceOf containers container).dependsOn =
      if isSemanticSource containers container.id then resolvedOf containers container else [] := by
  rw [serviceOf]
  split_ifs with hsemantic
  · rw [occurrencesOf, List.filterMap_map, resolvedOf]
    refine List.filterMap_congr fun ref _ => ?_
    exact if_pos hsemantic
  · rfl

theorem mem_addDependents {targets : List String} {source : String}
    {dependents : InsertionMap String (List String)} :
    y ∈ (targets.foldl (fun dependents target => addDependent dependents target source)
        dependents).group x ↔ y ∈ dependents.group x ∨ x ∈ targets ∧ y = source := by
  induction targets generalizing dependents with
  | nil => simp
  | cons target targets ih =>
    rw [List.foldl_cons, ih, List.mem_cons, addDependent]
    have hone : y ∈ (if source ∈ dependents.group target then dependents
        else dependents.push target source).group x ↔
          y ∈ dependents.group x ∨ x = target ∧ y = source := by
      split_ifs with hmem
      · refine ⟨Or.inl, fun h => h.elim id fun hnew => ?_⟩
        rw [hnew.1, hnew.2]
        exact hmem
      · rw [InsertionMap.group_push, List.mem_append]
        split_ifs with hx
        · simp [hx]
        · simp [hx]
    rw [hone]
    tauto

/-- The dependents of an id are the sources that resolve to it. -/
theorem mem_dependentsById : y ∈ (dependentsById containers).group x ↔
    ∃ container ∈ containers, isSemanticSource containers container.id ∧ container.id = y ∧
      x ∈ resolvedOf containers container := by
  rw [dependentsById]
  suffices h : ∀ all : List ContainerRecord,
      y ∈ (containers.foldl (fun dependents container =>
        if isSemanticSource all container.id then
          (resolvedOf all container).foldl
            (fun dependents target => addDependent dependents target container.id) dependents
        else dependents) ∅).group x ↔
      ∃ container ∈ containers, isSemanticSource all container.id ∧ container.id = y ∧
        x ∈ resolvedOf all container from h containers
  intro all
  induction containers using List.reverseRecOn with
  | nil => simp [InsertionMap.group, InsertionMap.get?_empty]
  | append_singleton containers container ih =>
    rw [List.foldl_append, List.foldl_cons, List.foldl_nil]
    simp only [List.mem_append, List.mem_singleton, or_and_right, exists_or, exists_eq_left]
    split_ifs with hsemantic
    · rw [mem_addDependents, ih, and_comm, eq_comm]
      simp only [hsemantic, true_and]
    · rw [ih]
      exact ⟨Or.inl, fun h => h.resolve_right fun hnew => hsemantic hnew.1⟩

end

/-! The graph of a model -/

section

variable {containers : List ContainerRecord} {x y : String}

/-- The services with this id have that one among their dependencies. -/
def DependsOn (services : List Service) (x y : String) : Prop :=
  ∃ service ∈ services, service.id = x ∧ y ∈ service.dependsOn

def modelOf (services : List Service) : SystemModel := ⟨services, identityIndex Service.id services⟩

theorem dependsOn_iff : DependsOn (buildServices containers) x y ↔
    ∃ container ∈ containers, isSemanticSource containers container.id ∧ container.id = x ∧
      y ∈ resolvedOf containers container := by
  simp only [DependsOn, buildServices, List.mem_map, exists_exists_and_eq_and,
    dependsOn_serviceOf]
  refine exists_congr fun container => and_congr_right fun _ => ?_
  by_cases hsemantic : isSemanticSource containers container.id
  · simp [hsemantic, serviceOf]
  · simp [hsemantic]

/-- Both ends of a dependency are ids of one record. -/
theorem isSole_of_dependsOn (h : DependsOn (buildServices containers) x y) :
    IsSole (idsOf containers) x ∧ IsSole (idsOf containers) y := by
  obtain ⟨container, hmem, hsemantic, rfl, hy⟩ := dependsOn_iff.1 h
  obtain ⟨ref, -, href⟩ := List.mem_filterMap.1 hy
  exact ⟨(isSemanticSource_iff (List.mem_map_of_mem hmem)).1 hsemantic, isSole_of_resolve href⟩

theorem get?_byId {service : Service} :
    (modelOf (buildServices containers)).byId.get? x = some service ↔
      service ∈ buildServices containers ∧ service.id = x ∧ IsSole (idsOf containers) x := by
  rw [modelOf, get?_identityIndex_eq_some, ids_buildServices]

theorem exists_service (h : IsSole (idsOf containers) x) :
    ∃ container ∈ containers, container.id = x ∧
      (modelOf (buildServices containers)).byId.get? x = some (serviceOf containers container) := by
  obtain ⟨container, hmem, rfl⟩ := List.mem_map.1 h.1
  exact ⟨container, hmem, rfl, get?_byId.2 ⟨List.mem_map_of_mem hmem, rfl, h⟩⟩

theorem mem_edgesOf {edge : Service → List String} :
    y ∈ (modelOf (buildServices containers)).edgesOf edge x ↔
      ∃ service ∈ buildServices containers, service.id = x ∧ IsSole (idsOf containers) x ∧
        y ∈ edge service := by
  rw [SystemModel.edgesOf]
  cases hget : (modelOf (buildServices containers)).byId.get? x with
  | none =>
    refine iff_of_false List.not_mem_nil ?_
    rintro ⟨service, hmem, hid, hsole, -⟩
    rw [get?_byId.2 ⟨hmem, hid, hsole⟩] at hget
    cases hget
  | some service =>
    obtain ⟨hmem, hid, hsole⟩ := get?_byId.1 hget
    refine ⟨fun hy => ⟨service, hmem, hid, hsole, hy⟩, ?_⟩
    rintro ⟨other, hother, hid', -, hy⟩
    rw [get?_byId.2 ⟨hother, hid', hsole⟩] at hget
    cases hget
    exact hy

theorem mem_dependsOn_edges : y ∈ (modelOf (buildServices containers)).edgesOf Service.dependsOn x ↔
    DependsOn (buildServices containers) x y := by
  rw [mem_edgesOf]
  constructor
  · rintro ⟨service, hmem, hid, -, hy⟩
    exact ⟨service, hmem, hid, hy⟩
  · intro h
    obtain ⟨service, hmem, hid, hy⟩ := h
    exact ⟨service, hmem, hid, (isSole_of_dependsOn ⟨service, hmem, hid, hy⟩).1, hy⟩

theorem mem_dependents_edges :
    y ∈ (modelOf (buildServices containers)).edgesOf Service.dependents x ↔
      DependsOn (buildServices containers) y x := by
  rw [mem_edgesOf, dependsOn_iff, ← mem_dependentsById]
  constructor
  · rintro ⟨service, hmem, rfl, -, hy⟩
    obtain ⟨container, -, rfl⟩ := List.mem_map.1 hmem
    exact hy
  · intro hy
    have hsole := (isSole_of_dependsOn (dependsOn_iff.2 (mem_dependentsById.1 hy))).2
    obtain ⟨container, hmem, hid, hget⟩ := exists_service hsole
    refine ⟨serviceOf containers container, (get?_byId.1 hget).1, hid, hsole, ?_⟩
    rw [← hid] at hy
    exact hy

/-- The sets of an impact, each told by the dependencies. -/
structure ImpactIsExact (services : List Service) (x : String) (impact : ImpactResult) :
    Prop where
  upstream : ∀ y, y ∈ impact.upstream ↔ y ≠ x ∧ Relation.TransGen (DependsOn services) x y
  downstream : ∀ y, y ∈ impact.downstream ↔ y ≠ x ∧ Relation.TransGen (DependsOn services) y x
  neighbors : ∀ y, y ∈ impact.neighbors ↔ DependsOn services x y ∨ DependsOn services y x
  /-- No id of these is empty, or the id of several services. -/
  sole : ∀ y, y ∈ impact.upstream ∨ y ∈ impact.downstream ∨ y ∈ impact.neighbors →
    IsSole (services.map Service.id) y

theorem isSole_of_transGen (h : Relation.TransGen (DependsOn (buildServices containers)) x y) :
    IsSole (idsOf containers) x ∧ IsSole (idsOf containers) y := by
  induction h with
  | single hstep => exact isSole_of_dependsOn hstep
  | tail _ hstep ih => exact ⟨ih.1, (isSole_of_dependsOn hstep).2⟩

theorem reaches_dependsOn :
    Reaches ((modelOf (buildServices containers)).edgesOf Service.dependsOn) x y ↔
      Relation.TransGen (DependsOn (buildServices containers)) x y := by
  have hnext : (fun a b => b ∈ (modelOf (buildServices containers)).edgesOf Service.dependsOn a) =
      DependsOn (buildServices containers) := by
    funext a b
    exact propext mem_dependsOn_edges
  rw [Reaches, hnext]

theorem reaches_dependents :
    Reaches ((modelOf (buildServices containers)).edgesOf Service.dependents) x y ↔
      Relation.TransGen (DependsOn (buildServices containers)) y x := by
  rw [← reaches_dependsOn]
  exact reaches_swap fun a b => mem_dependents_edges.trans mem_dependsOn_edges.symm

/-- The traversals end, and the impact is exact. -/
theorem exists_impact (containers : List ContainerRecord) (x : String) :
    ∃ impact, (modelOf (buildServices containers)).computeImpact x = some impact ∧
      ImpactIsExact (buildServices containers) x impact := by
  have hlength : (idsOf containers).length + 1 ≤
      (modelOf (buildServices containers)).services.length + 1 := by
    rw [idsOf, List.length_map]
    exact Nat.succ_le_succ (List.length_map _).ge
  have hup : ∀ a, ∀ b ∈ (modelOf (buildServices containers)).edgesOf Service.dependsOn a,
      b ∈ idsOf containers := fun a b hb =>
    (isSole_of_dependsOn (mem_dependsOn_edges.1 hb)).2.1
  have hdown : ∀ a, ∀ b ∈ (modelOf (buildServices containers)).edgesOf Service.dependents a,
      b ∈ idsOf containers := fun a b hb =>
    (isSole_of_dependsOn (mem_dependents_edges.1 hb)).1.1
  obtain ⟨upstream, hupstream, -, hmemUp⟩ := search_spec x hup hlength
  obtain ⟨downstream, hdownstream, -, hmemDown⟩ := search_spec x hdown hlength
  have hneighbors : ∀ y, y ∈ ((modelOf (buildServices containers)).edgesOf Service.dependsOn x ++
      (modelOf (buildServices containers)).edgesOf Service.dependents x).toFinset ↔
        DependsOn (buildServices containers) x y ∨ DependsOn (buildServices containers) y x := by
    intro y
    rw [List.mem_toFinset, List.mem_append, mem_dependsOn_edges, mem_dependents_edges]
  refine ⟨⟨upstream, downstream, _⟩, ?_, ?_, ?_, hneighbors, ?_⟩
  · rw [SystemModel.computeImpact, SystemModel.traverse, SystemModel.traverse, hupstream,
      hdownstream]
    rfl
  · intro y
    rw [hmemUp, reaches_dependsOn]
  · intro y
    rw [hmemDown, reaches_dependents]
  · rintro y (hy | hy | hy)
    · rw [ids_buildServices]
      exact (isSole_of_transGen (reaches_dependsOn.1 ((hmemUp y).1 hy).2)).2
    · rw [ids_buildServices]
      exact (isSole_of_transGen (reaches_dependents.1 ((hmemDown y).1 hy).2)).1
    · rw [ids_buildServices]
      rcases (hneighbors y).1 hy with h | h
      · exact (isSole_of_dependsOn h).2
      · exact (isSole_of_dependsOn h).1

/-- The impact of every service is exact, downstream is the converse of upstream, and a
service is no neighbor of itself exactly when it does not depend on itself. -/
theorem impact_exact_and_dual (localeCompare : String → String → ℤ) (snapshot : DockerSnapshot) :
    (∀ x, ∃ impact, (buildModel localeCompare snapshot).computeImpact x = some impact ∧
      ImpactIsExact (buildModel localeCompare snapshot).services x impact ∧
      (x ∉ impact.neighbors ↔ ¬ DependsOn (buildModel localeCompare snapshot).services x x)) ∧
    ∀ x y ofX ofY, (buildModel localeCompare snapshot).computeImpact x = some ofX →
      (buildModel localeCompare snapshot).computeImpact y = some ofY →
      (y ∈ ofX.downstream ↔ x ∈ ofY.upstream) := by
  have hmodel : buildModel localeCompare snapshot =
      modelOf (buildServices (canonicalContainers localeCompare snapshot.containers)) := rfl
  rw [hmodel]
  generalize canonicalContainers localeCompare snapshot.containers = containers
  constructor
  · intro x
    obtain ⟨impact, himpact, hexact⟩ := exists_impact containers x
    refine ⟨impact, himpact, hexact, ?_⟩
    rw [hexact.neighbors x, or_self]
    exact Iff.rfl
  · intro x y ofX ofY hx hy
    obtain ⟨impact, himpact, hexact⟩ := exists_impact containers x
    obtain ⟨impact', himpact', hexact'⟩ := exists_impact containers y
    rw [hx] at himpact
    rw [hy] at himpact'
    cases himpact
    cases himpact'
    rw [hexact.downstream, hexact'.upstream, ne_comm]

/-- A container whose dependency is its own name. -/
def selfDependent : ContainerRecord where
  id := "container_web"
  name := "web"
  image := "nginx"
  status := "running"
  role := "web"
  networks := []
  ports := []
  publishesOnUnspecifiedAddress := false
  mounts := []
  dependsOn := ["web"]

/-- It is a neighbor of itself. -/
theorem self_dependent_neighbor :
    ((buildModel (fun _ _ => 0) { containers := [selfDependent] }).computeImpact
      "container_web").map (fun impact => decide ("container_web" ∈ impact.neighbors)) =
        some true := by
  decide +kernel

end

end DockerMap.Web
