import DockerMap.Core.ComposeCorrelation
import DockerMap.Lib.SoleMember

/-! When the correlation of mounts is a partition. Declared mounts are settled one by one; what
is left over counts as extra, and a mount may be left over although a declaration matches it,
or be counted for several services. -/

namespace DockerMap.Compose

section

variable (snapshot : DockerSnapshot) (scan : ComposeScan)

/-- No two mounts of the inventory share an id. -/
def UniqueMountIds : Prop :=
  ((snapshot.containers.flatMap ContainerRecord.mounts).map ContainerMount.id).Nodup

instance : Decidable (UniqueMountIds snapshot) := inferInstanceAs (Decidable (List.Nodup _))

/-- A declared mount of the service matches the runtime mount. -/
def Declares (service : String) (runtimeMount : ContainerMount) : Prop :=
  ∃ mount ∈ scan.mounts, mount.service = service ∧ mountsMatch mount runtimeMount = true

/-- How often the runtime mount is reported as extra. -/
def timesExtra (runtimeMount : ContainerMount) : ℕ :=
  (extraMounts snapshot scan).countP fun extra => extra.2.2.id == runtimeMount.id

structure IsPartition : Prop where
  declared : ((correlateComposeRuntime snapshot scan).filter fun item => item.status != .extra).Perm
    (scan.mounts.map (declaredCorrelation snapshot))
  matched : ∀ mount ∈ scan.mounts, (declaredCorrelation snapshot mount).status = .matched ↔
    ∃ container ∈ serviceContainers snapshot mount.service, ∃ runtimeMount ∈ container.mounts,
      mountsMatch mount runtimeMount = true
  extras : ((correlateComposeRuntime snapshot scan).filter fun item => item.status == .extra).Perm
    ((extraMounts snapshot scan).map extraCorrelation)
  extra : ∀ service ∈ scan.services, ∀ container ∈ serviceContainers snapshot service.name,
    ∀ runtimeMount ∈ container.mounts,
      (0 < timesExtra snapshot scan runtimeMount ↔ ¬ Declares scan service.name runtimeMount) ∧
        timesExtra snapshot scan runtimeMount ≤ 1
  disjoint : ∀ mount ∈ scan.mounts, ∀ found, matchResult snapshot mount = some found →
    timesExtra snapshot scan found.2 = 0

/-- No container of the service comes before with a match, nor any mount of the container. -/
def IsFirstMatch (mount : ComposeMount) (container : ContainerRecord)
    (runtimeMount : ContainerMount) : Prop :=
  ∃ before after front back,
    serviceContainers snapshot mount.service = before ++ container :: after ∧
      container.mounts = front ++ runtimeMount :: back ∧
      mountsMatch mount runtimeMount = true ∧
      (∀ other ∈ before, ∀ earlier ∈ other.mounts, mountsMatch mount earlier = false) ∧
      ∀ earlier ∈ front, mountsMatch mount earlier = false

/-- A declared mount is matched with the runtime mount. -/
def IsSettled (container : ContainerRecord) (runtimeMount : ContainerMount) : Prop :=
  ∃ mount ∈ scan.mounts, IsFirstMatch snapshot mount container runtimeMount

/-- The mounts that declarations match are the first matches of declarations, and the others
belong to one service. -/
structure SettlesMounts : Prop where
  declared : ∀ service ∈ scan.services, ∀ container ∈ serviceContainers snapshot service.name,
    ∀ runtimeMount ∈ container.mounts, Declares scan service.name runtimeMount ↔
      IsSettled snapshot scan container runtimeMount
  once : ∀ service ∈ scan.services, ∀ container ∈ serviceContainers snapshot service.name,
    ∀ runtimeMount ∈ container.mounts, ¬ IsSettled snapshot scan container runtimeMount →
      (scan.services.countP fun other => containerMatchesService other.name container) ≤ 1

end

section

variable {snapshot : DockerSnapshot} {scan : ComposeScan}

/-! Matches -/

theorem matchResult_eq_some {mount : ComposeMount} {container : ContainerRecord}
    {runtimeMount : ContainerMount} :
    matchResult snapshot mount = some (container, runtimeMount) ↔
      IsFirstMatch snapshot mount container runtimeMount := by
  rw [matchResult, List.findSome?_eq_some_iff]
  constructor
  · rintro ⟨before, found, after, hlist, hfound, hbefore⟩
    obtain ⟨first, hfirst, heq⟩ := Option.map_eq_some_iff.1 hfound
    cases heq
    obtain ⟨hmatch, front, back, hmounts, hfront⟩ := List.find?_eq_some_iff_append.1 hfirst
    refine ⟨before, after, front, back, hlist, hmounts, hmatch, ?_, fun earlier hearlier => ?_⟩
    · intro other hother earlier hearlier
      have hnone := Option.map_eq_none_iff.1 (hbefore other hother)
      exact Bool.eq_false_iff.2 (List.find?_eq_none.1 hnone earlier hearlier)
    · simpa using hfront earlier hearlier
  · rintro ⟨before, after, front, back, hlist, hmounts, hmatch, hbefore, hfront⟩
    refine ⟨before, container, after, hlist, ?_, fun other hother => ?_⟩
    · have hfirst : container.mounts.find? (mountsMatch mount) = some runtimeMount :=
        List.find?_eq_some_iff_append.2 ⟨hmatch, front, back, hmounts,
          fun earlier hearlier => by simpa using hfront earlier hearlier⟩
      rw [hfirst]
      rfl
    · rw [Option.map_eq_none_iff, List.find?_eq_none]
      intro earlier hearlier
      rw [hbefore other hother earlier hearlier]
      exact Bool.false_ne_true

theorem isSome_matchResult {mount : ComposeMount} : (matchResult snapshot mount).isSome = true ↔
    ∃ container ∈ serviceContainers snapshot mount.service, ∃ runtimeMount ∈ container.mounts,
      mountsMatch mount runtimeMount = true := by
  rw [matchResult, List.findSome?_isSome_iff]
  simp only [Option.isSome_map, List.find?_isSome]

theorem status_declaredCorrelation (mount : ComposeMount) :
    (declaredCorrelation snapshot mount).status =
      if (matchResult snapshot mount).isSome then .matched else .missing := by
  rw [declaredCorrelation]
  cases matchResult snapshot mount <;> rfl

theorem mem_matchedRuntimeMounts {id : String} :
    id ∈ (matchedRuntimeMounts snapshot scan).toList ↔
      ∃ mount ∈ scan.mounts, ∃ found, matchResult snapshot mount = some found ∧ found.2.id = id := by
  rw [matchedRuntimeMounts, SortedSet.mem_toList_ofList, List.mem_map]
  constructor
  · rintro ⟨found, hfound, rfl⟩
    obtain ⟨mount, hmount, heq⟩ := List.mem_filterMap.1 hfound
    exact ⟨mount, hmount, found, heq, rfl⟩
  · rintro ⟨mount, hmount, found, heq, rfl⟩
    exact ⟨found, List.mem_filterMap.2 ⟨mount, hmount, heq⟩, rfl⟩

/-! Occurrences of a mount -/

/-- The mounts of the inventory, each with its container. -/
def mountPairs (snapshot : DockerSnapshot) : List (ContainerRecord × ContainerMount) :=
  snapshot.containers.flatMap fun container => container.mounts.map fun runtimeMount =>
    (container, runtimeMount)

theorem mem_mountPairs {pair : ContainerRecord × ContainerMount} :
    pair ∈ mountPairs snapshot ↔ pair.1 ∈ snapshot.containers ∧ pair.2 ∈ pair.1.mounts := by
  rw [mountPairs, List.mem_flatMap]
  constructor
  · rintro ⟨container, hcontainer, hpair⟩
    obtain ⟨runtimeMount, hmount, rfl⟩ := List.mem_map.1 hpair
    exact ⟨hcontainer, hmount⟩
  · rintro ⟨hcontainer, hmount⟩
    exact ⟨pair.1, hcontainer, List.mem_map.2 ⟨pair.2, hmount, rfl⟩⟩

theorem UniqueMountIds.nodup_mountPairs (h : UniqueMountIds snapshot) :
    ((mountPairs snapshot).map fun pair => pair.2.id).Nodup := by
  rw [UniqueMountIds, List.map_flatMap] at h
  rw [mountPairs, List.map_flatMap]
  simpa only [List.map_map, Function.comp_def] using h

theorem UniqueMountIds.pair_eq (h : UniqueMountIds snapshot)
    {pair pair' : ContainerRecord × ContainerMount} (hpair : pair ∈ mountPairs snapshot)
    (hpair' : pair' ∈ mountPairs snapshot) (hid : pair.2.id = pair'.2.id) : pair = pair' :=
  List.inj_on_of_nodup_map h.nodup_mountPairs hpair hpair' hid

theorem mem_mountPairs_of_matchResult {mount : ComposeMount}
    {found : ContainerRecord × ContainerMount} (h : matchResult snapshot mount = some found) :
    found ∈ mountPairs snapshot := by
  obtain ⟨before, after, front, back, hcontainers, hmounts, -⟩ := matchResult_eq_some.1 h
  have hcontainer : found.1 ∈ serviceContainers snapshot mount.service := by
    rw [hcontainers]
    exact List.mem_append_right _ List.mem_cons_self
  have hmount : found.2 ∈ found.1.mounts := by
    rw [hmounts]
    exact List.mem_append_right _ List.mem_cons_self
  exact mem_mountPairs.2 ⟨List.mem_of_mem_filter hcontainer, hmount⟩

/-- With unique ids, the set of matched ids is the set of settled mounts. -/
theorem mem_matched_iff_isSettled (h : UniqueMountIds snapshot) {container : ContainerRecord}
    {runtimeMount : ContainerMount} (hcontainer : container ∈ snapshot.containers)
    (hmount : runtimeMount ∈ container.mounts) :
    runtimeMount.id ∈ (matchedRuntimeMounts snapshot scan).toList ↔
      IsSettled snapshot scan container runtimeMount := by
  rw [mem_matchedRuntimeMounts]
  constructor
  · rintro ⟨mount, hmem, found, hfound, hid⟩
    have hpair : (container, runtimeMount) ∈ mountPairs snapshot :=
      mem_mountPairs.2 ⟨hcontainer, hmount⟩
    have heq := h.pair_eq (mem_mountPairs_of_matchResult hfound) hpair hid
    rw [heq] at hfound
    exact ⟨mount, hmem, matchResult_eq_some.1 hfound⟩
  · rintro ⟨mount, hmem, hfirst⟩
    exact ⟨mount, hmem, _, matchResult_eq_some.2 hfirst, rfl⟩

/-- The turns of the loops for one service. -/
theorem extraMounts_service (service : ComposeService) :
    ((serviceContainers snapshot service.name).flatMap fun container =>
      (container.mounts.filter fun runtimeMount =>
        !(matchedRuntimeMounts snapshot scan).toList.contains runtimeMount.id).map
          fun runtimeMount => (service, container, runtimeMount)) =
      ((mountPairs snapshot).filter fun pair => containerMatchesService service.name pair.1 &&
        !(matchedRuntimeMounts snapshot scan).toList.contains pair.2.id).map
          fun pair => (service, pair) := by
  rw [serviceContainers, mountPairs]
  induction snapshot.containers with
  | nil => rfl
  | cons container containers ih =>
    rw [List.flatMap_cons, List.filter_append, List.map_append, ← ih, List.filter_map, List.map_map]
    cases hmatch : containerMatchesService service.name container with
    | false =>
      rw [List.filter_cons_of_neg (by rw [hmatch]; exact Bool.false_ne_true)]
      simp [Function.comp_def, hmatch]
    | true =>
      rw [List.filter_cons_of_pos hmatch, List.flatMap_cons]
      simp [Function.comp_def, hmatch]

/-- A mount is reported once for every service of its container, or never. -/
theorem timesExtra_eq (h : UniqueMountIds snapshot) {container : ContainerRecord}
    {runtimeMount : ContainerMount} (hcontainer : container ∈ snapshot.containers)
    (hmount : runtimeMount ∈ container.mounts) :
    timesExtra snapshot scan runtimeMount =
      if runtimeMount.id ∈ (matchedRuntimeMounts snapshot scan).toList then 0
      else scan.services.countP fun service => containerMatchesService service.name container := by
  rw [timesExtra, extraMounts]
  induction scan.services with
  | nil => simp
  | cons service services ih =>
    rw [List.flatMap_cons, List.countP_append, ih, List.countP_cons, extraMounts_service]
    have hpair : (container, runtimeMount) ∈ mountPairs snapshot :=
      mem_mountPairs.2 ⟨hcontainer, hmount⟩
    have hone := SoleMember.countP_key_eq (p := fun pair =>
      containerMatchesService service.name pair.1 &&
        !(matchedRuntimeMounts snapshot scan).toList.contains pair.2.id) h.nodup_mountPairs hpair
    rw [List.countP_map, List.countP_filter]
    simp only [Function.comp_def]
    rw [hone]
    by_cases hmatched : runtimeMount.id ∈ (matchedRuntimeMounts snapshot scan).toList
    · simp [hmatched]
    · simp [hmatched, Nat.add_comm]

theorem timesExtra_eq_of_settled (h : UniqueMountIds snapshot) {container : ContainerRecord}
    {runtimeMount : ContainerMount} (hcontainer : container ∈ snapshot.containers)
    (hmount : runtimeMount ∈ container.mounts)
    (hsettled : IsSettled snapshot scan container runtimeMount) :
    timesExtra snapshot scan runtimeMount = 0 := by
  rw [timesExtra_eq h hcontainer hmount,
    if_pos ((mem_matched_iff_isSettled h hcontainer hmount).2 hsettled)]

theorem timesExtra_eq_of_not_settled (h : UniqueMountIds snapshot) {container : ContainerRecord}
    {runtimeMount : ContainerMount} (hcontainer : container ∈ snapshot.containers)
    (hmount : runtimeMount ∈ container.mounts)
    (hsettled : ¬ IsSettled snapshot scan container runtimeMount) :
    timesExtra snapshot scan runtimeMount =
      scan.services.countP fun service => containerMatchesService service.name container := by
  rw [timesExtra_eq h hcontainer hmount,
    if_neg (mt (mem_matched_iff_isSettled h hcontainer hmount).1 hsettled)]

/-! The list of correlations -/

theorem correlateComposeRuntime_perm : (correlateComposeRuntime snapshot scan).Perm
    (scan.mounts.map (declaredCorrelation snapshot) ++
      (extraMounts snapshot scan).map extraCorrelation) :=
  sortByKey_perm _ _

theorem status_declaredCorrelation_ne (mount : ComposeMount) :
    (declaredCorrelation snapshot mount).status ≠ .extra := by
  rw [status_declaredCorrelation]
  split_ifs <;> decide

theorem filter_declared :
    ((correlateComposeRuntime snapshot scan).filter fun item => item.status != .extra).Perm
      (scan.mounts.map (declaredCorrelation snapshot)) := by
  refine (correlateComposeRuntime_perm.filter _).trans ?_
  rw [List.filter_append, List.filter_map, List.filter_map]
  have hall : scan.mounts.filter ((fun item => item.status != .extra) ∘
      declaredCorrelation snapshot) = scan.mounts :=
    List.filter_eq_self.2 fun mount _ => bne_iff_ne.2 (status_declaredCorrelation_ne mount)
  have hnone : (extraMounts snapshot scan).filter ((fun item => item.status != .extra) ∘
      extraCorrelation) = [] :=
    List.filter_eq_nil_iff.2 fun extra _ => by
      simp only [Function.comp_apply, extraCorrelation]
      decide
  rw [hall, hnone, List.map_nil, List.append_nil]

theorem filter_extra :
    ((correlateComposeRuntime snapshot scan).filter fun item => item.status == .extra).Perm
      ((extraMounts snapshot scan).map extraCorrelation) := by
  refine (correlateComposeRuntime_perm.filter _).trans ?_
  rw [List.filter_append, List.filter_map, List.filter_map]
  have hnone : scan.mounts.filter ((fun item => item.status == .extra) ∘
      declaredCorrelation snapshot) = [] :=
    List.filter_eq_nil_iff.2 fun mount _ => fun hextra =>
      status_declaredCorrelation_ne mount (beq_iff_eq.1 hextra)
  have hall : (extraMounts snapshot scan).filter ((fun item => item.status == .extra) ∘
      extraCorrelation) = extraMounts snapshot scan :=
    List.filter_eq_self.2 fun extra _ => by
      simp only [Function.comp_apply, extraCorrelation]
      decide
  rw [hall, hnone, List.map_nil, List.nil_append]

theorem matched_iff (mount : ComposeMount) :
    (declaredCorrelation snapshot mount).status = .matched ↔
      ∃ container ∈ serviceContainers snapshot mount.service, ∃ runtimeMount ∈ container.mounts,
        mountsMatch mount runtimeMount = true := by
  rw [← isSome_matchResult, status_declaredCorrelation]
  split_ifs with hsome
  · exact iff_of_true rfl hsome
  · exact iff_of_false (by decide) hsome

theorem timesExtra_matched (h : UniqueMountIds snapshot) {mount : ComposeMount}
    (hmount : mount ∈ scan.mounts) {found : ContainerRecord × ContainerMount}
    (hfound : matchResult snapshot mount = some found) :
    timesExtra snapshot scan found.2 = 0 := by
  obtain ⟨hcontainer, hmem⟩ := mem_mountPairs.1 (mem_mountPairs_of_matchResult hfound)
  exact timesExtra_eq_of_settled h hcontainer hmem
    ⟨mount, hmount, matchResult_eq_some.1 hfound⟩

/-- Some scanned service has the container, so the mount is reported when it is not settled. -/
theorem timesExtra_iff (h : UniqueMountIds snapshot) {service : ComposeService}
    (hservice : service ∈ scan.services) {container : ContainerRecord}
    (hcontainer : container ∈ serviceContainers snapshot service.name)
    {runtimeMount : ContainerMount} (hmount : runtimeMount ∈ container.mounts) :
    ((0 < timesExtra snapshot scan runtimeMount ↔ ¬ Declares scan service.name runtimeMount) ∧
        timesExtra snapshot scan runtimeMount ≤ 1) ↔
      (Declares scan service.name runtimeMount ↔ IsSettled snapshot scan container runtimeMount) ∧
        (¬ IsSettled snapshot scan container runtimeMount →
          (scan.services.countP fun other => containerMatchesService other.name container) ≤ 1) := by
  obtain ⟨hmem, hmatches⟩ := List.mem_filter.1 hcontainer
  by_cases hsettled : IsSettled snapshot scan container runtimeMount
  · rw [timesExtra_eq_of_settled h hmem hmount hsettled]
    simp [hsettled]
  · have hpos : 0 < scan.services.countP fun other =>
        containerMatchesService other.name container :=
      List.countP_pos_iff.2 ⟨service, hservice, hmatches⟩
    rw [timesExtra_eq_of_not_settled h hmem hmount hsettled]
    simp [hsettled, hpos]

theorem isPartition_iff (h : UniqueMountIds snapshot) :
    IsPartition snapshot scan ↔ SettlesMounts snapshot scan := by
  constructor
  · intro hpartition
    have hboth := fun service hservice container hcontainer runtimeMount hmount =>
      (timesExtra_iff h hservice hcontainer hmount).1
        (hpartition.extra service hservice container hcontainer runtimeMount hmount)
    exact ⟨fun service hservice container hcontainer runtimeMount hmount =>
        (hboth service hservice container hcontainer runtimeMount hmount).1,
      fun service hservice container hcontainer runtimeMount hmount =>
        (hboth service hservice container hcontainer runtimeMount hmount).2⟩
  · intro hsettles
    exact
      { declared := filter_declared
        matched := fun mount _ => matched_iff mount
        extras := filter_extra
        extra := fun service hservice container hcontainer runtimeMount hmount =>
          (timesExtra_iff h hservice hcontainer hmount).2
            ⟨hsettles.declared service hservice container hcontainer runtimeMount hmount,
              hsettles.once service hservice container hcontainer runtimeMount hmount⟩
        disjoint := fun mount hmount found hfound => timesExtra_matched h hmount hfound }

end

/-! Two replicas of a service with the volume that it declares -/

def replica (id name mountId : String) : ContainerRecord where
  id := id
  name := name
  image := "nginx"
  status := "running"
  role := "web"
  networks := []
  ports := []
  publishesOnUnspecifiedAddress := false
  mounts := [⟨mountId, .namedVolume, some "data", "/data", false⟩]
  dependsOn := []

def declaredVolume : ComposeMount where
  id := "web:0"
  service := "web"
  kind := .namedVolume
  source := some "data"
  resolvedSource := none
  target := "/data"
  readOnly := false
  origin := ⟨"compose.yml", some "web", "services.web.volumes"⟩

def replicaScan : ComposeScan where
  files := []
  projectRoot := "/project"
  services := [⟨"web", none, ∅, []⟩]
  mounts := [declaredVolume]
  correlations := []
  diagnostics := []

def replicaSnapshot : DockerSnapshot where
  containers := [replica "1" "p-web-1" "m1", replica "2" "p-web-2" "m2"]

theorem isPartition_iff_replicas : UniqueMountIds replicaSnapshot ∧
    (IsPartition replicaSnapshot replicaScan ↔ SettlesMounts replicaSnapshot replicaScan) :=
  ⟨by decide, isPartition_iff (by decide)⟩

theorem replica_mount_extra :
    ¬ ∀ scan snapshot, UniqueMountIds snapshot → IsPartition snapshot scan := by
  intro h
  have hpartition := h replicaScan replicaSnapshot (by decide)
  have hextra := hpartition.extra ⟨"web", none, ∅, []⟩ (by decide) (replica "2" "p-web-2" "m2")
    (by decide) ⟨"m2", .namedVolume, some "data", "/data", false⟩ (by decide)
  exact hextra.1.1 (by decide) ⟨declaredVolume, by decide, rfl, by decide⟩

end DockerMap.Compose
