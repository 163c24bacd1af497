import DockerMap.Core.SnapshotRuntime

/-! A dependency reference resolves to the one container that every known alias of it names.
Whether it does depends on how often an alias occurs, not on where. -/

namespace DockerMap

/-- The aliases a reference is looked up under, each with its key. -/
def dependencyAliases (dependency : String) : List ((ContainerRecord → String) × String) :=
  [(ContainerRecord.role, stripContainerPrefix dependency),
    (ContainerRecord.name, stripContainerPrefix dependency),
    (ContainerRecord.id, dependency)]

/-- How many containers have the alias. -/
def aliasCount (containers : List ContainerRecord) (aliasOf : ContainerRecord → String)
    (key : String) : ℕ :=
  containers.countP fun container => aliasOf container == key

structure ResolvesTo (containers : List ContainerRecord) (dependency : String)
    (target : ContainerRecord) : Prop where
  nonempty : dependency ≠ "" ∧ stripContainerPrefix dependency ≠ ""
  unambiguous : ∀ p ∈ dependencyAliases dependency, aliasCount containers p.1 p.2 = 0 ∨
    aliasCount containers p.1 p.2 = 1 ∧ p.1 target = p.2
  named : ∃ p ∈ dependencyAliases dependency, p.1 target = p.2

/-! Lookups -/

section

variable {containers : List ContainerRecord} {aliasOf : ContainerRecord → String} {key : String}

theorem length_filter_zipIdx (containers : List ContainerRecord)
    (aliasOf : ContainerRecord → String) (key : String) :
    (containers.zipIdx.filter fun container => aliasOf container.1 = key).length =
      aliasCount containers aliasOf key := by
  have hfst : containers.zipIdx.map Prod.fst = containers := List.zipIdx_map_fst ..
  rw [aliasCount]
  conv_rhs => rw [← hfst]
  rw [List.countP_map, List.countP_eq_length_filter]
  rfl

theorem aliasLookup_eq_none (hkey : key ≠ "") :
    aliasLookup aliasOf containers key = none ↔ aliasCount containers aliasOf key = 0 := by
  rw [← length_filter_zipIdx, aliasLookup, if_neg hkey]
  split
  · rename_i hfilter
    simp [hfilter]
  · rename_i hfilter
    simp [hfilter]
  · rename_i hnil hsingle
    simp only [reduceCtorEq, false_iff, List.length_eq_zero_iff]
    exact hnil

theorem aliasLookup_eq_some (hkey : key ≠ "") {found : Indexed ContainerRecord} :
    aliasLookup aliasOf containers key = some (some found) ↔
      aliasCount containers aliasOf key = 1 ∧ containers[found.2]? = some found.1 ∧
        aliasOf found.1 = key := by
  have hmem : found ∈ containers.zipIdx.filter (fun container => aliasOf container.1 = key) ↔
      containers[found.2]? = some found.1 ∧ aliasOf found.1 = key := by
    rw [List.mem_filter, List.mem_zipIdx_iff_getElem?, decide_eq_true_eq]
  rw [← hmem, ← length_filter_zipIdx, aliasLookup, if_neg hkey]
  split
  · rename_i hfilter
    simp [hfilter]
  · rename_i container hfilter
    simp only [hfilter, List.length_singleton, List.mem_singleton, Option.some.injEq, true_and]
    exact eq_comm
  · rename_i hnil hsingle
    simp only [Option.some.injEq, reduceCtorEq, false_iff, not_and]
    intro hlen
    obtain ⟨container, hfilter⟩ := List.length_eq_one_iff.1 hlen
    exact absurd hfilter (hsingle container)

end

/-- All lookups that found something found the same container. -/
theorem agreedContainer_eq_some {lookups : List (Option (Option (Indexed ContainerRecord)))}
    {candidate : Option (Indexed ContainerRecord)} {found : Indexed ContainerRecord}
    (hindex : ∀ other, some (some other) ∈ lookups → other.2 = found.2 → other = found)
    (hcandidate : ∀ other ∈ candidate, other.2 = found.2 → other = found) :
    agreedContainer candidate lookups = some found ↔
      (∀ lookup ∈ lookups, lookup = none ∨ lookup = some (some found)) ∧
        (∀ other ∈ candidate, other = found) ∧
        (candidate = some found ∨ some (some found) ∈ lookups) := by
  induction lookups generalizing candidate with
  | nil =>
    cases candidate with
    | none => simp [agreedContainer]
    | some other => simp [agreedContainer]
  | cons lookup lookups ih =>
    have hrest : ∀ other, some (some other) ∈ lookups → other.2 = found.2 → other = found :=
      fun other hother => hindex other (List.mem_cons_of_mem _ hother)
    match lookup, candidate with
    | none, candidate =>
      rw [agreedContainer, ih hrest hcandidate]
      simp
    | some none, candidate => simp [agreedContainer]
    | some (some resolved), none =>
      rw [agreedContainer, ih hrest fun other hother => by
        cases hother
        exact hindex resolved List.mem_cons_self, List.forall_mem_cons, List.mem_cons]
      simp only [Option.some.injEq, reduceCtorEq, false_or, Option.mem_def, forall_eq',
        IsEmpty.forall_iff, implies_true, true_and, eq_comm (a := found)]
      constructor
      · rintro ⟨hall, hresolved, hfound⟩
        exact ⟨⟨hresolved, hall⟩, hfound⟩
      · rintro ⟨⟨hresolved, hall⟩, hfound⟩
        exact ⟨hall, hresolved, hfound⟩
    | some (some resolved), some existing =>
      rw [agreedContainer, List.forall_mem_cons, List.mem_cons]
      split_ifs with hsame
      · rw [ih hrest hcandidate]
        simp only [Option.some.injEq, false_or, Option.mem_def, forall_eq']
        constructor
        · rintro ⟨hall, rfl, -⟩
          have hresolved := hindex resolved List.mem_cons_self hsame.symm
          exact ⟨⟨hresolved, hall⟩, rfl, Or.inl rfl⟩
        · rintro ⟨⟨-, hall⟩, rfl, -⟩
          exact ⟨hall, rfl, Or.inl rfl⟩
      · simp only [Option.some.injEq, false_or, Option.mem_def, forall_eq', false_iff, not_and]
        rintro ⟨rfl, -⟩ rfl
        exact absurd rfl hsame

theorem mem_of_agreedContainer {lookups : List (Option (Option (Indexed ContainerRecord)))}
    {candidate : Option (Indexed ContainerRecord)} {found : Indexed ContainerRecord}
    (h : agreedContainer candidate lookups = some found) :
    candidate = some found ∨ some (some found) ∈ lookups := by
  fun_induction agreedContainer candidate lookups with
  | case1 candidate => exact Or.inl h
  | case2 candidate lookups ih => exact (ih h).imp_right (List.mem_cons_of_mem _)
  | case3 => cases h
  | case4 resolved lookups ih =>
    rcases ih h with heq | hmem
    · exact Or.inr (by rw [heq]; exact List.mem_cons_self)
    · exact Or.inr (List.mem_cons_of_mem _ hmem)
  | case5 existing resolved lookups hsame ih =>
    exact (ih h).imp_right (List.mem_cons_of_mem _)
  | case6 => cases h

theorem resolveDependency_eq_some {containers : List ContainerRecord} {dependency : String}
    {found : Indexed ContainerRecord} :
    resolveDependency containers dependency = some found ↔
      containers[found.2]? = some found.1 ∧ ResolvesTo containers dependency found.1 := by
  unfold resolveDependency
  by_cases hempty : dependency = "" ∨ stripContainerPrefix dependency = ""
  · rw [if_pos hempty]
    simp only [reduceCtorEq, false_iff, not_and]
    intro _ hresolves
    rcases hempty with hempty | hempty
    · exact hresolves.nonempty.1 hempty
    · exact hresolves.nonempty.2 hempty
  rw [if_neg hempty]
  rw [not_or] at hempty
  obtain ⟨hdep, hname⟩ := hempty
  -- every lookup is the alias lookup of one entry of `dependencyAliases`
  have hkeys : ∀ p ∈ dependencyAliases dependency, p.2 ≠ "" := by
    simp only [dependencyAliases, List.forall_mem_cons, List.not_mem_nil, IsEmpty.forall_iff,
      implies_true, and_true]
    exact ⟨hname, hname, hdep⟩
  have hlookups : [aliasLookup ContainerRecord.role containers (stripContainerPrefix dependency),
      aliasLookup ContainerRecord.name containers (stripContainerPrefix dependency),
      aliasLookup ContainerRecord.id containers dependency] =
      (dependencyAliases dependency).map fun p => aliasLookup p.1 containers p.2 := rfl
  have hfound : ∀ other, some (some other) ∈ (dependencyAliases dependency).map
      (fun p => aliasLookup p.1 containers p.2) → containers[other.2]? = some other.1 := by
    intro other hother
    obtain ⟨p, hp, hlookup⟩ := List.mem_map.1 hother
    exact ((aliasLookup_eq_some (hkeys p hp)).1 hlookup).2.1
  have hindex (hget : containers[found.2]? = some found.1) : ∀ other,
      some (some other) ∈ (dependencyAliases dependency).map
        (fun p => aliasLookup p.1 containers p.2) → other.2 = found.2 → other = found := by
    intro other hother hsame
    have hother' := hfound other hother
    rw [hsame, hget] at hother'
    exact Prod.ext (Option.some.inj hother').symm hsame
  have hnone : ∀ other ∈ (none : Option (Indexed ContainerRecord)),
      other.2 = found.2 → other = found := fun _ hother => by cases hother
  rw [hlookups]
  constructor
  · intro h
    have hget := hfound found ((mem_of_agreedContainer h).resolve_left nofun)
    obtain ⟨hall, -, hmem⟩ := (agreedContainer_eq_some (hindex hget) hnone).1 h
    refine ⟨hget, ⟨hdep, hname⟩, ?_, ?_⟩
    · intro p hp
      rcases hall _ (List.mem_map_of_mem hp) with hnone | hsome
      · exact Or.inl ((aliasLookup_eq_none (hkeys p hp)).1 hnone)
      · obtain ⟨hone, -, hname⟩ := (aliasLookup_eq_some (hkeys p hp)).1 hsome
        exact Or.inr ⟨hone, hname⟩
    · obtain ⟨p, hp, hlookup⟩ := List.mem_map.1 (hmem.resolve_left nofun)
      exact ⟨p, hp, ((aliasLookup_eq_some (hkeys p hp)).1 hlookup).2.2⟩
  · rintro ⟨hget, hresolves⟩
    refine (agreedContainer_eq_some (hindex hget) hnone).2
      ⟨?_, fun _ hother => (by cases hother), Or.inr ?_⟩
    · intro lookup hlookup
      obtain ⟨p, hp, rfl⟩ := List.mem_map.1 hlookup
      rcases hresolves.unambiguous p hp with hzero | ⟨hone, hkey⟩
      · exact Or.inl ((aliasLookup_eq_none (hkeys p hp)).2 hzero)
      · exact Or.inr ((aliasLookup_eq_some (hkeys p hp)).2 ⟨hone, hget, hkey⟩)
    · obtain ⟨p, hp, hkey⟩ := hresolves.named
      have hone : aliasCount containers p.1 p.2 = 1 := by
        refine ((hresolves.unambiguous p hp).resolve_left fun hzero => ?_).1
        rw [aliasCount, List.countP_eq_zero] at hzero
        exact hzero found.1 (List.mem_of_getElem? hget) (by simpa using hkey)
      exact List.mem_map.2 ⟨p, hp, (aliasLookup_eq_some (hkeys p hp)).2 ⟨hone, hget, hkey⟩⟩

end DockerMap
