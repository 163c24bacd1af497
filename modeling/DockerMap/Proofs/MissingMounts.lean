import DockerMap.Core.ComposeRuntimeBinding
import DockerMap.Lib.SoleMember

/-! The missing-mount rule: a finding for each declared mount that the one container bound to its
service lacks, whatever the order of the containers. -/

namespace DockerMap

open Sha256 (NoCollision)

/-! The bound container -/

/-- The only container bound to a service, with an id of its own. -/
structure IsSoleBound (binding : ComposeRuntimeBinding) (service : String)
    (container : ComposeRuntimeContainer) : Prop where
  mem : container ∈ binding.containers
  bound : isBound binding container = true
  service_eq : container.service = service
  named : container.containerId ≠ ""
  soleId : binding.containers.countP (fun other => other.containerId == container.containerId) = 1
  soleService : binding.containers.countP
    (fun other => isBound binding other && other.service == service) = 1

section

variable {scan : ComposeScan} {binding : ComposeRuntimeBinding} {service : String}
  {container : ComposeRuntimeContainer}

/-- The loop finds the sole container or none: it never depends on which comes first. -/
theorem boundContainer_eq_some :
    boundContainer binding service = some container ↔ IsSoleBound binding service container := by
  constructor
  · intro h
    have hmem := List.mem_of_find?_eq_some h
    have hfound := List.find?_some h
    simp only [Bool.and_eq_true, beq_iff_eq, decide_eq_true_eq] at hfound
    obtain ⟨⟨⟨⟨hbound, hservice⟩, hnamed⟩, hid⟩, hsole⟩ := hfound
    subst hservice
    exact ⟨hmem, hbound, rfl, hnamed, hid, hsole⟩
  · rintro ⟨hmem, hbound, rfl, hnamed, hid, hsole⟩
    refine (SoleMember.find?_eq_some_iff (le_of_eq hsole) ?_).2 ⟨hmem, ?_⟩
    · intro other _ hother
      simp only [Bool.and_eq_true] at hother ⊢
      exact hother.1.1.1
    · simp [hbound, hnamed, hid, hsole]

theorem mem_missingMounts {missing : String × ℕ} :
    missing ∈ missingMounts binding scan ↔ ∃ mount, scan.mounts[missing.2]? = some mount ∧
      (mount.kind = .bind ∨ mount.kind = .namedVolume) ∧
      ∃ container, IsSoleBound binding mount.service container ∧
        container.containerId = missing.1 ∧
        ∀ runtime ∈ container.mounts, mountsMatch mount runtime = false := by
  have hany (mount : ComposeMount) (container : ComposeRuntimeContainer) :
      ¬ container.mounts.any (mountsMatch mount) = true ↔
        ∀ runtime ∈ container.mounts, mountsMatch mount runtime = false := by
    rw [Bool.not_eq_true, List.any_eq_false]
    simp only [Bool.not_eq_true]
  rw [missingMounts, List.mem_filterMap]
  constructor
  · rintro ⟨⟨mount, ordinal⟩, hmem, hmissing⟩
    rw [List.mem_zipIdx_iff_getElem?] at hmem
    dsimp only at hmem hmissing
    split_ifs at hmissing with hkind
    rw [Bool.or_eq_true, beq_iff_eq, beq_iff_eq] at hkind
    cases hbound : boundContainer binding mount.service with
    | none =>
      rw [hbound] at hmissing
      cases hmissing
    | some container =>
      rw [hbound] at hmissing
      dsimp only at hmissing
      split_ifs at hmissing with hmatches
      cases hmissing
      exact ⟨mount, hmem, hkind, container, boundContainer_eq_some.1 hbound, rfl,
        (hany mount container).1 hmatches⟩
  · rintro ⟨mount, hmem, hkind, container, hbound, hid, hmatches⟩
    refine ⟨(mount, missing.2), List.mem_zipIdx_iff_getElem?.2 hmem, ?_⟩
    dsimp only
    rw [if_pos (by simpa using hkind), boundContainer_eq_some.2 hbound]
    dsimp only
    rw [if_neg ((hany mount container).2 hmatches), hid]

theorem nodup_missingMounts : (missingMounts binding scan).Nodup := by
  have hordinals : ((missingMounts binding scan).map Prod.snd).Sublist
      (scan.mounts.zipIdx.map Prod.snd) := by
    rw [missingMounts]
    induction scan.mounts.zipIdx with
    | nil => exact List.Sublist.refl _
    | cons indexed rest ih =>
      rw [List.filterMap_cons, List.map_cons]
      split
      · exact ih.cons _
      · next missing hmissing =>
        have hsnd : missing.2 = indexed.2 := by
          dsimp only at hmissing
          split_ifs at hmissing with hkind
          split at hmissing
          · split_ifs at hmissing
            cases hmissing
            rfl
          · cases hmissing
        rw [List.map_cons, hsnd]
        exact ih.cons_cons _
  rw [List.zipIdx_map_snd] at hordinals
  exact List.Nodup.of_map _ (List.Nodup.sublist hordinals List.nodup_range')

/-! Identities -/

/-- The texts that the identities of the findings are digests of. -/
def seedTexts (scan : ComposeScan) (binding : ComposeRuntimeBinding) : List String :=
  binding.containers.flatMap fun container =>
    (List.range scan.mounts.length).map fun ordinal => evidenceSeed (container.containerId, ordinal)

theorem isBounded_of_usable (h : isUsableBinding scan binding = true)
    (hmem : container ∈ binding.containers) : container.isBounded = true := by
  simp only [isUsableBinding, Bool.and_eq_true] at h
  exact List.all_eq_true.1 h.2 container hmem

/-- Container ids are of one length, so a seed tells both of its parts. -/
theorem evidenceSeed_inj {a b : String × ℕ} (hlength : a.1.toList.length = b.1.toList.length)
    (h : evidenceSeed a = evidenceSeed b) : a = b := by
  have hlist := congrArg String.toList h
  simp only [evidenceSeed, String.toList_append, List.append_assoc] at hlist
  obtain ⟨hid, hrest⟩ := List.append_inj hlist hlength
  have hordinal : toString a.2 = toString b.2 :=
    String.toList_injective (List.append_cancel_left hrest)
  have hdigits : Nat.toDigits 10 a.2 = Nat.toDigits 10 b.2 := String.ofList_injective hordinal
  exact Prod.ext (String.toList_injective hid) (Text.toDigits_injective hdigits)

theorem length_containerId (h : isUsableBinding scan binding = true)
    (hmem : container ∈ binding.containers) : container.containerId.toList.length = 64 := by
  have hbounded := isBounded_of_usable h hmem
  simp only [ComposeRuntimeContainer.isBounded, Bool.and_eq_true, isDockerContainerId,
    beq_iff_eq] at hbounded
  exact hbounded.1.1.1.1.1.1.1.2.1

theorem seed_mem_texts (hmem : container ∈ binding.containers) {ordinal : ℕ}
    (hordinal : ordinal < scan.mounts.length) :
    evidenceSeed (container.containerId, ordinal) ∈ seedTexts scan binding :=
  List.mem_flatMap.2 ⟨container, hmem, List.mem_map.2
    ⟨ordinal, List.mem_range.2 hordinal, rfl⟩⟩

/-- Where a missing mount comes from. -/
theorem parts_of_missing {missing : String × ℕ} (h : missing ∈ missingMounts binding scan) :
    missing.2 < scan.mounts.length ∧
      ∃ container ∈ binding.containers, container.containerId = missing.1 := by
  obtain ⟨mount, hmount, -, container, hbound, hid, -⟩ := mem_missingMounts.1 h
  exact ⟨(List.getElem?_eq_some_iff.1 hmount).1, container, hbound.mem, hid⟩

theorem id_inj (hsha : NoCollision (seedTexts scan binding))
    (husable : isUsableBinding scan binding = true) {container other : ComposeRuntimeContainer}
    (hmem : container ∈ binding.containers) (hother : other ∈ binding.containers) {i j : ℕ}
    (hi : i < scan.mounts.length) (hj : j < scan.mounts.length)
    (h : (missingMountFinding binding (container.containerId, i)).id =
      (missingMountFinding binding (other.containerId, j)).id) :
    (container.containerId, i) = (other.containerId, j) := by
  refine evidenceSeed_inj ?_ (hsha _ (seed_mem_texts hmem hi) _ (seed_mem_texts hother hj)
    ((String.append_right_inj _).1 h))
  rw [length_containerId husable hmem, length_containerId husable hother]

/-! The findings -/

theorem mem_composeRuntimeMountFindings {finding : Finding} :
    finding ∈ deriveComposeRuntimeMountFindings scan binding ↔
      isUsableBinding scan binding = true ∧
        ∃ missing ∈ missingMounts binding scan, missingMountFinding binding missing = finding := by
  unfold deriveComposeRuntimeMountFindings
  split_ifs with husable
  · simp only [mem_sortByKey, List.mem_map, husable, true_and]
  · simp [husable]

/-- A finding about the declared mount of an ordinal. -/
def IsFindingFor (binding : ComposeRuntimeBinding) (ordinal : ℕ) (finding : Finding) : Prop :=
  ∃ container ∈ binding.containers,
    missingMountFinding binding (container.containerId, ordinal) = finding

theorem finding_for_iff (hsha : NoCollision (seedTexts scan binding))
    (husable : isUsableBinding scan binding = true) {ordinal : ℕ} {mount : ComposeMount}
    (hmount : scan.mounts[ordinal]? = some mount) :
    (∃ finding ∈ deriveComposeRuntimeMountFindings scan binding,
        IsFindingFor binding ordinal finding) ↔
      (mount.kind = .bind ∨ mount.kind = .namedVolume) ∧
        ∃ container, IsSoleBound binding mount.service container ∧
          ∀ runtime ∈ container.mounts, mountsMatch mount runtime = false := by
  have hordinal := (List.getElem?_eq_some_iff.1 hmount).1
  constructor
  · rintro ⟨finding, hfinding, container, hcontainer, rfl⟩
    obtain ⟨-, missing, hmissing, heq⟩ := mem_composeRuntimeMountFindings.1 hfinding
    obtain ⟨hlt, other, hother, hid⟩ := parts_of_missing hmissing
    obtain ⟨id, j⟩ := missing
    dsimp only at hid hlt
    subst hid
    have hpair := id_inj hsha husable hother hcontainer hlt hordinal (congrArg Finding.id heq)
    obtain ⟨found, hfound, hkind, sole, hbound, -, hmatches⟩ := mem_missingMounts.1 hmissing
    obtain rfl : j = ordinal := congrArg Prod.snd hpair
    obtain rfl : mount = found := Option.some.inj (hmount.symm.trans hfound)
    exact ⟨hkind, sole, hbound, hmatches⟩
  · rintro ⟨hkind, container, hbound, hmatches⟩
    refine ⟨_, mem_composeRuntimeMountFindings.2 ⟨husable, (container.containerId, ordinal),
      mem_missingMounts.2 ⟨mount, hmount, hkind, container, hbound, rfl, hmatches⟩, rfl⟩,
      container, hbound.mem, rfl⟩

theorem nodup_ids (hsha : NoCollision (seedTexts scan binding))
    (husable : isUsableBinding scan binding = true) :
    ((deriveComposeRuntimeMountFindings scan binding).map Finding.id).Nodup := by
  rw [deriveComposeRuntimeMountFindings, if_pos husable,
    ((sortByKey_perm _ _).map Finding.id).nodup_iff, List.map_map]
  refine nodup_missingMounts.map_on fun missing hmissing missing' hmissing' heq => ?_
  obtain ⟨hlt, container, hcontainer, hid⟩ := parts_of_missing hmissing
  obtain ⟨hlt', other, hother, hid'⟩ := parts_of_missing hmissing'
  obtain ⟨id, i⟩ := missing
  obtain ⟨id', j⟩ := missing'
  dsimp only at hid hid' hlt hlt'
  subst hid hid'
  exact id_inj hsha husable hcontainer hother hlt hlt' heq

end

/-! The order of the containers -/

section

variable {scan : ComposeScan} {binding : ComposeRuntimeBinding}
  {containers : List ComposeRuntimeContainer} (hperm : containers.Perm binding.containers)

include hperm

theorem isSoleBound_perm (service : String) (container : ComposeRuntimeContainer) :
    IsSoleBound { binding with containers := containers } service container ↔
      IsSoleBound binding service container := by
  have hbound : isBound { binding with containers := containers } = isBound binding := rfl
  constructor
  · rintro ⟨hmem, hbound, hservice, hnamed, hid, hsole⟩
    exact ⟨hperm.mem_iff.1 hmem, hbound, hservice, hnamed, by rw [← hperm.countP_eq]; exact hid,
      by rw [← hperm.countP_eq]; exact hsole⟩
  · rintro ⟨hmem, hbound, hservice, hnamed, hid, hsole⟩
    exact ⟨hperm.mem_iff.2 hmem, hbound, hservice, hnamed, by rw [hperm.countP_eq]; exact hid,
      by rw [hperm.countP_eq]; exact hsole⟩

theorem boundContainer_perm (service : String) :
    boundContainer { binding with containers := containers } service =
      boundContainer binding service := by
  ext container
  rw [boundContainer_eq_some, boundContainer_eq_some, isSoleBound_perm hperm]

theorem isUsableBinding_perm :
    isUsableBinding scan { binding with containers := containers } =
      isUsableBinding scan binding := by
  simp only [isUsableBinding, hperm.length_eq, hperm.all_eq]

theorem composeRuntimeMountFindings_perm :
    deriveComposeRuntimeMountFindings scan { binding with containers := containers } =
      deriveComposeRuntimeMountFindings scan binding := by
  have hmissing : missingMounts { binding with containers := containers } scan =
      missingMounts binding scan := by
    unfold missingMounts
    simp only [boundContainer_perm hperm]
  rw [deriveComposeRuntimeMountFindings, deriveComposeRuntimeMountFindings,
    isUsableBinding_perm hperm, hmissing]
  rfl

end

/-- The rule is exact, keeps its findings apart and does not read the order of the containers. -/
theorem missing_mounts_exact (scan : ComposeScan) (binding : ComposeRuntimeBinding)
    (husable : isUsableBinding scan binding = true)
    (hsha : NoCollision (seedTexts scan binding)) :
    (∀ ordinal mount, scan.mounts[ordinal]? = some mount →
      ((∃ finding ∈ deriveComposeRuntimeMountFindings scan binding,
          IsFindingFor binding ordinal finding) ↔
        (mount.kind = .bind ∨ mount.kind = .namedVolume) ∧
          binding.containers.countP (fun other =>
            isBound binding other && other.service == mount.service) = 1 ∧
          ∃ container ∈ binding.containers, isBound binding container = true ∧
            container.service = mount.service ∧
            binding.containers.countP
              (fun other => other.containerId == container.containerId) = 1 ∧
            ∀ runtime ∈ container.mounts, mountsMatch mount runtime = false)) ∧
    (∀ finding ∈ deriveComposeRuntimeMountFindings scan binding,
      ∃ ordinal < scan.mounts.length, IsFindingFor binding ordinal finding) ∧
    (∀ containers, containers.Perm binding.containers →
      deriveComposeRuntimeMountFindings scan { binding with containers := containers } =
        deriveComposeRuntimeMountFindings scan binding) ∧
    ((deriveComposeRuntimeMountFindings scan binding).map Finding.id).Nodup := by
  refine ⟨?_, ?_, fun containers hperm => composeRuntimeMountFindings_perm hperm,
    nodup_ids hsha husable⟩
  · intro ordinal mount hmount
    rw [finding_for_iff hsha husable hmount]
    refine and_congr_right fun _ => ?_
    constructor
    · rintro ⟨container, hbound, hmatches⟩
      exact ⟨hbound.soleService, container, hbound.mem, hbound.bound, hbound.service_eq,
        hbound.soleId, hmatches⟩
    · rintro ⟨hsole, container, hmem, hbound, hservice, hid, hmatches⟩
      have hnamed : container.containerId ≠ "" := by
        intro hempty
        have hlength := length_containerId husable hmem
        rw [hempty] at hlength
        cases hlength
      exact ⟨container, ⟨hmem, hbound, hservice, hnamed, hid, hsole⟩, hmatches⟩
  · intro finding hfinding
    obtain ⟨-, missing, hmissing, rfl⟩ := mem_composeRuntimeMountFindings.1 hfinding
    obtain ⟨hlt, container, hcontainer, hid⟩ := parts_of_missing hmissing
    exact ⟨missing.2, hlt, container, hcontainer, by rw [hid]⟩

/-! A scan with two declared mounts, and a container that has one of them -/

def declaredMount (kind : ComposeMountKind) (source target : String) : ComposeMount where
  id := "compose_mount_web_0"
  service := "web"
  kind := kind
  source := some source
  resolvedSource := none
  target := target
  readOnly := false
  origin := { file := "/srv/compose.yaml", service := some "web", field := "volumes" }

def twoMountScan : ComposeScan where
  files := ["/srv/compose.yaml"]
  projectRoot := "/srv"
  services := []
  mounts := [declaredMount .namedVolume "cache" "/cache", declaredMount .bind "/srv/data" "/data"]
  correlations := []
  diagnostics := []

def cacheOnlyContainer : ComposeRuntimeContainer where
  containerId := String.ofList (List.replicate 64 'a')
  project := "shop"
  service := "web"
  configFiles := SortedSet.ofList ["/srv/compose.yaml"]
  mounts :=
    [{ id := "m0", kind := .namedVolume, source := some "cache", target := "/cache",
       readOnly := false }]

def cacheOnlyBinding : ComposeRuntimeBinding where
  project := "shop"
  configFiles := SortedSet.ofList ["/srv/compose.yaml"]
  containers := [cacheOnlyContainer]
  collectedAt := 7
  providerRevision := "r1"
  fresh := true

/-- The second declared mount is the missing one. -/
theorem missing_mounts_exact_applied :
    (∃ finding ∈ deriveComposeRuntimeMountFindings twoMountScan cacheOnlyBinding,
      IsFindingFor cacheOnlyBinding 1 finding) ∧
    ¬ ∃ finding ∈ deriveComposeRuntimeMountFindings twoMountScan cacheOnlyBinding,
      IsFindingFor cacheOnlyBinding 0 finding := by
  have hexact := missing_mounts_exact twoMountScan cacheOnlyBinding (by decide)
    (by decide +kernel)
  constructor
  · exact (hexact.1 1 _ rfl).2 ⟨by decide, by decide, cacheOnlyContainer, by decide, by decide,
      rfl, by decide, by decide⟩
  · rw [hexact.1 0 _ rfl]
    rintro ⟨-, -, container, hmem, -, -, -, hmatches⟩
    obtain rfl := List.mem_singleton.1 hmem
    exact absurd (hmatches _ List.mem_cons_self) (by decide)

end DockerMap
