import DockerMap.Proofs.AdmittedFindings
import DockerMap.Proofs.MapAdmission

/-! The findings that a daemon publishes, at the browser boundary: in whatever state a run has
left the daemon, the boundary lets the whole page through. -/

namespace DockerMap

open Json (encode)
open JavaScript (codeUnits textLess)
open Runs
open Text (startsWith)

/-! The order of ids -/

theorem codeUnits_of_slug {value : String} (h : IsSlug value) :
    codeUnits value = value.toList.map Char.toNat := by
  have hascii : ∀ c ∈ value.toList, c.toNat < 0x10000 := by
    intro c hc
    have hslug := (isSlugCharacter_iff c).1 (h c hc)
    omega
  have hlist := JavaScript.codeUnits_ofList hascii
  rwa [String.ofList_toList] at hlist

theorem map_toNat_lt {a b : List Char} (h : a < b) : a.map Char.toNat < b.map Char.toNat := by
  induction h with
  | nil => exact List.Lex.nil
  | cons _ ih => exact List.Lex.cons ih
  | rel hlt => exact List.Lex.rel hlt

/-- Rust's order by bytes is JavaScript's by code units on the ids of containers. -/
theorem textLess_of_slugs {a b : String} (ha : IsSlug a) (hb : IsSlug b) (h : a < b) :
    textLess a b = true := by
  rw [textLess, decide_eq_true_eq, codeUnits_of_slug ha, codeUnits_of_slug hb]
  exact map_toNat_lt (String.lt_iff_toList_lt.1 h)

/-! Facts -/

/-- What the daemon has seen to on a fact of its map. -/
structure IsBuiltFact (lastUpdated : ℕ) (edge : RuntimeMapEdge) (evidence : RuntimeEvidenceRef) :
    Prop where
  revision : '-' ∈ evidence.providerRevision.toList
  docker : evidence.kind.shape.version = 1 → evidence.collectedAt = lastUpdated
  port : evidence.kind = .dockerPortPublication →
    evidence.summary = Api.portPublicationEvidenceSummary
  dependency : evidence.kind = .dockerComposeDependsOn → IsSlug edge.source ∧ IsSlug edge.target
  collision : evidence.kind = .runtimeIdentityCollision →
    evidence.collectedAt = lastUpdated ∧ Api.isIntegrityRevision evidence.providerRevision = true

section

variable {lastUpdated : ℕ} {edge : RuntimeMapEdge} {evidence : RuntimeEvidenceRef}
  {nodes : List RuntimeMapNode} {edges : List RuntimeMapEdge}

theorem IsBuiltFact.isOpaque (h : IsBuiltFact lastUpdated edge evidence) :
    HasOpaqueRevision evidence := opaque_of_dash h.revision

/-- The evidence of such facts fits the boundary's table. -/
theorem fits_of_builtFacts
    (h : ∀ edge ∈ edges, ∀ evidence ∈ edge.evidenceRefs, IsBuiltFact lastUpdated edge evidence)
    (htime : lastUpdated ≤ Api.maxSafeInteger) : EvidenceFits nodes edges where
  edge rule hrule edge hedge hholds evidence hevidence := by
    have hfact := h edge hedge evidence hevidence
    simp only [edgeRules, List.mem_cons, List.not_mem_nil, or_false] at hrule
    rcases hrule with rfl | rfl | rfl | rfl | rfl | rfl
    · trivial
    · simp only [isCandidateUnspecifiedAddressPort, Bool.and_eq_true] at hholds
      obtain ⟨known, hknown⟩ := isDockerFact_of_fresh hholds.2.1.2
      rw [hknown.refs, List.mem_singleton] at hevidence
      subst hevidence
      have hcollected := hfact.docker (by rw [hknown.kindEq]; rfl)
      exact ⟨hfact.isOpaque, hcollected.le.trans htime⟩
    · trivial
    · trivial
    · exact hfact.isOpaque
    · exact hfact.isOpaque
  collision _ edge hedge hcandidate evidence hevidence := by
    simp only [isCandidateRuntimeIdentityCollision, Bool.and_eq_true, Option.any_eq_true] at hcandidate
    obtain ⟨-, known, hsole, hfields⟩ := hcandidate
    simp only [beq_iff_eq] at hfields
    rw [(soleEvidence_eq_some.1 hsole).1, List.mem_singleton] at hevidence
    subst hevidence
    have hkind : evidence.kind = .runtimeIdentityCollision := hfields.1.1.1.1.1.1.1.2
    obtain ⟨hcollected, hintegrity⟩ := (h edge hedge evidence
      ((soleEvidence_eq_some.1 hsole).1 ▸ List.mem_singleton_self evidence)).collision hkind
    exact ⟨hcollected.le.trans htime, hintegrity⟩
  joint rule hrule edge hedge hholds partner hpartner hjoined evidence hevidence other hother _ := by
    have hfact := h edge hedge evidence hevidence
    have hother' := h partner hpartner other hother
    simp only [jointRules, List.mem_cons, List.not_mem_nil, or_false] at hrule
    rcases hrule with rfl | rfl
    · simp only [daemonStatePortJoin, isCandidateDockerDaemonStatePortPublication,
        Bool.and_eq_true] at hjoined
      obtain ⟨known, hknown⟩ := isDockerFact_of_fresh hjoined.2.2
      rw [hknown.refs, List.mem_singleton] at hother
      subst hother
      exact ⟨hfact.isOpaque, hother'.port hknown.kindEq⟩
    · simp only [mutualDependencyJoin, Bool.and_eq_true, decide_eq_true_eq] at hholds
      obtain ⟨-, -, -, known, hknown, -⟩ := dockerFact_of_composeDependency hholds.1.2
      rw [hknown.refs, List.mem_singleton] at hevidence
      subst hevidence
      obtain ⟨hsource, htarget⟩ := hfact.dependency hknown.kindEq
      exact ⟨hfact.isOpaque, textLess_of_slugs hsource htarget hholds.1.1.1⟩
  internalNetworkPort edge hedge _ port hport _ _ evidence hevidence := by
    rcases List.mem_append.1 hevidence with hmember | hpublished
    · exact (h edge hedge evidence hmember).isOpaque
    · exact (h port hport evidence hpublished).isOpaque

end

/-! Facts of a rebuilt map -/

section

variable {snapshot : DockerSnapshot} {revision : String} {slots : RuntimeProviderSlots}
  {edge : RuntimeMapEdge} {evidence : RuntimeEvidenceRef}

theorem isSlug_runtimeContainerId (container : ContainerRecord) :
    IsSlug (runtimeContainerId container) := by
  refine IsSlug.append ?_ (isSlug_component container.id)
  unfold IsSlug
  decide

/-- Only Docker's own facts are of its version, and they are as old as the snapshot. -/
theorem MadeEvidence.collectedAt (h : MadeEvidence snapshot revision slots edge evidence)
    (hversion : evidence.kind.shape.version = 1) : evidence.collectedAt = snapshot.lastUpdated := by
  cases h with
  | docker => rfl
  | bound hbound hkept =>
    have hknown := hbound.hasRow.known
    rw [← hbound.hasRow.version, hversion] at hknown
    exact absurd hknown (by decide)

theorem MadeEvidence.joinsContainers (h : MadeEvidence snapshot revision slots edge evidence)
    (hkind : evidence.kind = .dockerComposeDependsOn) :
    JoinsContainers snapshot edge.source edge.target := by
  cases h with
  | docker kind hversion hport hdepends => exact hdepends hkind
  | bound hbound hkept =>
    have hversion := hbound.hasRow.version
    have hknown := hbound.hasRow.known
    rw [hkind] at hversion
    rw [← hversion] at hknown
    exact absurd hknown (by decide)

/-- Ids of containers are published as they are on an edge that joins two of them. -/
theorem PublishedEvidence.dependency (h : PublishedEvidence snapshot revision slots edge evidence)
    (hkind : evidence.kind = .dockerComposeDependsOn) : IsSlug edge.source ∧ IsSlug edge.target := by
  have hattested := (evidenceRefMatchesEdge_iff.1 h.valid).2.2.2
  rw [hkind, RuntimeMapEdge.attestedBy, Bool.and_eq_true, RuntimeMapEdge.links_iff] at hattested
  obtain ⟨rawEdge, raw, hmade, hedge, hevidence⟩ := h.made
  obtain ⟨hsource, htarget, -⟩ := redactRuntimeEdge_parts rawEdge
  rw [← hedge] at hsource htarget
  have hraw : raw.kind = .dockerComposeDependsOn := by
    rw [← (redactRuntimeEvidenceRef_parts raw).1, ← hevidence, hkind]
  obtain ⟨container, -, dependency, -, hcontainer, hdependency⟩ := hmade.joinsContainers hraw
  have hpublished {container : ContainerRecord}
      (hstarts : startsWith (redactRuntimeDisplayText (runtimeContainerId container)).toList
        "docker_container_".toList = true) :
      IsSlug (redactRuntimeDisplayText (runtimeContainerId container)) := by
    rw [redact_of_slug (isSlug_runtimeContainerId container) (isPlain_ofList (by decide))
      (by decide) hstarts]
    exact isSlug_runtimeContainerId container
  rw [hsource, htarget, hcontainer, hdependency] at hattested
  rw [hsource, htarget, hcontainer, hdependency]
  exact ⟨hpublished hattested.1.2.1, hpublished hattested.1.2.2⟩

theorem PublishedEvidence.isBuiltFact (h : PublishedEvidence snapshot revision slots edge evidence)
    (htokens : QuotesTokens revision slots) : IsBuiltFact snapshot.lastUpdated edge evidence := by
  obtain ⟨rawEdge, raw, hmade, -, hevidence⟩ := h.made
  obtain ⟨hkind, -, hsummary, hrevision⟩ := redactRuntimeEvidenceRef_parts raw
  have hcollected : (redactRuntimeEvidenceRef raw).collectedAt = raw.collectedAt := by
    rw [redactRuntimeEvidenceRef]
  rw [← hevidence] at hkind hsummary hrevision hcollected
  obtain ⟨row, hrow, hsame⟩ := hmade.hasRow.row
  refine ⟨?_, fun hversion => ?_, fun hport => ?_, h.dependency, fun hcollision => ?_⟩
  · obtain ⟨boot, n, htoken⟩ := hmade.token htokens
    rw [hrevision, htoken]
    exact dash_mem_token boot n
  · rw [hcollected]
    exact hmade.collectedAt (hkind ▸ hversion)
  · rw [hsummary, hsame, summary_published hrow]
    rw [← hkind, hport] at hrow
    cases hrow
    rfl
  · have hknown := hmade.hasRow.known
    rw [← hmade.hasRow.version, ← hkind, hcollision] at hknown
    exact absurd hknown (by decide)

theorem isBuiltFact_collision {collectedAt : ℕ} (hrevision : Api.isIntegrityRevision revision = true)
    (h : evidence ∈ (identityCollisionEdge revision collectedAt).evidenceRefs) :
    IsBuiltFact collectedAt (identityCollisionEdge revision collectedAt) evidence := by
  obtain rfl := List.mem_singleton.1 h
  refine ⟨dash_of_integrityRevision hrevision, fun hversion => ?_, fun hport => ?_,
    fun hdepends => ?_, fun _ => ⟨rfl, hrevision⟩⟩
  · cases hversion
  · cases hport
  · cases hdepends

end

/-! The cache -/

/-- The clock readings of the cache are such that JavaScript reads them exactly. -/
structure HasSafeTimes (cache : DaemonCache) : Prop where
  snapshot : cache.snapshot.lastUpdated ≤ Api.maxSafeInteger
  binding : ∀ bound ∈ cache.composeRuntimeBinding, bound.2.collectedAt ≤ Api.maxSafeInteger

/-- Every collection that the cache retains is one pass of its slot. -/
def RetainsPasses (cache : DaemonCache) : Prop :=
  ∀ slot, ∀ collection ∈ retainedCollection (cache.runtimeProviders slot).observation,
    ∃ raw, PassOf (fun _ _ => True) slot raw ∧ collection = raw.sanitizedForRetention

section

variable {processBoot : BootToken} {cache : DaemonCache}

theorem isBuiltFact_rebuilt (hcollects : RetainsPasses cache) (hboots : HasBoots processBoot cache) :
    ∀ edge ∈ cache.rebuildRuntimeMap.runtimeMap.edges, ∀ evidence ∈ edge.evidenceRefs,
      IsBuiltFact cache.snapshot.lastUpdated edge evidence := by
  have hfacts : ∀ edge ∈ (runtimeMapForSnapshot cache.snapshot cache.mode cache.runtimeProviders
      (rebuiltToken cache)).edges, ∀ evidence ∈ edge.evidenceRefs,
        IsBuiltFact cache.snapshot.lastUpdated edge evidence := by
    intro edge hedge evidence hevidence
    exact (published_runtimeMapForSnapshot hcollects hedge hevidence).2.isBuiltFact
      (quotesTokens_rebuilt hboots)
  obtain ⟨boot, hintegrity⟩ := hboots.integrity
  unfold DaemonCache.rebuildRuntimeMap DaemonCache.applyRuntimeIdentityCollisionFact
  dsimp only
  split_ifs with hactive
  · unfold appendRuntimeIdentityCollisionFact
    split_ifs with hreserved
    · exact hfacts
    · intro edge hedge evidence hevidence
      rcases List.mem_append.1 ((sortByKey_perm runtimeEdgeSortKey _).mem_iff.1 hedge) with
        hold | hnew
      · exact hfacts edge hold evidence hevidence
      · obtain rfl := List.mem_singleton.1 hnew
        exact isBuiltFact_collision (integrityRevision_assign hintegrity _) hevidence
  · exact hfacts

/-- The page of a rebuilt map is let through. -/
theorem rebuilt_findings_accepted (hcollects : RetainsPasses cache)
    (hboots : HasBoots processBoot cache) (htimes : HasSafeTimes cache) (revision : PublicationRevision)
    (hcount : ({ cache.rebuildRuntimeMap with revision }.assignRevision).findings.findings.length <
      2 ^ 32) :
    Api.hasCoherentFindings
      (encode ({ cache.rebuildRuntimeMap with revision }.assignRevision).findings) = true := by
  refine (hasCoherentFindings_iff _ hcount).2 ⟨fun _ => ?_, fun _ scan binding hbinding _ _ => ?_⟩
  · exact fits_of_builtFacts (isBuiltFact_rebuilt hcollects hboots) htimes.snapshot
  · exact htimes.binding (scan, binding) hbinding

end

/-! Runs -/

/-- A publication reads no clock beyond what JavaScript reads exactly. -/
def ReadsSafeTimes (_ : AppState) (e : Event) : Prop :=
  ∀ read now boots publication, e = .publish read now boots publication →
    now ≤ Api.maxSafeInteger ∧ ∀ snapshot binding, read = .observed snapshot binding →
      snapshot.lastUpdated ≤ Api.maxSafeInteger ∧
        ∀ bound ∈ binding, bound.2.collectedAt ≤ Api.maxSafeInteger

/-- What a run keeps of the cache and its findings. -/
structure AdmitsFindings (processBoot : BootToken) (s : AppState) : Prop where
  tokens : HoldsTokens (fun _ _ => True) processBoot s
  times : HasSafeTimes s.cache
  accepted : s.cache.findings.findings.length < 2 ^ 32 →
    Api.hasCoherentFindings (encode s.cache.findings) = true

section

variable {processBoot : BootToken} {s s' : AppState} {e : Event} {cache : DaemonCache}

theorem hasSafeTimes_mock {boots : CacheBoots} {now : ℕ} (h : now ≤ Api.maxSafeInteger)
    (message : String) : HasSafeTimes ((DaemonCache.mock processBoot boots now).withMessage message) :=
  ⟨h, fun _ hbound => by cases hbound⟩

theorem hasSafeTimes_collectSnapshot {read : SnapshotRead} {now : ℕ} {boots : CacheBoots}
    {publication : PublicationBoots} (h : ReadsSafeTimes s (.publish read now boots publication)) :
    HasSafeTimes (collectSnapshot processBoot boots now read) := by
  obtain ⟨hnow, hobserved⟩ := h read now boots publication rfl
  cases read with
  | observed snapshot binding =>
    obtain ⟨hsnapshot, hbinding⟩ := hobserved snapshot binding rfl
    exact ⟨hsnapshot, hbinding⟩
  | forcedMock => exact hasSafeTimes_mock hnow _
  | failed error => exact hasSafeTimes_mock hnow _
  | timedOut => exact hasSafeTimes_mock hnow _
  | unavailable error => exact hasSafeTimes_mock hnow _

theorem hasSafeTimes_step (hreads : ReadsSafeTimes s e) (hinv : HasSafeTimes s.cache)
    (h : CacheStep processBoot s e cache) : HasSafeTimes cache := by
  cases h with
  | kept => exact hinv
  | @published read now boots publication hevent =>
    subst hevent
    have htimes : HasSafeTimes (collectSnapshot processBoot boots now read) :=
      hasSafeTimes_collectSnapshot hreads
    unfold publishDockerSnapshotCache DaemonCache.observeHistory
    dsimp only
    split_ifs
    · exact ⟨htimes.snapshot, htimes.binding⟩
    · exact ⟨htimes.snapshot, htimes.binding⟩
  | reslotted slots => exact ⟨hinv.snapshot, hinv.binding⟩

theorem admitsFindings_step (hreads : ReadsSafeTimes s e) (h : step processBoot s e = some s')
    (hinv : AdmitsFindings processBoot s) : AdmitsFindings processBoot s' := by
  have htokens := holdsTokens_step (fun _ _ _ _ _ => trivial) h hinv.tokens
  have htimes := hasSafeTimes_step hreads hinv.times (step_cache h)
  refine ⟨htokens, htimes, fun hcount => ?_⟩
  rcases boots_of_step h hinv.tokens with hkept | ⟨base, hholds, hbase⟩
  · rw [hkept] at hcount ⊢
    exact hinv.accepted hcount
  · obtain ⟨revision, hfindings⟩ := hholds.findings
    rw [hfindings] at hcount ⊢
    refine rebuilt_findings_accepted ?_ hbase ⟨?_, ?_⟩ revision hcount
    · rw [RetainsPasses, ← hholds.slots]
      exact htokens.collects.slots
    · rw [← hholds.time]
      exact htimes.snapshot
    · rw [← hholds.binding]
      exact htimes.binding

theorem admitsFindings_new {boots : CacheBoots} {now : ℕ} (hnow : now ≤ Api.maxSafeInteger) :
    AdmitsFindings processBoot (AppState.new processBoot boots now) where
  tokens := holdsTokens_new boots now
  times := ⟨hnow, fun _ hbound => by cases hbound⟩
  accepted hcount := by
    refine (hasCoherentFindings_iff _ hcount).2 ⟨fun _ => ?_, fun _ _ _ hbinding => by cases hbinding⟩
    exact fits_of_builtFacts (fun _ hedge => by cases hedge) hnow

/-- In whatever state a run has left the daemon, the boundary lets its findings through. -/
theorem published_findings_accepted {boots : CacheBoots} {now : ℕ} {es : List Event}
    (hnow : now ≤ Api.maxSafeInteger)
    (hrun : Steps (step processBoot) ReadsSafeTimes (AppState.new processBoot boots now) es s)
    (hcount : s.cache.findings.findings.length < 2 ^ 32) :
    Api.hasCoherentFindings (encode s.cache.findings) = true :=
  (hrun.invariant (I := AdmitsFindings processBoot)
    (fun _ _ _ hreads hstep hinv => admitsFindings_step hreads hstep hinv)
    (admitsFindings_new hnow)).accepted hcount

end

/-! A publication with a declared mount that its container lacks -/

theorem withHostRisk_nil {snapshot : DockerSnapshot} {revision : String}
    {node : RuntimeMapNode} {relationship : RuntimeRelationshipKind} {kind : RuntimeEvidenceKind}
    (topology : List RuntimeMapNode × List RuntimeMapEdge) :
    withHostRisk snapshot revision [] node relationship kind topology = topology :=
  if_neg fun h => h.1 rfl

theorem riskSources_eq_nil {snapshot : DockerSnapshot} {atRisk : ContainerRecord → Bool}
    (h : ∀ container ∈ snapshot.containers, atRisk container = false) :
    riskSources snapshot atRisk = [] := by
  have hnone : snapshot.containers.filter (fun container =>
      hasUniqueId snapshot.containers container && atRisk container) = [] := by
    rw [List.filter_eq_nil_iff]
    intro container hcontainer
    rw [h container hcontainer, Bool.and_false]
    exact Bool.false_ne_true
  rw [riskSources, hnone]
  rfl

theorem length_dedup_sortByKey_le {edges : List RuntimeMapEdge} :
    (dedup (sortByKey runtimeEdgeSortKey edges)).length ≤ edges.length := by
  rw [← (sortByKey_perm runtimeEdgeSortKey edges).length_eq]
  exact (List.destutter_sublist _ _).length_le

/-- A rebuilt map has no more edges than are derived, and the one of a collision. -/
theorem length_rebuilt_edges_le (cache : DaemonCache) :
    cache.rebuildRuntimeMap.runtimeMap.edges.length ≤
      (derivedTopology cache.snapshot (combinedCollection cache.runtimeProviders).nodes
        ((combinedCollection cache.runtimeProviders).edges.filter (keepsHostRelationship
          (combinedCollection cache.runtimeProviders).nodes cache.mode))
        (rebuiltToken cache)).2.length + 1 := by
  have hmap : (runtimeMapForSnapshot cache.snapshot cache.mode cache.runtimeProviders
      (rebuiltToken cache)).edges.length ≤
      (derivedTopology cache.snapshot (combinedCollection cache.runtimeProviders).nodes
        ((combinedCollection cache.runtimeProviders).edges.filter (keepsHostRelationship
          (combinedCollection cache.runtimeProviders).nodes cache.mode))
        (rebuiltToken cache)).2.length := by
    refine length_dedup_sortByKey_le.trans ((List.length_filter_le _ _).trans ?_)
    rw [redactRuntimeEdges, List.length_map]
    split_ifs
    · exact length_dedup_sortByKey_le
    · rw [List.length_map]
      exact length_dedup_sortByKey_le
  unfold DaemonCache.rebuildRuntimeMap DaemonCache.applyRuntimeIdentityCollisionFact
  dsimp only
  split_ifs
  · unfold appendRuntimeIdentityCollisionFact
    split_ifs
    · exact hmap.trans (Nat.le_succ _)
    · rw [(sortByKey_perm runtimeEdgeSortKey _).length_eq, List.length_append,
        List.length_singleton]
      exact Nat.succ_le_succ hmap
  · exact hmap.trans (Nat.le_succ _)

def boundRead : SnapshotRead :=
  .observed { containers := [{ sampleContainer with ports := ["8080:80/tcp"] }], lastUpdated := 1000 }
    (some (twoMountScan, cacheOnlyBinding))

def publishBoundPort : Event := .publish boundRead 1000 sampleBoots samplePublicationBoots

/-- The cache that the publication rebuilds the map of. -/
def boundPortCache : DaemonCache :=
  (AppState.new sampleBoot sampleBoots 0).cache.replacedBy
    (collectSnapshot sampleBoot sampleBoots 1000 boundRead) samplePublicationBoots

theorem length_boundPort_edges : boundPortCache.rebuildRuntimeMap.runtimeMap.edges.length ≤ 2 := by
  refine (length_rebuilt_edges_le boundPortCache).trans ?_
  have hrisk : ∀ container ∈ boundPortCache.snapshot.containers,
      bindsDockerDaemonState container = false ∧ publishesOnUnspecifiedAddress container = false := by
    decide
  rw [derivedTopology, riskTopology, riskSources_eq_nil fun container h => (hrisk container h).1,
    riskSources_eq_nil fun container h => (hrisk container h).2, withHostRisk_nil, withHostRisk_nil]
  exact le_refl 2

theorem isUsableBinding_bound {revision : String} (h : revision ≠ "") :
    isUsableBinding twoMountScan { cacheOnlyBinding with providerRevision := revision } = true := by
  have husable : isUsableBinding twoMountScan cacheOnlyBinding = true := by decide
  simp only [isUsableBinding, Bool.and_eq_true, decide_eq_true_eq] at husable ⊢
  simp only [husable, h, ne_eq, not_false_eq_true, and_self]

theorem length_composeFindings_le {cache : DaemonCache} {scan : ComposeScan}
    {binding : ComposeRuntimeBinding} (h : cache.composeRuntimeBinding = some (scan, binding)) :
    cache.composeFindings.length ≤ scan.mounts.length := by
  rw [DaemonCache.composeFindings, h]
  split_ifs
  · dsimp only
    rw [deriveComposeRuntimeMountFindings]
    split_ifs
    · rw [(sortByKey_perm Finding.id _).length_eq, List.length_map, missingMounts]
      exact (List.length_filterMap_le _ _).trans List.length_zipIdx.le
    · exact Nat.zero_le _
  · exact Nat.zero_le _

theorem edges_revised_rebuilt (cache : DaemonCache) (revision : PublicationRevision) :
    (revisedMap { cache.rebuildRuntimeMap with revision }).edges =
      cache.rebuildRuntimeMap.runtimeMap.edges := rfl

theorem mem_composeFindings_of_missing {cache : DaemonCache} {scan : ComposeScan}
    {binding : ComposeRuntimeBinding} {mount : String × ℕ}
    (hmode : cache.mode = .docker) (h : cache.composeRuntimeBinding = some (scan, binding))
    (husable : isUsableBinding scan
      { binding with providerRevision := cache.dockerObservationToken } = true)
    (hmissing : mount ∈ missingMounts binding scan) :
    missingMountFinding { binding with providerRevision := cache.dockerObservationToken } mount ∈
      cache.composeFindings := by
  have hattested : mount ∈ missingMounts
      { binding with providerRevision := cache.dockerObservationToken } scan := hmissing
  exact (mem_composeFindings cache).2 ⟨hmode, scan, binding, h,
    mem_composeRuntimeMountFindings.2 ⟨husable, mount, hattested, rfl⟩⟩

theorem mode_rebuilt (cache : DaemonCache) (revision : PublicationRevision) :
    ({ cache.rebuildRuntimeMap with revision } : DaemonCache).mode = cache.mode := rfl

theorem binding_rebuilt (cache : DaemonCache) (revision : PublicationRevision) :
    ({ cache.rebuildRuntimeMap with revision } : DaemonCache).composeRuntimeBinding =
      cache.composeRuntimeBinding := rfl

theorem publishStep_cache (processBoot : BootToken) (s : AppState) (read : SnapshotRead) (now : ℕ)
    (boots : CacheBoots) (publication : PublicationBoots) :
    (publishStep processBoot s read now boots publication).cache =
      publishDockerSnapshotCache s.cache (collectSnapshot processBoot boots now read)
        publication := rfl

/-- The page has the finding of the missing mount, and the boundary lets it through. -/
theorem published_findings_accepted_bound :
    ∃ s, Steps (step sampleBoot) ReadsSafeTimes (AppState.new sampleBoot sampleBoots 0)
        [publishBoundPort] s ∧
      s.cache.findings.findings ≠ [] ∧
      Api.hasCoherentFindings (encode s.cache.findings) = true := by
  obtain ⟨s, hstep⟩ : ∃ s, step sampleBoot (AppState.new sampleBoot sampleBoots 0)
      publishBoundPort = some s := ⟨_, rfl⟩
  have hrun : Steps (step sampleBoot) ReadsSafeTimes (AppState.new sampleBoot sampleBoots 0)
      [publishBoundPort] s := by
    refine Steps.snoc .nil ?_ hstep
    intro read now boots publication hevent
    cases hevent
    refine ⟨by decide, fun snapshot binding hread => ?_⟩
    cases hread
    refine ⟨by decide, fun bound hbound => ?_⟩
    obtain rfl := Option.some.inj hbound
    decide
  obtain ⟨-, rfl⟩ := step_publish hstep
  obtain ⟨revision, hfindings⟩ := (holdsRebuilt_publish (AppState.new sampleBoot sampleBoots 0).cache
    (collectSnapshot sampleBoot sampleBoots 1000 boundRead) samplePublicationBoots).findings
  rw [← publishStep_cache, ← boundPortCache] at hfindings
  have hmode := mode_rebuilt boundPortCache revision
  have hbinding := binding_rebuilt boundPortCache revision
  have hedges := edges_revised_rebuilt boundPortCache revision
  have hlength := length_boundPort_edges
  generalize hcache : ({ boundPortCache.rebuildRuntimeMap with revision } : DaemonCache) = cache
    at hfindings hmode hbinding hedges
  rw [show boundPortCache.mode = .docker from rfl] at hmode
  rw [show boundPortCache.composeRuntimeBinding = some (twoMountScan, cacheOnlyBinding) from rfl]
    at hbinding
  refine ⟨_, hrun, ?_, published_findings_accepted (by decide) hrun ?_⟩
  · have husable : isUsableBinding twoMountScan
        { cacheOnlyBinding with providerRevision := cache.dockerObservationToken } = true := by
      refine isUsableBinding_bound fun hempty => ?_
      have hdash := dash_mem_dockerObservationToken cache
      rw [hempty] at hdash
      cases hdash
    have hmissing : (cacheOnlyContainer.containerId, 1) ∈
        missingMounts cacheOnlyBinding twoMountScan := by decide
    rw [hfindings]
    exact List.ne_nil_of_mem ((mem_findings_assignRevision cache).2
      (Or.inr (mem_composeFindings_of_missing hmode hbinding husable hmissing)))
  · have hderived := length_deriveFindings (revisedMap cache)
    have hcompose : cache.composeFindings.length ≤ 2 := length_composeFindings_le hbinding
    rw [hfindings, findings_assignRevision, (sortByKey_perm Finding.id _).length_eq,
      List.length_append]
    rw [← hedges] at hlength
    have hproduct := Nat.mul_le_mul hlength (Nat.add_le_add_right hlength 1)
    omega

end DockerMap
