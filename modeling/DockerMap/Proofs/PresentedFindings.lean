import DockerMap.Proofs.FindingPresentation

/-! The findings of the daemon that reach the screen, from the published map through the
boundary to the browser's table. -/

namespace DockerMap

open Text (startsWith)
open Json (encode)

/-! Findings of the daemon -/

/-- A map as the daemon publishes it, with or without the integrity fact. -/
inductive IsPublishedMap : RuntimeMap → Prop
  | redacted (raw : RuntimeMap) : IsPublishedMap (redactRuntimeMap raw)
  | withCollisionFact (raw : RuntimeMap) (revision : String) (collectedAt : ℕ) :
      IsPublishedMap (appendRuntimeIdentityCollisionFact (redactRuntimeMap raw) revision
        collectedAt)

inductive IsDaemonFinding : Finding → Prop
  | derived {runtimeMap : RuntimeMap} {finding : Finding} (hmap : IsPublishedMap runtimeMap)
      (hmem : finding ∈ deriveFindings runtimeMap) : IsDaemonFinding finding
  | compose {scan : ComposeScan} {binding : ComposeRuntimeBinding} {finding : Finding}
      (hmem : finding ∈ deriveComposeRuntimeMountFindings scan binding) : IsDaemonFinding finding

/-- No character the browser boundary would replace. -/
def IsDisplayable (value : String) : Prop :=
  ∀ c ∈ value.toList, unsafeRuntimeDisplayCharacter c = false

instance (value : String) : Decidable (IsDisplayable value) :=
  inferInstanceAs (Decidable (∀ c ∈ value.toList, unsafeRuntimeDisplayCharacter c = false))

/-- What publication promises of the parts of a map that findings quote. -/
structure IsQuotable (runtimeMap : RuntimeMap) : Prop where
  ids : ∀ node ∈ runtimeMap.nodes, IsDisplayable node.id
  evidence : ∀ edge ∈ runtimeMap.edges, ∀ evidence ∈ edge.evidenceRefs,
    evidence.id ≠ "" ∧ evidence.providerRevision ≠ ""

theorem named_of_valid {edge : RuntimeMapEdge} (h : edge.hasValidEvidenceRefs = true) :
    ∀ evidence ∈ edge.evidenceRefs, evidence.id ≠ "" ∧ evidence.providerRevision ≠ "" := by
  intro evidence hevidence
  have hmatches := List.all_eq_true.1 h evidence hevidence
  simp only [RuntimeMapEdge.evidenceRefMatchesEdge, RuntimeMapEdge.isBoundedText,
    Bool.and_eq_true, decide_eq_true_eq] at hmatches
  exact ⟨hmatches.1.1.1.1.1.1, hmatches.1.1.1.2.1⟩

theorem isQuotable_redact (raw : RuntimeMap) : IsQuotable (redactRuntimeMap raw) where
  ids node hnode := by
    have hid : node.id ∈ (redactRuntimeMap raw).displayStrings :=
      List.mem_append_left _ (List.mem_append_left _ (List.mem_flatMap.2 ⟨node, hnode, by
        simp [RuntimeMapNode.displayStrings]⟩))
    exact (isPublished_of_mem_displayStrings hid).displayable
  evidence edge hedge := named_of_valid (hasValidEvidenceRefs_of_mem hedge)

theorem IsPublishedMap.isQuotable {runtimeMap : RuntimeMap} (h : IsPublishedMap runtimeMap) :
    IsQuotable runtimeMap := by
  cases h with
  | redacted raw => exact isQuotable_redact raw
  | withCollisionFact raw revision collectedAt =>
    have hquotable := isQuotable_redact raw
    unfold appendRuntimeIdentityCollisionFact
    split_ifs with hkept
    · exact hquotable
    · constructor
      · intro node hnode
        rcases List.mem_append.1 (mem_sortByKey.1 hnode) with hnode | hnode
        · exact hquotable.ids node hnode
        · simp only [List.mem_cons, List.not_mem_nil, or_false] at hnode
          rcases hnode with rfl | rfl
          · exact (by decide +kernel : IsDisplayable runtimeIntegrityScopeId)
          · exact (by decide +kernel : IsDisplayable runtimeIdentityCollisionRiskId)
      · intro edge hedge
        rcases List.mem_append.1 (mem_sortByKey.1 hedge) with hedge | hedge
        · exact hquotable.evidence edge hedge
        · rw [List.mem_singleton.1 hedge]
          simp only [identityCollisionEdge, List.forall_mem_singleton]
          exact ⟨by decide, fun hempty => hkept (Or.inl hempty)⟩

/-- What the browser boundary gets from the daemon. -/
structure IsQuoted (finding : Finding) : Prop where
  subject : IsDisplayable finding.subjectRef
  target : IsDisplayable finding.targetRef
  evidence : ∀ evidence ∈ finding.evidenceRefs, evidence.id ≠ "" ∧ evidence.providerRevision ≠ ""

theorem IdentifiesOne.displayable {nodes : List RuntimeMapNode} {id : String}
    (h : IdentifiesOne nodes id) (hids : ∀ node ∈ nodes, IsDisplayable node.id) :
    IsDisplayable id := by
  have hpos : 0 < nodes.countP fun node => node.id == id := by
    rw [h]
    exact Nat.one_pos
  obtain ⟨node, hnode, hid⟩ := List.countP_pos_iff.1 hpos
  rw [← beq_iff_eq.1 hid]
  exact hids node hnode

theorem isQuoted_of_mem {runtimeMap : RuntimeMap} (hmap : IsQuotable runtimeMap)
    {finding : Finding} (hmem : finding ∈ deriveFindings runtimeMap) : IsQuoted finding := by
  by_cases hmock : runtimeMap.source = some .mock
  · rw [deriveFindings, if_pos hmock] at hmem
    cases hmem
  · obtain ⟨text, hfinds⟩ := (mem_deriveFindings hmock).1 hmem
    have hsupported := hfinds.isSupported
    refine ⟨hsupported.subject.displayable hmap.ids, hsupported.target.displayable hmap.ids, ?_⟩
    intro evidence hevidence
    obtain ⟨edge, hedge, -, hmem⟩ := hsupported.evidence evidence hevidence
    exact hmap.evidence edge hedge evidence hmem

/-! What the boundary checks -/

/-- The check of the rule's row in the boundary's table. -/
def checkOf : FindingRule → Json → Bool
  | .systemdRequiresTargetNotActive => Api.isSystemdRequiresFinding
  | .systemdPartOfTargetNotActive => Api.isSystemdPartOfFinding
  | .dockerInternalNetworkMemberPublishesPort => Api.isInternalNetworkPortFinding
  | .dockerPortPublishedOnUnspecifiedAddress => Api.isUnspecifiedAddressPortFinding
  | .dockerDaemonStateBindMount => Api.isDaemonStateFinding
  | .dockerDaemonStateBindMountPublishesPort => Api.isDaemonStatePublishedPortFinding
  | .dockerComposeDeclaredTargetNotActive => Api.isComposeDeclaredTargetFinding
  | .dockerComposeMutualDependency => Api.isComposeMutualDependencyFinding
  | .composeDeclaredMountMissingAtBoundContainer => Api.isComposeDeclaredMountMissingFinding
  | .runtimeIdentityCollisionDetected => Api.isRuntimeIdentityCollisionFinding
  | .runtimeDeclaredRelationshipEvidenceNotCurrent => Api.isDeclaredRelationshipFinding

theorem findingRule?_any (finding : Finding) :
    ((Api.findingRule? (encode finding)).any fun row => row.check (encode finding)) =
      checkOf finding.ruleId (encode finding) := by
  simp only [Api.findingRule?, Api.hasText, finding_ruleId, asText_str]
  cases finding.ruleId <;> rfl

theorem check_of_accepted {response : FindingsResponse} {finding : Finding}
    (haccepted : Api.hasCoherentFindings (encode response) = true)
    (hmem : finding ∈ response.findings) : checkOf finding.ruleId (encode finding) = true := by
  have hfield : (encode response).field? "findings" =
      some (.arr (response.findings.map encode)) := rfl
  simp only [Api.hasCoherentFindings, hfield, Api.withItems, Bool.and_eq_true,
    List.all_eq_true] at haccepted
  have hcoherent := haccepted.2.2 (encode finding) (List.mem_map_of_mem hmem)
  rw [Api.isCoherentFinding, Bool.and_eq_true, findingRule?_any] at hcoherent
  exact hcoherent.2

/-! Presented findings -/

/-- What the boundary and the browser ask of a finding beyond what the daemon promises. -/
structure IsPresentable (toLowerCase : String → String) (finding : Finding) : Prop where
  network : finding.ruleId ≠ .dockerInternalNetworkMemberPublishesPort
  daemonState : finding.ruleId ≠ .dockerDaemonStateBindMount
  id : Api.isSensitiveText toLowerCase finding.id = false
  subject : Api.isSensitiveText toLowerCase finding.subjectRef = false
  target : Api.isSensitiveText toLowerCase finding.targetRef = false
  collected : finding.ruleId = .dockerComposeMutualDependency →
    ∀ evidence ∈ finding.evidenceRefs, evidence.collectedAt ≤ Api.maxSafeInteger

section

variable {toLowerCase : String → String} {finding : Finding}

theorem legible_of_plain (htable : LowersByTable toLowerCase) (hid : isPlain finding.id = true)
    (hsubject : isPlain finding.subjectRef = true) (htarget : isPlain finding.targetRef = true) :
    Legible toLowerCase finding where
  id := insensitive_plain htable hid
  subject := publish_plain htable hsubject
  target := publish_plain htable htarget

theorem legible_of_declaredMount (htable : LowersByTable toLowerCase)
    (h : Api.isComposeDeclaredMountMissingFinding (encode finding) = true) :
    Legible toLowerCase finding := by
  simp only [Api.isComposeDeclaredMountMissingFinding, Api.composeMountFindingDigest,
    Api.isOpaqueComposeRuntimeBindingId, Api.differingRefs, finding_id, finding_subjectRef,
    finding_targetRef, Option.any_eq_true, Option.isSome_iff_exists, digestAfter_eq_some,
    JavaScript.strictEqual_str, Bool.and_eq_true, Bool.not_not, beq_iff_eq] at h
  obtain ⟨-, digest, ⟨hid, -, hhex⟩, ⟨⟨subject, hsubject, -, hsubjectHex⟩, hsame⟩, -⟩ := h
  have hplain : isPlain finding.subjectRef = true := by
    rw [hsubject]
    exact isPlain_append_digest (by decide +kernel) hsubjectHex
  refine legible_of_plain htable ?_ hplain (hsame ▸ hplain)
  rw [hid]
  exact isPlain_append_digest (by decide +kernel) hhex

theorem ruleId_of_compose {scan : ComposeScan} {binding : ComposeRuntimeBinding}
    (hmem : finding ∈ deriveComposeRuntimeMountFindings scan binding) :
    finding.ruleId = .composeDeclaredMountMissingAtBoundContainer := by
  unfold deriveComposeRuntimeMountFindings at hmem
  split_ifs at hmem
  · obtain ⟨missing, -, rfl⟩ := List.mem_map.1 (mem_sortByKey.1 hmem)
    rfl
  · cases hmem

theorem presents_of_presentable (htable : LowersByTable toLowerCase)
    (hfinding : IsDaemonFinding finding)
    (hcheck : checkOf finding.ruleId (encode finding) = true)
    (h : IsPresentable toLowerCase finding) :
    Presents (specOf finding.ruleId) (publishFinding toLowerCase finding) := by
  cases hfinding with
  | @compose scan binding _ hmem =>
    rw [ruleId_of_compose hmem] at hcheck ⊢
    exact presents_declaredMount htable (legible_of_declaredMount htable hcheck) hcheck
  | derived hmap hmem =>
    have hquoted := isQuoted_of_mem hmap.isQuotable hmem
    have hlegible : Legible toLowerCase finding :=
      ⟨h.id, publish_of_displayable hquoted.subject h.subject,
        publish_of_displayable hquoted.target h.target⟩
    have hnetwork := h.network
    have hdaemonState := h.daemonState
    have hdatable (hrule : finding.ruleId = .dockerComposeMutualDependency) :
        ∀ evidence ∈ finding.evidenceRefs, IsDatable evidence := fun evidence hevidence =>
      ⟨(hquoted.evidence evidence hevidence).1, (hquoted.evidence evidence hevidence).2,
        h.collected hrule evidence hevidence⟩
    cases hrule : finding.ruleId <;> rw [hrule] at hcheck hnetwork hdaemonState
    · exact presents_requires htable hlegible hcheck
    · exact presents_partOf htable hlegible hcheck
    · exact absurd rfl hnetwork
    · exact presents_unspecifiedAddressPort htable hlegible hcheck
    · exact absurd rfl hdaemonState
    · exact presents_daemonStatePort htable hlegible hcheck
    · exact presents_declaredTarget htable hlegible hcheck
    · exact presents_mutualDependency htable hlegible (hdatable hrule) hcheck
    · exact presents_declaredMount htable hlegible hcheck
    · exact presents_identityCollision htable hlegible hcheck
    · exact presents_notCurrent htable hlegible hcheck

/-- The browser asks for a null slot, the daemon has none to send. -/
theorem not_matchesEvidence_of_null {spec : Web.FindingSpec} {json : Json}
    {evidence : RuntimeEvidenceRef} (habsent : Web.absentSlotRules.contains spec.ruleId = false)
    (hslot : spec.evidence.providerSlot = none) :
    Web.matchesEvidence spec json (encode evidence) = false := by
  simp only [Web.matchesEvidence, habsent, hslot, Bool.false_eq_true, if_false,
    evidence_providerSlot, isSlot_none_slot, Bool.and_false, Bool.false_and]

theorem not_presents_of_null {spec : Web.FindingSpec}
    (habsent : Web.absentSlotRules.contains spec.ruleId = false)
    (hslot : spec.evidence.providerSlot = none) : ¬ Presents spec finding := by
  intro h
  obtain ⟨evidence, -, hevidence⟩ := h.evidence
  rw [not_matchesEvidence_of_null habsent hslot] at hevidence
  cases hevidence

theorem targets_specOf (rule : FindingRule) :
    (specOf rule).targetPrefix.isSome ∨ (specOf rule).targetRef.isSome := by
  cases rule <;> decide

theorem insensitive_of_publish_eq {value text : String} (hplain : isPlain text = true)
    (hne : text ≠ "") (h : Api.publishDisplayText toLowerCase value = text) :
    Api.isSensitiveText toLowerCase value = false := by
  refine insensitive_of_startsWith hplain hne ?_
  rw [h, startsWith, decide_eq_true_eq]

theorem insensitive_target {rule : FindingRule}
    (h : RowMatches (specOf rule) (publishFinding toLowerCase finding)) :
    Api.isSensitiveText toLowerCase finding.targetRef = false := by
  have hrow := plainRow_specOf rule
  have hpublished : (publishFinding toLowerCase finding).targetRef =
      Api.publishDisplayText toLowerCase finding.targetRef := by
    unfold publishFinding
    rfl
  rcases targets_specOf rule with hsome | hsome
  · obtain ⟨word, hword⟩ := Option.isSome_iff_exists.1 hsome
    have hstart := h.targetPrefix word hword
    rw [hpublished] at hstart
    exact insensitive_of_startsWith (hrow.targetPrefix word hword).1
      (hrow.targetPrefix word hword).2 hstart
  · obtain ⟨text, htext⟩ := Option.isSome_iff_exists.1 hsome
    exact insensitive_of_publish_eq (hrow.targetRef text htext).1 (hrow.targetRef text htext).2
      (hpublished ▸ h.targetRef text htext)

theorem isCollected_of_composeEvidence {json : Json} {subjectRef : Option Json}
    (h : Web.isFreshComposeEvidence json subjectRef = true) : Web.isCollected json = true := by
  rw [Web.isFreshComposeEvidence, Bool.and_eq_true] at h
  exact h.2

theorem collected_of_presents
    (h : Presents Web.mutualDependencySpec (publishFinding toLowerCase finding)) :
    ∀ evidence ∈ finding.evidenceRefs, evidence.collectedAt ≤ Api.maxSafeInteger := by
  have hrefs : (publishFinding toLowerCase finding).evidenceRefs =
      finding.evidenceRefs.map (publishEvidenceRef toLowerCase) := by
    unfold publishFinding
    rfl
  have hlength := h.count
  have hrule := h.rule
  rw [hrefs, List.length_map] at hlength
  obtain ⟨evidence, other, hpair⟩ := List.length_eq_two.1 hlength
  simp only [hrefs, hpair, List.map_cons, List.map_nil] at hrule
  rw [matchesRule_mutualDependency, Bool.and_eq_true, Bool.and_eq_true] at hrule
  obtain ⟨⟨hforward, hreverse⟩, -⟩ := hrule
  have hcollected {evidence : RuntimeEvidenceRef} (h : Web.isCollected
      (encode (publishEvidenceRef toLowerCase evidence)) = true) :
      evidence.collectedAt ≤ Api.maxSafeInteger := by
    have hsafe := (isCollected_iff.1 h).1
    unfold publishEvidenceRef at hsafe
    exact hsafe
  rw [hpair]
  simp only [List.forall_mem_cons, List.not_mem_nil, IsEmpty.forall_iff, implies_true, and_true]
  exact ⟨hcollected (isCollected_of_composeEvidence hforward),
    hcollected (isCollected_of_composeEvidence hreverse)⟩

theorem presentable_of_presents
    (h : Presents (specOf finding.ruleId) (publishFinding toLowerCase finding)) :
    IsPresentable toLowerCase finding where
  network hrule := by
    rw [hrule] at h
    exact not_presents_of_null (by decide) rfl h
  daemonState hrule := by
    rw [hrule] at h
    exact not_presents_of_null (by decide) rfl h
  id := by
    have hrow := plainRow_specOf finding.ruleId
    have hid := h.row.id
    unfold publishFinding at hid
    exact insensitive_of_startsWith hrow.idPrefix hrow.idPrefix_ne hid
  subject := by
    have hrow := plainRow_specOf finding.ruleId
    have hsubject := h.row.subject
    rw [publish_subjectRef] at hsubject
    exact insensitive_of_startsWith hrow.subjectPrefix hrow.subjectPrefix_ne hsubject
  target := insensitive_target h.row
  collected hrule := by
    rw [hrule] at h
    exact collected_of_presents h

/-- The browser gets the findings one by one, in their order. -/
theorem findings_of_publish (htable : LowersByTable toLowerCase) (response : FindingsResponse) :
    (Api.publishApiPayload toLowerCase (encode response)).field? "findings" =
      some (.arr (response.findings.map fun finding =>
        Api.publishApiPayload toLowerCase (encode finding))) := by
  have hitems : Api.publishApiPayload toLowerCase (encode response.findings) =
      .arr (response.findings.map fun finding =>
        Api.publishApiPayload toLowerCase (encode finding)) := by
    change Api.publishApiPayload toLowerCase (.arr (response.findings.map encode)) = _
    rw [Api.publishApiPayload, publishItems_eq_map, List.map_map]
    rfl
  change (Api.publishApiPayload toLowerCase (Json.record _)).field? "findings" = _
  rw [publish_record htable ["findings", "summary", "modelRevision", "source"] rfl
    (by decide +kernel) (by decide), ← hitems]
  rfl

theorem finding_presented_iff (htable : LowersByTable toLowerCase) {response : FindingsResponse}
    (haccepted : Api.hasCoherentFindings (encode response) = true)
    (hmem : finding ∈ response.findings) (hfinding : IsDaemonFinding finding) :
    (Web.presentationForFinding
        (Api.publishApiPayload toLowerCase (encode finding))).isSome = true ↔
      IsPresentable toLowerCase finding := by
  have hkept : (publishFinding toLowerCase finding).ruleId = finding.ruleId := by
    unfold publishFinding
    rfl
  rw [publish_encode_finding htable, presentation_isSome_iff, hkept]
  exact ⟨presentable_of_presents,
    presents_of_presentable htable hfinding (check_of_accepted haccepted hmem)⟩

end

/-- A response with this one finding. -/
def responseOf (finding : Finding) : FindingsResponse where
  findings := [finding]
  summary := .fromFindings [finding]
  modelRevision := "r1"
  source := some .docker

def collisionFinding : Finding :=
  let edge := identityCollisionEdge "0123456789abcdef0123456789abcdef-1" 1000
  collisionRule.finding edge "" edge.evidenceRefs

/-- The fact goes into its place in the order. -/
theorem reordered_appendFact {r : RuntimeMap} {revision : String} (hrevision : revision ≠ "")
    (hfresh : (r.nodes.any fun node => isReservedIntegrityId node.id) = false) (collectedAt : ℕ) :
    MapReordered
      { r with
        nodes := r.nodes ++ [integrityScopeNode, identityCollisionRiskNode]
        edges := r.edges ++ [identityCollisionEdge revision collectedAt] }
      (appendRuntimeIdentityCollisionFact r revision collectedAt) := by
  have hnot : ¬ (revision = "" ∨
      (r.nodes.any fun node => isReservedIntegrityId node.id) = true) := by
    rintro (hempty | hreserved)
    · exact hrevision hempty
    · rw [hfresh] at hreserved
      cases hreserved
  unfold appendRuntimeIdentityCollisionFact
  rw [if_neg hnot]
  exact ⟨(sortByKey_perm _ _).symm, (sortByKey_perm _ _).symm, rfl⟩

theorem collisionFinding_derived : IsDaemonFinding collisionFinding := by
  have hempty : redactRuntimeMap {} = {} := rfl
  have hmem := (reordered_appendFact (r := {}) (by decide :
    "0123456789abcdef0123456789abcdef-1" ≠ "") rfl 1000).mem_deriveFindings collisionFinding
  rw [← hempty] at hmem
  exact .derived (.withCollisionFact {} _ _) (hmem.2 (by decide +kernel))

theorem collision_finding_presented : (Web.presentationForFinding
    (Api.publishApiPayload lowerText (encode collisionFinding))).isSome = true := by
  have haccepted : Api.hasCoherentFindings (encode (responseOf collisionFinding)) = true := by
    decide +kernel
  have hid : collisionFinding.id = "finding_runtime_identity_collision_detected" := by
    decide +kernel
  have hplain : isPlain "finding_runtime_identity_collision_detected" = true :=
    isPlain_ofList (by decide +kernel)
  refine (finding_presented_iff lowersByTable_lowerText haccepted List.mem_cons_self
    collisionFinding_derived).2 ⟨by decide, by decide, ?_, ?_, ?_, nofun⟩
  · rw [hid]
    exact insensitive_plain lowersByTable_lowerText hplain
  · exact insensitive_plain lowersByTable_lowerText (isPlain_ofList (by decide +kernel))
  · exact insensitive_plain lowersByTable_lowerText (isPlain_ofList (by decide +kernel))

/-- A container with the daemon socket. -/
def socketEdge : RuntimeMapEdge where
  source := "docker_container_proxy"
  target := "host_risk_docker_daemon_state"
  relationship := .exposesDaemonState
  metadata := ∅
  evidenceRefs :=
    [{ version := 1
       id := "docker_evidence_daemon_state"
       provider := .docker
       kind := .dockerDaemonStateBindMount
       assertionKind := .observed
       summary := "Docker reported a bind mount exposing Docker daemon state"
       subjectRef := "docker_container_proxy"
       collectedAt := 1000
       providerRevision := "r1"
       providerSlot := none
       freshness := .fresh }]

def socketMap : RuntimeMap where
  nodes :=
    [{ id := "docker_container_proxy"
       provider := .docker
       kind := .container
       label := "proxy"
       status := none
       layer := none
       metadata := ∅
       service := none
       package := none },
     { id := "host_risk_docker_daemon_state"
       provider := .docker
       kind := .hostRisk
       label := "Docker daemon state"
       status := none
       layer := some .host
       metadata := ∅
       service := none
       package := none }]
  edges := [socketEdge]

theorem socketMap_reordered : MapReordered socketMap (redactRuntimeMap socketMap) := by
  have hcontainer : redactRuntimeDisplayText "docker_container_proxy" = _ :=
    redact_plain (isPlain_ofList (by decide +kernel))
  have hrisk : redactRuntimeDisplayText "host_risk_docker_daemon_state" = _ :=
    redact_plain (isPlain_ofList (by decide +kernel))
  have hproxy : redactRuntimeDisplayText "proxy" = _ :=
    redact_plain (isPlain_ofList (by decide +kernel))
  have hstate : redactRuntimeDisplayText "Docker daemon state" = _ :=
    redact_plain (isPlain_ofList (by decide +kernel))
  have hid : redactRuntimeDisplayText "docker_evidence_daemon_state" = _ :=
    redact_plain (isPlain_ofList (by decide +kernel))
  have hsummary : redactRuntimeDisplayText
      "Docker reported a bind mount exposing Docker daemon state" = _ :=
    redact_plain (isPlain_ofList (by decide +kernel))
  have hrevision : redactRuntimeDisplayText "r1" = _ :=
    redact_plain (isPlain_ofList (by decide +kernel))
  have hnodes : redactRuntimeNodes socketMap.nodes = socketMap.nodes := by
    simp only [socketMap, redactRuntimeNodes, redactRuntimeNode, List.map_cons, List.map_nil,
      Option.map_none, hcontainer, hrisk, hproxy, hstate]
    decide +kernel
  have hedges : redactRuntimeEdges socketMap.edges = socketMap.edges := by
    simp only [socketMap, socketEdge, redactRuntimeEdges, redactRuntimeEdge,
      redactRuntimeEvidenceRefs, redactRuntimeEvidenceRef, redactEvidenceText, List.map_cons,
      List.map_nil, hcontainer, hrisk, hid, hsummary, hrevision]
    decide +kernel
  have hends : socketMap.edges.filter (hasEndpoints socketMap.nodes) = [socketEdge] := by
    decide +kernel
  unfold redactRuntimeMap normalizeRuntimeMapTopology
  rw [hnodes, hedges]
  have hone (edge : RuntimeMapEdge) : dedup (sortByKey runtimeEdgeSortKey [edge]) = [edge] := rfl
  refine ⟨?_, ?_, rfl⟩ <;> dsimp only
  · exact (sortByKey_perm runtimeNodeSortKey socketMap.nodes).symm
  · rw [hends, hone]
    exact List.Perm.refl _

/-- The browser loses a finding the boundary accepts. -/
theorem socket_finding_lost : ∃ finding, IsDaemonFinding finding ∧
    Api.hasCoherentFindings (encode (responseOf finding)) = true ∧
    Web.presentationForFinding (Api.publishApiPayload lowerText (encode finding)) = none := by
  have hmem : daemonStateRule.about socketEdge ∈ deriveFindings socketMap := by decide +kernel
  refine ⟨daemonStateRule.about socketEdge,
    .derived (.redacted socketMap) ((socketMap_reordered.mem_deriveFindings _).2 hmem),
    by decide +kernel, ?_⟩
  rw [publish_encode_finding lowersByTable_lowerText, ← Option.not_isSome_iff_eq_none,
    presentation_isSome_iff]
  exact not_presents_of_null (by decide) rfl

end DockerMap
