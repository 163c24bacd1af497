import DockerMap.Daemon.CacheRefresh
import DockerMap.Proofs.FindingAdmission
import DockerMap.Proofs.MissingMounts
import Mathlib.Algebra.Order.BigOperators.Group.List

/-! The findings responses of the cache at the browser boundary: their summaries agree, and
the whole page is let through exactly when the evidence of each finding fits the boundary's
table. -/

namespace DockerMap

open Api (hasText startsText)
open Json (encode)
open Text (startsWith)

/-! Summaries -/

def hasSeverity (severity : FindingSeverity) (finding : Finding) : Bool :=
  finding.severity == severity

def hasCategory (category : FindingCategory) (finding : Finding) : Bool :=
  finding.ruleId.category == category

/-- No counter has lost a finding. -/
structure Counts (summary : FindingSummary) (findings : List Finding) : Prop where
  warning : summary.warningCount = findings.countP (hasSeverity .warning)
  advisory : summary.advisoryCount = findings.countP (hasSeverity .advisory)
  declared : summary.declaredDependencyCount = findings.countP (hasCategory .declaredDependency)
  authority : summary.dockerDaemonAuthorityCount =
    findings.countP (hasCategory .dockerDaemonAuthority)
  publication : summary.hostPortPublicationCount =
    findings.countP (hasCategory .hostPortPublication)
  integrity : summary.evidenceIntegrityCount = findings.countP (hasCategory .evidenceIntegrity)

section

variable {findings : List Finding} {finding : Finding} {summary : FindingSummary}

theorem countP_concat (p : Finding → Bool) :
    (findings ++ [finding]).countP p = findings.countP p + if p finding then 1 else 0 := by
  rw [List.countP_append, List.countP_singleton]

/-- A counter below the bound advances. -/
theorem saturatingSucc_countP {p : Finding → Bool} (h : findings.length < u32Max) :
    u32SaturatingSucc (findings.countP p) = findings.countP p + 1 := by
  have hle : findings.countP p ≤ findings.length := List.countP_le_length
  rw [u32SaturatingSucc, min_eq_left]
  omega

theorem Counts.add (h : Counts summary findings) (hlength : findings.length < u32Max) :
    Counts (summary.add finding) (findings ++ [finding]) := by
  constructor <;> rw [countP_concat] <;>
    cases hseverity : finding.severity <;> cases hcategory : finding.ruleId.category <;>
    simp only [FindingSummary.add, hasSeverity, hasCategory, hseverity, hcategory, h.warning,
      h.advisory, h.declared, h.authority, h.publication, h.integrity] <;>
    first
    | rfl
    | exact saturatingSucc_countP hlength

theorem counts_fromFindings (h : findings.length ≤ u32Max) :
    Counts (.fromFindings findings) findings := by
  induction findings using List.reverseRecOn with
  | nil => exact ⟨rfl, rfl, rfl, rfl, rfl, rfl⟩
  | append_singleton findings finding ih =>
    rw [List.length_append, List.length_singleton] at h
    rw [FindingSummary.fromFindings, List.foldl_append]
    exact (ih (Nat.le_of_succ_le h)).add h

end

/-- The name of the counter of a severity. -/
def severityKey : FindingSeverity → String
  | .warning => "warningCount"
  | .advisory => "advisoryCount"

def categoryKey : FindingCategory → String
  | .declaredDependency => "declaredDependencyCount"
  | .dockerDaemonAuthority => "dockerDaemonAuthorityCount"
  | .hostPortPublication => "hostPortPublicationCount"
  | .evidenceIntegrity => "evidenceIntegrityCount"

theorem severityCount_encode (finding : Finding) :
    Api.severityCount (encode finding) = some (severityKey finding.severity) := by
  rw [Api.severityCount, finding_severity, asText_str]
  cases finding.severity <;> rfl

theorem findingRule?_isSome (finding : Finding) :
    (Api.findingRule? (encode finding)).isSome = true := by
  simp only [Api.findingRule?, hasText, finding_ruleId, asText_str]
  cases finding.ruleId <;> rfl

theorem findingRule?_category (finding : Finding) (key : String) :
    ((Api.findingRule? (encode finding)).any fun row => row.category == key) =
      (categoryKey finding.ruleId.category == key) := by
  simp only [Api.findingRule?, hasText, finding_ruleId, asText_str]
  cases finding.ruleId <;> rfl

section

variable {findings : List Finding} {summary : FindingSummary}

theorem expectedCount_encode (findings : List Finding) (key : String) :
    Api.expectedCount (findings.map encode) key =
      findings.countP (fun finding => severityKey finding.severity == key) +
        findings.countP fun finding => categoryKey finding.ruleId.category == key := by
  simp only [Api.expectedCount, List.countP_map, Function.comp_def, severityCount_encode,
    findingRule?_category]
  rfl

theorem expectedCount_severity (severity : FindingSeverity) :
    Api.expectedCount (findings.map encode) (severityKey severity) =
      findings.countP (hasSeverity severity) := by
  rw [expectedCount_encode, List.countP_eq_zero (l := findings)
    (p := fun finding => categoryKey finding.ruleId.category == severityKey severity) |>.2,
    Nat.add_zero]
  · refine List.countP_congr fun finding _ => ?_
    rw [hasSeverity]
    cases finding.severity <;> cases severity <;> decide
  · intro finding _
    cases finding.ruleId.category <;> cases severity <;> decide

theorem expectedCount_category (category : FindingCategory) :
    Api.expectedCount (findings.map encode) (categoryKey category) =
      findings.countP (hasCategory category) := by
  rw [expectedCount_encode, List.countP_eq_zero (l := findings)
    (p := fun finding => severityKey finding.severity == categoryKey category) |>.2,
    Nat.zero_add]
  · refine List.countP_congr fun finding _ => ?_
    rw [hasCategory]
    cases finding.ruleId.category <;> cases category <;> decide
  · intro finding _
    cases finding.severity <;> cases category <;> decide

theorem safeInteger_countP (h : findings.length ≤ u32Max) (p : Finding → Bool) :
    Api.safeInteger (some (.num (findings.countP p))) = some (findings.countP p) := by
  have hle : findings.countP p ≤ findings.length := List.countP_le_length
  refine Api.safeInteger_num (hle.trans (h.trans ?_))
  decide

/-- The boundary's own count of the findings is the daemon's. -/
theorem coherentFindingSummary_encode (hlength : findings.length ≤ u32Max) :
    Api.coherentFindingSummary (some (encode (FindingSummary.fromFindings findings)))
      (findings.map encode) = true := by
  have hcounts := counts_fromFindings hlength
  have hsafe := safeInteger_countP hlength
  set summary := FindingSummary.fromFindings findings with hsummary
  have hfields : encode summary = .obj
      [("warningCount", .num summary.warningCount), ("advisoryCount", .num summary.advisoryCount),
        ("declaredDependencyCount", .num summary.declaredDependencyCount),
        ("dockerDaemonAuthorityCount", .num summary.dockerDaemonAuthorityCount),
        ("hostPortPublicationCount", .num summary.hostPortPublicationCount),
        ("evidenceIntegrityCount", .num summary.evidenceIntegrityCount)] := rfl
  have hshape : (findings.map encode).all (fun finding => Api.isObject finding &&
      (Api.severityCount finding).isSome && (Api.findingRule? finding).isSome) = true := by
    rw [List.all_map, List.all_eq_true]
    intro finding _
    rw [Function.comp_apply, severityCount_encode, findingRule?_isSome]
    rfl
  have hkeys : Api.findingSummaryKeys = [severityKey .warning, severityKey .advisory,
      categoryKey .declaredDependency, categoryKey .dockerDaemonAuthority,
      categoryKey .hostPortPublication, categoryKey .evidenceIntegrity] := rfl
  have hread {name : String} {n : ℕ} {p : Finding → Bool}
      (hfield : (encode summary).field? name = some (.num n)) (hn : n = findings.countP p)
      (hexpected : Api.expectedCount (findings.map encode) name = findings.countP p) :
      (Api.safeInteger ((encode summary).field? name) ==
        some (Api.expectedCount (findings.map encode) name)) = true := by
    rw [hfield, hn, hexpected, hsafe]
    exact beq_self_eq_true _
  have hcounted : (Api.findingSummaryKeys.all fun key =>
      Api.safeInteger ((encode summary).field? key) ==
        some (Api.expectedCount (findings.map encode) key)) = true := by
    rw [hkeys]
    simp only [List.all_cons, List.all_nil, Bool.and_true, Bool.and_eq_true]
    exact ⟨hread rfl hcounts.warning (expectedCount_severity .warning),
      hread rfl hcounts.advisory (expectedCount_severity .advisory),
      hread rfl hcounts.declared (expectedCount_category .declaredDependency),
      hread rfl hcounts.authority (expectedCount_category .dockerDaemonAuthority),
      hread rfl hcounts.publication (expectedCount_category .hostPortPublication),
      hread rfl hcounts.integrity (expectedCount_category .evidenceIntegrity)⟩
  rw [hfields] at hcounted ⊢
  rw [Api.coherentFindingSummary, hshape, hcounted]
  rfl

end

/-! Compose findings -/

section

variable {binding : ComposeRuntimeBinding} {missing : String × ℕ}

theorem digestAfter_hex (word text : String) :
    Api.digestAfter word (some (.str (word ++ Sha256.hex text))) = some (Sha256.hex text) :=
  digestAfter_eq_some.2 ⟨rfl, Sha256.length_hex text, hex_sha256 text⟩

theorem isV6Evidence_compose {finding : Finding} {idPrefix summary : String}
    {provider : RuntimeEvidenceProvider} {kind : RuntimeEvidenceKind}
    {assertionKind : RuntimeEvidenceAssertionKind}
    (hsubject : finding.subjectRef = composeSubjectRef missing.1)
    (hdash : '-' ∈ binding.providerRevision.toList) :
    Api.isV6Evidence (encode finding)
        (encode (composeEvidence binding idPrefix provider kind assertionKind summary missing))
        provider.wireName kind.wireName assertionKind.wireName summary idPrefix
        (Sha256.hex (evidenceSeed missing)) = true ↔
      binding.collectedAt ≤ Api.maxSafeInteger := by
  set evidence := composeEvidence binding idPrefix provider kind assertionKind summary missing
  have hfresh : IsFreshFact evidence 6 provider.wireName kind.wireName assertionKind.wireName
      finding.subjectRef := by
    have hversion : 6 < Binary64.exactBound := by decide
    refine ⟨Binary64.ofNat_of_lt hversion, rfl, rfl, rfl, hsubject.symm, rfl, rfl, ?_⟩
    exact @opaque_of_dash evidence hdash
  have hrevision : evidence.providerRevision ≠ "" := by
    intro hempty
    have hnil : binding.providerRevision = "" := hempty
    rw [hnil] at hdash
    cases hdash
  have hid : hasText (encode evidence) "id"
      (idPrefix ++ "_" ++ Sha256.hex (evidenceSeed missing)) = true := by
    rw [hasText, evidence_id, asText_str]
    exact beq_self_eq_true _
  have hsummary : hasText (encode evidence) "summary" summary = true := by
    rw [hasText, evidence_summary, asText_str]
    exact beq_self_eq_true _
  have hcollected : evidence.collectedAt = binding.collectedAt := rfl
  rw [Api.isV6Evidence, finding_subjectRef, isFreshFact_iff.2 hfresh, hsummary, hid,
    nonEmptyRevision_encode hrevision, evidence_collectedAt, safeInteger_isSome, hcollected]
  simp only [Bool.true_and, Bool.and_true, decide_eq_true_eq]

theorem missingMount_accepted_iff (hdash : '-' ∈ binding.providerRevision.toList) :
    Api.isComposeDeclaredMountMissingFinding (encode (missingMountFinding binding missing)) =
        true ↔ binding.collectedAt ≤ Api.maxSafeInteger := by
  set finding := missingMountFinding binding missing
  have hmatches : Api.composeDeclaredMountMissingText.matches (encode finding) = true :=
    matches_encode rfl rfl rfl
  have hdigest : Api.composeMountFindingDigest ((encode finding).field? "id") =
      some (Sha256.hex (evidenceSeed missing)) := digestAfter_hex _ _
  have hopaque : Api.isOpaqueComposeRuntimeBindingId (some (.str finding.subjectRef)) = true := by
    rw [Api.isOpaqueComposeRuntimeBindingId]
    exact Option.isSome_of_eq_some (digestAfter_hex _ _)
  have hsame : Api.differingRefs (encode finding) = false := by
    rw [Api.differingRefs, finding_subjectRef, finding_targetRef, JavaScript.strictEqual_str]
    exact congrArg not (beq_self_eq_true _)
  have hsubject : finding.subjectRef = composeSubjectRef missing.1 := rfl
  set declared := composeEvidence binding "compose_declared_mount" .compose .composeDeclaredMount
    .declared "Compose declared a mount for the bound service" missing with hdeclared
  set observed := composeEvidence binding "docker_compose_runtime_binding" .docker
    .dockerComposeRuntimeBinding .observed
    "Docker confirmed an exact Compose project, service, and config binding" missing with hobserved
  have hrefs : finding.evidenceRefs = [declared, observed] := rfl
  have hdeclaredFits : Api.isV6Evidence (encode finding) (encode declared) "compose"
      "compose_declared_mount" "declared" Api.composeDeclaredMountEvidenceSummary
      "compose_declared_mount" (Sha256.hex (evidenceSeed missing)) = true ↔
        binding.collectedAt ≤ Api.maxSafeInteger := isV6Evidence_compose hsubject hdash
  have hobservedFits : Api.isV6Evidence (encode finding) (encode observed) "docker"
      "docker_compose_runtime_binding" "observed" Api.dockerComposeRuntimeBindingEvidenceSummary
      "docker_compose_runtime_binding" (Sha256.hex (evidenceSeed missing)) = true ↔
        binding.collectedAt ≤ Api.maxSafeInteger := isV6Evidence_compose hsubject hdash
  have hone : Api.fromOneCollection (encode declared) (encode observed) = true :=
    fromOneCollection_iff.2 ⟨rfl, rfl⟩
  rw [Api.isComposeDeclaredMountMissingFinding, hmatches, hdigest, Option.any_some,
    finding_subjectRef, hopaque, hsame, withPair_encode hrefs, hone]
  simp only [Bool.true_and, Bool.and_true, Bool.not_false, Bool.and_eq_true, hdeclaredFits,
    hobservedFits, and_self]

end

/-! When the page is let through -/

/-- What the boundary asks of the evidence of one edge beyond what the rule has checked. -/
def edgeAsks : FindingRule → RuntimeEvidenceRef → Prop
  | .dockerPortPublishedOnUnspecifiedAddress, evidence =>
      HasOpaqueRevision evidence ∧ HasSafeTime evidence
  | .dockerDaemonStateBindMount, evidence => HasOpaqueRevision evidence
  | .dockerComposeDeclaredTargetNotActive, evidence => HasOpaqueRevision evidence
  | .runtimeIdentityCollisionDetected, evidence =>
      HasSafeTime evidence ∧ Api.isIntegrityRevision evidence.providerRevision = true
  | _, _ => True

/-- What it asks of the evidence of two edges of one observation. -/
def pairAsks (edge : RuntimeMapEdge) (other : RuntimeEvidenceRef) :
    FindingRule → RuntimeEvidenceRef → Prop
  | .dockerDaemonStateBindMountPublishesPort, evidence =>
      HasOpaqueRevision evidence ∧ other.summary = Api.portPublicationEvidenceSummary
  | .dockerComposeMutualDependency, evidence =>
      HasOpaqueRevision evidence ∧ JavaScript.textLess edge.source edge.target = true
  | _, _ => True

section

variable (nodes : List RuntimeMapNode) (edges : List RuntimeMapEdge)

/-- The evidence behind the findings of a map fits the boundary's table. -/
structure EvidenceFits : Prop where
  edge : ∀ rule ∈ edgeRules nodes edges, ∀ edge ∈ edges, rule.2 edge = true →
    ∀ evidence ∈ edge.evidenceRefs, edgeAsks rule.1.ruleId evidence
  collision : integrityEdgeCount edges = 1 → ∀ edge ∈ edges,
    isCandidateRuntimeIdentityCollision nodes edge = true →
      ∀ evidence ∈ edge.evidenceRefs, edgeAsks .runtimeIdentityCollisionDetected evidence
  joint : ∀ rule ∈ jointRules nodes edges, ∀ edge ∈ edges, rule.holds edge = true →
    ∀ partner ∈ edges, rule.partner edge partner = true →
      ∀ evidence ∈ edge.evidenceRefs, ∀ other ∈ partner.evidenceRefs,
        sameObservation evidence other = true → pairAsks edge other rule.text.ruleId evidence
  internalNetworkPort : ∀ edge ∈ edges, isSoleMembership nodes edges edge = true →
    ∀ port ∈ edges, port.source = edge.source → isSolePort nodes edges port = true →
      ∀ evidence ∈ edge.evidenceRefs ++ port.evidenceRefs, HasOpaqueRevision evidence

end

section

variable {nodes : List RuntimeMapNode} {edges : List RuntimeMapEdge} {edge : RuntimeMapEdge}

theorem forall_true_iff_of {p : Prop} {α : Type*} {l : List α} (h : p) :
    p ↔ ∀ a ∈ l, True := ⟨fun _ _ _ => trivial, fun _ => h⟩

theorem edgeRule_accepted_iff {rule : RuleText × (RuntimeMapEdge → Bool)}
    (hrule : rule ∈ edgeRules nodes edges) (hholds : rule.2 edge = true) :
    checkOf rule.1.ruleId (encode (rule.1.about edge)) = true ↔
      ∀ evidence ∈ edge.evidenceRefs, edgeAsks rule.1.ruleId evidence := by
  simp only [edgeRules, List.mem_cons, List.not_mem_nil, or_false] at hrule
  rcases hrule with rfl | rfl | rfl | rfl | rfl | rfl <;>
    simp only [Bool.and_eq_true] at hholds
  · exact forall_true_iff_of (nonCurrent_accepted hholds.2.1)
  · exact unspecified_accepted_iff hholds.2
  · exact forall_true_iff_of (requires_accepted hholds.2.1)
  · exact forall_true_iff_of (partOf_accepted hholds.2.1)
  · exact targetNotActive_accepted_iff hholds.1.2
  · exact daemonState_accepted_iff hholds.2

theorem joint_accepted_iff {rule : JointRule} {partner : RuntimeMapEdge}
    {evidence other : RuntimeEvidenceRef} (hrule : rule ∈ jointRules nodes edges)
    (hholds : rule.holds edge = true) (hpartner : rule.partner edge partner = true)
    (hrefs : edge.evidenceRefs = [evidence]) (hother : partner.evidenceRefs = [other])
    (hsame : sameObservation evidence other = true) :
    checkOf rule.text.ruleId (encode (rule.text.finding edge
        (pairIdentity edge.source edge.target) [evidence, other])) = true ↔
      pairAsks edge other rule.text.ruleId evidence := by
  simp only [jointRules, List.mem_cons, List.not_mem_nil, or_false] at hrule
  rcases hrule with rfl | rfl
  · simp only [daemonStatePortJoin, Bool.and_eq_true, beq_iff_eq] at hholds hpartner
    exact daemonStatePort_accepted_iff hholds.2 hpartner.2 hpartner.1 hrefs hother hsame
  · simp only [mutualDependencyJoin, Bool.and_eq_true, beq_iff_eq] at hholds hpartner
    exact mutualDependency_accepted_iff hholds.1.2 hpartner.2 hpartner.1.1 hrefs hother hsame

/-- Both edges of a joint finding have their only evidence. -/
theorem refs_of_joint {rule : JointRule} {partner : RuntimeMapEdge}
    (hrule : rule ∈ jointRules nodes edges) (hholds : rule.holds edge = true)
    (hpartner : rule.partner edge partner = true) :
    (∃ evidence, edge.evidenceRefs = [evidence]) ∧ ∃ other, partner.evidenceRefs = [other] := by
  simp only [jointRules, List.mem_cons, List.not_mem_nil, or_false] at hrule
  rcases hrule with rfl | rfl
  · simp only [daemonStatePortJoin, isCandidateDockerDaemonStateBindMount,
      isCandidateDockerDaemonStatePortPublication, Bool.and_eq_true] at hholds hpartner
    obtain ⟨evidence, hfact⟩ := isDockerFact_of_fresh hholds.2.1.2
    obtain ⟨other, hport⟩ := isDockerFact_of_fresh hpartner.2.2
    exact ⟨⟨evidence, hfact.refs⟩, other, hport.refs⟩
  · simp only [mutualDependencyJoin, Bool.and_eq_true] at hholds hpartner
    obtain ⟨-, -, -, evidence, hfact, -⟩ := dockerFact_of_composeDependency hholds.1.2
    obtain ⟨-, -, -, other, hreverse, -⟩ := dockerFact_of_composeDependency hpartner.2
    exact ⟨⟨evidence, hfact.refs⟩, other, hreverse.refs⟩

theorem sole_accepted_iff {port : RuntimeMapEdge} (hmember : isSoleMembership nodes edges edge = true)
    (hsource : port.source = edge.source) (hsole : isSolePort nodes edges port = true) :
    checkOf .dockerInternalNetworkMemberPublishesPort
        (encode (internalNetworkPortFinding edge port)) = true ↔
      ∀ evidence ∈ edge.evidenceRefs ++ port.evidenceRefs, HasOpaqueRevision evidence := by
  rw [isSoleMembership, Bool.and_eq_true] at hmember
  rw [isSolePort, Bool.and_eq_true] at hsole
  exact internalNetworkPort_accepted_iff hmember.2 hsole.2 hsource

theorem fits_of_accepted (h : ∀ text finding, Finds nodes edges text finding →
    checkOf finding.ruleId (encode finding) = true) : EvidenceFits nodes edges where
  edge rule hrule edge hedge hholds := by
    have hcheck := h rule.1 (rule.1.about edge) (.edge hrule hedge hholds)
    exact (edgeRule_accepted_iff hrule hholds).1 hcheck
  collision hcount edge hedge hcandidate := by
    have hcheck := h collisionRule (collisionRule.finding edge "" (edge.evidenceRefs.take 1))
      (.collision hedge hcount hcandidate)
    exact (collision_accepted_iff hcandidate).1 hcheck
  joint rule hrule edge hedge hholds partner hmem hpartner evidence hevidence other hother
      hsame := by
    obtain ⟨⟨known, hknown⟩, knownOther, hknownOther⟩ := refs_of_joint hrule hholds hpartner
    rw [hknown, List.mem_singleton] at hevidence
    rw [hknownOther, List.mem_singleton] at hother
    subst hevidence hother
    have hfinding : jointFinding rule.text edge partner = some (rule.text.finding edge
        (pairIdentity edge.source edge.target) [evidence, other]) :=
      jointFinding_eq_some.2 ⟨evidence, other, congrArg List.head? hknown,
        congrArg List.head? hknownOther, hsame, rfl⟩
    have hcheck := h rule.text _ (.joint hrule hedge hholds hmem hpartner hfinding)
    exact (joint_accepted_iff hrule hholds hpartner hknown hknownOther hsame).1 hcheck
  internalNetworkPort edge hedge hmember port hport hsource hsole := by
    have hcheck := h internalNetworkPortRule (internalNetworkPortFinding edge port)
      (.internalNetworkPort hedge hmember hport hsource hsole)
    exact (sole_accepted_iff hmember hsource hsole).1 hcheck

theorem EvidenceFits.accepted (h : EvidenceFits nodes edges) {text : RuleText} {finding : Finding}
    (hfinds : Finds nodes edges text finding) :
    checkOf finding.ruleId (encode finding) = true := by
  cases hfinds with
  | edge hrule hedge hholds =>
    exact (edgeRule_accepted_iff hrule hholds).2 (h.edge _ hrule _ hedge hholds)
  | collision hedge hcount hcandidate =>
    exact (collision_accepted_iff hcandidate).2 (h.collision hcount _ hedge hcandidate)
  | @joint rule edge partner _ hrule hedge hholds hmem hpartner hfinding =>
    obtain ⟨evidence, other, hhead, hotherHead, hsame, rfl⟩ := jointFinding_eq_some.1 hfinding
    obtain ⟨⟨known, hknown⟩, knownOther, hknownOther⟩ := refs_of_joint hrule hholds hpartner
    rw [hknown, List.head?_cons, Option.some.injEq] at hhead
    rw [hknownOther, List.head?_cons, Option.some.injEq] at hotherHead
    subst hhead hotherHead
    refine (joint_accepted_iff hrule hholds hpartner hknown hknownOther hsame).2
      (h.joint rule hrule edge hedge hholds partner hmem hpartner known ?_ knownOther ?_ hsame)
    · rw [hknown]
      exact List.mem_singleton_self known
    · rw [hknownOther]
      exact List.mem_singleton_self knownOther
  | internalNetworkPort hedge hmember hport hsource hsole =>
    exact (sole_accepted_iff hmember hsource hsole).2
      (h.internalNetworkPort _ hedge hmember _ hport hsource hsole)

end

/-- A declared mount that its bound container lacks. -/
def DeclaresMissingMount (scan : ComposeScan) (binding : ComposeRuntimeBinding) : Prop :=
  ∃ mount ∈ scan.mounts, (mount.kind = .bind ∨ mount.kind = .namedVolume) ∧
    ∃ container, boundContainer binding mount.service = some container ∧
      container.mounts.any (mountsMatch mount) = false

theorem missingMounts_ne_nil {scan : ComposeScan} {binding : ComposeRuntimeBinding} :
    missingMounts binding scan ≠ [] ↔ DeclaresMissingMount scan binding := by
  constructor
  · intro hne
    obtain ⟨missing, hmem⟩ := List.exists_mem_of_ne_nil _ hne
    obtain ⟨mount, hmount, hkind, container, hbound, -, hmatches⟩ := mem_missingMounts.1 hmem
    refine ⟨mount, List.mem_of_getElem? hmount, hkind, container,
      boundContainer_eq_some.2 hbound, ?_⟩
    simpa only [List.any_eq_false, Bool.not_eq_true] using hmatches
  · rintro ⟨mount, hmem, hkind, container, hbound, hany⟩
    obtain ⟨ordinal, hmount⟩ := List.getElem?_of_mem hmem
    refine List.ne_nil_of_mem (a := (container.containerId, ordinal))
      (mem_missingMounts.2 ⟨mount, hmount, hkind, container, boundContainer_eq_some.1 hbound,
        rfl, ?_⟩)
    simpa only [List.any_eq_false, Bool.not_eq_true] using hany

/-- The condition under which the page is let through. -/
structure FitsBoundary (cache : DaemonCache) : Prop where
  evidence : cache.runtimeMap.source ≠ some .mock →
    EvidenceFits cache.runtimeMap.nodes cache.runtimeMap.edges
  compose : cache.mode = .docker → ∀ scan binding,
    cache.composeRuntimeBinding = some (scan, binding) →
      isUsableBinding scan { binding with providerRevision := cache.dockerObservationToken } = true →
        DeclaresMissingMount scan binding → binding.collectedAt ≤ Api.maxSafeInteger

section

variable {runtimeMap : RuntimeMap}

def isCollisionFinding (finding : Finding) : Bool :=
  finding.ruleId == .runtimeIdentityCollisionDetected

theorem length_ruleFindings {nodes : List RuntimeMapNode} {edges : List RuntimeMapEdge}
    {p : RuleText × List Finding} (hp : p ∈ ruleFindings nodes edges) :
    p.2.length ≤ edges.length * (edges.length + 1) := by
  have hfilter {q : RuntimeMapEdge → Bool} : (edges.filter q).length ≤ edges.length :=
    List.length_filter_le _ _
  have hone {n : ℕ} (h : n ≤ edges.length) : n ≤ edges.length * (edges.length + 1) :=
    h.trans (Nat.le_mul_of_pos_right _ (Nat.succ_pos _))
  cases isRule_of_mem hp with
  | edge =>
    rw [List.length_map]
    exact hone hfilter
  | collision =>
    rw [collisionFindings, List.length_map]
    exact hone hfilter
  | joint =>
    rw [JointRule.findings]
    exact hone (List.length_filterMap_le _ _)
  | internalNetworkPort =>
    have hports : ∀ n ∈ (edges.filter fun edge =>
        pairCount edges (isDockerMembershipShape nodes) edge.source edge.target == 1 &&
          isCandidateInternalNetworkMembership nodes edge).map fun edge =>
        ((edges.filter fun port => port.source == edge.source &&
          pairCount edges (isDockerPortPublicationPairShape nodes) port.source port.target == 1 &&
          isCandidatePortPublication nodes port).map (internalNetworkPortFinding edge)).length,
        n ≤ edges.length := by
      intro n hn
      obtain ⟨edge, -, rfl⟩ := List.mem_map.1 hn
      rw [List.length_map]
      exact hfilter
    rw [internalNetworkPortFindings, List.length_flatMap]
    refine (List.sum_le_card_nsmul _ _ hports).trans ?_
    rw [List.length_map]
    exact Nat.mul_le_mul hfilter (Nat.le_succ _)

/-- The count of findings is bounded by the edges of the map. -/
theorem length_deriveFindings (runtimeMap : RuntimeMap) : (deriveFindings runtimeMap).length ≤
    10 * (runtimeMap.edges.length * (runtimeMap.edges.length + 1)) := by
  by_cases hmock : runtimeMap.source = some .mock
  · rw [deriveFindings, if_pos hmock]
    exact Nat.zero_le _
  · have hrules : ∀ n ∈ (ruleFindings runtimeMap.nodes runtimeMap.edges).map fun p => p.2.length,
        n ≤ runtimeMap.edges.length * (runtimeMap.edges.length + 1) := by
      intro n hn
      obtain ⟨p, hp, rfl⟩ := List.mem_map.1 hn
      exact length_ruleFindings hp
    rw [deriveFindings_eq hmock, List.length_insertionSort, List.length_flatMap]
    exact List.sum_le_card_nsmul _ _ hrules

theorem countP_ruleFindings {nodes : List RuntimeMapNode} {edges : List RuntimeMapEdge}
    {p : RuleText × List Finding} (hp : p ∈ ruleFindings nodes edges) :
    p.2.countP isCollisionFinding ≤
      if p.1.ruleId = .runtimeIdentityCollisionDetected then 1 else 0 := by
  split_ifs with hrule
  · have hfindings : p.2 = collisionFindings nodes edges := by
      simp only [ruleFindings, List.mem_cons, List.not_mem_nil, or_false] at hp
      rcases hp with rfl | rfl | rfl | rfl | rfl | rfl | rfl | rfl | rfl | rfl <;>
        cases hrule
      rfl
    rw [hfindings]
    exact List.countP_le_length.trans length_collisionFindings
  · refine (List.countP_eq_zero.2 fun finding hmem hcollision => hrule ?_).le
    rw [← ((isRule_of_mem hp).finds hmem).ruleId]
    exact beq_iff_eq.1 hcollision

theorem countP_collision_deriveFindings (runtimeMap : RuntimeMap) :
    (deriveFindings runtimeMap).countP isCollisionFinding ≤ 1 := by
  by_cases hmock : runtimeMap.source = some .mock
  · rw [deriveFindings, if_pos hmock]
    exact Nat.zero_le 1
  · rw [deriveFindings_eq hmock, (List.perm_insertionSort _ _).countP_eq, List.countP_flatMap]
    exact List.sum_le_sum fun p hp => countP_ruleFindings hp

end

theorem hasCoherentFindings_encode {response : FindingsResponse} (hsource : response.source = none)
    (hsummary : response.summary = .fromFindings response.findings)
    (hlength : response.findings.length ≤ u32Max)
    (hcollision : response.findings.countP isCollisionFinding ≤ 1) :
    Api.hasCoherentFindings (encode response) = true ↔
      ∀ finding ∈ response.findings, checkOf finding.ruleId (encode finding) = true := by
  have hobject : Api.isObject (encode response) = true := rfl
  have hfindings : (encode response).field? "findings" =
      some (.arr (response.findings.map encode)) := rfl
  have hsummaryField : (encode response).field? "summary" = some (encode response.summary) := rfl
  have hsourceField : Api.coherentSource ((encode response).field? "source") = true := by
    obtain ⟨findings, summary, modelRevision, source⟩ := response
    subst hsource
    rfl
  have hone : (response.findings.map encode).countP (fun finding => Api.isObject finding &&
      hasText finding "ruleId" Api.runtimeIdentityCollisionText.rule) ≤ 1 := by
    refine le_trans (le_of_eq ?_) hcollision
    rw [List.countP_map]
    refine List.countP_congr fun finding _ => ?_
    have hrecord : Api.isObject (encode finding) = true := rfl
    rw [Function.comp_apply, hrecord, hasText, finding_ruleId, asText_str, isCollisionFinding]
    cases finding.ruleId <;> decide
  have hcounted := coherentFindingSummary_encode hlength
  rw [← hsummary] at hcounted
  rw [Api.hasCoherentFindings, hobject, hsourceField, hfindings, hsummaryField, Api.withItems,
    hcounted, decide_eq_true hone]
  simp only [Bool.true_and, List.all_map, List.all_eq_true, Function.comp_apply,
    Api.isCoherentFinding, findingRule?_any, Bool.and_eq_true]
  exact forall₂_congr fun finding _ => and_iff_right rfl

section

variable (cache : DaemonCache)

/-- The map the findings of a publication come from. -/
def revisedMap : RuntimeMap :=
  { cache.runtimeMap with modelRevision := cache.assignRevision.findings.modelRevision }

theorem findings_assignRevision : cache.assignRevision.findings.findings =
    sortByKey Finding.id (deriveFindings (revisedMap cache) ++ cache.composeFindings) := rfl

theorem mem_findings_assignRevision {finding : Finding} :
    finding ∈ cache.assignRevision.findings.findings ↔
      finding ∈ deriveFindings (revisedMap cache) ∨ finding ∈ cache.composeFindings := by
  rw [findings_assignRevision, mem_sortByKey, List.mem_append]

/-- A Compose finding comes from the binding under the token of the Docker observation. -/
theorem mem_composeFindings {finding : Finding} : finding ∈ cache.composeFindings ↔
    cache.mode = .docker ∧ ∃ scan binding, cache.composeRuntimeBinding = some (scan, binding) ∧
      finding ∈ deriveComposeRuntimeMountFindings scan
        { binding with providerRevision := cache.dockerObservationToken } := by
  unfold DaemonCache.composeFindings
  split_ifs with hmode
  · rcases cache.composeRuntimeBinding with _ | ⟨scan, binding⟩
    · simp
    · simp [hmode]
  · simp [hmode]

theorem dash_mem_dockerObservationToken : '-' ∈ cache.dockerObservationToken.toList := by
  rw [DaemonCache.dockerObservationToken, ChangeToken.current, ChangeToken.text,
    String.toList_append, String.toList_append, List.mem_append, List.mem_append]
  exact Or.inl (Or.inr (List.mem_singleton_self '-'))

theorem countP_collision_assignRevision :
    cache.assignRevision.findings.findings.countP isCollisionFinding ≤ 1 := by
  have hcompose : cache.composeFindings.countP isCollisionFinding = 0 := by
    refine List.countP_eq_zero.2 fun finding hmem hcollision => ?_
    obtain ⟨-, scan, binding, -, hfinding⟩ := (mem_composeFindings cache).1 hmem
    have hrule := ruleId_of_compose hfinding
    rw [isCollisionFinding, hrule] at hcollision
    cases hcollision
  rw [findings_assignRevision, (sortByKey_perm Finding.id _).countP_eq, List.countP_append, hcompose]
  exact countP_collision_deriveFindings (revisedMap cache)

theorem derived_accepted_iff : (∀ finding ∈ deriveFindings (revisedMap cache),
      checkOf finding.ruleId (encode finding) = true) ↔
    (cache.runtimeMap.source ≠ some .mock →
      EvidenceFits cache.runtimeMap.nodes cache.runtimeMap.edges) := by
  by_cases hmock : cache.runtimeMap.source = some .mock
  · have hnone : deriveFindings (revisedMap cache) = [] := if_pos hmock
    simp [hnone, hmock]
  · have hmem {finding : Finding} : finding ∈ deriveFindings (revisedMap cache) ↔
        ∃ text, Finds cache.runtimeMap.nodes cache.runtimeMap.edges text finding :=
      @mem_deriveFindings (revisedMap cache) hmock finding
    constructor
    · intro haccepted _
      exact fits_of_accepted fun text finding hfinds => haccepted finding (hmem.2 ⟨text, hfinds⟩)
    · intro hfits finding hfinding
      obtain ⟨text, hfinds⟩ := hmem.1 hfinding
      exact (hfits hmock).accepted hfinds

theorem compose_accepted_iff : (∀ finding ∈ cache.composeFindings,
      checkOf finding.ruleId (encode finding) = true) ↔
    (cache.mode = .docker → ∀ scan binding, cache.composeRuntimeBinding = some (scan, binding) →
      isUsableBinding scan { binding with providerRevision := cache.dockerObservationToken } =
        true → DeclaresMissingMount scan binding → binding.collectedAt ≤ Api.maxSafeInteger) := by
  have hdash := dash_mem_dockerObservationToken cache
  have hcheck (binding : ComposeRuntimeBinding) (missing : String × ℕ) :
      checkOf (missingMountFinding binding missing).ruleId
          (encode (missingMountFinding binding missing)) =
        Api.isComposeDeclaredMountMissingFinding (encode (missingMountFinding binding missing)) := rfl
  constructor
  · intro haccepted hmode scan binding hbinding husable hmissing
    set attested := { binding with providerRevision := cache.dockerObservationToken }
      with hattested
    obtain ⟨missing, hmem⟩ := List.exists_mem_of_ne_nil _ (missingMounts_ne_nil.2 hmissing)
    have hfinding : missingMountFinding attested missing ∈ cache.composeFindings :=
      (mem_composeFindings cache).2 ⟨hmode, scan, binding, hbinding,
        mem_composeRuntimeMountFindings.2 ⟨husable, missing, hmem, rfl⟩⟩
    have haccept := haccepted (missingMountFinding attested missing) hfinding
    rw [hcheck] at haccept
    exact (@missingMount_accepted_iff attested missing hdash).1 haccept
  · intro hfits finding hfinding
    obtain ⟨hmode, scan, binding, hbinding, hfinding⟩ := (mem_composeFindings cache).1 hfinding
    set attested := { binding with providerRevision := cache.dockerObservationToken }
      with hattested
    obtain ⟨husable, missing, hmem, rfl⟩ := mem_composeRuntimeMountFindings.1 hfinding
    have hmissing : DeclaresMissingMount scan binding :=
      missingMounts_ne_nil.1 (List.ne_nil_of_mem hmem)
    rw [hcheck]
    exact (@missingMount_accepted_iff attested missing hdash).2
      (hfits hmode scan binding hbinding husable hmissing)

/-- The whole page is let through exactly when its evidence fits. -/
theorem hasCoherentFindings_iff (hcount : cache.assignRevision.findings.findings.length < 2 ^ 32) :
    Api.hasCoherentFindings (encode cache.assignRevision.findings) = true ↔
      FitsBoundary cache := by
  rw [hasCoherentFindings_encode rfl rfl (Nat.le_of_lt_succ hcount)
    (countP_collision_assignRevision cache)]
  have hsplit : (∀ finding ∈ cache.assignRevision.findings.findings,
        checkOf finding.ruleId (encode finding) = true) ↔
      (∀ finding ∈ deriveFindings (revisedMap cache),
        checkOf finding.ruleId (encode finding) = true) ∧
      ∀ finding ∈ cache.composeFindings, checkOf finding.ruleId (encode finding) = true := by
    simp only [mem_findings_assignRevision, or_imp, forall_and]
  rw [hsplit, derived_accepted_iff, compose_accepted_iff]
  exact ⟨fun h => ⟨h.1, h.2⟩, fun h => ⟨h.evidence, h.compose⟩⟩

end

end DockerMap
