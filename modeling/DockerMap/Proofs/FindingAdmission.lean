import DockerMap.Proofs.PresentedFindings

/-! When the browser boundary accepts the findings of the daemon: what it asks of the evidence
beyond what the rules have already made sure of. -/

namespace DockerMap

open Api (hasText startsText)
open Json (encode)
open Text (startsWith)
open RuntimeMapEdge (links_iff)

/-! The evidence of an edge -/

/-- JavaScript does not read the revision as the collection time. -/
def HasOpaqueRevision (evidence : RuntimeEvidenceRef) : Prop :=
  evidence.providerRevision ≠ collectionText evidence

/-- A collection time that JavaScript reads exactly. -/
def HasSafeTime (evidence : RuntimeEvidenceRef) : Prop := evidence.collectedAt ≤ Api.maxSafeInteger

instance (evidence : RuntimeEvidenceRef) : Decidable (HasOpaqueRevision evidence) :=
  inferInstanceAs (Decidable (_ ≠ _))

instance (evidence : RuntimeEvidenceRef) : Decidable (HasSafeTime evidence) :=
  inferInstanceAs (Decidable (_ ≤ _))

section

variable {nodes : List RuntimeMapNode} {edges : List RuntimeMapEdge} {edge : RuntimeMapEdge}
  {evidence : RuntimeEvidenceRef}

theorem soleEvidence_eq_some : soleEvidence edge = some evidence ↔
    edge.evidenceRefs = [evidence] ∧ edge.evidenceRefMatchesEdge evidence = true := by
  unfold soleEvidence RuntimeMapEdge.hasValidEvidenceRefs
  rcases hrefs : edge.evidenceRefs with _ | ⟨first, _ | ⟨second, rest⟩⟩
  · simp
  · by_cases hvalid : edge.evidenceRefMatchesEdge first = true
    · simp only [List.all_cons, List.all_nil, hvalid, Bool.and_self, if_true, Option.some.injEq,
        List.cons.injEq, and_true]
      exact ⟨fun heq => ⟨heq, heq ▸ hvalid⟩, fun h => h.1⟩
    · simp only [List.all_cons, List.all_nil, hvalid, Bool.and_true, if_false, reduceCtorEq,
        List.cons.injEq, and_true, false_iff, not_and, Bool.not_eq_true]
      exact fun heq => heq ▸ Bool.eq_false_iff.2 hvalid
  · simp

theorem attested_of_matches (h : edge.evidenceRefMatchesEdge evidence = true) :
    edge.attestedBy evidence.kind = true ∧ evidence.subjectRef = edge.source ∧
      evidence.providerRevision ≠ "" := by
  simp only [RuntimeMapEdge.evidenceRefMatchesEdge, RuntimeMapEdge.isBoundedText, Bool.and_eq_true,
    decide_eq_true_eq, beq_iff_eq] at h
  exact ⟨h.2, h.1.1.2, h.1.1.1.2.1⟩

/-- The only evidence of a Docker fact is a fresh fact but for its revision. -/
structure IsDockerFact (edge : RuntimeMapEdge) (kind : RuntimeEvidenceKind)
    (evidence : RuntimeEvidenceRef) : Prop where
  refs : edge.evidenceRefs = [evidence]
  kindEq : evidence.kind = kind
  attested : edge.attestedBy kind = true
  revision : evidence.providerRevision ≠ ""
  fresh : HasOpaqueRevision evidence →
    IsFreshFact evidence 1 "docker" kind.wireName "observed" edge.source

theorem isDockerFact_of_fresh {kind : RuntimeEvidenceKind}
    (h : isFreshDockerEvidence edge kind = true) : ∃ evidence, IsDockerFact edge kind evidence := by
  rw [isFreshDockerEvidence, Option.any_eq_true] at h
  obtain ⟨evidence, hsole, hfields⟩ := h
  obtain ⟨hrefs, hmatches⟩ := soleEvidence_eq_some.1 hsole
  obtain ⟨hattested, hsubject, hrevision⟩ := attested_of_matches hmatches
  simp only [Bool.and_eq_true, beq_iff_eq] at hfields
  obtain ⟨⟨⟨⟨⟨⟨hversion, hprovider⟩, hkind⟩, hassertion⟩, hfresh⟩, -⟩, hslot⟩ := hfields
  refine ⟨evidence, hrefs, hkind, hkind ▸ hattested, hrevision, fun hopaque => ⟨?_, ?_, ?_, ?_,
    hsubject, hslot, ?_, hopaque⟩⟩
  · rw [hversion]
    rfl
  · rw [hprovider]
    rfl
  · rw [hkind]
  · rw [hassertion]
    rfl
  · rw [hfresh]
    rfl

theorem IsDockerFact.isFreshFact_iff {kind : RuntimeEvidenceKind}
    (h : IsDockerFact edge kind evidence) :
    Api.isFreshFact (encode evidence) 1 "docker" kind.wireName "observed"
      (some (.str edge.source)) = true ↔ HasOpaqueRevision evidence :=
  DockerMap.isFreshFact_iff.trans ⟨fun hfact => hfact.revision, h.fresh⟩

/-- The only evidence of a systemd declaration. -/
structure IsDeclaredBy (edge : RuntimeMapEdge) (kinds freshness : List String)
    (evidence : RuntimeEvidenceRef) : Prop where
  refs : edge.evidenceRefs = [evidence]
  attested : edge.attestedBy evidence.kind = true
  declared : Api.isSystemdDeclaration (encode evidence) kinds freshness
    (some (.str edge.source)) = true

theorem isSystemdDeclaration_encode {kinds freshness : List String}
    (h : isSystemdDeclaration edge evidence = true) (hkind : evidence.kind.wireName ∈ kinds)
    (hfresh : evidence.freshness.wireName ∈ freshness) :
    Api.isSystemdDeclaration (encode evidence) kinds freshness (some (.str edge.source)) = true := by
  simp only [isSystemdDeclaration, Bool.and_eq_true, beq_iff_eq] at h
  obtain ⟨⟨⟨⟨hversion, hprovider⟩, hassertion⟩, hsubject⟩, hslot⟩ := h
  have hobject : Api.isObject (encode evidence) = true := rfl
  simp only [Api.isSystemdDeclaration, Api.isEvidence, hobject,
    (any_hasText (evidence_kind evidence)).2 hkind,
    (any_hasText (evidence_freshness evidence)).2 hfresh]
  simp only [hasText, evidence_version, evidence_provider, evidence_assertionKind,
    evidence_subjectRef, evidence_providerSlot, hversion, hprovider, hassertion, hsubject, hslot,
    JavaScript.asNumber_num, JavaScript.strictEqual_str, asText_str, Option.map_some,
    beq_self_eq_true]
  decide

theorem isDeclaredBy_of_candidate {relationship : RuntimeRelationshipKind}
    {kind : RuntimeEvidenceKind} (h : isCandidateDeclaration relationship kind edge = true) :
    edge.source ≠ edge.target ∧
      ∃ evidence, evidence.kind = kind ∧ IsDeclaredBy edge [kind.wireName] ["fresh"] evidence := by
  simp only [isCandidateDeclaration, Bool.and_eq_true, bne_iff_ne, ne_eq, beq_iff_eq,
    Option.any_eq_true] at h
  obtain ⟨⟨-, hne⟩, evidence, hsole, ⟨hdeclared, hkind⟩, hfresh⟩ := h
  obtain ⟨hrefs, hmatches⟩ := soleEvidence_eq_some.1 hsole
  refine ⟨hne, evidence, hkind, hrefs, (attested_of_matches hmatches).1,
    isSystemdDeclaration_encode hdeclared ?_ ?_⟩
  · rw [hkind]
    exact List.mem_singleton_self _
  · rw [hfresh]
    exact List.mem_singleton_self _

theorem isDeclaredBy_of_nonCurrent (h : isCandidateNonCurrentDeclaredRelationship edge = true) :
    edge.source ≠ edge.target ∧ ∃ evidence,
      evidence.kind ∈ [.systemdRequires, .systemdWants, .systemdPartOf] ∧
        IsDeclaredBy edge ["systemd_requires", "systemd_wants", "systemd_part_of"]
          ["stale", "timed_out"] evidence := by
  simp only [isCandidateNonCurrentDeclaredRelationship, Bool.and_eq_true, bne_iff_ne, ne_eq,
    beq_iff_eq, Bool.or_eq_true, Option.any_eq_true] at h
  obtain ⟨hne, evidence, hsole, ⟨hkind, hdeclared⟩, hfresh⟩ := h
  obtain ⟨hrefs, hmatches⟩ := soleEvidence_eq_some.1 hsole
  have hmem : evidence.kind ∈ [RuntimeEvidenceKind.systemdRequires, .systemdWants,
      .systemdPartOf] := by
    rcases hkind with (⟨-, hkind⟩ | ⟨-, hkind⟩) | ⟨-, hkind⟩ <;> rw [hkind] <;> decide
  refine ⟨hne, evidence, hmem, hrefs, (attested_of_matches hmatches).1,
    isSystemdDeclaration_encode hdeclared ?_ ?_⟩
  · exact List.mem_map_of_mem (f := RuntimeEvidenceKind.wireName) hmem
  · rcases hfresh with hfresh | hfresh <;> rw [hfresh] <;> decide

/-! What the boundary reads of a finding -/

theorem matches_encode {finding : Finding} {text : Api.FindingText}
    (hseverity : finding.severity.wireName = text.severity)
    (hsummary : finding.summary = text.summary)
    (hrecommendation : finding.recommendation = text.recommendation) :
    text.matches (encode finding) = true := matches_iff.2 ⟨hseverity, hsummary, hrecommendation⟩

theorem startsText_encode {value word : String} (h : startsWith value.toList word.toList = true) :
    startsText (some (.str value)) word = true := h

theorem joinsPrefixes_encode {finding : Finding} {source target : String}
    (hsubject : startsWith finding.subjectRef.toList source.toList = true)
    (htarget : startsWith finding.targetRef.toList target.toList = true) :
    Api.joinsPrefixes (encode finding) source target = true := by
  rw [Api.joinsPrefixes, finding_subjectRef, finding_targetRef, startsText_encode hsubject,
    startsText_encode htarget, Bool.and_self]

theorem differingRefs_encode {finding : Finding} (h : finding.subjectRef ≠ finding.targetRef) :
    Api.differingRefs (encode finding) = true := by
  rw [Api.differingRefs, finding_subjectRef, finding_targetRef, JavaScript.strictEqual_str,
    beq_eq_false_iff_ne.2 h, Bool.not_false]

theorem withOne_encode {finding : Finding} (h : finding.evidenceRefs = [evidence])
    (test : Json → Bool) :
    Api.withOne ((encode finding).field? "evidenceRefs") test = test (encode evidence) := by
  rw [finding_evidenceRefs, h]
  rfl

theorem withPair_encode {finding : Finding} {other : RuntimeEvidenceRef}
    (h : finding.evidenceRefs = [evidence, other]) (test : Json → Json → Bool) :
    Api.withPair ((encode finding).field? "evidenceRefs") test =
      test (encode evidence) (encode other) := by
  rw [finding_evidenceRefs, h]
  rfl

theorem about_subjectRef (text : RuleText) : (text.about edge).subjectRef = edge.source := rfl

theorem about_targetRef (text : RuleText) : (text.about edge).targetRef = edge.target := rfl

theorem about_refs {text : RuleText} (h : edge.evidenceRefs = [evidence]) :
    (text.about edge).evidenceRefs = [evidence] := by
  rw [RuleText.about, RuleText.finding, h, List.take_one]
  rfl

/-- A systemd declaration joins two services. -/
theorem services_of_attested {kind : RuntimeEvidenceKind}
    (hkind : kind ∈ [.systemdRequires, .systemdWants, .systemdPartOf])
    (h : edge.attestedBy kind = true) :
    startsWith edge.source.toList "systemd_service_".toList = true ∧
      startsWith edge.target.toList "systemd_service_".toList = true := by
  simp only [List.mem_cons, List.not_mem_nil, or_false] at hkind
  rcases hkind with rfl | rfl | rfl <;>
    simp only [RuntimeMapEdge.attestedBy, Bool.and_eq_true, links_iff] at h <;>
    exact h.1.2

/-! Rules about systemd -/

theorem startsText_id (rule : RuleText) (edge : RuntimeMapEdge) :
    startsText ((encode (rule.about edge)).field? "id") rule.idPrefix = true :=
  startsWith_append rule.idPrefix (pairIdentity edge.source edge.target)

theorem hasPairId_about (rule : RuleText) (edge : RuntimeMapEdge) :
    Api.hasPairId (encode (rule.about edge)) rule.idPrefix = true := hasPairId_iff.2 rfl

theorem isSystemdFinding_about (rule : RuleText) (text : Api.FindingText)
    (relationship : RuntimeRelationshipKind) (kind : RuntimeEvidenceKind)
    (hkind : kind ∈ [.systemdRequires, .systemdWants, .systemdPartOf])
    (htext : ∀ edge, text.matches (encode (rule.about edge)) = true)
    (h : isCandidateDeclaration relationship kind edge = true) :
    Api.isSystemdFinding (encode (rule.about edge)) text rule.idPrefix kind.wireName = true := by
  obtain ⟨hne, evidence, rfl, hdeclared⟩ := isDeclaredBy_of_candidate h
  obtain ⟨hsource, htarget⟩ := services_of_attested hkind hdeclared.attested
  have hjoins : Api.joinsPrefixes (encode (rule.about edge)) "systemd_service_"
      "systemd_service_" = true := joinsPrefixes_encode hsource htarget
  have hdiffer : Api.differingRefs (encode (rule.about edge)) = true := differingRefs_encode hne
  rw [Api.isSystemdFinding, htext, startsText_id, hjoins, hdiffer,
    withOne_encode (about_refs hdeclared.refs), finding_subjectRef, about_subjectRef]
  exact hdeclared.declared

theorem requires_accepted (h : isCandidateRequires edge = true) :
    Api.isSystemdRequiresFinding (encode (requiresRule.about edge)) = true :=
  isSystemdFinding_about requiresRule Api.systemdRequiresText .requires .systemdRequires (by decide)
    (fun _ => matches_encode rfl rfl rfl) h

theorem partOf_accepted (h : isCandidatePartOf edge = true) :
    Api.isSystemdPartOfFinding (encode (partOfRule.about edge)) = true :=
  isSystemdFinding_about partOfRule Api.systemdPartOfText .partOf .systemdPartOf (by decide)
    (fun _ => matches_encode rfl rfl rfl) h

theorem nonCurrent_accepted (h : isCandidateNonCurrentDeclaredRelationship edge = true) :
    Api.isDeclaredRelationshipFinding (encode (nonCurrentRule.about edge)) = true := by
  obtain ⟨hne, evidence, hkind, hdeclared⟩ := isDeclaredBy_of_nonCurrent h
  obtain ⟨hsource, htarget⟩ := services_of_attested hkind hdeclared.attested
  have hmatches : Api.declaredRelationshipEvidenceNotCurrentText.matches
      (encode (nonCurrentRule.about edge)) = true := matches_encode rfl rfl rfl
  have hid : Api.hasPairId (encode (nonCurrentRule.about edge))
      "finding_runtime_declared_relationship_evidence_not_current_" = true :=
    hasPairId_about nonCurrentRule edge
  have hjoins : Api.joinsPrefixes (encode (nonCurrentRule.about edge)) "systemd_service_"
      "systemd_service_" = true := joinsPrefixes_encode hsource htarget
  have hdiffer : Api.differingRefs (encode (nonCurrentRule.about edge)) = true :=
    differingRefs_encode hne
  rw [Api.isDeclaredRelationshipFinding, hmatches, hjoins, hdiffer, hid,
    withOne_encode (about_refs hdeclared.refs), finding_subjectRef, about_subjectRef]
  exact hdeclared.declared

/-! Rules about Docker facts -/

theorem isFreshDockerEvidence_iff {kind : RuntimeEvidenceKind} (summary : String)
    (h : IsDockerFact edge kind evidence) :
    Api.isFreshDockerEvidence (encode evidence) kind.wireName summary (some (.str edge.source)) =
        true ↔ HasOpaqueRevision evidence ∧ evidence.summary = summary := by
  rw [Api.isFreshDockerEvidence, Bool.and_eq_true, h.isFreshFact_iff, hasText, evidence_summary,
    asText_str, beq_iff_eq, Option.some.injEq]

theorem summary_of_hasEvidenceSummary {summary : String} (hrefs : edge.evidenceRefs = [evidence])
    (h : hasEvidenceSummary edge summary = true) : evidence.summary = summary := by
  rw [hasEvidenceSummary, hrefs, List.head?_cons, Option.any_some, beq_iff_eq] at h
  exact h

theorem nonEmptyRevision_encode (h : evidence.providerRevision ≠ "") :
    Api.isNonEmptyRevision (encode evidence) = true := by
  rw [Api.isNonEmptyRevision, evidence_providerRevision, nonEmptyText_str, if_neg h,
    Option.isSome_some]

theorem unspecified_accepted_iff (h : isCandidateUnspecifiedAddressPort nodes edge = true) :
    Api.isUnspecifiedAddressPortFinding (encode (unspecifiedAddressRule.about edge)) = true ↔
      ∀ evidence ∈ edge.evidenceRefs, HasOpaqueRevision evidence ∧ HasSafeTime evidence := by
  simp only [isCandidateUnspecifiedAddressPort, Bool.and_eq_true] at h
  obtain ⟨⟨-, hfresh⟩, hsummary⟩ := h
  obtain ⟨evidence, hfact⟩ := isDockerFact_of_fresh hfresh
  have hends := hfact.attested
  simp only [RuntimeMapEdge.attestedBy, Bool.and_eq_true, links_iff, beq_iff_eq] at hends
  have hid : startsText ((encode (unspecifiedAddressRule.about edge)).field? "id")
      "finding_docker_port_published_on_unspecified_address_" = true :=
    startsText_id unspecifiedAddressRule edge
  have htarget : hasText (encode (unspecifiedAddressRule.about edge)) "targetRef"
      "host_risk_docker_unspecified_address_port" = true := by
    rw [hasText, finding_targetRef, asText_str, beq_iff_eq, about_targetRef, hends.2]
  have hmatches : Api.unspecifiedAddressPortText.matches
      (encode (unspecifiedAddressRule.about edge)) = true := matches_encode rfl rfl rfl
  rw [Api.isUnspecifiedAddressPortFinding, hmatches, hid, finding_subjectRef,
    about_subjectRef,
    startsText_encode hends.1.2.1, htarget, withOne_encode (about_refs hfact.refs),
    nonEmptyRevision_encode hfact.revision, evidence_collectedAt, safeInteger_isSome, hfact.refs]
  simp only [Bool.true_and, Bool.and_true, Bool.and_eq_true, decide_eq_true_eq,
    List.forall_mem_singleton]
  refine and_congr_left fun _ => (isFreshDockerEvidence_iff _ hfact).trans ?_
  exact and_iff_left (summary_of_hasEvidenceSummary hfact.refs hsummary)

theorem target_encode {finding : Finding} {text : String} (h : finding.targetRef = text) :
    hasText (encode finding) "targetRef" text = true := by
  rw [hasText, finding_targetRef, asText_str, beq_iff_eq, h]

theorem daemonState_accepted_iff
    (h : isCandidateDockerDaemonStateBindMount nodes edge = true) :
    Api.isDaemonStateFinding (encode (daemonStateRule.about edge)) = true ↔
      ∀ evidence ∈ edge.evidenceRefs, HasOpaqueRevision evidence := by
  simp only [isCandidateDockerDaemonStateBindMount, Bool.and_eq_true] at h
  obtain ⟨⟨-, hfresh⟩, hsummary⟩ := h
  obtain ⟨evidence, hfact⟩ := isDockerFact_of_fresh hfresh
  have hends := hfact.attested
  simp only [RuntimeMapEdge.attestedBy, Bool.and_eq_true, links_iff, beq_iff_eq] at hends
  have hmatches : Api.dockerDaemonStateText.matches (encode (daemonStateRule.about edge)) = true :=
    matches_encode rfl rfl rfl
  have hid : startsText ((encode (daemonStateRule.about edge)).field? "id")
      "finding_docker_daemon_state_bind_mount_" = true := startsText_id daemonStateRule edge
  have htarget : hasText (encode (daemonStateRule.about edge)) "targetRef"
      "host_risk_docker_daemon_state" = true := target_encode hends.2
  rw [Api.isDaemonStateFinding, hmatches, hid, finding_subjectRef, about_subjectRef,
    startsText_encode hends.1.2.1, htarget, withOne_encode (about_refs hfact.refs), hfact.refs]
  simp only [Bool.true_and, List.forall_mem_singleton]
  refine (isFreshDockerEvidence_iff _ hfact).trans ?_
  exact and_iff_left (summary_of_hasEvidenceSummary hfact.refs hsummary)

/-- A Compose dependency with its only evidence. -/
theorem dockerFact_of_composeDependency (h : isCandidateComposeDependency nodes edge = true) :
    edge.source ≠ edge.target ∧
      startsWith edge.source.toList "docker_container_".toList = true ∧
      startsWith edge.target.toList "docker_container_".toList = true ∧
      ∃ evidence, IsDockerFact edge .dockerComposeDependsOn evidence ∧
        evidence.summary = Api.composeDependencyEvidenceSummary := by
  simp only [isCandidateComposeDependency, Bool.and_eq_true] at h
  obtain ⟨⟨-, hfresh⟩, hsummary⟩ := h
  obtain ⟨evidence, hfact⟩ := isDockerFact_of_fresh hfresh
  have hends := hfact.attested
  simp only [RuntimeMapEdge.attestedBy, Bool.and_eq_true, links_iff, bne_iff_ne, ne_eq] at hends
  exact ⟨hends.2, hends.1.2.1, hends.1.2.2, evidence, hfact,
    summary_of_hasEvidenceSummary hfact.refs hsummary⟩

theorem targetNotActive_accepted_iff (h : isCandidateComposeDependency nodes edge = true) :
    Api.isComposeDeclaredTargetFinding (encode (targetNotActiveRule.about edge)) = true ↔
      ∀ evidence ∈ edge.evidenceRefs, HasOpaqueRevision evidence := by
  obtain ⟨hne, hsource, htarget, evidence, hfact, hsummary⟩ := dockerFact_of_composeDependency h
  have hmatches : Api.composeDeclaredTargetNotActiveText.matches
      (encode (targetNotActiveRule.about edge)) = true := matches_encode rfl rfl rfl
  have hid : Api.hasPairId (encode (targetNotActiveRule.about edge))
      "finding_docker_compose_declared_target_not_active_" = true :=
    hasPairId_about targetNotActiveRule edge
  have hjoins : Api.joinsPrefixes (encode (targetNotActiveRule.about edge)) "docker_container_"
      "docker_container_" = true := joinsPrefixes_encode hsource htarget
  have hdiffer : Api.differingRefs (encode (targetNotActiveRule.about edge)) = true :=
    differingRefs_encode hne
  rw [Api.isComposeDeclaredTargetFinding, hmatches, hjoins, hdiffer, hid,
    withOne_encode (about_refs hfact.refs), finding_subjectRef, about_subjectRef, hfact.refs]
  simp only [Bool.true_and, List.forall_mem_singleton]
  exact (isFreshDockerEvidence_iff _ hfact).trans (and_iff_left hsummary)

/-! The integrity fact -/

/-- The digits of a number have no dash. -/
theorem opaque_of_dash (h : '-' ∈ evidence.providerRevision.toList) : HasOpaqueRevision evidence := by
  intro heq
  rw [heq, collectionText, String.toList_ofList] at h
  rcases JavaScript.isNumeral_of_mem_numberText h with hdigit | hsign
  · exact absurd hdigit (by decide)
  · exact absurd hsign (by decide)

theorem dash_of_integrityRevision {text : String} (h : Api.isIntegrityRevision text = true) :
    '-' ∈ text.toList := by
  rw [Api.isIntegrityRevision, Bool.and_eq_true] at h
  have hmatch := h.2
  split at hmatch
  · rename_i first rest hdrop
    exact List.mem_of_mem_drop (hdrop ▸ List.mem_cons_self)
  · cases hmatch

theorem collision_accepted_iff (h : isCandidateRuntimeIdentityCollision nodes edge = true) :
    Api.isRuntimeIdentityCollisionFinding
        (encode (collisionRule.finding edge "" (edge.evidenceRefs.take 1))) = true ↔
      ∀ evidence ∈ edge.evidenceRefs,
        HasSafeTime evidence ∧ Api.isIntegrityRevision evidence.providerRevision = true := by
  obtain ⟨hsource, htarget⟩ := ends_of_collision h
  simp only [isCandidateRuntimeIdentityCollision, Bool.and_eq_true, Option.any_eq_true] at h
  obtain ⟨-, evidence, hsole, hfields⟩ := h
  obtain ⟨hrefs, hvalid⟩ := soleEvidence_eq_some.1 hsole
  simp only [bne_iff_ne, beq_iff_eq, ne_eq] at hfields
  obtain ⟨⟨⟨⟨⟨⟨⟨⟨⟨⟨hversion, hid⟩, hprovider⟩, hkind⟩, hassertion⟩, hsummary⟩, hsubject⟩,
    hfresh⟩, hslot⟩, -⟩, -⟩ := hfields
  set finding := collisionRule.finding edge "" (edge.evidenceRefs.take 1) with hfinding
  have hone : finding.evidenceRefs = [evidence] := by
    rw [hfinding, RuleText.finding, hrefs, List.take_one]
    rfl
  have hmatches : Api.runtimeIdentityCollisionText.matches (encode finding) = true :=
    matches_encode rfl rfl rfl
  have hidText : hasText (encode finding) "id" "finding_runtime_identity_collision_detected" =
      true := by
    rw [hasText, finding_id, asText_str, beq_iff_eq]
    exact congrArg some (String.append_empty)
  have hsubjectText : hasText (encode finding) "subjectRef" "runtime_integrity_scope" = true := by
    rw [hasText, finding_subjectRef, asText_str, beq_iff_eq]
    exact congrArg some hsource
  have htargetText : hasText (encode finding) "targetRef"
      "runtime_integrity_risk_identity_collision" = true := target_encode htarget
  have hsubjectRef : finding.subjectRef = edge.source := rfl
  have hfact : Api.isFreshFact (encode evidence) 7 "dockermap" "runtime_identity_collision"
      "observed" (some (.str edge.source)) = true ↔ HasOpaqueRevision evidence := by
    refine isFreshFact_iff.trans ⟨fun hfact => hfact.revision, fun hopaque => ⟨?_, ?_, ?_, ?_,
      hsubject, hslot, ?_, hopaque⟩⟩
    · rw [hversion]
      rfl
    · rw [hprovider]
      rfl
    · rw [hkind]
      rfl
    · rw [hassertion]
      rfl
    · rw [hfresh]
      rfl
  have hevidenceId : hasText (encode evidence) "id"
      "dockermap_evidence_runtime_identity_collision" = true := by
    rw [hasText, evidence_id, asText_str, hid, beq_self_eq_true]
  have hevidenceSummary : hasText (encode evidence) "summary"
      Api.runtimeIdentityCollisionEvidenceSummary = true := by
    rw [hasText, evidence_summary, asText_str, hsummary]
    exact beq_self_eq_true _
  rw [Api.isRuntimeIdentityCollisionFinding, hmatches, hidText, hsubjectText, htargetText,
    withOne_encode hone, hevidenceId, hevidenceSummary, finding_subjectRef, hsubjectRef,
    evidence_collectedAt, safeInteger_isSome, evidence_providerRevision, asText_str,
    Option.any_some, hrefs]
  simp only [Bool.true_and, Bool.and_true, Bool.and_eq_true, decide_eq_true_eq, hfact,
    List.forall_mem_singleton]
  exact ⟨fun hchecks => ⟨hchecks.1.2, hchecks.2⟩, fun hchecks =>
    ⟨⟨opaque_of_dash (dash_of_integrityRevision hchecks.2), hchecks.1⟩, hchecks.2⟩⟩

/-! Rules about two edges -/

section

variable {other : RuntimeEvidenceRef} {port : RuntimeMapEdge}

theorem opaque_of_sameObservation (h : sameObservation evidence other = true) :
    HasOpaqueRevision other ↔ HasOpaqueRevision evidence := by
  simp only [sameObservation, Bool.and_eq_true, beq_iff_eq] at h
  rw [HasOpaqueRevision, HasOpaqueRevision, collectionText, collectionText, h.1, h.2]

theorem fromOneCollection_of_sameObservation (h : sameObservation evidence other = true) :
    Api.fromOneCollection (encode evidence) (encode other) = true := by
  simp only [sameObservation, Bool.and_eq_true, beq_iff_eq] at h
  exact fromOneCollection_iff.2 ⟨congrArg Binary64.ofNat h.1, h.2⟩

theorem IsDockerFact.of_refs {kind : RuntimeEvidenceKind} {known : RuntimeEvidenceRef}
    (h : IsDockerFact edge kind known) (hrefs : edge.evidenceRefs = [evidence]) :
    IsDockerFact edge kind evidence := by
  have hknown : known = evidence := List.singleton_inj.1 (h.refs.symm.trans hrefs)
  exact hknown ▸ h

theorem daemonStatePort_accepted_iff
    (h : isCandidateDockerDaemonStateBindMount nodes edge = true)
    (hport : isCandidateDockerDaemonStatePortPublication nodes port = true)
    (hsource : port.source = edge.source) (hrefs : edge.evidenceRefs = [evidence])
    (hother : port.evidenceRefs = [other]) (hsame : sameObservation evidence other = true) :
    Api.isDaemonStatePublishedPortFinding (encode (daemonStatePortRule.finding edge
        (pairIdentity edge.source edge.target) [evidence, other])) = true ↔
      HasOpaqueRevision evidence ∧ other.summary = Api.portPublicationEvidenceSummary := by
  simp only [isCandidateDockerDaemonStateBindMount, Bool.and_eq_true] at h
  simp only [isCandidateDockerDaemonStatePortPublication, Bool.and_eq_true] at hport
  obtain ⟨known, hknown⟩ := isDockerFact_of_fresh h.1.2
  obtain ⟨knownPort, hknownPort⟩ := isDockerFact_of_fresh hport.2
  have hfact := hknown.of_refs hrefs
  have hportFact := hknownPort.of_refs hother
  have hends := hfact.attested
  simp only [RuntimeMapEdge.attestedBy, Bool.and_eq_true, links_iff, beq_iff_eq] at hends
  set finding := daemonStatePortRule.finding edge (pairIdentity edge.source edge.target)
    [evidence, other] with hfinding
  have hmatches : Api.dockerDaemonStatePublishedPortText.matches (encode finding) = true :=
    matches_encode rfl rfl rfl
  have hid : Api.hasPairId (encode finding)
      "finding_docker_daemon_state_bind_mount_publishes_port_" = true := hasPairId_iff.2 rfl
  have htarget : hasText (encode finding) "targetRef" "host_risk_docker_daemon_state" = true :=
    target_encode hends.2
  have hsubject : finding.subjectRef = edge.source := rfl
  have hstate := isFreshDockerEvidence_iff Api.daemonStateEvidenceSummary hfact
  have hpublished := isFreshDockerEvidence_iff Api.portPublicationEvidenceSummary
    hportFact
  rw [hsource] at hpublished
  have hsummary := summary_of_hasEvidenceSummary hrefs h.2
  rw [Api.isDaemonStatePublishedPortFinding, hmatches, finding_subjectRef, hsubject,
    startsText_encode hends.1.2.1, htarget, hid, withPair_encode rfl,
    fromOneCollection_of_sameObservation hsame]
  simp only [Bool.true_and, Bool.and_true, Bool.and_eq_true]
  refine (and_congr hstate hpublished).trans ?_
  rw [opaque_of_sameObservation hsame]
  exact ⟨fun h => ⟨h.1.1, h.2.2⟩, fun h => ⟨⟨h.1, hsummary⟩, h.1, h.2⟩⟩

theorem mutualDependency_accepted_iff (h : isCandidateComposeDependency nodes edge = true)
    (hreverse : isCandidateComposeDependency nodes port = true)
    (hsource : port.source = edge.target) (hrefs : edge.evidenceRefs = [evidence])
    (hother : port.evidenceRefs = [other]) (hsame : sameObservation evidence other = true) :
    Api.isComposeMutualDependencyFinding (encode (mutualDependencyRule.finding edge
        (pairIdentity edge.source edge.target) [evidence, other])) = true ↔
      HasOpaqueRevision evidence ∧ JavaScript.textLess edge.source edge.target = true := by
  obtain ⟨-, hstart, hend, known, hknown, hsummary⟩ := dockerFact_of_composeDependency h
  obtain ⟨-, -, -, knownReverse, hknownReverse, hreverseSummary⟩ :=
    dockerFact_of_composeDependency hreverse
  have hfact := hknown.of_refs hrefs
  have hreverseFact := hknownReverse.of_refs hother
  have hknownEq : known = evidence := List.singleton_inj.1 (hknown.refs.symm.trans hrefs)
  have hreverseEq : knownReverse = other :=
    List.singleton_inj.1 (hknownReverse.refs.symm.trans hother)
  rw [hknownEq] at hsummary
  rw [hreverseEq] at hreverseSummary
  set finding := mutualDependencyRule.finding edge (pairIdentity edge.source edge.target)
    [evidence, other] with hfinding
  have hmatches : Api.composeMutualDependencyText.matches (encode finding) = true :=
    matches_encode rfl rfl rfl
  have hid : Api.hasPairId (encode finding) "finding_docker_compose_mutual_dependency_" = true :=
    hasPairId_iff.2 rfl
  have hjoins : Api.joinsPrefixes (encode finding) "docker_container_" "docker_container_" = true :=
    joinsPrefixes_encode hstart hend
  have horder : Api.inTextOrder (encode finding) = JavaScript.textLess edge.source edge.target := rfl
  have hsubject : finding.subjectRef = edge.source := rfl
  have htarget : finding.targetRef = edge.target := rfl
  have hnumber : ∀ fact : RuntimeEvidenceRef,
      (JavaScript.asNumber ((encode fact).field? "collectedAt")).isSome = true := fun _ => rfl
  have hforward := isFreshDockerEvidence_iff Api.composeDependencyEvidenceSummary hfact
  have hbackward := isFreshDockerEvidence_iff Api.composeDependencyEvidenceSummary
    hreverseFact
  rw [hsource] at hbackward
  rw [Api.isComposeMutualDependencyFinding, hmatches, hjoins, horder, hid, withPair_encode rfl,
    finding_subjectRef, finding_targetRef, hsubject, htarget, Api.isCanonicalComposeEvidence,
    Api.isCanonicalComposeEvidence, hnumber, hnumber, fromOneCollection_of_sameObservation hsame]
  simp only [Bool.true_and, Bool.and_true, Bool.and_eq_true]
  have hfacts := and_congr hforward hbackward
  rw [opaque_of_sameObservation hsame] at hfacts
  constructor
  · intro hchecks
    exact ⟨(hfacts.1 hchecks.2).1.1, hchecks.1⟩
  · intro hasks
    exact ⟨hasks.2, hfacts.2 ⟨⟨hasks.1, hsummary⟩, hasks.1, hreverseSummary⟩⟩

theorem isInternalNetworkPortFinding_iff {finding : Finding}
    (hmatches : Api.internalNetworkPortText.matches (encode finding) = true)
    (hid : startsText ((encode finding).field? "id")
      "finding_docker_internal_network_member_publishes_port_" = true)
    (hjoins : Api.joinsPrefixes (encode finding) "docker_container_" "docker_network_" = true)
    (hpair : finding.evidenceRefs = [evidence, other]) :
    Api.isInternalNetworkPortFinding (encode finding) = true ↔
      Api.isFreshFact (encode evidence) 1 "docker" "docker_network_membership" "observed"
          (some (.str finding.subjectRef)) = true ∧
        Api.isFreshFact (encode other) 1 "docker" "docker_port_publication" "observed"
          (some (.str finding.subjectRef)) = true := by
  rw [Api.isInternalNetworkPortFinding, hmatches, hid, hjoins, withPair_encode hpair,
    finding_subjectRef]
  simp only [Bool.true_and, Bool.and_eq_true]

theorem internalNetworkPort_accepted_iff
    (h : isCandidateInternalNetworkMembership nodes edge = true)
    (hport : isCandidatePortPublication nodes port = true) (hsource : port.source = edge.source) :
    Api.isInternalNetworkPortFinding (encode (internalNetworkPortFinding edge port)) = true ↔
      ∀ evidence ∈ edge.evidenceRefs ++ port.evidenceRefs, HasOpaqueRevision evidence := by
  simp only [isCandidateInternalNetworkMembership, Bool.and_eq_true] at h
  simp only [isCandidatePortPublication, Bool.and_eq_true] at hport
  obtain ⟨evidence, hfact⟩ := isDockerFact_of_fresh h.2
  obtain ⟨other, hportFact⟩ := isDockerFact_of_fresh hport.2
  have hends := hfact.attested
  simp only [RuntimeMapEdge.attestedBy, links_iff] at hends
  have hpair : (internalNetworkPortFinding edge port).evidenceRefs = [evidence, other] := by
    have hrefs : (internalNetworkPortFinding edge port).evidenceRefs =
        edge.evidenceRefs.take 1 ++ port.evidenceRefs.take 1 := rfl
    rw [hrefs, hfact.refs, hportFact.refs]
    rfl
  have hid : startsText ((encode (internalNetworkPortFinding edge port)).field? "id")
      "finding_docker_internal_network_member_publishes_port_" = true := by
    rw [finding_id]
    exact startsText_encode (startsWith_append internalNetworkPortRule.idPrefix
      (collisionResistantIdComponent
        (edge.source ++ unitSeparator ++ edge.target ++ unitSeparator ++ port.target)))
  have hjoins : Api.joinsPrefixes (encode (internalNetworkPortFinding edge port))
      "docker_container_" "docker_network_" = true := joinsPrefixes_encode hends.2.1 hends.2.2
  have hsubject : (internalNetworkPortFinding edge port).subjectRef = edge.source := rfl
  have hmember := hfact.isFreshFact_iff
  have hpublished := hportFact.isFreshFact_iff
  rw [hsource] at hpublished
  rw [isInternalNetworkPortFinding_iff (matches_encode rfl rfl rfl) hid hjoins hpair, hsubject,
    hfact.refs, hportFact.refs]
  simp only [List.cons_append, List.nil_append, List.forall_mem_cons, List.not_mem_nil,
    IsEmpty.forall_iff, implies_true, and_true]
  exact and_congr hmember hpublished

end

end

end DockerMap
