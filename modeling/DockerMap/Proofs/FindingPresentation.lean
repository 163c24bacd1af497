import DockerMap.Proofs.FindingSoundness
import DockerMap.Proofs.IdentityAgreement
import DockerMap.Proofs.IdentityCollisions
import DockerMap.Proofs.PayloadPublication
import DockerMap.Proofs.PublicationNormalForm
import DockerMap.Web.FindingPresentation

/-! Which findings the browser shows. The boundary's table and the browser's table agree on
every rule but two: for these the browser asks for a null slot, and the daemon leaves an
absent slot out. -/

namespace DockerMap

open Text (startsWith forall_ascii asciiLower infix_of_foreign_last)
open Json (encode)
open JavaScript (asNumber isNullish strictEqual textLess propertyText numberText)
open Api (asText hasText startsText)

/-! Fields of the encodings -/

section

variable (finding : Finding) (evidence : RuntimeEvidenceRef)

@[simp] theorem finding_id : (encode finding).field? "id" = some (.str finding.id) := rfl

@[simp] theorem finding_ruleId :
    (encode finding).field? "ruleId" = some (.str finding.ruleId.wireName) := rfl

@[simp] theorem finding_severity :
    (encode finding).field? "severity" = some (.str finding.severity.wireName) := rfl

@[simp] theorem finding_summary :
    (encode finding).field? "summary" = some (.str finding.summary) := rfl

@[simp] theorem finding_recommendation :
    (encode finding).field? "recommendation" = some (.str finding.recommendation) := rfl

@[simp] theorem finding_subjectRef :
    (encode finding).field? "subjectRef" = some (.str finding.subjectRef) := rfl

@[simp] theorem finding_targetRef :
    (encode finding).field? "targetRef" = some (.str finding.targetRef) := rfl

@[simp] theorem finding_evidenceRefs :
    (encode finding).field? "evidenceRefs" = some (.arr (finding.evidenceRefs.map encode)) := rfl

@[simp] theorem evidence_version :
    (encode evidence).field? "version" = some (.num evidence.version) := rfl

@[simp] theorem evidence_id : (encode evidence).field? "id" = some (.str evidence.id) := rfl

@[simp] theorem evidence_provider :
    (encode evidence).field? "provider" = some (.str evidence.provider.wireName) := rfl

@[simp] theorem evidence_kind :
    (encode evidence).field? "kind" = some (.str evidence.kind.wireName) := rfl

@[simp] theorem evidence_assertionKind :
    (encode evidence).field? "assertionKind" = some (.str evidence.assertionKind.wireName) := rfl

@[simp] theorem evidence_summary :
    (encode evidence).field? "summary" = some (.str evidence.summary) := rfl

@[simp] theorem evidence_subjectRef :
    (encode evidence).field? "subjectRef" = some (.str evidence.subjectRef) := rfl

@[simp] theorem evidence_collectedAt :
    (encode evidence).field? "collectedAt" = some (.num evidence.collectedAt) := rfl

@[simp] theorem evidence_providerRevision :
    (encode evidence).field? "providerRevision" = some (.str evidence.providerRevision) := rfl

/-- An absent slot is left out, never null. -/
@[simp] theorem evidence_providerSlot : (encode evidence).field? "providerSlot" =
    evidence.providerSlot.map fun slot => .str slot.wireName := by
  obtain ⟨_, _, _, _, _, _, _, _, _, slot, _⟩ := evidence
  cases slot <;> rfl

@[simp] theorem evidence_freshness :
    (encode evidence).field? "freshness" = some (.str evidence.freshness.wireName) := by
  obtain ⟨_, _, _, _, _, _, _, _, _, slot, _⟩ := evidence
  cases slot <;> rfl

end

@[simp] theorem asText_str (text : String) : asText (some (.str text)) = some text := rfl

@[simp] theorem startsText_str (text word : String) :
    startsText (some (.str text)) word = startsWith text.toList word.toList := rfl

@[simp] theorem isNullish_slot (slot : Option ProviderSlot) :
    isNullish (slot.map fun slot => .str slot.wireName) = slot.isNone := by
  cases slot <;> rfl

/-- No slot the daemon encodes is the null slot. -/
@[simp] theorem isSlot_none_slot (slot : Option ProviderSlot) :
    Web.isSlot none (slot.map fun slot => .str slot.wireName) = false := by
  cases slot <;> rfl

@[simp] theorem safeInteger_isSome (n : ℕ) :
    (Api.safeInteger (some (.num n))).isSome = decide (n ≤ Api.maxSafeInteger) := by
  have hbound : Binary64.ofNat n ≤ Api.maxSafeInteger ↔ n ≤ Api.maxSafeInteger :=
    Binary64.ofNat_le_iff (by decide)
  rw [Api.safeInteger]
  split_ifs with h
  · simp [hbound.1 h]
  · simpa using fun hle => h (hbound.2 hle)

/-! Facts -/

/-- The digits JavaScript gives the collection time. -/
def collectionText (evidence : RuntimeEvidenceRef) : String :=
  String.ofList (numberText (Binary64.ofNat evidence.collectedAt))

structure IsFreshFact (evidence : RuntimeEvidenceRef) (version : ℕ)
    (provider kind assertionKind subjectRef : String) : Prop where
  version : Binary64.ofNat evidence.version = version
  provider : evidence.provider.wireName = provider
  kind : evidence.kind.wireName = kind
  assertionKind : evidence.assertionKind.wireName = assertionKind
  subjectRef : evidence.subjectRef = subjectRef
  slot : evidence.providerSlot = none
  freshness : evidence.freshness.wireName = "fresh"
  revision : evidence.providerRevision ≠ collectionText evidence

theorem isFreshFact_iff {evidence : RuntimeEvidenceRef} {version : ℕ}
    {provider kind assertionKind subjectRef : String} :
    Api.isFreshFact (encode evidence) version provider kind assertionKind
        (some (.str subjectRef)) = true ↔
      IsFreshFact evidence version provider kind assertionKind subjectRef := by
  have hobject : Api.isObject (encode evidence) = true := rfl
  simp only [Api.isFreshFact, Api.isEvidence, Api.hasOpaqueRevision, hasText, hobject,
    evidence_version, evidence_provider, evidence_kind, evidence_assertionKind,
    evidence_subjectRef, evidence_providerSlot, evidence_freshness, evidence_providerRevision,
    evidence_collectedAt, JavaScript.asNumber_num, asText_str, List.any_cons, List.any_nil,
    Bool.or_false, JavaScript.strictEqual_str, isNullish_slot, Option.any_some,
    JavaScript.propertyText_num, Bool.and_eq_true, beq_iff_eq, Option.some.injEq,
    Option.isNone_iff_eq_none, decide_eq_true_eq, true_and, and_assoc]
  exact ⟨fun ⟨version, provider, kind, assertionKind, subjectRef, slot, freshness, revision⟩ =>
      ⟨version, provider, kind, assertionKind, subjectRef, slot, freshness, revision⟩,
    fun h => ⟨h.version, h.provider, h.kind, h.assertionKind, h.subjectRef, h.slot, h.freshness,
      h.revision⟩⟩

structure IsDeclaration (evidence : RuntimeEvidenceRef) (kinds freshness : List String)
    (subjectRef : String) : Prop where
  version : Binary64.ofNat evidence.version = 2
  provider : evidence.provider.wireName = "systemd"
  kind : evidence.kind.wireName ∈ kinds
  assertionKind : evidence.assertionKind.wireName = "declared"
  subjectRef : evidence.subjectRef = subjectRef
  slot : evidence.providerSlot.map ProviderSlot.wireName = some "systemd"
  freshness : evidence.freshness.wireName ∈ freshness

theorem any_hasText {json : Json} {name text : String} {texts : List String}
    (hfield : json.field? name = some (.str text)) :
    texts.any (hasText json name) = true ↔ text ∈ texts := by
  simp only [hasText, hfield, asText_str, List.any_eq_true, beq_iff_eq, Option.some.injEq,
    exists_eq_right']

theorem isDeclaration_of {evidence : RuntimeEvidenceRef} {kinds freshness : List String}
    {subjectRef : String} (h : Api.isSystemdDeclaration (encode evidence) kinds freshness
      (some (.str subjectRef)) = true) : IsDeclaration evidence kinds freshness subjectRef := by
  have hslot (name : String) : hasText (encode evidence) "providerSlot" name = true ↔
      evidence.providerSlot.map ProviderSlot.wireName = some name := by
    rw [hasText, evidence_providerSlot]
    cases evidence.providerSlot <;> simp [asText]
  simp only [Api.isSystemdDeclaration, Api.isEvidence, Bool.and_eq_true, hslot,
    any_hasText (evidence_kind evidence), any_hasText (evidence_freshness evidence)] at h
  simp only [hasText, evidence_version, evidence_provider, evidence_assertionKind,
    evidence_subjectRef, JavaScript.asNumber_num, asText_str, JavaScript.strictEqual_str,
    beq_iff_eq, Option.some.injEq, and_assoc] at h
  obtain ⟨-, hversion, hprovider, hkind, hassertion, hsubject, hslot, hfreshness⟩ := h
  exact ⟨hversion, hprovider, hkind, hassertion, hsubject, hslot, hfreshness⟩

/-! Published facts -/

section

variable {toLowerCase : String → String} {evidence : RuntimeEvidenceRef} {subjectRef : String}

theorem IsFreshFact.publish {version : ℕ} {provider kind assertionKind : String}
    (h : IsFreshFact evidence version provider kind assertionKind subjectRef) :
    IsFreshFact (publishEvidenceRef toLowerCase evidence) version provider kind assertionKind
      (Api.publishDisplayText toLowerCase subjectRef) := by
  unfold publishEvidenceRef
  exact ⟨h.version, h.provider, h.kind, h.assertionKind,
    congrArg (Api.publishDisplayText toLowerCase) h.subjectRef, h.slot, h.freshness,
    fun heq => h.revision (eq_numberText_of_publish heq)⟩

theorem IsDeclaration.publish {kinds freshness : List String}
    (h : IsDeclaration evidence kinds freshness subjectRef) :
    IsDeclaration (publishEvidenceRef toLowerCase evidence) kinds freshness
      (Api.publishDisplayText toLowerCase subjectRef) := by
  unfold publishEvidenceRef
  exact ⟨h.version, h.provider, h.kind, h.assertionKind,
    congrArg (Api.publishDisplayText toLowerCase) h.subjectRef, h.slot, h.freshness⟩

end

/-! Plain tokens -/

theorem hexCharacter {c : Char} (h : isLowerHex c = true ∨ c = '-') :
    isSlugCharacter c = true ∧ c.toLower ≠ '_' := by
  have hascii : c.toNat < 128 := by
    rcases h with h | rfl
    · simp only [isLowerHex, Char.isDigit, Bool.or_eq_true, Bool.and_eq_true,
        decide_eq_true_eq] at h
      rcases h with ⟨_, hle⟩ | ⟨_, hle⟩
      · have hnat : c.toNat ≤ 57 := hle
        omega
      · have hnat : c.toNat ≤ 102 := hle
        omega
    · decide
  exact forall_ascii (P := fun c => isLowerHex c = true ∨ c = '-' →
    isSlugCharacter c = true ∧ c.toLower ≠ '_') (by decide +kernel) hascii h

theorem ne_dash_of_hex {c : Char} (h : isLowerHex c = true) : c ≠ '-' := by
  rintro rfl
  exact absurd h (by decide)

theorem hex_of_digit {c : Char} (h : c.isDigit = true) : isLowerHex c = true := by
  rw [isLowerHex, h, Bool.true_or]

theorem count_dash_of_hex {l : List Char} (h : ∀ c ∈ l, isLowerHex c = true) : l.count '-' = 0 :=
  List.count_eq_zero.2 fun hmem => ne_dash_of_hex (h _ hmem) rfl

/-- The marker ends in a character no digest has. -/
theorem marker_of_hex {p l : List Char} (h : ∀ c ∈ l, isLowerHex c = true ∨ c = '-')
    (hmarker : testMarker <:+: asciiLower (p ++ l)) : testMarker <:+: asciiLower p := by
  rw [asciiLower, List.map_append] at hmarker
  refine infix_of_foreign_last (w := "dockermap_test_fake".toList) (c := '_') ?_ hmarker
  intro hmem
  obtain ⟨c, hc, hlower⟩ := List.mem_map.1 hmem
  exact (hexCharacter (h c hc)).2 hlower

theorem isPlain_of_integrityRevision {text : String} (h : Api.isIntegrityRevision text = true) :
    isPlain text = true := by
  have hsplit := List.take_append_drop 32 text.toList
  simp only [Api.isIntegrityRevision, Bool.and_eq_true, List.all_eq_true] at h
  obtain ⟨⟨-, hepoch⟩, hsequence⟩ := h
  split at hsequence
  · rename_i first rest hdrop
    simp only [Bool.and_eq_true, List.all_eq_true] at hsequence
    obtain ⟨⟨hfirst, -⟩, hrest⟩ := hsequence
    have hdigits : ∀ c ∈ first :: rest, isLowerHex c = true :=
      List.forall_mem_cons.2 ⟨hex_of_digit hfirst, fun c hc => hex_of_digit (hrest c hc)⟩
    have hall : ∀ c ∈ text.toList, isLowerHex c = true ∨ c = '-' := by
      intro c hc
      rw [← hsplit, hdrop] at hc
      rcases List.mem_append.1 hc with hc | hc
      · exact Or.inl (hepoch c hc)
      · exact (List.mem_cons.1 hc).symm.imp_left (hdigits c)
    refine isPlain_of_slug (fun c hc => (hexCharacter (hall c hc)).1) ?_ fun hmarker => ?_
    · rw [← hsplit, hdrop, List.count_append, count_dash_of_hex hepoch, List.count_cons_self,
        count_dash_of_hex hdigits]
    · exact absurd (marker_of_hex (p := []) hall hmarker) (by decide)
  · cases hsequence

/-! Rows of the browser's table -/

def specOf : FindingRule → Web.FindingSpec
  | .systemdRequiresTargetNotActive => Web.requiresSpec
  | .systemdPartOfTargetNotActive => Web.partOfSpec
  | .dockerInternalNetworkMemberPublishesPort => Web.internalNetworkPortSpec
  | .dockerPortPublishedOnUnspecifiedAddress => Web.unspecifiedAddressPortSpec
  | .dockerDaemonStateBindMount => Web.daemonStateSpec
  | .dockerDaemonStateBindMountPublishesPort => Web.daemonStatePortSpec
  | .dockerComposeDeclaredTargetNotActive => Web.declaredTargetSpec
  | .dockerComposeMutualDependency => Web.mutualDependencySpec
  | .composeDeclaredMountMissingAtBoundContainer => Web.declaredMountSpec
  | .runtimeIdentityCollisionDetected => Web.identityCollisionSpec
  | .runtimeDeclaredRelationshipEvidenceNotCurrent => Web.notCurrentSpec

/-- The browser's table has one row for every rule of the daemon. -/
theorem find?_specs (finding : Finding) :
    (Web.specs.find? fun spec => hasText (encode finding) "ruleId" spec.ruleId) =
      some (specOf finding.ruleId) := by
  simp only [hasText, finding_ruleId, asText_str]
  cases finding.ruleId <;> rfl

/-- The texts and the words of a row are plain. -/
structure PlainRow (spec : Web.FindingSpec) : Prop where
  summary : isPlain spec.summary = true
  recommendation : isPlain spec.recommendation = true
  idPrefix : isPlain spec.idPrefix = true
  idPrefix_ne : spec.idPrefix ≠ ""
  subjectPrefix : isPlain spec.subjectPrefix = true
  subjectPrefix_ne : spec.subjectPrefix ≠ ""
  targetPrefix : ∀ word ∈ spec.targetPrefix, isPlain word = true ∧ word ≠ ""
  targetRef : ∀ text ∈ spec.targetRef, isPlain text = true ∧ text ≠ ""

theorem plainRow_specOf (rule : FindingRule) : PlainRow (specOf rule) := by
  cases rule <;>
    exact ⟨isPlain_ofList (by decide +kernel), isPlain_ofList (by decide +kernel),
      isPlain_ofList (by decide +kernel), by decide, isPlain_ofList (by decide +kernel), by decide,
      fun _ h => by cases h <;> exact ⟨isPlain_ofList (by decide +kernel), by decide⟩,
      fun _ h => by cases h <;> exact ⟨isPlain_ofList (by decide +kernel), by decide⟩⟩

structure RowMatches (spec : Web.FindingSpec) (finding : Finding) : Prop where
  severity : finding.severity.wireName = spec.severity
  summary : finding.summary = spec.summary
  recommendation : finding.recommendation = spec.recommendation
  id : startsWith finding.id.toList spec.idPrefix.toList = true
  subject : startsWith finding.subjectRef.toList spec.subjectPrefix.toList = true
  targetPrefix : ∀ word ∈ spec.targetPrefix,
    startsWith finding.targetRef.toList word.toList = true
  targetRef : ∀ text ∈ spec.targetRef, finding.targetRef = text
  refs : spec.ruleId ≠ "compose.declared_mount_missing_at_bound_container" →
    finding.subjectRef ≠ finding.targetRef
  collision : spec.ruleId = "runtime.identity_collision_detected" →
    finding.id = "finding_runtime_identity_collision_detected" ∧
      finding.subjectRef = "runtime_integrity_scope"
  direction : spec.ruleId = "docker.compose_mutual_dependency" →
    textLess finding.subjectRef finding.targetRef = true

theorem matchesSpec_iff {spec : Web.FindingSpec} {finding : Finding} :
    Web.matchesSpec spec (encode finding) = true ↔ RowMatches spec finding := by
  simp only [Web.matchesSpec, hasText, Web.sameRefs, Web.inCanonicalDirection, finding_severity,
    finding_summary, finding_recommendation, finding_id, finding_subjectRef, finding_targetRef,
    asText_str, startsText_str, JavaScript.strictEqual_str, Bool.and_eq_true, beq_iff_eq,
    Option.some.injEq, Option.isSome_some, Option.all_eq_true, Bool.or_eq_true, bne_iff_ne,
    Bool.not_eq_true', beq_eq_false_iff_ne, Option.any_some, true_and, and_assoc]
  constructor
  · rintro ⟨hseverity, hsummary, hrecommendation, hid, hsubject, hpre, htarget, hrefs,
      hcollision, hdirection⟩
    exact ⟨hseverity, hsummary, hrecommendation, hid, hsubject, hpre, htarget,
      hrefs.resolve_left, fun h => hcollision.resolve_left (not_not.2 h),
      fun h => hdirection.resolve_left (not_not.2 h)⟩
  · intro h
    exact ⟨h.severity, h.summary, h.recommendation, h.id, h.subject, h.targetPrefix, h.targetRef,
      or_iff_not_imp_left.2 h.refs, or_iff_not_imp_left.2 fun hne => h.collision (not_not.1 hne),
      or_iff_not_imp_left.2 fun hne => h.direction (not_not.1 hne)⟩

/-- What the browser asks of a finding by one row. -/
structure Presents (spec : Web.FindingSpec) (finding : Finding) : Prop where
  row : RowMatches spec finding
  count : finding.evidenceRefs.length = spec.evidenceCount
  evidence : ∃ evidence ∈ finding.evidenceRefs.head?,
    Web.matchesEvidence spec (encode finding) (encode evidence) = true
  rule : Web.matchesRule spec (encode finding) (finding.evidenceRefs.map encode) = true

theorem presentation_isSome_iff (finding : Finding) :
    (Web.presentationForFinding (encode finding)).isSome = true ↔
      Presents (specOf finding.ruleId) finding := by
  have hrecord : Web.isRecord (encode finding) = true := rfl
  have hsome {c : Bool} {presentation : Web.FindingPresentation} :
      (if c = true then some presentation else none).isSome = true ↔ c = true := by
    cases c <;> simp
  rw [Web.presentationForFinding, find?_specs]
  dsimp only
  rw [hsome]
  simp only [hrecord, finding_evidenceRefs, Api.withItems, Bool.true_and, Bool.and_eq_true,
    matchesSpec_iff, List.length_map, beq_iff_eq, List.head?_map, Option.any_map,
    Option.any_eq_true, and_assoc]
  constructor
  · rintro ⟨hrow, hcount, ⟨evidence, hhead, hevidence⟩, hrule⟩
    exact ⟨hrow, hcount, ⟨evidence, hhead, hevidence⟩, hrule⟩
  · rintro ⟨hrow, hcount, ⟨evidence, hhead, hevidence⟩, hrule⟩
    exact ⟨hrow, hcount, ⟨evidence, hhead, hevidence⟩, hrule⟩

/-! The first fact of a row -/

section

variable {spec : Web.FindingSpec} {finding : Finding} {evidence : RuntimeEvidenceRef}

theorem matchesEvidence_of_fact
    (h : IsFreshFact evidence spec.evidence.version spec.evidence.provider spec.evidence.kind
      spec.evidence.assertionKind finding.subjectRef)
    (hkinds : spec.evidence.kinds = none) (habsent : Web.absentSlotRules.contains spec.ruleId = true)
    (hrule : spec.ruleId ≠ "runtime.declared_relationship_evidence_not_current") :
    Web.matchesEvidence spec (encode finding) (encode evidence) = true := by
  have hrecord : Web.isRecord (encode evidence) = true := rfl
  simp only [Web.matchesEvidence, hrecord, hasText, hkinds, habsent, hrule, if_true, if_false,
    Option.getD_none, List.any_cons, List.any_nil, evidence_version, evidence_provider,
    evidence_kind, evidence_assertionKind, evidence_providerSlot, evidence_freshness,
    evidence_subjectRef, finding_subjectRef, JavaScript.asNumber_num, asText_str, isNullish_slot,
    JavaScript.strictEqual_str, h.version, h.provider, h.kind, h.assertionKind, h.slot,
    h.freshness, h.subjectRef, beq_self_eq_true, Option.isNone_none, Bool.or_false, Bool.and_self]

theorem isSlot_some_slot {slot : Option ProviderSlot} {name : String}
    (h : slot.map ProviderSlot.wireName = some name) :
    Web.isSlot (some name) (slot.map fun slot => .str slot.wireName) = true := by
  obtain ⟨slot, rfl, rfl⟩ := Option.map_eq_some_iff.1 h
  simp [Web.isSlot]

theorem matchesEvidence_of_declaration {kinds freshness : List String}
    (h : IsDeclaration evidence kinds freshness finding.subjectRef)
    (hkinds : spec.evidence.kinds.getD [spec.evidence.kind] = kinds)
    (hspec : (spec.evidence.version, spec.evidence.provider, spec.evidence.assertionKind,
      spec.evidence.providerSlot) = (2, "systemd", "declared", some "systemd"))
    (habsent : Web.absentSlotRules.contains spec.ruleId = false)
    (hfreshness : freshness =
      if spec.ruleId = "runtime.declared_relationship_evidence_not_current" then
        ["stale", "timed_out"] else ["fresh"]) :
    Web.matchesEvidence spec (encode finding) (encode evidence) = true := by
  have hrecord : Web.isRecord (encode evidence) = true := rfl
  simp only [Prod.mk.injEq] at hspec
  obtain ⟨hversion, hprovider, hassertion, hslot⟩ := hspec
  have hkind := (any_hasText (evidence_kind evidence)).2 h.kind
  have hstate := h.freshness
  simp only [Web.matchesEvidence, hrecord, hkinds, hkind, hversion, hprovider, hassertion, hslot,
    habsent, Bool.false_eq_true, if_false]
  simp only [hasText, evidence_version, evidence_provider, evidence_assertionKind,
    evidence_providerSlot, evidence_freshness, evidence_subjectRef, finding_subjectRef,
    JavaScript.asNumber_num, asText_str, JavaScript.strictEqual_str, isSlot_some_slot h.slot,
    h.version, h.provider, h.assertionKind, h.subjectRef, beq_self_eq_true, Bool.true_and,
    Bool.and_true]
  split_ifs with hrule
  · rw [hfreshness, if_pos hrule] at hstate
    simpa using hstate
  · rw [hfreshness, if_neg hrule] at hstate
    simpa using hstate

end

/-! The facts of special rows -/

@[simp] theorem nonEmptyText_str (text : String) :
    Api.nonEmptyText (some (.str text)) = if text = "" then none else some text := by
  rw [Api.nonEmptyText, asText_str, Option.filter]
  by_cases h : text = ""
  · rw [if_pos h, h]
    rfl
  · have hlength : text.length ≠ 0 := fun hzero => h (String.length_eq_zero_iff.1 hzero)
    rw [if_neg h, if_pos (decide_eq_true (Nat.pos_of_ne_zero hlength))]

@[simp] theorem nonEmptyText_isSome (text : String) :
    (Api.nonEmptyText (some (.str text))).isSome = decide (text ≠ "") := by
  rw [nonEmptyText_str]
  split_ifs with h <;> simp [h]

theorem isCollected_iff {evidence : RuntimeEvidenceRef} :
    Web.isCollected (encode evidence) = true ↔ evidence.collectedAt ≤ Api.maxSafeInteger ∧
      evidence.providerRevision ≠ "" ∧ evidence.providerRevision ≠ collectionText evidence := by
  simp only [Web.isCollected, evidence_collectedAt, evidence_providerRevision,
    safeInteger_isSome, JavaScript.propertyText_num, nonEmptyText_str,
    Bool.and_eq_true, decide_eq_true_eq, collectionText]
  split_ifs with hempty
  · simp [hempty]
  · simp [hempty]

theorem isPortFact_of {finding : Finding} {evidence : RuntimeEvidenceRef}
    (h : IsFreshFact evidence 1 "docker" "docker_port_publication" "observed" finding.subjectRef) :
    Web.isPortFact (encode finding) isNullish (encode evidence) = true := by
  have hrecord : Web.isRecord (encode evidence) = true := rfl
  simp only [Web.isPortFact, hrecord, hasText, evidence_version, evidence_provider, evidence_kind,
    evidence_assertionKind, evidence_providerSlot, evidence_freshness, evidence_subjectRef,
    finding_subjectRef, JavaScript.asNumber_num, asText_str, isNullish_slot,
    JavaScript.strictEqual_str, h.version, h.provider, h.kind, h.assertionKind, h.slot,
    h.freshness, h.subjectRef, beq_self_eq_true, Option.isNone_none, Bool.and_self]

theorem isFreshComposeEvidence_of {evidence : RuntimeEvidenceRef} {subjectRef : String}
    (h : IsFreshFact evidence 1 "docker" "docker_compose_depends_on" "observed" subjectRef)
    (hid : evidence.id ≠ "") (hsummary : evidence.summary = Web.composeDeclarationEvidenceSummary)
    (hcollected : Web.isCollected (encode evidence) = true) :
    Web.isFreshComposeEvidence (encode evidence) (some (.str subjectRef)) = true := by
  have hrecord : Web.isRecord (encode evidence) = true := rfl
  simp only [Web.isFreshComposeEvidence, hrecord, hasText, evidence_version, evidence_provider,
    evidence_kind, evidence_assertionKind, evidence_providerSlot, evidence_freshness,
    evidence_subjectRef, evidence_id, evidence_summary, JavaScript.asNumber_num, asText_str,
    isNullish_slot, nonEmptyText_str, hid, if_false, Option.isSome_some,
    JavaScript.strictEqual_str, h.version, h.provider, h.kind, h.assertionKind, h.slot,
    h.freshness, h.subjectRef, hsummary, hcollected, beq_self_eq_true, Option.isNone_none,
    Bool.and_self]

theorem isV6BindingEvidence_of {finding : Finding} {evidence : RuntimeEvidenceRef}
    {provider kind assertionKind summary idPrefix digest : String}
    (h : IsFreshFact evidence 6 provider kind assertionKind finding.subjectRef)
    (hid : evidence.id = idPrefix ++ "_" ++ digest) (hsummary : evidence.summary = summary)
    (hcollected : Web.isCollected (encode evidence) = true) :
    Web.isV6BindingEvidence (encode finding) (encode evidence) provider kind assertionKind summary
      idPrefix digest = true := by
  have hrecord : Web.isRecord (encode evidence) = true := rfl
  simp only [Web.isV6BindingEvidence, hrecord, hasText, evidence_version, evidence_provider,
    evidence_kind, evidence_assertionKind, evidence_providerSlot, evidence_freshness,
    evidence_subjectRef, evidence_id, evidence_summary, finding_subjectRef,
    JavaScript.asNumber_num, asText_str, isNullish_slot, JavaScript.strictEqual_str, h.version,
    h.provider, h.kind, h.assertionKind, h.slot, h.freshness, h.subjectRef, hid, hsummary,
    hcollected, beq_self_eq_true, Option.isNone_none, Bool.and_self]

theorem fromOneCollection_iff {evidence other : RuntimeEvidenceRef} :
    Api.fromOneCollection (encode evidence) (encode other) = true ↔
      Binary64.ofNat evidence.collectedAt = Binary64.ofNat other.collectedAt ∧
        evidence.providerRevision = other.providerRevision := by
  simp only [Api.fromOneCollection, evidence_collectedAt, evidence_providerRevision,
    JavaScript.strictEqual_num, JavaScript.strictEqual_str, Bool.and_eq_true, beq_iff_eq]

theorem web_fromOneCollection_iff {evidence other : RuntimeEvidenceRef} :
    Web.fromOneCollection (encode evidence) (encode other) = true ↔
      Binary64.ofNat evidence.collectedAt = Binary64.ofNat other.collectedAt ∧
        evidence.providerRevision = other.providerRevision := fromOneCollection_iff

section

variable (finding evidence other : Json)

theorem matchesRule_unspecifiedAddressPort :
    Web.matchesRule Web.unspecifiedAddressPortSpec finding [evidence] =
      (hasText evidence "summary" Web.unspecifiedAddressPublicationEvidenceSummary &&
        Web.isCollected evidence) := rfl

theorem matchesRule_identityCollision :
    Web.matchesRule Web.identityCollisionSpec finding [evidence] =
      (hasText evidence "id" "dockermap_evidence_runtime_identity_collision" &&
        hasText evidence "summary" Web.runtimeIdentityCollisionEvidenceSummary &&
        Web.isCollected evidence &&
        (asText (evidence.field? "providerRevision")).any Api.isIntegrityRevision) := rfl

theorem matchesRule_daemonStatePort :
    Web.matchesRule Web.daemonStatePortSpec finding [evidence, other] =
      (Web.isPortFact finding isNullish other && Web.fromOneCollection other evidence) := rfl

theorem matchesRule_mutualDependency :
    Web.matchesRule Web.mutualDependencySpec finding [evidence, other] =
      (Web.isFreshComposeEvidence evidence (finding.field? "subjectRef") &&
        Web.isFreshComposeEvidence other (finding.field? "targetRef") &&
        Web.fromOneCollection evidence other) := rfl

theorem matchesRule_declaredMount :
    Web.matchesRule Web.declaredMountSpec finding [evidence, other] =
      (Web.composeMountFindingDigest (finding.field? "id")).any fun digest =>
        Web.isOpaqueComposeRuntimeBindingId (finding.field? "subjectRef") &&
          Web.sameRefs finding &&
          Web.isV6BindingEvidence finding evidence "compose" "compose_declared_mount" "declared"
            "Compose declared a mount for the bound service" "compose_declared_mount" digest &&
          Web.isV6BindingEvidence finding other "docker" "docker_compose_runtime_binding"
            "observed" "Docker confirmed an exact Compose project, service, and config binding"
            "docker_compose_runtime_binding" digest &&
          Web.fromOneCollection evidence other := rfl

end

/-! What acceptance says of a finding -/

section

variable {finding : Finding}

theorem matches_iff {text : Api.FindingText} : text.matches (encode finding) = true ↔
    finding.severity.wireName = text.severity ∧ finding.summary = text.summary ∧
      finding.recommendation = text.recommendation := by
  simp only [Api.FindingText.matches, hasText, finding_severity, finding_summary,
    finding_recommendation, asText_str, Bool.and_eq_true, beq_iff_eq, Option.some.injEq, and_assoc]

theorem withOne_refs {test : Json → Bool} (h : Api.withOne (some (.arr
    (finding.evidenceRefs.map encode))) test = true) :
    ∃ evidence, finding.evidenceRefs = [evidence] ∧ test (encode evidence) = true := by
  match hrefs : finding.evidenceRefs with
  | [] => simp [hrefs, Api.withOne] at h
  | [evidence] => exact ⟨evidence, rfl, by simpa [hrefs, Api.withOne] using h⟩
  | _ :: _ :: _ => simp [hrefs, Api.withOne] at h

theorem withPair_refs {test : Json → Json → Bool} (h : Api.withPair (some (.arr
    (finding.evidenceRefs.map encode))) test = true) :
    ∃ evidence other, finding.evidenceRefs = [evidence, other] ∧
      test (encode evidence) (encode other) = true := by
  match hrefs : finding.evidenceRefs with
  | [] => simp [hrefs, Api.withPair] at h
  | [_] => simp [hrefs, Api.withPair] at h
  | [evidence, other] => exact ⟨evidence, other, rfl, by simpa [hrefs, Api.withPair] using h⟩
  | _ :: _ :: _ :: _ => simp [hrefs, Api.withPair] at h

theorem hasPairId_iff {idPrefix : String} : Api.hasPairId (encode finding) idPrefix = true ↔
    finding.id = idPrefix ++ pairIdentity finding.subjectRef finding.targetRef := by
  simp only [Api.hasPairId, finding_subjectRef, finding_targetRef, finding_id, asText_str,
    Option.any_some, component_agrees, ← codeUnits_append, beq_iff_eq,
    JavaScript.codeUnits_injective.eq_iff, pairIdentity]

theorem startsWith_append (word rest : String) :
    startsWith (word ++ rest).toList word.toList = true := by
  rw [startsWith, decide_eq_true_eq, String.toList_append]
  exact List.prefix_append _ _

end

/-! Publishing a row -/

/-- The boundary shows the references of the finding as they are. -/
structure Legible (toLowerCase : String → String) (finding : Finding) : Prop where
  id : Api.isSensitiveText toLowerCase finding.id = false
  subject : Api.publishDisplayText toLowerCase finding.subjectRef = finding.subjectRef
  target : Api.publishDisplayText toLowerCase finding.targetRef = finding.targetRef

section

variable {toLowerCase : String → String} {finding : Finding}

/-- The row's conditions on the finding itself survive publication. -/
theorem rowMatches_publish (htable : LowersByTable toLowerCase)
    (hlegible : Legible toLowerCase finding) {spec : Web.FindingSpec} (hplain : PlainRow spec)
    {text : Api.FindingText} (htext : text.matches (encode finding) = true)
    (hsame : (text.severity, text.summary, text.recommendation) =
      (spec.severity, spec.summary, spec.recommendation))
    (hid : startsWith finding.id.toList spec.idPrefix.toList = true)
    (hsubject : startsWith finding.subjectRef.toList spec.subjectPrefix.toList = true)
    (htargetPrefix : ∀ word ∈ spec.targetPrefix,
      startsWith finding.targetRef.toList word.toList = true)
    (htargetRef : ∀ text ∈ spec.targetRef, finding.targetRef = text)
    (hrefs : spec.ruleId ≠ "compose.declared_mount_missing_at_bound_container" →
      finding.subjectRef ≠ finding.targetRef)
    (hcollision : spec.ruleId = "runtime.identity_collision_detected" →
      finding.id = "finding_runtime_identity_collision_detected" ∧
        finding.subjectRef = "runtime_integrity_scope")
    (hdirection : spec.ruleId = "docker.compose_mutual_dependency" →
      textLess finding.subjectRef finding.targetRef = true) :
    RowMatches spec (publishFinding toLowerCase finding) := by
  obtain ⟨hseverity, hsummary, hrecommendation⟩ := matches_iff.1 htext
  simp only [Prod.mk.injEq] at hsame
  obtain ⟨hsameSeverity, hsameSummary, hsameRecommendation⟩ := hsame
  unfold publishFinding
  refine ⟨hseverity.trans hsameSeverity, ?_, ?_, ?_, ?_, ?_, ?_, ?_, ?_, ?_⟩ <;> dsimp only
  · rw [hsummary, hsameSummary, publish_plain htable hplain.summary]
  · rw [hrecommendation, hsameRecommendation, publish_plain htable hplain.recommendation]
  · rw [startsWith_publish hplain.idPrefix hlegible.id, hid]
  · rw [hlegible.subject, hsubject]
  · rw [hlegible.target]
    exact htargetPrefix
  · rw [hlegible.target]
    exact htargetRef
  · rw [hlegible.subject, hlegible.target]
    exact hrefs
  · intro hrule
    obtain ⟨hid, hsubject⟩ := hcollision hrule
    rw [hlegible.subject, hid]
    exact ⟨publish_plain htable (isPlain_ofList (by decide +kernel)), hsubject⟩
  · rw [hlegible.subject, hlegible.target]
    exact hdirection

theorem presents_one {spec : Web.FindingSpec} {evidence : RuntimeEvidenceRef}
    (hrow : RowMatches spec (publishFinding toLowerCase finding))
    (hrefs : finding.evidenceRefs = [evidence]) (hcount : spec.evidenceCount = 1)
    (hevidence : Web.matchesEvidence spec (encode (publishFinding toLowerCase finding))
      (encode (publishEvidenceRef toLowerCase evidence)) = true)
    (hrule : Web.matchesRule spec (encode (publishFinding toLowerCase finding))
      [encode (publishEvidenceRef toLowerCase evidence)] = true) :
    Presents spec (publishFinding toLowerCase finding) := by
  have hpublished : (publishFinding toLowerCase finding).evidenceRefs =
      [publishEvidenceRef toLowerCase evidence] := by
    unfold publishFinding
    rw [hrefs, List.map_cons, List.map_nil]
  refine ⟨hrow, ?_, ⟨publishEvidenceRef toLowerCase evidence, ?_, hevidence⟩, ?_⟩
  · rw [hpublished, hcount, List.length_singleton]
  · rw [hpublished, List.head?_cons, Option.mem_def]
  · rwa [hpublished]

theorem presents_two {spec : Web.FindingSpec} {evidence other : RuntimeEvidenceRef}
    (hrow : RowMatches spec (publishFinding toLowerCase finding))
    (hrefs : finding.evidenceRefs = [evidence, other]) (hcount : spec.evidenceCount = 2)
    (hevidence : Web.matchesEvidence spec (encode (publishFinding toLowerCase finding))
      (encode (publishEvidenceRef toLowerCase evidence)) = true)
    (hrule : Web.matchesRule spec (encode (publishFinding toLowerCase finding))
      [encode (publishEvidenceRef toLowerCase evidence),
        encode (publishEvidenceRef toLowerCase other)] = true) :
    Presents spec (publishFinding toLowerCase finding) := by
  have hpublished : (publishFinding toLowerCase finding).evidenceRefs =
      [publishEvidenceRef toLowerCase evidence, publishEvidenceRef toLowerCase other] := by
    unfold publishFinding
    rw [hrefs, List.map_cons, List.map_cons, List.map_nil]
  refine ⟨hrow, ?_, ⟨publishEvidenceRef toLowerCase evidence, ?_, hevidence⟩, ?_⟩
  · rw [hpublished, hcount, List.length_cons, List.length_singleton]
  · rw [hpublished, List.head?_cons, Option.mem_def]
  · rwa [hpublished]

/-! The rules -/

theorem publish_subjectRef : (publishFinding toLowerCase finding).subjectRef =
    Api.publishDisplayText toLowerCase finding.subjectRef := by
  unfold publishFinding
  rfl

/-- A row about one fact of a collector without a slot. -/
theorem matchesEvidence_publish {spec : Web.FindingSpec} {evidence : RuntimeEvidenceRef}
    (h : IsFreshFact evidence spec.evidence.version spec.evidence.provider spec.evidence.kind
      spec.evidence.assertionKind finding.subjectRef)
    (hkinds : spec.evidence.kinds = none) (habsent : Web.absentSlotRules.contains spec.ruleId = true)
    (hrule : spec.ruleId ≠ "runtime.declared_relationship_evidence_not_current") :
    Web.matchesEvidence spec (encode (publishFinding toLowerCase finding))
      (encode (publishEvidenceRef toLowerCase evidence)) = true := by
  refine matchesEvidence_of_fact ?_ hkinds habsent hrule
  rw [publish_subjectRef]
  exact h.publish

theorem presents_declaredTarget (htable : LowersByTable toLowerCase)
    (hlegible : Legible toLowerCase finding)
    (h : Api.isComposeDeclaredTargetFinding (encode finding) = true) :
    Presents Web.declaredTargetSpec (publishFinding toLowerCase finding) := by
  simp only [Api.isComposeDeclaredTargetFinding, Api.joinsPrefixes, Api.differingRefs,
    finding_subjectRef, finding_targetRef, finding_evidenceRefs, startsText_str,
    JavaScript.strictEqual_str, hasPairId_iff, Bool.and_eq_true, Bool.not_eq_true',
    beq_eq_false_iff_ne] at h
  obtain ⟨⟨⟨⟨htext, hsubject, htarget⟩, hne⟩, hid⟩, hevidence⟩ := h
  obtain ⟨evidence, hrefs, hfact⟩ := withOne_refs hevidence
  simp only [Api.isFreshDockerEvidence, Bool.and_eq_true, isFreshFact_iff] at hfact
  refine presents_one (rowMatches_publish htable hlegible
      (plainRow_specOf .dockerComposeDeclaredTargetNotActive) htext rfl ?_ hsubject ?_ ?_
      (fun _ => hne) ?_ ?_) hrefs rfl (matchesEvidence_publish hfact.1 rfl (by decide) (by decide))
      rfl
  · rw [hid]
    exact startsWith_append _ _
  · rintro _ ⟨⟩
    exact htarget
  · nofun
  · exact fun hrule => absurd hrule (by decide)
  · exact fun hrule => absurd hrule (by decide)

/-- A row about one systemd declaration. -/
structure DeclarationRow (spec : Web.FindingSpec) (kinds freshness : List String) : Prop where
  subjectPrefix : spec.subjectPrefix = "systemd_service_"
  targetPrefix : spec.targetPrefix = some "systemd_service_"
  targetRef : spec.targetRef = none
  count : spec.evidenceCount = 1
  evidence : (spec.evidence.version, spec.evidence.provider, spec.evidence.assertionKind,
    spec.evidence.providerSlot) = (2, "systemd", "declared", some "systemd")
  kinds : spec.evidence.kinds.getD [spec.evidence.kind] = kinds
  freshness : freshness =
    if spec.ruleId = "runtime.declared_relationship_evidence_not_current" then
      ["stale", "timed_out"] else ["fresh"]
  absent : Web.absentSlotRules.contains spec.ruleId = false
  collision : spec.ruleId ≠ "runtime.identity_collision_detected"
  direction : spec.ruleId ≠ "docker.compose_mutual_dependency"
  rule : ∀ json refs, Web.matchesRule spec json refs = true

theorem presents_declaration (htable : LowersByTable toLowerCase)
    (hlegible : Legible toLowerCase finding) {spec : Web.FindingSpec} {text : Api.FindingText}
    {kinds freshness : List String} {evidence : RuntimeEvidenceRef}
    (hspec : DeclarationRow spec kinds freshness) (hplain : PlainRow spec)
    (htext : text.matches (encode finding) = true)
    (hsame : (text.severity, text.summary, text.recommendation) =
      (spec.severity, spec.summary, spec.recommendation))
    (hid : startsWith finding.id.toList spec.idPrefix.toList = true)
    (hsubject : startsWith finding.subjectRef.toList "systemd_service_".toList = true)
    (htarget : startsWith finding.targetRef.toList "systemd_service_".toList = true)
    (hne : finding.subjectRef ≠ finding.targetRef) (hrefs : finding.evidenceRefs = [evidence])
    (hdeclaration : IsDeclaration evidence kinds freshness finding.subjectRef) :
    Presents spec (publishFinding toLowerCase finding) := by
  have hrow : RowMatches spec (publishFinding toLowerCase finding) := by
    refine rowMatches_publish htable hlegible hplain htext hsame hid ?_ ?_ ?_ (fun _ => hne)
      (fun hrule => absurd hrule hspec.collision) (fun hrule => absurd hrule hspec.direction)
    · rw [hspec.subjectPrefix]
      exact hsubject
    · rw [hspec.targetPrefix]
      rintro _ ⟨⟩
      exact htarget
    · rw [hspec.targetRef]
      nofun
  refine presents_one hrow hrefs hspec.count ?_ (hspec.rule _ _)
  refine matchesEvidence_of_declaration ?_ hspec.kinds hspec.evidence hspec.absent hspec.freshness
  rw [publish_subjectRef]
  exact hdeclaration.publish

theorem presents_systemd (htable : LowersByTable toLowerCase)
    (hlegible : Legible toLowerCase finding) {spec : Web.FindingSpec} {text : Api.FindingText}
    {idPrefix kind : String} (h : Api.isSystemdFinding (encode finding) text idPrefix kind = true)
    (hspec : DeclarationRow spec [kind] ["fresh"]) (hplain : PlainRow spec)
    (hsame : (text.severity, text.summary, text.recommendation) =
      (spec.severity, spec.summary, spec.recommendation)) (hpre : idPrefix = spec.idPrefix) :
    Presents spec (publishFinding toLowerCase finding) := by
  simp only [Api.isSystemdFinding, Api.joinsPrefixes, Api.differingRefs, finding_id,
    finding_subjectRef, finding_targetRef, finding_evidenceRefs, startsText_str,
    JavaScript.strictEqual_str, Bool.and_eq_true, Bool.not_eq_true', beq_eq_false_iff_ne] at h
  obtain ⟨⟨⟨⟨htext, hid⟩, hsubject, htarget⟩, hne⟩, hevidence⟩ := h
  obtain ⟨evidence, hrefs, hdeclaration⟩ := withOne_refs hevidence
  exact presents_declaration htable hlegible hspec hplain htext hsame (hpre ▸ hid) hsubject
    htarget hne hrefs (isDeclaration_of hdeclaration)

theorem presents_requires (htable : LowersByTable toLowerCase)
    (hlegible : Legible toLowerCase finding)
    (h : Api.isSystemdRequiresFinding (encode finding) = true) :
    Presents Web.requiresSpec (publishFinding toLowerCase finding) :=
  presents_systemd htable hlegible h
    ⟨rfl, rfl, rfl, rfl, rfl, rfl, rfl, by decide, by decide, by decide, fun _ _ => rfl⟩
    (plainRow_specOf .systemdRequiresTargetNotActive) rfl rfl

theorem presents_partOf (htable : LowersByTable toLowerCase)
    (hlegible : Legible toLowerCase finding)
    (h : Api.isSystemdPartOfFinding (encode finding) = true) :
    Presents Web.partOfSpec (publishFinding toLowerCase finding) :=
  presents_systemd htable hlegible h
    ⟨rfl, rfl, rfl, rfl, rfl, rfl, rfl, by decide, by decide, by decide, fun _ _ => rfl⟩
    (plainRow_specOf .systemdPartOfTargetNotActive) rfl rfl

theorem presents_notCurrent (htable : LowersByTable toLowerCase)
    (hlegible : Legible toLowerCase finding)
    (h : Api.isDeclaredRelationshipFinding (encode finding) = true) :
    Presents Web.notCurrentSpec (publishFinding toLowerCase finding) := by
  simp only [Api.isDeclaredRelationshipFinding, Api.joinsPrefixes, Api.differingRefs,
    finding_subjectRef, finding_targetRef, finding_evidenceRefs, startsText_str,
    JavaScript.strictEqual_str, hasPairId_iff, Bool.and_eq_true, Bool.not_eq_true',
    beq_eq_false_iff_ne] at h
  obtain ⟨⟨⟨⟨htext, hsubject, htarget⟩, hne⟩, hid⟩, hevidence⟩ := h
  obtain ⟨evidence, hrefs, hdeclaration⟩ := withOne_refs hevidence
  refine presents_declaration htable hlegible
    ⟨rfl, rfl, rfl, rfl, rfl, rfl, rfl, by decide, by decide, by decide, fun _ _ => rfl⟩
    (plainRow_specOf .runtimeDeclaredRelationshipEvidenceNotCurrent) htext rfl ?_ hsubject htarget
    hne hrefs (isDeclaration_of hdeclaration)
  rw [hid]
  exact startsWith_append _ _

theorem isCollected_publish {evidence : RuntimeEvidenceRef}
    (hsafe : evidence.collectedAt ≤ Api.maxSafeInteger) (hne : evidence.providerRevision ≠ "")
    (hrevision : evidence.providerRevision ≠ collectionText evidence) :
    Web.isCollected (encode (publishEvidenceRef toLowerCase evidence)) = true := by
  rw [isCollected_iff]
  unfold publishEvidenceRef
  exact ⟨hsafe, publish_ne_empty hne, fun heq => hrevision (eq_numberText_of_publish heq)⟩

/-- A plain text of the evidence is read as it is. -/
theorem publish_evidence_summary (htable : LowersByTable toLowerCase)
    {evidence : RuntimeEvidenceRef} {text : String} (h : evidence.summary = text)
    (hplain : isPlain text = true) :
    (publishEvidenceRef toLowerCase evidence).summary = text := by
  unfold publishEvidenceRef
  rw [h, publish_plain htable hplain]

theorem publish_evidence_id (htable : LowersByTable toLowerCase)
    {evidence : RuntimeEvidenceRef} {text : String} (h : evidence.id = text)
    (hplain : isPlain text = true) : (publishEvidenceRef toLowerCase evidence).id = text := by
  unfold publishEvidenceRef
  rw [h, publish_plain htable hplain]

theorem publish_providerRevision {evidence : RuntimeEvidenceRef} :
    (publishEvidenceRef toLowerCase evidence).providerRevision =
      Api.publishDisplayText toLowerCase evidence.providerRevision := by
  unfold publishEvidenceRef
  rfl

/-- A container is none of the risks of the host. -/
theorem ne_of_starts {text other : String} (h : startsWith text.toList "docker_container_".toList =
    true) (hother : startsWith other.toList "docker_container_".toList = false) : text ≠ other := by
  rintro rfl
  rw [h] at hother
  cases hother

theorem presents_unspecifiedAddressPort (htable : LowersByTable toLowerCase)
    (hlegible : Legible toLowerCase finding)
    (h : Api.isUnspecifiedAddressPortFinding (encode finding) = true) :
    Presents Web.unspecifiedAddressPortSpec (publishFinding toLowerCase finding) := by
  simp only [Api.isUnspecifiedAddressPortFinding, hasText, finding_id, finding_subjectRef,
    finding_targetRef, finding_evidenceRefs, startsText_str, asText_str, Bool.and_eq_true,
    beq_iff_eq, Option.some.injEq] at h
  obtain ⟨⟨⟨⟨htext, hid⟩, hsubject⟩, htarget⟩, hevidence⟩ := h
  obtain ⟨evidence, hrefs, hfact⟩ := withOne_refs hevidence
  simp only [Api.isFreshDockerEvidence, isFreshFact_iff, hasText, Api.isNonEmptyRevision,
    evidence_summary, evidence_collectedAt, evidence_providerRevision, safeInteger_isSome,
    nonEmptyText_isSome, asText_str, Bool.and_eq_true, beq_iff_eq, Option.some.injEq,
    decide_eq_true_eq] at hfact
  obtain ⟨⟨⟨hfresh, hsummary⟩, hsafe⟩, hrevision⟩ := hfact
  refine presents_one (rowMatches_publish htable hlegible
      (plainRow_specOf .dockerPortPublishedOnUnspecifiedAddress) htext rfl hid hsubject nofun ?_
      (fun _ => ?_) ?_ ?_) hrefs rfl (matchesEvidence_publish hfresh rfl (by decide) (by decide)) ?_
  · rintro _ ⟨⟩
    exact htarget
  · rw [htarget]
    exact ne_of_starts hsubject (by decide)
  · exact fun hrule => absurd hrule (by decide)
  · exact fun hrule => absurd hrule (by decide)
  · rw [matchesRule_unspecifiedAddressPort, hasText, evidence_summary,
      publish_evidence_summary htable hsummary (isPlain_ofList (by decide +kernel)),
      isCollected_publish hsafe hrevision hfresh.revision]
    rfl

theorem presents_identityCollision (htable : LowersByTable toLowerCase)
    (hlegible : Legible toLowerCase finding)
    (h : Api.isRuntimeIdentityCollisionFinding (encode finding) = true) :
    Presents Web.identityCollisionSpec (publishFinding toLowerCase finding) := by
  simp only [Api.isRuntimeIdentityCollisionFinding, hasText, finding_id, finding_subjectRef,
    finding_targetRef, finding_evidenceRefs, asText_str, Bool.and_eq_true,
    beq_iff_eq, Option.some.injEq] at h
  obtain ⟨⟨⟨⟨htext, hid⟩, hsubject⟩, htarget⟩, hevidence⟩ := h
  obtain ⟨evidence, hrefs, hfact⟩ := withOne_refs hevidence
  simp only [isFreshFact_iff, evidence_id, evidence_summary, evidence_collectedAt,
    evidence_providerRevision, safeInteger_isSome, asText_str, Option.any_some, Bool.and_eq_true,
    beq_iff_eq, Option.some.injEq, decide_eq_true_eq] at hfact
  obtain ⟨⟨⟨⟨hfresh, hevidenceId⟩, hsummary⟩, hsafe⟩, hrevision⟩ := hfact
  have hne : evidence.providerRevision ≠ "" := by
    rintro hempty
    rw [hempty] at hrevision
    cases hrevision
  have hplain := isPlain_of_integrityRevision hrevision
  refine presents_one (rowMatches_publish htable hlegible
      (plainRow_specOf .runtimeIdentityCollisionDetected) htext rfl ?_ ?_ nofun ?_
      (fun _ => ?_) (fun _ => ⟨hid, hsubject⟩) ?_) hrefs rfl
      (matchesEvidence_publish hfresh rfl (by decide) (by decide)) ?_
  · rw [hid]
    decide +kernel
  · rw [hsubject]
    decide +kernel
  · rintro _ ⟨⟩
    exact htarget
  · rw [hsubject, htarget]
    decide
  · exact fun hrule => absurd hrule (by decide)
  · rw [matchesRule_identityCollision, hasText, hasText, evidence_id, evidence_summary,
      evidence_providerRevision, publish_evidence_id htable hevidenceId
        (isPlain_ofList (by decide +kernel)),
      publish_evidence_summary htable hsummary (isPlain_ofList (by decide +kernel)),
      isCollected_publish hsafe hne hfresh.revision]
    rw [publish_providerRevision, publish_plain htable hplain]
    simp only [asText_str, Option.any_some, hrevision]
    rfl

/-- Two facts of one collection stay facts of one collection. -/
theorem fromOneCollection_publish {evidence other : RuntimeEvidenceRef}
    (h : Api.fromOneCollection (encode evidence) (encode other) = true) :
    Web.fromOneCollection (encode (publishEvidenceRef toLowerCase evidence))
      (encode (publishEvidenceRef toLowerCase other)) = true := by
  obtain ⟨htime, hrevision⟩ := fromOneCollection_iff.1 h
  rw [web_fromOneCollection_iff, publish_providerRevision, publish_providerRevision, hrevision]
  unfold publishEvidenceRef
  exact ⟨htime, rfl⟩

theorem fromOneCollection_comm {evidence other : RuntimeEvidenceRef}
    (h : Api.fromOneCollection (encode evidence) (encode other) = true) :
    Api.fromOneCollection (encode other) (encode evidence) = true := by
  obtain ⟨htime, hrevision⟩ := fromOneCollection_iff.1 h
  exact fromOneCollection_iff.2 ⟨htime.symm, hrevision.symm⟩

theorem presents_daemonStatePort (htable : LowersByTable toLowerCase)
    (hlegible : Legible toLowerCase finding)
    (h : Api.isDaemonStatePublishedPortFinding (encode finding) = true) :
    Presents Web.daemonStatePortSpec (publishFinding toLowerCase finding) := by
  simp only [Api.isDaemonStatePublishedPortFinding, hasText, finding_subjectRef,
    finding_targetRef, finding_evidenceRefs, startsText_str, asText_str, hasPairId_iff,
    Bool.and_eq_true, beq_iff_eq, Option.some.injEq] at h
  obtain ⟨⟨⟨⟨htext, hsubject⟩, htarget⟩, hid⟩, hevidence⟩ := h
  obtain ⟨evidence, port, hrefs, hfacts⟩ := withPair_refs hevidence
  simp only [Api.isFreshDockerEvidence, isFreshFact_iff, Bool.and_eq_true] at hfacts
  obtain ⟨⟨⟨hfresh, -⟩, hport, -⟩, hone⟩ := hfacts
  refine presents_two (rowMatches_publish htable hlegible
      (plainRow_specOf .dockerDaemonStateBindMountPublishesPort) htext rfl ?_ hsubject nofun ?_
      (fun _ => ?_) ?_ ?_) hrefs rfl (matchesEvidence_publish hfresh rfl (by decide) (by decide)) ?_
  · rw [hid]
    exact startsWith_append _ _
  · rintro _ ⟨⟩
    exact htarget
  · rw [htarget]
    exact ne_of_starts hsubject (by decide)
  · exact fun hrule => absurd hrule (by decide)
  · exact fun hrule => absurd hrule (by decide)
  · have hpublished := @IsFreshFact.publish toLowerCase _ _ _ _ _ _ hport
    rw [← publish_subjectRef] at hpublished
    rw [matchesRule_daemonStatePort, isPortFact_of hpublished,
      fromOneCollection_publish (fromOneCollection_comm hone)]
    rfl

/-- What the browser asks of the evidence of a mutual dependency beyond the boundary. -/
structure IsDatable (evidence : RuntimeEvidenceRef) : Prop where
  id : evidence.id ≠ ""
  revision : evidence.providerRevision ≠ ""
  collected : evidence.collectedAt ≤ Api.maxSafeInteger

theorem isFreshComposeEvidence_publish (htable : LowersByTable toLowerCase)
    {evidence : RuntimeEvidenceRef} {subjectRef : String}
    (h : Api.isCanonicalComposeEvidence (encode evidence) (some (.str subjectRef)) = true)
    (hdatable : IsDatable evidence) :
    Web.isFreshComposeEvidence (encode (publishEvidenceRef toLowerCase evidence))
      (some (.str (Api.publishDisplayText toLowerCase subjectRef))) = true := by
  simp only [Api.isCanonicalComposeEvidence, Api.isFreshDockerEvidence, isFreshFact_iff, hasText,
    evidence_summary, asText_str, Bool.and_eq_true, beq_iff_eq, Option.some.injEq] at h
  obtain ⟨⟨hfresh, hsummary⟩, -⟩ := h
  have hid : (publishEvidenceRef toLowerCase evidence).id ≠ "" := by
    unfold publishEvidenceRef
    exact publish_ne_empty hdatable.id
  exact isFreshComposeEvidence_of hfresh.publish hid
    (publish_evidence_summary htable hsummary (isPlain_ofList (by decide +kernel)))
    (isCollected_publish hdatable.collected hdatable.revision hfresh.revision)

theorem presents_mutualDependency (htable : LowersByTable toLowerCase)
    (hlegible : Legible toLowerCase finding)
    (hdatable : ∀ evidence ∈ finding.evidenceRefs, IsDatable evidence)
    (h : Api.isComposeMutualDependencyFinding (encode finding) = true) :
    Presents Web.mutualDependencySpec (publishFinding toLowerCase finding) := by
  simp only [Api.isComposeMutualDependencyFinding, Api.joinsPrefixes, Api.inTextOrder,
    finding_subjectRef, finding_targetRef, finding_evidenceRefs, startsText_str, asText_str,
    Option.any_some, hasPairId_iff, Bool.and_eq_true] at h
  obtain ⟨⟨⟨⟨htext, hsubject, htarget⟩, horder⟩, hid⟩, hevidence⟩ := h
  obtain ⟨evidence, other, hrefs, hfacts⟩ := withPair_refs hevidence
  rw [Bool.and_eq_true, Bool.and_eq_true] at hfacts
  obtain ⟨⟨hforward, hreverse⟩, hone⟩ := hfacts
  have hfresh : IsFreshFact evidence 1 "docker" "docker_compose_depends_on" "observed"
      finding.subjectRef := by
    simp only [Api.isCanonicalComposeEvidence, Api.isFreshDockerEvidence, isFreshFact_iff,
      Bool.and_eq_true] at hforward
    exact hforward.1.1
  have hne : finding.subjectRef ≠ finding.targetRef := by
    intro heq
    rw [heq] at horder
    exact absurd horder (by simp [textLess])
  refine presents_two (rowMatches_publish htable hlegible
      (plainRow_specOf .dockerComposeMutualDependency) htext rfl ?_ hsubject ?_ nofun
      (fun _ => hne) ?_ fun _ => horder) hrefs rfl
      (matchesEvidence_publish hfresh rfl (by decide) (by decide)) ?_
  · rw [hid]
    exact startsWith_append _ _
  · rintro _ ⟨⟩
    exact htarget
  · exact fun hrule => absurd hrule (by decide)
  · have hpublishedTarget : (publishFinding toLowerCase finding).targetRef =
        Api.publishDisplayText toLowerCase finding.targetRef := by
      unfold publishFinding
      rfl
    rw [matchesRule_mutualDependency, finding_subjectRef, finding_targetRef, publish_subjectRef,
      hpublishedTarget,
      isFreshComposeEvidence_publish htable hforward (hdatable evidence (by simp [hrefs])),
      isFreshComposeEvidence_publish htable hreverse (hdatable other (by simp [hrefs])),
      fromOneCollection_publish hone]
    rfl

/-! Digests -/

/-- A word to put before a digest. -/
def isStem (word : String) : Bool :=
  word.toList.all isSlugCharacter && word.toList.count '-' == 0 &&
    !testMarker.isInfixOf_internal (asciiLower word.toList)

theorem isPlain_append_digest {word digest : String} (hword : isStem word = true)
    (hdigest : ∀ c ∈ digest.toList, isLowerHex c = true) : isPlain (word ++ digest) = true := by
  simp only [isStem, Bool.and_eq_true, List.all_eq_true, beq_iff_eq, Bool.not_eq_true',
    Bool.eq_false_iff, ne_eq, List.isInfixOf_internal_iff_isInfix] at hword
  obtain ⟨⟨hslug, hdashes⟩, hmarker⟩ := hword
  refine isPlain_of_slug ?_ ?_ ?_ <;> rw [String.toList_append]
  · intro c hc
    rcases List.mem_append.1 hc with hc | hc
    · exact hslug c hc
    · exact (hexCharacter (Or.inl (hdigest c hc))).1
  · rw [List.count_append, hdashes, count_dash_of_hex hdigest]
    exact Nat.zero_le 1
  · exact fun hin => hmarker (marker_of_hex (fun c hc => Or.inl (hdigest c hc)) hin)

theorem hex_sha256 (value : String) : ∀ c ∈ (Sha256.hex value).toList, isLowerHex c = true := by
  have hdigit : ∀ d < 16, isLowerHex (Nat.digitChar d) = true := by decide
  intro c hc
  obtain ⟨d, hd, rfl⟩ := Sha256.mem_hex hc
  exact hdigit d hd

theorem digestAfter_eq_some {word text digest : String} :
    Api.digestAfter word (some (.str text)) = some digest ↔
      text = word ++ digest ∧ digest.toList.length = 64 ∧
        ∀ c ∈ digest.toList, isLowerHex c = true := by
  rw [Api.digestAfter, asText_str, Option.bind_some]
  simp only [Option.ite_none_right_eq_some, Bool.and_eq_true, beq_iff_eq, List.all_eq_true,
    startsWith, decide_eq_true_eq, Option.some.injEq]
  constructor
  · rintro ⟨⟨⟨hpre, hlength⟩, hhex⟩, rfl⟩
    rw [String.toList_ofList]
    refine ⟨String.toList_injective ?_, hlength, hhex⟩
    obtain ⟨rest, hrest⟩ := hpre
    rw [String.toList_append, String.toList_ofList, ← hrest, ← String.length_toList,
      List.drop_left]
  · rintro ⟨rfl, hlength, hhex⟩
    rw [String.toList_append, ← String.length_toList, List.drop_left, String.ofList_toList]
    exact ⟨⟨⟨List.prefix_append _ _, hlength⟩, hhex⟩, rfl⟩

theorem isV6BindingEvidence_publish (htable : LowersByTable toLowerCase)
    {evidence : RuntimeEvidenceRef} {provider kind assertionKind summary idPrefix digest : String}
    (h : Api.isV6Evidence (encode finding) (encode evidence) provider kind assertionKind summary
      idPrefix digest = true) (hsummary : isPlain summary = true)
    (hstem : isStem (idPrefix ++ "_") = true)
    (hdigest : ∀ c ∈ digest.toList, isLowerHex c = true) :
    Web.isV6BindingEvidence (encode (publishFinding toLowerCase finding))
      (encode (publishEvidenceRef toLowerCase evidence)) provider kind assertionKind summary
      idPrefix digest = true := by
  simp only [Api.isV6Evidence, finding_subjectRef, isFreshFact_iff, hasText, evidence_summary,
    evidence_id, evidence_collectedAt, Api.isNonEmptyRevision, evidence_providerRevision,
    safeInteger_isSome, nonEmptyText_isSome, asText_str, Bool.and_eq_true, beq_iff_eq,
    Option.some.injEq, decide_eq_true_eq] at h
  obtain ⟨⟨⟨⟨hfresh, hsame⟩, hid⟩, hsafe⟩, hrevision⟩ := h
  have hpublished := @IsFreshFact.publish toLowerCase _ _ _ _ _ _ hfresh
  rw [← publish_subjectRef] at hpublished
  exact isV6BindingEvidence_of hpublished
    (publish_evidence_id htable hid (isPlain_append_digest hstem hdigest))
    (publish_evidence_summary htable hsame hsummary)
    (isCollected_publish hsafe hrevision hfresh.revision)

theorem presents_declaredMount (htable : LowersByTable toLowerCase)
    (hlegible : Legible toLowerCase finding)
    (h : Api.isComposeDeclaredMountMissingFinding (encode finding) = true) :
    Presents Web.declaredMountSpec (publishFinding toLowerCase finding) := by
  simp only [Api.isComposeDeclaredMountMissingFinding, Api.composeMountFindingDigest,
    Api.isOpaqueComposeRuntimeBindingId, Api.differingRefs, finding_id, finding_subjectRef,
    finding_targetRef, finding_evidenceRefs, Option.any_eq_true, Option.isSome_iff_exists,
    digestAfter_eq_some, JavaScript.strictEqual_str, Bool.and_eq_true, Bool.not_not,
    beq_iff_eq] at h
  obtain ⟨htext, digest, ⟨hid, hlength, hhex⟩, ⟨⟨subject, hsubject⟩, hsame⟩, hevidence⟩ := h
  obtain ⟨declared, binding, hrefs, hfacts⟩ := withPair_refs hevidence
  rw [Bool.and_eq_true, Bool.and_eq_true] at hfacts
  obtain ⟨⟨hdeclared, hbinding⟩, hone⟩ := hfacts
  have hfresh : IsFreshFact declared 6 "compose" "compose_declared_mount" "declared"
      finding.subjectRef := by
    simp only [Api.isV6Evidence, finding_subjectRef, isFreshFact_iff, Bool.and_eq_true] at hdeclared
    exact hdeclared.1.1.1.1
  have hstart : startsWith finding.subjectRef.toList "compose_runtime_binding_".toList = true := by
    rw [hsubject.1]
    exact startsWith_append _ _
  have hpublishedId : (publishFinding toLowerCase finding).id = finding.id := by
    unfold publishFinding
    rw [hid]
    exact publish_plain htable (isPlain_append_digest (by decide +kernel) hhex)
  have hpublishedSubject : (publishFinding toLowerCase finding).subjectRef =
      finding.subjectRef := by
    rw [publish_subjectRef, hlegible.subject]
  have hpublishedTarget : (publishFinding toLowerCase finding).targetRef = finding.subjectRef := by
    unfold publishFinding
    rw [← hsame, hlegible.subject]
  refine presents_two (rowMatches_publish htable hlegible
      (plainRow_specOf .composeDeclaredMountMissingAtBoundContainer) htext rfl ?_ hstart ?_ nofun
      (fun hrule => absurd rfl hrule) ?_ ?_) hrefs rfl
      (matchesEvidence_publish hfresh rfl (by decide) (by decide)) ?_
  · rw [hid]
    exact startsWith_append _ _
  · rintro _ ⟨⟩
    rw [← hsame]
    exact hstart
  · exact fun hrule => absurd hrule (by decide)
  · exact fun hrule => absurd hrule (by decide)
  · have hdigest : Web.composeMountFindingDigest
        ((encode (publishFinding toLowerCase finding)).field? "id") = some digest := by
      rw [finding_id, hpublishedId]
      exact digestAfter_eq_some.2 ⟨hid, hlength, hhex⟩
    have hopaque : Web.isOpaqueComposeRuntimeBindingId
        ((encode (publishFinding toLowerCase finding)).field? "subjectRef") = true := by
      rw [finding_subjectRef, hpublishedSubject, Web.isOpaqueComposeRuntimeBindingId,
        Option.isSome_iff_exists]
      exact ⟨subject, digestAfter_eq_some.2 hsubject⟩
    have hrefsSame : Web.sameRefs (encode (publishFinding toLowerCase finding)) = true := by
      rw [Web.sameRefs, finding_subjectRef, finding_targetRef, hpublishedSubject, hpublishedTarget,
        JavaScript.strictEqual_str, beq_self_eq_true]
    rw [Api.composeDeclaredMountEvidenceSummary] at hdeclared
    rw [Api.dockerComposeRuntimeBindingEvidenceSummary] at hbinding
    rw [matchesRule_declaredMount, hdigest, Option.any_some, hopaque, hrefsSame,
      isV6BindingEvidence_publish htable hdeclared (isPlain_ofList (by decide +kernel))
        (by decide +kernel) hhex,
      isV6BindingEvidence_publish htable hbinding (isPlain_ofList (by decide +kernel))
        (by decide +kernel) hhex, fromOneCollection_publish hone]
    rfl

end

end DockerMap
