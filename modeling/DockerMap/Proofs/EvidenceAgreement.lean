import DockerMap.Api.EvidenceValidation
import DockerMap.Core.Evidence
import DockerMap.Proofs.FindingPresentation

/-! The daemon and the browser boundary on evidence. Their tables agree on every version but the
sixth: the daemon takes the two Compose families where it takes a tmux listing, and the
boundary has no row for them. -/

namespace DockerMap

open Text (startsWith)
open RuntimeMapEdge (links_iff)
open Json (encode)
open Api (asText hasText startsText hasBaseTuple EvidenceEdge)

/-! The tuple -/

structure IsOfShape (shape : EvidenceShape) (evidence : RuntimeEvidenceRef) : Prop where
  version : evidence.version = shape.version
  provider : evidence.provider = shape.provider
  assertionKind : evidence.assertionKind = shape.assertionKind
  providerSlot : evidence.providerSlot = shape.providerSlot
  freshness : shape.retained = true ∨ evidence.freshness = .fresh

theorem hasValidVersionedShape_iff {evidence : RuntimeEvidenceRef} :
    evidence.hasValidVersionedShape = true ↔ IsOfShape evidence.kind.shape evidence := by
  simp only [RuntimeEvidenceRef.hasValidVersionedShape, Bool.and_eq_true, Bool.or_eq_true,
    beq_iff_eq]
  constructor
  · rintro ⟨⟨⟨⟨hversion, hprovider⟩, hassertion⟩, hslot⟩, hfreshness⟩
    exact ⟨hversion, hprovider, hassertion, hslot, hfreshness⟩
  · intro h
    exact ⟨⟨⟨⟨h.version, h.provider⟩, h.assertionKind⟩, h.providerSlot⟩, h.freshness⟩

def EvidenceShape.freshness (shape : EvidenceShape) : List String :=
  if shape.retained then Api.retainedFreshness else ["fresh"]

theorem mem_freshness {shape : EvidenceShape} {freshness : RuntimeEvidenceFreshness} :
    freshness.wireName ∈ shape.freshness ↔ shape.retained = true ∨ freshness = .fresh := by
  rw [EvidenceShape.freshness]
  cases shape.retained <;> cases freshness <;> decide

theorem hasSlot_encode {slot : Option ProviderSlot} {evidence : RuntimeEvidenceRef} :
    Api.hasSlot (encode evidence) (slot.map ProviderSlot.wireName) = true ↔
      evidence.providerSlot = slot := by
  cases slot with
  | none =>
    change JavaScript.isNullish ((encode evidence).field? "providerSlot") = true ↔ _
    rw [evidence_providerSlot, isNullish_slot, Option.isNone_iff_eq_none]
  | some slot =>
    change hasText (encode evidence) "providerSlot" slot.wireName = true ↔ _
    rw [hasText, evidence_providerSlot, beq_iff_eq]
    cases evidence.providerSlot with
    | none => simp [asText]
    | some found =>
      rw [Option.map_some, asText_str, Option.some.injEq, Option.some.injEq,
        ProviderSlot.wireName_injective.eq_iff]

theorem hasBaseTuple_encode {shape : EvidenceShape} {evidence : RuntimeEvidenceRef}
    (hversion : shape.version < Binary64.exactBound) :
    hasBaseTuple shape.version shape.provider.wireName shape.assertionKind.wireName
        (shape.providerSlot.map ProviderSlot.wireName) shape.freshness (encode evidence) = true ↔
      IsOfShape shape evidence := by
  have hfreshness : shape.freshness.any (hasText (encode evidence) "freshness") = true ↔
      shape.retained = true ∨ evidence.freshness = .fresh := by
    rw [← mem_freshness, List.any_eq_true]
    simp [hasText]
  simp only [hasBaseTuple, Bool.and_eq_true, hasSlot_encode, hfreshness]
  simp only [hasText, evidence_version, evidence_provider, evidence_assertionKind, asText_str,
    JavaScript.asNumber_num, beq_iff_eq, Option.some.injEq, Binary64.ofNat_eq_iff hversion,
    RuntimeEvidenceProvider.wireName_injective.eq_iff,
    RuntimeEvidenceAssertionKind.wireName_injective.eq_iff]
  constructor
  · rintro ⟨⟨⟨⟨hversion, hprovider⟩, hassertion⟩, hslot⟩, hfreshness⟩
    exact ⟨hversion, hprovider, hassertion, hslot, hfreshness⟩
  · intro h
    exact ⟨⟨⟨⟨h.version, h.provider⟩, h.assertionKind⟩, h.providerSlot⟩, h.freshness⟩

/-! The boundary's shapes and rows -/

def v1Shape : EvidenceShape := ⟨1, .docker, .observed, none, false⟩
def v2Shape : EvidenceShape := ⟨2, .systemd, .declared, some .systemd, true⟩
def v3Shape : EvidenceShape := ⟨3, .npm, .declared, some .projectNpm, true⟩
def v4Shape : EvidenceShape := ⟨4, .cron, .declared, some .cron, true⟩
def v5Shape : EvidenceShape := ⟨5, .tmux, .observed, some .tmux, true⟩
def v7Shape : EvidenceShape := ⟨7, .dockermap, .observed, none, false⟩

section

variable {evidence : RuntimeEvidenceRef}

theorem isV1_encode : Api.isV1 (encode evidence) = true ↔ IsOfShape v1Shape evidence :=
  @hasBaseTuple_encode v1Shape evidence (by decide)

theorem isV2_encode : Api.isV2 (encode evidence) = true ↔ IsOfShape v2Shape evidence :=
  @hasBaseTuple_encode v2Shape evidence (by decide)

theorem isV3_encode : Api.isV3 (encode evidence) = true ↔ IsOfShape v3Shape evidence :=
  @hasBaseTuple_encode v3Shape evidence (by decide)

theorem isV4_encode : Api.isV4 (encode evidence) = true ↔ IsOfShape v4Shape evidence :=
  @hasBaseTuple_encode v4Shape evidence (by decide)

theorem isV5_encode : Api.isV5 (encode evidence) = true ↔ IsOfShape v5Shape evidence :=
  @hasBaseTuple_encode v5Shape evidence (by decide)

theorem isV7_encode : Api.isV7 (encode evidence) = true ↔ IsOfShape v7Shape evidence :=
  @hasBaseTuple_encode v7Shape evidence (by decide)

/-- The shapes the boundary knows. -/
inductive IsBoundaryShape : EvidenceShape → Prop
  | v1 : IsBoundaryShape v1Shape
  | v2 : IsBoundaryShape v2Shape
  | v3 : IsBoundaryShape v3Shape
  | v4 : IsBoundaryShape v4Shape
  | v5 : IsBoundaryShape v5Shape
  | v7 : IsBoundaryShape v7Shape

theorem isVersioned_encode : Api.isVersioned (encode evidence) = true ↔
    ∃ shape, IsBoundaryShape shape ∧ IsOfShape shape evidence := by
  simp only [Api.isVersioned, Bool.or_eq_true, isV1_encode, isV2_encode, isV3_encode, isV4_encode,
    isV5_encode, isV7_encode]
  constructor
  · rintro (((((h | h) | h) | h) | h) | h)
    · exact ⟨_, .v1, h⟩
    · exact ⟨_, .v2, h⟩
    · exact ⟨_, .v3, h⟩
    · exact ⟨_, .v4, h⟩
    · exact ⟨_, .v5, h⟩
    · exact ⟨_, .v7, h⟩
  · rintro ⟨shape, hshape, h⟩
    cases hshape <;> simp [h]

end

/-- The row of a kind, in whichever table it stands. -/
def RuntimeEvidenceKind.boundaryEdge (kind : RuntimeEvidenceKind) : Option EvidenceEdge :=
  (Api.v1EvidenceEdge ++ Api.v2EvidenceEdge ++ Api.v3EvidenceEdge ++ Api.v4EvidenceEdge ++
    Api.v5EvidenceEdge ++ Api.v7EvidenceEdge).lookup kind.wireName

/-- The table of a version. -/
def edgesOfVersion : ℕ → List (String × EvidenceEdge)
  | 1 => Api.v1EvidenceEdge
  | 2 => Api.v2EvidenceEdge
  | 3 => Api.v3EvidenceEdge
  | 4 => Api.v4EvidenceEdge
  | 5 => Api.v5EvidenceEdge
  | _ => Api.v7EvidenceEdge

theorem evidenceEdges_encode {shape : EvidenceShape} (hshape : IsBoundaryShape shape)
    {evidence : RuntimeEvidenceRef} (h : IsOfShape shape evidence) :
    Api.evidenceEdges (encode evidence) = edgesOfVersion shape.version := by
  have hother {other : EvidenceShape} (hne : shape.version ≠ other.version) :
      ¬ IsOfShape other evidence := fun hof => hne (h.version.symm.trans hof.version)
  have h1 (hne : shape.version ≠ 1) := mt isV1_encode.1 (@hother v1Shape hne)
  have h2 (hne : shape.version ≠ 2) := mt isV2_encode.1 (@hother v2Shape hne)
  have h3 (hne : shape.version ≠ 3) := mt isV3_encode.1 (@hother v3Shape hne)
  have h4 (hne : shape.version ≠ 4) := mt isV4_encode.1 (@hother v4Shape hne)
  have h5 (hne : shape.version ≠ 5) := mt isV5_encode.1 (@hother v5Shape hne)
  rw [Api.evidenceEdges]
  cases hshape with
  | v1 => exact if_pos (isV1_encode.2 h)
  | v2 =>
    rw [if_neg (h1 (by decide))]
    exact if_pos (isV2_encode.2 h)
  | v3 =>
    rw [if_neg (h1 (by decide)), if_neg (h2 (by decide))]
    exact if_pos (isV3_encode.2 h)
  | v4 =>
    rw [if_neg (h1 (by decide)), if_neg (h2 (by decide)), if_neg (h3 (by decide))]
    exact if_pos (isV4_encode.2 h)
  | v5 =>
    rw [if_neg (h1 (by decide)), if_neg (h2 (by decide)), if_neg (h3 (by decide)),
      if_neg (h4 (by decide))]
    exact if_pos (isV5_encode.2 h)
  | v7 =>
    rw [if_neg (h1 (by decide)), if_neg (h2 (by decide)), if_neg (h3 (by decide)),
      if_neg (h4 (by decide))]
    exact if_neg (h5 (by decide))

theorem lookup_edgesOfVersion {shape : EvidenceShape} (hshape : IsBoundaryShape shape)
    (kind : RuntimeEvidenceKind) : (edgesOfVersion shape.version).lookup kind.wireName =
      if kind.shape.version = shape.version then kind.boundaryEdge else none := by
  cases hshape <;> cases kind <;> rfl

theorem isBoundaryShape_iff {kind : RuntimeEvidenceKind} :
    IsBoundaryShape kind.shape ↔ kind.shape.version ≠ 6 := by
  constructor
  · intro h hversion
    generalize kind.shape = shape at h hversion
    cases h <;> cases hversion
  · intro h
    cases kind <;>
      first
        | exact .v1 | exact .v2 | exact .v3 | exact .v4 | exact .v5 | exact .v7
        | exact absurd rfl h

theorem shape_eq_of_version {shape : EvidenceShape} (hshape : IsBoundaryShape shape)
    {kind : RuntimeEvidenceKind} (h : kind.shape.version = shape.version) : kind.shape = shape := by
  cases hshape <;> cases kind <;> first | rfl | cases h

/-- A row stands under a version exactly when the tuple is the one of its kind. -/
theorem expectedEdge_encode_iff {evidence : RuntimeEvidenceRef} {row : EvidenceEdge} :
    Api.isVersioned (encode evidence) = true ∧ Api.expectedEdge (encode evidence) = some row ↔
      evidence.hasValidVersionedShape = true ∧ evidence.version ≠ 6 ∧
        evidence.kind.boundaryEdge = some row := by
  have hexpected {shape : EvidenceShape} (hshape : IsBoundaryShape shape)
      (h : IsOfShape shape evidence) : Api.expectedEdge (encode evidence) =
        if evidence.kind.shape.version = shape.version then evidence.kind.boundaryEdge
        else none := by
    rw [Api.expectedEdge, evidence_kind, asText_str, Option.bind_some,
      evidenceEdges_encode hshape h, lookup_edgesOfVersion hshape]
  rw [isVersioned_encode, hasValidVersionedShape_iff]
  constructor
  · rintro ⟨⟨shape, hshape, h⟩, hrow⟩
    rw [hexpected hshape h] at hrow
    split_ifs at hrow with hversion
    have heq := shape_eq_of_version hshape hversion
    refine ⟨heq ▸ h, ?_, hrow⟩
    rw [h.version, ← heq]
    exact isBoundaryShape_iff.1 (heq ▸ hshape)
  · rintro ⟨h, hversion, hrow⟩
    rw [h.version] at hversion
    have hshape := isBoundaryShape_iff.2 hversion
    refine ⟨⟨_, hshape, h⟩, ?_⟩
    rw [hexpected hshape h, if_pos rfl, hrow]

/-! The edge -/

/-- The boundary's demands on the edge of a kind. -/
structure BindsEdge (edge : RuntimeMapEdge) (kind : RuntimeEvidenceKind) (row : EvidenceEdge) :
    Prop where
  relationship : edge.relationship.wireName = row.relationship
  source : if kind.shape.version = 7 then edge.source = "runtime_integrity_scope"
    else startsWith edge.source.toList row.sourcePrefix.toList = true
  target : startsWith edge.target.toList row.targetPrefix.toList = true
  differ : edge.source ≠ edge.target
  host : kind.shape.version = 4 ∨ kind.shape.version = 5 → edge.target = "host_local"
  integrity : kind.shape.version = 7 → edge.target = "runtime_integrity_risk_identity_collision"
  daemonState : kind = .dockerDaemonStateBindMount → edge.target = "host_risk_docker_daemon_state"
  address : kind = .dockerUnspecifiedAddressPortPublication →
    edge.target = "host_risk_docker_unspecified_address_port"

theorem ite_some_eq_none {α : Type*} {p : Prop} [Decidable p] {refusal : α} {rest : Option α} :
    (if p then some refusal else rest) = none ↔ ¬ p ∧ rest = none := by
  split_ifs with hp
  · exact iff_of_false not_false fun h => h.1 hp
  · exact (and_iff_right hp).symm

theorem bindingDiagnostic_eq_none {edge evidence : Json} :
    Api.bindingDiagnostic edge evidence = none ↔ Api.isVersioned evidence = true ∧
      ∃ expected, Api.expectedEdge evidence = some expected ∧
        Api.bindsRelationship edge evidence expected = true ∧
        Api.bindsSource edge evidence expected = true ∧
        (Api.isV4 evidence = true ∨ Api.isV5 evidence = true →
          hasText edge "target" "host_local" = true) ∧
        (Api.isV7 evidence = true →
          hasText edge "target" "runtime_integrity_risk_identity_collision" = true ∧
            hasText evidence "summary" Api.runtimeIdentityCollisionEvidenceSummary = true) := by
  rw [Api.bindingDiagnostic]
  cases Api.isVersioned evidence with
  | false => simp
  | true =>
    cases Api.expectedEdge evidence with
    | none => simp
    | some expected =>
      simp only [ite_some_eq_none, Bool.not_true, Bool.and_eq_true, Bool.or_eq_true,
        Bool.not_eq_true', not_and, Option.some.injEq, exists_eq_left', true_and, and_true,
        Bool.false_eq_true, not_false_eq_true, Bool.not_eq_false, Bool.and_eq_false_imp,
        Classical.not_imp]

theorem targetDiagnostic_eq_none {edge evidence : Json} :
    Api.targetDiagnostic edge evidence = none ↔
      (hasText evidence "kind" "docker_daemon_state_bind_mount" = true →
        hasText edge "target" "host_risk_docker_daemon_state" = true) ∧
      (hasText evidence "kind" "docker_unspecified_address_port_publication" = true →
        hasText edge "target" "host_risk_docker_unspecified_address_port" = true ∧
          hasText evidence "summary" Api.unspecifiedAddressPortEvidenceSummary = true) := by
  rw [Api.targetDiagnostic]
  simp only [ite_some_eq_none, Bool.and_eq_true, Bool.not_eq_true', not_and, Bool.not_eq_false,
    and_true]

/-- The boundary takes the tuple on the edge, whatever the summary should be. -/
def BoundaryAccepts (edge : RuntimeMapEdge) (evidence : RuntimeEvidenceRef) : Prop :=
  ∃ summary,
    Api.bindingDiagnostic (encode edge) (encode { evidence with summary := summary }) = none ∧
      Api.targetDiagnostic (encode edge) (encode { evidence with summary := summary }) = none

section

variable (edge : RuntimeMapEdge)

theorem hasText_source (text : String) :
    hasText (encode edge) "source" text = true ↔ edge.source = text := by
  rw [hasText, show (encode edge).field? "source" = some (.str edge.source) from rfl, asText_str,
    beq_iff_eq, Option.some.injEq]

theorem hasText_target (text : String) :
    hasText (encode edge) "target" text = true ↔ edge.target = text := by
  rw [hasText, show (encode edge).field? "target" = some (.str edge.target) from rfl, asText_str,
    beq_iff_eq, Option.some.injEq]

end

section

variable {edge : RuntimeMapEdge} {evidence : RuntimeEvidenceRef}

theorem bindsRelationship_encode {row : EvidenceEdge} :
    Api.bindsRelationship (encode edge) (encode evidence) row = true ↔
      edge.relationship.wireName = row.relationship ∧ evidence.summary = row.summary := by
  have hrelationship : (encode edge).field? "relationship" =
      some (.str edge.relationship.wireName) := rfl
  have hsource : (asText ((encode edge).field? "source")).isSome = true := rfl
  have htarget : (asText ((encode edge).field? "target")).isSome = true := rfl
  rw [Api.bindsRelationship, hsource, htarget, Bool.and_true, Bool.and_true, Bool.and_eq_true,
    hasText, hasText, hrelationship, evidence_summary, asText_str, asText_str, beq_iff_eq,
    beq_iff_eq, Option.some.injEq, Option.some.injEq]

theorem bindsSource_encode {row : EvidenceEdge} :
    Api.bindsSource (encode edge) (encode evidence) row = true ↔
      evidence.subjectRef = edge.source ∧
        (if Api.isV7 (encode evidence) = true then edge.source = "runtime_integrity_scope"
          else startsWith edge.source.toList row.sourcePrefix.toList = true) ∧
        startsWith edge.target.toList row.targetPrefix.toList = true ∧
        edge.source ≠ edge.target := by
  have hsource : (encode edge).field? "source" = some (.str edge.source) := rfl
  have htarget : (encode edge).field? "target" = some (.str edge.target) := rfl
  rw [Api.bindsSource, hsource, htarget, evidence_subjectRef]
  cases Api.isV7 (encode evidence) with
  | false =>
    simp [and_assoc]
  | true =>
    simp [and_assoc, hasText_source]

theorem isOfShape_iff {shape : EvidenceShape} (hshape : IsBoundaryShape shape)
    (h : IsOfShape evidence.kind.shape evidence) :
    IsOfShape shape evidence ↔ evidence.kind.shape.version = shape.version := by
  constructor
  · intro hof
    rw [← h.version, hof.version]
  · intro hversion
    rw [← shape_eq_of_version hshape hversion]
    exact h

end

theorem summary_of_address {row : EvidenceEdge}
    (h : RuntimeEvidenceKind.dockerUnspecifiedAddressPortPublication.boundaryEdge = some row) :
    row.summary = Api.unspecifiedAddressPortEvidenceSummary := by
  have hsummary : RuntimeEvidenceKind.dockerUnspecifiedAddressPortPublication.boundaryEdge.map
      EvidenceEdge.summary = some Api.unspecifiedAddressPortEvidenceSummary := rfl
  rw [h] at hsummary
  exact Option.some.inj hsummary

theorem summary_of_integrity {kind : RuntimeEvidenceKind} {row : EvidenceEdge}
    (hversion : kind.shape.version = 7) (h : kind.boundaryEdge = some row) :
    row.summary = Api.runtimeIdentityCollisionEvidenceSummary := by
  have hkind : kind = .runtimeIdentityCollision := by
    cases kind <;> first | rfl | cases hversion
  have hsummary : RuntimeEvidenceKind.runtimeIdentityCollision.boundaryEdge.map
      EvidenceEdge.summary = some Api.runtimeIdentityCollisionEvidenceSummary := rfl
  rw [hkind] at h
  rw [h] at hsummary
  exact Option.some.inj hsummary

section

variable {edge : RuntimeMapEdge} {evidence : RuntimeEvidenceRef}

theorem hasText_kind (kind : RuntimeEvidenceKind) :
    hasText (encode evidence) "kind" kind.wireName = true ↔ evidence.kind = kind := by
  rw [hasText, evidence_kind, asText_str, beq_iff_eq, Option.some.injEq,
    RuntimeEvidenceKind.wireName_injective.eq_iff]

theorem hasText_summary (text : String) :
    hasText (encode evidence) "summary" text = true ↔ evidence.summary = text := by
  rw [hasText, evidence_summary, asText_str, beq_iff_eq, Option.some.injEq]

theorem targetDiagnostic_encode :
    Api.targetDiagnostic (encode edge) (encode evidence) = none ↔
      (evidence.kind = .dockerDaemonStateBindMount →
        edge.target = "host_risk_docker_daemon_state") ∧
      (evidence.kind = .dockerUnspecifiedAddressPortPublication →
        edge.target = "host_risk_docker_unspecified_address_port" ∧
          evidence.summary = Api.unspecifiedAddressPortEvidenceSummary) := by
  have hdaemon := @hasText_kind evidence .dockerDaemonStateBindMount
  have haddress := @hasText_kind evidence .dockerUnspecifiedAddressPortPublication
  rw [targetDiagnostic_eq_none, hasText_target, hasText_target, hasText_summary]
  exact and_congr (imp_congr hdaemon Iff.rfl) (imp_congr haddress Iff.rfl)

theorem diagnostics_eq_none :
    (Api.bindingDiagnostic (encode edge) (encode evidence) = none ∧
        Api.targetDiagnostic (encode edge) (encode evidence) = none) ↔
      evidence.hasValidVersionedShape = true ∧ evidence.version ≠ 6 ∧
        evidence.subjectRef = edge.source ∧ ∃ row, evidence.kind.boundaryEdge = some row ∧
          evidence.summary = row.summary ∧ BindsEdge edge evidence.kind row := by
  have hversions (h : evidence.hasValidVersionedShape = true) :
      (Api.isV4 (encode evidence) = true ↔ evidence.kind.shape.version = 4) ∧
        (Api.isV5 (encode evidence) = true ↔ evidence.kind.shape.version = 5) ∧
        (Api.isV7 (encode evidence) = true ↔ evidence.kind.shape.version = 7) := by
    have hof := hasValidVersionedShape_iff.1 h
    exact ⟨isV4_encode.trans (isOfShape_iff .v4 hof), isV5_encode.trans (isOfShape_iff .v5 hof),
      isV7_encode.trans (isOfShape_iff .v7 hof)⟩
  rw [bindingDiagnostic_eq_none, targetDiagnostic_encode]
  simp only [bindsRelationship_encode, bindsSource_encode, hasText_target, hasText_summary]
  constructor
  · rintro ⟨⟨hversioned, row, hrow, ⟨hrelationship, hsummary⟩,
      ⟨hsubject, hsource, htarget, hdiffer⟩, hhost, hintegrity⟩, hdaemon, haddress⟩
    obtain ⟨hshape, hversion, hboundary⟩ := expectedEdge_encode_iff.1 ⟨hversioned, hrow⟩
    obtain ⟨h4, h5, h7⟩ := hversions hshape
    rw [h4, h5] at hhost
    rw [h7] at hintegrity
    simp only [h7] at hsource
    refine ⟨hshape, hversion, hsubject, row, hboundary, hsummary, ?_⟩
    exact
      { relationship := hrelationship
        source := hsource
        target := htarget
        differ := hdiffer
        host := hhost
        integrity := fun h => (hintegrity h).1
        daemonState := hdaemon
        address := fun h => (haddress h).1 }
  · rintro ⟨hshape, hversion, hsubject, row, hboundary, hsummary, hbinds⟩
    obtain ⟨h4, h5, h7⟩ := hversions hshape
    obtain ⟨hversioned, hrow⟩ := expectedEdge_encode_iff.2 ⟨hshape, hversion, hboundary⟩
    simp only [h4, h5, h7]
    refine ⟨⟨hversioned, row, hrow, ⟨hbinds.relationship, hsummary⟩,
      ⟨hsubject, hbinds.source, hbinds.target, hbinds.differ⟩, hbinds.host, ?_⟩,
      hbinds.daemonState, ?_⟩
    · intro h
      exact ⟨hbinds.integrity h, hsummary.trans (summary_of_integrity h hboundary)⟩
    · intro h
      exact ⟨hbinds.address h, hsummary.trans (summary_of_address (h ▸ hboundary))⟩

theorem boundaryAccepts_iff_bindsEdge :
    BoundaryAccepts edge evidence ↔ evidence.hasValidVersionedShape = true ∧
      evidence.version ≠ 6 ∧ evidence.subjectRef = edge.source ∧
        ∃ row, evidence.kind.boundaryEdge = some row ∧ BindsEdge edge evidence.kind row := by
  constructor
  · rintro ⟨summary, h⟩
    obtain ⟨hshape, hversion, hsubject, row, hrow, -, hbinds⟩ := diagnostics_eq_none.1 h
    exact ⟨hshape, hversion, hsubject, row, hrow, hbinds⟩
  · rintro ⟨hshape, hversion, hsubject, row, hrow, hbinds⟩
    exact ⟨row.summary,
      diagnostics_eq_none.2 ⟨hshape, hversion, hsubject, row, hrow, rfl, hbinds⟩⟩

end

/-- Texts with different words in front are different. -/
theorem ne_of_prefixes {source target sourcePrefix targetPrefix : String}
    (hsource : startsWith source.toList sourcePrefix.toList = true)
    (htarget : startsWith target.toList targetPrefix.toList = true)
    (hforward : ¬ sourcePrefix.toList <+: targetPrefix.toList)
    (hbackward : ¬ targetPrefix.toList <+: sourcePrefix.toList) : source ≠ target := by
  intro heq
  rw [heq] at hsource
  have hsource := of_decide_eq_true hsource
  have htarget := of_decide_eq_true htarget
  exact (List.prefix_or_prefix_of_prefix hsource htarget).elim hforward hbackward

section

variable {edge : RuntimeMapEdge} {kind : RuntimeEvidenceKind}

theorem startsWith_empty (text : String) : startsWith text.toList "".toList = true :=
  decide_eq_true (List.nil_prefix)

/-- A kind without a literal endpoint. -/
theorem bindsEdge_iff_links (relationship : RuntimeRelationshipKind)
    {sourcePrefix targetPrefix summary : String}
    (hrow : kind.boundaryEdge =
      some ⟨relationship.wireName, sourcePrefix, targetPrefix, summary⟩)
    (hversion : kind.shape.version < 4) (hdaemon : kind ≠ .dockerDaemonStateBindMount)
    (haddress : kind ≠ .dockerUnspecifiedAddressPortPublication) :
    (∃ row, kind.boundaryEdge = some row ∧ BindsEdge edge kind row) ↔
      edge.links relationship sourcePrefix targetPrefix = true ∧ edge.source ≠ edge.target := by
  rw [links_iff, ← RuntimeRelationshipKind.wireName_injective.eq_iff]
  constructor
  · rintro ⟨row, hfound, hbinds⟩
    cases hrow.symm.trans hfound
    have hsource := hbinds.source
    rw [if_neg (by omega)] at hsource
    exact ⟨⟨hbinds.relationship, hsource, hbinds.target⟩, hbinds.differ⟩
  · rintro ⟨⟨hrelationship, hsource, htarget⟩, hdiffer⟩
    refine ⟨_, hrow, ?_⟩
    exact
      { relationship := hrelationship
        source := by rwa [if_neg (by omega)]
        target := htarget
        differ := hdiffer
        host := fun h => by omega
        integrity := fun h => by omega
        daemonState := fun h => absurd h hdaemon
        address := fun h => absurd h haddress }

/-- A kind with a literal target. -/
theorem bindsEdge_iff_target (relationship : RuntimeRelationshipKind) (target : String)
    {sourcePrefix targetPrefix summary : String}
    (hrow : kind.boundaryEdge =
      some ⟨relationship.wireName, sourcePrefix, targetPrefix, summary⟩)
    (hversion : kind.shape.version < 7)
    (hliteral : (kind.shape.version = 4 ∨ kind.shape.version = 5 → target = "host_local") ∧
      (kind = .dockerDaemonStateBindMount → target = "host_risk_docker_daemon_state") ∧
      (kind = .dockerUnspecifiedAddressPortPublication →
        target = "host_risk_docker_unspecified_address_port"))
    (honly : (∃ row, kind.boundaryEdge = some row ∧ BindsEdge edge kind row) →
      edge.target = target)
    (hstarts : startsWith target.toList targetPrefix.toList = true) :
    (∃ row, kind.boundaryEdge = some row ∧ BindsEdge edge kind row) ↔
      edge.links relationship sourcePrefix "" = true ∧ edge.target = target ∧
        edge.source ≠ edge.target := by
  rw [links_iff, ← RuntimeRelationshipKind.wireName_injective.eq_iff]
  constructor
  · intro h
    have htarget := honly h
    obtain ⟨row, hfound, hbinds⟩ := h
    cases hrow.symm.trans hfound
    have hsource := hbinds.source
    rw [if_neg (by omega)] at hsource
    exact ⟨⟨hbinds.relationship, hsource, startsWith_empty _⟩, htarget, hbinds.differ⟩
  · rintro ⟨⟨hrelationship, hsource, -⟩, htarget, hdiffer⟩
    refine ⟨_, hrow, ?_⟩
    exact
      { relationship := hrelationship
        source := by rwa [if_neg (by omega)]
        target := by rwa [htarget]
        differ := hdiffer
        host := fun h => htarget.trans (hliteral.1 h)
        integrity := fun h => by omega
        daemonState := fun h => htarget.trans (hliteral.2.1 h)
        address := fun h => htarget.trans (hliteral.2.2 h) }

end

/-- Prefixes that differ keep the endpoints apart. -/
theorem links_and_ne_iff {edge : RuntimeMapEdge} {relationship : RuntimeRelationshipKind}
    {sourcePrefix targetPrefix : String} (hforward : ¬ sourcePrefix.toList <+: targetPrefix.toList)
    (hbackward : ¬ targetPrefix.toList <+: sourcePrefix.toList) :
    edge.links relationship sourcePrefix targetPrefix = true ∧ edge.source ≠ edge.target ↔
      edge.links relationship sourcePrefix targetPrefix = true :=
  and_iff_left_of_imp fun h =>
    ne_of_prefixes (links_iff.1 h).2.1 (links_iff.1 h).2.2 hforward hbackward

theorem links_and_target_iff {edge : RuntimeMapEdge} {relationship : RuntimeRelationshipKind}
    {sourcePrefix target : String}
    (hdiffer : startsWith target.toList sourcePrefix.toList = false) :
    edge.links relationship sourcePrefix "" = true ∧ edge.target = target ∧
        edge.source ≠ edge.target ↔
      edge.links relationship sourcePrefix "" = true ∧ edge.target = target := by
  constructor
  · exact fun h => ⟨h.1, h.2.1⟩
  · rintro ⟨hlinks, htarget⟩
    refine ⟨hlinks, htarget, fun heq => ?_⟩
    have hsource := (links_iff.1 hlinks).2.1
    rw [heq, htarget, hdiffer] at hsource
    cases hsource

theorem bindsEdge_iff {edge : RuntimeMapEdge} {kind : RuntimeEvidenceKind}
    (hversion : kind.shape.version ≠ 6) :
    (∃ row, kind.boundaryEdge = some row ∧ BindsEdge edge kind row) ↔
      edge.attestedBy kind = true := by
  cases kind with
  | dockerNetworkMembership =>
    rw [bindsEdge_iff_links .connectedTo rfl (by decide) (by decide) (by decide),
      links_and_ne_iff (by decide) (by decide)]
    rfl
  | dockerVolumeMount =>
    rw [bindsEdge_iff_links .mounts rfl (by decide) (by decide) (by decide),
      links_and_ne_iff (by decide) (by decide)]
    rfl
  | dockerPortPublication =>
    rw [bindsEdge_iff_links .exposes rfl (by decide) (by decide) (by decide),
      links_and_ne_iff (by decide) (by decide)]
    rfl
  | dockerUnspecifiedAddressPortPublication =>
    rw [bindsEdge_iff_target .exposes "host_risk_docker_unspecified_address_port" rfl (by decide) (by decide)
        (fun h => h.elim fun _ hbinds => hbinds.2.address rfl) (by decide),
      links_and_target_iff (by decide), RuntimeMapEdge.attestedBy, Bool.and_eq_true, beq_iff_eq]
  | dockerComposeDependsOn =>
    rw [bindsEdge_iff_links .dependsOn rfl (by decide) (by decide) (by decide),
      RuntimeMapEdge.attestedBy, Bool.and_eq_true, bne_iff_ne]
  | dockerDaemonStateBindMount =>
    rw [bindsEdge_iff_target .exposesDaemonState "host_risk_docker_daemon_state" rfl (by decide) (by decide)
        (fun h => h.elim fun _ hbinds => hbinds.2.daemonState rfl) (by decide),
      links_and_target_iff (by decide), RuntimeMapEdge.attestedBy, Bool.and_eq_true, beq_iff_eq]
  | systemdRequires =>
    rw [bindsEdge_iff_links .requires rfl (by decide) (by decide) (by decide),
      RuntimeMapEdge.attestedBy, Bool.and_eq_true, bne_iff_ne]
  | systemdWants =>
    rw [bindsEdge_iff_links .wants rfl (by decide) (by decide) (by decide),
      RuntimeMapEdge.attestedBy, Bool.and_eq_true, bne_iff_ne]
  | systemdPartOf =>
    rw [bindsEdge_iff_links .partOf rfl (by decide) (by decide) (by decide),
      RuntimeMapEdge.attestedBy, Bool.and_eq_true, bne_iff_ne]
  | npmPackageManifestDependency =>
    rw [bindsEdge_iff_links .dependsOn rfl (by decide) (by decide) (by decide),
      RuntimeMapEdge.attestedBy, Bool.and_eq_true, bne_iff_ne]
  | cronScheduleDeclaration =>
    rw [bindsEdge_iff_target .runsOn "host_local" rfl (by decide)
        (by decide) (fun h => h.elim fun _ hbinds => hbinds.2.host (Or.inl rfl)) (by decide),
      RuntimeMapEdge.attestedBy, Bool.and_eq_true, Bool.and_eq_true, beq_iff_eq, bne_iff_ne,
      and_assoc]
  | tmuxSessionListing =>
    rw [bindsEdge_iff_target .runsOn "host_local" rfl (by decide)
        (by decide) (fun h => h.elim fun _ hbinds => hbinds.2.host (Or.inr rfl)) (by decide),
      RuntimeMapEdge.attestedBy, Bool.and_eq_true, Bool.and_eq_true, beq_iff_eq, bne_iff_ne,
      and_assoc]
  | composeDeclaredMount => exact absurd rfl hversion
  | dockerComposeRuntimeBinding => exact absurd rfl hversion
  | runtimeIdentityCollision =>
    rw [RuntimeMapEdge.attestedBy, Bool.and_eq_true, Bool.and_eq_true, beq_iff_eq, beq_iff_eq,
      beq_iff_eq, ← RuntimeRelationshipKind.wireName_injective.eq_iff]
    have hrow : RuntimeEvidenceKind.runtimeIdentityCollision.boundaryEdge =
        some ⟨RuntimeRelationshipKind.relatedTo.wireName, "runtime_integrity_scope",
          "runtime_integrity_risk_identity_collision",
          Api.runtimeIdentityCollisionEvidenceSummary⟩ := rfl
    constructor
    · rintro ⟨row, hfound, hbinds⟩
      cases hrow.symm.trans hfound
      exact ⟨⟨hbinds.relationship, hbinds.source⟩, hbinds.integrity rfl⟩
    · rintro ⟨⟨hrelationship, hsource⟩, htarget⟩
      refine ⟨_, hrow, ?_⟩
      exact
        { relationship := hrelationship
          source := hsource
          target := by rw [htarget]; decide
          differ := by rw [hsource, htarget]; decide
          host := fun h => absurd h (by decide)
          integrity := fun _ => htarget
          daemonState := fun h => absurd h (by decide)
          address := fun h => absurd h (by decide) }

/-! Agreement -/

/-- The boundary takes what the daemon takes, but for the sixth version and the texts. -/
theorem boundaryAccepts_iff {edge : RuntimeMapEdge} {evidence : RuntimeEvidenceRef} :
    BoundaryAccepts edge evidence ↔ evidence.hasValidVersionedShape = true ∧
      evidence.version ≠ 6 ∧ evidence.subjectRef = edge.source ∧
        edge.attestedBy evidence.kind = true := by
  rw [boundaryAccepts_iff_bindsEdge]
  refine and_congr_right fun hshape => and_congr_right fun hversion => and_congr_right fun _ => ?_
  rw [(hasValidVersionedShape_iff.1 hshape).version] at hversion
  exact bindsEdge_iff hversion

/-! Families of edges -/

def evidenceKinds : List RuntimeEvidenceKind :=
  [.dockerNetworkMembership, .dockerVolumeMount, .dockerPortPublication,
    .dockerUnspecifiedAddressPortPublication, .dockerComposeDependsOn,
    .dockerDaemonStateBindMount, .systemdRequires, .systemdWants, .systemdPartOf,
    .npmPackageManifestDependency, .cronScheduleDeclaration, .tmuxSessionListing,
    .composeDeclaredMount, .dockerComposeRuntimeBinding, .runtimeIdentityCollision]

theorem mem_evidenceKinds (kind : RuntimeEvidenceKind) : kind ∈ evidenceKinds := by
  cases kind <;> decide

/-- Some edge may fit both rows. -/
def rowsOverlap (row other : EvidenceEdge) : Bool :=
  row.relationship == other.relationship &&
    (startsWith row.sourcePrefix.toList other.sourcePrefix.toList ||
      startsWith other.sourcePrefix.toList row.sourcePrefix.toList) &&
    (startsWith row.targetPrefix.toList other.targetPrefix.toList ||
      startsWith other.targetPrefix.toList row.targetPrefix.toList)

theorem kind_eq_of_overlap : ∀ kind ∈ evidenceKinds, ∀ other ∈ evidenceKinds,
    (kind.boundaryEdge.any fun row => other.boundaryEdge.any (rowsOverlap row)) = true →
      other = kind := by
  decide +kernel

theorem startsWith_of_common {text word other : String}
    (h : startsWith text.toList word.toList = true)
    (h' : startsWith text.toList other.toList = true) :
    (startsWith word.toList other.toList || startsWith other.toList word.toList) = true := by
  rw [Bool.or_eq_true]
  exact (List.prefix_or_prefix_of_prefix (of_decide_eq_true h) (of_decide_eq_true h')).elim
    (fun hfront => Or.inr (decide_eq_true hfront)) fun hfront => Or.inl (decide_eq_true hfront)

theorem BindsEdge.startsWith_source {edge : RuntimeMapEdge} {kind : RuntimeEvidenceKind}
    {row : EvidenceEdge} (hrow : kind.boundaryEdge = some row) (h : BindsEdge edge kind row) :
    startsWith edge.source.toList row.sourcePrefix.toList = true := by
  have hsource := h.source
  split_ifs at hsource with hversion
  · have hkind : kind = .runtimeIdentityCollision := by
      cases kind <;> first | rfl | cases hversion
    have hword : RuntimeEvidenceKind.runtimeIdentityCollision.boundaryEdge.map
        EvidenceEdge.sourcePrefix = some "runtime_integrity_scope" := rfl
    rw [← hkind, hrow] at hword
    rw [hsource, Option.some.inj hword]
    decide
  · exact hsource

/-- An edge carries facts of one kind. -/
theorem BindsEdge.kind_eq {edge : RuntimeMapEdge} {kind other : RuntimeEvidenceKind}
    {row row' : EvidenceEdge} (hrow : kind.boundaryEdge = some row)
    (hrow' : other.boundaryEdge = some row') (h : BindsEdge edge kind row)
    (h' : BindsEdge edge other row') : other = kind := by
  refine kind_eq_of_overlap kind (mem_evidenceKinds kind) other (mem_evidenceKinds other) ?_
  rw [hrow, hrow', Option.any_some, Option.any_some, rowsOverlap, Bool.and_eq_true,
    Bool.and_eq_true, beq_iff_eq]
  exact ⟨⟨h.relationship.symm.trans h'.relationship,
    startsWith_of_common (h.startsWith_source hrow) (h'.startsWith_source hrow')⟩,
    startsWith_of_common h.target h'.target⟩

/-- What the daemon takes, the boundary takes, and the edge is of no other family. -/
def Agrees (edge : RuntimeMapEdge) (evidence : RuntimeEvidenceRef) : Prop :=
  edge.evidenceRefMatchesEdge evidence = true → BoundaryAccepts edge evidence ∧
    ∀ other, BoundaryAccepts edge other → other.kind = evidence.kind

/-- A sound fact of a Compose family on the edge of a tmux session. -/
structure IsComposeOnSession (edge : RuntimeMapEdge) (evidence : RuntimeEvidenceRef) : Prop where
  version : evidence.version = 6
  family : evidence.kind = .composeDeclaredMount ∧ evidence.provider = .compose ∧
      evidence.assertionKind = .declared ∨
    evidence.kind = .dockerComposeRuntimeBinding ∧ evidence.provider = .docker ∧
      evidence.assertionKind = .observed
  providerSlot : evidence.providerSlot = none
  freshness : evidence.freshness = .fresh
  texts : ∀ text ∈ [evidence.id, evidence.summary, evidence.providerRevision],
    RuntimeMapEdge.isBoundedText text = true
  subject : evidence.subjectRef = edge.source
  relationship : edge.relationship = .runsOn
  source : startsWith edge.source.toList "tmux_session_".toList = true
  target : edge.target = "host_local"

theorem evidenceRefMatchesEdge_iff {edge : RuntimeMapEdge} {evidence : RuntimeEvidenceRef} :
    edge.evidenceRefMatchesEdge evidence = true ↔
      (∀ text ∈ [evidence.id, evidence.summary, evidence.providerRevision],
        RuntimeMapEdge.isBoundedText text = true) ∧ evidence.subjectRef = edge.source ∧
        evidence.hasValidVersionedShape = true ∧ edge.attestedBy evidence.kind = true := by
  simp only [RuntimeMapEdge.evidenceRefMatchesEdge, Bool.and_eq_true, beq_iff_eq,
    List.forall_mem_cons, List.not_mem_nil, false_implies, implies_true, and_true, and_assoc]

theorem eq_compose_of_version {kind : RuntimeEvidenceKind} (h : kind.shape.version = 6) :
    kind = .composeDeclaredMount ∨ kind = .dockerComposeRuntimeBinding := by
  cases kind <;> first | exact Or.inl rfl | exact Or.inr rfl | cases h

/-- The two families share the arm of the tmux listing. -/
theorem attestedBy_compose {edge : RuntimeMapEdge} {kind : RuntimeEvidenceKind}
    (h : kind.shape.version = 6) : edge.attestedBy kind = true ↔
      edge.relationship = .runsOn ∧ startsWith edge.source.toList "tmux_session_".toList = true ∧
        edge.target = "host_local" := by
  have harm : edge.attestedBy kind = edge.attestedBy .tmuxSessionListing := by
    obtain rfl | rfl := eq_compose_of_version h <;> rfl
  rw [harm, RuntimeMapEdge.attestedBy, Bool.and_eq_true, Bool.and_eq_true, beq_iff_eq, bne_iff_ne,
    links_iff]
  constructor
  · rintro ⟨⟨⟨hrelationship, hsource, -⟩, htarget⟩, -⟩
    exact ⟨hrelationship, hsource, htarget⟩
  · rintro ⟨hrelationship, hsource, htarget⟩
    refine ⟨⟨⟨hrelationship, hsource, startsWith_empty _⟩, htarget⟩, fun heq => ?_⟩
    rw [heq, htarget] at hsource
    exact absurd hsource (by decide)

theorem isComposeOnSession_iff {edge : RuntimeMapEdge} {evidence : RuntimeEvidenceRef} :
    IsComposeOnSession edge evidence ↔
      edge.evidenceRefMatchesEdge evidence = true ∧ evidence.version = 6 := by
  rw [evidenceRefMatchesEdge_iff, hasValidVersionedShape_iff]
  constructor
  · intro h
    have hshape : evidence.kind.shape.version = 6 ∧ IsOfShape evidence.kind.shape evidence := by
      obtain ⟨hkind, hprovider, hassertion⟩ | ⟨hkind, hprovider, hassertion⟩ := h.family
      all_goals
        rw [hkind]
        exact ⟨rfl, h.version, hprovider, hassertion, h.providerSlot, Or.inr h.freshness⟩
    exact ⟨⟨h.texts, h.subject, hshape.2,
      (attestedBy_compose hshape.1).2 ⟨h.relationship, h.source, h.target⟩⟩, h.version⟩
  · rintro ⟨⟨htexts, hsubject, hshape, hattested⟩, hversion⟩
    have hsix := hshape.version.symm.trans hversion
    obtain ⟨hrelationship, hsource, htarget⟩ := (attestedBy_compose hsix).1 hattested
    have hfields : (evidence.kind = .composeDeclaredMount ∧ evidence.provider = .compose ∧
          evidence.assertionKind = .declared ∨
        evidence.kind = .dockerComposeRuntimeBinding ∧ evidence.provider = .docker ∧
          evidence.assertionKind = .observed) ∧
        evidence.providerSlot = none ∧ evidence.freshness = .fresh := by
      obtain hkind | hkind := eq_compose_of_version hsix
      · rw [hkind] at hshape
        exact ⟨Or.inl ⟨hkind, hshape.provider, hshape.assertionKind⟩, hshape.providerSlot,
          hshape.freshness.resolve_left (by decide)⟩
      · rw [hkind] at hshape
        exact ⟨Or.inr ⟨hkind, hshape.provider, hshape.assertionKind⟩, hshape.providerSlot,
          hshape.freshness.resolve_left (by decide)⟩
    exact
      { version := hversion
        family := hfields.1
        providerSlot := hfields.2.1
        freshness := hfields.2.2
        texts := htexts
        subject := hsubject
        relationship := hrelationship
        source := hsource
        target := htarget }

theorem agrees_iff (edge : RuntimeMapEdge) (evidence : RuntimeEvidenceRef) :
    Agrees edge evidence ↔ ¬ IsComposeOnSession edge evidence := by
  rw [isComposeOnSession_iff, Agrees, not_and]
  refine imp_congr_right fun hmatches => ?_
  obtain ⟨-, hsubject, hshape, hattested⟩ := evidenceRefMatchesEdge_iff.1 hmatches
  constructor
  · intro h hversion
    exact (boundaryAccepts_iff.1 h.1).2.1 hversion
  · intro hversion
    have haccepts : BoundaryAccepts edge evidence :=
      boundaryAccepts_iff.2 ⟨hshape, hversion, hsubject, hattested⟩
    refine ⟨haccepts, fun other hother => ?_⟩
    obtain ⟨-, -, -, row, hrow, hbinds⟩ := boundaryAccepts_iff_bindsEdge.1 haccepts
    obtain ⟨-, -, -, row', hrow', hbinds'⟩ := boundaryAccepts_iff_bindsEdge.1 hother
    exact hbinds.kind_eq hrow hrow' hbinds'

/-! A declared mount on the edge of a session -/

def sessionEdge : RuntimeMapEdge where
  source := "tmux_session_main"
  target := "host_local"
  relationship := .runsOn
  metadata := ∅
  evidenceRefs := []

def declaredMountFact : RuntimeEvidenceRef where
  version := 6
  id := "compose_declared_mount_1"
  provider := .compose
  kind := .composeDeclaredMount
  assertionKind := .declared
  summary := "Compose declared a mount for the bound service"
  subjectRef := "tmux_session_main"
  collectedAt := 1
  providerRevision := "1"
  providerSlot := none
  freshness := .fresh

theorem declared_mount_on_session : ¬ ∀ edge evidence, Agrees edge evidence := by
  intro h
  obtain ⟨summary, hbinding, -⟩ := (h sessionEdge declaredMountFact (by decide)).1
  obtain ⟨shape, hshape, hof⟩ := isVersioned_encode.1 (bindingDiagnostic_eq_none.1 hbinding).1
  have hversion : 6 = shape.version := hof.version
  cases hshape <;> cases hversion

end DockerMap
