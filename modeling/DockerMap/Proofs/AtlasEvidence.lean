import DockerMap.Web.AtlasProjection

/-! The evidence of an edge that the projection accepts. Its relationship fixes the kind of every
reference, and the kind fixes what the edge is for. -/

namespace DockerMap.Web.Atlas

open Api (asText)
open StableSort (sortBy)

variable {edge : Json} {source target : String}

/-! Bindings -/

/-- The kind of the facts that can stand on a relationship. -/
def boundKinds : List (String × RuntimeEvidenceKind) :=
  [("depends_on", .dockerComposeDependsOn), ("connected_to", .dockerNetworkMembership),
    ("mounts", .dockerVolumeMount), ("exposes", .dockerPortPublication),
    ("exposes_daemon_state", .dockerDaemonStateBindMount), ("requires", .systemdRequires),
    ("wants", .systemdWants), ("part_of", .systemdPartOf)]

def boundKind (relationship : String) : Option RuntimeEvidenceKind :=
  boundKinds.lookup relationship

theorem mem_boundKinds {relationship : String} {kind : RuntimeEvidenceKind}
    (h : boundKind relationship = some kind) : (relationship, kind) ∈ boundKinds := by
  obtain ⟨front, back, heq, -⟩ := List.lookup_eq_some_iff.1 h
  rw [heq]
  exact List.mem_append_right _ List.mem_cons_self

theorem relates_iff {relationship : String} :
    relates edge relationship = true ↔ asText (edge.field? "relationship") = some relationship :=
  beq_iff_eq

/-- A fresh Docker observation of its source. -/
structure IsDockerFact (source : String) (evidence : AtlasPublishedEvidenceRef) : Prop where
  version : evidence.version = 1
  provider : evidence.provider = .docker
  assertionKind : evidence.assertionKind = .observed
  freshness : evidence.freshness = .fresh
  providerSlot : evidence.hasNoSlot = true
  subjectRef : evidence.subjectRef = source

/-- A systemd declaration of its source. -/
structure IsSystemdFact (source : String) (evidence : AtlasPublishedEvidenceRef) : Prop where
  version : evidence.version = 2
  provider : evidence.provider = .systemd
  assertionKind : evidence.assertionKind = .declared
  providerSlot : evidence.providerSlot = .slot .systemd
  subjectRef : evidence.subjectRef = source

theorem canonicalDockerBinding_iff {evidence : AtlasPublishedEvidenceRef} :
    canonicalDockerBinding edge source target evidence = true ↔
      IsDockerFact source evidence ∧ dockerEnds edge source target evidence.kind = true := by
  simp only [canonicalDockerBinding, Bool.and_eq_true, beq_iff_eq]
  constructor
  · rintro ⟨⟨⟨⟨⟨⟨hversion, hprovider⟩, hassertion⟩, hfreshness⟩, hslot⟩, hsubject⟩, hends⟩
    exact ⟨⟨hversion, hprovider, hassertion, hfreshness, hslot, hsubject⟩, hends⟩
  · rintro ⟨h, hends⟩
    exact ⟨⟨⟨⟨⟨⟨h.version, h.provider⟩, h.assertionKind⟩, h.freshness⟩, h.providerSlot⟩,
      h.subjectRef⟩, hends⟩

/-- The endpoints of a systemd declaration. -/
structure JoinsServices (source target : String) : Prop where
  from_service : starts source "systemd_service_" = true
  to_service : starts target "systemd_service_" = true
  ne : source ≠ target

theorem mem_evidenceFreshness (freshness : RuntimeEvidenceFreshness) :
    evidenceFreshness.contains freshness = true := by
  cases freshness <;> rfl

theorem canonicalSystemdBinding_iff {evidence : AtlasPublishedEvidenceRef} :
    canonicalSystemdBinding edge source target evidence = true ↔
      IsSystemdFact source evidence ∧ JoinsServices source target ∧
        systemdRelates edge evidence.kind = true := by
  simp only [canonicalSystemdBinding, Bool.and_eq_true, beq_iff_eq, bne_iff_ne,
    mem_evidenceFreshness, and_true]
  constructor
  · rintro ⟨⟨⟨⟨⟨⟨⟨⟨hversion, hprovider⟩, hassertion⟩, hslot⟩, hsubject⟩, hsource⟩, htarget⟩, hne⟩,
      hrelates⟩
    exact ⟨⟨hversion, hprovider, hassertion, hslot, hsubject⟩, ⟨hsource, htarget, hne⟩, hrelates⟩
  · rintro ⟨h, hends, hrelates⟩
    exact ⟨⟨⟨⟨⟨⟨⟨⟨h.version, h.provider⟩, h.assertionKind⟩, h.providerSlot⟩, h.subjectRef⟩,
      hends.from_service⟩, hends.to_service⟩, hends.ne⟩, hrelates⟩

/-- A reference that is bound to the source, the target and the relationship of the edge. -/
inductive IsBound (edge : Json) (source target : String) (evidence : AtlasPublishedEvidenceRef) :
    Prop
  | docker : IsDockerFact source evidence →
      dockerEnds edge source target evidence.kind = true → IsBound edge source target evidence
  | systemd : IsSystemdFact source evidence → JoinsServices source target →
      systemdRelates edge evidence.kind = true → IsBound edge source target evidence

theorem canonicalBinding_iff {evidence : AtlasPublishedEvidenceRef} :
    canonicalBinding edge source target evidence = true ↔ IsBound edge source target evidence := by
  rw [canonicalBinding]
  constructor
  · intro h
    split at h
    · obtain ⟨hfact, hends⟩ := canonicalDockerBinding_iff.1 h
      exact .docker hfact hends
    · obtain ⟨hfact, hjoins, hrelates⟩ := canonicalSystemdBinding_iff.1 h
      exact .systemd hfact hjoins hrelates
    · cases h
  · intro h
    cases h with
    | docker hfact hends =>
      rw [hfact.provider]
      exact canonicalDockerBinding_iff.2 ⟨hfact, hends⟩
    | systemd hfact hjoins hrelates =>
      rw [hfact.provider]
      exact canonicalSystemdBinding_iff.2 ⟨hfact, hjoins, hrelates⟩

theorem boundKind_of_dockerEnds {kind : RuntimeEvidenceKind}
    (h : dockerEnds edge source target kind = true) :
    ∃ relationship, asText (edge.field? "relationship") = some relationship ∧
      boundKind relationship = some kind := by
  cases kind <;> simp only [dockerEnds, Bool.and_eq_true, relates_iff, Bool.false_eq_true] at h
  · exact ⟨_, h.1.1, by decide⟩
  · exact ⟨_, h.1.1, by decide⟩
  · exact ⟨_, h.1.1, by decide⟩
  · exact ⟨_, h.1.1, by decide⟩
  · exact ⟨_, h.1.1, by decide⟩

theorem boundKind_of_systemdRelates {kind : RuntimeEvidenceKind}
    (h : systemdRelates edge kind = true) :
    ∃ relationship, asText (edge.field? "relationship") = some relationship ∧
      boundKind relationship = some kind := by
  cases kind <;> simp only [systemdRelates, relates_iff, Bool.false_eq_true] at h
  · exact ⟨_, h, by decide⟩
  · exact ⟨_, h, by decide⟩
  · exact ⟨_, h, by decide⟩

theorem IsBound.boundKind {evidence : AtlasPublishedEvidenceRef}
    (h : IsBound edge source target evidence) :
    ∃ relationship, asText (edge.field? "relationship") = some relationship ∧
      boundKind relationship = some evidence.kind := by
  cases h with
  | docker _ hends => exact boundKind_of_dockerEnds hends
  | systemd _ _ hrelates => exact boundKind_of_systemdRelates hrelates

/-! Accepted evidence -/

/-- The values of the references of an edge. -/
theorem evidenceRefs_some {values : List Json} (h : evidenceRefs edge = some values) :
    edge.field? "evidenceRefs" = some (.arr values) ∧ values ≠ [] ∧
      values.length ≤ edgeEvidenceCap := by
  unfold evidenceRefs at h
  split at h
  · rename_i found hfound
    split_ifs at h with hbounds
    cases h
    rw [not_or, not_lt] at hbounds
    exact ⟨hfound, fun heq => hbounds.1 (heq ▸ rfl), hbounds.2⟩
  · cases h

theorem evidenceSource_eq_some {value : Json} {entry : AtlasEdgeEvidenceSourceRef} :
    evidenceSource edge source target value = some entry ↔
      ∃ evidence, evidenceRef value = some evidence ∧ IsBound edge source target evidence ∧
        entry = ⟨source, target, (asText (edge.field? "relationship")).getD "", evidence⟩ := by
  rw [evidenceSource, Option.map_eq_some_iff]
  simp only [Option.filter_eq_some_iff, canonicalBinding_iff, and_assoc, @eq_comm _ entry]

theorem structuralEvidence_eq_some {evidence : List AtlasEdgeEvidenceSourceRef} :
    structuralEvidence edge source target = some evidence ↔
      ∃ values, evidenceRefs edge = some values ∧
        (values.filterMap (evidenceSource edge source target)).length = values.length ∧
        evidence = sortBy
          (fun entry => JavaScript.codeUnits entry.evidence.canonicalEvidenceKey)
          (values.filterMap (evidenceSource edge source target)) := by
  rw [structuralEvidence, Option.bind_eq_some_iff]
  simp only [Option.ite_none_right_eq_some, Option.some.injEq, @eq_comm _ evidence]

/-- What the accepted evidence of an edge looks like. -/
structure IsAccepted (edge : Json) (source target : String)
    (evidence : List AtlasEdgeEvidenceSourceRef) : Prop where
  ne_nil : evidence ≠ []
  length_le : evidence.length ≤ edgeEvidenceCap
  source_eq : ∀ entry ∈ evidence, entry.source = source
  target_eq : ∀ entry ∈ evidence, entry.target = target
  relationship : ∀ entry ∈ evidence,
    asText (edge.field? "relationship") = some entry.relationship
  bound : ∀ entry ∈ evidence, IsBound edge source target entry.evidence

theorem isAccepted_of_structural {evidence : List AtlasEdgeEvidenceSourceRef}
    (h : structuralEvidence edge source target = some evidence) :
    IsAccepted edge source target evidence := by
  obtain ⟨values, hvalues, hlength, rfl⟩ := structuralEvidence_eq_some.1 h
  obtain ⟨-, hne, hcap⟩ := evidenceRefs_some hvalues
  have hmem {entry : AtlasEdgeEvidenceSourceRef} (hentry : entry ∈ sortBy
      (fun entry => JavaScript.codeUnits entry.evidence.canonicalEvidenceKey)
      (values.filterMap (evidenceSource edge source target))) :
      ∃ found, IsBound edge source target found ∧
        entry = ⟨source, target, (asText (edge.field? "relationship")).getD "", found⟩ := by
    obtain ⟨value, -, hvalue⟩ := List.mem_filterMap.1 (StableSort.mem_sortBy.1 hentry)
    obtain ⟨found, -, hbound, heq⟩ := evidenceSource_eq_some.1 hvalue
    exact ⟨found, hbound, heq⟩
  have hsize := StableSort.length_sortBy
    (fun entry : AtlasEdgeEvidenceSourceRef =>
      JavaScript.codeUnits entry.evidence.canonicalEvidenceKey)
    (values.filterMap (evidenceSource edge source target))
  refine ⟨fun heq => hne ?_, ?_, ?_, ?_, ?_, ?_⟩
  · rw [heq, List.length_nil, hlength] at hsize
    exact List.length_eq_zero_iff.1 hsize.symm
  · rw [hsize, hlength]
    exact hcap
  · intro entry hentry
    obtain ⟨found, -, rfl⟩ := hmem hentry
    rfl
  · intro entry hentry
    obtain ⟨found, -, rfl⟩ := hmem hentry
    rfl
  · intro entry hentry
    obtain ⟨found, hbound, rfl⟩ := hmem hentry
    obtain ⟨relationship, hrelationship, -⟩ := hbound.boundKind
    rw [hrelationship]
    rfl
  · intro entry hentry
    obtain ⟨found, hbound, rfl⟩ := hmem hentry
    exact hbound

/-! What an edge is for -/

def purposeOfKind : RuntimeEvidenceKind → Option EdgePurpose
  | .dockerComposeDependsOn | .systemdRequires | .systemdWants | .systemdPartOf => some .relation
  | .dockerNetworkMembership | .dockerVolumeMount | .dockerPortPublication
  | .dockerDaemonStateBindMount => some .attachment
  | _ => none

theorem purposeOfKind_of_boundKind {relationship : String} {kind : RuntimeEvidenceKind}
    (h : boundKind relationship = some kind) : purposeOfKind kind ≠ none := by
  have hmem := mem_boundKinds h
  simp only [boundKinds, List.mem_cons, Prod.mk.injEq, List.not_mem_nil, or_false] at hmem
  rcases hmem with h | h | h | h | h | h | h | h <;> rw [h.2] <;> decide

section

variable {evidence : List AtlasEdgeEvidenceSourceRef}

/-- All references of an accepted edge are of one kind. -/
theorem IsAccepted.kinds (h : IsAccepted edge source target evidence) :
    ∃ kind relationship, asText (edge.field? "relationship") = some relationship ∧
      boundKind relationship = some kind ∧
      evidence.map (·.evidence.kind) = List.replicate evidence.length kind := by
  obtain ⟨first, hfirst⟩ := List.exists_mem_of_ne_nil _ h.ne_nil
  obtain ⟨relationship, hrelationship, hkind⟩ := (h.bound first hfirst).boundKind
  refine ⟨first.evidence.kind, relationship, hrelationship, hkind, ?_⟩
  rw [List.eq_replicate_iff, List.length_map]
  refine ⟨rfl, fun kind hmem => ?_⟩
  obtain ⟨entry, hentry, rfl⟩ := List.mem_map.1 hmem
  obtain ⟨found, hfound, hentryKind⟩ := (h.bound entry hentry).boundKind
  rw [hrelationship, Option.some.injEq] at hfound
  rw [← hfound, hkind, Option.some.injEq] at hentryKind
  exact hentryKind.symm

theorem edgePurpose_eq {kind : RuntimeEvidenceKind} {relationship : String}
    (hrelationship : asText (edge.field? "relationship") = some relationship)
    (hkind : boundKind relationship = some kind) (hne : evidence ≠ [])
    (hkinds : evidence.map (·.evidence.kind) = List.replicate evidence.length kind) :
    edgePurpose edge evidence = purposeOfKind kind := by
  have hcontains (other : RuntimeEvidenceKind) :
      (evidence.map (·.evidence.kind)).contains other = (kind == other) := by
    rw [hkinds, Bool.eq_iff_iff, List.contains_iff_mem, List.mem_replicate, beq_iff_eq, eq_comm]
    exact and_iff_right fun h => hne (List.length_eq_zero_iff.1 h)
  have hrelates (other : String) : relates edge other = (relationship == other) := by
    rw [relates, hrelationship]
    rfl
  simp only [edgePurpose, hcontains, hrelates]
  have hmem := mem_boundKinds hkind
  simp only [boundKinds, List.mem_cons, Prod.mk.injEq, List.not_mem_nil, or_false] at hmem
  rcases hmem with h | h | h | h | h | h | h | h <;> rw [h.1, h.2] <;> rfl

theorem IsAccepted.purpose (h : IsAccepted edge source target evidence) :
    edgePurpose edge evidence ≠ none := by
  obtain ⟨kind, relationship, hrelationship, hkind, hkinds⟩ := h.kinds
  rw [edgePurpose_eq hrelationship hkind h.ne_nil hkinds]
  exact purposeOfKind_of_boundKind hkind

end

end DockerMap.Web.Atlas
