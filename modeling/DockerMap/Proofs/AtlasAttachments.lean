import DockerMap.Proofs.AtlasProjection
import DockerMap.Web.AtlasLocalContext

/-! No attachment of a subject is lost on the way to its rail: what the rail does not show, and
what the projection has dropped, is counted. -/

namespace DockerMap.Web.Atlas

open StableSort (sortBy)

/-! Kinds -/

def localKindOf : RuntimeEvidenceKind → Option LocalAttachmentKind
  | .dockerNetworkMembership => some .networkMembership
  | .dockerVolumeMount => some .storageAttachment
  | .dockerPortPublication => some .portPublication
  | .dockerDaemonStateBindMount => some .daemonStateContext
  | _ => none

theorem localKindOf_of_purpose {kind : RuntimeEvidenceKind}
    (h : purposeOfKind kind = some .attachment) : (localKindOf kind).isSome = true := by
  cases kind <;> first | rfl | cases h

section

variable {edge : Json} {source target : String}

theorem starts_container {kind : RuntimeEvidenceKind}
    (h : dockerEnds edge source target kind = true) :
    starts source "docker_container_" = true := by
  cases kind <;> simp only [dockerEnds, Bool.and_eq_true, Bool.false_eq_true] at h
  · exact h.1.2
  · exact h.1.2
  · exact h.1.2
  · exact h.1.2
  · exact h.1.2

/-- The rail reads a Docker fact the way the projection does. -/
theorem localKind_eq {entry : AtlasEdgeEvidenceSourceRef} {kind : RuntimeEvidenceKind}
    (hrelationship : Api.asText (edge.field? "relationship") = some entry.relationship)
    (h : dockerEnds edge source target kind = true) :
    localKind entry target kind = localKindOf kind := by
  have hrelates (relationship : String) (hrelates : relates edge relationship = true) :
      entry.relationship = relationship :=
    Option.some.inj (hrelationship.symm.trans (relates_iff.1 hrelates))
  cases kind <;> simp only [dockerEnds, Bool.and_eq_true, Bool.false_eq_true, beq_iff_eq] at h
  · exact if_pos ⟨hrelates _ h.1.1, h.2⟩
  · exact if_pos ⟨hrelates _ h.1.1, h.2⟩
  · exact if_pos ⟨hrelates _ h.1.1, h.2⟩
  · rfl
  · exact if_pos ⟨hrelates _ h.1.1, h.2⟩

theorem canonicalDockerAttachment_eq {entry : AtlasEdgeEvidenceSourceRef}
    (hfact : IsDockerFact source entry.evidence) (hsource : entry.source = source)
    (htarget : entry.target = target)
    (hrelationship : Api.asText (edge.field? "relationship") = some entry.relationship)
    (hends : dockerEnds edge source target entry.evidence.kind = true) :
    canonicalDockerAttachment entry source target = localKindOf entry.evidence.kind := by
  rw [canonicalDockerAttachment, if_neg]
  · exact localKind_eq hrelationship hends
  · simp [hfact.version, hfact.provider, hfact.assertionKind, hfact.freshness,
      hfact.providerSlot, hfact.subjectRef, hsource, htarget, starts_container hends]

/-- What the rail says of every reference of an attachment. -/
theorem exists_localKind {evidence : List AtlasEdgeEvidenceSourceRef}
    (h : IsAccepted edge source target evidence)
    (hpurpose : edgePurpose edge evidence = some .attachment) :
    ∃ (kind : RuntimeEvidenceKind) (found : LocalAttachmentKind), localKindOf kind = some found ∧
      evidence.map (·.evidence.kind) = List.replicate evidence.length kind ∧
      (∀ entry ∈ evidence, canonicalDockerAttachment entry source target = some found) ∧
      dockerEnds edge source target kind = true := by
  obtain ⟨kind, relationship, hrelationship, hkind, hkinds⟩ := h.kinds
  rw [edgePurpose_eq hrelationship hkind h.ne_nil hkinds] at hpurpose
  obtain ⟨found, hfound⟩ := Option.isSome_iff_exists.1 (localKindOf_of_purpose hpurpose)
  have hall (entry : AtlasEdgeEvidenceSourceRef) (hentry : entry ∈ evidence) :
      entry.evidence.kind = kind := by
    have hmem : entry.evidence.kind ∈ evidence.map (·.evidence.kind) := List.mem_map_of_mem hentry
    rw [hkinds] at hmem
    exact List.eq_of_mem_replicate hmem
  have hends (entry : AtlasEdgeEvidenceSourceRef) (hentry : entry ∈ evidence) :
      IsDockerFact source entry.evidence ∧ dockerEnds edge source target kind = true := by
    have hbound := h.bound entry hentry
    rw [← hall entry hentry] at hfound ⊢
    cases hbound with
    | docker hfact hends => exact ⟨hfact, hends⟩
    | systemd _ _ hrelates =>
      generalize entry.evidence.kind = found at *
      cases found <;> simp [systemdRelates, localKindOf] at hrelates hfound
  obtain ⟨first, hfirst⟩ := List.exists_mem_of_ne_nil _ h.ne_nil
  refine ⟨kind, found, hfound, hkinds, fun entry hentry => ?_, (hends first hfirst).2⟩
  rw [canonicalDockerAttachment_eq (hends entry hentry).1 (h.source_eq entry hentry)
    (h.target_eq entry hentry) (h.relationship entry hentry)
    ((hall entry hentry).symm ▸ (hends entry hentry).2), hall entry hentry, hfound]

/-- The key of a context is not derived. -/
theorem not_derived_context {kind : RuntimeEvidenceKind}
    (h : dockerEnds edge source target kind = true)
    (hkind : (localKindOf kind).isSome = true) : starts target "atlas:" = false := by
  have hclash (word : String) (hword : starts target word = true)
      (hfront : ¬ word.toList <+: "atlas:".toList) (hback : ¬ "atlas:".toList <+: word.toList) :
      starts target "atlas:" = false := by
    rw [Bool.eq_false_iff]
    intro hatlas
    exact (List.prefix_or_prefix_of_prefix (of_decide_eq_true hword)
      (of_decide_eq_true hatlas)).elim hfront hback
  cases kind <;> simp only [dockerEnds, Bool.and_eq_true, Bool.false_eq_true, beq_iff_eq] at h
  · exact hclash _ h.2 (by decide) (by decide)
  · exact hclash _ h.2 (by decide) (by decide)
  · exact hclash _ h.2 (by decide) (by decide)
  · cases hkind
  · rw [h.2]
    decide

/-- An attachment never joins a subject with itself. -/
theorem source_ne_target {kind : RuntimeEvidenceKind}
    (h : dockerEnds edge source target kind = true)
    (hkind : (localKindOf kind).isSome = true) : source ≠ target := by
  have hsource := starts_container h
  have hclash (word : String) (hword : starts target word = true)
      (hfront : ¬ word.toList <+: "docker_container_".toList)
      (hback : ¬ "docker_container_".toList <+: word.toList) : source ≠ target := by
    intro heq
    rw [heq] at hsource
    exact (List.prefix_or_prefix_of_prefix (of_decide_eq_true hword)
      (of_decide_eq_true hsource)).elim hfront hback
  cases kind <;> simp only [dockerEnds, Bool.and_eq_true, Bool.false_eq_true, beq_iff_eq] at h
  · exact hclash _ h.2 (by decide) (by decide)
  · exact hclash _ h.2 (by decide) (by decide)
  · exact hclash _ h.2 (by decide) (by decide)
  · cases hkind
  · intro heq
    rw [heq, h.2] at hsource
    exact absurd hsource (by decide)

end

/-! The attachments of the model -/

/-- What an attachment of the model stems from. -/
structure IsDrawn (routable : InsertionMap String AtlasSubject) (attachment : AtlasAttachment)
    (edge : Json) : Prop where
  joins : Joins routable edge attachment.subject attachment.context attachment.evidence
  purpose : edgePurpose edge attachment.evidence = some .attachment

theorem isDrawn_of_mem {routable : InsertionMap String AtlasSubject} {edges : List Json}
    {attachment : AtlasAttachment}
    (h : attachment ∈ attachmentsOf (edges.map (edgeOutcome routable))) :
    ∃ edge ∈ edges, IsDrawn routable attachment edge := by
  obtain ⟨outcome, houtcome, hattachment⟩ := List.mem_filterMap.1 h
  obtain ⟨edge, hedge, rfl⟩ := List.mem_map.1 houtcome
  have hfound : edgeOutcome routable edge = .attachment attachment := by
    cases hcase : edgeOutcome routable edge with
    | attachment found =>
      rw [hcase] at hattachment
      exact congrArg _ (Option.some.inj hattachment)
    | relation => rw [hcase] at hattachment; cases hattachment
    | unresolved => rw [hcase] at hattachment; cases hattachment
    | rejected => rw [hcase] at hattachment; cases hattachment
    | unsupported => rw [hcase] at hattachment; cases hattachment
  obtain ⟨hjoins, hpurpose, -⟩ := attachment_of_edgeOutcome hfound
  exact ⟨edge, hedge, hjoins, hpurpose⟩

namespace IsDrawn

variable {routable : InsertionMap String AtlasSubject} {attachment : AtlasAttachment} {edge : Json}

theorem accepted (h : IsDrawn routable attachment edge) :
    IsAccepted edge attachment.subject attachment.context attachment.evidence :=
  isAccepted_of_structural h.joins.structural

theorem kindFor_isSome (h : IsDrawn routable attachment edge) : ∃ kind, kindFor attachment = some kind := by
  obtain ⟨kind, found, -, hkinds, hall, -⟩ := exists_localKind h.accepted h.purpose
  obtain ⟨entry, rest, hevidence⟩ := List.exists_cons_of_ne_nil h.accepted.ne_nil
  have hlength : attachment.evidence.length ≠ 0 := by
    rw [hevidence]
    exact Nat.succ_ne_zero _
  refine ⟨found, ?_⟩
  rw [kindFor, hkinds, List.replicate_dedup hlength, if_neg (by simp), Option.filter_eq_some_iff]
  constructor
  · rw [hevidence, List.head?_cons, Option.bind_some]
    exact hall entry (hevidence ▸ List.mem_cons_self)
  · rw [List.all_eq_true]
    intro other hother
    rw [hall other hother]
    exact beq_self_eq_true _

theorem context_not_derived (h : IsDrawn routable attachment edge) :
    starts attachment.context "atlas:" = false := by
  obtain ⟨kind, found, hkind, -, -, hends⟩ := exists_localKind h.accepted h.purpose
  exact not_derived_context hends (by rw [hkind]; rfl)

/-- Every reference of the attachment leads back to its subject. -/
theorem covers_entry (h : IsDrawn routable attachment edge) {entry : AtlasEdgeEvidenceSourceRef}
    (hentry : entry ∈ attachment.evidence) :
    entry.source = attachment.subject ∧ entry.target ≠ attachment.subject ∧
      (canonicalDockerAttachment entry entry.source entry.target).isSome = true := by
  obtain ⟨kind, found, hkind, -, hall, hends⟩ := exists_localKind h.accepted h.purpose
  have hsource := h.accepted.source_eq entry hentry
  have htarget := h.accepted.target_eq entry hentry
  refine ⟨hsource, ?_, ?_⟩
  · rw [htarget]
    exact (source_ne_target hends (by rw [hkind]; rfl)).symm
  · rw [hsource, htarget, hall entry hentry]
    rfl

end IsDrawn

/-! Counting -/

/-- The edge leads from the subject to a routable one, and its evidence is an attachment's. -/
def attachesFrom (model : AtlasModel) (subject : String) (edge : Json) : Bool :=
  safeKey (edge.field? "source") == some subject &&
    (safeKey (edge.field? "target")).any fun target =>
      model.isRoutable target &&
        (structuralEvidence edge subject target).bind (edgePurpose edge) == some .attachment

theorem attachment?_any {routable : InsertionMap String AtlasSubject} {edge : Json}
    {subject : String} :
    ((edgeOutcome routable edge).attachment?.any fun a => a.subject = subject) = true ↔
      ∃ context evidence, Joins routable edge subject context evidence ∧
        edgePurpose edge evidence = some .attachment := by
  obtain ⟨source, target, evidence, hjoins, ⟨hpurpose, heq⟩ | ⟨hpurpose, heq⟩⟩ |
      ⟨hnone, heq⟩ := edgeOutcome_cases routable edge
  · rw [heq]
    refine iff_of_false Bool.false_ne_true ?_
    rintro ⟨context, evidence', hjoins', hpurpose'⟩
    obtain rfl := Option.some.inj (hjoins.source_key.symm.trans hjoins'.source_key)
    obtain rfl := Option.some.inj (hjoins.target_key.symm.trans hjoins'.target_key)
    obtain rfl := Option.some.inj (hjoins.structural.symm.trans hjoins'.structural)
    rw [hpurpose] at hpurpose'
    cases hpurpose'
  · rw [heq, EdgeOutcome.attachment?, Option.any_some, decide_eq_true_eq]
    constructor
    · rintro rfl
      exact ⟨target, evidence, hjoins, hpurpose⟩
    · rintro ⟨context, evidence', hjoins', -⟩
      exact Option.some.inj (hjoins.source_key.symm.trans hjoins'.source_key)
  · have hfalse : ((edgeOutcome routable edge).attachment?.any fun a => a.subject = subject) =
        false := by
      obtain heq | heq := heq
      · rw [heq]
        rfl
      · rw [heq]
        rfl
    rw [hfalse]
    refine iff_of_false Bool.false_ne_true ?_
    rintro ⟨context, evidence, hjoins, -⟩
    exact hnone subject context evidence hjoins

section

variable {unicode : UnicodeTables} {input : AtlasRuntimeMapInput}
  {findings : Option FindingsOverlay} {subject : String}

theorem attachesFrom_iff
    (h : (projectRuntimeMap unicode input findings).isRoutable subject = true) {edge : Json} :
    attachesFrom (projectRuntimeMap unicode input findings) subject edge = true ↔
      ((edgeOutcome (subjectTable unicode input findings).routable edge).attachment?.any
        fun a => a.subject = subject) = true := by
  rw [attachment?_any, attachesFrom, Bool.and_eq_true, beq_iff_eq, Option.any_eq_true]
  simp only [Bool.and_eq_true, beq_iff_eq, isRoutable_projectRuntimeMap]
  rw [isRoutable_projectRuntimeMap] at h
  constructor
  · rintro ⟨hsource, target, htarget, hroutable, hpurpose⟩
    obtain ⟨evidence, hevidence, hpurpose⟩ := Option.bind_eq_some_iff.1 hpurpose
    exact ⟨target, evidence, ⟨hsource, htarget, h, hroutable, hevidence⟩, hpurpose⟩
  · rintro ⟨target, evidence, hjoins, hpurpose⟩
    refine ⟨hjoins.source_key, target, hjoins.target_key, hjoins.target_routable, ?_⟩
    rw [hjoins.structural]
    exact hpurpose

theorem length_attachmentsFrom (routable : InsertionMap String AtlasSubject) (edges : List Json)
    (subject : String) :
    (attachmentsFrom (attachmentsOf (edges.map (edgeOutcome routable))) subject).length =
      edges.countP fun edge =>
        (edgeOutcome routable edge).attachment?.any fun a => a.subject = subject := by
  induction edges with
  | nil => rfl
  | cons edge edges ih =>
    rw [List.map_cons, List.countP_cons, ← ih, attachmentsOf, attachmentsFrom, attachmentsOf,
      attachmentsFrom]
    cases hcase : (edgeOutcome routable edge).attachment? with
    | none =>
      rw [List.filterMap_cons_none hcase]
      rfl
    | some found =>
      rw [List.filterMap_cons_some hcase, Option.any_some]
      by_cases hsubject : found.subject = subject
      · rw [List.filter_cons_of_pos (by simpa using hsubject), List.length_cons,
          if_pos (by simpa using hsubject)]
      · rw [List.filter_cons_of_neg (by simpa using hsubject),
          if_neg (by simpa using hsubject)]
        rfl

/-- The attachments of a subject, before the cap. -/
theorem count_attachments (hedges : input.edges.length ≤ inputEdgesCap)
    (h : (projectRuntimeMap unicode input findings).isRoutable subject = true) :
    (attachmentsFrom (attachmentsOf (outcomes unicode input findings)) subject).length =
      input.edges.countP (attachesFrom (projectRuntimeMap unicode input findings) subject) := by
  rw [outcomes, length_attachmentsFrom, projectedEdges, if_neg (not_lt.2 hedges),
    (StableSort.sortBy_perm edgeKey input.edges).countP_eq]
  refine List.countP_congr fun edge _ => ?_
  exact (attachesFrom_iff h).symm

end

/-! The rail -/

theorem foldl_addSelected (selected : String) (attachments : List AtlasAttachment)
    (state : List AtlasAttachment × ℕ)
    (h : state.1.length + (attachmentsFrom attachments selected).length ≤
      maxSelectedAttachments) :
    attachments.foldl (addSelected selected) state =
      (state.1 ++ attachmentsFrom attachments selected, state.2) := by
  induction attachments generalizing state with
  | nil => rw [attachmentsFrom, List.filter_nil, List.append_nil]; rfl
  | cons attachment attachments ih =>
    rw [List.foldl_cons, addSelected]
    rw [attachmentsFrom] at h ⊢
    by_cases hsubject : attachment.subject = selected
    · rw [List.filter_cons_of_pos (by simpa using hsubject), List.length_cons] at h
      rw [if_neg (not_not.2 hsubject), if_pos (by omega),
        List.filter_cons_of_pos (by simpa using hsubject), ih]
      · rw [List.append_assoc]
        rfl
      · rw [List.length_append, List.length_singleton, attachmentsFrom]
        omega
    · rw [List.filter_cons_of_neg (by simpa using hsubject)] at h ⊢
      rw [if_pos hsubject]
      exact ih state h

/-- A candidate the rail can show. -/
def IsShowable (candidate : LocalCandidate) : Prop :=
  candidate.kind.isSome = true ∧ ∃ context, candidate.context = some context ∧
    context.routable = true ∧ context.ambiguity = .none

theorem foldl_addCandidate (candidates : List LocalCandidate) (table : EligibleTable)
    (h : ∀ candidate ∈ candidates, IsShowable candidate) :
    (candidates.foldl addCandidate table).eligible.length =
        table.eligible.length + candidates.length ∧
      (candidates.foldl addCandidate table).unresolved = table.unresolved ∧
      (candidates.foldl addCandidate table).ambiguous = table.ambiguous := by
  induction candidates generalizing table with
  | nil => exact ⟨rfl, rfl, rfl⟩
  | cons candidate candidates ih =>
    obtain ⟨hkind, context, hcontext, hroutable, hambiguity⟩ := h candidate List.mem_cons_self
    obtain ⟨kind, hkind⟩ := Option.isSome_iff_exists.1 hkind
    have hstep : addCandidate table candidate =
        { table with
          eligible := table.eligible ++
            [{ attachment := candidate.attachment, kind, context }] } := by
      rw [addCandidate, hkind, hcontext]
      exact if_neg (by simp [hroutable, hambiguity])
    obtain ⟨heligible, hunresolved, hambiguous⟩ := ih (addCandidate table candidate)
      fun other hother => h other (List.mem_cons_of_mem _ hother)
    rw [List.foldl_cons, heligible, hunresolved, hambiguous, hstep, List.length_cons]
    refine ⟨?_, rfl, rfl⟩
    rw [List.length_append, List.length_singleton]
    omega

theorem length_foldl_addVisible (unicode : UnicodeTables) (eligible : List Eligible)
    (state : List AtlasLocalAttachmentItem × InsertionMap LocalAttachmentKind ℕ) :
    (eligible.foldl (addVisible unicode) state).1.length ≤ state.1.length + eligible.length := by
  induction eligible generalizing state with
  | nil => exact le_refl _
  | cons candidate eligible ih =>
    rw [List.foldl_cons, List.length_cons]
    refine (ih _).trans ?_
    rw [addVisible]
    split_ifs
    · omega
    · rw [List.length_append, List.length_singleton]
      omega

/-! Aggregates -/

def coverageOf (edges : EdgeTable) (subject : String) : List AtlasEdgeEvidenceSourceRef :=
  ((edges.attachments.filter (·.subject == subject)).flatMap (·.evidence)).take edgeEvidenceCap

structure IsAggregateOf (edges : EdgeTable) (entry : String × ℕ) (aggregate : AtlasAggregate) :
    Prop where
  degree : highDegreeThreshold < entry.2
  coverage : aggregate.sourceCoverage = coverageOf edges entry.1
  covered : coverageOf edges entry.1 ≠ []
  population : aggregate.population = ⟨entry.2, 0, 0, countOf edges.attachmentOmissions entry.1⟩

theorem addAggregate_cases (edges : EdgeTable) (aggregates : List AtlasAggregate)
    (entry : String × ℕ) :
    (∃ aggregate, IsAggregateOf edges entry aggregate ∧
      addAggregate edges aggregates entry = aggregates ++ [aggregate]) ∨
    (entry.2 ≤ highDegreeThreshold ∨ coverageOf edges entry.1 = []) ∧
      addAggregate edges aggregates entry = aggregates := by
  by_cases hdegree : entry.2 ≤ highDegreeThreshold
  · exact Or.inr ⟨Or.inl hdegree, if_pos hdegree⟩
  · by_cases hcovered : coverageOf edges entry.1 = []
    · exact Or.inr ⟨Or.inr hcovered, (if_neg hdegree).trans (if_pos hcovered)⟩
    · exact Or.inl ⟨_, ⟨not_le.1 hdegree, rfl, hcovered, rfl⟩,
        (if_neg hdegree).trans (if_neg hcovered)⟩

theorem isAggregateOf_of_mem {edges : EdgeTable} {entries : List (String × ℕ)}
    {aggregate : AtlasAggregate} (h : aggregate ∈ entries.foldl (addAggregate edges) []) :
    ∃ entry ∈ entries, IsAggregateOf edges entry aggregate := by
  induction entries using List.reverseRecOn with
  | nil => cases h
  | append_singleton entries entry ih =>
    rw [List.foldl_append, List.foldl_cons, List.foldl_nil] at h
    have hkept (h : aggregate ∈ entries.foldl (addAggregate edges) []) :
        ∃ e ∈ entries ++ [entry], IsAggregateOf edges e aggregate := by
      obtain ⟨e, he, hof⟩ := ih h
      exact ⟨e, List.mem_append_left _ he, hof⟩
    obtain ⟨found, hfound, heq⟩ | ⟨-, heq⟩ :=
      addAggregate_cases edges (entries.foldl (addAggregate edges) []) entry
    · rw [heq, List.mem_append, List.mem_singleton] at h
      obtain h | rfl := h
      · exact hkept h
      · exact ⟨entry, List.mem_append_right _ List.mem_cons_self, hfound⟩
    · rw [heq] at h
      exact hkept h

theorem exists_aggregate {edges : EdgeTable} {entries : List (String × ℕ)} {entry : String × ℕ}
    (hentry : entry ∈ entries) (hdegree : highDegreeThreshold < entry.2)
    (hcovered : coverageOf edges entry.1 ≠ []) :
    ∃ aggregate ∈ entries.foldl (addAggregate edges) [], IsAggregateOf edges entry aggregate := by
  induction entries using List.reverseRecOn with
  | nil => cases hentry
  | append_singleton entries last ih =>
    rw [List.foldl_append, List.foldl_cons, List.foldl_nil]
    obtain ⟨found, hfound, heq⟩ | ⟨hskip, heq⟩ :=
      addAggregate_cases edges (entries.foldl (addAggregate edges) []) last
    · rw [heq]
      obtain hentry | hlast := List.mem_append.1 hentry
      · obtain ⟨aggregate, hmem, hof⟩ := ih hentry
        exact ⟨aggregate, List.mem_append_left _ hmem, hof⟩
      · rw [List.mem_singleton.1 hlast]
        exact ⟨found, List.mem_append_right _ List.mem_cons_self, hfound⟩
    · rw [heq]
      obtain hentry | hlast := List.mem_append.1 hentry
      · exact ih hentry
      · rw [← List.mem_singleton.1 hlast] at hskip
        exact absurd hskip (not_or.2 ⟨not_le.2 hdegree, hcovered⟩)

theorem length_aggregates (edges : EdgeTable) (entries : List (String × ℕ)) :
    (highDegreeThreshold + 1) * (entries.foldl (addAggregate edges) []).length ≤
      (entries.map Prod.snd).sum := by
  induction entries using List.reverseRecOn with
  | nil => exact le_refl _
  | append_singleton entries last ih =>
    rw [List.foldl_append, List.foldl_cons, List.foldl_nil, List.map_append, List.sum_append,
      List.map_singleton, List.sum_singleton]
    obtain ⟨found, hfound, heq⟩ | ⟨-, heq⟩ :=
      addAggregate_cases edges (entries.foldl (addAggregate edges) []) last
    · have hdegree := hfound.degree
      rw [heq, List.length_append, List.length_singleton, Nat.mul_add, Nat.mul_one]
      omega
    · rw [heq]
      omega

/-- The aggregates are numbered as they come. -/
theorem keys_foldl_addAggregate (edges : EdgeTable) (entries : List (String × ℕ)) :
    (entries.foldl (addAggregate edges) []).map AtlasAggregate.key =
      (List.range (entries.foldl (addAggregate edges) []).length).map
        (derivedKey "attachment-aggregate") := by
  induction entries using List.reverseRecOn with
  | nil => rfl
  | append_singleton entries entry ih =>
    rw [List.foldl_append, List.foldl_cons, List.foldl_nil]
    generalize entries.foldl (addAggregate edges) [] = aggregates at ih
    rw [addAggregate]
    dsimp only
    split_ifs
    · exact ih
    · exact ih
    · rw [List.map_append, ih, List.length_append, List.length_singleton, List.range_succ,
        List.map_append]
      rfl

def aggregateKeys (model : AtlasModel) : List String := model.aggregates.map AtlasAggregate.key

section

variable (unicode : UnicodeTables) (input : AtlasRuntimeMapInput)
  (findings : Option FindingsOverlay) {subject : String}

theorem isDrawn_projected {attachment : AtlasAttachment}
    (h : attachment ∈ (projectedTable unicode input findings).attachments) :
    ∃ edge ∈ projectedEdges input,
      IsDrawn (subjectTable unicode input findings).routable attachment edge :=
  isDrawn_of_mem ((attachmentSummary unicode input findings).listed.subset h)

theorem mem_coverageOf {entry : AtlasEdgeEvidenceSourceRef}
    (h : entry ∈ coverageOf (projectedTable unicode input findings) subject) :
    entry.source = subject ∧ entry.target ≠ subject ∧
      (canonicalDockerAttachment entry entry.source entry.target).isSome = true := by
  obtain ⟨attachment, hattachment, hentry⟩ := List.mem_flatMap.1 (List.mem_of_mem_take h)
  obtain ⟨hmem, hsubject⟩ := List.mem_filter.1 hattachment
  obtain ⟨edge, -, hdrawn⟩ := isDrawn_projected unicode input findings hmem
  rw [← eq_of_beq hsubject]
  exact hdrawn.covers_entry hentry

theorem covers_iff {entry : String × ℕ} {aggregate : AtlasAggregate}
    (h : IsAggregateOf (projectedTable unicode input findings) entry aggregate) :
    covers subject aggregate = true ↔ entry.1 = subject := by
  have htake : aggregate.sourceCoverage.take maxAggregateCoverage =
      coverageOf (projectedTable unicode input findings) entry.1 := by
    rw [h.coverage]
    exact List.take_of_length_le (List.length_take_le _ _)
  rw [covers, htake, List.any_eq_true]
  constructor
  · rintro ⟨covered, hmem, hcovered⟩
    simp only [Bool.and_eq_true, beq_iff_eq] at hcovered
    rw [← (mem_coverageOf unicode input findings hmem).1, hcovered.1.1]
  · rintro rfl
    obtain ⟨covered, hmem⟩ := List.exists_mem_of_ne_nil _ h.covered
    obtain ⟨hsource, htarget, hkind⟩ := mem_coverageOf unicode input findings hmem
    refine ⟨covered, hmem, ?_⟩
    rw [Bool.and_eq_true, Bool.and_eq_true, beq_iff_eq, bne_iff_ne]
    exact ⟨⟨hsource, htarget⟩, hkind⟩

theorem length_aggregatesOf :
    (aggregatesOf (projectedTable unicode input findings)).length ≤ maxInputAttachments := by
  have hdegrees := length_aggregates (projectedTable unicode input findings)
    (sortBy (fun entry => JavaScript.codeUnits entry.1)
      (projectedTable unicode input findings).attachmentPopulation.entries)
  have htotal := (attachmentSummary unicode input findings).populationTotal
  have hall := length_attachmentsOf unicode input findings
  rw [((StableSort.sortBy_perm _ _).map Prod.snd).sum_eq] at hdegrees
  rw [InsertionMap.total] at htotal
  simp only [id_eq] at htotal
  change (highDegreeThreshold + 1) * (aggregatesOf _).length ≤ _ at hdegrees
  rw [htotal] at hdegrees
  simp only [highDegreeThreshold, inputEdgesCap, maxInputAttachments] at *
  omega

theorem aggregateKeys_projectRuntimeMap :
    aggregateKeys (projectRuntimeMap unicode input findings) =
      (List.range (projectRuntimeMap unicode input findings).aggregates.length).map
        (derivedKey "attachment-aggregate") := by
  rw [aggregateKeys, projectRuntimeMap_aggregates]
  exact keys_foldl_addAggregate _ _

theorem get?_population (subject : String) :
    (projectedTable unicode input findings).attachmentPopulation.get? subject =
      let all := attachmentsFrom (attachmentsOf (outcomes unicode input findings)) subject
      if all = [] then none else some all.length := by
  have hsummary := attachmentSummary unicode input findings
  have hpopulation := hsummary.population subject
  have hpopulated := hsummary.populated subject
  rw [countOf] at hpopulation
  cases hget : (projectedTable unicode input findings).attachmentPopulation.get? subject with
  | none =>
    rw [hget, Option.getD_none] at hpopulation
    exact (if_pos (List.length_eq_zero_iff.1 hpopulation.symm)).symm
  | some count =>
    rw [hget, Option.getD_some] at hpopulation
    refine Eq.symm ((if_neg fun hnil => ?_).trans (by rw [hpopulation]))
    rw [hnil, List.length_nil] at hpopulation
    exact hpopulated (hget.trans (by rw [hpopulation]))

theorem coverageOf_ne_nil
    (h : attachmentsFrom (attachmentsOf (outcomes unicode input findings)) subject ≠ []) :
    coverageOf (projectedTable unicode input findings) subject ≠ [] := by
  have hkept := (attachmentSummary unicode input findings).attachments subject
  obtain ⟨attachment, rest, hall⟩ := List.exists_cons_of_ne_nil h
  have hmem : attachment ∈ attachmentsFrom
      (projectedTable unicode input findings).attachments subject := by
    rw [hkept, hall]
    exact List.mem_cons_self
  obtain ⟨hmem, hsubject⟩ := List.mem_filter.1 hmem
  obtain ⟨edge, -, hdrawn⟩ := isDrawn_projected unicode input findings hmem
  obtain ⟨entry, hentry⟩ := List.exists_mem_of_ne_nil _ hdrawn.accepted.ne_nil
  have hcovered : entry ∈ ((projectedTable unicode input findings).attachments.filter
      (·.subject == subject)).flatMap (·.evidence) :=
    List.mem_flatMap.2 ⟨attachment, List.mem_filter.2 ⟨hmem, by simpa using hsubject⟩, hentry⟩
  intro hnil
  obtain hzero | hnil := List.take_eq_nil_iff.1 hnil
  · cases hzero
  · rw [hnil] at hcovered
    cases hcovered

/-- The aggregate of a subject, if it has one, says how many attachments there are. -/
theorem aggregateFor_eq (subject : String) :
    (aggregateFor (projectRuntimeMap unicode input findings).aggregates subject).map
        (·.population) =
      let all := attachmentsFrom (attachmentsOf (outcomes unicode input findings)) subject
      if highDegreeThreshold < all.length then
        some ⟨all.length, 0, 0, all.length - attachmentsPerSubjectCap⟩
      else none := by
  have hget := get?_population unicode input findings subject
  have homissions := (attachmentSummary unicode input findings).omissions subject
  have hlength := length_aggregatesOf unicode input findings
  have hentry {entry : String × ℕ} : entry ∈ sortBy
      (fun entry => JavaScript.codeUnits entry.1)
      (projectedTable unicode input findings).attachmentPopulation.entries ↔
        (projectedTable unicode input findings).attachmentPopulation.get? entry.1 =
          some entry.2 := by
    rw [StableSort.mem_sortBy, InsertionMap.get?_eq_some_iff]
  rw [projectRuntimeMap_aggregates, aggregateFor, List.take_of_length_le hlength]
  dsimp only at hget ⊢
  generalize hall : attachmentsFrom (attachmentsOf (outcomes unicode input findings)) subject =
    all at *
  split_ifs with hdegree
  · have hne : all ≠ [] := fun hnil => by
      rw [hnil] at hdegree
      exact absurd hdegree (by decide)
    have hcovered := coverageOf_ne_nil unicode input findings (hall.symm ▸ hne)
    rw [if_neg hne] at hget
    have hlisted := (@hentry (subject, all.length)).2 hget
    obtain ⟨aggregate, hmem, hof⟩ := exists_aggregate hlisted hdegree hcovered
    cases hfind : (aggregatesOf (projectedTable unicode input findings)).find? (covers subject) with
    | none =>
      exact absurd ((covers_iff unicode input findings hof).2 rfl)
        (List.find?_eq_none.1 hfind aggregate hmem)
    | some found =>
      obtain ⟨entry, hfoundEntry, hfound⟩ := isAggregateOf_of_mem (List.mem_of_find?_eq_some hfind)
      have hkey : entry.1 = subject :=
        (covers_iff unicode input findings hfound).1 (List.find?_some hfind)
      have hcount := hentry.1 hfoundEntry
      rw [hkey, hget, Option.some.injEq] at hcount
      rw [Option.map_some, hfound.population, hkey, homissions, hcount]
  · rw [Option.map_eq_none_iff, List.find?_eq_none]
    intro aggregate hmem hcovers
    obtain ⟨entry, hmemEntry, hof⟩ := isAggregateOf_of_mem hmem
    have hcount := hentry.1 hmemEntry
    rw [(covers_iff unicode input findings hof).1 hcovers, hget] at hcount
    have hlarge := hof.degree
    split_ifs at hcount with hnil
    rw [← Option.some.inj hcount] at hlarge
    exact hdegree hlarge

/-! Candidates -/

theorem attachmentsFrom_model (subject : String) :
    (attachmentsFrom (projectRuntimeMap unicode input findings).attachments subject).length =
      min (attachmentsFrom (attachmentsOf (outcomes unicode input findings)) subject).length
        attachmentsPerSubjectCap := by
  have hkept := (attachmentSummary unicode input findings).attachments subject
  have hperm := (StableSort.sortBy_perm
    (fun attachment : AtlasAttachment =>
      [JavaScript.codeUnits attachment.subject, JavaScript.codeUnits attachment.context])
    (projectedTable unicode input findings).attachments).filter
      fun attachment => attachment.subject = subject
  rw [attachmentsFrom, projectRuntimeMap_attachments, hperm.length_eq]
  change (attachmentsFrom _ subject).length = _
  rw [hkept, List.length_take, Nat.min_comm]

theorem length_model_attachments :
    (projectRuntimeMap unicode input findings).attachments.length ≤
      maxModelAttachmentsScanned := by
  rw [projectRuntimeMap_attachments, StableSort.length_sortBy]
  exact (attachmentSummary unicode input findings).listed.length_le.trans
    (length_attachmentsOf unicode input findings)

/-- The context of an attachment is found, and is a routable subject. -/
theorem find?_context {attachment : AtlasAttachment} {edge : Json}
    (h : IsDrawn (subjectTable unicode input findings).routable attachment edge) :
    ∃ context, (projectRuntimeMap unicode input findings).subjects.find?
        (fun subject => subject.key == attachment.context) = some context ∧
      context.routable = true ∧ context.ambiguity = .none := by
  have hroutable := isRoutable_projectRuntimeMap.2 h.joins.target_routable
  obtain ⟨subject, hmem, hsubject⟩ := List.any_eq_true.1 hroutable
  rw [Bool.and_eq_true] at hsubject
  cases hfind : (projectRuntimeMap unicode input findings).subjects.find?
      fun subject => subject.key == attachment.context with
  | none => exact absurd hsubject.2 (List.find?_eq_none.1 hfind subject hmem)
  | some context =>
    have hcontext := List.mem_of_find?_eq_some hfind
    have hkey : context.key = attachment.context := by simpa using List.find?_some hfind
    have hroutable : context.routable = true := by
      by_contra hnot
      have hderived := (isDiagnostic_projected unicode input findings hcontext
        (Bool.eq_false_iff.2 hnot)).derived
      rw [hkey, h.context_not_derived] at hderived
      cases hderived
    obtain ⟨node, -, found, kind, -, -, heq⟩ :=
      isProjected_of_mem unicode input findings hcontext hroutable
    exact ⟨context, rfl, hroutable, by rw [heq]; rfl⟩

theorem isShowable_of_mem {selected : List AtlasAttachment}
    (h : ∀ attachment ∈ selected,
      attachment ∈ (projectRuntimeMap unicode input findings).attachments)
    {candidate : LocalCandidate}
    (hcandidate : candidate ∈
      candidatesOf (projectRuntimeMap unicode input findings) selected) :
    IsShowable candidate := by
  rw [candidatesOf, StableSort.mem_sortBy] at hcandidate
  obtain ⟨attachment, hmem, rfl⟩ := List.mem_map.1 hcandidate
  have hattachment := h attachment hmem
  rw [projectRuntimeMap_attachments, StableSort.mem_sortBy] at hattachment
  obtain ⟨edge, -, hdrawn⟩ := isDrawn_projected unicode input findings hattachment
  obtain ⟨kind, hkind⟩ := hdrawn.kindFor_isSome
  refine ⟨?_, find?_context unicode input findings hdrawn⟩
  dsimp only
  rw [hkind]
  rfl

end

/-! The law -/

theorem safeKey_ne_empty {value : Option Json} {key : String} (h : safeKey value = some key) :
    key ≠ "" := by
  obtain ⟨text, -, hkey⟩ := Option.bind_eq_some_iff.1 h
  dsimp only at hkey
  split_ifs at hkey with hsize hsyntax
  rintro rfl
  have hlength := congrArg (fun text => text.toList.length) (Option.some.inj hkey)
  simp only [String.toList_ofList] at hlength
  have hpositive := hsyntax.1
  rw [hlength] at hpositive
  exact absurd hpositive (by decide)

section

variable {unicode : UnicodeTables} {input : AtlasRuntimeMapInput}
  {findings : Option FindingsOverlay} {subject : String}

theorem routable_ne_empty
    (h : (projectRuntimeMap unicode input findings).isRoutable subject = true) :
    subject ≠ "" := by
  rw [isRoutable_projectRuntimeMap] at h
  obtain ⟨found, hfound⟩ := Option.isSome_iff_exists.1 h
  obtain ⟨node, hrecords, -⟩ := (get?_subjectTable unicode input findings).1 hfound
  have hmem : node ∈ recordsOf (projectedNodes unicode input) subject := by
    rw [hrecords]
    exact List.mem_cons_self
  have hkey := (List.mem_filter.1 hmem).2
  exact safeKey_ne_empty (of_decide_eq_true hkey)

/-- What the rail of a routable subject counts. -/
theorem localAttachmentContext_eq (hedges : input.edges.length ≤ inputEdgesCap)
    (h : (projectRuntimeMap unicode input findings).isRoutable subject = true) :
    ∃ context, localAttachmentContext unicode (projectRuntimeMap unicode input findings)
        (some subject) = some context ∧
      context.population.resolved =
        input.edges.countP (attachesFrom (projectRuntimeMap unicode input findings) subject) ∧
      context.population.unresolved = 0 ∧ context.population.ambiguous = 0 ∧
      context.population.resolved = context.items.length + context.population.omitted := by
  have hcount := count_attachments hedges h
  have haggregate := aggregateFor_eq unicode input findings subject
  have hlength := attachmentsFrom_model unicode input findings subject
  have hscan := List.take_of_length_le (length_model_attachments unicode input findings)
  have hselected : (projectRuntimeMap unicode input findings).attachments.foldl
      (addSelected subject) ([], 0) =
        (attachmentsFrom (projectRuntimeMap unicode input findings).attachments subject, 0) := by
    rw [foldl_addSelected]
    · rfl
    · rw [hlength]
      exact (Nat.zero_add _).trans_le ((Nat.min_le_right _ _).trans (by decide))
  have hcandidates : (candidatesOf (projectRuntimeMap unicode input findings)
      (attachmentsFrom (projectRuntimeMap unicode input findings).attachments subject)).length =
        (attachmentsFrom (projectRuntimeMap unicode input findings).attachments
          subject).length := by
    rw [candidatesOf, StableSort.length_sortBy, List.length_map]
  have hshowable : ∀ candidate ∈ candidatesOf (projectRuntimeMap unicode input findings)
      (attachmentsFrom (projectRuntimeMap unicode input findings).attachments subject),
        IsShowable candidate := fun candidate hcandidate =>
    isShowable_of_mem unicode input findings (fun _ hmem => List.mem_of_mem_filter hmem) hcandidate
  obtain ⟨heligible, hunresolved, hambiguous⟩ := foldl_addCandidate _ {} hshowable
  rw [hcandidates, hlength] at heligible
  have hvisible := length_foldl_addVisible unicode
    ((candidatesOf (projectRuntimeMap unicode input findings)
      (attachmentsFrom (projectRuntimeMap unicode input findings).attachments subject)).foldl
        addCandidate {}).eligible ([], ∅)
  have hfound : ((projectRuntimeMap unicode input findings).subjects.any
      fun s => s.routable && s.key == subject) = true := h
  rw [localAttachmentContext]
  dsimp only
  rw [if_neg (not_or.2 ⟨routable_ne_empty h, not_not.2 hfound⟩), hscan, hselected, haggregate]
  refine ⟨_, rfl, ?_⟩
  dsimp only
  rw [hunresolved, hambiguous]
  generalize hall : (attachmentsFrom (attachmentsOf (outcomes unicode input findings))
    subject).length = all at *
  rw [← hcount]
  simp only [List.length_nil, Nat.zero_add] at heligible hvisible
  by_cases hdegree : highDegreeThreshold < all
  · rw [if_pos hdegree]
    refine ⟨rfl, rfl, rfl, ?_⟩
    simp only [Option.map_some, Option.getD_some]
    omega
  · rw [if_neg hdegree]
    have hcap : all ≤ attachmentsPerSubjectCap :=
      (not_lt.1 hdegree).trans (by decide)
    refine ⟨?_, rfl, rfl, ?_⟩
    · simp only [Option.map_none, Option.getD_none]
      omega
    · simp only [Option.map_none, Option.getD_none]
      omega

theorem sum_dropped_le (hedges : input.edges.length ≤ inputEdgesCap) :
    ((projectRuntimeMap unicode input findings).routableKeys.map fun key =>
      input.edges.countP (attachesFrom (projectRuntimeMap unicode input findings) key) -
        attachmentsPerSubjectCap).sum ≤
      (projectRuntimeMap unicode input findings).stats.boundedOmissions := by
  have hsummary := attachmentSummary unicode input findings
  have hkeys : (projectRuntimeMap unicode input findings).routableKeys.map (fun key =>
      input.edges.countP (attachesFrom (projectRuntimeMap unicode input findings) key) -
        attachmentsPerSubjectCap) =
      (projectRuntimeMap unicode input findings).routableKeys.map fun key =>
        ((projectedTable unicode input findings).attachmentOmissions.get? key).elim 0 id := by
    refine List.map_congr_left fun key hkey => ?_
    have hroutable : (projectRuntimeMap unicode input findings).isRoutable key = true := by
      obtain ⟨subject, hmem, rfl⟩ := List.mem_map.1 hkey
      obtain ⟨hmem, hroutable⟩ := List.mem_filter.1 hmem
      exact List.any_eq_true.2 ⟨subject, hmem, by rw [hroutable, beq_self_eq_true]; rfl⟩
    have homissions := hsummary.omissions key
    rw [count_attachments hedges hroutable] at homissions
    rw [← homissions, countOf]
    cases (projectedTable unicode input findings).attachmentOmissions.get? key with
    | none => rfl
    | some count => rfl
  rw [hkeys]
  refine (InsertionMap.sum_le_total _ _ (nodup_routableKeys unicode input findings)).trans ?_
  exact (Nat.le_of_add_left_le hsummary.omitted).trans (omittedEdges_le unicode input findings)

end

/-- Every attachment of a routable subject is shown on its rail or counted as omitted, and what
the projection has dropped shows in its statistics. -/
theorem attachments_add_up (unicode : UnicodeTables) (input : AtlasRuntimeMapInput)
    (findings : Option FindingsOverlay) (hedges : input.edges.length ≤ inputEdgesCap) :
    (∀ subject, (projectRuntimeMap unicode input findings).isRoutable subject = true →
      ∃ context, localAttachmentContext unicode (projectRuntimeMap unicode input findings)
          (some subject) = some context ∧
        context.population.resolved =
          input.edges.countP (attachesFrom (projectRuntimeMap unicode input findings) subject) ∧
        context.population.unresolved = 0 ∧ context.population.ambiguous = 0 ∧
        context.population.resolved = context.items.length + context.population.omitted) ∧
    ((projectRuntimeMap unicode input findings).routableKeys.map fun key =>
      input.edges.countP (attachesFrom (projectRuntimeMap unicode input findings) key) -
        attachmentsPerSubjectCap).sum ≤
      (projectRuntimeMap unicode input findings).stats.boundedOmissions :=
  ⟨fun _ h => localAttachmentContext_eq hedges h, sum_dropped_le hedges⟩

def networkIds : List String :=
  ["a", "b", "c", "d", "e", "f", "g", "h", "i"].map ("docker_network_" ++ ·)

/-- A container on one network more than its rail keeps. -/
def nineMemberships : AtlasRuntimeMapInput :=
  mapOf (nodeJson "docker_container_a" "docker" "container" ::
      networkIds.map fun network => nodeJson network "docker" "docker_network")
    (networkIds.map fun network => membershipJson "docker_container_a" network [])

theorem attachments_add_up_nine :
    ∃ context, localAttachmentContext plainTables
        (projectRuntimeMap plainTables nineMemberships none) (some "docker_container_a") =
          some context ∧
      context.population.resolved = 9 ∧ context.items.length + context.population.omitted = 9 ∧
      1 ≤ (projectRuntimeMap plainTables nineMemberships none).stats.boundedOmissions := by
  have hroutable : (projectRuntimeMap plainTables nineMemberships none).isRoutable
      "docker_container_a" = true := by
    decide +kernel
  have hcount : nineMemberships.edges.countP (attachesFrom
      (projectRuntimeMap plainTables nineMemberships none) "docker_container_a") = 9 := by
    decide +kernel
  have hdropped : ((projectRuntimeMap plainTables nineMemberships none).routableKeys.map fun key =>
      nineMemberships.edges.countP (attachesFrom
        (projectRuntimeMap plainTables nineMemberships none) key) -
          attachmentsPerSubjectCap).sum = 1 := by
    decide +kernel
  obtain ⟨hcontexts, hbounded⟩ := attachments_add_up plainTables nineMemberships none (by decide)
  obtain ⟨context, hcontext, hresolved, -, -, hsum⟩ := hcontexts _ hroutable
  rw [hcount] at hresolved
  exact ⟨context, hcontext, hresolved, by rw [← hsum, hresolved], hdropped ▸ hbounded⟩

end DockerMap.Web.Atlas
