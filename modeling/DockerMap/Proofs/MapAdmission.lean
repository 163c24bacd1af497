import DockerMap.Proofs.EvidenceNodes
import DockerMap.Proofs.FindingAdmission

/-! The map that a daemon publishes, at the browser boundary: in whatever state a run has left
the daemon, the boundary finds nothing wrong with the evidence of the map. -/

namespace DockerMap

open Api (asText hasText)
open JavaScript (isNullish strictEqual)
open Json (encode)
open Runs
open Sha256 (NoCollision)

/-! Fields of a node -/

section

variable (node : RuntimeMapNode)

theorem node_id : (encode node).field? "id" = some (.str node.id) := rfl

theorem node_provider : (encode node).field? "provider" = some (.str node.provider.wireName) := rfl

theorem node_type : (encode node).field? "type" = some (.str node.kind.wireName) := rfl

theorem node_label : (encode node).field? "label" = some (.str node.label) := rfl

theorem node_status : (encode node).field? "status" = some (Json.nullable node.status) := rfl

theorem node_layer : (encode node).field? "layer" = node.layer.map encode := by
  obtain ⟨_, _, _, _, _, layer, _, service, package⟩ := node
  cases layer <;> cases service <;> cases package <;> rfl

theorem node_metadata : (encode node).field? "metadata" = some (encode node.metadata) := by
  obtain ⟨_, _, _, _, _, layer, _, _, _⟩ := node
  cases layer <;> rfl

theorem node_service : (encode node).field? "service" = node.service.map encode := by
  obtain ⟨_, _, _, _, _, layer, _, service, package⟩ := node
  cases layer <;> cases service <;> cases package <;> rfl

theorem node_package : (encode node).field? "package" = node.package.map encode := by
  obtain ⟨_, _, _, _, _, layer, _, service, package⟩ := node
  cases layer <;> cases service <;> cases package <;> rfl

end

theorem nodesById_encode (nodes : List RuntimeMapNode) (text : String) :
    Api.nodesById (nodes.map encode) (some (.str text)) =
      (nodes.filter fun node => node.id == text).map encode := by
  rw [Api.nodesById, List.filter_map]
  refine congrArg (List.map encode) (List.filter_congr fun node _ => ?_)
  rw [Function.comp_apply, node_id, JavaScript.strictEqual_str]

/-! The listener of a port -/

theorem redact_listenerNode (container : ContainerRecord) {port : String}
    (h : redactRuntimeDisplayText port = port) :
    redactRuntimeNode (listenerNode container port) =
      { listenerNode container port with
        id := redactRuntimeDisplayText (listenerId container port) } := by
  have hstatus : redactRuntimeDisplayText "listening" = "listening" := by decide
  have hmetadata : ((∅ : Metadata).insert "port" port).mapValues redactRuntimeDisplayText =
      (∅ : Metadata).insert "port" port := by
    refine SortedMap.ext_entries ?_
    change [("port", redactRuntimeDisplayText port)] = [("port", port)]
    rw [h]
  simp only [redactRuntimeNode, listenerNode, h, hstatus, hmetadata, Option.map_some,
    Option.map_none]

theorem isSameListener_self {node : RuntimeMapNode} {port status : String} {layer : RuntimeNodeLayer}
    (hprovider : node.provider = .network) (hkind : node.kind = .networkListener)
    (hstatus : node.status = some status) (hlayer : node.layer = some layer)
    (hmetadata : node.metadata = (∅ : Metadata).insert "port" port) (hservice : node.service = none)
    (hpackage : node.package = none) :
    Api.isSameListener (encode node) port (encode node) = true := by
  have hrecord : Api.isRecordOf "port" port (some (encode node.metadata)) = true := by
    rw [hmetadata]
    change ("port" == "port" && asText (some (.str port)) == some port) = true
    rw [asText, beq_self_eq_true, beq_self_eq_true, Bool.and_self]
  have hsame : strictEqual (some (Json.nullable node.status)) (some (Json.nullable node.status)) =
      true := by
    rw [hstatus]
    change (status == status) = true
    exact beq_self_eq_true status
  have hsameLayer : strictEqual (node.layer.map encode) (node.layer.map encode) = true := by
    rw [hlayer]
    change (layer.wireName == layer.wireName) = true
    exact beq_self_eq_true layer.wireName
  rw [Api.isSameListener, hasText, hasText, node_provider, node_type, node_label, node_status,
    node_layer, node_service, node_package, node_metadata, hrecord, hsame, hsameLayer, hprovider,
    hkind, hservice, hpackage, JavaScript.strictEqual_str, beq_self_eq_true]
  decide

theorem portListenerDiagnostic_eq_none {nodes : List RuntimeMapNode} {edge : RuntimeMapEdge}
    (hexists : ∃ node ∈ nodes, node.id = edge.target) {container : ContainerRecord} {port : String}
    (hpublished : isHostPublishedDockerPort port = true)
    (hall : ∀ node ∈ nodes, node.id = edge.target →
      node = redactRuntimeNode (listenerNode container port)) :
    Api.portListenerDiagnostic (nodes.map encode) (encode edge) = none := by
  obtain ⟨host, target, protocol, hparts⟩ := exists_portParts hpublished
  have htarget : (encode edge).field? "target" = some (.str edge.target) := rfl
  set listenerOf := redactRuntimeNode (listenerNode container port) with hlistenerOf
  have hfound : ∀ candidate ∈ Api.nodesById (nodes.map encode) ((encode edge).field? "target"),
      candidate = encode listenerOf := by
    intro candidate hcandidate
    rw [htarget, nodesById_encode] at hcandidate
    obtain ⟨node, hnode, rfl⟩ := List.mem_map.1 hcandidate
    obtain ⟨hmem, hid⟩ := List.mem_filter.1 hnode
    rw [hall node hmem (beq_iff_eq.1 hid)]
  have hnode := redact_listenerNode container hparts.redact
  rw [← hlistenerOf] at hnode
  have hsame : Api.isSameListener (encode listenerOf) port (encode listenerOf) = true := by
    rw [hnode]
    exact isSameListener_self rfl rfl rfl rfl rfl rfl rfl
  have hshape : (hasText (encode listenerOf) "provider" "network" &&
      hasText (encode listenerOf) "type" "network_listener" &&
      ((encode listenerOf).field? "metadata").any Api.isObject) = true := by
    rw [hasText, hasText, node_provider, node_type, node_metadata, hnode]
    rfl
  have hport : (((encode listenerOf).field? "metadata").bind fun metadata =>
      metadata.field? "port") = some (.str port) := by
    rw [node_metadata, hnode]
    rfl
  unfold Api.portListenerDiagnostic
  split
  · rename_i hnil
    obtain ⟨node, hmem, hid⟩ := hexists
    have hmember : encode node ∈ Api.nodesById (nodes.map encode) ((encode edge).field? "target") := by
      rw [htarget, nodesById_encode]
      exact List.mem_map_of_mem (List.mem_filter.2 ⟨hmem, beq_iff_eq.2 hid⟩)
    rw [hnil] at hmember
    cases hmember
  · rename_i listener others hcons
    rw [hcons] at hfound
    have hfirst := hfound listener List.mem_cons_self
    have hevery : (listener :: others).all (Api.isSameListener listener port) = true := by
      rw [List.all_eq_true]
      intro candidate hcandidate
      rw [hfound candidate hcandidate, hfirst, hsame]
    dsimp only
    rw [hfirst] at hevery ⊢
    rw [hshape, hport]
    dsimp only
    rw [hparts.accepted, hevery]
    rfl

/-! The node of a session -/

theorem isCoherentTmuxSessionNode_encode (key : List UInt8) (id : List Char) :
    Api.isCoherentTmuxSessionNode (encode (redactRuntimeNode (tmuxSessionNode key id))) = true := by
  have hlabel : redactRuntimeDisplayText "tmux session" = "tmux session" := by decide
  have hkind : redactRuntimeDisplayText "session" = "session" := by decide
  have hmetadata : ((∅ : Metadata).insert "serviceEntityKind" "session").mapValues
      redactRuntimeDisplayText = (∅ : Metadata).insert "serviceEntityKind" "session" := by
    refine SortedMap.ext_entries ?_
    change [("serviceEntityKind", redactRuntimeDisplayText "session")] =
      [("serviceEntityKind", "session")]
    rw [hkind]
  have hnode : redactRuntimeNode (tmuxSessionNode key id) =
      { tmuxSessionNode key id with
        id := redactRuntimeDisplayText (tmuxSessionNode key id).id } := by
    simp only [redactRuntimeNode, tmuxSessionNode, serviceEntityKindName, hlabel, hmetadata,
      Option.map_none]
  rw [hnode, Api.isCoherentTmuxSessionNode, hasText, hasText, hasText, hasText, node_provider,
    node_type, node_label, node_status, node_layer, node_service, node_package, node_metadata]
  rfl

/-! One fact -/

section

variable {nodes : List RuntimeMapNode} {edge : RuntimeMapEdge} {evidence : RuntimeEvidenceRef}

theorem eq_tmux_of_version {kind : RuntimeEvidenceKind} (h : kind.shape.version = 5) :
    kind = .tmuxSessionListing := by
  cases kind <;> first | rfl | cases h

theorem hasOpaqueRevision_encode (h : '-' ∈ evidence.providerRevision.toList) :
    Api.hasOpaqueRevision (encode evidence) = true := by
  rw [Api.hasOpaqueRevision, evidence_providerRevision, asText_str, Option.any_some,
    evidence_collectedAt, JavaScript.propertyText_num, decide_eq_true_eq]
  exact opaque_of_dash h

/-- The boundary has nothing to say of an admissible fact. -/
theorem AdmissibleEvidence.diagnostic (h : AdmissibleEvidence nodes edge evidence)
    (edges : List Json) :
    Api.evidenceDiagnostic (nodes.map encode) edges (encode edge) (encode evidence) = none := by
  obtain ⟨-, hsubject, hshape, hattested⟩ := evidenceRefMatchesEdge_iff.1 h.valid
  have hof := hasValidVersionedShape_iff.1 hshape
  have hversion : evidence.version ≠ 6 ∧ evidence.version ≠ 7 :=
    (by decide : ∀ version ∈ [1, 2, 3, 4, 5], version ≠ 6 ∧ version ≠ 7) _ h.version
  obtain ⟨row, hrow, hsummary⟩ := h.row
  obtain ⟨row', hrow', hbinds⟩ := (bindsEdge_iff (hof.version ▸ hversion.1)).2 hattested
  obtain rfl : row = row' := Option.some.inj (hrow.symm.trans hrow')
  obtain ⟨hbinding, htarget⟩ :=
    diagnostics_eq_none.2 ⟨hshape, hversion.1, hsubject, row, hrow, hsummary, hbinds⟩
  have hobject : Api.isObject (encode evidence) = true := rfl
  have hcollision : Api.isV7 (encode evidence) = false := by
    rw [Bool.eq_false_iff]
    intro hv7
    exact hversion.2 (isV7_encode.1 hv7).version
  have hlistener : (if hasText (encode evidence) "kind" "docker_port_publication" = true then
      Api.portListenerDiagnostic (nodes.map encode) (encode edge) else none) = none := by
    split_ifs with hkind
    · obtain ⟨hexists, container, port, hpublished, hall⟩ :=
        h.names.listener ((hasText_kind .dockerPortPublication).1 hkind)
      exact portListenerDiagnostic_eq_none hexists hpublished hall
    · rfl
  have hsession : (Api.isV5 (encode evidence) && !Api.withOne
      (some (.arr (Api.nodesById (nodes.map encode) ((encode edge).field? "source"))))
      Api.isCoherentTmuxSessionNode) = false := by
    cases hv5 : Api.isV5 (encode evidence) with
    | false => rfl
    | true =>
      have hkind := eq_tmux_of_version ((isOfShape_iff .v5 hof).1 (isV5_encode.1 hv5))
      obtain ⟨key, id, hnode⟩ := h.names.session hkind
      have hsource : (encode edge).field? "source" = some (.str edge.source) := rfl
      rw [hsource, nodesById_encode, hnode, List.map_singleton, Api.withOne,
        isCoherentTmuxSessionNode_encode]
      rfl
  rw [Api.evidenceDiagnostic, hobject, hbinding, hcollision, htarget, hlistener, hsession,
    hasOpaqueRevision_encode h.revision]
  rfl

end

/-! The fact of a collision -/

theorem isIntegrityRevision_token (boot : BootToken) {n : ℕ} (hpos : 0 < n) :
    Api.isIntegrityRevision (ChangeToken.text boot.text n) = true := by
  have hdigit : ∀ c ∈ Nat.toDigits 10 n, c.isDigit = true := fun c hc =>
    Nat.isDigit_of_mem_toDigits (by decide) (by decide) hc
  obtain ⟨first, hfirst, hne⟩ := Text.head_toDigits hpos
  obtain ⟨rest, hlist⟩ := List.head?_eq_some_iff.1 hfirst
  rw [hlist, List.forall_mem_cons] at hdigit
  have htake : (ChangeToken.text boot.text n).toList.take 32 = boot.text.toList := by
    rw [toList_token, ← boot.length, List.take_left]
  have hdrop : (ChangeToken.text boot.text n).toList.drop 32 = '-' :: first :: rest := by
    rw [toList_token, ← boot.length, List.drop_left, hlist]
  rw [Api.isIntegrityRevision, htake, hdrop, boot.length, boot.wellFormed.2]
  simp [hdigit.1, hne, List.all_eq_true.2 hdigit.2]

section

variable {nodes nodes' : List RuntimeMapNode} {edges edges' : List RuntimeMapEdge}
  {revision : String} {collectedAt : ℕ}

theorem filter_integrity (hreserved : ∀ node ∈ nodes, isReservedIntegrityId node.id = false)
    (hperm : nodes'.Perm (nodes ++ integrityNodes)) :
    nodes'.filter (fun node => node.id == "runtime_integrity_scope") = [integrityScopeNode] ∧
      nodes'.filter (fun node => node.id == "runtime_integrity_risk_identity_collision") =
        [identityCollisionRiskNode] := by
  have hfilter {id : String} (hid : isReservedIntegrityId id = true) :
      (nodes'.filter fun node => node.id == id).Perm
        (integrityNodes.filter fun node => node.id == id) := by
    have hnone : nodes.filter (fun node => node.id == id) = [] := by
      rw [List.filter_eq_nil_iff]
      intro node hnode heq
      have hfree := hreserved node hnode
      rw [beq_iff_eq.1 heq, hid] at hfree
      cases hfree
    have hboth := hperm.filter fun node => node.id == id
    rwa [List.filter_append, hnone, List.nil_append] at hboth
  exact ⟨List.perm_singleton.1 (hfilter (by decide)), List.perm_singleton.1 (hfilter (by decide))⟩

theorem hasCollision_encode (hreserved : ∀ node ∈ nodes, isReservedIntegrityId node.id = false)
    (hperm : nodes'.Perm (nodes ++ integrityNodes)) (hrepeated : duplicateRuntimeNodeIds nodes ≠ []) :
    Api.hasNonSyntheticIdentityCollision (nodes'.map encode) = true := by
  obtain ⟨id, hid⟩ := List.exists_mem_of_ne_nil _ hrepeated
  have hmany : 1 < nodes.countP fun node => node.id == id :=
    of_decide_eq_true (List.mem_filter.1 hid).2
  obtain ⟨node, hnode, hnodeid⟩ := List.countP_pos_iff.1 (Nat.zero_lt_one.trans hmany)
  rw [beq_iff_eq] at hnodeid
  have hlength : 1 < (nodes'.filter fun other => other.id == node.id).length := by
    rw [← List.countP_eq_length_filter, hperm.countP_eq, List.countP_append, hnodeid]
    omega
  have hown : Api.isSyntheticId (encode node) = false := by
    rw [Api.isSyntheticId, hasText, hasText, node_id, asText_str]
    exact hreserved node hnode
  rw [Api.hasNonSyntheticIdentityCollision, List.any_map, List.any_eq_true]
  refine ⟨node, hperm.mem_iff.2 (List.mem_append_left _ hnode), ?_⟩
  rw [Function.comp_apply, hown, node_id, nodesById_encode, List.length_map, Bool.not_false,
    Bool.true_and, decide_eq_true_eq]
  exact hlength

theorem isIdentityCollisionEvidence_encode {evidence : RuntimeEvidenceRef}
    (h : evidence.version ∈ [1, 2, 3, 4, 5]) :
    Api.isIdentityCollisionEvidence (encode evidence) = false := by
  have hversion : evidence.version ≠ 7 :=
    (by decide : ∀ version ∈ [1, 2, 3, 4, 5], version ≠ 7) _ h
  have hother : (JavaScript.asNumber ((encode evidence).field? "version") == some 7) = false := by
    rw [evidence_version, JavaScript.asNumber_num, beq_eq_false_iff_ne, ne_eq, Option.some.injEq]
    exact fun heq => hversion ((Binary64.ofNat_eq_iff (by decide)).1 heq)
  rw [Api.isIdentityCollisionEvidence, hother, Bool.and_false, Bool.false_and, Bool.false_and]

/-- The fact of a collision, under the revision that attests it. -/
structure IsCollisionFact (revision : String) (evidence : RuntimeEvidenceRef) : Prop where
  shape : evidence.hasValidVersionedShape = true
  version : evidence.version = 7
  id : evidence.id = "dockermap_evidence_runtime_identity_collision"
  provider : evidence.provider = .dockermap
  kind : evidence.kind = .runtimeIdentityCollision
  subject : evidence.subjectRef = runtimeIntegrityScopeId
  summary : evidence.summary = Api.runtimeIdentityCollisionEvidenceSummary
  quoted : evidence.providerRevision = revision

theorem isCollisionFact_of_mem {evidence : RuntimeEvidenceRef}
    (h : evidence ∈ (identityCollisionEdge revision collectedAt).evidenceRefs) :
    IsCollisionFact revision evidence := by
  rw [List.mem_singleton.1 h]
  exact ⟨rfl, rfl, rfl, rfl, rfl, rfl, rfl, rfl⟩

theorem IsCollisionFact.isIdentityCollisionEvidence {evidence : RuntimeEvidenceRef}
    (h : IsCollisionFact revision evidence) :
    Api.isIdentityCollisionEvidence (encode evidence) = true := by
  have hobject : Api.isObject (encode evidence) = true := rfl
  have hseven : (some (Binary64.ofNat 7) == some 7) = true := by decide
  rw [Api.isIdentityCollisionEvidence, hobject, evidence_version, JavaScript.asNumber_num, h.version,
    hseven, hasText, evidence_provider, h.provider, hasText, evidence_kind, h.kind]
  rfl

theorem edgeCount_encode
    (hold : ∀ edge ∈ edges, ∀ evidence ∈ edge.evidenceRefs, evidence.version ∈ [1, 2, 3, 4, 5])
    (hperm : edges'.Perm (edges ++ [identityCollisionEdge revision collectedAt])) :
    Api.identityCollisionEdgeCount (edges'.map encode) = 1 := by
  have hedge (edge : RuntimeMapEdge) :
      (Api.withItems ((encode edge).field? "evidenceRefs") fun evidenceRefs =>
        evidenceRefs.any Api.isIdentityCollisionEvidence) =
          edge.evidenceRefs.any fun evidence => Api.isIdentityCollisionEvidence (encode evidence) := by
    have hfield : (encode edge).field? "evidenceRefs" =
        some (.arr (edge.evidenceRefs.map encode)) := rfl
    rw [hfield, Api.withItems, List.any_map]
    rfl
  have hnone : ∀ edge ∈ edges, ¬ (edge.evidenceRefs.any fun evidence =>
      Api.isIdentityCollisionEvidence (encode evidence)) = true := by
    intro edge hmem hany
    obtain ⟨evidence, hevidence, hcollision⟩ := List.any_eq_true.1 hany
    rw [isIdentityCollisionEvidence_encode (hold edge hmem evidence hevidence)] at hcollision
    cases hcollision
  have hnew : ((identityCollisionEdge revision collectedAt).evidenceRefs.any fun evidence =>
      Api.isIdentityCollisionEvidence (encode evidence)) = true := by
    rw [List.any_eq_true]
    exact ⟨_, List.mem_cons_self,
      (isCollisionFact_of_mem List.mem_cons_self).isIdentityCollisionEvidence⟩
  rw [Api.identityCollisionEdgeCount, List.countP_map]
  simp only [Function.comp_def, hedge]
  rw [hperm.countP_eq, List.countP_append, List.countP_eq_zero.2 hnone, List.countP_singleton,
    if_pos hnew]

theorem edgeDiagnostic_eq_none {nodes edges : List Json} {edge : RuntimeMapEdge}
    (h : ∀ evidence ∈ edge.evidenceRefs,
      Api.evidenceDiagnostic nodes edges (encode edge) (encode evidence) = none) :
    Api.edgeDiagnostic nodes edges (encode edge) = none := by
  have hfield : (encode edge).field? "evidenceRefs" =
      some (.arr (edge.evidenceRefs.map encode)) := rfl
  rw [Api.edgeDiagnostic, hfield]
  dsimp only
  rw [List.findSome?_eq_none_iff]
  intro json hjson
  obtain ⟨evidence, hmem, rfl⟩ := List.mem_map.1 hjson
  exact h evidence hmem

/-- A map whose nodes collide, and the map with the fact of it. -/
structure AppendsCollision (nodes nodes' : List RuntimeMapNode) (edges edges' : List RuntimeMapEdge)
    (revision : String) (collectedAt : ℕ) : Prop where
  reserved : ∀ node ∈ nodes, isReservedIntegrityId node.id = false
  repeated : duplicateRuntimeNodeIds nodes ≠ []
  versions : ∀ edge ∈ edges, ∀ evidence ∈ edge.evidenceRefs, evidence.version ∈ [1, 2, 3, 4, 5]
  addedNodes : nodes'.Perm (nodes ++ integrityNodes)
  addedEdge : edges'.Perm (edges ++ [identityCollisionEdge revision collectedAt])
  token : Api.isIntegrityRevision revision = true

theorem IsCollisionFact.identityCollisionDiagnostic {evidence : RuntimeEvidenceRef}
    (h : IsCollisionFact revision evidence)
    (hmap : AppendsCollision nodes nodes' edges edges' revision collectedAt) :
    Api.identityCollisionDiagnostic (nodes'.map encode) (edges'.map encode)
      (encode (identityCollisionEdge revision collectedAt)) (encode evidence) = none := by
  obtain ⟨hscope, hrisk⟩ := filter_integrity hmap.reserved hmap.addedNodes
  have hedge : (Api.withItems ((encode (identityCollisionEdge revision collectedAt)).field?
      "evidenceRefs") (fun evidenceRefs => evidenceRefs.length == 1) &&
      Api.isEmptyRecord ((encode (identityCollisionEdge revision collectedAt)).field? "metadata")) =
        true := rfl
  have hid : hasText (encode evidence) "id" "dockermap_evidence_runtime_identity_collision" =
      true := by
    rw [hasText, evidence_id, asText_str, h.id, beq_self_eq_true]
  have hscopeNode : Api.withOne (some (.arr (Api.nodesById (nodes'.map encode)
      (some (.str "runtime_integrity_scope")))))
      (Api.isFixedNode "integrity_scope" "Runtime identity integrity") = true := by
    rw [nodesById_encode, hscope]
    rfl
  have hriskNode : Api.withOne (some (.arr (Api.nodesById (nodes'.map encode)
      (some (.str "runtime_integrity_risk_identity_collision")))))
      (Api.isFixedNode "host_risk" "Duplicate runtime topology identity") = true := by
    rw [nodesById_encode, hrisk]
    rfl
  have hquoted : (asText ((encode evidence).field? "providerRevision")).any
      Api.isIntegrityRevision = true := by
    rw [evidence_providerRevision, asText_str, Option.any_some, h.quoted, hmap.token]
  rw [Api.identityCollisionDiagnostic, hedge, hid, edgeCount_encode hmap.versions hmap.addedEdge,
    hasCollision_encode hmap.reserved hmap.addedNodes hmap.repeated, hscopeNode, hriskNode, hquoted]
  rfl

/-- The boundary has nothing to say of the fact of a collision. -/
theorem IsCollisionFact.diagnostic {evidence : RuntimeEvidenceRef}
    (h : IsCollisionFact revision evidence)
    (hmap : AppendsCollision nodes nodes' edges edges' revision collectedAt) :
    Api.evidenceDiagnostic (nodes'.map encode) (edges'.map encode)
      (encode (identityCollisionEdge revision collectedAt)) (encode evidence) = none := by
  obtain ⟨row, hrow, hbinds⟩ := (@bindsEdge_iff (identityCollisionEdge revision collectedAt)
    .runtimeIdentityCollision (by decide)).2 rfl
  obtain ⟨hbinding, htarget⟩ := diagnostics_eq_none.2 ⟨h.shape, by rw [h.version]; decide, h.subject,
    row, by rw [h.kind]; exact hrow, h.summary.trans (summary_of_integrity rfl hrow).symm,
    by rw [h.kind]; exact hbinds⟩
  have hof := hasValidVersionedShape_iff.1 h.shape
  have hv7 : Api.isV7 (encode evidence) = true :=
    isV7_encode.2 ((isOfShape_iff .v7 hof).2 (by rw [h.kind]; rfl))
  have hv5 : Api.isV5 (encode evidence) = false := by
    rw [Bool.eq_false_iff]
    intro hv5
    have hfive : evidence.version = 5 := (isV5_encode.1 hv5).version
    rw [h.version] at hfive
    cases hfive
  have hport : hasText (encode evidence) "kind" "docker_port_publication" = false := by
    rw [Bool.eq_false_iff]
    intro hport
    have hpublication := (hasText_kind .dockerPortPublication).1 hport
    rw [h.kind] at hpublication
    cases hpublication
  have hobject : Api.isObject (encode evidence) = true := rfl
  have hdash : '-' ∈ evidence.providerRevision.toList := by
    rw [h.quoted]
    exact dash_of_integrityRevision hmap.token
  rw [Api.evidenceDiagnostic, hobject, hbinding, hv7, h.identityCollisionDiagnostic hmap, htarget,
    hport, hv5, hasOpaqueRevision_encode hdash]
  rfl

end

/-! The map -/

section

variable {runtimeMap runtimeMap' : RuntimeMap}

theorem map_nodes (runtimeMap : RuntimeMap) : (encode runtimeMap).field? "nodes" =
    some (.arr (runtimeMap.nodes.map encode)) := rfl

theorem map_edges (runtimeMap : RuntimeMap) : (encode runtimeMap).field? "edges" =
    some (.arr (runtimeMap.edges.map encode)) := rfl

theorem diagnostic_congr (hnodes : runtimeMap'.nodes = runtimeMap.nodes)
    (hedges : runtimeMap'.edges = runtimeMap.edges) :
    Api.runtimeEvidenceDiagnostic (encode runtimeMap') =
      Api.runtimeEvidenceDiagnostic (encode runtimeMap) := by
  rw [Api.runtimeEvidenceDiagnostic, Api.runtimeEvidenceDiagnostic, map_nodes, map_edges, map_nodes,
    map_edges, hnodes, hedges]

theorem diagnostic_of_facts (h : ∀ edge ∈ runtimeMap.edges, ∀ evidence ∈ edge.evidenceRefs,
      Api.evidenceDiagnostic (runtimeMap.nodes.map encode) (runtimeMap.edges.map encode)
        (encode edge) (encode evidence) = none) :
    Api.runtimeEvidenceDiagnostic (encode runtimeMap) = none := by
  rw [Api.runtimeEvidenceDiagnostic, map_nodes, map_edges]
  dsimp only
  rw [if_pos, List.findSome?_eq_none_iff]
  · intro json hjson
    obtain ⟨edge, hedge, rfl⟩ := List.mem_map.1 hjson
    exact edgeDiagnostic_eq_none (h edge hedge)
  · rw [List.all_eq_true]
    intro json hjson
    obtain ⟨node, -, rfl⟩ := List.mem_map.1 hjson
    rw [node_id]
    rfl

/-- Every fact of the map is one that the boundary admits. -/
def HasAdmissibleFacts (runtimeMap : RuntimeMap) : Prop :=
  ∀ edge ∈ runtimeMap.edges, ∀ evidence ∈ edge.evidenceRefs,
    AdmissibleEvidence runtimeMap.nodes edge evidence

theorem HasAdmissibleFacts.diagnostic (h : HasAdmissibleFacts runtimeMap) :
    Api.runtimeEvidenceDiagnostic (encode runtimeMap) = none :=
  diagnostic_of_facts fun edge hedge evidence hevidence => (h edge hedge evidence hevidence).diagnostic _

theorem HasAdmissibleFacts.diagnostic_append (h : HasAdmissibleFacts runtimeMap)
    (hrepeated : runtimeMapHasIdentityCollision runtimeMap = true) {revision : String}
    (hrevision : Api.isIntegrityRevision revision = true) (collectedAt : ℕ) :
    Api.runtimeEvidenceDiagnostic
      (encode (appendRuntimeIdentityCollisionFact runtimeMap revision collectedAt)) = none := by
  unfold appendRuntimeIdentityCollisionFact
  split_ifs with hreserved
  · exact h.diagnostic
  · rw [not_or, Bool.not_eq_true, List.any_eq_false] at hreserved
    have hfree : ∀ node ∈ runtimeMap.nodes, isReservedIntegrityId node.id = false := fun node hnode =>
      Bool.eq_false_iff.2 (hreserved.2 node hnode)
    have hnodes := sortByKey_perm runtimeNodeSortKey (runtimeMap.nodes ++ integrityNodes)
    have hedges := sortByKey_perm runtimeEdgeSortKey
      (runtimeMap.edges ++ [identityCollisionEdge revision collectedAt])
    refine diagnostic_of_facts fun edge hedge evidence hevidence => ?_
    rcases List.mem_append.1 (hedges.mem_iff.1 hedge) with hold | hnew
    · exact ((h edge hold evidence hevidence).append hnodes).diagnostic _
    · obtain rfl := List.mem_singleton.1 hnew
      exact (isCollisionFact_of_mem hevidence).diagnostic ⟨hfree, of_decide_eq_true hrepeated,
        fun edge hedge evidence hevidence => (h edge hedge evidence hevidence).version, hnodes, hedges,
        hrevision⟩

end

/-! The cache -/

/-- The boot components of the revisions are drawn ones. -/
structure HasBoots (processBoot : BootToken) (cache : DaemonCache) : Prop where
  docker : ∃ boot : BootToken, cache.dockerObservationRevision.boot = boot.text
  integrity : ∃ boot : BootToken,
    (ChangeToken.new boot.text).Extends cache.integrityObservationRevision
  slots : ∀ slot, ∀ revision ∈ (cache.runtimeProviders slot).freshness.dataRevision,
    revision.boot = processBoot.text

theorem integrityRevision_assign {boot : BootToken} {token : IntegrityObservationRevision}
    (h : (ChangeToken.new boot.text).Extends token) (active : Bool) :
    Api.isIntegrityRevision (token.assign active).current = true := by
  have hextends := h.trans (ChangeToken.extends_assign token active)
  have hpos : 0 < (token.assign active).sequence := by
    refine Nat.pos_of_ne_zero fun hzero => ?_
    have hlast := hextends.last hzero
    rw [ChangeToken.assign_last] at hlast
    cases hlast
  rw [ChangeToken.current, hextends.boot]
  exact isIntegrityRevision_token boot hpos

/-- The token of the Docker evidence that a rebuilt map quotes. -/
def rebuiltToken (cache : DaemonCache) : String :=
  (cache.dockerObservationRevision.assign (dockerObservable cache.snapshot cache.mode)).current

theorem quotesTokens_rebuilt {processBoot : BootToken} {cache : DaemonCache}
    (hboots : HasBoots processBoot cache) :
    QuotesTokens (rebuiltToken cache) cache.runtimeProviders := by
  obtain ⟨boot, hboot⟩ := hboots.docker
  refine ⟨⟨boot, (cache.dockerObservationRevision.assign
    (dockerObservable cache.snapshot cache.mode)).sequence, ?_⟩, processBoot, hboots.slots⟩
  rw [rebuiltToken, ChangeToken.current, ChangeToken.assign_boot, hboot]

/-- A rebuilt map is admitted, whatever the cache held before. -/
theorem rebuilt_admitted {processBoot : BootToken} {cache : DaemonCache}
    (hcollects : ∀ slot, ∀ collection ∈ retainedCollection (cache.runtimeProviders slot).observation,
      ∃ raw, PassOf CollectsNodes slot raw ∧ collection = raw.sanitizedForRetention)
    (hboots : HasBoots processBoot cache) (hsha : NoCollision (identityTexts cache.snapshot)) :
    Api.runtimeEvidenceDiagnostic (encode cache.rebuildRuntimeMap.runtimeMap) = none := by
  have htokens := quotesTokens_rebuilt hboots
  obtain ⟨own, hperm, hderived⟩ :=
    nodes_perm hcollects cache.snapshot cache.mode (rebuiltToken cache)
  have hfacts : HasAdmissibleFacts (runtimeMapForSnapshot cache.snapshot cache.mode
      cache.runtimeProviders (rebuiltToken cache)) := by
    intro edge hedge evidence hevidence
    have hendpoints := (hasEndpoints_normalize _ edge).trans (mem_normalize_edges.1 hedge).2
    exact (published_runtimeMapForSnapshot hcollects hedge hevidence).2.admissible htokens
      ⟨hperm, hderived, fun node hnode => exists_collected hcollects hnode⟩ hendpoints hsha
  obtain ⟨boot, hintegrity⟩ := hboots.integrity
  unfold DaemonCache.rebuildRuntimeMap DaemonCache.applyRuntimeIdentityCollisionFact
  dsimp only
  split_ifs with hactive
  · rw [Bool.and_eq_true] at hactive
    exact hfacts.diagnostic_append hactive.2 (integrityRevision_assign hintegrity _) _
  · exact hfacts.diagnostic

/-- What a run keeps of the collections and the tokens of the cache. -/
structure HoldsTokens (reads : ProviderSlot → HostReading → Prop) (processBoot : BootToken)
    (s : AppState) : Prop where
  collects : Collects reads s
  identifies : ∀ slot, IdentifiesRetained processBoot (s.cache.runtimeProviders slot)
  boots : HasBoots processBoot s.cache

/-- What a run keeps of the cache and its map. -/
structure AdmitsMap (processBoot : BootToken) (s : AppState) : Prop where
  tokens : HoldsTokens CollectsNodes processBoot s
  admitted : NoCollision (identityTexts s.cache.snapshot) →
    Api.runtimeEvidenceDiagnostic (encode s.cache.runtimeMap) = none

/-! Steps -/

/-- The cache holds what another one is rebuilt to. -/
structure HoldsRebuilt (cache base : DaemonCache) : Prop where
  texts : identityTexts cache.snapshot = identityTexts base.snapshot
  time : cache.snapshot.lastUpdated = base.snapshot.lastUpdated
  binding : cache.composeRuntimeBinding = base.composeRuntimeBinding
  nodes : cache.runtimeMap.nodes = base.rebuildRuntimeMap.runtimeMap.nodes
  edges : cache.runtimeMap.edges = base.rebuildRuntimeMap.runtimeMap.edges
  slots : cache.runtimeProviders = base.runtimeProviders
  docker : ∃ observable,
    cache.dockerObservationRevision = base.dockerObservationRevision.assign observable
  integrity : ∃ active,
    cache.integrityObservationRevision = base.integrityObservationRevision.assign active
  findings : ∃ revision,
    cache.findings = { base.rebuildRuntimeMap with revision }.assignRevision.findings

theorem holdsRebuilt_publish (cache updated : DaemonCache) (boots : PublicationBoots) :
    HoldsRebuilt (publishDockerSnapshotCache cache updated boots)
      (cache.replacedBy updated boots) := by
  unfold publishDockerSnapshotCache DaemonCache.observeHistory
  dsimp only
  split_ifs
  · exact ⟨rfl, rfl, rfl, rfl, rfl, rfl, ⟨_, rfl⟩, ⟨_, rfl⟩, _, rfl⟩
  · exact ⟨rfl, rfl, rfl, rfl, rfl, rfl, ⟨_, rfl⟩, ⟨_, rfl⟩, _, rfl⟩

theorem integrityRevision_collectSnapshot (processBoot : BootToken) (boots : CacheBoots) (now : ℕ)
    (read : SnapshotRead) :
    (collectSnapshot processBoot boots now read).integrityObservationRevision =
      .new boots.integrity.text := by
  cases read <;> rfl

section

variable {processBoot : BootToken} {s s' : AppState} {e : Event} {cache base : DaemonCache}

/-- A step leaves the cache or rebuilds its map; a new source draws an integrity revision of
its own. -/
theorem CacheStep.kept_or_rebuilt (h : CacheStep processBoot s e cache) :
    cache = s.cache ∨ ∃ base, HoldsRebuilt cache base ∧
      base.dockerObservationRevision = s.cache.dockerObservationRevision ∧
      (base.integrityObservationRevision = s.cache.integrityObservationRevision ∨
        ∃ boot : BootToken, base.integrityObservationRevision = .new boot.text) := by
  cases h with
  | kept => exact Or.inl rfl
  | @published read now boots publication hevent =>
    refine Or.inr ⟨_, holdsRebuilt_publish _ _ publication, rfl, ?_⟩
    unfold DaemonCache.replacedBy
    dsimp only
    split_ifs
    · exact Or.inl rfl
    · exact Or.inr ⟨boots.integrity, integrityRevision_collectSnapshot processBoot boots now read⟩
  | reslotted slots =>
    exact Or.inr ⟨{ s.cache with runtimeProviders := slots },
      ⟨rfl, rfl, rfl, rfl, rfl, rfl, ⟨_, rfl⟩, ⟨_, rfl⟩, _, rfl⟩, rfl, Or.inl rfl⟩

theorem HoldsRebuilt.boots (h : HoldsRebuilt cache base) (hbase : HasBoots processBoot base) :
    HasBoots processBoot cache where
  docker := by
    obtain ⟨boot, hboot⟩ := hbase.docker
    obtain ⟨observable, hassigned⟩ := h.docker
    exact ⟨boot, by rw [hassigned, ChangeToken.assign_boot, hboot]⟩
  integrity := by
    obtain ⟨boot, hextends⟩ := hbase.integrity
    obtain ⟨active, hassigned⟩ := h.integrity
    refine ⟨boot, ?_⟩
    rw [hassigned]
    exact hextends.trans (ChangeToken.extends_assign _ active)
  slots := by
    rw [h.slots]
    exact hbase.slots

section

variable {reads : ProviderSlot → HostReading → Prop}

/-- What a rebuilt map comes from quotes tokens as well. -/
theorem boots_of_step (h : step processBoot s e = some s') (hinv : HoldsTokens reads processBoot s) :
    s'.cache = s.cache ∨ ∃ base, HoldsRebuilt s'.cache base ∧ HasBoots processBoot base := by
  have hidentifies := identifiesRetained_step h hinv.identifies
  rcases (step_cache h).kept_or_rebuilt with hkept | ⟨base, hholds, hdocker, hintegrity⟩
  · exact Or.inl hkept
  · refine Or.inr ⟨base, hholds, ?_, ?_, fun slot revision hrevision => ?_⟩
    · rw [hdocker]
      exact hinv.boots.docker
    · rcases hintegrity with hsame | ⟨boot, hnew⟩
      · rw [hsame]
        exact hinv.boots.integrity
      · rw [hnew]
        exact ⟨boot, .refl _⟩
    · rw [← hholds.slots] at hrevision
      exact (hidentifies slot).boot revision hrevision

theorem holdsTokens_step (hreads : ReadsAs reads s e) (h : step processBoot s e = some s')
    (hinv : HoldsTokens reads processBoot s) : HoldsTokens reads processBoot s' where
  collects := collects_step hreads h hinv.collects
  identifies := identifiesRetained_step h hinv.identifies
  boots := by
    rcases boots_of_step h hinv with hkept | ⟨base, hholds, hbase⟩
    · rw [hkept]
      exact hinv.boots
    · exact hholds.boots hbase

theorem holdsTokens_new (boots : CacheBoots) (now : ℕ) :
    HoldsTokens reads processBoot (AppState.new processBoot boots now) where
  collects := collects_new boots now
  identifies _ := identifiesRetained_unavailable processBoot _
  boots := ⟨⟨boots.docker, ChangeToken.assign_boot _ _⟩, ⟨boots.integrity, .refl _⟩,
    fun _ _ hrevision => by cases hrevision⟩

end

theorem admitsMap_step (hreads : ReadsAs CollectsNodes s e) (h : step processBoot s e = some s')
    (hinv : AdmitsMap processBoot s) : AdmitsMap processBoot s' := by
  have htokens := holdsTokens_step hreads h hinv.tokens
  refine ⟨htokens, fun hsha => ?_⟩
  rcases boots_of_step h hinv.tokens with hkept | ⟨base, hholds, hbase⟩
  · rw [hkept] at hsha ⊢
    exact hinv.admitted hsha
  · rw [diagnostic_congr hholds.nodes hholds.edges]
    rw [hholds.texts] at hsha
    refine rebuilt_admitted ?_ hbase hsha
    rw [← hholds.slots]
    exact htokens.collects.slots

theorem admitsMap_new (boots : CacheBoots) (now : ℕ) :
    AdmitsMap processBoot (AppState.new processBoot boots now) where
  tokens := holdsTokens_new boots now
  admitted _ := diagnostic_of_facts fun _ hedge => by cases hedge

/-- In whatever state a run has left the daemon, the boundary has nothing to say of the map. -/
theorem published_map_admitted {boots : CacheBoots} {now : ℕ} {es : List Event}
    (hrun : Steps (step processBoot) (ReadsAs CollectsNodes) (AppState.new processBoot boots now) es s)
    (hsha : NoCollision (identityTexts s.cache.snapshot)) :
    Api.runtimeEvidenceDiagnostic (encode s.cache.runtimeMap) = none :=
  (hrun.invariant (I := AdmitsMap processBoot)
    (fun _ _ _ hreads hstep hinv => admitsMap_step hreads hstep hinv)
    (admitsMap_new boots now)).admitted hsha

end

/-- A Docker read of an engine that runs one container, which publishes a port. -/
def publishPort (now : ℕ) : Event :=
  .publish (.observed
    { containers := [{ sampleContainer with ports := ["8080:80/tcp"] }], lastUpdated := now } none)
    now sampleBoots samplePublicationBoots

theorem publishPort_texts :
    (step sampleBoot (AppState.new sampleBoot sampleBoots 0) (publishPort 0)).map
      (fun s => identityTexts s.cache.snapshot) = some ["0f", "8080:80/tcp"] := by
  decide

theorem published_map_admitted_port :
    ∃ s, Steps (step sampleBoot) (ReadsAs CollectsNodes) (AppState.new sampleBoot sampleBoots 0)
        [publishPort 0] s ∧
      identityTexts s.cache.snapshot = ["0f", "8080:80/tcp"] ∧
      Api.runtimeEvidenceDiagnostic (encode s.cache.runtimeMap) = none := by
  obtain ⟨s, hstep, htexts⟩ := Option.map_eq_some_iff.1 publishPort_texts
  have hrun : Steps (step sampleBoot) (ReadsAs CollectsNodes) (AppState.new sampleBoot sampleBoots 0)
      [publishPort 0] s :=
    Steps.snoc .nil (fun _ _ hevent => by cases hevent) hstep
  refine ⟨s, hrun, htexts, published_map_admitted hrun ?_⟩
  rw [htexts]
  decide +kernel

end DockerMap
