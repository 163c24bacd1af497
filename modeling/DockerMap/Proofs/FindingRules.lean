import DockerMap.Core.Findings
import DockerMap.Lib.SoleMember

/-! What each finding rule requires, without reference to the order of nodes and edges: a
rule counts edges and identifies nodes, and where it looks for a second edge at most one
will do. -/

namespace DockerMap

section

variable (nodes : List RuntimeMapNode) (edges : List RuntimeMapEdge)

/-- The rules about one edge, with the edges each holds of. -/
def edgeRules : List (RuleText × (RuntimeMapEdge → Bool)) :=
  [(nonCurrentRule, fun edge =>
      pairCount edges isCandidateNonCurrentDeclaredRelationship edge.source edge.target == 1 &&
        (isCandidateNonCurrentDeclaredRelationship edge &&
          joins nodes isSystemdService isSystemdService edge)),
    (unspecifiedAddressRule, fun edge =>
      sourceCount edges (isUnspecifiedAddressPortShape nodes) edge.source == 1 &&
        isCandidateUnspecifiedAddressPort nodes edge),
    (requiresRule, fun edge =>
      pairCount edges isCandidateRequires edge.source edge.target == 1 &&
        (isCandidateRequires edge && joinsInactiveTarget nodes edge)),
    (partOfRule, fun edge =>
      pairCount edges isCandidatePartOf edge.source edge.target == 1 &&
        (isCandidatePartOf edge && joinsInactiveTarget nodes edge)),
    (targetNotActiveRule, fun edge =>
      isSoleComposeDependency nodes edges edge.source edge.target &&
        isCandidateComposeDependency nodes edge &&
        joins nodes (fun source => isDockerContainer source && hasServiceStatus [.running] source)
          (fun target => isDockerContainer target && hasServiceStatus [.stopped, .failed] target)
          edge),
    (daemonStateRule, fun edge =>
      pairCount edges (isDockerDaemonStateShape nodes) edge.source edge.target == 1 &&
        isCandidateDockerDaemonStateBindMount nodes edge)]

/-- A rule about two edges of one observation. -/
structure JointRule where
  text : RuleText
  holds : RuntimeMapEdge → Bool
  partner : RuntimeMapEdge → RuntimeMapEdge → Bool

def daemonStatePortJoin : JointRule where
  text := daemonStatePortRule
  holds edge := sourceCount edges (isDockerDaemonStatePairShape nodes) edge.source == 1 &&
    sourceCount edges (isDockerPortPublicationPairShape nodes) edge.source == 1 &&
    isCandidateDockerDaemonStateBindMount nodes edge
  partner edge candidate := candidate.source == edge.source &&
    isCandidateDockerDaemonStatePortPublication nodes candidate

def mutualDependencyJoin : JointRule where
  text := mutualDependencyRule
  holds edge := edge.source < edge.target &&
    isSoleComposeDependency nodes edges edge.source edge.target &&
    isCandidateComposeDependency nodes edge &&
    isSoleComposeDependency nodes edges edge.target edge.source
  partner edge candidate := candidate.source == edge.target && candidate.target == edge.source &&
    isCandidateComposeDependency nodes candidate

def jointRules : List JointRule :=
  [daemonStatePortJoin nodes edges, mutualDependencyJoin nodes edges]

def JointRule.findings (rule : JointRule) : List Finding :=
  edges.filterMap fun edge =>
    if rule.holds edge then (edges.find? (rule.partner edge)).bind (jointFinding rule.text edge)
    else none

/-- The memberships of an internal network the rule speaks about, and the ports. -/
def isSoleMembership (edge : RuntimeMapEdge) : Bool :=
  pairCount edges (isDockerMembershipShape nodes) edge.source edge.target == 1 &&
    isCandidateInternalNetworkMembership nodes edge

def isSolePort (port : RuntimeMapEdge) : Bool :=
  pairCount edges (isDockerPortPublicationPairShape nodes) port.source port.target == 1 &&
    isCandidatePortPublication nodes port

/-- The findings of a map, by the kind of rule they come from. -/
inductive Finds : RuleText → Finding → Prop
  | edge {rule : RuleText × (RuntimeMapEdge → Bool)} {edge : RuntimeMapEdge}
      (hrule : rule ∈ edgeRules nodes edges) (hedge : edge ∈ edges) (hholds : rule.2 edge = true) :
      Finds rule.1 (rule.1.about edge)
  | collision {edge : RuntimeMapEdge} (hedge : edge ∈ edges) (hcount : integrityEdgeCount edges = 1)
      (hcandidate : isCandidateRuntimeIdentityCollision nodes edge = true) :
      Finds collisionRule (collisionRule.finding edge "" (edge.evidenceRefs.take 1))
  | joint {rule : JointRule} {edge other : RuntimeMapEdge} {finding : Finding}
      (hrule : rule ∈ jointRules nodes edges) (hedge : edge ∈ edges)
      (hholds : rule.holds edge = true) (hother : other ∈ edges)
      (hpartner : rule.partner edge other = true)
      (hfinding : jointFinding rule.text edge other = some finding) : Finds rule.text finding
  | internalNetworkPort {edge port : RuntimeMapEdge} (hedge : edge ∈ edges)
      (hmember : isSoleMembership nodes edges edge = true) (hport : port ∈ edges)
      (hsource : port.source = edge.source) (hpublished : isSolePort nodes edges port = true) :
      Finds internalNetworkPortRule (internalNetworkPortFinding edge port)

/-! The lists of findings -/

/-- The rules in the order they run, each with its findings. -/
def ruleFindings : List (RuleText × List Finding) :=
  [(nonCurrentRule, nonCurrentFindings nodes edges), (collisionRule, collisionFindings nodes edges),
    (unspecifiedAddressRule, unspecifiedAddressFindings nodes edges),
    (requiresRule, requiresFindings nodes edges), (partOfRule, partOfFindings nodes edges),
    (daemonStatePortRule, daemonStatePortFindings nodes edges),
    (mutualDependencyRule, mutualDependencyFindings nodes edges),
    (targetNotActiveRule, targetNotActiveFindings nodes edges),
    (daemonStateRule, daemonStateFindings nodes edges),
    (internalNetworkPortRule, internalNetworkPortFindings nodes edges)]

/-- The findings of one rule, told by its kind. -/
inductive IsRule : RuleText × List Finding → Prop
  | edge {rule : RuleText × (RuntimeMapEdge → Bool)} (hrule : rule ∈ edgeRules nodes edges) :
      IsRule (rule.1, (edges.filter rule.2).map rule.1.about)
  | collision : IsRule (collisionRule, collisionFindings nodes edges)
  | joint {rule : JointRule} (hrule : rule ∈ jointRules nodes edges) :
      IsRule (rule.text, rule.findings edges)
  | internalNetworkPort : IsRule (internalNetworkPortRule, internalNetworkPortFindings nodes edges)

theorem deriveFindings_eq {runtimeMap : RuntimeMap} (h : runtimeMap.source ≠ some .mock) :
    deriveFindings runtimeMap =
      ((ruleFindings runtimeMap.nodes runtimeMap.edges).flatMap Prod.snd).insertionSort
        findingOrder := by
  rw [deriveFindings, if_neg h]
  simp only [ruleFindings, List.flatMap_cons, List.flatMap_nil, List.append_nil, List.append_assoc]

end

section

variable {nodes : List RuntimeMapNode} {edges : List RuntimeMapEdge}

theorem isRule_of_mem {p : RuleText × List Finding} (h : p ∈ ruleFindings nodes edges) :
    IsRule nodes edges p := by
  simp only [ruleFindings, List.mem_cons, List.not_mem_nil, or_false] at h
  rcases h with rfl | rfl | rfl | rfl | rfl | rfl | rfl | rfl | rfl | rfl
  · exact .edge (List.mem_of_getElem? (i := 0) rfl)
  · exact .collision
  · exact .edge (List.mem_of_getElem? (i := 1) rfl)
  · exact .edge (List.mem_of_getElem? (i := 2) rfl)
  · exact .edge (List.mem_of_getElem? (i := 3) rfl)
  · exact .joint (List.mem_of_getElem? (i := 0) rfl)
  · exact .joint (List.mem_of_getElem? (i := 1) rfl)
  · exact .edge (List.mem_of_getElem? (i := 4) rfl)
  · exact .edge (List.mem_of_getElem? (i := 5) rfl)
  · exact .internalNetworkPort

theorem mem_of_isRule {p : RuleText × List Finding} (h : IsRule nodes edges p) :
    p ∈ ruleFindings nodes edges := by
  cases h with
  | edge hrule =>
    simp only [edgeRules, List.mem_cons, List.not_mem_nil, or_false] at hrule
    rcases hrule with rfl | rfl | rfl | rfl | rfl | rfl
    · exact List.mem_of_getElem? (i := 0) rfl
    · exact List.mem_of_getElem? (i := 2) rfl
    · exact List.mem_of_getElem? (i := 3) rfl
    · exact List.mem_of_getElem? (i := 4) rfl
    · exact List.mem_of_getElem? (i := 7) rfl
    · exact List.mem_of_getElem? (i := 8) rfl
  | collision => exact List.mem_of_getElem? (i := 1) rfl
  | joint hrule =>
    simp only [jointRules, List.mem_cons, List.not_mem_nil, or_false] at hrule
    rcases hrule with rfl | rfl
    · exact List.mem_of_getElem? (i := 5) rfl
    · exact List.mem_of_getElem? (i := 6) rfl
  | internalNetworkPort => exact List.mem_of_getElem? (i := 9) rfl

/-- At most one edge will do as the second edge of a joint finding. -/
theorem countP_partner_le_one {rule : JointRule} (hrule : rule ∈ jointRules nodes edges)
    {edge : RuntimeMapEdge} (hholds : rule.holds edge = true) :
    edges.countP (rule.partner edge) ≤ 1 := by
  simp only [jointRules, List.mem_cons, List.not_mem_nil, or_false] at hrule
  rcases hrule with rfl | rfl
  · simp only [daemonStatePortJoin, Bool.and_eq_true, beq_iff_eq] at hholds
    refine le_trans (List.countP_mono_left fun port _ hport => ?_) hholds.1.2.le
    simp only [daemonStatePortJoin, isCandidateDockerDaemonStatePortPublication,
      Bool.and_eq_true] at hport
    rw [hport.2.1.1.2, Bool.true_and]
    exact hport.1
  · simp only [mutualDependencyJoin, isSoleComposeDependency, Bool.and_eq_true,
      beq_iff_eq] at hholds
    refine le_trans (List.countP_mono_left fun other _ hother => ?_) hholds.2.2.le
    simp only [mutualDependencyJoin, Bool.and_eq_true] at hother
    rw [hother.2, hother.1.1, hother.1.2]
    rfl

theorem JointRule.mem_findings {rule : JointRule} (hrule : rule ∈ jointRules nodes edges)
    {finding : Finding} : finding ∈ rule.findings edges ↔
      ∃ edge ∈ edges, rule.holds edge = true ∧ ∃ other ∈ edges, rule.partner edge other = true ∧
        jointFinding rule.text edge other = some finding := by
  simp only [JointRule.findings, List.mem_filterMap]
  refine exists_congr fun edge => and_congr_right fun _ => ?_
  split_ifs with hholds
  · simp only [Option.bind_eq_some_iff, hholds, true_and,
      SoleMember.find?_eq_some_iff (countP_partner_le_one hrule hholds) fun _ _ h => h, and_assoc]
  · simp [hholds]

/-- A finding of a rule is one the rule's conditions give. -/
theorem IsRule.finds {p : RuleText × List Finding} (h : IsRule nodes edges p) {finding : Finding}
    (hmem : finding ∈ p.2) : Finds nodes edges p.1 finding := by
  cases h with
  | edge hrule =>
    obtain ⟨edge, hedge, rfl⟩ := List.mem_map.1 hmem
    exact .edge hrule (List.mem_filter.1 hedge).1 (List.mem_filter.1 hedge).2
  | collision =>
    simp only [collisionFindings, List.mem_map, List.mem_filter, Bool.and_eq_true,
      beq_iff_eq] at hmem
    obtain ⟨edge, ⟨hedge, hcount, hcandidate⟩, rfl⟩ := hmem
    exact .collision hedge hcount hcandidate
  | joint hrule =>
    obtain ⟨edge, hedge, hholds, other, hother, hpartner, hfinding⟩ :=
      (JointRule.mem_findings hrule).1 hmem
    exact .joint hrule hedge hholds hother hpartner hfinding
  | internalNetworkPort =>
    simp only [internalNetworkPortFindings, List.mem_flatMap, List.mem_map,
      List.mem_filter, Bool.and_eq_true, beq_iff_eq] at hmem
    obtain ⟨edge, ⟨hedge, hmember⟩, port, ⟨hport, ⟨hsource, hsole⟩, hpublished⟩, rfl⟩ := hmem
    exact .internalNetworkPort hedge (by simp [isSoleMembership, hmember]) hport hsource
      (by simp [isSolePort, hsole, hpublished])

theorem Finds.exists_mem {text : RuleText} {finding : Finding}
    (h : Finds nodes edges text finding) : ∃ p ∈ ruleFindings nodes edges, finding ∈ p.2 := by
  cases h with
  | edge hrule hedge hholds =>
    exact ⟨_, mem_of_isRule (.edge hrule),
      List.mem_map.2 ⟨_, List.mem_filter.2 ⟨hedge, hholds⟩, rfl⟩⟩
  | collision hedge hcount hcandidate =>
    refine ⟨_, mem_of_isRule .collision, List.mem_map.2 ⟨_, List.mem_filter.2 ⟨hedge, ?_⟩, rfl⟩⟩
    rw [hcount, hcandidate]
    rfl
  | joint hrule hedge hholds hother hpartner hfinding =>
    exact ⟨_, mem_of_isRule (.joint hrule), (JointRule.mem_findings hrule).2
      ⟨_, hedge, hholds, _, hother, hpartner, hfinding⟩⟩
  | internalNetworkPort hedge hmember hport hsource hpublished =>
    refine ⟨_, mem_of_isRule .internalNetworkPort, List.mem_flatMap.2
      ⟨_, List.mem_filter.2 ⟨hedge, hmember⟩, List.mem_map.2
        ⟨_, List.mem_filter.2 ⟨hport, ?_⟩, rfl⟩⟩⟩
    rw [hsource, beq_self_eq_true, Bool.true_and, ← hsource]
    exact hpublished

theorem mem_deriveFindings {runtimeMap : RuntimeMap} (hmock : runtimeMap.source ≠ some .mock)
    {finding : Finding} : finding ∈ deriveFindings runtimeMap ↔
      ∃ text, Finds runtimeMap.nodes runtimeMap.edges text finding := by
  rw [deriveFindings_eq hmock, List.mem_insertionSort, List.mem_flatMap]
  constructor
  · rintro ⟨p, hp, hmem⟩
    exact ⟨p.1, (isRule_of_mem hp).finds hmem⟩
  · rintro ⟨text, hfinds⟩
    exact hfinds.exists_mem

/-! What every finding shows -/

theorem jointFinding_eq_some {text : RuleText} {edge other : RuntimeMapEdge} {finding : Finding} :
    jointFinding text edge other = some finding ↔
      ∃ evidence otherEvidence, edge.evidenceRefs.head? = some evidence ∧
        other.evidenceRefs.head? = some otherEvidence ∧
        sameObservation evidence otherEvidence = true ∧
        text.finding edge (pairIdentity edge.source edge.target) [evidence, otherEvidence] =
          finding := by
  unfold jointFinding
  cases edge.evidenceRefs.head? with
  | none => simp
  | some evidence =>
    cases other.evidenceRefs.head? with
    | none => simp
    | some otherEvidence => simp

theorem Finds.ruleId {text : RuleText} {finding : Finding} (h : Finds nodes edges text finding) :
    finding.ruleId = text.ruleId := by
  cases h with
  | edge => rfl
  | collision => rfl
  | joint hrule hedge hholds hother hpartner hfinding =>
    obtain ⟨_, _, _, _, _, rfl⟩ := jointFinding_eq_some.1 hfinding
    rfl
  | internalNetworkPort => rfl

theorem uniqueNode_eq_some {id : String} {node : RuntimeMapNode} :
    uniqueNode nodes id = some node ↔
      nodes.countP (fun other => other.id == id) = 1 ∧ node ∈ nodes ∧ node.id = id := by
  unfold uniqueNode
  split_ifs with hcount
  · rw [SoleMember.find?_eq_some_iff hcount.le fun _ _ h => h, beq_iff_eq, and_iff_right hcount]
  · simp [hcount]

theorem joins_iff {source target : RuntimeMapNode → Bool} {edge : RuntimeMapEdge} :
    joins nodes source target edge = true ↔
      (∃ node, uniqueNode nodes edge.source = some node ∧ source node = true) ∧
        ∃ node, uniqueNode nodes edge.target = some node ∧ target node = true := by
  simp only [joins, Bool.and_eq_true, Option.any_eq_true]

end

end DockerMap
