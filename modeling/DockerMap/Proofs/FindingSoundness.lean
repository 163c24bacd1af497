import DockerMap.Proofs.FindingRules
import DockerMap.Proofs.TextRedaction
import DockerMap.Daemon.Publication

/-! Findings are about uniquely identified nodes, are supported by edges of the map, have
distinct ids, and do not depend on the order of nodes and edges. -/

namespace DockerMap

open Sha256 (NoCollision)

section

variable {nodes : List RuntimeMapNode} {edges : List RuntimeMapEdge}

/-! Support -/

def IdentifiesOne (nodes : List RuntimeMapNode) (id : String) : Prop :=
  nodes.countP (fun node => node.id == id) = 1

/-- Both ends of the edge are uniquely identified. -/
def Joined (nodes : List RuntimeMapNode) (edge : RuntimeMapEdge) : Prop :=
  IdentifiesOne nodes edge.source ∧ IdentifiesOne nodes edge.target

structure IsSupported (nodes : List RuntimeMapNode) (edges : List RuntimeMapEdge)
    (finding : Finding) : Prop where
  subject : IdentifiesOne nodes finding.subjectRef
  target : IdentifiesOne nodes finding.targetRef
  evidence : ∀ evidence ∈ finding.evidenceRefs, ∃ edge ∈ edges,
    (edge.source = finding.subjectRef ∨ edge.source = finding.targetRef) ∧
      evidence ∈ edge.evidenceRefs

theorem joined_of_joins {source target : RuntimeMapNode → Bool} {edge : RuntimeMapEdge}
    (h : joins nodes source target edge = true) : Joined nodes edge := by
  obtain ⟨⟨_, hsource, -⟩, ⟨_, htarget, -⟩⟩ := joins_iff.1 h
  exact ⟨(uniqueNode_eq_some.1 hsource).1, (uniqueNode_eq_some.1 htarget).1⟩

theorem joined_of_composeDependency {edge : RuntimeMapEdge}
    (h : isCandidateComposeDependency nodes edge = true) : Joined nodes edge := by
  simp only [isCandidateComposeDependency, Bool.and_eq_true] at h
  exact joined_of_joins h.1.1.2

theorem joined_of_daemonStateBindMount {edge : RuntimeMapEdge}
    (h : isCandidateDockerDaemonStateBindMount nodes edge = true) : Joined nodes edge := by
  simp only [isCandidateDockerDaemonStateBindMount, isDockerDaemonStateShape,
    isDockerDaemonStatePairShape, Bool.and_eq_true] at h
  exact joined_of_joins h.1.1.2.2

/-- The rules whose findings are named by one pair of ids. -/
def pairRules (nodes : List RuntimeMapNode) (edges : List RuntimeMapEdge) :
    List (RuleText × (RuntimeMapEdge → Bool)) :=
  edgeRules nodes edges ++ (jointRules nodes edges).map fun rule => (rule.text, rule.holds)

theorem joined_of_pairRule : ∀ rule ∈ pairRules nodes edges, ∀ edge, rule.2 edge = true →
    Joined nodes edge := by
  simp only [pairRules, edgeRules, jointRules, daemonStatePortJoin, mutualDependencyJoin,
    List.map_cons, List.map_nil, List.cons_append, List.nil_append, List.forall_mem_cons,
    List.not_mem_nil, IsEmpty.forall_iff, implies_true, and_true, Bool.and_eq_true]
  refine ⟨fun edge h => joined_of_joins h.2.2, fun edge h => ?_,
    fun edge h => joined_of_joins h.2.2, fun edge h => joined_of_joins h.2.2,
    fun edge h => joined_of_joins h.2, fun edge h => joined_of_daemonStateBindMount h.2,
    fun edge h => joined_of_daemonStateBindMount h.2,
    fun edge h => joined_of_composeDependency h.1.2⟩
  have hshape := h.2
  simp only [isCandidateUnspecifiedAddressPort, isUnspecifiedAddressPortShape,
    Bool.and_eq_true] at hshape
  exact joined_of_joins hshape.1.1.2.2

theorem joined_of_soleMembership {edge : RuntimeMapEdge}
    (h : isSoleMembership nodes edges edge = true) : Joined nodes edge := by
  simp only [isSoleMembership, isCandidateInternalNetworkMembership, isDockerMembershipShape,
    Bool.and_eq_true] at h
  exact joined_of_joins h.2.1.2

theorem partner_source {rule : JointRule} (hrule : rule ∈ jointRules nodes edges)
    {edge other : RuntimeMapEdge} (h : rule.partner edge other = true) :
    other.source = edge.source ∨ other.source = edge.target := by
  simp only [jointRules, List.mem_cons, List.not_mem_nil, or_false] at hrule
  rcases hrule with rfl | rfl
  · simp only [daemonStatePortJoin, Bool.and_eq_true, beq_iff_eq] at h
    exact Or.inl h.1
  · simp only [mutualDependencyJoin, Bool.and_eq_true, beq_iff_eq] at h
    exact Or.inr h.1.1

theorem Finds.isSupported {text : RuleText} {finding : Finding}
    (h : Finds nodes edges text finding) : IsSupported nodes edges finding := by
  cases h with
  | @edge rule edge hrule hedge hholds =>
    obtain ⟨hsource, htarget⟩ := joined_of_pairRule rule (List.mem_append_left _ hrule) edge hholds
    exact ⟨hsource, htarget, fun evidence hmem =>
      ⟨edge, hedge, Or.inl rfl, List.mem_of_mem_take hmem⟩⟩
  | @collision edge hedge _ hcandidate =>
    simp only [isCandidateRuntimeIdentityCollision, Bool.and_eq_true] at hcandidate
    obtain ⟨hsource, htarget⟩ := joined_of_joins hcandidate.1.2
    exact ⟨hsource, htarget, fun evidence hmem =>
      ⟨edge, hedge, Or.inl rfl, List.mem_of_mem_take hmem⟩⟩
  | @joint rule edge other _ hrule hedge hholds hother hpartner hfinding =>
    obtain ⟨evidence, otherEvidence, hevidence, hotherEvidence, -, rfl⟩ :=
      jointFinding_eq_some.1 hfinding
    obtain ⟨hsource, htarget⟩ := joined_of_pairRule (rule.text, rule.holds)
      (List.mem_append_right _ (List.mem_map.2 ⟨rule, hrule, rfl⟩)) edge hholds
    refine ⟨hsource, htarget, fun ref hmem => ?_⟩
    simp only [RuleText.finding, List.mem_cons, List.not_mem_nil, or_false] at hmem
    rcases hmem with rfl | rfl
    · exact ⟨edge, hedge, Or.inl rfl, List.mem_of_head? hevidence⟩
    · exact ⟨other, hother, partner_source hrule hpartner, List.mem_of_head? hotherEvidence⟩
  | @internalNetworkPort edge port hedge hmember hport hsame _ =>
    obtain ⟨hsource, htarget⟩ := joined_of_soleMembership hmember
    refine ⟨hsource, htarget, fun evidence hmem => ?_⟩
    rcases List.mem_append.1 hmem with hmem | hmem
    · exact ⟨edge, hedge, Or.inl rfl, List.mem_of_mem_take hmem⟩
    · exact ⟨port, hport, Or.inl hsame, List.mem_of_mem_take hmem⟩

/-! The texts finding ids are digests of -/

def pairText (source target : String) : String := source ++ unitSeparator ++ target

def findingTexts (edges : List RuntimeMapEdge) : List String :=
  edges.map (fun edge => pairText edge.source edge.target) ++
    edges.flatMap fun edge => edges.map fun port =>
      pairText (pairText edge.source edge.target) port.target

theorem pairText_mem_texts {edge : RuntimeMapEdge} (h : edge ∈ edges) :
    pairText edge.source edge.target ∈ findingTexts edges :=
  List.mem_append_left _ (List.mem_map.2 ⟨edge, h, rfl⟩)

theorem tripleText_mem_texts {edge port : RuntimeMapEdge} (h : edge ∈ edges) (hport : port ∈ edges) :
    pairText (pairText edge.source edge.target) port.target ∈ findingTexts edges :=
  List.mem_append_right _ (List.mem_flatMap.2 ⟨edge, h, List.mem_map.2 ⟨port, hport, rfl⟩⟩)

/-- No id contains the separator of composite identities. -/
def SeparatorFree (nodes : List RuntimeMapNode) : Prop :=
  ∀ node ∈ nodes, '\x1F' ∉ node.id.toList

theorem IdentifiesOne.separatorFree {id : String} (h : IdentifiesOne nodes id)
    (hfree : SeparatorFree nodes) : '\x1F' ∉ id.toList := by
  have hpos : 0 < nodes.countP fun node => node.id == id := by
    rw [h]
    exact Nat.one_pos
  obtain ⟨node, hnode, hid⟩ := List.countP_pos_iff.1 hpos
  rw [← beq_iff_eq.1 hid]
  exact hfree node hnode

theorem toList_pairText (source target : String) :
    (pairText source target).toList = source.toList ++ '\x1F' :: target.toList := by
  unfold pairText
  rw [String.toList_append, String.toList_append, List.append_assoc]
  rfl

theorem pairText_inj {source source' target target' : String} (h : '\x1F' ∉ source.toList)
    (h' : '\x1F' ∉ source'.toList) (heq : pairText source target = pairText source' target') :
    source = source' ∧ target = target' := by
  have hlist := congrArg (fun text => Text.splitOnce '\x1F' text.toList) heq
  simp only [toList_pairText, Text.splitOnce_append h, Text.splitOnce_append h',
    Option.some.injEq, Prod.mk.injEq] at hlist
  exact ⟨String.toList_injective hlist.1, String.toList_injective hlist.2⟩

theorem tripleText_inj {source source' target target' port port' : String}
    (hs : '\x1F' ∉ source.toList) (hs' : '\x1F' ∉ source'.toList) (ht : '\x1F' ∉ target.toList)
    (ht' : '\x1F' ∉ target'.toList)
    (heq : pairText (pairText source target) port = pairText (pairText source' target') port') :
    (source, target, port) = (source', target', port') := by
  have hnested (a b c : String) : pairText (pairText a b) c = pairText a (pairText b c) := by
    apply String.toList_injective
    simp only [toList_pairText, List.append_assoc, List.cons_append]
  rw [hnested, hnested] at heq
  obtain ⟨rfl, hrest⟩ := pairText_inj hs hs' heq
  obtain ⟨rfl, rfl⟩ := pairText_inj ht ht' hrest
  rfl

/-! Ids of one rule -/

def pairOf (edge : RuntimeMapEdge) : String × String := (edge.source, edge.target)

/-- At most one edge of a pair satisfies a rule of the pair. -/
theorem countP_pairRule_le_one : ∀ rule ∈ pairRules nodes edges, ∀ edge, rule.2 edge = true →
    edges.countP (fun other => pairOf other = pairOf edge ∧ rule.2 other = true) ≤ 1 := by
  have hpair (shape holds : RuntimeMapEdge → Bool) (edge : RuntimeMapEdge)
      (hshape : ∀ other, holds other = true → shape other = true)
      (hcount : pairCount edges shape edge.source edge.target = 1) :
      edges.countP (fun other => pairOf other = pairOf edge ∧ holds other = true) ≤ 1 := by
    refine le_trans (List.countP_mono_left fun other _ hother => ?_) hcount.le
    simp only [pairOf, Prod.mk.injEq, decide_eq_true_eq] at hother
    simp only [hshape other hother.2, hother.1.1, hother.1.2, beq_self_eq_true, Bool.and_self]
  have hsource (shape holds : RuntimeMapEdge → Bool) (edge : RuntimeMapEdge)
      (hshape : ∀ other, holds other = true → shape other = true)
      (hcount : sourceCount edges shape edge.source = 1) :
      edges.countP (fun other => pairOf other = pairOf edge ∧ holds other = true) ≤ 1 := by
    refine le_trans (List.countP_mono_left fun other _ hother => ?_) hcount.le
    simp only [pairOf, Prod.mk.injEq, decide_eq_true_eq] at hother
    simp only [hshape other hother.2, hother.1.1, beq_self_eq_true, Bool.and_self]
  simp only [pairRules, edgeRules, jointRules, daemonStatePortJoin, mutualDependencyJoin,
    List.map_cons, List.map_nil, List.cons_append, List.nil_append, List.forall_mem_cons,
    List.not_mem_nil, IsEmpty.forall_iff, implies_true, and_true]
  refine ⟨fun edge h => hpair isCandidateNonCurrentDeclaredRelationship _ edge
      (fun other hother => ?_) ?_,
    fun edge h => hsource (isUnspecifiedAddressPortShape nodes) _ edge (fun other hother => ?_) ?_,
    fun edge h => hpair isCandidateRequires _ edge (fun other hother => ?_) ?_,
    fun edge h => hpair isCandidatePartOf _ edge (fun other hother => ?_) ?_,
    fun edge h => hpair (isCandidateComposeDependency nodes) _ edge (fun other hother => ?_) ?_,
    fun edge h => hpair (isDockerDaemonStateShape nodes) _ edge (fun other hother => ?_) ?_,
    fun edge h => hsource (isDockerDaemonStatePairShape nodes) _ edge (fun other hother => ?_) ?_,
    fun edge h => hpair (isCandidateComposeDependency nodes) _ edge (fun other hother => ?_) ?_⟩
  all_goals
    simp only [isCandidateUnspecifiedAddressPort, isCandidateDockerDaemonStateBindMount,
      isDockerDaemonStateShape, isSoleComposeDependency, Bool.and_eq_true, beq_iff_eq] at *
    tauto

def pairId (text : RuleText) (pair : String × String) : String :=
  text.idPrefix ++ pairIdentity pair.1 pair.2

/-- Pairs a rule selects have distinct ids. -/
theorem nodup_pairIds (hfree : SeparatorFree nodes) (hsha : NoCollision (findingTexts edges))
    {rule : RuleText × (RuntimeMapEdge → Bool)} (hrule : rule ∈ pairRules nodes edges) :
    (((edges.filter rule.2).map pairOf).map (pairId rule.1)).Nodup := by
  have hpairs : ((edges.filter rule.2).map pairOf).Nodup := by
    refine SoleMember.nodup_map_of_countP_le_one fun edge hedge => ?_
    rw [List.countP_filter]
    simpa only [Bool.decide_and, Bool.decide_eq_true] using
      countP_pairRule_le_one rule hrule edge (List.mem_filter.1 hedge).2
  refine List.Nodup.map_on ?_ hpairs
  intro pair hpair pair' hpair' hid
  obtain ⟨edge, hedge, rfl⟩ := List.mem_map.1 hpair
  obtain ⟨edge', hedge', rfl⟩ := List.mem_map.1 hpair'
  obtain ⟨hmem, hholds⟩ := List.mem_filter.1 hedge
  obtain ⟨hmem', hholds'⟩ := List.mem_filter.1 hedge'
  have htext := (append_component_inj hsha (pairText_mem_texts hmem) (pairText_mem_texts hmem')
    hid).2
  obtain ⟨hsource, htarget⟩ := pairText_inj
    ((joined_of_pairRule rule hrule edge hholds).1.separatorFree hfree)
    ((joined_of_pairRule rule hrule edge' hholds').1.separatorFree hfree) htext
  exact Prod.ext hsource htarget

theorem nodup_edgeRule_ids (hfree : SeparatorFree nodes) (hsha : NoCollision (findingTexts edges))
    {rule : RuleText × (RuntimeMapEdge → Bool)} (hrule : rule ∈ edgeRules nodes edges) :
    (((edges.filter rule.2).map rule.1.about).map Finding.id).Nodup := by
  have hids := nodup_pairIds hfree hsha (List.mem_append_left _ hrule)
  rw [List.map_map] at hids ⊢
  exact hids

theorem nodup_jointRule_ids (hfree : SeparatorFree nodes) (hsha : NoCollision (findingTexts edges))
    {rule : JointRule} (hrule : rule ∈ jointRules nodes edges) :
    ((rule.findings edges).map Finding.id).Nodup := by
  have hpair : (rule.text, rule.holds) ∈ pairRules nodes edges :=
    List.mem_append_right _ (List.mem_map.2 ⟨rule, hrule, rfl⟩)
  have hids := nodup_pairIds hfree hsha hpair
  rw [List.map_map] at hids
  refine hids.sublist (SoleMember.map_filterMap_sublist (fun edge finding hfinding => ?_) edges)
  split_ifs at hfinding with hholds
  obtain ⟨other, -, hjoint⟩ := Option.bind_eq_some_iff.1 hfinding
  obtain ⟨_, _, -, -, -, rfl⟩ := jointFinding_eq_some.1 hjoint
  exact ⟨hholds, rfl⟩

theorem ends_of_collision {edge : RuntimeMapEdge}
    (h : isCandidateRuntimeIdentityCollision nodes edge = true) :
    edge.source = runtimeIntegrityScopeId ∧ edge.target = runtimeIdentityCollisionRiskId := by
  simp only [isCandidateRuntimeIdentityCollision, Bool.and_eq_true, joins_iff,
    isRuntimeIntegrityScope, isRuntimeIdentityCollisionRisk, isBareNode, beq_iff_eq] at h
  obtain ⟨⟨-, ⟨source, hsource, hscope⟩, ⟨target, htarget, hrisk⟩⟩, -⟩ := h
  exact ⟨(uniqueNode_eq_some.1 hsource).2.2.symm.trans (by tauto),
    (uniqueNode_eq_some.1 htarget).2.2.symm.trans (by tauto)⟩

theorem length_collisionFindings : (collisionFindings nodes edges).length ≤ 1 := by
  rw [collisionFindings, List.length_map, ← List.countP_eq_length_filter]
  by_cases hcount : integrityEdgeCount edges = 1
  · refine le_trans (List.countP_mono_left fun edge _ hedge => ?_) hcount.le
    rw [Bool.and_eq_true] at hedge
    obtain ⟨hsource, htarget⟩ := ends_of_collision hedge.2
    simp only [hsource, htarget, beq_self_eq_true, Bool.and_self]
  · rw [List.countP_eq_zero.2 fun edge _ => by simp [hcount]]
    exact Nat.zero_le _

theorem nodup_collision_ids : ((collisionFindings nodes edges).map Finding.id).Nodup := by
  have hlength : (collisionFindings nodes edges).length ≤ 1 := length_collisionFindings
  rcases hlist : collisionFindings nodes edges with _ | ⟨finding, _ | ⟨other, rest⟩⟩
  · exact List.nodup_nil
  · exact List.nodup_singleton _
  · simp [hlist] at hlength

def networkPortId (edge port : RuntimeMapEdge) : String :=
  (internalNetworkPortFinding edge port).id

theorem networkPortId_inj (hfree : SeparatorFree nodes) (hsha : NoCollision (findingTexts edges))
    {edge edge' port port' : RuntimeMapEdge} (hedge : edge ∈ edges) (hedge' : edge' ∈ edges)
    (hport : port ∈ edges) (hport' : port' ∈ edges) (hjoined : Joined nodes edge)
    (hjoined' : Joined nodes edge') (hid : networkPortId edge port = networkPortId edge' port') :
    pairOf edge = pairOf edge' ∧ port.target = port'.target := by
  have htext := (append_component_inj hsha (tripleText_mem_texts hedge hport)
    (tripleText_mem_texts hedge' hport') hid).2
  have htriple := tripleText_inj (hjoined.1.separatorFree hfree) (hjoined'.1.separatorFree hfree)
    (hjoined.2.separatorFree hfree) (hjoined'.2.separatorFree hfree) htext
  simp only [Prod.mk.injEq] at htriple
  exact ⟨Prod.ext htriple.1 htriple.2.1, htriple.2.2⟩

theorem nodup_internalNetworkPort_ids (hfree : SeparatorFree nodes)
    (hsha : NoCollision (findingTexts edges)) :
    ((internalNetworkPortFindings nodes edges).map Finding.id).Nodup := by
  have hlist : (internalNetworkPortFindings nodes edges).map Finding.id =
      (edges.filter (isSoleMembership nodes edges)).flatMap fun edge =>
        (edges.filter fun port => port.source == edge.source && isSolePort nodes edges port).map
          (networkPortId edge) := by
    simp only [internalNetworkPortFindings, List.map_flatMap, List.map_map, isSolePort,
      Bool.and_assoc]
    rfl
  rw [hlist, List.nodup_flatMap]
  constructor
  · intro edge hedge
    obtain ⟨hmem, hmember⟩ := List.mem_filter.1 hedge
    have hjoined := joined_of_soleMembership hmember
    have htargets : ((edges.filter fun port => port.source == edge.source &&
        isSolePort nodes edges port).map RuntimeMapEdge.target).Nodup := by
      refine SoleMember.nodup_map_of_countP_le_one fun port hport => ?_
      obtain ⟨-, hport⟩ := List.mem_filter.1 hport
      simp only [isSolePort, Bool.and_eq_true, beq_iff_eq] at hport
      rw [List.countP_filter]
      refine le_trans (List.countP_mono_left fun other _ hother => ?_) hport.2.1.le
      simp only [isSolePort, isCandidatePortPublication, isDockerPortShape, isDockerListener,
        isDockerPortPublicationPairShape, Bool.and_eq_true, beq_iff_eq, decide_eq_true_eq,
        joins_iff] at hother ⊢
      obtain ⟨htarget, hsource, -, ⟨hexposes, hcontainer, node, hnode, hlistener, -⟩, -⟩ := hother
      exact ⟨⟨⟨hexposes, hcontainer, node, hnode, hlistener⟩, hsource.trans hport.1.symm⟩, htarget⟩
    refine List.pairwise_map.2 ((List.pairwise_map.1 htargets).imp_of_mem ?_)
    intro port port' hport hport' hne hid
    exact hne (networkPortId_inj hfree hsha hmem hmem (List.mem_filter.1 hport).1
      (List.mem_filter.1 hport').1 hjoined hjoined hid).2
  · have hpairs : ((edges.filter (isSoleMembership nodes edges)).map pairOf).Nodup := by
      refine SoleMember.nodup_map_of_countP_le_one fun edge hedge => ?_
      obtain ⟨-, hmember⟩ := List.mem_filter.1 hedge
      simp only [isSoleMembership, Bool.and_eq_true, beq_iff_eq] at hmember
      rw [List.countP_filter]
      refine le_trans (List.countP_mono_left fun other _ hother => ?_) hmember.1.le
      simp only [isSoleMembership, isCandidateInternalNetworkMembership, pairOf, Prod.mk.injEq,
        Bool.and_eq_true, beq_iff_eq, decide_eq_true_eq] at hother ⊢
      exact ⟨⟨hother.2.2.1, hother.1.1⟩, hother.1.2⟩
    refine (List.pairwise_map.1 hpairs).imp_of_mem ?_
    intro edge edge' hedge hedge' hne id hid hid'
    obtain ⟨port, hport, rfl⟩ := List.mem_map.1 hid
    obtain ⟨port', hport', heq⟩ := List.mem_map.1 hid'
    obtain ⟨hmem, hmember⟩ := List.mem_filter.1 hedge
    obtain ⟨hmem', hmember'⟩ := List.mem_filter.1 hedge'
    exact hne (networkPortId_inj hfree hsha hmem hmem' (List.mem_filter.1 hport).1
      (List.mem_filter.1 hport').1 (joined_of_soleMembership hmember)
      (joined_of_soleMembership hmember') heq.symm).1

/-! Ids of all rules -/

theorem Finds.id_eq {text : RuleText} {finding : Finding} (h : Finds nodes edges text finding) :
    (text = collisionRule ∧ finding.id = text.idPrefix) ∨
      ∃ value ∈ findingTexts edges,
        finding.id = text.idPrefix ++ collisionResistantIdComponent value := by
  cases h with
  | edge _ hedge _ => exact Or.inr ⟨_, pairText_mem_texts hedge, rfl⟩
  | collision _ _ _ => exact Or.inl ⟨rfl, String.append_empty⟩
  | joint _ hedge _ _ _ hfinding =>
    obtain ⟨_, _, -, -, -, rfl⟩ := jointFinding_eq_some.1 hfinding
    exact Or.inr ⟨_, pairText_mem_texts hedge, rfl⟩
  | internalNetworkPort hedge _ hport _ _ => exact Or.inr ⟨_, tripleText_mem_texts hedge hport, rfl⟩

theorem collision_id_ne (base value : String) :
    collisionRule.idPrefix ≠ base ++ collisionResistantIdComponent value := by
  intro h
  have hlength := congrArg (fun text => text.toList.length) h
  have hshort : collisionRule.idPrefix.toList.length = 43 := by decide
  simp only [toList_append_component, List.length_append, Sha256.length_hex, hshort] at hlength
  omega

/-- Findings of different rules have different ids, since an id determines its text and so
its own length. -/
theorem prefix_eq_of_id_eq (hsha : NoCollision (findingTexts edges)) {text text' : RuleText}
    {finding finding' : Finding} (h : Finds nodes edges text finding)
    (h' : Finds nodes edges text' finding') (hid : finding.id = finding'.id) :
    text.idPrefix = text'.idPrefix := by
  rcases h.id_eq with ⟨rfl, hpre⟩ | ⟨value, hvalue, hcomponent⟩ <;>
    rcases h'.id_eq with ⟨rfl, hpre'⟩ | ⟨value', hvalue', hcomponent'⟩
  · rfl
  · exact absurd (hpre.symm.trans (hid.trans hcomponent')) (collision_id_ne _ _)
  · exact absurd (hpre'.symm.trans (hid.symm.trans hcomponent)) (collision_id_ne _ _)
  · exact (append_component_inj hsha hvalue hvalue'
      (hcomponent.symm.trans (hid.trans hcomponent'))).1

theorem pairwise_idPrefix :
    (ruleFindings nodes edges).Pairwise fun p q => p.1.idPrefix ≠ q.1.idPrefix := by
  have hprefixes : ((ruleFindings nodes edges).map fun p => p.1.idPrefix) =
      [nonCurrentRule, collisionRule, unspecifiedAddressRule, requiresRule, partOfRule,
        daemonStatePortRule, mutualDependencyRule, targetNotActiveRule, daemonStateRule,
        internalNetworkPortRule].map RuleText.idPrefix := rfl
  have hnodup : ((ruleFindings nodes edges).map fun p => p.1.idPrefix).Nodup := by
    rw [hprefixes]
    decide
  exact List.pairwise_map.1 hnodup

theorem nodup_rule_ids (hfree : SeparatorFree nodes) (hsha : NoCollision (findingTexts edges))
    {p : RuleText × List Finding} (h : IsRule nodes edges p) : (p.2.map Finding.id).Nodup := by
  cases h with
  | edge hrule => exact nodup_edgeRule_ids hfree hsha hrule
  | collision => exact nodup_collision_ids
  | joint hrule => exact nodup_jointRule_ids hfree hsha hrule
  | internalNetworkPort => exact nodup_internalNetworkPort_ids hfree hsha

theorem nodup_finding_ids (hfree : SeparatorFree nodes) (hsha : NoCollision (findingTexts edges)) :
    (((ruleFindings nodes edges).flatMap Prod.snd).map Finding.id).Nodup := by
  rw [List.map_flatMap, List.nodup_flatMap]
  refine ⟨fun p hp => nodup_rule_ids hfree hsha (isRule_of_mem hp), ?_⟩
  refine pairwise_idPrefix.imp_of_mem fun {p q} hp hq hne id hid hid' => ?_
  obtain ⟨finding, hfinding, rfl⟩ := List.mem_map.1 hid
  obtain ⟨finding', hfinding', heq⟩ := List.mem_map.1 hid'
  exact hne (prefix_eq_of_id_eq hsha ((isRule_of_mem hp).finds hfinding)
    ((isRule_of_mem hq).finds hfinding') heq.symm)

/-! Order -/

variable {nodes' : List RuntimeMapNode} {edges' : List RuntimeMapEdge}

theorem uniqueNode_eq_of_perm (h : nodes.Perm nodes') : uniqueNode nodes = uniqueNode nodes' := by
  funext id
  have hsame (node : RuntimeMapNode) :
      uniqueNode nodes id = some node ↔ uniqueNode nodes' id = some node := by
    rw [uniqueNode_eq_some, uniqueNode_eq_some, h.countP_eq, h.mem_iff]
  cases hnode : uniqueNode nodes id with
  | none =>
    cases hnode' : uniqueNode nodes' id with
    | none => rfl
    | some node => rw [(hsame node).2 hnode'] at hnode; cases hnode
  | some node => exact ((hsame node).1 hnode).symm

/-- The rules read nodes through unique ids and edges through counts. -/
structure SameFacts (nodes nodes' : List RuntimeMapNode) (edges edges' : List RuntimeMapEdge) :
    Prop where
  nodes : uniqueNode nodes = uniqueNode nodes'
  edges : edges.Perm edges'

theorem SameFacts.symm (h : SameFacts nodes nodes' edges edges') :
    SameFacts nodes' nodes edges' edges := ⟨h.nodes.symm, h.edges.symm⟩

theorem SameFacts.pairCount (h : SameFacts nodes nodes' edges edges') :
    pairCount edges = pairCount edges' := by
  funext shape source target
  exact h.edges.countP_eq _

theorem SameFacts.sourceCount (h : SameFacts nodes nodes' edges edges') :
    sourceCount edges = sourceCount edges' := by
  funext shape source
  exact h.edges.countP_eq _

theorem SameFacts.joins (h : SameFacts nodes nodes' edges edges') : joins nodes = joins nodes' := by
  funext source target edge
  rw [DockerMap.joins, DockerMap.joins, h.nodes]

theorem SameFacts.daemonStatePairShape (h : SameFacts nodes nodes' edges edges') :
    isDockerDaemonStatePairShape nodes = isDockerDaemonStatePairShape nodes' := by
  funext edge
  rw [isDockerDaemonStatePairShape, isDockerDaemonStatePairShape, h.joins]

theorem SameFacts.daemonStateShape (h : SameFacts nodes nodes' edges edges') :
    isDockerDaemonStateShape nodes = isDockerDaemonStateShape nodes' := by
  funext edge
  rw [isDockerDaemonStateShape, isDockerDaemonStateShape, h.daemonStatePairShape]

theorem SameFacts.membershipShape (h : SameFacts nodes nodes' edges edges') :
    isDockerMembershipShape nodes = isDockerMembershipShape nodes' := by
  funext edge
  rw [isDockerMembershipShape, isDockerMembershipShape, h.joins]

theorem SameFacts.portPairShape (h : SameFacts nodes nodes' edges edges') :
    isDockerPortPublicationPairShape nodes = isDockerPortPublicationPairShape nodes' := by
  funext edge
  rw [isDockerPortPublicationPairShape, isDockerPortPublicationPairShape, h.joins]

theorem SameFacts.unspecifiedShape (h : SameFacts nodes nodes' edges edges') :
    isUnspecifiedAddressPortShape nodes = isUnspecifiedAddressPortShape nodes' := by
  funext edge
  rw [isUnspecifiedAddressPortShape, isUnspecifiedAddressPortShape, h.joins]

theorem SameFacts.composeDependency (h : SameFacts nodes nodes' edges edges') :
    isCandidateComposeDependency nodes = isCandidateComposeDependency nodes' := by
  funext edge
  rw [isCandidateComposeDependency, isCandidateComposeDependency, h.joins]

theorem SameFacts.edgeRules (h : SameFacts nodes nodes' edges edges') :
    edgeRules nodes edges = edgeRules nodes' edges' := by
  simp only [DockerMap.edgeRules, isCandidateUnspecifiedAddressPort, joinsInactiveTarget,
    isSoleComposeDependency, isCandidateDockerDaemonStateBindMount, h.joins, h.daemonStateShape,
    h.unspecifiedShape, h.composeDependency, h.pairCount, h.sourceCount]

theorem SameFacts.jointRules (h : SameFacts nodes nodes' edges edges') :
    jointRules nodes edges = jointRules nodes' edges' := by
  simp only [DockerMap.jointRules, daemonStatePortJoin, mutualDependencyJoin,
    isSoleComposeDependency, isCandidateDockerDaemonStateBindMount,
    isCandidateDockerDaemonStatePortPublication, h.nodes, h.daemonStateShape,
    h.daemonStatePairShape, h.portPairShape, h.composeDependency, h.pairCount, h.sourceCount]

theorem SameFacts.finds (h : SameFacts nodes nodes' edges edges') {text : RuleText}
    {finding : Finding} (hfinds : Finds nodes edges text finding) :
    Finds nodes' edges' text finding := by
  cases hfinds with
  | edge hrule hedge hholds =>
    rw [h.edgeRules] at hrule
    exact .edge hrule (h.edges.mem_iff.1 hedge) hholds
  | collision hedge hcount hcandidate =>
    refine .collision (h.edges.mem_iff.1 hedge) ?_ ?_
    · rw [← hcount]
      exact (h.edges.countP_eq _).symm
    · simpa only [isCandidateRuntimeIdentityCollision, h.joins] using hcandidate
  | joint hrule hedge hholds hother hpartner hfinding =>
    rw [h.jointRules] at hrule
    exact .joint hrule (h.edges.mem_iff.1 hedge) hholds (h.edges.mem_iff.1 hother) hpartner
      hfinding
  | internalNetworkPort hedge hmember hport hsource hpublished =>
    refine .internalNetworkPort (h.edges.mem_iff.1 hedge) ?_ (h.edges.mem_iff.1 hport) hsource ?_
    · simpa only [isSoleMembership, isCandidateInternalNetworkMembership, h.membershipShape,
        h.pairCount] using hmember
    · simpa only [isSolePort, isCandidatePortPublication, isDockerPortShape, h.joins,
        h.portPairShape, h.pairCount] using hpublished

end

/-! The derived findings -/

theorem nodup_derived_finding_ids {runtimeMap : RuntimeMap}
    (hfree : SeparatorFree runtimeMap.nodes) (hsha : NoCollision (findingTexts runtimeMap.edges)) :
    ((deriveFindings runtimeMap).map Finding.id).Nodup := by
  by_cases hmock : runtimeMap.source = some .mock
  · rw [deriveFindings, if_pos hmock]
    exact List.nodup_nil
  · rw [deriveFindings_eq hmock]
    exact ((List.perm_insertionSort _ _).map _).nodup_iff.2 (nodup_finding_ids hfree hsha)

instance findingOrder_total : Std.Total findingOrder := ⟨fun _ _ => le_total _ _⟩

instance findingOrder_trans : IsTrans Finding findingOrder := ⟨fun _ _ _ => le_trans⟩

theorem sorted_deriveFindings (runtimeMap : RuntimeMap) :
    (deriveFindings runtimeMap).Pairwise findingOrder := by
  unfold deriveFindings
  split_ifs
  · exact .nil
  · exact List.pairwise_insertionSort _ _

/-- The map with its nodes and edges in another order. -/
structure MapReordered (runtimeMap runtimeMap' : RuntimeMap) : Prop where
  nodes : runtimeMap.nodes.Perm runtimeMap'.nodes
  edges : runtimeMap.edges.Perm runtimeMap'.edges
  source : runtimeMap'.source = runtimeMap.source

theorem findingTexts_subset {edges edges' : List RuntimeMapEdge} (h : edges.Perm edges') :
    findingTexts edges' ⊆ findingTexts edges := by
  intro text htext
  simp only [findingTexts, List.mem_append, List.mem_map, List.mem_flatMap] at htext ⊢
  simpa only [h.mem_iff] using htext

theorem MapReordered.mem_deriveFindings {runtimeMap runtimeMap' : RuntimeMap}
    (h : MapReordered runtimeMap runtimeMap') (finding : Finding) :
    finding ∈ deriveFindings runtimeMap' ↔ finding ∈ deriveFindings runtimeMap := by
  have hfacts : SameFacts runtimeMap.nodes runtimeMap'.nodes runtimeMap.edges runtimeMap'.edges :=
    ⟨uniqueNode_eq_of_perm h.nodes, h.edges⟩
  by_cases hmock : runtimeMap.source = some .mock
  · rw [deriveFindings, deriveFindings, if_pos hmock, if_pos (h.source.trans hmock)]
  · rw [DockerMap.mem_deriveFindings hmock, DockerMap.mem_deriveFindings (by rwa [h.source])]
    exact exists_congr fun text => ⟨hfacts.symm.finds, hfacts.finds⟩

theorem deriveFindings_eq_of_reordered {runtimeMap runtimeMap' : RuntimeMap}
    (hfree : SeparatorFree runtimeMap.nodes) (hsha : NoCollision (findingTexts runtimeMap.edges))
    (h : MapReordered runtimeMap runtimeMap') :
    deriveFindings runtimeMap' = deriveFindings runtimeMap := by
  have hfree' : SeparatorFree runtimeMap'.nodes := fun node hnode =>
    hfree node (h.nodes.mem_iff.2 hnode)
  have hids := nodup_derived_finding_ids hfree hsha
  have hids' := nodup_derived_finding_ids hfree' (hsha.mono (findingTexts_subset h.edges))
  have hmem := h.mem_deriveFindings
  -- findings of one order have one id, so the sorted lists agree
  refine List.Perm.eq_of_pairwise (fun a b ha hb hab hba => ?_) (sorted_deriveFindings _)
    (sorted_deriveFindings _) ((List.perm_ext_iff_of_nodup hids'.of_map hids.of_map).2 hmem)
  have hkey := le_antisymm hab hba
  have hid : a.id = b.id := congrArg (fun key => (ofLex key).1) hkey
  exact List.inj_on_of_nodup_map hids ((hmem a).1 ha) hb hid

/-- Every finding is about two uniquely identified nodes and supported by edges that leave
them, no two findings share an id, and the order of nodes and edges does not matter. -/
theorem findings_sound (runtimeMap : RuntimeMap) (hfree : SeparatorFree runtimeMap.nodes)
    (hsha : NoCollision (findingTexts runtimeMap.edges)) :
    (∀ finding ∈ deriveFindings runtimeMap,
        IsSupported runtimeMap.nodes runtimeMap.edges finding) ∧
      ((deriveFindings runtimeMap).map Finding.id).Nodup ∧
      ∀ runtimeMap', MapReordered runtimeMap runtimeMap' →
        deriveFindings runtimeMap' = deriveFindings runtimeMap := by
  refine ⟨fun finding hmem => ?_, nodup_derived_finding_ids hfree hsha,
    fun runtimeMap' => deriveFindings_eq_of_reordered hfree hsha⟩
  by_cases hmock : runtimeMap.source = some .mock
  · rw [deriveFindings, if_pos hmock] at hmem
    cases hmem
  · obtain ⟨text, hfinds⟩ := (mem_deriveFindings hmock).1 hmem
    exact hfinds.isSupported

/-- Publication keeps the separator out of every node id. -/
theorem separatorFree_redactRuntimeMap (runtimeMap : RuntimeMap) :
    SeparatorFree (redactRuntimeMap runtimeMap).nodes := by
  intro node hnode hmem
  simp only [redactRuntimeMap, normalizeRuntimeMapTopology, mem_sortByKey, redactRuntimeNodes,
    List.mem_map] at hnode
  obtain ⟨raw, -, rfl⟩ := hnode
  have hsafe := (isPublished_redact raw.id).displayable _ hmem
  exact absurd hsafe (by decide)

def systemdServiceNode (id status : String) : RuntimeMapNode where
  id := id
  provider := .systemd
  kind := .systemdService
  label := id
  status := some status
  layer := none
  metadata := ∅
  service := none
  package := none

/-- An active service that requires a failed one. -/
def requiresFailedMap : RuntimeMap where
  nodes := [systemdServiceNode "systemd_service_a" "active",
    systemdServiceNode "systemd_service_b" "failed"]
  edges :=
    [{ source := "systemd_service_a"
       target := "systemd_service_b"
       relationship := .requires
       metadata := ∅
       evidenceRefs :=
         [{ version := 2
            id := "systemd_evidence"
            provider := .systemd
            kind := .systemdRequires
            assertionKind := .declared
            summary := "requires"
            subjectRef := "systemd_service_a"
            collectedAt := 1
            providerRevision := "revision"
            providerSlot := some .systemd
            freshness := .fresh }] }]
  diagnostics := []
  lastUpdated := 1

example : (deriveFindings requiresFailedMap).map Finding.ruleId =
    [.systemdRequiresTargetNotActive] := by decide

theorem requiresFailed_findings_sound :
    (∀ finding ∈ deriveFindings requiresFailedMap,
        IsSupported requiresFailedMap.nodes requiresFailedMap.edges finding) ∧
      ((deriveFindings requiresFailedMap).map Finding.id).Nodup ∧
      ∀ runtimeMap', MapReordered requiresFailedMap runtimeMap' →
        deriveFindings runtimeMap' = deriveFindings requiresFailedMap :=
  findings_sound requiresFailedMap (by unfold SeparatorFree; decide) (by decide +kernel)

end DockerMap
