import DockerMap.Proofs.FindingSoundness

/-! One more copy of a node or an edge. A copied node stops being uniquely identified and a
copied edge is counted twice, so findings are withdrawn; but the rule that wants the only
port publication of a container counts the listeners that are uniquely identified, and a
copied listener drops out of that count. -/

namespace DockerMap

open Sha256 (NoCollision)

section

variable {nodes nodes' : List RuntimeMapNode} {edges edges' : List RuntimeMapEdge}

/-- The primed map identifies no more nodes, and no fact occurs less often in it. -/
structure Withdraws (nodes nodes' : List RuntimeMapNode) (edges edges' : List RuntimeMapEdge) :
    Prop where
  unique : ∀ id, uniqueNode nodes' id = none ∨ uniqueNode nodes' id = uniqueNode nodes id
  mem : ∀ edge ∈ edges', edge ∈ edges
  count : ∀ p : RuntimeMapEdge → Bool, edges.countP p ≤ edges'.countP p

/-- Both maps identify the same nodes at the ends of the edge. -/
structure SameEnds (nodes nodes' : List RuntimeMapNode) (edge : RuntimeMapEdge) : Prop where
  source : uniqueNode nodes' edge.source = uniqueNode nodes edge.source
  target : uniqueNode nodes' edge.target = uniqueNode nodes edge.target

theorem IdentifiesOne.exists_uniqueNode {id : String} (h : IdentifiesOne nodes id) :
    ∃ node, uniqueNode nodes id = some node := by
  have hpos : 0 < nodes.countP fun node => node.id == id := by
    rw [h]
    exact Nat.one_pos
  obtain ⟨node, hnode, hid⟩ := List.countP_pos_iff.1 hpos
  exact ⟨node, uniqueNode_eq_some.2 ⟨h, hnode, beq_iff_eq.1 hid⟩⟩

theorem Withdraws.unique_eq (h : Withdraws nodes nodes' edges edges') {id : String}
    (hid : IdentifiesOne nodes' id) : uniqueNode nodes' id = uniqueNode nodes id := by
  obtain ⟨node, hnode⟩ := hid.exists_uniqueNode
  refine (h.unique id).resolve_left fun hnone => ?_
  rw [hnode] at hnone
  cases hnone

theorem Withdraws.sameEnds (h : Withdraws nodes nodes' edges edges') {edge : RuntimeMapEdge}
    (hjoined : Joined nodes' edge) : SameEnds nodes nodes' edge :=
  ⟨h.unique_eq hjoined.1, h.unique_eq hjoined.2⟩

theorem SameEnds.congr {edge other : RuntimeMapEdge} (h : SameEnds nodes nodes' edge)
    (hpair : pairOf other = pairOf edge) : SameEnds nodes nodes' other := by
  obtain ⟨hsource, htarget⟩ := Prod.mk.inj hpair
  refine ⟨?_, ?_⟩
  · rw [hsource, h.source]
  · rw [htarget, h.target]

theorem SameEnds.joins {edge : RuntimeMapEdge} (h : SameEnds nodes nodes' edge)
    (source target : RuntimeMapNode → Bool) :
    joins nodes' source target edge = joins nodes source target edge := by
  rw [DockerMap.joins, DockerMap.joins, h.source, h.target]

/-! Counts -/

theorem Withdraws.pairCount_eq_one (h : Withdraws nodes nodes' edges edges')
    {shape shape' : RuntimeMapEdge → Bool} {edge : RuntimeMapEdge} (hedge : edge ∈ edges)
    (hshape : shape edge = true)
    (hsame : ∀ other, pairOf other = pairOf edge → shape other = true → shape' other = true)
    (hcount : pairCount edges' shape' edge.source edge.target = 1) :
    pairCount edges shape edge.source edge.target = 1 := by
  refine le_antisymm ?_ (List.countP_pos_iff.2 ⟨edge, hedge, by simp [hshape]⟩)
  rw [← hcount]
  refine (h.count _).trans (List.countP_mono_left fun other _ hother => ?_)
  simp only [Bool.and_eq_true, beq_iff_eq] at hother ⊢
  exact ⟨⟨hsame other (Prod.ext hother.1.2 hother.2) hother.1.1, hother.1.2⟩, hother.2⟩

theorem Withdraws.sourceCount_eq_one (h : Withdraws nodes nodes' edges edges')
    {shape shape' : RuntimeMapEdge → Bool} {edge : RuntimeMapEdge} (hedge : edge ∈ edges)
    (hshape : shape edge = true)
    (hsame : ∀ other, other.source = edge.source → shape other = true → shape' other = true)
    (hcount : sourceCount edges' shape' edge.source = 1) :
    sourceCount edges shape edge.source = 1 := by
  refine le_antisymm ?_ (List.countP_pos_iff.2 ⟨edge, hedge, by simp [hshape]⟩)
  rw [← hcount]
  refine (h.count _).trans (List.countP_mono_left fun other _ hother => ?_)
  simp only [Bool.and_eq_true, beq_iff_eq] at hother ⊢
  exact ⟨hsame other hother.2 hother.1, hother.2⟩

theorem target_of_unspecifiedShape {edge : RuntimeMapEdge}
    (h : isUnspecifiedAddressPortShape nodes edge = true) :
    edge.target = dockerUnspecifiedAddressPortRiskId := by
  simp only [isUnspecifiedAddressPortShape, Bool.and_eq_true, joins_iff,
    isUnspecifiedAddressPortRisk, isBareNode, beq_iff_eq] at h
  obtain ⟨-, -, node, hnode, hrisk⟩ := h
  exact (uniqueNode_eq_some.1 hnode).2.2.symm.trans (by tauto)

theorem target_of_daemonStatePairShape {edge : RuntimeMapEdge}
    (h : isDockerDaemonStatePairShape nodes edge = true) :
    edge.target = dockerDaemonStateRiskId := by
  simp only [isDockerDaemonStatePairShape, Bool.and_eq_true, joins_iff, isDockerDaemonStateRisk,
    beq_iff_eq] at h
  obtain ⟨-, -, node, hnode, hrisk⟩ := h
  exact (uniqueNode_eq_some.1 hnode).2.2.symm.trans (by tauto)

theorem Withdraws.soleComposeDependency (h : Withdraws nodes nodes' edges edges')
    {edge : RuntimeMapEdge} (hedge : edge ∈ edges)
    (hcandidate : isCandidateComposeDependency nodes' edge = true)
    (hsole : isSoleComposeDependency nodes' edges' edge.source edge.target = true) :
    isSoleComposeDependency nodes edges edge.source edge.target = true ∧
      isCandidateComposeDependency nodes edge = true := by
  have hends := h.sameEnds (joined_of_composeDependency hcandidate)
  have hsame {other : RuntimeMapEdge} (hpair : pairOf other = pairOf edge) :
      isCandidateComposeDependency nodes' other = isCandidateComposeDependency nodes other := by
    rw [isCandidateComposeDependency, isCandidateComposeDependency, (hends.congr hpair).joins]
  have hraw : isCandidateComposeDependency nodes edge = true := by rwa [← hsame rfl]
  have hdepends : isDependsOn edge = true := by
    simp only [isCandidateComposeDependency, Bool.and_eq_true] at hraw
    exact hraw.1.1.1.1.2
  simp only [isSoleComposeDependency, Bool.and_eq_true, beq_iff_eq] at hsole ⊢
  exact ⟨⟨h.pairCount_eq_one hedge hdepends (fun _ _ => id) hsole.1,
    h.pairCount_eq_one hedge hraw (fun other hpair hother => by rwa [hsame hpair]) hsole.2⟩, hraw⟩

/-- What a rule of the primed map admits, the rule admitted before. -/
def RuleWithdrawn (edges : List RuntimeMapEdge) (rule' rule : RuleText × (RuntimeMapEdge → Bool)) :
    Prop :=
  rule'.1 = rule.1 ∧ ∀ edge ∈ edges, rule'.2 edge = true → rule.2 edge = true

theorem forall₂_exists_right {α β : Type*} {R : α → β → Prop} {l : List α} {l' : List β}
    (h : List.Forall₂ R l l') {a : α} (ha : a ∈ l) : ∃ b ∈ l', R a b := by
  induction h with
  | nil => cases ha
  | @cons b c l l' hbc _ ih =>
    rcases List.mem_cons.1 ha with rfl | ha
    · exact ⟨c, List.mem_cons_self, hbc⟩
    · obtain ⟨d, hd, had⟩ := ih ha
      exact ⟨d, List.mem_cons_of_mem _ hd, had⟩

theorem joined_of_collision {edge : RuntimeMapEdge}
    (h : isCandidateRuntimeIdentityCollision nodes edge = true) : Joined nodes edge := by
  simp only [isCandidateRuntimeIdentityCollision, Bool.and_eq_true] at h
  exact joined_of_joins h.1.2

theorem Withdraws.daemonStateBindMount (h : Withdraws nodes nodes' edges edges')
    {edge : RuntimeMapEdge} (hcandidate : isCandidateDockerDaemonStateBindMount nodes' edge = true) :
    isCandidateDockerDaemonStateBindMount nodes edge = true := by
  have hends := h.sameEnds (joined_of_daemonStateBindMount hcandidate)
  simpa only [isCandidateDockerDaemonStateBindMount, isDockerDaemonStateShape,
    isDockerDaemonStatePairShape, hends.joins] using hcandidate

theorem shape_of_daemonStateBindMount {edge : RuntimeMapEdge}
    (h : isCandidateDockerDaemonStateBindMount nodes edge = true) :
    isDockerDaemonStateShape nodes edge = true ∧ isDockerDaemonStatePairShape nodes edge = true := by
  simp only [isCandidateDockerDaemonStateBindMount, isDockerDaemonStateShape,
    Bool.and_eq_true] at h ⊢
  exact ⟨h.1.1, h.1.1.2⟩

theorem Withdraws.edgeRules (h : Withdraws nodes nodes' edges edges') :
    List.Forall₂ (RuleWithdrawn edges) (edgeRules nodes' edges') (edgeRules nodes edges) := by
  have hends {i : ℕ} {rule : RuleText × (RuntimeMapEdge → Bool)}
      (hrule : (DockerMap.edgeRules nodes' edges')[i]? = some rule) {edge : RuntimeMapEdge}
      (hholds : rule.2 edge = true) : SameEnds nodes nodes' edge :=
    h.sameEnds (joined_of_pairRule rule (List.mem_append_left _ (List.mem_of_getElem? hrule)) edge
      hholds)
  refine .cons ⟨rfl, fun edge hedge hholds => ?_⟩ (.cons ⟨rfl, fun edge hedge hholds => ?_⟩
    (.cons ⟨rfl, fun edge hedge hholds => ?_⟩ (.cons ⟨rfl, fun edge hedge hholds => ?_⟩
      (.cons ⟨rfl, fun edge hedge hholds => ?_⟩ (.cons ⟨rfl, fun edge hedge hholds => ?_⟩ .nil)))))
  -- stale or timed-out declarations
  · have hsame := hends (i := 0) rfl hholds
    simp only [Bool.and_eq_true, beq_iff_eq] at hholds ⊢
    obtain ⟨hcount, hcandidate, hjoins⟩ := hholds
    exact ⟨h.pairCount_eq_one hedge hcandidate (fun _ _ => id) hcount, hcandidate,
      by rwa [← hsame.joins]⟩
  -- unspecified addresses: every counted edge ends at the one risk node
  · have hsame := hends (i := 1) rfl hholds
    simp only [Bool.and_eq_true, beq_iff_eq] at hholds ⊢
    obtain ⟨hcount, hcandidate⟩ := hholds
    have hraw : isCandidateUnspecifiedAddressPort nodes edge = true := by
      simpa only [isCandidateUnspecifiedAddressPort, isUnspecifiedAddressPortShape, hsame.joins]
        using hcandidate
    have hshape : isUnspecifiedAddressPortShape nodes edge = true := by
      simp only [isCandidateUnspecifiedAddressPort, Bool.and_eq_true] at hraw
      exact hraw.1.1.2
    refine ⟨h.sourceCount_eq_one hedge hshape (fun other hsource hother => ?_) hcount, hraw⟩
    have hpair : pairOf other = pairOf edge := Prod.ext hsource
      ((target_of_unspecifiedShape hother).trans (target_of_unspecifiedShape hshape).symm)
    rwa [isUnspecifiedAddressPortShape, (hsame.congr hpair).joins]
  -- a required target that is not active
  · have hsame := hends (i := 2) rfl hholds
    simp only [Bool.and_eq_true, beq_iff_eq] at hholds ⊢
    obtain ⟨hcount, hcandidate, hjoins⟩ := hholds
    exact ⟨h.pairCount_eq_one hedge hcandidate (fun _ _ => id) hcount, hcandidate,
      by rwa [joinsInactiveTarget, ← hsame.joins]⟩
  · have hsame := hends (i := 3) rfl hholds
    simp only [Bool.and_eq_true, beq_iff_eq] at hholds ⊢
    obtain ⟨hcount, hcandidate, hjoins⟩ := hholds
    exact ⟨h.pairCount_eq_one hedge hcandidate (fun _ _ => id) hcount, hcandidate,
      by rwa [joinsInactiveTarget, ← hsame.joins]⟩
  -- a declared Compose target that is not active
  · have hsame := hends (i := 4) rfl hholds
    simp only [Bool.and_eq_true] at hholds ⊢
    obtain ⟨⟨hsole, hcandidate⟩, hjoins⟩ := hholds
    exact ⟨h.soleComposeDependency hedge hcandidate hsole, by rwa [← hsame.joins]⟩
  -- access to daemon state
  · have hsame := hends (i := 5) rfl hholds
    simp only [Bool.and_eq_true, beq_iff_eq] at hholds ⊢
    obtain ⟨hcount, hcandidate⟩ := hholds
    have hraw := h.daemonStateBindMount hcandidate
    refine ⟨h.pairCount_eq_one hedge (shape_of_daemonStateBindMount hraw).1
      (fun other hpair hother => ?_) hcount, hraw⟩
    rwa [isDockerDaemonStateShape, isDockerDaemonStatePairShape, (hsame.congr hpair).joins]

/-! The rules about two edges -/

/-- The port edge a finding of the daemon-state rule rests on, before its listeners are
counted. -/
structure ExposesState (nodes : List RuntimeMapNode) (edges : List RuntimeMapEdge)
    (edge port : RuntimeMapEdge) : Prop where
  edge_mem : edge ∈ edges
  port_mem : port ∈ edges
  once : sourceCount edges (isDockerDaemonStatePairShape nodes) edge.source = 1
  daemonState : isCandidateDockerDaemonStateBindMount nodes edge = true
  publication : isCandidateDockerDaemonStatePortPublication nodes port = true
  source : port.source = edge.source

theorem ExposesState.finds {edge port : RuntimeMapEdge} (h : ExposesState nodes edges edge port)
    (hcount : sourceCount edges (isDockerPortPublicationPairShape nodes) edge.source = 1)
    {finding : Finding} (hfinding : jointFinding daemonStatePortRule edge port = some finding) :
    Finds nodes edges daemonStatePortRule finding := by
  have hrule : daemonStatePortJoin nodes edges ∈ jointRules nodes edges := List.mem_cons_self
  refine .joint hrule h.edge_mem ?_ h.port_mem ?_ hfinding
  · simp only [daemonStatePortJoin, h.once, hcount, h.daemonState, beq_self_eq_true, Bool.and_self]
  · simp only [daemonStatePortJoin, h.source, h.publication, beq_self_eq_true, Bool.and_self]

theorem joined_of_portPublication {port : RuntimeMapEdge}
    (h : isCandidateDockerDaemonStatePortPublication nodes port = true) : Joined nodes port := by
  simp only [isCandidateDockerDaemonStatePortPublication, isDockerPortPublicationPairShape,
    Bool.and_eq_true] at h
  exact joined_of_joins h.1.1.2.2

theorem shape_of_portPublication {port : RuntimeMapEdge}
    (h : isCandidateDockerDaemonStatePortPublication nodes port = true) :
    isDockerPortPublicationPairShape nodes port = true := by
  simp only [isCandidateDockerDaemonStatePortPublication, Bool.and_eq_true] at h
  exact h.1.1.2

theorem Withdraws.exposesState (h : Withdraws nodes nodes' edges edges')
    {edge port : RuntimeMapEdge} (hexposes : ExposesState nodes' edges' edge port) :
    ExposesState nodes edges edge port := by
  have hedge := h.mem edge hexposes.edge_mem
  have hends := h.sameEnds (joined_of_daemonStateBindMount hexposes.daemonState)
  have hports := h.sameEnds (joined_of_portPublication hexposes.publication)
  have hraw := h.daemonStateBindMount hexposes.daemonState
  refine ⟨hedge, h.mem port hexposes.port_mem, ?_, hraw, ?_, hexposes.source⟩
  · have hshape := (shape_of_daemonStateBindMount hraw).2
    refine h.sourceCount_eq_one hedge hshape (fun other hsource hother => ?_) hexposes.once
    have hpair : pairOf other = pairOf edge := Prod.ext hsource
      ((target_of_daemonStatePairShape hother).trans (target_of_daemonStatePairShape hshape).symm)
    rwa [isDockerDaemonStatePairShape, (hends.congr hpair).joins]
  · simpa only [isCandidateDockerDaemonStatePortPublication, isDockerPortPublicationPairShape,
      hports.joins, hports.target] using hexposes.publication

theorem Withdraws.soleMembership (h : Withdraws nodes nodes' edges edges') {edge : RuntimeMapEdge}
    (hedge : edge ∈ edges) (hmember : isSoleMembership nodes' edges' edge = true) :
    isSoleMembership nodes edges edge = true := by
  have hends := h.sameEnds (joined_of_soleMembership hmember)
  have hsame {other : RuntimeMapEdge} (hpair : pairOf other = pairOf edge) :
      isDockerMembershipShape nodes' other = isDockerMembershipShape nodes other := by
    rw [isDockerMembershipShape, isDockerMembershipShape, (hends.congr hpair).joins]
  simp only [isSoleMembership, isCandidateInternalNetworkMembership, Bool.and_eq_true, beq_iff_eq,
    hsame rfl] at hmember ⊢
  exact ⟨h.pairCount_eq_one hedge hmember.2.1 (fun other hpair hother => by rwa [hsame hpair])
    hmember.1, hmember.2⟩

theorem shape_of_portShape {port : RuntimeMapEdge} (h : isDockerPortShape nodes port = true) :
    isDockerPortPublicationPairShape nodes port = true := by
  simp only [isDockerPortShape, isDockerPortPublicationPairShape, isDockerListener,
    Bool.and_eq_true, joins_iff] at h ⊢
  obtain ⟨hexposes, hcontainer, node, hnode, hlistener, -⟩ := h
  exact ⟨hexposes, hcontainer, node, hnode, hlistener⟩

theorem Withdraws.solePort (h : Withdraws nodes nodes' edges edges') {port : RuntimeMapEdge}
    (hport : port ∈ edges) (hsole : isSolePort nodes' edges' port = true) :
    isSolePort nodes edges port = true := by
  simp only [isSolePort, isCandidatePortPublication, Bool.and_eq_true, beq_iff_eq] at hsole ⊢
  obtain ⟨hcount, hshape, hfresh⟩ := hsole
  have hjoined : Joined nodes' port := by
    simp only [isDockerPortShape, Bool.and_eq_true] at hshape
    exact joined_of_joins hshape.2
  have hends := h.sameEnds hjoined
  have hraw : isDockerPortShape nodes port = true := by
    simpa only [isDockerPortShape, hends.joins] using hshape
  refine ⟨h.pairCount_eq_one hport (shape_of_portShape hraw) (fun other hpair hother => ?_) hcount,
    hraw, hfresh⟩
  rwa [isDockerPortPublicationPairShape, (hends.congr hpair).joins]

theorem Withdraws.mutualDependency (h : Withdraws nodes nodes' edges edges')
    {edge other : RuntimeMapEdge} (hedge : edge ∈ edges) (hother : other ∈ edges)
    (hholds : (mutualDependencyJoin nodes' edges').holds edge = true)
    (hpartner : (mutualDependencyJoin nodes' edges').partner edge other = true) :
    (mutualDependencyJoin nodes edges).holds edge = true ∧
      (mutualDependencyJoin nodes edges).partner edge other = true := by
  simp only [mutualDependencyJoin, Bool.and_eq_true, beq_iff_eq, decide_eq_true_eq] at *
  obtain ⟨⟨⟨hlt, hsole⟩, hcandidate⟩, hreverse⟩ := hholds
  obtain ⟨⟨hsource, htarget⟩, hcandidate'⟩ := hpartner
  rw [← hsource, ← htarget] at hreverse
  obtain ⟨hsole, hcandidate⟩ := h.soleComposeDependency hedge hcandidate hsole
  obtain ⟨hreverse, hcandidate'⟩ := h.soleComposeDependency hother hcandidate' hreverse
  rw [hsource, htarget] at hreverse
  exact ⟨⟨⟨⟨hlt, hsole⟩, hcandidate⟩, hreverse⟩, ⟨hsource, htarget⟩, hcandidate'⟩

/-- The daemon-state rule gives the finding from these edges, counting listeners. -/
def IsStateFinding (nodes : List RuntimeMapNode) (edges : List RuntimeMapEdge) (finding : Finding) :
    Prop :=
  ∃ edge port, ExposesState nodes edges edge port ∧
    sourceCount edges (isDockerPortPublicationPairShape nodes) edge.source = 1 ∧
    jointFinding daemonStatePortRule edge port = some finding

theorem isStateFinding_of_join {edge port : RuntimeMapEdge} (hedge : edge ∈ edges)
    (hport : port ∈ edges) (hholds : (daemonStatePortJoin nodes edges).holds edge = true)
    (hpartner : (daemonStatePortJoin nodes edges).partner edge port = true) {finding : Finding}
    (hfinding : jointFinding daemonStatePortRule edge port = some finding) :
    IsStateFinding nodes edges finding := by
  simp only [daemonStatePortJoin, Bool.and_eq_true, beq_iff_eq] at hholds hpartner
  exact ⟨edge, port, ⟨hedge, hport, hholds.1.1, hholds.2, hpartner.2, hpartner.1⟩, hholds.1.2,
    hfinding⟩

/-- Whatever the primed map finds was found before, but for the daemon-state rule. -/
theorem Withdraws.finds_or (h : Withdraws nodes nodes' edges edges') {text : RuleText}
    {finding : Finding} (hfinds : Finds nodes' edges' text finding) :
    Finds nodes edges text finding ∨ IsStateFinding nodes' edges' finding := by
  cases hfinds with
  | @edge rule edge hrule hedge hholds =>
    obtain ⟨raw, hraw, htext, himp⟩ := forall₂_exists_right h.edgeRules hrule
    have hmem := h.mem edge hedge
    rw [htext]
    exact Or.inl (.edge hraw hmem (himp edge hmem hholds))
  | @collision edge hedge hcount hcandidate =>
    have hmem := h.mem edge hedge
    have hends := h.sameEnds (joined_of_collision hcandidate)
    have hraw : isCandidateRuntimeIdentityCollision nodes edge = true := by
      simpa only [isCandidateRuntimeIdentityCollision, hends.joins] using hcandidate
    obtain ⟨hsource, htarget⟩ := ends_of_collision hraw
    refine Or.inl (.collision hmem (le_antisymm ?_ ?_) hraw)
    · rw [← hcount]
      exact h.count _
    · exact List.countP_pos_iff.2 ⟨edge, hmem, by simp [hsource, htarget]⟩
  | @joint rule edge other finding hrule hedge hholds hother hpartner hfinding =>
    simp only [jointRules, List.mem_cons, List.not_mem_nil, or_false] at hrule
    rcases hrule with rfl | rfl
    · exact Or.inr (isStateFinding_of_join hedge hother hholds hpartner hfinding)
    · obtain ⟨hholds, hpartner⟩ := h.mutualDependency (h.mem edge hedge) (h.mem other hother)
        hholds hpartner
      have hrule : mutualDependencyJoin nodes edges ∈ jointRules nodes edges :=
        List.mem_cons_of_mem _ List.mem_cons_self
      exact Or.inl (@Finds.joint _ _ (mutualDependencyJoin nodes edges) _ _ _ hrule
        (h.mem edge hedge) hholds (h.mem other hother) hpartner hfinding)
  | @internalNetworkPort edge port hedge hmember hport hsource hpublished =>
    exact Or.inl (.internalNetworkPort (h.mem edge hedge)
      (h.soleMembership (h.mem edge hedge) hmember) (h.mem port hport) hsource
      (h.solePort (h.mem port hport) hpublished))

/-! A copied edge -/

theorem withdraws_of_edge_copied {edge : RuntimeMapEdge} (hnodes : nodes'.Perm nodes)
    (hedge : edge ∈ edges) (hedges : edges'.Perm (edge :: edges)) :
    Withdraws nodes nodes' edges edges' where
  unique id := Or.inr (by rw [uniqueNode_eq_of_perm hnodes])
  mem other hother := by
    rcases List.mem_cons.1 (hedges.mem_iff.1 hother) with rfl | hmem
    · exact hedge
    · exact hmem
  count p := by
    rw [hedges.countP_eq]
    exact (List.sublist_cons_self edge edges).countP_le

/-- A copied edge cannot lower the count of listeners. -/
theorem finds_of_edge_copied {edge : RuntimeMapEdge} (hnodes : nodes'.Perm nodes)
    (hedge : edge ∈ edges) (hedges : edges'.Perm (edge :: edges)) {text : RuleText}
    {finding : Finding} (hfinds : Finds nodes' edges' text finding) :
    ∃ text, Finds nodes edges text finding := by
  have h := withdraws_of_edge_copied hnodes hedge hedges
  rcases h.finds_or hfinds with hfound | ⟨stateEdge, port, hexposes, hcount, hfinding⟩
  · exact ⟨text, hfound⟩
  · have hraw := h.exposesState hexposes
    refine ⟨_, hraw.finds ?_ hfinding⟩
    rw [← hraw.source] at hcount ⊢
    refine h.sourceCount_eq_one hraw.port_mem (shape_of_portPublication hraw.publication)
      (fun other _ hother => ?_) hcount
    have hjoins : joins nodes' = joins nodes := by
      funext source target other
      rw [joins, joins, uniqueNode_eq_of_perm hnodes]
    rwa [isDockerPortPublicationPairShape, hjoins]

/-! A copied node -/

theorem uniqueNode_copied {node : RuntimeMapNode} (hnode : node ∈ nodes)
    (hnodes : nodes'.Perm (node :: nodes)) (id : String) :
    uniqueNode nodes' id = if id = node.id then none else uniqueNode nodes id := by
  rw [uniqueNode_eq_of_perm hnodes]
  split_ifs with hid
  · have hpos : 0 < nodes.countP fun other => other.id == id :=
      List.countP_pos_iff.2 ⟨node, hnode, by simp [hid]⟩
    rw [uniqueNode, if_neg]
    rw [List.countP_cons_of_pos (by simp [hid])]
    omega
  · have hne : (node.id == id) = false := by simpa using fun h => hid h.symm
    rw [uniqueNode, uniqueNode, List.countP_cons_of_neg (by simp [hne]),
      List.find?_cons_of_neg (by simp [hne])]

theorem joins_copied {node : RuntimeMapNode} (hnode : node ∈ nodes)
    (hnodes : nodes'.Perm (node :: nodes)) (source target : RuntimeMapNode → Bool)
    (edge : RuntimeMapEdge) : joins nodes' source target edge =
      (joins nodes source target edge && edge.source != node.id && edge.target != node.id) := by
  rw [joins, joins, uniqueNode_copied hnode hnodes, uniqueNode_copied hnode hnodes]
  by_cases hsource : edge.source = node.id
  · simp [hsource]
  · by_cases htarget : edge.target = node.id
    · simp [hsource, htarget]
    · rw [if_neg hsource, if_neg htarget, bne_iff_ne.2 hsource, bne_iff_ne.2 htarget,
        Bool.and_true, Bool.and_true]

theorem ne_of_identifiesOne_copied {node : RuntimeMapNode} (hnode : node ∈ nodes)
    (hnodes : nodes'.Perm (node :: nodes)) {id : String} (h : IdentifiesOne nodes' id) :
    id ≠ node.id := by
  intro hid
  obtain ⟨found, hfound⟩ := h.exists_uniqueNode
  rw [uniqueNode_copied hnode hnodes, if_pos hid] at hfound
  cases hfound

theorem withdraws_of_node_copied {node : RuntimeMapNode} (hnode : node ∈ nodes)
    (hnodes : nodes'.Perm (node :: nodes)) (hedges : edges'.Perm edges) :
    Withdraws nodes nodes' edges edges' where
  unique id := by
    rw [uniqueNode_copied hnode hnodes]
    split_ifs
    · exact Or.inl rfl
    · exact Or.inr rfl
  mem other hother := hedges.mem_iff.1 hother
  count p := (hedges.countP_eq p).ge

/-- The daemon-state rule would rest on `port`, were `hidden` not a listener of the
container too. -/
structure HidesPort (nodes : List RuntimeMapNode) (edges : List RuntimeMapEdge) (hidden : String)
    (edge port : RuntimeMapEdge) : Prop where
  exposes : ExposesState nodes edges edge port
  observation : ∃ evidence ∈ edge.evidenceRefs.head?, ∃ other ∈ port.evidenceRefs.head?,
    sameObservation evidence other = true
  listens : ∃ other ∈ edges, isDockerPortPublicationPairShape nodes other = true ∧
    other.source = edge.source ∧ other.target = hidden
  visible : port.target ≠ hidden
  only : edges.countP (fun other => isDockerPortPublicationPairShape nodes other &&
    other.source == edge.source && other.target != hidden) = 1

theorem sourceCount_copied {node : RuntimeMapNode} (hnode : node ∈ nodes)
    (hnodes : nodes'.Perm (node :: nodes)) (hedges : edges'.Perm edges) {source : String}
    (hsource : source ≠ node.id) :
    sourceCount edges' (isDockerPortPublicationPairShape nodes') source =
      edges.countP (fun other => isDockerPortPublicationPairShape nodes other &&
        other.source == source && other.target != node.id) := by
  rw [sourceCount, hedges.countP_eq]
  refine List.countP_congr fun other _ => ?_
  simp only [isDockerPortPublicationPairShape, joins_copied hnode hnodes, Bool.and_eq_true,
    beq_iff_eq, bne_iff_ne]
  constructor
  · rintro ⟨⟨hexposes, ⟨hjoins, -⟩, htarget⟩, hother⟩
    exact ⟨⟨⟨hexposes, hjoins⟩, hother⟩, htarget⟩
  · rintro ⟨⟨⟨hexposes, hjoins⟩, hother⟩, htarget⟩
    exact ⟨⟨hexposes, ⟨hjoins, by rwa [hother]⟩, htarget⟩, hother⟩

/-- A copied node reveals a finding only where it hid one. -/
theorem finds_of_node_copied {node : RuntimeMapNode} (hnode : node ∈ nodes)
    (hnodes : nodes'.Perm (node :: nodes)) (hedges : edges'.Perm edges)
    (hhides : ∀ edge port, ¬ HidesPort nodes edges node.id edge port) {text : RuleText}
    {finding : Finding} (hfinds : Finds nodes' edges' text finding) :
    ∃ text, Finds nodes edges text finding := by
  have h := withdraws_of_node_copied hnode hnodes hedges
  rcases h.finds_or hfinds with hfound | ⟨edge, port, hexposes, hcount, hfinding⟩
  · exact ⟨text, hfound⟩
  have hraw := h.exposesState hexposes
  have hsource := ne_of_identifiesOne_copied hnode hnodes
    (joined_of_daemonStateBindMount hexposes.daemonState).1
  have hvisible := ne_of_identifiesOne_copied hnode hnodes
    (joined_of_portPublication hexposes.publication).2
  rw [sourceCount_copied hnode hnodes hedges hsource] at hcount
  -- without a port edge to the copied node, the listeners are counted as before
  by_cases hlistens : ∃ other ∈ edges, isDockerPortPublicationPairShape nodes other = true ∧
      other.source = edge.source ∧ other.target = node.id
  · obtain ⟨evidence, other, hevidence, hother, hobservation, -⟩ := jointFinding_eq_some.1 hfinding
    exact absurd ⟨hraw, ⟨evidence, hevidence, other, hother, hobservation⟩, hlistens, hvisible,
      hcount⟩ (hhides edge port)
  · refine ⟨_, hraw.finds ?_ hfinding⟩
    rw [← hcount]
    refine List.countP_congr fun other hother => ?_
    simp only [Bool.and_eq_true, beq_iff_eq, bne_iff_ne]
    exact ⟨fun h => ⟨h, fun htarget => hlistens ⟨other, hother, h.1, h.2, htarget⟩⟩, And.left⟩

/-! A hidden port is found once its listener is copied -/

theorem HidesPort.exists_listener {hidden : String} {edge port : RuntimeMapEdge}
    (h : HidesPort nodes edges hidden edge port) :
    ∃ node, uniqueNode nodes hidden = some node ∧ isNetworkListener node = true := by
  obtain ⟨other, -, hshape, -, rfl⟩ := h.listens
  simp only [isDockerPortPublicationPairShape, Bool.and_eq_true, joins_iff] at hshape
  exact hshape.2.2

theorem HidesPort.ends_ne {hidden : String} {edge port : RuntimeMapEdge}
    (h : HidesPort nodes edges hidden edge port) :
    edge.source ≠ hidden ∧ edge.target ≠ hidden := by
  obtain ⟨listener, hlistener, hkind⟩ := h.exists_listener
  have hstate := (shape_of_daemonStateBindMount h.exposes.daemonState).2
  simp only [isDockerDaemonStatePairShape, Bool.and_eq_true, joins_iff] at hstate
  obtain ⟨-, ⟨source, hsource, hcontainer⟩, target, htarget, hrisk⟩ := hstate
  constructor
  · intro heq
    rw [heq, hlistener] at hsource
    cases hsource
    simp only [isNetworkListener, isDockerContainer, Bool.and_eq_true, beq_iff_eq] at *
    rw [hkind.1] at hcontainer
    cases hcontainer.1
  · intro heq
    rw [heq, hlistener] at htarget
    cases htarget
    simp only [isNetworkListener, isDockerDaemonStateRisk, Bool.and_eq_true, beq_iff_eq] at *
    rw [hkind.1] at hrisk
    cases hrisk.1.1.1

theorem HidesPort.exposes_copied {node : RuntimeMapNode} (hnode : node ∈ nodes)
    {edge port : RuntimeMapEdge} (h : HidesPort nodes edges node.id edge port) :
    ExposesState (node :: nodes) edges edge port := by
  have hjoins := joins_copied hnode (List.Perm.refl (node :: nodes))
  obtain ⟨hsource, htarget⟩ := h.ends_ne
  have hports : port.source ≠ node.id := by rwa [h.exposes.source]
  have hunique := uniqueNode_copied hnode (List.Perm.refl (node :: nodes)) port.target
  rw [if_neg h.visible] at hunique
  refine ⟨h.exposes.edge_mem, h.exposes.port_mem, ?_, ?_, ?_, h.exposes.source⟩
  · rw [← h.exposes.once]
    refine List.countP_congr fun other _ => ?_
    simp only [isDockerDaemonStatePairShape, hjoins, Bool.and_eq_true, beq_iff_eq, bne_iff_ne]
    constructor
    · rintro ⟨⟨hrelationship, ⟨hjoin, -⟩, -⟩, hother⟩
      exact ⟨⟨hrelationship, hjoin⟩, hother⟩
    · rintro ⟨⟨hrelationship, hjoin⟩, hother⟩
      have hshape : isDockerDaemonStatePairShape nodes other = true := by
        simp only [isDockerDaemonStatePairShape, hrelationship, hjoin, beq_self_eq_true,
          Bool.and_self]
      refine ⟨⟨hrelationship, ⟨hjoin, by rwa [hother]⟩, ?_⟩, hother⟩
      rw [target_of_daemonStatePairShape hshape, ← target_of_daemonStatePairShape
        (shape_of_daemonStateBindMount h.exposes.daemonState).2]
      exact htarget
  · simpa only [isCandidateDockerDaemonStateBindMount, isDockerDaemonStateShape,
      isDockerDaemonStatePairShape, hjoins, bne_iff_ne.2 hsource, bne_iff_ne.2 htarget,
      Bool.and_true] using h.exposes.daemonState
  · simpa only [isCandidateDockerDaemonStatePortPublication, isDockerPortPublicationPairShape,
      hjoins, hunique, bne_iff_ne.2 hports, bne_iff_ne.2 h.visible, Bool.and_true]
      using h.exposes.publication

/-- The id the daemon-state rule gives the pair. -/
def stateFindingId (edge : RuntimeMapEdge) : String := pairId daemonStatePortRule (pairOf edge)

theorem HidesPort.finds_copied {node : RuntimeMapNode} (hnode : node ∈ nodes)
    {edge port : RuntimeMapEdge} (h : HidesPort nodes edges node.id edge port) :
    ∃ finding, Finds (node :: nodes) edges daemonStatePortRule finding ∧
      finding.id = stateFindingId edge := by
  obtain ⟨evidence, hevidence, other, hother, hobservation⟩ := h.observation
  have hfinding : jointFinding daemonStatePortRule edge port = some (daemonStatePortRule.finding
      edge (pairIdentity edge.source edge.target) [evidence, other]) :=
    jointFinding_eq_some.2 ⟨evidence, other, hevidence, hother, hobservation, rfl⟩
  refine ⟨_, (h.exposes_copied hnode).finds ?_ hfinding, rfl⟩
  rw [sourceCount_copied hnode (List.Perm.refl _) (List.Perm.refl _) h.ends_ne.1]
  exact h.only

theorem prefix_ne_of_edgeRule : ∀ rule ∈ edgeRules nodes edges,
    rule.1.idPrefix ≠ daemonStatePortRule.idPrefix := by
  simp only [edgeRules, List.forall_mem_cons, List.not_mem_nil, IsEmpty.forall_iff, implies_true,
    and_true]
  decide

theorem isStateFinding_of_prefix {text : RuleText} {finding : Finding}
    (h : Finds nodes edges text finding) (htext : text.idPrefix = daemonStatePortRule.idPrefix) :
    IsStateFinding nodes edges finding := by
  cases h with
  | edge hrule _ _ => exact absurd htext (prefix_ne_of_edgeRule _ hrule)
  | collision _ _ _ => exact absurd htext (by decide)
  | joint hrule hedge hholds hother hpartner hfinding =>
    simp only [jointRules, List.mem_cons, List.not_mem_nil, or_false] at hrule
    rcases hrule with rfl | rfl
    · exact isStateFinding_of_join hedge hother hholds hpartner hfinding
    · have hmutual : mutualDependencyRule.idPrefix = daemonStatePortRule.idPrefix := htext
      exact absurd hmutual (by decide)
  | internalNetworkPort _ _ _ _ _ => exact absurd htext (by decide)

/-- While the port is hidden, nothing has the id it would give. -/
theorem HidesPort.id_ne (hsha : NoCollision (findingTexts edges)) {hidden : String}
    {edge port : RuntimeMapEdge} (h : HidesPort nodes edges hidden edge port) {text : RuleText}
    {finding : Finding} (hfinds : Finds nodes edges text finding) :
    finding.id ≠ stateFindingId edge := by
  intro hid
  have htext := pairText_mem_texts h.exposes.edge_mem
  rcases hfinds.id_eq with ⟨rfl, hpre⟩ | ⟨value, hvalue, hcomponent⟩
  · exact collision_id_ne _ _ (hpre.symm.trans hid)
  obtain ⟨hpre, rfl⟩ := append_component_inj hsha hvalue htext (hcomponent.symm.trans hid)
  obtain ⟨other, otherPort, hexposes, hcount, hfinding⟩ := isStateFinding_of_prefix hfinds hpre
  obtain ⟨_, _, -, -, -, rfl⟩ := jointFinding_eq_some.1 hfinding
  have hpair := (append_component_inj hsha (pairText_mem_texts hexposes.edge_mem) htext hid).2
  have htarget : other.target = edge.target :=
    (target_of_daemonStatePairShape (shape_of_daemonStateBindMount hexposes.daemonState).2).trans
      (target_of_daemonStatePairShape
        (shape_of_daemonStateBindMount h.exposes.daemonState).2).symm
  have hsource : other.source = edge.source := by
    unfold pairText at hpair
    rw [htarget] at hpair
    exact (String.append_left_inj _).1 ((String.append_left_inj _).1 hpair)
  rw [hsource] at hcount
  obtain ⟨listener, hmem, hshape, hlistener, hhidden⟩ := h.listens
  refine h.visible ?_
  rw [← hhidden, SoleMember.eq_of_countP_le_one hcount.le h.exposes.port_mem
    (by simp [shape_of_portPublication h.exposes.publication, h.exposes.source]) hmem
    (by simp [hshape, hlistener])]

end

/-! Every copy -/

structure NodeCopied (node : RuntimeMapNode) (runtimeMap runtimeMap' : RuntimeMap) : Prop where
  nodes : runtimeMap'.nodes.Perm (node :: runtimeMap.nodes)
  edges : runtimeMap'.edges.Perm runtimeMap.edges
  source : runtimeMap'.source = runtimeMap.source

structure EdgeCopied (edge : RuntimeMapEdge) (runtimeMap runtimeMap' : RuntimeMap) : Prop where
  nodes : runtimeMap'.nodes.Perm runtimeMap.nodes
  edges : runtimeMap'.edges.Perm (edge :: runtimeMap.edges)
  source : runtimeMap'.source = runtimeMap.source

def findingIds (runtimeMap : RuntimeMap) : List String :=
  (deriveFindings runtimeMap).map Finding.id

/-- One more copy of a node or of an edge creates no finding. -/
structure FailsClosed (runtimeMap : RuntimeMap) : Prop where
  nodes : ∀ node ∈ runtimeMap.nodes, ∀ runtimeMap', NodeCopied node runtimeMap runtimeMap' →
    findingIds runtimeMap' ⊆ findingIds runtimeMap
  edges : ∀ edge ∈ runtimeMap.edges, ∀ runtimeMap', EdgeCopied edge runtimeMap runtimeMap' →
    findingIds runtimeMap' ⊆ findingIds runtimeMap

/-- No container with daemon-state access publishes on one listener beside another. -/
def HidesNoPort (runtimeMap : RuntimeMap) : Prop :=
  runtimeMap.source = some .mock ∨
    ∀ hidden edge port, ¬ HidesPort runtimeMap.nodes runtimeMap.edges hidden edge port

theorem findingIds_subset {runtimeMap runtimeMap' : RuntimeMap}
    (hsource : runtimeMap'.source = runtimeMap.source)
    (h : runtimeMap.source ≠ some .mock → ∀ text finding,
      Finds runtimeMap'.nodes runtimeMap'.edges text finding →
        ∃ text, Finds runtimeMap.nodes runtimeMap.edges text finding) :
    findingIds runtimeMap' ⊆ findingIds runtimeMap := by
  intro id hid
  by_cases hmock : runtimeMap.source = some .mock
  · rw [findingIds, deriveFindings, if_pos (hsource.trans hmock)] at hid
    cases hid
  · obtain ⟨finding, hmem, rfl⟩ := List.mem_map.1 hid
    obtain ⟨text, hfinds⟩ := (mem_deriveFindings (by rwa [hsource])).1 hmem
    exact List.mem_map_of_mem ((mem_deriveFindings hmock).2 (h hmock text finding hfinds))

theorem failsClosed_of_hidesNoPort {runtimeMap : RuntimeMap} (h : HidesNoPort runtimeMap) :
    FailsClosed runtimeMap := by
  constructor
  · intro node hnode runtimeMap' hcopied
    refine findingIds_subset hcopied.source fun hmock text finding hfinds => ?_
    exact finds_of_node_copied hnode hcopied.nodes hcopied.edges
      (h.resolve_left hmock node.id) hfinds
  · intro edge hedge runtimeMap' hcopied
    refine findingIds_subset hcopied.source fun _ text finding hfinds => ?_
    exact finds_of_edge_copied hcopied.nodes hedge hcopied.edges hfinds

theorem hidesNoPort_of_failsClosed {runtimeMap : RuntimeMap}
    (hsha : NoCollision (findingTexts runtimeMap.edges)) (h : FailsClosed runtimeMap) :
    HidesNoPort runtimeMap := by
  by_cases hmock : runtimeMap.source = some .mock
  · exact Or.inl hmock
  refine Or.inr fun hidden edge port hhides => ?_
  obtain ⟨listener, hlistener, -⟩ := hhides.exists_listener
  obtain ⟨-, hnode, rfl⟩ := uniqueNode_eq_some.1 hlistener
  obtain ⟨finding, hfinds, hid⟩ := hhides.finds_copied hnode
  have hcopied : NodeCopied listener runtimeMap
      { runtimeMap with nodes := listener :: runtimeMap.nodes } := ⟨.refl _, .refl _, rfl⟩
  have hnew : finding ∈ deriveFindings { runtimeMap with nodes := listener :: runtimeMap.nodes } :=
    (mem_deriveFindings (by exact hmock)).2 ⟨_, hfinds⟩
  have hmem := h.nodes listener hnode _ hcopied (List.mem_map_of_mem hnew)
  obtain ⟨known, hknown, hsame⟩ := List.mem_map.1 hmem
  obtain ⟨text, hknown⟩ := (mem_deriveFindings hmock).1 hknown
  exact hhides.id_ne hsha hknown (hsame.trans hid)

/-- Copies of nodes and edges create no finding when no port publication is hidden by a
second listener; and, short of a digest collision, only then. -/
theorem duplication_fails_closed (runtimeMap : RuntimeMap) :
    (HidesNoPort runtimeMap → FailsClosed runtimeMap) ∧
      (NoCollision (findingTexts runtimeMap.edges) → FailsClosed runtimeMap →
        HidesNoPort runtimeMap) :=
  ⟨failsClosed_of_hidesNoPort, hidesNoPort_of_failsClosed⟩

def freshDockerEvidence (kind : RuntimeEvidenceKind) (summary : String) : RuntimeEvidenceRef where
  version := 1
  id := "docker_evidence"
  provider := .docker
  kind := kind
  assertionKind := .observed
  summary := summary
  subjectRef := "docker_container_a"
  collectedAt := 1
  providerRevision := "revision"
  providerSlot := none
  freshness := .fresh

def publishedListener (id port : String) : RuntimeMapNode where
  id := id
  provider := .network
  kind := .networkListener
  label := port
  status := none
  layer := none
  metadata := (∅ : Metadata).insert "port" port
  service := none
  package := none

/-- A container with daemon-state access and two published ports. -/
def twoPortMap : RuntimeMap where
  nodes :=
    [{ riskNode "docker_container_a" "a" with kind := .container },
      riskNode dockerDaemonStateRiskId "Docker daemon state exposure",
      publishedListener "network_listener_80" "8080:80/tcp",
      publishedListener "network_listener_90" "8090:90/tcp"]
  edges :=
    [{ source := "docker_container_a"
       target := dockerDaemonStateRiskId
       relationship := .exposesDaemonState
       metadata := ∅
       evidenceRefs := [freshDockerEvidence .dockerDaemonStateBindMount
         "Docker reported a bind mount exposing Docker daemon state"] },
      { source := "docker_container_a"
        target := "network_listener_80"
        relationship := .exposes
        metadata := ∅
        evidenceRefs := [freshDockerEvidence .dockerPortPublication "Docker reported a port"] },
      { source := "docker_container_a"
        target := "network_listener_90"
        relationship := .exposes
        metadata := ∅
        evidenceRefs := [freshDockerEvidence .dockerPortPublication "Docker reported a port"] }]

/-- A second record of one listener makes the other the only port. -/
theorem copied_listener_creates_finding : ¬ FailsClosed twoPortMap := by
  intro h
  have hsubset := h.nodes (publishedListener "network_listener_90" "8090:90/tcp") (by decide)
    { twoPortMap with
      nodes := publishedListener "network_listener_90" "8090:90/tcp" :: twoPortMap.nodes }
    ⟨.refl _, .refl _, rfl⟩
  revert hsubset
  decide +kernel

end DockerMap
