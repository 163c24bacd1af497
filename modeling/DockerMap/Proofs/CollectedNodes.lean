import DockerMap.Daemon.Listeners
import DockerMap.Proofs.FindingPresentation
import DockerMap.Proofs.IdentityAgreement
import DockerMap.Proofs.MapEvidence
import DockerMap.Proofs.ProjectInventory

/-! The nodes of a published runtime map: those that the collectors of the host made, and the
daemon's own of the snapshot. Two families of ids tell which is which. -/

namespace DockerMap

open Text (startsWith)

/-! Ids under redaction -/

theorem isPlain_families : isPlain "network_listener_" = true ∧ isPlain "tmux_session_" = true :=
  ⟨isPlain_ofList (by decide), isPlain_ofList (by decide)⟩

/-- Redaction neither makes nor breaks the start of an id. -/
theorem startsWith_of_redact {value word : String} (hword : isPlain word = true) (hne : word ≠ "")
    (h : startsWith (redactRuntimeDisplayText value).toList word.toList = true) :
    isSensitiveText value.toList = false ∧ startsWith value.toList word.toList = true := by
  have hquiet := ((isPlain_iff word).1 hword).1
  have hmark : replacementCharacter ∉ word.toList := fun hmem =>
    absurd (quietCharacter (hquiet _ hmem)).1 (by decide)
  have hinsensitive : isSensitiveText value.toList = false := by
    rw [Bool.eq_false_iff]
    intro hsensitive
    rw [redactRuntimeDisplayText, redactSensitiveText, if_pos hsensitive, startsWith,
      decide_eq_true_eq] at h
    cases hlist : word.toList with
    | nil => exact hne (String.toList_injective hlist)
    | cons c rest =>
      have hfirst : (normalizeRuntimeDisplayString redactedValue).toList = '[' :: "redacted]".toList := by
        decide
      rw [hlist, hfirst, List.cons_prefix_cons] at h
      exact (quietCharacter (hquiet c (by rw [hlist]; exact List.mem_cons_self))).2.2.2.2.2 h.1
  refine ⟨hinsensitive, ?_⟩
  rw [redactRuntimeDisplayText, redactSensitiveText, hinsensitive, if_neg Bool.false_ne_true,
    normalizeRuntimeDisplayString, String.toList_ofList, startsWith, decide_eq_true_eq] at h
  rw [startsWith, decide_eq_true_eq]
  refine (masks_normalizeCharacter.prefix_iff hmark fun c hc => ?_).1 h
  rw [normalizeCharacter, (quietCharacter (hquiet c hc)).2.1, if_neg Bool.false_ne_true]

theorem redact_of_slug {value word : String} (hslug : ∀ c ∈ value.toList, isSlugCharacter c = true)
    (hword : isPlain word = true) (hne : word ≠ "")
    (h : startsWith (redactRuntimeDisplayText value).toList word.toList = true) :
    redactRuntimeDisplayText value = value :=
  IsPublished.redact_eq
    ⟨fun c hc => (quietCharacter (quiet_of_slug (hslug c hc)).1).2.1,
      (startsWith_of_redact hword hne h).1⟩

/-! Characters of ids -/

def IsSlug (value : String) : Prop := ∀ c ∈ value.toList, isSlugCharacter c = true

theorem IsSlug.append {value value' : String} (h : IsSlug value) (h' : IsSlug value') :
    IsSlug (value ++ value') := by
  intro c hc
  rw [String.toList_append, List.mem_append] at hc
  exact hc.elim (h c) (h' c)

theorem isSlug_of_slugCharacters {separated : Bool} {text : List Char} {c : Char}
    (h : c ∈ slugCharacters separated text) : isSlugCharacter c = true := by
  induction text generalizing separated with
  | nil => cases h
  | cons first rest ih =>
    unfold slugCharacters at h
    split_ifs at h with hfirst hseparated
    · rcases List.mem_cons.1 h with rfl | hrest
      · exact hfirst
      · exact ih hrest
    · exact ih h
    · rcases List.mem_cons.1 h with rfl | hrest
      · decide
      · exact ih hrest

theorem isSlug_hex (value : String) : IsSlug (Sha256.hex value) := fun c hc =>
  (hexCharacter (Or.inl (hex_sha256 value c hc))).1

theorem isSlug_component (value : String) : IsSlug (collisionResistantIdComponent value) := by
  refine IsSlug.append (IsSlug.append ?_ (by unfold IsSlug; decide)) (isSlug_hex value)
  intro c hc
  rw [String.toList_ofList, readableSlug] at hc
  split_ifs at hc
  · exact (by decide : ∀ c ∈ "identity".toList, isSlugCharacter c = true) c hc
  · exact isSlug_of_slugCharacters (mem_of_mem_trimDashes (List.mem_of_mem_take hc))

theorem isSlug_listenerId (container : ContainerRecord) (port : String) :
    IsSlug (listenerId container port) := by
  refine IsSlug.append (IsSlug.append (IsSlug.append ?_ (isSlug_component _)) ?_)
    (isSlug_component _)
  · unfold IsSlug
    decide
  · unfold IsSlug
    decide

theorem isSlug_nat (n : ℕ) : IsSlug (toString n) := by
  intro c hc
  rw [toList_toString] at hc
  have hdigit : c.isDigit = true := Nat.isDigit_of_mem_toDigits (by decide) (by decide) hc
  exact (hexCharacter (Or.inl (hex_of_digit hdigit))).1

theorem isSlug_listeningSocketId (socket : ListeningSocket) : IsSlug (listeningSocketId socket) := by
  refine IsSlug.append (IsSlug.append (IsSlug.append ?_ (isSlug_component _)) ?_) (isSlug_nat _)
  · unfold IsSlug
    decide
  · unfold IsSlug
    decide

/-- A listener of Docker ends with a digest, a socket of the host with its port. -/
theorem listeningSocketId_ne {socket : ListeningSocket} (hport : socket.port < 2 ^ 16)
    (container : ContainerRecord) (port : String) :
    listeningSocketId socket ≠ listenerId container port := by
  intro heq
  have hdigits : (Nat.toDigits 10 socket.port).length ≤ 5 :=
    (Nat.length_toDigits_le_iff (by decide) (by decide)).2
      (Nat.lt_of_lt_of_le hport (by norm_num))
  have hsocket : ('_' :: Nat.toDigits 10 socket.port) <:+ (listeningSocketId socket).toList := by
    refine ⟨"network_listener_".toList ++ (collisionResistantIdComponent socket.address).toList, ?_⟩
    unfold listeningSocketId
    rw [String.toList_append, String.toList_append, String.toList_append, toList_toString,
      show "_".toList = ['_'] from rfl, List.append_assoc _ ['_'], List.singleton_append]
  have hlistener : (Sha256.hex port).toList <:+ (listeningSocketId socket).toList := by
    rw [heq]
    unfold listenerId
    rw [toList_append_component]
    exact List.suffix_append _ _
  have hshort : ('_' :: Nat.toDigits 10 socket.port) <:+ (Sha256.hex port).toList := by
    refine List.suffix_of_suffix_length_le hsocket hlistener ?_
    rw [Sha256.length_hex, List.length_cons]
    omega
  exact absurd (hex_sha256 port _ (hshort.subset List.mem_cons_self)) (by decide)

/-! Nodes of the collectors -/

/-- A node that is neither a session nor of the family of listeners. -/
structure IsOther (node : RuntimeMapNode) : Prop where
  kind : node.kind ≠ .tmuxSession
  id : startsWith node.id.toList "network_listener_".toList = false

/-- A node as the collectors of the host make it. -/
inductive IsCollected : RuntimeMapNode → Prop
  | socket (socket : ListeningSocket) (hport : socket.port < 2 ^ 16) :
      IsCollected (listeningSocketNode socket)
  | session (key : List UInt8) (id : List Char) : IsCollected (tmuxSessionNode key id)
  | other {node : RuntimeMapNode} (hother : IsOther node) : IsCollected node

theorem lt_of_fromHex {bound port : ℕ} {value : List Char} (h : fromHex bound value = some port) :
    port < bound := by
  have hdigits {value : List Char} (h : parseHexDigits bound value = some port) : port < bound := by
    unfold parseHexDigits at h
    dsimp only at h
    split_ifs at h with hvalid
    cases h
    exact hvalid.2.2
  unfold fromHex at h
  split at h
  · exact hdigits h
  · exact hdigits h

theorem port_of_parseProcNetListenerLine {line : List Char} {socket : ListeningSocket}
    (h : parseProcNetListenerLine line = some (some socket)) : socket.port < 2 ^ 16 := by
  unfold parseProcNetListenerLine at h
  split at h
  · split_ifs at h
    · obtain ⟨parsed, hparsed, hsocket⟩ := Option.map_eq_some_iff.1 h
      obtain ⟨pair, rfl, rfl⟩ := Option.map_eq_some_iff.1 hsocket
      unfold parseProcNetLocalAddress at hparsed
      split at hparsed
      · cases hparsed
      · split at hparsed
        · cases hparsed
        · rename_i port hport
          obtain ⟨address, -, haddress⟩ := Option.map_eq_some_iff.1 hparsed
          obtain ⟨text, -, rfl⟩ := Option.map_eq_some_iff.1 haddress
          exact lt_of_fromHex hport
    · cases h
  · cases h

/-- What a successful `mapM` gives comes from an element. -/
theorem mem_of_mapM {α β : Type} {f : α → Option β} {l : List α} {results : List β}
    (h : l.mapM f = some results) {b : β} (hb : b ∈ results) : ∃ a ∈ l, f a = some b := by
  induction l generalizing results with
  | nil =>
    cases h
    cases hb
  | cons a l ih =>
    rw [List.mapM_cons] at h
    simp only [bind, Option.bind_eq_some_iff, pure, Option.some.injEq] at h
    obtain ⟨first, hfirst, rest, hrest, rfl⟩ := h
    rcases List.mem_cons.1 hb with rfl | hmem
    · exact ⟨a, List.mem_cons_self, hfirst⟩
    · obtain ⟨a', ha', hf⟩ := ih hrest hmem
      exact ⟨a', List.mem_cons_of_mem _ ha', hf⟩

theorem isCollected_networkListeners {readTable : String → Option (List Char)}
    {pass : ListenerPass} (h : collectNetworkListeners readTable = some pass) :
    ∀ node ∈ pass.nodes, IsCollected node := by
  intro node hnode
  obtain ⟨passes, hpasses, rfl⟩ := Option.map_eq_some_iff.1 h
  obtain ⟨table, htable, hnode⟩ := List.mem_flatMap.1 hnode
  obtain ⟨path, -, hpath⟩ := mem_of_mapM hpasses htable
  unfold collectListenerTable at hpath
  split at hpath
  · cases hpath
    cases hnode
  · obtain ⟨sockets, hsockets, rfl⟩ := Option.map_eq_some_iff.1 hpath
    obtain ⟨socket, hsocket, rfl⟩ := List.mem_map.1 hnode
    obtain ⟨parsed, hparsed, rfl⟩ := Option.map_eq_some_iff.1 hsockets
    obtain ⟨found, hfound, hsome⟩ := List.mem_filterMap.1 hsocket
    obtain ⟨line, -, hline⟩ := mem_of_mapM hparsed hfound
    rw [id_eq] at hsome
    rw [hsome] at hline
    exact .socket socket (port_of_parseProcNetListenerLine hline)

theorem isCollected_tmuxSessions (key : List UInt8)
    (output : Except ProviderCommandError TmuxOutput) :
    ∀ node ∈ (collectTmuxSessions key output).nodes, IsCollected node := by
  intro node hnode
  unfold collectTmuxSessions at hnode
  split at hnode
  · cases hnode
  · split_ifs at hnode
    · cases hnode
    · cases hnode
    · obtain ⟨line, -, rfl⟩ := List.mem_map.1 (List.mem_of_mem_take hnode)
      exact .session key _

/-- The nodes that a slot reads from the host. The host's slot reads the sockets, tmux's the
sessions, unless the namespace is a restricted one; the others read families of their own. -/
def CollectsNodes : ProviderSlot → HostReading → Prop
  | .hostScoped, reading => ∃ readTable pass, collectNetworkListeners readTable = some pass ∧
      ∀ node ∈ reading.nodes, node ∈ pass.nodes ∨ IsOther node
  | .tmux, reading => reading.nodes = [] ∨
      ∃ key output, reading.nodes = (collectTmuxSessions key output).nodes
  | _, reading => ∀ node ∈ reading.nodes, IsOther node

theorem CollectsNodes.collected {slot : ProviderSlot} {reading : HostReading}
    (h : CollectsNodes slot reading) : ∀ node ∈ reading.nodes, IsCollected node := by
  intro node hnode
  unfold CollectsNodes at h
  split at h
  · obtain ⟨readTable, pass, hpass, hall⟩ := h
    rcases hall node hnode with hlistener | hother
    · exact isCollected_networkListeners hpass node hlistener
    · exact .other hother
  · rcases h with hnone | ⟨key, output, hlisted⟩
    · rw [hnone] at hnode
      cases hnode
    · rw [hlisted] at hnode
      exact isCollected_tmuxSessions key output node hnode
  · exact .other (h node hnode)

theorem exists_collected {slots : RuntimeProviderSlots}
    (hcollects : ∀ slot, ∀ collection ∈ retainedCollection (slots slot).observation,
      ∃ raw, PassOf CollectsNodes slot raw ∧ collection = raw.sanitizedForRetention)
    {node : RuntimeMapNode} (h : node ∈ (combinedCollection slots).nodes) :
    ∃ raw, IsCollected raw ∧ node = redactRuntimeNode raw := by
  obtain ⟨slot, -, hslot⟩ := List.mem_flatMap.1 h
  unfold slotContribution at hslot
  cases hretained : retainedCollection (slots slot).observation with
  | none =>
    rw [hretained] at hslot
    cases hslot
  | some collection =>
    rw [hretained] at hslot
    obtain ⟨raw, ⟨reading, hreads, rfl⟩, rfl⟩ := hcollects slot collection hretained
    obtain ⟨read, hread, rfl⟩ := List.mem_map.1 hslot
    refine ⟨read, hreads.collected read ?_, rfl⟩
    rw [collectProviderSlot, ProviderCollection.setState] at hread
    exact hread

/-! Nodes of the snapshot -/

/-- A node that the daemon itself derives from the snapshot. -/
def IsDerived (snapshot : DockerSnapshot) (node : RuntimeMapNode) : Prop :=
  node ∈ inventoryNodes snapshot [] ∨
    node.id ∈ [dockerUnspecifiedAddressPortRiskId, dockerDaemonStateRiskId]

section

variable {snapshot : DockerSnapshot} {node : RuntimeMapNode}

theorem take_of_startsWith {value word : String} (h : startsWith value.toList word.toList = true)
    (hword : 8 ≤ word.toList.length) : value.toList.take 8 = word.toList.take 8 := by
  rw [startsWith, decide_eq_true_eq] at h
  obtain ⟨rest, hrest⟩ := h
  rw [← hrest, List.take_append_of_le_length hword]

theorem take_of_inventory (h : node ∈ inventoryNodes snapshot []) :
    (∃ container ∈ snapshot.containers, ∃ port ∈ container.ports,
      node = listenerNode container port) ∨
    node.id.toList.take 8 ∈ ["docker_c".toList, "docker_n".toList, "docker_v".toList] := by
  rw [inventoryNodes, List.nil_append, List.mem_append, List.mem_append, List.mem_flatMap,
    List.mem_map, List.mem_map] at h
  rcases h with (⟨container, hcontainer, h⟩ | ⟨network, -, rfl⟩) | ⟨volume, -, rfl⟩
  · rw [containerNodes, List.mem_cons, List.mem_map] at h
    rcases h with rfl | ⟨port, hport, rfl⟩
    · right
      rw [show (containerNode container).id = runtimeContainerId container from rfl,
        family_container]
      exact List.mem_cons_self
    · exact Or.inl ⟨container, hcontainer, port, hport, rfl⟩
  · right
    rw [show (networkNode network).id = runtimeNetworkId network.id from rfl, family_network]
    exact List.mem_cons_of_mem _ List.mem_cons_self
  · right
    rw [show (volumeNode volume).id = runtimeVolumeId volume.id from rfl, family_volume]
    exact List.mem_cons_of_mem _ (List.mem_cons_of_mem _ List.mem_cons_self)

/-- Of the daemon's own nodes the listeners are those of the ports. -/
theorem IsDerived.listener (h : IsDerived snapshot node)
    (hid : startsWith node.id.toList "network_listener_".toList = true) :
    ∃ container ∈ snapshot.containers, ∃ port ∈ container.ports,
      node = listenerNode container port := by
  have htake := take_of_startsWith hid (by decide)
  rcases h with hmem | hrisk
  · refine (take_of_inventory hmem).resolve_right fun hfamily => ?_
    rw [htake] at hfamily
    exact absurd hfamily (by decide)
  · rw [List.mem_cons, List.mem_singleton] at hrisk
    rcases hrisk with hrisk | hrisk
    · rw [hrisk] at htake
      exact absurd htake (by decide)
    · rw [hrisk] at htake
      exact absurd htake (by decide)

theorem IsDerived.not_session (h : IsDerived snapshot node) :
    startsWith node.id.toList "tmux_session_".toList = false := by
  rw [Bool.eq_false_iff]
  intro hid
  have htake := take_of_startsWith hid (by decide)
  rcases h with hmem | hrisk
  · rcases take_of_inventory hmem with ⟨container, -, port, -, rfl⟩ | hfamily
    · rw [show (listenerNode container port).id = listenerId container port from rfl,
        family_listener] at htake
      exact absurd htake (by decide)
    · rw [htake] at hfamily
      exact absurd hfamily (by decide)
  · rw [List.mem_cons, List.mem_singleton] at hrisk
    rcases hrisk with hrisk | hrisk
    · rw [hrisk] at htake
      exact absurd htake (by decide)
    · rw [hrisk] at htake
      exact absurd htake (by decide)

theorem exists_withHostRisk {revision : String} {sources : List String} {risk : RuntimeMapNode}
    {relationship : RuntimeRelationshipKind} {kind : RuntimeEvidenceKind}
    (hrisk : IsDerived snapshot risk) {nodes : List RuntimeMapNode}
    {topology : List RuntimeMapNode × List RuntimeMapEdge}
    (h : ∃ own, topology.1 = nodes ++ own ∧ ∀ node ∈ own, IsDerived snapshot node) :
    ∃ own, (withHostRisk snapshot revision sources risk relationship kind topology).1 = nodes ++ own ∧
      ∀ node ∈ own, IsDerived snapshot node := by
  obtain ⟨own, hown, hderived⟩ := h
  unfold withHostRisk
  split_ifs
  · refine ⟨own ++ [risk], ?_, ?_⟩
    · rw [hown, List.append_assoc]
    · rw [List.forall_mem_append, List.forall_mem_singleton]
      exact ⟨hderived, hrisk⟩
  · exact ⟨own, hown, hderived⟩

/-- A derived topology has the nodes it was given, then its own. -/
theorem exists_derived (snapshot : DockerSnapshot) (nodes : List RuntimeMapNode)
    (edges : List RuntimeMapEdge) (revision : String) :
    ∃ own, (derivedTopology snapshot nodes edges revision).1 = nodes ++ own ∧
      ∀ node ∈ own, IsDerived snapshot node := by
  rw [derivedTopology, riskTopology]
  refine exists_withHostRisk (Or.inr (List.mem_cons_of_mem _ List.mem_cons_self))
    (exists_withHostRisk (Or.inr List.mem_cons_self) ⟨inventoryNodes snapshot [], ?_,
      fun node hnode => Or.inl hnode⟩)
  simp only [inventoryNodes, List.nil_append, List.append_assoc]

end

/-- The published nodes: what the slots retain, and the snapshot's own. -/
theorem nodes_perm {slots : RuntimeProviderSlots}
    (hcollects : ∀ slot, ∀ collection ∈ retainedCollection (slots slot).observation,
      ∃ raw, PassOf CollectsNodes slot raw ∧ collection = raw.sanitizedForRetention)
    (snapshot : DockerSnapshot) (mode : RuntimeMode) (revision : String) :
    ∃ own : List RuntimeMapNode, (runtimeMapForSnapshot snapshot mode slots revision).nodes.Perm
        ((combinedCollection slots).nodes ++ own.map redactRuntimeNode) ∧
      ∀ node ∈ own, IsDerived snapshot node := by
  obtain ⟨own, hown, hderived⟩ := exists_derived snapshot (combinedCollection slots).nodes
    ((combinedCollection slots).edges.filter
      (keepsHostRelationship (combinedCollection slots).nodes mode)) revision
  refine ⟨own, ?_, hderived⟩
  have hretained : (combinedCollection slots).nodes.map redactRuntimeNode =
      (combinedCollection slots).nodes := by
    refine (List.map_congr_left fun node hnode => ?_).trans (List.map_id _)
    obtain ⟨raw, -, rfl⟩ := exists_collected hcollects hnode
    exact redactRuntimeNode_twice raw
  have hnodes : (runtimeMapForSnapshot snapshot mode slots revision).nodes.Perm
      ((derivedTopology snapshot (combinedCollection slots).nodes
        ((combinedCollection slots).edges.filter
          (keepsHostRelationship (combinedCollection slots).nodes mode)) revision).1.map
            redactRuntimeNode) := by
    refine (sortByKey_perm _ _).trans ?_
    have hderive : ∀ runtimeMap : RuntimeMap,
        (if mode = .docker then runtimeMap else { runtimeMap with
          edges := runtimeMap.edges.map fun edge => { edge with evidenceRefs := [] } }).nodes =
            runtimeMap.nodes := fun runtimeMap => by split_ifs <;> rfl
    dsimp only
    rw [hderive, deriveRuntimeMap_eq]
    exact (sortByKey_perm _ _).map _
  rw [hown, List.map_append, hretained] at hnodes
  exact hnodes

end DockerMap
