import DockerMap.Proofs.CollectedNodes
import DockerMap.Proofs.EvidenceAgreement
import DockerMap.Proofs.HistoryAdmission

/-! The facts that a daemon publishes on the edges of its map, and the nodes they name: the
listener of a published port, and the one node of a tmux session. -/

namespace DockerMap

open Json (encode)
open Runs
open Sha256 (NoCollision)
open Text (startsWith asciiLower afterFirst_eq_some)

/-! Port texts -/

theorem isNonzeroPort_iff {digits : List Char} :
    isNonzeroPort digits = true ↔ digits ≠ [] ∧ digits.all Char.isDigit = true ∧
      Nat.ofDigitChars 10 digits 0 < 65536 ∧ 0 < Nat.ofDigitChars 10 digits 0 := by
  unfold isNonzeroPort Text.parseDigits
  split_ifs with h
  · simp [h]
  · rw [false_iff]
    exact fun hparts => h ⟨hparts.1, hparts.2.1, hparts.2.2.1⟩

/-- The parts of a port that is published on the host. -/
structure HasPortParts (port : String) (host target protocol : List Char) : Prop where
  text : port.toList = host ++ ':' :: (target ++ '/' :: protocol)
  host : isNonzeroPort host = true
  target : isNonzeroPort target = true
  protocol : protocol ∈ ["tcp".toList, "udp".toList, "sctp".toList]

theorem exists_portParts {port : String} (h : isHostPublishedDockerPort port = true) :
    ∃ host target protocol, HasPortParts port host target protocol := by
  unfold isHostPublishedDockerPort at h
  split at h
  · cases h
  · rename_i host rest hhost
    rw [Bool.and_eq_true, Bool.and_eq_true] at h
    obtain ⟨⟨hnonzero, -⟩, hrest⟩ := h
    split at hrest
    · cases hrest
    · rename_i target protocol htarget
      rw [Bool.and_eq_true, Bool.or_eq_true, Bool.or_eq_true, beq_iff_eq, beq_iff_eq,
        beq_iff_eq] at hrest
      refine ⟨host, target, protocol, ?_, hnonzero, hrest.1, ?_⟩
      · rw [(Text.splitOnce_parts hhost).1, (Text.splitOnce_parts htarget).1]
      · rcases hrest.2 with (rfl | rfl) | rfl
        · exact List.mem_cons_self
        · exact List.mem_cons_of_mem _ List.mem_cons_self
        · exact List.mem_cons_of_mem _ (List.mem_cons_of_mem _ List.mem_cons_self)

section

variable {port : String} {host target protocol : List Char}

theorem isDigit_of_nonzeroPort {digits : List Char} (h : isNonzeroPort digits = true) :
    ∀ c ∈ digits, c.isDigit = true := List.all_eq_true.1 (isNonzeroPort_iff.1 h).2.1

theorem not_mem_of_nonzeroPort {digits : List Char} (h : isNonzeroPort digits = true) {c : Char}
    (hc : c.isDigit = false) : c ∉ digits := fun hmem => by
  rw [isDigit_of_nonzeroPort h c hmem] at hc
  cases hc

/-- The boundary takes the ports that the daemon takes. -/
theorem HasPortParts.accepted (h : HasPortParts port host target protocol) :
    Api.isHostPublishedDockerPort (some (.str port)) = true := by
  have hnonzero {digits : List Char} (h : isNonzeroPort digits = true) :
      Api.isNonZeroPort digits = true := by
    obtain ⟨hne, hdigits, hbound, hpos⟩ := isNonzeroPort_iff.1 h
    have hle : Nat.ofDigitChars 10 digits 0 ≤ 65535 := Nat.le_of_lt_succ hbound
    simp [Api.isNonZeroPort, hne, hdigits, hpos, hle]
  have hprotocol : ':' ∉ protocol ∧ '/' ∉ protocol :=
    (by decide : ∀ protocol ∈ ["tcp".toList, "udp".toList, "sctp".toList],
      ':' ∉ protocol ∧ '/' ∉ protocol) protocol h.protocol
  have hcolon : ':' ∉ target ++ '/' :: protocol := by
    rw [List.mem_append, List.mem_cons]
    rintro (hmem | hmem | hmem)
    · exact not_mem_of_nonzeroPort h.target (by decide) hmem
    · exact absurd hmem (by decide)
    · exact hprotocol.1 hmem
  have hknown : (protocol == "tcp".toList || protocol == "udp".toList ||
      protocol == "sctp".toList) = true :=
    (by decide : ∀ protocol ∈ ["tcp".toList, "udp".toList, "sctp".toList],
      (protocol == "tcp".toList || protocol == "udp".toList || protocol == "sctp".toList) = true)
      protocol h.protocol
  rw [Api.isHostPublishedDockerPort, asText_str, Option.any_some, h.text,
    List.splitOn_append_cons_self, List.splitOn_eq_singleton hcolon,
    List.splitOn_eq_singleton (not_mem_of_nonzeroPort h.host (by decide))]
  dsimp only [List.singleton_append]
  rw [List.splitOn_append_cons_self, List.splitOn_eq_singleton hprotocol.2,
    List.splitOn_eq_singleton (not_mem_of_nonzeroPort h.target (by decide))]
  dsimp only [List.singleton_append]
  rw [hnonzero h.host, hnonzero h.target, hknown, Bool.and_self, Bool.and_self]

/-- The characters of a published port. -/
def isPortCharacter (c : Char) : Bool := c.isDigit || ":/tcpuds".toList.contains c

theorem HasPortParts.characters (h : HasPortParts port host target protocol) :
    ∀ c ∈ port.toList, isPortCharacter c = true := by
  have hdigit {c : Char} (hc : c.isDigit = true) : isPortCharacter c = true := by
    rw [isPortCharacter, hc, Bool.true_or]
  intro c hc
  rw [h.text, List.mem_append, List.mem_cons, List.mem_append, List.mem_cons] at hc
  rcases hc with hc | rfl | hc | rfl | hc
  · exact hdigit (isDigit_of_nonzeroPort h.host c hc)
  · decide
  · exact hdigit (isDigit_of_nonzeroPort h.target c hc)
  · decide
  · exact (by decide : ∀ protocol ∈ ["tcp".toList, "udp".toList, "sctp".toList],
      ∀ c ∈ protocol, isPortCharacter c = true) protocol h.protocol c hc

theorem portCharacter {c : Char} (h : isPortCharacter c = true) :
    unsafeRuntimeDisplayCharacter c = false ∧ isPortCharacter c.toLower = true := by
  have hascii : c.toNat < 128 := by
    rw [isPortCharacter, Bool.or_eq_true, List.contains_iff_mem] at h
    rcases h with hdigit | hmem
    · exact Text.ascii_of_isAlphanum (by rw [Char.isAlphanum, hdigit, Bool.or_true])
    · exact (by decide : ∀ c ∈ ":/tcpuds".toList, c.toNat < 128) c hmem
  exact Text.forall_ascii (P := fun c => isPortCharacter c = true →
    unsafeRuntimeDisplayCharacter c = false ∧ isPortCharacter c.toLower = true)
    (by decide) hascii h

/-- Every word that makes a text one to redact has a character that no port has. -/
theorem foreign_words : (∀ word ∈ sensitiveWords, ∃ c ∈ word, isPortCharacter c = false) ∧
    (∀ flag ∈ sensitiveFlags, ∃ c ∈ flag, isPortCharacter c = false) ∧
    ∃ c ∈ bearerWord, isPortCharacter c = false := by
  decide

theorem HasPortParts.redact (h : HasPortParts port host target protocol) :
    redactRuntimeDisplayText port = port := by
  have hcharacters := h.characters
  have hlower : ∀ c ∈ asciiLower port.toList, isPortCharacter c = true := by
    intro c hc
    obtain ⟨d, hd, rfl⟩ := List.mem_map.1 hc
    exact (portCharacter (hcharacters d hd)).2
  have hforeign {word : List Char} (hword : ∃ c ∈ word, isPortCharacter c = false)
      (hin : word <:+: asciiLower port.toList) : False := by
    obtain ⟨c, hc, hfalse⟩ := hword
    rw [hlower c (hin.subset hc)] at hfalse
    cases hfalse
  obtain ⟨hwords, hflags, hbearer⟩ := foreign_words
  refine IsPublished.redact_eq ⟨fun c hc => (portCharacter (hcharacters c hc)).1, ?_⟩
  rw [Bool.eq_false_iff]
  intro hsensitive
  rcases (isSensitiveText_iff _).1 hsensitive with ⟨word, hword, hin⟩ | huserinfo |
    ⟨flag, hflag, a, b, hoccurs, -, -⟩ | ⟨a, b, hleads, -⟩
  · exact hforeign (hwords word hword) hin
  · unfold containsUrlUserinfo at huserinfo
    split at huserinfo
    · cases huserinfo
    · rename_i authority hauthority
      obtain ⟨before, hport, -⟩ := (afterFirst_eq_some (by decide)).1 hauthority
      have hat : '@' ∈ port.toList := by
        rw [hport, List.mem_append]
        exact Or.inr ((List.takeWhile_sublist _).mem (List.contains_iff_mem.1 huserinfo))
      exact absurd (hcharacters _ hat) (by decide)
  · exact hforeign (hflags flag hflag) ⟨a, b, hoccurs.symm⟩
  · exact hforeign hbearer ⟨a, b, hleads.symm⟩

end

/-! The nodes that evidence names -/

/-- What the boundary asks of the nodes that a fact of this kind names. -/
structure NamesNodes (nodes : List RuntimeMapNode) (edge : RuntimeMapEdge)
    (kind : RuntimeEvidenceKind) : Prop where
  listener : kind = .dockerPortPublication → (∃ node ∈ nodes, node.id = edge.target) ∧
    ∃ container port, isHostPublishedDockerPort port = true ∧
      ∀ node ∈ nodes, node.id = edge.target → node = redactRuntimeNode (listenerNode container port)
  session : kind = .tmuxSessionListing → ∃ key id,
    nodes.filter (fun node => node.id == edge.source) = [redactRuntimeNode (tmuxSessionNode key id)]

section

variable {snapshot : DockerSnapshot} {slots : RuntimeProviderSlots} {nodes : List RuntimeMapNode}

/-- The published nodes, up to their order. -/
structure HasNodes (snapshot : DockerSnapshot) (slots : RuntimeProviderSlots)
    (nodes : List RuntimeMapNode) (own : List RuntimeMapNode) : Prop where
  perm : nodes.Perm ((combinedCollection slots).nodes ++ own.map redactRuntimeNode)
  derived : ∀ node ∈ own, IsDerived snapshot node
  collected : ∀ node ∈ (combinedCollection slots).nodes,
    ∃ raw, IsCollected raw ∧ node = redactRuntimeNode raw

theorem startsWith_listenerId (container : ContainerRecord) (port : String) :
    startsWith (listenerId container port).toList "network_listener_".toList = true := by
  unfold listenerId
  rw [String.append_assoc, String.append_assoc]
  exact startsWith_append _ _

theorem startsWith_session (key : List UInt8) (id : List Char) :
    startsWith (tmuxSessionNode key id).id.toList "tmux_session_".toList = true :=
  startsWith_append _ _

/-- A listener that Docker publishes has its id from no collector. -/
theorem listener_not_collected {container : ContainerRecord} {port : String}
    {raw : RuntimeMapNode} (hraw : IsCollected raw) :
    redactRuntimeDisplayText raw.id ≠ listenerId container port := by
  intro heq
  have hstarts : startsWith (redactRuntimeDisplayText raw.id).toList
      "network_listener_".toList = true := heq ▸ startsWith_listenerId container port
  have hid := (startsWith_of_redact isPlain_families.1 (by decide) hstarts).2
  cases hraw with
  | socket socket hport =>
    have hslug : redactRuntimeDisplayText (listeningSocketId socket) = listeningSocketId socket :=
      redact_of_slug (isSlug_listeningSocketId socket) isPlain_families.1 (by decide) hstarts
    exact listeningSocketId_ne hport container port (hslug.symm.trans heq)
  | session key id =>
    have htake := take_of_startsWith hid (by decide)
    rw [take_of_startsWith (startsWith_session key id) (by decide)] at htake
    exact absurd htake (by decide)
  | other hother =>
    rw [hother.id] at hid
    cases hid

theorem HasNodes.listener {own : List RuntimeMapNode} (h : HasNodes snapshot slots nodes own)
    (hsha : NoCollision (identityTexts snapshot)) {container : ContainerRecord}
    (hcontainer : container ∈ snapshot.containers) {port : String} (hport : port ∈ container.ports)
    {node : RuntimeMapNode} (hnode : node ∈ nodes) (hid : node.id = listenerId container port) :
    node = redactRuntimeNode (listenerNode container port) := by
  rw [h.perm.mem_iff, List.mem_append] at hnode
  rcases hnode with hmem | hmem
  · obtain ⟨raw, hraw, rfl⟩ := h.collected node hmem
    exact absurd hid (listener_not_collected hraw)
  · obtain ⟨raw, hraw, rfl⟩ := List.mem_map.1 hmem
    have hredacted : redactRuntimeDisplayText raw.id = listenerId container port := hid
    have hstarts : startsWith (redactRuntimeDisplayText raw.id).toList
        "network_listener_".toList = true := hredacted ▸ startsWith_listenerId container port
    obtain ⟨container', hcontainer', port', hport', rfl⟩ := (h.derived raw hraw).listener
      (startsWith_of_redact isPlain_families.1 (by decide) hstarts).2
    have hslug : redactRuntimeDisplayText (listenerId container' port') = listenerId container' port' :=
      redact_of_slug (isSlug_listenerId container' port') isPlain_families.1 (by decide) hstarts
    have hsame := hslug.symm.trans hredacted
    obtain ⟨-, rfl⟩ := listenerId_inj hsha hcontainer' hcontainer hport' hport hsame
    unfold listenerNode
    rw [hsame]

/-- A session that the daemon keeps the relationship of is the only node of its id. -/
theorem HasNodes.session {own : List RuntimeMapNode} (h : HasNodes snapshot slots nodes own)
    {id : String} (hid : startsWith id.toList "tmux_session_".toList = true)
    (hunique : isUniqueTmuxSession (combinedCollection slots).nodes id = true) :
    ∃ key text, nodes.filter (fun node => node.id == id) =
      [redactRuntimeNode (tmuxSessionNode key text)] := by
  unfold isUniqueTmuxSession at hunique
  split at hunique
  · rename_i node hnode
    rw [Bool.and_eq_true, beq_iff_eq, beq_iff_eq] at hunique
    have hmem : node ∈ (combinedCollection slots).nodes :=
      (List.mem_filter.1 (hnode ▸ List.mem_singleton_self node)).1
    have hown : (own.map redactRuntimeNode).filter (fun node => node.id == id) = [] := by
      rw [List.filter_eq_nil_iff]
      intro published hpublished heq
      obtain ⟨raw, hraw, rfl⟩ := List.mem_map.1 hpublished
      have hredacted : redactRuntimeDisplayText raw.id = id := beq_iff_eq.1 heq
      have hstarts := (startsWith_of_redact isPlain_families.2 (by decide) (hredacted ▸ hid)).2
      rw [(h.derived raw hraw).not_session] at hstarts
      cases hstarts
    have hfilter := h.perm.filter fun node => node.id == id
    rw [List.filter_append, hnode, hown, List.append_nil, List.perm_singleton] at hfilter
    obtain ⟨raw, hraw, rfl⟩ := h.collected node hmem
    cases hraw with
    | socket socket hport => cases hunique.2
    | session key text => exact ⟨key, text, hfilter⟩
    | other hother => exact absurd hunique.2 hother.kind
  · cases hunique

end

/-! Evidence as it is made -/

theorem redactEvidenceText_of_published {value : String} (h : redactRuntimeDisplayText value = value)
    (hlength : value.toList.length ≤ maxRuntimeEvidenceTextChars) :
    redactEvidenceText value = value := by
  rw [redactEvidenceText, h, truncateChars, Text.truncateChars, if_neg (Nat.not_lt.2 hlength),
    String.ofList_toList]

theorem summary_published {kind : RuntimeEvidenceKind} {row : Api.EvidenceEdge}
    (h : kind.boundaryEdge = some row) : redactEvidenceText row.summary = row.summary := by
  have hplain : ∀ kind ∈ evidenceKinds, ∀ row ∈ kind.boundaryEdge,
      isPlain row.summary = true ∧ row.summary.toList.length ≤ maxRuntimeEvidenceTextChars := by
    decide +kernel
  obtain ⟨hsummary, hlength⟩ := hplain kind (mem_evidenceKinds kind) row h
  exact redactEvidenceText_of_published (redact_plain hsummary) hlength

/-- A token keeps its dash, however long its counter is. -/
theorem dash_mem_token (boot : BootToken) (n : ℕ) :
    '-' ∈ (redactEvidenceText (ChangeToken.text boot.text n)).toList := by
  have hdash : '-' ∈ (ChangeToken.text boot.text n).toList.take maxRuntimeEvidenceTextChars := by
    rw [toList_token, List.take_append, boot.length, List.mem_append]
    exact Or.inr List.mem_cons_self
  rw [redactEvidenceText, redact_plain (isPlain_token boot n), truncateChars, String.toList_ofList,
    Text.truncateChars]
  split_ifs
  · exact List.mem_append_left _ hdash
  · exact List.mem_of_mem_take hdash

section

variable {snapshot : DockerSnapshot} {revision : String} {slots : RuntimeProviderSlots}
  {edge : RuntimeMapEdge} {evidence : RuntimeEvidenceRef}

/-- The version of a fact is its kind's, and its summary the row's. -/
structure HasRow (evidence : RuntimeEvidenceRef) (versions : List ℕ) : Prop where
  known : evidence.version ∈ versions
  version : evidence.kind.shape.version = evidence.version
  row : ∃ row, evidence.kind.boundaryEdge = some row ∧ evidence.summary = row.summary

theorem BoundBy.hasRow {binding : EvidenceBinding} (h : BoundBy slots edge evidence binding) :
    HasRow evidence [2, 3, 4, 5] := by
  obtain ⟨value, idPrefix, hfact⟩ := h.fact
  have hversion := h.version
  have hknown := h.known
  suffices hrow : evidence.version ∈ [2, 3, 4, 5] ∧
      evidence.kind.shape.version = evidence.version ∧
        ∃ row, evidence.kind.boundaryEdge = some row ∧ evidence.summary = row.summary from
    ⟨hrow.1, hrow.2.1, hrow.2.2⟩
  generalize evidence.kind = kind at hfact ⊢
  generalize evidence.summary = summary at hfact ⊢
  generalize evidence.version = version at hversion ⊢
  subst hversion
  simp only [List.mem_cons, List.not_mem_nil, or_false] at hknown
  rcases hknown with rfl | rfl | rfl | rfl
  · simp only [systemdBinding] at hfact
    split_ifs at hfact
    all_goals
      cases hfact
      exact ⟨by decide, rfl, _, rfl, rfl⟩
  all_goals
    simp only [npmBinding, cronBinding, tmuxBinding, declaredFact] at hfact
    split_ifs at hfact
    cases hfact
    exact ⟨by decide, rfl, _, rfl, rfl⟩

theorem hasRow_docker {kind : RuntimeEvidenceKind} (hversion : kind.shape.version = 1)
    (source target : String) :
    HasRow (dockerRuntimeEvidence snapshot source target kind revision) [1] where
  known := List.mem_cons_self
  version := hversion
  row := by cases kind <;> first | exact ⟨_, rfl, rfl⟩ | cases hversion

theorem MadeEvidence.hasRow (h : MadeEvidence snapshot revision slots edge evidence) :
    HasRow evidence [1, 2, 3, 4, 5] := by
  cases h with
  | docker kind hversion hport hdepends =>
    have hrow := @hasRow_docker snapshot revision kind hversion edge.source edge.target
    exact ⟨List.mem_cons_self, hrow.version, hrow.row⟩
  | bound hbound hkept =>
    exact ⟨List.mem_cons_of_mem _ hbound.hasRow.known, hbound.hasRow.version, hbound.hasRow.row⟩

/-- The revisions that evidence quotes are change tokens. -/
structure QuotesTokens (revision : String) (slots : RuntimeProviderSlots) : Prop where
  docker : ∃ (boot : BootToken) (n : ℕ), revision = ChangeToken.text boot.text n
  slots : ∃ boot : BootToken, ∀ slot, ∀ revision ∈ (slots slot).freshness.dataRevision,
    revision.boot = boot.text

theorem MadeEvidence.token (h : MadeEvidence snapshot revision slots edge evidence)
    (htokens : QuotesTokens revision slots) :
    ∃ (boot : BootToken) (n : ℕ), evidence.providerRevision = ChangeToken.text boot.text n := by
  cases h with
  | docker kind hversion hport hdepends => exact htokens.docker
  | bound hbound hkept =>
    obtain ⟨boot, hboot⟩ := htokens.slots
    obtain ⟨revision, hrevision, hpublic⟩ := hbound.revision
    refine ⟨boot, revision.sequence, ?_⟩
    rw [hpublic, SlotDataRevision.toPublic, hboot _ revision hrevision]

/-- What the boundary asks of a fact on an edge of a map. -/
structure AdmissibleEvidence (nodes : List RuntimeMapNode) (edge : RuntimeMapEdge)
    (evidence : RuntimeEvidenceRef) : Prop where
  valid : edge.evidenceRefMatchesEdge evidence = true
  version : evidence.version ∈ [1, 2, 3, 4, 5]
  row : ∃ row, evidence.kind.boundaryEdge = some row ∧ evidence.summary = row.summary
  revision : '-' ∈ evidence.providerRevision.toList
  names : NamesNodes nodes edge evidence.kind

/-- A text that redaction turns into a plain one was that text. -/
theorem eq_of_redact {value word : String} (hword : isPlain word = true) (hne : word ≠ "")
    (h : redactRuntimeDisplayText value = word) : value = word := by
  have hself : startsWith (redactRuntimeDisplayText value).toList word.toList = true := by
    rw [h]
    exact decide_eq_true (List.prefix_refl _)
  obtain ⟨hinsensitive, hstarts⟩ := startsWith_of_redact hword hne hself
  have hlength : word.toList.length = value.toList.length := by
    rw [← h, redactRuntimeDisplayText, redactSensitiveText, hinsensitive, if_neg Bool.false_ne_true,
      normalizeRuntimeDisplayString, String.toList_ofList, List.length_map]
  exact (String.toList_injective ((of_decide_eq_true hstarts).eq_of_length hlength)).symm

theorem MadeEvidence.port (h : MadeEvidence snapshot revision slots edge evidence)
    (hkind : evidence.kind = .dockerPortPublication) :
    ∃ port, IsPublishedPort snapshot edge.target port := by
  cases h with
  | docker kind hversion hport hdepends => exact hport hkind
  | bound hbound hkept =>
    have hversion := hbound.hasRow.version
    have hknown := hbound.hasRow.known
    rw [hkind] at hversion
    rw [← hversion] at hknown
    exact absurd hknown (by decide)

/-- A listing is kept where the slots hold one node of the session, a session's. -/
theorem MadeEvidence.listed (h : MadeEvidence snapshot revision slots edge evidence)
    (hkind : evidence.kind = .tmuxSessionListing) (hrelationship : edge.relationship = .runsOn)
    (htarget : edge.target = "host_local")
    (hsource : startsWith (redactRuntimeDisplayText edge.source).toList
      "tmux_session_".toList = true) :
    redactRuntimeDisplayText edge.source = edge.source ∧
      isUniqueTmuxSession (combinedCollection slots).nodes edge.source = true := by
  cases h with
  | docker kind hversion hport hdepends =>
    have hlisting : kind = .tmuxSessionListing := hkind
    rw [hlisting] at hversion
    cases hversion
  | bound hbound hkept =>
    have hsame := hbound.source
    rw [hsame] at hsource
    have hscheduled : startsWith edge.source.toList "scheduled_job_".toList = false := by
      rw [Bool.eq_false_iff]
      intro hjob
      have htake := take_of_startsWith hsource (by decide)
      rw [take_of_startsWith hjob (by decide)] at htake
      exact absurd htake (by decide)
    unfold keepsHostRelationship at hkept
    rw [htarget, hrelationship, if_neg (by decide), hscheduled, if_neg Bool.false_ne_true, hsource,
      if_pos rfl, Bool.and_eq_true] at hkept
    exact ⟨hsame, hkept.2⟩

theorem redactRuntimeEvidenceRef_parts (evidence : RuntimeEvidenceRef) :
    (redactRuntimeEvidenceRef evidence).kind = evidence.kind ∧
      (redactRuntimeEvidenceRef evidence).version = evidence.version ∧
      (redactRuntimeEvidenceRef evidence).summary = redactEvidenceText evidence.summary ∧
      (redactRuntimeEvidenceRef evidence).providerRevision =
        redactEvidenceText evidence.providerRevision := by
  simp only [redactRuntimeEvidenceRef, and_self]

theorem redactRuntimeEdge_parts (edge : RuntimeMapEdge) :
    (redactRuntimeEdge edge).source = redactRuntimeDisplayText edge.source ∧
      (redactRuntimeEdge edge).target = redactRuntimeDisplayText edge.target ∧
      (redactRuntimeEdge edge).relationship = edge.relationship := by
  rw [redactRuntimeEdge_rest]
  exact ⟨rfl, rfl, rfl⟩

/-- Redaction leaves no fact on an edge that it does not fit. -/
theorem PublishedEvidence.valid (h : PublishedEvidence snapshot revision slots edge evidence) :
    edge.evidenceRefMatchesEdge evidence = true := by
  obtain ⟨rawEdge, raw, -, hedge, -⟩ := h.made
  have hrefs : (redactRuntimeEdge rawEdge).hasValidEvidenceRefs = true := by
    unfold redactRuntimeEdge
    exact hasValidEvidenceRefs_dropInvalidEvidence _
  rw [← hedge, RuntimeMapEdge.hasValidEvidenceRefs, List.all_eq_true] at hrefs
  exact hrefs evidence h.mem

theorem PublishedEvidence.listener (h : PublishedEvidence snapshot revision slots edge evidence)
    {nodes own : List RuntimeMapNode} (hnodes : HasNodes snapshot slots nodes own)
    (hsha : NoCollision (identityTexts snapshot)) (hport : evidence.kind = .dockerPortPublication) :
    ∃ container port, isHostPublishedDockerPort port = true ∧
      ∀ node ∈ nodes, node.id = edge.target →
        node = redactRuntimeNode (listenerNode container port) := by
  have hattested := (evidenceRefMatchesEdge_iff.1 h.valid).2.2.2
  obtain ⟨rawEdge, raw, hmade, hedge, hevidence⟩ := h.made
  have hkind := (redactRuntimeEvidenceRef_parts raw).1
  have htarget := (redactRuntimeEdge_parts rawEdge).2.1
  rw [← hevidence] at hkind
  rw [← hedge] at htarget
  rw [hport, RuntimeMapEdge.attestedBy, RuntimeMapEdge.links_iff] at hattested
  obtain ⟨port, container, hcontainer, hmem, hpublished, hlistener⟩ :=
    hmade.port (hkind.symm.trans hport)
  have hid : edge.target = listenerId container port := by
    have hstarts := hattested.2.2
    rw [htarget, hlistener] at hstarts ⊢
    exact redact_of_slug (isSlug_listenerId container port) isPlain_families.1 (by decide) hstarts
  exact ⟨container, port, hpublished,
    fun node hnode hnodeid => hnodes.listener hsha hcontainer hmem hnode (hnodeid.trans hid)⟩

theorem PublishedEvidence.session (h : PublishedEvidence snapshot revision slots edge evidence)
    {nodes own : List RuntimeMapNode} (hnodes : HasNodes snapshot slots nodes own)
    (hlisting : evidence.kind = .tmuxSessionListing) :
    ∃ key id, nodes.filter (fun node => node.id == edge.source) =
      [redactRuntimeNode (tmuxSessionNode key id)] := by
  have hattested := (evidenceRefMatchesEdge_iff.1 h.valid).2.2.2
  obtain ⟨rawEdge, raw, hmade, hedge, hevidence⟩ := h.made
  have hkind := (redactRuntimeEvidenceRef_parts raw).1
  obtain ⟨hsource, htarget, hrelationship⟩ := redactRuntimeEdge_parts rawEdge
  rw [← hevidence] at hkind
  rw [← hedge] at hsource htarget hrelationship
  rw [hlisting, RuntimeMapEdge.attestedBy, Bool.and_eq_true, Bool.and_eq_true, beq_iff_eq,
    RuntimeMapEdge.links_iff] at hattested
  obtain ⟨⟨⟨hruns, hstarts, -⟩, hhost⟩, -⟩ := hattested
  have hrawTarget : rawEdge.target = "host_local" :=
    eq_of_redact (isPlain_ofList (by decide)) (by decide) (htarget.symm.trans hhost)
  rw [hsource] at hstarts
  obtain ⟨hsame, hunique⟩ := hmade.listed (hkind.symm.trans hlisting)
    (hrelationship.symm.trans hruns) hrawTarget hstarts
  rw [hsame] at hstarts hsource
  rw [hsource]
  exact hnodes.session hstarts hunique

/-- What is published on an edge of the map, the boundary can admit. -/
theorem PublishedEvidence.admissible (h : PublishedEvidence snapshot revision slots edge evidence)
    (htokens : QuotesTokens revision slots) {nodes own : List RuntimeMapNode}
    (hnodes : HasNodes snapshot slots nodes own) (hendpoints : hasEndpoints nodes edge = true)
    (hsha : NoCollision (identityTexts snapshot)) : AdmissibleEvidence nodes edge evidence := by
  obtain ⟨rawEdge, raw, hmade, -, hevidence⟩ := h.made
  obtain ⟨hkind, hversion, hsummary, hrevision⟩ := redactRuntimeEvidenceRef_parts raw
  rw [← hevidence] at hkind hversion hsummary hrevision
  refine ⟨h.valid, ?_, ?_, ?_, ⟨?_, h.session hnodes⟩⟩
  · rw [hversion]
    exact hmade.hasRow.known
  · obtain ⟨row, hrow, hsame⟩ := hmade.hasRow.row
    refine ⟨row, ?_, ?_⟩
    · rw [hkind]
      exact hrow
    · rw [hsummary, hsame, summary_published hrow]
  · obtain ⟨boot, n, htoken⟩ := hmade.token htokens
    rw [hrevision, htoken]
    exact dash_mem_token boot n
  · exact fun hport => ⟨(hasEndpoints_iff.1 hendpoints).2, h.listener hnodes hsha hport⟩

end

/-! The fact of a collision -/

def integrityNodes : List RuntimeMapNode := [integrityScopeNode, identityCollisionRiskNode]

/-- The nodes of the fact take no id of another family. -/
theorem id_ne_of_integrity {text word : String}
    (hword : ∀ node ∈ integrityNodes, startsWith node.id.toList word.toList = false)
    (h : startsWith text.toList word.toList = true) : ∀ node ∈ integrityNodes, node.id ≠ text := by
  rintro node hnode rfl
  rw [hword node hnode] at h
  cases h

theorem NamesNodes.append {nodes nodes' : List RuntimeMapNode} {edge : RuntimeMapEdge}
    {kind : RuntimeEvidenceKind} (h : NamesNodes nodes edge kind)
    (hattested : edge.attestedBy kind = true) (hperm : nodes'.Perm (nodes ++ integrityNodes)) :
    NamesNodes nodes' edge kind where
  listener hkind := by
    obtain ⟨⟨node, hnode, hid⟩, container, port, hpublished, hall⟩ := h.listener hkind
    rw [hkind, RuntimeMapEdge.attestedBy, RuntimeMapEdge.links_iff] at hattested
    have hne := id_ne_of_integrity (by decide) hattested.2.2
    refine ⟨⟨node, hperm.mem_iff.2 (List.mem_append_left _ hnode), hid⟩, container, port, hpublished,
      fun node hnode hid => ?_⟩
    rcases List.mem_append.1 (hperm.mem_iff.1 hnode) with hmem | hmem
    · exact hall node hmem hid
    · exact absurd hid (hne node hmem)
  session hkind := by
    obtain ⟨key, id, hnode⟩ := h.session hkind
    rw [hkind, RuntimeMapEdge.attestedBy, Bool.and_eq_true, Bool.and_eq_true,
      RuntimeMapEdge.links_iff] at hattested
    have hne := id_ne_of_integrity (by decide) hattested.1.1.2.1
    have hadded : integrityNodes.filter (fun node => node.id == edge.source) = [] := by
      rw [List.filter_eq_nil_iff]
      intro node hmem heq
      exact hne node hmem (beq_iff_eq.1 heq)
    have hfilter := hperm.filter fun node => node.id == edge.source
    rw [List.filter_append, hnode, hadded, List.append_nil, List.perm_singleton] at hfilter
    exact ⟨key, id, hfilter⟩

theorem AdmissibleEvidence.append {nodes nodes' : List RuntimeMapNode} {edge : RuntimeMapEdge}
    {evidence : RuntimeEvidenceRef} (h : AdmissibleEvidence nodes edge evidence)
    (hperm : nodes'.Perm (nodes ++ integrityNodes)) : AdmissibleEvidence nodes' edge evidence :=
  ⟨h.valid, h.version, h.row, h.revision,
    h.names.append (evidenceRefMatchesEdge_iff.1 h.valid).2.2.2 hperm⟩

end DockerMap
