import DockerMap.Daemon.Listeners
import DockerMap.Daemon.Npm
import DockerMap.Proofs.IdentityCollisions

/-! Which project and listener inventories have one node an identity. The digests keep apart
what the identities name: a project's directory, a package's name and version, a socket's
address and port. -/

namespace DockerMap

open Sha256 (NoCollision)

/-! Identity texts -/

/-- What stands before the digest of a safe component. -/
def safeReadable (value fallback : String) : String :=
  if redactSensitiveText value = redactedValue then fallback
  else String.ofList (readableSlug value)

theorem safeRuntimeIdComponent_eq (value fallback : String) :
    safeRuntimeIdComponent value fallback =
      safeReadable value fallback ++ "--" ++ Sha256.hex value := by
  rw [safeRuntimeIdComponent, safeReadable]
  split_ifs with h
  · rfl
  · rfl

/-- An id that ends with a safe component ends with the digest of its value. -/
theorem append_safe_inj {texts : List String} (hsha : NoCollision texts)
    {base base' value value' fallback fallback' : String} (hvalue : value ∈ texts)
    (hvalue' : value' ∈ texts) (h : base ++ safeRuntimeIdComponent value fallback =
      base' ++ safeRuntimeIdComponent value' fallback') : value = value' := by
  rw [safeRuntimeIdComponent_eq, safeRuntimeIdComponent_eq] at h
  have hlist := congrArg String.toList h
  simp only [String.toList_append, ← List.append_assoc] at hlist
  exact hsha _ hvalue _ hvalue' (String.toList_injective (List.append_inj_right' hlist
    (by rw [Sha256.length_hex, Sha256.length_hex])))

/-- The last separator of a text and what surrounds it. -/
theorem last_separator_inj {α : Type*} {p : α → Bool} {a b x y : List α} {c d : α}
    (hc : p c = true) (hd : p d = true) (hx : ∀ e ∈ x, p e = false)
    (hy : ∀ e ∈ y, p e = false) (h : a ++ c :: x = b ++ d :: y) : a = b ∧ c = d ∧ x = y := by
  have hfront {a x : List α} {c : α} (hc : p c = true) (hx : ∀ e ∈ x, p e = false) :
      (a ++ c :: x).reverse.dropWhile (fun e => !p e) = c :: a.reverse := by
    rw [List.reverse_append, List.reverse_cons, List.append_assoc,
      List.dropWhile_append_of_pos fun e he => by simp [hx e (List.mem_reverse.1 he)]]
    exact List.dropWhile_cons_of_neg (by simp [hc])
  have hcut := hfront (a := a) hc hx
  rw [h, hfront hd hy] at hcut
  obtain ⟨rfl, hreverse⟩ := List.cons.inj hcut
  obtain rfl := List.reverse_injective hreverse
  exact ⟨rfl, rfl, (List.cons.inj (List.append_cancel_left h)).2⟩

def isDashOrUnderscore (c : Char) : Bool := c == '-' || c == '_'

theorem dashless_hex {value : String} : ∀ c ∈ (Sha256.hex value).toList,
    isDashOrUnderscore c = false := by
  intro c hc
  obtain ⟨d, hd, rfl⟩ := Sha256.mem_hex hc
  exact (by decide : ∀ d < 16, isDashOrUnderscore (Nat.digitChar d) = false) d hd

theorem toList_toString (n : ℕ) : (toString n).toList = Nat.toDigits 10 n := String.toList_ofList

theorem dashless_number (n : ℕ) : ∀ c ∈ (toString n).toList, isDashOrUnderscore c = false := by
  intro c hc
  rw [toList_toString] at hc
  have hdigit : c.isDigit = true :=
    Nat.isDigit_of_mem_toDigits (b := 10) (n := n) (by decide) (by decide) hc
  by_contra hsep
  rw [Bool.not_eq_false, isDashOrUnderscore, Bool.or_eq_true, beq_iff_eq, beq_iff_eq] at hsep
  rcases hsep with rfl | rfl <;> exact absurd hdigit (by decide)

theorem append_number_inj {base base' : String} {n n' : ℕ}
    (h : base ++ "_" ++ toString n = base' ++ "_" ++ toString n') : base = base' ∧ n = n' := by
  have hlist := congrArg String.toList h
  simp only [String.toList_append, List.append_assoc] at hlist
  obtain ⟨hbase, -, hnumber⟩ := last_separator_inj (p := isDashOrUnderscore) (by decide)
    (by decide) (dashless_number n) (dashless_number n') hlist
  rw [toList_toString, toList_toString] at hnumber
  exact ⟨String.toList_injective hbase, Text.toDigits_injective hnumber⟩

/-- A number after an underscore is no digest after a dash. -/
theorem append_number_ne_safe {base base' value fallback : String} {n : ℕ} :
    base ++ "_" ++ toString n ≠ base' ++ safeRuntimeIdComponent value fallback := by
  intro h
  rw [safeRuntimeIdComponent_eq] at h
  have hlist := congrArg String.toList h
  simp only [String.toList_append, List.append_assoc] at hlist
  have hdash : base'.toList ++ ((safeReadable value fallback).toList ++ ("--".toList ++
      (Sha256.hex value).toList)) = (base'.toList ++ ((safeReadable value fallback).toList ++
        ['-'])) ++ '-' :: (Sha256.hex value).toList := by
    simp only [List.append_assoc]
    rfl
  rw [hdash] at hlist
  obtain ⟨-, hne, -⟩ := last_separator_inj (p := isDashOrUnderscore) (by decide) (by decide)
    (dashless_number n) dashless_hex hlist
  exact absurd hne (by decide)

/-! What the inventories name -/

/-- Every dependency entry of every project, with its place in the project's list. -/
def packageEntries (projects : List NpmProjectSummary) : List (PackageDependencyRecord × ℕ) :=
  projects.flatMap fun project => project.dependencies.zipIdx

/-- A package and its version; of a redacted version only the place of the entry is known. -/
def packageKey (entry : PackageDependencyRecord × ℕ) : String × String × ℕ :=
  (redactSensitiveText entry.1.name, redactSensitiveText entry.1.version,
    if redactSensitiveText entry.1.version = redactedValue then entry.2 else 0)

def socketKey (socket : ListeningSocket) : String × ℕ := (socket.address, socket.port)

/-- The listening sockets of the two tables; none when reading them panics. -/
def listeningSockets (readTable : String → Option (List Char)) : List ListeningSocket :=
  ((procTcpTables.mapM fun path => (readTable path).elim (some []) readSockets).map
    List.flatten).getD []

/-- The texts a node id is a digest of. -/
def inventoryTexts (projects : List NpmProjectSummary) (sockets : List ListeningSocket) :
    List String :=
  projects.map NpmProjectSummary.directory ++
    (packageEntries projects).flatMap (fun entry =>
      [redactSensitiveText entry.1.name, redactSensitiveText entry.1.version]) ++
    sockets.map ListeningSocket.address

section

variable {texts : List String}

def packageBase (dependency : PackageDependencyRecord) : String :=
  "npm_package_" ++ safeRuntimeIdComponent (redactSensitiveText dependency.name) "package"

theorem npmPackageId_redacted {index : ℕ} {dependency : PackageDependencyRecord}
    (h : redactSensitiveText dependency.version = redactedValue) :
    npmPackageId index dependency = packageBase dependency ++ "_redacted" ++ "_" ++
      toString index := by
  have hmark : "_" ++ ("redacted_" ++ toString index) =
      "_redacted" ++ ("_" ++ toString index) := by
    rw [← String.append_assoc, ← String.append_assoc]
    rfl
  rw [npmPackageId, if_pos h, packageBase]
  simp only [String.append_assoc, hmark]

theorem npmPackageId_plain {index : ℕ} {dependency : PackageDependencyRecord}
    (h : redactSensitiveText dependency.version ≠ redactedValue) :
    npmPackageId index dependency = packageBase dependency ++ "_" ++
      safeRuntimeIdComponent (redactSensitiveText dependency.version) "version" := by
  rw [npmPackageId, if_neg h, packageBase]

theorem packageName_inj (hsha : NoCollision texts) {dependency dependency' :
    PackageDependencyRecord} {tail : String}
    (hname : redactSensitiveText dependency.name ∈ texts)
    (hname' : redactSensitiveText dependency'.name ∈ texts)
    (h : packageBase dependency ++ tail = packageBase dependency' ++ tail) :
    redactSensitiveText dependency.name = redactSensitiveText dependency'.name :=
  append_safe_inj hsha hname hname' ((String.append_left_inj tail).1 h)

theorem npmPackageId_iff (hsha : NoCollision texts) {entry entry' : PackageDependencyRecord × ℕ}
    (hname : redactSensitiveText entry.1.name ∈ texts)
    (hname' : redactSensitiveText entry'.1.name ∈ texts)
    (hversion : redactSensitiveText entry.1.version ∈ texts)
    (hversion' : redactSensitiveText entry'.1.version ∈ texts) :
    npmPackageId entry.2 entry.1 = npmPackageId entry'.2 entry'.1 ↔
      packageKey entry = packageKey entry' := by
  unfold packageKey
  by_cases hred : redactSensitiveText entry.1.version = redactedValue
  · by_cases hred' : redactSensitiveText entry'.1.version = redactedValue
    · rw [npmPackageId_redacted hred, npmPackageId_redacted hred', if_pos hred, if_pos hred',
        hred, hred']
      constructor
      · intro h
        obtain ⟨hbase, hindex⟩ := append_number_inj h
        rw [packageName_inj hsha hname hname' hbase, hindex]
      · intro h
        obtain ⟨hnames, hrest⟩ := Prod.mk.inj h
        rw [packageBase, packageBase, hnames, (Prod.mk.inj hrest).2]
    · rw [npmPackageId_redacted hred, npmPackageId_plain hred']
      refine iff_of_false append_number_ne_safe fun h => hred' ?_
      rw [← (Prod.mk.inj (Prod.mk.inj h).2).1, hred]
  · by_cases hred' : redactSensitiveText entry'.1.version = redactedValue
    · rw [npmPackageId_plain hred, npmPackageId_redacted hred']
      refine iff_of_false append_number_ne_safe.symm fun h => hred ?_
      rw [(Prod.mk.inj (Prod.mk.inj h).2).1, hred']
    · rw [npmPackageId_plain hred, npmPackageId_plain hred', if_neg hred, if_neg hred']
      constructor
      · intro h
        have hversions := append_safe_inj hsha hversion hversion' h
        rw [hversions, String.append_left_inj] at h
        rw [packageName_inj hsha hname hname' h, hversions]
      · intro h
        obtain ⟨hnames, hrest⟩ := Prod.mk.inj h
        rw [packageBase, packageBase, hnames, (Prod.mk.inj hrest).1]

theorem listeningSocketId_iff (hsha : NoCollision texts) {socket socket' : ListeningSocket}
    (h : socket.address ∈ texts) (h' : socket'.address ∈ texts) :
    listeningSocketId socket = listeningSocketId socket' ↔ socketKey socket = socketKey socket' := by
  unfold listeningSocketId socketKey
  constructor
  · intro hid
    obtain ⟨hbase, hport⟩ := append_number_inj hid
    rw [(append_component_inj hsha h h' hbase).2, hport]
  · intro hkey
    rw [(Prod.mk.inj hkey).1, (Prod.mk.inj hkey).2]

end

/-! What the passes push -/

def projectNodes (entry : NpmProjectSummary × ℕ) : List RuntimeMapNode :=
  npmProjectNode entry.2 entry.1 ::
    entry.1.dependencies.zipIdx.map fun dependency => npmPackageNode dependency.2 dependency.1

def dependsOnEdges (entry : NpmProjectSummary × ℕ) : List RuntimeMapEdge :=
  entry.1.dependencies.zipIdx.map fun dependency =>
    npmDependsOnEdge entry.2 entry.1 dependency.2 dependency.1

theorem foldl_dependency (projectIndex : ℕ) (project : NpmProjectSummary) (pass : NpmPass)
    (entries : List (PackageDependencyRecord × ℕ)) :
    entries.foldl (NpmPass.dependency projectIndex project) pass =
      { nodes := pass.nodes ++ entries.map fun entry => npmPackageNode entry.2 entry.1
        edges := pass.edges ++ entries.map fun entry =>
          npmDependsOnEdge projectIndex project entry.2 entry.1 } := by
  induction entries generalizing pass with
  | nil => simp
  | cons entry entries ih =>
    rw [List.foldl_cons, ih]
    simp [NpmPass.dependency]

theorem foldl_project (restricted : Bool) (pass : NpmPass)
    (entries : List (NpmProjectSummary × ℕ)) :
    entries.foldl (NpmPass.project restricted) pass =
      { nodes := pass.nodes ++ entries.flatMap projectNodes
        edges := pass.edges ++ entries.flatMap fun entry =>
          (if restricted then [] else [npmRunsOnEdge entry.2 entry.1]) ++ dependsOnEdges entry } := by
  induction entries generalizing pass with
  | nil => simp
  | cons entry entries ih =>
    rw [List.foldl_cons, ih, NpmPass.project, foldl_dependency]
    cases restricted
    · simp [projectNodes, dependsOnEdges]
    · simp [projectNodes, dependsOnEdges]

def pushedListeners (readTable : String → Option (List Char)) : List RuntimeMapNode :=
  (collectNetworkListeners readTable).elim [] ListenerPass.nodes

theorem mapM_listenerTables (readTable : String → Option (List Char)) (paths : List String) :
    (paths.mapM (collectListenerTable readTable)).map (List.flatMap ListenerPass.nodes) =
      (paths.mapM fun path => (readTable path).elim (some []) readSockets).map
        fun tables => tables.flatten.map listeningSocketNode := by
  induction paths with
  | nil => rfl
  | cons path paths ih =>
    have hhead : (collectListenerTable readTable path).map ListenerPass.nodes =
        ((readTable path).elim (some []) readSockets).map (List.map listeningSocketNode) := by
      unfold collectListenerTable
      cases readTable path with
      | none => rfl
      | some content =>
        rw [Option.elim_some, Option.map_map]
        rfl
    rw [List.mapM_cons, List.mapM_cons]
    cases hpass : collectListenerTable readTable path with
    | none =>
      rw [hpass, Option.map_none] at hhead
      rw [Option.map_eq_none_iff.1 hhead.symm]
      rfl
    | some pass =>
      rw [hpass, Option.map_some] at hhead
      obtain ⟨sockets, hsockets, hnodes⟩ := Option.map_eq_some_iff.1 hhead.symm
      rw [hsockets]
      cases hpasses : paths.mapM (collectListenerTable readTable) with
      | none =>
        rw [hpasses, Option.map_none] at ih
        have hnone := Option.map_eq_none_iff.1 ih.symm
        simp [hnone]
      | some passes =>
        rw [hpasses, Option.map_some] at ih
        obtain ⟨tables, htables, hflat⟩ := Option.map_eq_some_iff.1 ih.symm
        simp [htables, ← hflat, ← hnodes]

theorem pushedListeners_eq (readTable : String → Option (List Char)) :
    pushedListeners readTable = (listeningSockets readTable).map listeningSocketNode := by
  have htables := mapM_listenerTables readTable procTcpTables
  unfold pushedListeners collectNetworkListeners listeningSockets
  cases hpasses : procTcpTables.mapM (collectListenerTable readTable) with
  | none =>
    rw [hpasses, Option.map_none] at htables
    rw [Option.map_eq_none_iff.1 htables.symm]
    rfl
  | some passes =>
    rw [hpasses, Option.map_some] at htables
    obtain ⟨tables, hread, hflat⟩ := Option.map_eq_some_iff.1 htables.symm
    rw [hread]
    exact hflat.symm

/-! One node an identity -/

section

variable (restricted : Bool) (projects : List NpmProjectSummary)
  (readTable : String → Option (List Char))

def pushedNodes : List RuntimeMapNode :=
  (collectNpmProjects restricted projects).nodes ++ pushedListeners readTable

/-- The nodes with an id. -/
def nodesWithId (nodes : List RuntimeMapNode) (id : String) : List RuntimeMapNode :=
  nodes.filter fun node => node.id = id

/-- No two nodes share an id, and a dependency edge leads from its project's one node to the
one node of its package and version. -/
structure UniqueNodes : Prop where
  distinct : ((pushedNodes restricted projects readTable).map RuntimeMapNode.id).Nodup
  noCollision : runtimeMapHasIdentityCollision
    { nodes := pushedNodes restricted projects readTable } = false
  dependsOn : ∀ edge ∈ (collectNpmProjects restricted projects).edges,
    edge.relationship = .dependsOn → ∃ project ∈ projects.zipIdx,
      ∃ dependency ∈ project.1.dependencies.zipIdx,
        edge = npmDependsOnEdge project.2 project.1 dependency.2 dependency.1 ∧
        nodesWithId (pushedNodes restricted projects readTable) edge.source =
          [npmProjectNode project.2 project.1] ∧
        nodesWithId (pushedNodes restricted projects readTable) edge.target =
          [npmPackageNode dependency.2 dependency.1]

variable {restricted projects readTable}

theorem nodes_collect : (collectNpmProjects restricted projects).nodes =
    projects.zipIdx.flatMap projectNodes := by
  rw [collectNpmProjects, foldl_project, List.nil_append]

theorem mem_dependsOn_edges {edge : RuntimeMapEdge}
    (h : edge ∈ (collectNpmProjects restricted projects).edges)
    (hrelationship : edge.relationship = .dependsOn) :
    ∃ project ∈ projects.zipIdx, ∃ dependency ∈ project.1.dependencies.zipIdx,
      edge = npmDependsOnEdge project.2 project.1 dependency.2 dependency.1 := by
  rw [collectNpmProjects, foldl_project, List.nil_append] at h
  obtain ⟨project, hproject, hedge⟩ := List.mem_flatMap.1 h
  rcases List.mem_append.1 hedge with hruns | hdepends
  · cases restricted
    · rw [List.mem_singleton.1 hruns] at hrelationship
      cases hrelationship
    · cases hruns
  · obtain ⟨dependency, hdependency, rfl⟩ := List.mem_map.1 hdepends
    exact ⟨project, hproject, dependency, hdependency, rfl⟩

theorem nodesWithId_of_mem {nodes : List RuntimeMapNode} {node : RuntimeMapNode}
    (hnodup : (nodes.map RuntimeMapNode.id).Nodup) (h : node ∈ nodes) :
    nodesWithId nodes node.id = [node] := by
  unfold nodesWithId
  have hone : (nodes.filter fun other => other.id = node.id) =
      nodes.filter fun other => other == node := by
    refine List.filter_congr fun other hother => ?_
    refine decide_eq_decide.2 ⟨fun hid => ?_, congrArg RuntimeMapNode.id⟩
    exact List.inj_on_of_nodup_map hnodup hother h hid
  rw [hone, List.filter_beq, (List.Nodup.of_map _ hnodup).count, if_pos h]
  rfl

/-- The rest of the property follows from distinct ids. -/
theorem uniqueNodes_iff_nodup : UniqueNodes restricted projects readTable ↔
    ((pushedNodes restricted projects readTable).map RuntimeMapNode.id).Nodup := by
  refine ⟨UniqueNodes.distinct, fun hnodup => ⟨hnodup, ?_, ?_⟩⟩
  · rw [runtimeMapHasIdentityCollision, duplicateRuntimeNodeIds_eq_nil.2 hnodup]
    rfl
  · intro edge hedge hrelationship
    obtain ⟨project, hproject, dependency, hdependency, rfl⟩ :=
      mem_dependsOn_edges hedge hrelationship
    have hmem : ∀ node ∈ projectNodes project, node ∈ pushedNodes restricted projects readTable := by
      intro node hnode
      rw [pushedNodes, nodes_collect]
      exact List.mem_append_left _ (List.mem_flatMap.2 ⟨project, hproject, hnode⟩)
    refine ⟨project, hproject, dependency, hdependency, rfl, ?_, ?_⟩
    · exact nodesWithId_of_mem hnodup (hmem _ List.mem_cons_self)
    · exact nodesWithId_of_mem hnodup (hmem _ (List.mem_cons_of_mem _
        (List.mem_map.2 ⟨dependency, hdependency, rfl⟩)))

/-! Distinct ids -/

theorem family_project (index : ℕ) (project : NpmProjectSummary) :
    (npmProjectId index project).toList.take 8 = "npm_proj".toList := by
  delta npmProjectId
  exact take_family (by decide)

theorem family_package (index : ℕ) (dependency : PackageDependencyRecord) :
    (npmPackageId index dependency).toList.take 8 = "npm_pack".toList := by
  delta npmPackageId
  simp only [String.append_assoc]
  exact take_family (by decide)

theorem family_socket (socket : ListeningSocket) :
    (listeningSocketId socket).toList.take 8 = "network_".toList := by
  delta listeningSocketId
  simp only [String.append_assoc]
  exact take_family (by decide)

def projectIds (projects : List NpmProjectSummary) : List String :=
  projects.zipIdx.map fun entry => npmProjectId entry.2 entry.1

def packageIds (projects : List NpmProjectSummary) : List String :=
  (packageEntries projects).map fun entry => npmPackageId entry.2 entry.1

theorem ids_perm : ((pushedNodes restricted projects readTable).map RuntimeMapNode.id).Perm
    (projectIds projects ++ packageIds projects ++
      (listeningSockets readTable).map listeningSocketId) := by
  have hentries : packageIds projects = projects.zipIdx.flatMap fun entry =>
      entry.1.dependencies.zipIdx.map fun dependency => npmPackageId dependency.2 dependency.1 := by
    have hprojects : packageEntries projects =
        packageEntries (projects.zipIdx.map Prod.fst) := by rw [List.zipIdx_map_fst]
    rw [packageIds, hprojects, packageEntries, List.flatMap_map, List.map_flatMap]
  have hids : (collectNpmProjects restricted projects).nodes.map RuntimeMapNode.id =
      projects.zipIdx.flatMap fun entry => [npmProjectId entry.2 entry.1] ++
        entry.1.dependencies.zipIdx.map fun dependency =>
          npmPackageId dependency.2 dependency.1 := by
    rw [nodes_collect, List.map_flatMap]
    refine congrArg (fun f => List.flatMap f projects.zipIdx) (funext fun entry => ?_)
    rw [projectNodes, List.map_cons, List.map_map]
    rfl
  rw [pushedNodes, List.map_append, hids, pushedListeners_eq, List.map_map]
  refine List.Perm.append ?_ (List.Perm.refl _)
  rw [hentries, projectIds, List.map_eq_flatMap]
  exact (List.flatMap_append_perm _ _ _).symm

theorem nodup_ids_iff : ((pushedNodes restricted projects readTable).map RuntimeMapNode.id).Nodup ↔
    (projectIds projects).Nodup ∧ (packageIds projects).Nodup ∧
      ((listeningSockets readTable).map listeningSocketId).Nodup := by
  have hpackages : (projectIds projects).Disjoint (packageIds projects) := by
    intro id hproject hpackage
    obtain ⟨entry, -, rfl⟩ := List.mem_map.1 hproject
    obtain ⟨dependency, -, heq⟩ := List.mem_map.1 hpackage
    exact ne_of_family (family_package _ _) (family_project _ _) (by decide) heq
  have hsockets : (projectIds projects ++ packageIds projects).Disjoint
      ((listeningSockets readTable).map listeningSocketId) := by
    intro id hnpm hsocket
    obtain ⟨socket, -, rfl⟩ := List.mem_map.1 hsocket
    rcases List.mem_append.1 hnpm with hnpm | hnpm
    · obtain ⟨entry, -, heq⟩ := List.mem_map.1 hnpm
      exact ne_of_family (family_project _ _) (family_socket _) (by decide) heq
    · obtain ⟨entry, -, heq⟩ := List.mem_map.1 hnpm
      exact ne_of_family (family_package _ _) (family_socket _) (by decide) heq
  rw [ids_perm.nodup_iff, List.nodup_append', List.nodup_append']
  constructor
  · rintro ⟨⟨h1, h2, -⟩, h3, -⟩
    exact ⟨h1, h2, h3⟩
  · rintro ⟨h1, h2, h3⟩
    exact ⟨⟨h1, h2, hpackages⟩, h3, hsockets⟩

section

variable (hsha : NoCollision (inventoryTexts projects (listeningSockets readTable)))

include hsha

theorem nodup_projectIds (hdirectories : (projects.map NpmProjectSummary.directory).Nodup) :
    (projectIds projects).Nodup := by
  have hentries : (projects.zipIdx.map fun entry => entry.1.directory).Nodup := by
    have hmap : (projects.zipIdx.map fun entry => entry.1.directory) =
        (projects.zipIdx.map Prod.fst).map NpmProjectSummary.directory := by
      rw [List.map_map]
      rfl
    rwa [hmap, List.zipIdx_map_fst]
  have htexts : ∀ entry ∈ projects.zipIdx, entry.1.directory ∈
      inventoryTexts projects (listeningSockets readTable) := by
    intro entry hentry
    have hproject : entry.1 ∈ projects := by
      have hmem := List.mem_map_of_mem (f := Prod.fst) hentry
      rwa [List.zipIdx_map_fst] at hmem
    exact List.mem_append_left _ (List.mem_append_left _ (List.mem_map_of_mem hproject))
  refine List.Nodup.map_on ?_ hentries.of_map
  intro entry hentry entry' hentry' hid
  refine List.inj_on_of_nodup_map hentries hentry hentry' ?_
  exact append_safe_inj hsha (htexts entry hentry) (htexts entry' hentry') hid

theorem nodup_packageIds : (packageIds projects).Nodup ↔
    ((packageEntries projects).map packageKey).Nodup := by
  have htexts : ∀ entry ∈ packageEntries projects, ∀ text ∈
      [redactSensitiveText entry.1.name, redactSensitiveText entry.1.version],
        text ∈ inventoryTexts projects (listeningSockets readTable) := fun entry hentry text htext =>
    List.mem_append_left _ (List.mem_append_right _
      (List.mem_flatMap.2 ⟨entry, hentry, htext⟩))
  refine nodup_map_iff fun entry hentry entry' hentry' => ?_
  exact npmPackageId_iff hsha (htexts entry hentry _ List.mem_cons_self)
    (htexts entry' hentry' _ List.mem_cons_self)
    (htexts entry hentry _ (List.mem_cons_of_mem _ List.mem_cons_self))
    (htexts entry' hentry' _ (List.mem_cons_of_mem _ List.mem_cons_self))

theorem nodup_socketIds : ((listeningSockets readTable).map listeningSocketId).Nodup ↔
    ((listeningSockets readTable).map socketKey).Nodup :=
  nodup_map_iff fun _ hsocket _ hsocket' => listeningSocketId_iff hsha
    (List.mem_append_right _ (List.mem_map_of_mem hsocket))
    (List.mem_append_right _ (List.mem_map_of_mem hsocket'))

end

end

/-- A project that depends on one package. -/
def reactProject (directory : String) : NpmProjectSummary where
  directory := directory
  packageName := none
  displayName := directory
  kind := .nodeApplication
  serviceEntityKind := .nodeApplication
  packageManager := none
  lockfiles := []
  dependencies := [⟨"react", "18", "dependencies"⟩]
  scripts := ∅
  frameworkHints := ["React"]
  isPrivate := false

/-- A project that depends on two packages. -/
def vueProject (directory : String) : NpmProjectSummary :=
  { reactProject directory with
    dependencies := [⟨"vue", "3", "dependencies"⟩, ⟨"vite", "5", "devDependencies"⟩]
    frameworkHints := ["Vue"] }

def twoSocketTable (path : String) : Option (List Char) :=
  if path = "/proc/net/tcp" then
    some ("sl\n0: 0100007F:1F90 0:0 0A 0:0 0:0 0 0 0 77\n".toList ++
      "1: 0100007F:1F91 0:0 0A 0:0 0:0 0 0 0 78".toList)
  else none

theorem sockets_twoSocketTable : listeningSockets twoSocketTable =
    [⟨"127.0.0.1", 8080, "77"⟩, ⟨"127.0.0.1", 8081, "78"⟩] := by
  decide +kernel

end DockerMap
