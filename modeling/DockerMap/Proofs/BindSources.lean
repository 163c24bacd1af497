import DockerMap.Core.ComposeScan
import DockerMap.Proofs.IdentityCollisions

/-! What the classification of bind sources says of a directory and of the paths in it. The lists
are closed: a path is matched by what lies at or below a listed one, never by what lies above. -/

namespace DockerMap

open LexicalPath (ProperName)
open Text (startsWith)

/-! Normalized absolute paths -/

/-- The text of a normalized absolute path. -/
def absolutePath (names : List (List Char)) : String :=
  String.ofList (LexicalPath.text true names)

def severityOf (resolved : String) : Option DiagnosticSeverity :=
  (unsafeBindSourceDiagnostic resolved).map Prod.fst

def namesOf (path : String) : List (List Char) := (path.toList.splitOn '/').tail

def dockerDirectory : List (List Char) := namesOf "/var/lib/docker"

def dockerSockets : List (List (List Char)) :=
  [namesOf "/var/run/docker.sock", namesOf "/run/docker.sock"]

def sensitiveRoots : List (List (List Char)) := sensitiveSystemRoots.map namesOf

/-- At or below the directory of the daemon, or one of its sockets. -/
def ExposesDaemonState (names : List (List Char)) : Prop :=
  names ∈ dockerSockets ∨ dockerDirectory <+: names

instance (names : List (List Char)) : Decidable (ExposesDaemonState names) :=
  inferInstanceAs (Decidable (names ∈ dockerSockets ∨ dockerDirectory <+: names))

def HasCredentialName (names : List (List Char)) : Prop :=
  ∃ name ∈ names, name ∈ credentialDirNames.map String.toList

instance (names : List (List Char)) : Decidable (HasCredentialName names) :=
  inferInstanceAs (Decidable (∃ name ∈ names, name ∈ credentialDirNames.map String.toList))

/-- At or below a listed root. -/
def ExposesSystemRoot (names : List (List Char)) : Prop := ∃ root ∈ sensitiveRoots, root <+: names

instance (names : List (List Char)) : Decidable (ExposesSystemRoot names) :=
  inferInstanceAs (Decidable (∃ root ∈ sensitiveRoots, root <+: names))

theorem intercalate_append {α : Type*} {sep : List α} {a b : List (List α)} (ha : a ≠ [])
    (hb : b ≠ []) : sep.intercalate (a ++ b) = sep.intercalate a ++ sep ++ sep.intercalate b := by
  induction a with
  | nil => exact absurd rfl ha
  | cons first a ih =>
    cases a with
    | nil =>
      rw [List.singleton_append, List.intercalate_cons_of_ne_nil hb, List.intercalate_singleton]
    | cons second a =>
      rw [List.cons_append, List.intercalate_cons_of_ne_nil (by simp), ih (by simp),
        List.intercalate_cons_of_ne_nil (List.cons_ne_nil second a)]
      simp only [List.append_assoc]

section

variable {names root : List (List Char)}

theorem splitOn_text (hproper : ∀ name ∈ names, ProperName name) (hne : names ≠ []) :
    (LexicalPath.text true names).splitOn '/' = [] :: names := by
  have htext : LexicalPath.text true names = [] ++ '/' :: List.intercalate ['/'] names := rfl
  rw [htext, List.splitOn_append_cons_self, List.splitOn_nil,
    List.splitOn_intercalate '/' (fun name hname => (hproper name hname).1) hne]
  rfl

theorem text_injective {names' : List (List Char)} (hproper : ∀ name ∈ names, ProperName name)
    (hproper' : ∀ name ∈ names', ProperName name)
    (h : LexicalPath.text true names = LexicalPath.text true names') : names = names' := by
  have hcomponents := congrArg LexicalPath.components h
  rw [LexicalPath.components_text hproper, LexicalPath.components_text hproper'] at hcomponents
  have hmap := List.append_cancel_left hcomponents
  exact List.map_injective_iff.2 (fun a b hab => LexicalPath.Component.normal.inj hab) hmap

/-- The names of the paths in a directory begin with its names. -/
theorem startsWith_text_iff (hproper : ∀ name ∈ names, ProperName name)
    (hroot : ∀ name ∈ root, ProperName name) (hne : root ≠ []) :
    startsWith (LexicalPath.text true names) (LexicalPath.text true root ++ ['/']) = true ↔
      root <+: names ∧ root ≠ names := by
  rw [startsWith, decide_eq_true_eq]
  constructor
  · rintro ⟨rest, hrest⟩
    have hnames : names ≠ [] := by
      rintro rfl
      have hlength := congrArg List.length hrest
      obtain ⟨first, others, rfl⟩ := List.exists_cons_of_ne_nil hne
      have hfirst := (hroot first List.mem_cons_self).2.1
      have hpos := List.length_pos_iff.2 hfirst
      simp [LexicalPath.text, List.intercalate] at hlength
    have hsplit := congrArg (List.splitOn '/') hrest
    rw [List.append_assoc, List.singleton_append, List.splitOn_append_cons_self,
      splitOn_text hproper hnames, splitOn_text hroot hne] at hsplit
    have hcons : root ++ rest.splitOn '/' = names := (List.cons.inj hsplit).2
    refine ⟨⟨_, hcons⟩, fun heq => ?_⟩
    rw [← heq] at hcons
    exact List.splitOn_ne_nil '/' rest (List.append_right_eq_self.1 hcons)
  · rintro ⟨⟨rest, rfl⟩, hdiffers⟩
    have hrest : rest ≠ [] := by
      rintro rfl
      exact hdiffers (List.append_nil root).symm
    refine ⟨List.intercalate ['/'] rest, ?_⟩
    rw [LexicalPath.text, LexicalPath.text, intercalate_append hne hrest]
    simp

/-! Listed paths -/

/-- What every listed path is: absolute, normalized and not the root. -/
structure IsListed (path : String) : Prop where
  text : absolutePath (namesOf path) = path
  proper : ∀ name ∈ namesOf path, ProperName name
  ne_nil : namesOf path ≠ []

variable {path : String}

theorem absolutePath_eq_iff (hproper : ∀ name ∈ names, ProperName name) (h : IsListed path) :
    absolutePath names = path ↔ names = namesOf path := by
  constructor
  · intro heq
    rw [← h.text, absolutePath, absolutePath] at heq
    exact text_injective hproper h.proper (String.ofList_injective heq)
  · rintro rfl
    exact h.text

theorem startsWith_absolutePath_iff (hproper : ∀ name ∈ names, ProperName name)
    (h : IsListed path) :
    startsWith (absolutePath names).toList (path ++ "/").toList = true ↔
      namesOf path <+: names ∧ namesOf path ≠ names := by
  have hpath : (path ++ "/").toList = LexicalPath.text true (namesOf path) ++ ['/'] := by
    rw [String.toList_append, ← h.text, absolutePath, String.toList_ofList, ← absolutePath, h.text]
    rfl
  rw [hpath, absolutePath, String.toList_ofList]
  exact startsWith_text_iff hproper h.proper h.ne_nil

/-- Matching a listed path and what starts with it is matching what lies at or below it. -/
theorem atOrBelow_iff (hproper : ∀ name ∈ names, ProperName name) (h : IsListed path) :
    (absolutePath names = path ∨
      startsWith (absolutePath names).toList (path ++ "/").toList = true) ↔
      namesOf path <+: names := by
  rw [absolutePath_eq_iff hproper h, startsWith_absolutePath_iff hproper h]
  constructor
  · rintro (rfl | ⟨hbegins, -⟩)
    · exact List.prefix_rfl
    · exact hbegins
  · intro hbegins
    by_cases heq : namesOf path = names
    · exact Or.inl heq.symm
    · exact Or.inr ⟨hbegins, heq⟩

instance (name : List Char) : Decidable (ProperName name) :=
  inferInstanceAs (Decidable ('/' ∉ name ∧ name ≠ [] ∧ name ≠ ['.'] ∧ name ≠ ['.', '.']))

theorem listed_daemon : ∀ path ∈ ["/var/run/docker.sock", "/run/docker.sock", "/var/lib/docker"],
    IsListed path := by
  have hall : ∀ path ∈ ["/var/run/docker.sock", "/run/docker.sock", "/var/lib/docker"],
      absolutePath (namesOf path) = path ∧ (∀ name ∈ namesOf path, ProperName name) ∧
        namesOf path ≠ [] := by decide
  exact fun path hpath => ⟨(hall path hpath).1, (hall path hpath).2.1, (hall path hpath).2.2⟩

theorem listed_root : ∀ path ∈ sensitiveSystemRoots, IsListed path := by
  have hall : ∀ path ∈ sensitiveSystemRoots, absolutePath (namesOf path) = path ∧
      (∀ name ∈ namesOf path, ProperName name) ∧ namesOf path ≠ [] := by decide
  exact fun path hpath => ⟨(hall path hpath).1, (hall path hpath).2.1, (hall path hpath).2.2⟩

end

/-! The classification by names -/

section

variable {names : List (List Char)} (hproper : ∀ name ∈ names, ProperName name)

include hproper

theorem isDockerDaemonStateBindSource_iff :
    isDockerDaemonStateBindSource (absolutePath names) = true ↔ ExposesDaemonState names := by
  have hdirectory := atOrBelow_iff hproper (listed_daemon "/var/lib/docker" (by simp))
  have hslash : "/var/lib/docker" ++ "/" = "/var/lib/docker/" := by decide
  rw [hslash] at hdirectory
  simp only [isDockerDaemonStateBindSource, Bool.or_eq_true, beq_iff_eq, or_assoc,
    absolutePath_eq_iff hproper (listed_daemon "/var/run/docker.sock" (by simp)),
    absolutePath_eq_iff hproper (listed_daemon "/run/docker.sock" (by simp)), hdirectory,
    ExposesDaemonState, dockerSockets, dockerDirectory, List.mem_cons, List.not_mem_nil, or_false]

theorem credential_iff :
    ((LexicalPath.components (absolutePath names).toList).any fun component =>
      credentialDirNames.any fun needle => component = .normal needle.toList) = true ↔
      HasCredentialName names := by
  rw [absolutePath, String.toList_ofList, LexicalPath.components_text hproper]
  simp [HasCredentialName, List.any_eq_true]

theorem sensitiveSource_iff :
    (sensitiveSystemRoots.any fun root => absolutePath names = root ||
      startsWith (absolutePath names).toList (root ++ "/").toList) = true ↔
      ExposesSystemRoot names := by
  rw [List.any_eq_true, ExposesSystemRoot, sensitiveRoots]
  simp only [List.mem_map, exists_exists_and_eq_and, Bool.or_eq_true, decide_eq_true_eq]
  exact exists_congr fun root => and_congr_right fun hroot =>
    atOrBelow_iff hproper (listed_root root hroot)

theorem severityOf_absolutePath : severityOf (absolutePath names) =
    if ExposesDaemonState names then some .blocked
    else if HasCredentialName names then some .blocked
    else if ExposesSystemRoot names then some .warning
    else none := by
  rw [severityOf, unsafeBindSourceDiagnostic, apply_ite (Option.map Prod.fst),
    apply_ite (Option.map Prod.fst), apply_ite (Option.map Prod.fst)]
  simp only [isDockerDaemonStateBindSource_iff hproper, credential_iff hproper,
    sensitiveSource_iff hproper, Option.map_some, Option.map_none]

end

/-! A directory and what is in it -/

/-- Nothing is said of a path above a listed one. -/
theorem above_listed : ∀ listed ∈ dockerDirectory :: dockerSockets ++ sensitiveRoots,
    ∀ names ∈ listed.inits, names ≠ listed →
      ¬ ExposesDaemonState names ∧ ¬ HasCredentialName names ∧ ¬ ExposesSystemRoot names := by
  decide

theorem socket_outside_roots : ∀ socket ∈ dockerSockets, ¬ ExposesSystemRoot socket := by decide

section

variable {p q : List (List Char)}

theorem HasCredentialName.of_ancestor (hpq : p <+: q) (h : HasCredentialName p) :
    HasCredentialName q := by
  obtain ⟨name, hname, hlisted⟩ := h
  exact ⟨name, hpq.subset hname, hlisted⟩

/-- An ancestor of a path at or below a listed one lies at or below it too, or above it, where it
has no class. -/
theorem ancestor_cases {listed : List (List Char)}
    (hlisted : listed ∈ dockerDirectory :: dockerSockets ++ sensitiveRoots) (hq : listed <+: q)
    (hpq : p <+: q) :
    listed <+: p ∨ ¬ ExposesDaemonState p ∧ ¬ HasCredentialName p ∧ ¬ ExposesSystemRoot p := by
  rcases List.prefix_or_prefix_of_prefix hq hpq with hbelow | habove
  · exact Or.inl hbelow
  · by_cases heq : p = listed
    · exact Or.inl (heq ▸ List.prefix_rfl)
    · exact Or.inr (above_listed listed hlisted p ((List.mem_inits p listed).2 habove) heq)

theorem severityOf_eq_none (hp : ∀ name ∈ p, ProperName name)
    (h : ¬ ExposesDaemonState p ∧ ¬ HasCredentialName p ∧ ¬ ExposesSystemRoot p) :
    severityOf (absolutePath p) = none := by
  rw [severityOf_absolutePath hp, if_neg h.1, if_neg h.2.1, if_neg h.2.2]

theorem severityOf_eq_warning (hp : ∀ name ∈ p, ProperName name) :
    severityOf (absolutePath p) = some .warning ↔
      ¬ ExposesDaemonState p ∧ ¬ HasCredentialName p ∧ ExposesSystemRoot p := by
  rw [severityOf_absolutePath hp]
  split_ifs with hdaemon hcredential hroot
  · simp [hdaemon]
  · simp [hcredential]
  · simp [hdaemon, hcredential, hroot]
  · simp [hroot]

theorem daemon_ancestor (hp : ∀ name ∈ p, ProperName name) (hpq : p <+: q) (hne : p ≠ q)
    (hq : ExposesDaemonState q) :
    severityOf (absolutePath p) = if dockerDirectory <+: p then some .blocked else none := by
  split_ifs with hbelow
  · rw [severityOf_absolutePath hp, if_pos (show ExposesDaemonState p from Or.inr hbelow)]
  · refine severityOf_eq_none hp ?_
    rcases hq with hsocket | hdirectory
    · exact above_listed q (List.mem_append_left _ (List.mem_cons_of_mem _ hsocket)) p
        ((List.mem_inits p q).2 hpq) hne
    · exact (ancestor_cases (by simp) hdirectory hpq).resolve_left hbelow

theorem exposesDaemonState_ancestor (hpq : p <+: q) (hne : p ≠ q) (hq : ExposesDaemonState q) :
    ExposesDaemonState p ↔ dockerDirectory <+: p := by
  refine ⟨?_, Or.inr⟩
  rintro (hsocket | hdirectory)
  · rcases hq with hq | hq
    · exact absurd (Or.inl hsocket) (above_listed q (List.mem_append_left _
        (List.mem_cons_of_mem _ hq)) p ((List.mem_inits p q).2 hpq) hne).1
    · refine (ancestor_cases (by simp) hq hpq).resolve_right fun hclass => ?_
      exact hclass.1 (Or.inl hsocket)
  · exact hdirectory

theorem sensitive_ancestor (hp : ∀ name ∈ p, ProperName name)
    (hq : ∀ name ∈ q, ProperName name) (hpq : p <+: q)
    (hwarning : severityOf (absolutePath q) = some .warning) :
    severityOf (absolutePath p) = if ExposesSystemRoot p then some .warning else none := by
  obtain ⟨hdaemon, hcredential, root, hroot, hprefix⟩ := (severityOf_eq_warning hq).1 hwarning
  split_ifs with hsensitive
  · refine (severityOf_eq_warning hp).2 ⟨?_, fun h => hcredential (h.of_ancestor hpq), hsensitive⟩
    rintro (hsocket | hdirectory)
    · exact socket_outside_roots p hsocket hsensitive
    · exact hdaemon (Or.inr (hdirectory.trans hpq))
  · refine severityOf_eq_none hp
      ((ancestor_cases (List.mem_append_right _ hroot) hprefix hpq).resolve_left fun hbelow => ?_)
    exact hsensitive ⟨root, hroot, hbelow⟩

end

/-! The exposure of a container -/

section

variable {snapshot : DockerSnapshot} {revision : String} {container : ContainerRecord}

/-- The exposure that a derivation attaches to a container. -/
def exposureEdge (snapshot : DockerSnapshot) (revision : String) (container : ContainerRecord) :
    RuntimeMapEdge :=
  dockerEdge snapshot revision (runtimeContainerId container) dockerDaemonStateRiskId
    .exposesDaemonState .dockerDaemonStateBindMount

theorem mem_riskSources {atRisk : ContainerRecord → Bool} {id : String} :
    id ∈ riskSources snapshot atRisk ↔ ∃ container ∈ snapshot.containers,
      hasUniqueId snapshot.containers container = true ∧ atRisk container = true ∧
        runtimeContainerId container = id := by
  rw [riskSources, SortedSet.mem_toList_foldl_add, SortedSet.toList_empty, List.mem_map]
  simp only [List.mem_filter, Bool.and_eq_true, List.not_mem_nil, false_or, and_assoc]

/-- A unique id stands for one record. -/
theorem mem_riskSources_of_unique {atRisk : ContainerRecord → Bool}
    (hcontainer : container ∈ snapshot.containers)
    (hunique : hasUniqueId snapshot.containers container = true) :
    runtimeContainerId container ∈ riskSources snapshot atRisk ↔ atRisk container = true := by
  rw [mem_riskSources]
  constructor
  · rintro ⟨other, hother, hotherUnique, hrisk, hid⟩
    simp only [hasUniqueId, Bool.and_eq_true, decide_eq_true_eq, beq_iff_eq] at hunique hotherUnique
    have heq : other = container := SoleMember.eq_of_countP_le_one (le_of_eq hunique.2) hother
      (by simp [hotherUnique.1, hid]) hcontainer (by simp [hunique.1])
    rwa [← heq]
  · exact fun hrisk => ⟨container, hcontainer, hunique, hrisk, rfl⟩

theorem mem_withHostRisk {sources : List String} {node : RuntimeMapNode} {source : String}
    {relationship : RuntimeRelationshipKind} {kind : RuntimeEvidenceKind}
    {topology : List RuntimeMapNode × List RuntimeMapEdge}
    (hnew : ∀ other ∈ topology.1, other.id ≠ node.id)
    (hedge : dockerEdge snapshot revision source node.id relationship kind ∉ topology.2)
    (hsole : (withHostRisk snapshot revision sources node relationship kind topology).1.countP
      (fun other => other.id == source) = 1) :
    dockerEdge snapshot revision source node.id relationship kind ∈
        (withHostRisk snapshot revision sources node relationship kind topology).2 ↔
      source ∈ sources := by
  unfold withHostRisk at hsole ⊢
  by_cases hsources : sources = []
  · rw [if_neg fun h => h.1 hsources, hsources]
    exact iff_of_false hedge List.not_mem_nil
  · have hguard : sources ≠ [] ∧ topology.1.all (fun other => other.id ≠ node.id) = true := by
      refine ⟨hsources, List.all_eq_true.2 fun other hother => ?_⟩
      exact decide_eq_true (hnew other hother)
    rw [if_pos hguard] at hsole
    rw [if_pos hguard]
    simp only [List.mem_append, List.mem_map, List.mem_filter, beq_iff_eq, or_iff_right hedge]
    constructor
    · rintro ⟨found, ⟨hfound, -⟩, heq⟩
      rwa [← show found = source from congrArg RuntimeMapEdge.source heq]
    · exact fun hsource => ⟨source, ⟨hsource, hsole⟩, rfl⟩

theorem exposes_ne : (exposureEdge snapshot revision container).relationship ≠ .exposes := nofun

/-- The inventory has no edge of this relationship by itself. -/
theorem relationship_of_mem_inventory {edge : RuntimeMapEdge}
    (h : edge ∈ snapshot.containers.zipIdx.flatMap (containerEdges snapshot revision) ∨
      edge ∈ snapshot.volumes.flatMap (volumeEdges snapshot revision)) :
    edge.relationship ≠ .exposesDaemonState := by
  rcases h with hinventory | hvolume
  · rcases mem_containerEdges.1 hinventory with ⟨c, -, network, -, rfl⟩ | ⟨c, -, port, -, rfl⟩ |
      ⟨c, -, dependency, -, target, -, -, -, -, -, rfl⟩
    · exact RuntimeRelationshipKind.noConfusion
    · rw [portEdge]
      split_ifs <;> exact RuntimeRelationshipKind.noConfusion
    · exact RuntimeRelationshipKind.noConfusion
  · obtain ⟨volume, -, attached, -, found, -, rfl⟩ := mem_volumeEdges.1 hvolume
    exact RuntimeRelationshipKind.noConfusion

theorem exposure_iff {nodes : List RuntimeMapNode} {edges : List RuntimeMapEdge}
    {diagnostics : List RuntimeMapDiagnostic} (hcontainer : container ∈ snapshot.containers)
    (hunique : hasUniqueId snapshot.containers container = true)
    (hnodes : ∀ node ∈ nodes, node.id ≠ dockerDaemonStateRiskId)
    (hedges : exposureEdge snapshot revision container ∉ edges)
    (hsole : (deriveRuntimeMap snapshot nodes edges diagnostics revision).nodes.countP
      (fun node => node.id == runtimeContainerId container) = 1) :
    exposureEdge snapshot revision container ∈
        (deriveRuntimeMap snapshot nodes edges diagnostics revision).edges ↔
      bindsDockerDaemonState container = true := by
  rw [deriveRuntimeMap_eq] at hsole ⊢
  rw [(sortByKey_perm _ _).countP_eq] at hsole
  rw [dedup, KeyedSort.mem_destutter, mem_sortByKey, ← mem_riskSources_of_unique hcontainer hunique]
  refine mem_withHostRisk ?_ ?_ hsole
  · refine id_ne_of_mem_withHostRisk (by decide) fun node hnode => ?_
    rw [inventoryNodes, List.append_assoc, List.append_assoc, List.mem_append] at hnode
    rcases hnode with hprovided | hderived
    · exact hnodes node hprovided
    · refine @id_ne_of_mem_inventoryNodes snapshot node _ ?_ (by decide)
      rw [inventoryNodes, List.nil_append, List.append_assoc]
      exact hderived
  · change exposureEdge snapshot revision container ∉ _
    rw [mem_withHostRisk_of_ne exposes_ne, inventoryEdges, List.mem_append, List.mem_append]
    rintro ((hprovided | hinventory) | hvolume)
    · exact hedges hprovided
    · exact relationship_of_mem_inventory (Or.inl hinventory) rfl
    · exact relationship_of_mem_inventory (Or.inr hvolume) rfl

theorem bindsDockerDaemonState_of_binds {source : String}
    (hbinds : ∀ mount ∈ container.mounts, mount.kind = .bind → mount.source = some source)
    (hbound : ∃ mount ∈ container.mounts, mount.kind = .bind) :
    bindsDockerDaemonState container = isDockerDaemonStateBindSource source := by
  rw [Bool.eq_iff_iff, bindsDockerDaemonState, List.any_eq_true]
  simp only [Bool.and_eq_true, beq_iff_eq]
  constructor
  · rintro ⟨mount, hmount, hkind, hdaemon⟩
    rwa [hbinds mount hmount hkind] at hdaemon
  · intro hdaemon
    obtain ⟨mount, hmount, hkind⟩ := hbound
    refine ⟨mount, hmount, hkind, ?_⟩
    rwa [hbinds mount hmount hkind]

end

/-- A proper ancestor of a path that exposes daemon state or a system root has the class of that
path when it lies at or below a listed path, and none when it lies above; a container that binds
it gets the exposure in the first case only. -/
theorem ancestor_classification {p q : List (List Char)} (hp : ∀ name ∈ p, ProperName name)
    (hq : ∀ name ∈ q, ProperName name) (hpq : p <+: q) (hne : p ≠ q) :
    (isDockerDaemonStateBindSource (absolutePath q) = true →
      severityOf (absolutePath p) = (if dockerDirectory <+: p then some .blocked else none) ∧
      ∀ (snapshot : DockerSnapshot) (nodes : List RuntimeMapNode) (edges : List RuntimeMapEdge)
        (diagnostics : List RuntimeMapDiagnostic) (revision : String),
        ∀ container ∈ snapshot.containers,
          (∀ mount ∈ container.mounts, mount.kind = .bind →
            mount.source = some (absolutePath p)) →
          (∃ mount ∈ container.mounts, mount.kind = .bind) →
          hasUniqueId snapshot.containers container = true →
          (∀ node ∈ nodes, node.id ≠ dockerDaemonStateRiskId) →
          exposureEdge snapshot revision container ∉ edges →
          (deriveRuntimeMap snapshot nodes edges diagnostics revision).nodes.countP
            (fun node => node.id == runtimeContainerId container) = 1 →
          (exposureEdge snapshot revision container ∈
              (deriveRuntimeMap snapshot nodes edges diagnostics revision).edges ↔
            dockerDirectory <+: p)) ∧
    (severityOf (absolutePath q) = some .warning →
      severityOf (absolutePath p) =
        if ExposesSystemRoot p then some .warning else none) := by
  refine ⟨fun hdaemon => ⟨?_, ?_⟩, sensitive_ancestor hp hq hpq⟩
  · exact daemon_ancestor hp hpq hne ((isDockerDaemonStateBindSource_iff hq).1 hdaemon)
  · intro snapshot nodes edges diagnostics revision container hcontainer hbinds hbound hunique
      hnodes hedges hsole
    rw [exposure_iff hcontainer hunique hnodes hedges hsole,
      bindsDockerDaemonState_of_binds hbinds hbound, isDockerDaemonStateBindSource_iff hp]
    exact exposesDaemonState_ancestor hpq hne ((isDockerDaemonStateBindSource_iff hq).1 hdaemon)

def backupOf (id source : String) : ContainerRecord where
  id := id
  name := id
  image := "backup"
  status := "running"
  role := id
  networks := []
  ports := []
  publishesOnUnspecifiedAddress := false
  mounts := [{ id := "m0", kind := .bind, source := some source, target := "/backup",
               readOnly := true }]
  dependsOn := []

/-- Backups of a directory of the daemon's and of the directory above them all. -/
def backups : DockerSnapshot :=
  { containers := [backupOf "a" "/var/lib/docker/volumes", backupOf "b" "/var/lib"] }

theorem sole_backups : ∀ container ∈ backups.containers,
    (deriveRuntimeMap backups [] [] [] "r").nodes.countP
      (fun node => node.id == runtimeContainerId container) = 1 := by
  intro container hcontainer
  rw [deriveRuntimeMap_eq, (sortByKey_perm _ _).countP_eq]
  revert container
  decide +kernel

theorem hasUniqueId_backups : ∀ container ∈ backups.containers,
    hasUniqueId backups.containers container = true := by
  decide +kernel

theorem ancestor_classification_applied :
    severityOf "/var/lib/docker/volumes" = some .blocked ∧ severityOf "/var/lib" = none ∧
      exposureEdge backups "r" (backupOf "a" "/var/lib/docker/volumes") ∈
        (deriveRuntimeMap backups [] [] [] "r").edges ∧
      exposureEdge backups "r" (backupOf "b" "/var/lib") ∉
        (deriveRuntimeMap backups [] [] [] "r").edges := by
  have hproper : ∀ name ∈ namesOf "/var/lib/docker/volumes/db", ProperName name := by decide
  obtain ⟨hbelow, hexposed⟩ := (ancestor_classification (p := namesOf "/var/lib/docker/volumes")
    (by decide) hproper (by decide) (by decide)).1 (by decide)
  obtain ⟨habove, hunexposed⟩ := (ancestor_classification (p := namesOf "/var/lib")
    (by decide) hproper (by decide) (by decide)).1 (by decide)
  have hfirst : backupOf "a" "/var/lib/docker/volumes" ∈ backups.containers :=
    List.mem_cons_self
  have hsecond : backupOf "b" "/var/lib" ∈ backups.containers :=
    List.mem_cons_of_mem _ List.mem_cons_self
  refine ⟨hbelow, habove, ?_, ?_⟩
  · exact (hexposed backups [] [] [] "r" _ hfirst (by decide) (by decide)
      (hasUniqueId_backups _ hfirst) (List.forall_mem_nil _) List.not_mem_nil
      (sole_backups _ hfirst)).2 (by decide)
  · intro hmem
    exact absurd ((hunexposed backups [] [] [] "r" _ hsecond (by decide) (by decide)
      (hasUniqueId_backups _ hsecond) (List.forall_mem_nil _) List.not_mem_nil
      (sole_backups _ hsecond)).1 hmem) (by decide)

/-- The directory that holds the daemon's state directory has no class. -/
theorem daemon_parent_unclassified :
    namesOf "/var/lib" <+: dockerDirectory ∧ namesOf "/var/lib" ≠ dockerDirectory ∧
      severityOf "/var/lib/docker" = some .blocked ∧ severityOf "/var/lib" = none ∧
      isDockerDaemonStateBindSource "/var/lib/docker" = true ∧
      isDockerDaemonStateBindSource "/var/lib" = false := by
  decide

end DockerMap
