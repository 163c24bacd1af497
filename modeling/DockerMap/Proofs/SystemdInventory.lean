import DockerMap.Daemon.Systemd
import Mathlib.Data.List.Nodup
import Mathlib.Data.Set.Function

/-! Which systemd inventories have one node a unit. The units taken from the listing are kept
apart by the listing itself; every other unit gets a node each time a shown unit depends on it,
so what decides is how often that happens. -/

namespace DockerMap

/-- The answers of a host on which both commands succeed. -/
def answering (listOutput showOutput : List Char) :
    SystemctlCommand → Except ProviderCommandError ProviderCommandOutput
  | .listUnits => .ok ⟨true, listOutput⟩
  | .show _ => .ok ⟨true, showOutput⟩

def listedUnits (listOutput : List Char) : List String :=
  (parseSystemdListUnits listOutput).map SystemdUnitSummary.unit

/-- The units the pass keeps. -/
def takenUnits (listOutput : List Char) : List String :=
  (listedUnits listOutput).take maxSystemdUnits

/-- Without a listed unit nothing is shown. -/
def shownRecords (listOutput showOutput : List Char) : List SystemdUnitDetails :=
  if parseSystemdListUnits listOutput = [] then [] else parseSystemdShowRecords showOutput

def namedUnits (records : List SystemdUnitDetails) : List String :=
  records.flatMap fun detail => (systemdDependencyPairs detail).map Prod.snd

/-- Every unit a host mentions. -/
def mentionedUnits (listed : List String) (records : List SystemdUnitDetails) : List String :=
  listed ++ namedUnits records ++ records.map SystemdUnitDetails.id

/-- One node for each unit, and edges between them. -/
structure UniqueInventory (listed : List String) (records : List SystemdUnitDetails)
    (pass : SystemdPass) : Prop where
  distinct : (pass.nodes.map RuntimeMapNode.id).Nodup
  unit : ∀ u, u ∈ listed ∨ u ∈ namedUnits records →
    (pass.nodes.map RuntimeMapNode.id).count (systemdNodeId u) = 1
  endpoints : ∀ edge ∈ pass.edges, edge.source ∈ pass.nodes.map RuntimeMapNode.id ∧
    edge.target ∈ pass.nodes.map RuntimeMapNode.id
  once : pass.edges.Nodup

/-! Dependencies -/

abbrev DependencyPair := SystemdUnitDetails × SystemdDependencyKind × String

def allDependencyPairs (details : List SystemdUnitDetails) : List DependencyPair :=
  details.flatMap fun detail => (systemdDependencyPairs detail).map (Prod.mk detail)

/-- The shown units other than `u` that depend on `u`, each with the kind of dependency. -/
def dependents (details : List SystemdUnitDetails) (u : String) :
    List (String × SystemdDependencyKind) :=
  ((allDependencyPairs details).filter fun pair => pair.2.2 = u && pair.1.id ≠ u).map
    fun pair => (pair.1.id, pair.2.1)

/-- A shown unit that depends on another one. -/
def DependsOnAnother (details : List SystemdUnitDetails) (u : String) : Prop :=
  ∃ pair ∈ allDependencyPairs details, pair.1.id = u ∧ pair.2.2 ≠ u

/-- The details the pass keeps, by unit. -/
def shownDetails (records : List SystemdUnitDetails) : List SystemdUnitDetails :=
  (detailsByUnit records).entries.map Prod.snd

theorem mem_namedUnits {records : List SystemdUnitDetails} {u : String} :
    u ∈ namedUnits records ↔ ∃ pair ∈ allDependencyPairs records, pair.2.2 = u := by
  simp only [namedUnits, allDependencyPairs, List.mem_flatMap, List.mem_map]
  constructor
  · rintro ⟨detail, hdetail, pair, hpair, rfl⟩
    exact ⟨(detail, pair), ⟨detail, hdetail, pair, hpair, rfl⟩, rfl⟩
  · rintro ⟨_, ⟨detail, hdetail, pair, hpair, rfl⟩, rfl⟩
    exact ⟨detail, hdetail, pair, hpair, rfl⟩

theorem mem_details_of_mem_pairs {details : List SystemdUnitDetails} {pair : DependencyPair}
    (h : pair ∈ allDependencyPairs details) : pair.1 ∈ details := by
  obtain ⟨detail, hdetail, hpair⟩ := List.mem_flatMap.1 h
  obtain ⟨_, -, rfl⟩ := List.mem_map.1 hpair
  exact hdetail

theorem allDependencyPairs_mono {details records : List SystemdUnitDetails}
    (h : ∀ detail ∈ details, detail ∈ records) :
    ∀ pair ∈ allDependencyPairs details, pair ∈ allDependencyPairs records := by
  intro pair hpair
  obtain ⟨detail, hdetail, hmem⟩ := List.mem_flatMap.1 hpair
  exact List.mem_flatMap.2 ⟨detail, h detail hdetail, hmem⟩

theorem mem_entries_foldl_insert {κ ν : Type} [LinearOrder κ] {l : List (κ × ν)}
    {m : SortedMap κ ν} {e : κ × ν} (h : e ∈ (l.foldl (fun m e => m.insert e.1 e.2) m).entries) :
    e ∈ m.entries ∨ e ∈ l := by
  induction l generalizing m with
  | nil => exact .inl h
  | cons a l ih =>
    rcases ih h with h | h
    · rcases SortedMap.mem_insertEntry h with rfl | h
      · exact .inr List.mem_cons_self
      · exact .inl h
    · exact .inr (List.mem_cons_of_mem _ h)

theorem mem_records_of_shown {records : List SystemdUnitDetails} {detail : SystemdUnitDetails}
    (h : detail ∈ shownDetails records) : detail ∈ records := by
  obtain ⟨entry, hentry, rfl⟩ := List.mem_map.1 h
  rcases mem_entries_foldl_insert hentry with hempty | hmem
  · exact absurd hempty List.not_mem_nil
  · obtain ⟨detail, hdetail, rfl⟩ := List.mem_map.1 hmem
    exact List.mem_of_mem_filter hdetail

/-! The loop -/

section

variable (secondsSince : ℕ → Option ℕ) (taken : List String)

def dependencyOf (pair : DependencyPair) : SystemdDependency :=
  toLex (systemdNodeId pair.1.id, toLex (systemdNodeId pair.2.2, pair.2.1))

def Crosses (pair : DependencyPair) : Prop := systemdNodeId pair.1.id ≠ systemdNodeId pair.2.2

instance (pair : DependencyPair) : Decidable (Crosses pair) :=
  inferInstanceAs (Decidable (systemdNodeId pair.1.id ≠ systemdNodeId pair.2.2))

/-- The units that get a node for a dependency, in the order of the loop. -/
def addedUnits (pairs : List DependencyPair) : List String :=
  (pairs.filter fun pair => Crosses pair ∧ pair.2.2 ∉ taken).map fun pair => pair.2.2

def addedNode (u : String) : RuntimeMapNode := systemdRuntimeNode secondsSince u none none

theorem readDependencies_eq (details : List SystemdUnitDetails) (nodes : List RuntimeMapNode) :
    readDependencies secondsSince taken details nodes = (allDependencyPairs details).foldl
      (fun reading pair => reading.pair secondsSince taken pair.1 pair.2) ⟨∅, nodes⟩ := by
  rw [readDependencies, allDependencyPairs, List.foldl_flatMap]
  refine congrArg (fun f => List.foldl f _ details) ?_
  funext reading detail
  rw [List.foldl_map]

variable {secondsSince taken}

theorem nodes_pair (reading : DependencyReading) (pair : DependencyPair) :
    (reading.pair secondsSince taken pair.1 pair.2).nodes =
      reading.nodes ++ (addedUnits taken [pair]).map (addedNode secondsSince) := by
  unfold DependencyReading.pair addedUnits Crosses
  by_cases hsame : systemdNodeId pair.1.id = systemdNodeId pair.2.2
  · simp [hsame]
  · by_cases htaken : pair.2.2 ∈ taken
    · simp [hsame, htaken]
    · simp [hsame, htaken, addedNode]

theorem mem_dependencies_pair {reading : DependencyReading} {pair : DependencyPair}
    {dependency : SystemdDependency} :
    dependency ∈ (reading.pair secondsSince taken pair.1 pair.2).dependencies.toList ↔
      dependency ∈ reading.dependencies.toList ∨ Crosses pair ∧ dependency = dependencyOf pair := by
  unfold DependencyReading.pair Crosses
  by_cases hsame : systemdNodeId pair.1.id = systemdNodeId pair.2.2
  · simp [hsame]
  · simp only [hsame, if_false, SortedSet.mem_toList_add, ne_eq, not_false_eq_true, true_and]
    exact or_comm

theorem nodes_foldl (pairs : List DependencyPair) (reading : DependencyReading) :
    (pairs.foldl (fun reading pair => reading.pair secondsSince taken pair.1 pair.2)
      reading).nodes =
        reading.nodes ++ (addedUnits taken pairs).map (addedNode secondsSince) := by
  induction pairs generalizing reading with
  | nil => simp [addedUnits]
  | cons pair pairs ih =>
    have hsplit : addedUnits taken (pair :: pairs) =
        addedUnits taken [pair] ++ addedUnits taken pairs := by
      simp only [addedUnits, ← List.map_append, ← List.filter_append, List.singleton_append]
    rw [List.foldl_cons, ih, nodes_pair, hsplit, List.map_append, List.append_assoc]

theorem mem_dependencies_foldl {pairs : List DependencyPair} {reading : DependencyReading}
    {dependency : SystemdDependency} :
    dependency ∈ (pairs.foldl (fun reading pair =>
        reading.pair secondsSince taken pair.1 pair.2) reading).dependencies.toList ↔
      dependency ∈ reading.dependencies.toList ∨
        ∃ pair ∈ pairs, Crosses pair ∧ dependency = dependencyOf pair := by
  induction pairs generalizing reading with
  | nil => simp
  | cons pair pairs ih =>
    rw [List.foldl_cons, ih, mem_dependencies_pair, List.exists_mem_cons_iff, or_assoc]

end

/-! The condition -/

/-- What decides about the units that were not taken from the listing: no two dependencies of
other units lead to one of them, and one does where the unit is listed, named or depends on
another. -/
structure NeededOnce (listed taken : List String) (records : List SystemdUnitDetails) : Prop where
  single : ∀ u ∉ taken, (dependents (shownDetails records) u).length ≤ 1
  present : ∀ u ∉ taken, u ∈ listed ∨ u ∈ namedUnits records ∨
    DependsOnAnother (shownDetails records) u → dependents (shownDetails records) u ≠ []

section

variable {listed taken : List String} {records : List SystemdUnitDetails}

/-- No two mentioned units share an identifier. -/
def KeepsApart (units : List String) : Prop :=
  ∀ u ∈ units, ∀ v ∈ units, systemdNodeId u = systemdNodeId v → u = v

theorem systemdNodeId_plain {u : String} (h : redactSensitiveText u ≠ redactedValue) :
    systemdNodeId u = "systemd_service_" ++ collisionResistantIdComponent u :=
  congrArg ("systemd_service_" ++ ·) (if_neg h)

/-- Units whose readable parts differ are kept apart, whatever the digest does. -/
theorem keepsApart_of_slugs {units : List String}
    (hplain : ∀ u ∈ units, redactSensitiveText u ≠ redactedValue)
    (hslug : ∀ u ∈ units, ∀ v ∈ units, readableSlug u = readableSlug v → u = v) :
    KeepsApart units := by
  intro u hu v hv hid
  refine hslug u hu v hv ?_
  rw [systemdNodeId_plain (hplain u hu), systemdNodeId_plain (hplain v hv)] at hid
  have hlist := congrArg String.toList hid
  rw [toList_append_component, toList_append_component] at hlist
  have hfront := List.append_inj_left' hlist (by rw [Sha256.length_hex, Sha256.length_hex])
  exact List.append_cancel_left (List.append_cancel_right hfront)

def inventoryUnits (taken : List String) (records : List SystemdUnitDetails) : List String :=
  taken ++ addedUnits taken (allDependencyPairs (shownDetails records))

theorem source_mentioned {pair : DependencyPair}
    (h : pair ∈ allDependencyPairs (shownDetails records)) :
    pair.1.id ∈ mentionedUnits listed records :=
  List.mem_append_right _
    (List.mem_map_of_mem (mem_records_of_shown (mem_details_of_mem_pairs h)))

theorem target_named {pair : DependencyPair}
    (h : pair ∈ allDependencyPairs (shownDetails records)) : pair.2.2 ∈ namedUnits records :=
  mem_namedUnits.2
    ⟨pair, allDependencyPairs_mono (fun _ => mem_records_of_shown) pair h, rfl⟩

theorem named_mentioned {u : String} (h : u ∈ namedUnits records) :
    u ∈ mentionedUnits listed records :=
  List.mem_append_left _ (List.mem_append_right _ h)

theorem listed_mentioned {u : String} (h : u ∈ listed) : u ∈ mentionedUnits listed records :=
  List.mem_append_left _ (List.mem_append_left _ h)

theorem inventory_mentioned (hsub : ∀ u ∈ taken, u ∈ listed) :
    ∀ u ∈ inventoryUnits taken records, u ∈ mentionedUnits listed records := by
  intro u hu
  rcases List.mem_append.1 hu with hu | hu
  · exact listed_mentioned (hsub u hu)
  · obtain ⟨pair, hpair, rfl⟩ := List.mem_map.1 hu
    exact named_mentioned (target_named (List.mem_of_mem_filter hpair))

variable (hid : KeepsApart (mentionedUnits listed records))

include hid

theorem crosses_iff {pair : DependencyPair}
    (h : pair ∈ allDependencyPairs (shownDetails records)) :
    Crosses pair ↔ pair.1.id ≠ pair.2.2 := by
  refine not_congr ⟨fun heq => ?_, fun heq => congrArg systemdNodeId heq⟩
  exact hid _ (source_mentioned h) _ (named_mentioned (target_named h)) heq

theorem count_addedUnits {u : String} (hu : u ∉ taken) :
    (addedUnits taken (allDependencyPairs (shownDetails records))).count u =
      (dependents (shownDetails records) u).length := by
  rw [addedUnits, dependents, List.length_map, List.count, List.countP_map, List.countP_filter,
    ← List.countP_eq_length_filter]
  refine List.countP_congr fun pair hpair => ?_
  have hcross := crosses_iff hid hpair
  simp only [Function.comp_apply, Bool.and_eq_true, beq_iff_eq, decide_eq_true_eq]
  constructor
  · rintro ⟨rfl, hpairs, -⟩
    exact ⟨rfl, hcross.1 hpairs⟩
  · rintro ⟨rfl, hne⟩
    exact ⟨rfl, hcross.2 hne, hu⟩

theorem mem_inventoryUnits {u : String} :
    u ∈ inventoryUnits taken records ↔
      u ∈ taken ∨ dependents (shownDetails records) u ≠ [] := by
  rw [inventoryUnits, List.mem_append]
  by_cases hu : u ∈ taken
  · exact iff_of_true (.inl hu) (.inl hu)
  · rw [← List.count_pos_iff (a := u) (l := addedUnits taken _), count_addedUnits hid hu,
      List.length_pos_iff]

theorem nodup_inventoryUnits (htaken : taken.Nodup) :
    (inventoryUnits taken records).Nodup ↔
      ∀ u ∉ taken, (dependents (shownDetails records) u).length ≤ 1 := by
  rw [List.nodup_iff_count_le_one]
  refine forall_congr' fun u => ?_
  rw [inventoryUnits, List.count_append]
  by_cases hu : u ∈ taken
  · have hadded : (addedUnits taken (allDependencyPairs (shownDetails records))).count u = 0 := by
      refine List.count_eq_zero_of_not_mem fun hmem => ?_
      obtain ⟨pair, hpair, rfl⟩ := List.mem_map.1 hmem
      exact (of_decide_eq_true (List.mem_filter.1 hpair).2).2 hu
    rw [hadded, htaken.count, if_pos hu]
    exact iff_of_true le_rfl fun hnot => absurd hu hnot
  · rw [List.count_eq_zero_of_not_mem hu, count_addedUnits hid hu, zero_add]
    exact ⟨fun h _ => h, fun h => h hu⟩

end

/-! The pass -/

section

variable {secondsSince : ℕ → Option ℕ} {summaries : List SystemdUnitSummary}
  {records : List SystemdUnitDetails} {diagnostics : List RuntimeMapDiagnostic}

/-- The pass over the units taken and the records shown of them. -/
def passOf (secondsSince : ℕ → Option ℕ) (summaries : List SystemdUnitSummary)
    (records : List SystemdUnitDetails) (diagnostics : List RuntimeMapDiagnostic) : SystemdPass :=
  systemdTopology secondsSince summaries (detailsByUnit records) diagnostics

theorem ids_pass : (passOf secondsSince summaries records diagnostics).nodes.map RuntimeMapNode.id =
    (inventoryUnits (summaries.map SystemdUnitSummary.unit) records).map systemdNodeId := by
  unfold passOf systemdTopology inventoryUnits
  simp only
  rw [readDependencies_eq, nodes_foldl, List.map_append, List.map_append]
  simp only [List.map_map]
  rfl

theorem systemdEdge_injective : Function.Injective systemdEdge := by
  intro a b h
  have hsource : a.1 = b.1 := congrArg RuntimeMapEdge.source h
  have htarget : a.2.1 = b.2.1 := congrArg RuntimeMapEdge.target h
  have hkind : a.2.2 = b.2.2 :=
    SystemdDependencyKind.relationship_injective (congrArg RuntimeMapEdge.relationship h)
  exact Prod.ext hsource (Prod.ext htarget hkind)

theorem nodup_edges : (passOf secondsSince summaries records diagnostics).edges.Nodup :=
  List.Nodup.map systemdEdge_injective
    ((SortedSet.pairwise_toList _).imp fun h => ne_of_lt h)

theorem mem_edges {edge : RuntimeMapEdge} :
    edge ∈ (passOf secondsSince summaries records diagnostics).edges ↔
      ∃ pair ∈ allDependencyPairs (shownDetails records), Crosses pair ∧
        edge = systemdEdge (dependencyOf pair) := by
  unfold passOf systemdTopology
  simp only [List.mem_map]
  rw [readDependencies_eq]
  simp only [mem_dependencies_foldl, SortedSet.toList_empty, List.not_mem_nil, false_or]
  constructor
  · rintro ⟨dependency, ⟨pair, hpair, hcross, rfl⟩, rfl⟩
    exact ⟨pair, hpair, hcross, rfl⟩
  · rintro ⟨pair, hpair, hcross, rfl⟩
    exact ⟨_, ⟨pair, hpair, hcross, rfl⟩, rfl⟩

variable {listed : List String}

theorem uniqueInventory_iff (hid : KeepsApart (mentionedUnits listed records))
    (hsub : ∀ u ∈ summaries.map SystemdUnitSummary.unit, u ∈ listed)
    (htaken : (summaries.map SystemdUnitSummary.unit).Nodup) :
    UniqueInventory listed records (passOf secondsSince summaries records diagnostics) ↔
      NeededOnce listed (summaries.map SystemdUnitSummary.unit) records := by
  have hmentioned : ∀ u ∈ inventoryUnits (summaries.map SystemdUnitSummary.unit) records,
      u ∈ mentionedUnits listed records := inventory_mentioned hsub
  have hinj : ∀ u ∈ mentionedUnits listed records,
      systemdNodeId u ∈ (inventoryUnits (summaries.map SystemdUnitSummary.unit) records).map
        systemdNodeId ↔ u ∈ inventoryUnits (summaries.map SystemdUnitSummary.unit) records := by
    intro u hu
    rw [List.mem_map]
    constructor
    · rintro ⟨v, hv, heq⟩
      rwa [← hid v (hmentioned v hv) u hu heq]
    · exact fun hmem => ⟨u, hmem, rfl⟩
  constructor
  · rintro ⟨hdistinct, hunit, hendpoints, -⟩
    rw [ids_pass] at hdistinct hunit hendpoints
    refine ⟨(nodup_inventoryUnits hid htaken).1 (List.Nodup.of_map _ hdistinct), ?_⟩
    intro u hu hneeded
    have hmem : u ∈ inventoryUnits (summaries.map SystemdUnitSummary.unit) records := by
      rcases hneeded with hlisted | hnamed | ⟨pair, hpair, rfl, hother⟩
      · refine (hinj u (listed_mentioned hlisted)).1 (List.count_pos_iff.1 ?_)
        rw [hunit u (.inl hlisted)]
        exact Nat.one_pos
      · refine (hinj u (named_mentioned hnamed)).1 (List.count_pos_iff.1 ?_)
        rw [hunit u (.inr hnamed)]
        exact Nat.one_pos
      · have hcross := (crosses_iff hid hpair).2 hother.symm
        have hsource := (hendpoints _ (mem_edges.2 ⟨pair, hpair, hcross, rfl⟩)).1
        exact (hinj _ (source_mentioned hpair)).1 hsource
    exact ((mem_inventoryUnits hid).1 hmem).resolve_left hu
  · rintro ⟨hsingle, hpresent⟩
    have hnodup : ((inventoryUnits (summaries.map SystemdUnitSummary.unit) records).map
        systemdNodeId).Nodup :=
      List.Nodup.map_on (fun u hu v hv => hid u (hmentioned u hu) v (hmentioned v hv))
        ((nodup_inventoryUnits hid htaken).2 hsingle)
    have hmem : ∀ u, u ∈ listed ∨ u ∈ namedUnits records ∨
        DependsOnAnother (shownDetails records) u →
          u ∈ inventoryUnits (summaries.map SystemdUnitSummary.unit) records := by
      intro u hneeded
      rw [mem_inventoryUnits hid]
      by_cases hu : u ∈ summaries.map SystemdUnitSummary.unit
      · exact .inl hu
      · exact .inr (hpresent u hu hneeded)
    refine ⟨?_, ?_, ?_, nodup_edges⟩
    · rw [ids_pass]
      exact hnodup
    · intro u hu
      rw [ids_pass]
      refine List.count_eq_one_of_mem hnodup (List.mem_map_of_mem (hmem u ?_))
      exact hu.imp_right .inl
    · intro edge hedge
      obtain ⟨pair, hpair, hcross, rfl⟩ := mem_edges.1 hedge
      rw [ids_pass]
      have hother := (crosses_iff hid hpair).1 hcross
      exact ⟨List.mem_map_of_mem (hmem _ (.inr (.inr ⟨pair, hpair, rfl, hother.symm⟩))),
        List.mem_map_of_mem (hmem _ (.inr (.inl (target_named hpair))))⟩

end

/-! The collector -/

theorem collect_answering (secondsSince : ℕ → Option ℕ) (listOutput showOutput : List Char) :
    ∃ diagnostics, collectSystemdServicesWithRunner secondsSince
        (answering listOutput showOutput) =
      passOf secondsSince ((parseSystemdListUnits listOutput).take maxSystemdUnits)
        (shownRecords listOutput showOutput) diagnostics := by
  unfold collectSystemdServicesWithRunner answering shownRecords passOf
  simp only [if_true]
  by_cases hnone : parseSystemdListUnits listOutput = []
  · exact ⟨_, by rw [hnone]; rfl⟩
  · have htake : (parseSystemdListUnits listOutput).take maxSystemdUnits ≠ [] := by
      rw [Ne, List.take_eq_nil_iff, not_or]
      exact ⟨by decide, hnone⟩
    rw [if_neg htake, if_neg hnone]
    exact ⟨_, rfl⟩

/-- A host's systemd inventory has one node a unit exactly when each unit that was not taken
from the listing is needed once. -/
theorem systemdServices_unique_iff (secondsSince : ℕ → Option ℕ)
    (listOutput showOutput : List Char) (hlisted : (listedUnits listOutput).Nodup)
    (hid : KeepsApart (mentionedUnits (listedUnits listOutput)
      (shownRecords listOutput showOutput))) :
    UniqueInventory (listedUnits listOutput) (shownRecords listOutput showOutput)
        (collectSystemdServicesWithRunner secondsSince (answering listOutput showOutput)) ↔
      NeededOnce (listedUnits listOutput) (takenUnits listOutput)
        (shownRecords listOutput showOutput) := by
  obtain ⟨diagnostics, hpass⟩ := collect_answering secondsSince listOutput showOutput
  have htaken : takenUnits listOutput =
      ((parseSystemdListUnits listOutput).take maxSystemdUnits).map SystemdUnitSummary.unit := by
    rw [takenUnits, listedUnits, List.map_take]
  rw [hpass, htaken]
  refine uniqueInventory_iff hid ?_ ?_
  · rw [← htaken]
    exact fun u hu => List.mem_of_mem_take hu
  · rw [← htaken]
    exact hlisted.sublist (List.take_sublist _ _)

def oneServiceListed : List Char := "a.service loaded active running\n".toList

def oneServiceShown : List Char := "Id=a.service\nWants=b.service\n".toList

theorem listed_oneService : listedUnits oneServiceListed = ["a.service"] := by decide +kernel

theorem mentioned_oneService : mentionedUnits (listedUnits oneServiceListed)
    (shownRecords oneServiceListed oneServiceShown) = ["a.service", "b.service", "a.service"] := by
  rw [listed_oneService]
  decide +kernel

theorem systemdServices_unique_iff_applied :
    (listedUnits oneServiceListed).Nodup ∧
      (UniqueInventory (listedUnits oneServiceListed)
          (shownRecords oneServiceListed oneServiceShown)
          (collectSystemdServicesWithRunner some (answering oneServiceListed oneServiceShown)) ↔
        NeededOnce (listedUnits oneServiceListed) (takenUnits oneServiceListed)
          (shownRecords oneServiceListed oneServiceShown)) := by
  have hlisted : (listedUnits oneServiceListed).Nodup := by
    rw [listed_oneService]
    decide
  exact ⟨hlisted, systemdServices_unique_iff some oneServiceListed oneServiceShown hlisted
    (mentioned_oneService ▸ keepsApart_of_slugs (by decide +kernel) (by decide))⟩

def twoServicesListed : List Char :=
  "a.service loaded active running\nb.service loaded active running\n".toList

/-- Both services want a unit that is not listed. -/
def twoServicesShown : List Char :=
  "Id=a.service\nWants=c.service\n\nId=b.service\nWants=c.service\n".toList

theorem listed_twoServices : listedUnits twoServicesListed = ["a.service", "b.service"] := by
  decide +kernel

theorem mentioned_twoServices : mentionedUnits (listedUnits twoServicesListed)
    (shownRecords twoServicesListed twoServicesShown) =
      ["a.service", "b.service", "c.service", "c.service", "a.service", "b.service"] := by
  rw [listed_twoServices]
  decide +kernel

theorem shared_dependency_pushed_twice :
    ¬ ∀ (secondsSince : ℕ → Option ℕ) (listOutput showOutput : List Char),
      (listedUnits listOutput).Nodup →
      KeepsApart (mentionedUnits (listedUnits listOutput) (shownRecords listOutput showOutput)) →
      UniqueInventory (listedUnits listOutput) (shownRecords listOutput showOutput)
        (collectSystemdServicesWithRunner secondsSince (answering listOutput showOutput)) := by
  intro h
  have hid : KeepsApart (mentionedUnits (listedUnits twoServicesListed)
      (shownRecords twoServicesListed twoServicesShown)) :=
    mentioned_twoServices ▸ keepsApart_of_slugs (by decide +kernel) (by decide)
  have hlisted : (listedUnits twoServicesListed).Nodup := by
    rw [listed_twoServices]
    decide
  have hunique := h some twoServicesListed twoServicesShown hlisted hid
  obtain ⟨diagnostics, hpass⟩ := collect_answering some twoServicesListed twoServicesShown
  have hneeded := (uniqueInventory_iff hid (by decide +kernel) (by decide +kernel)).1
    (hpass ▸ hunique)
  exact absurd (hneeded.single "c.service" (by decide +kernel)) (by decide +kernel)

end DockerMap
