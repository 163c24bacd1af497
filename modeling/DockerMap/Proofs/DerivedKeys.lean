import DockerMap.Proofs.AtlasAttachments

/-! The keys that a projection derives are numbered under a kind of their own. They are different
from each other, and meet a routable key only where a node is published under one of them. -/

namespace DockerMap.Web.Atlas

open JavaScript (codeUnits)
open StableSort (sortBy)

/-! Derived keys -/

theorem toList_derivedKey (kind : String) (ordinal : ℕ) :
    (derivedKey kind ordinal).toList =
      "atlas:".toList ++ (kind.toList ++ ':' :: Nat.toDigits 10 ordinal) := by
  have hcolon : ":".toList = [':'] := by decide
  rw [derivedKey, String.toList_append, String.toList_append, String.toList_append,
    String.toList_ofList (l := Nat.toDigits 10 ordinal), hcolon, List.append_assoc,
    List.append_assoc]
  rfl

theorem derivedKey_inj {kind kind' : String} {n n' : ℕ} (hkind : ':' ∉ kind.toList)
    (h : derivedKey kind n = derivedKey kind' n') : kind = kind' ∧ n = n' := by
  have hlist := congrArg String.toList h
  rw [toList_derivedKey, toList_derivedKey, List.append_cancel_left_eq,
    List.append_cons_inj_of_notMem hkind (Text.not_mem_toDigits (by decide) n)] at hlist
  exact ⟨String.toList_inj.1 hlist.1, Text.toDigits_injective hlist.2.2⟩

/-- The kinds of derived keys. -/
def derivedKinds : List String := ["collision", "unsupported", "lane", "attachment-aggregate"]

theorem derivedKey_inj_of_mem {kind kind' : String} {n n' : ℕ} (hkind : kind ∈ derivedKinds)
    (h : derivedKey kind n = derivedKey kind' n') : kind = kind' ∧ n = n' := by
  have hplain : ∀ kind ∈ derivedKinds, ':' ∉ kind.toList := by decide
  exact derivedKey_inj (hplain kind hkind) h

/-! Diagnostics -/

/-- The node of an entry that is a route target. -/
def routableNode (entry : String × List Json) : Option (Json × RuntimeNodeKind) :=
  match entry.2 with
  | [node] => (runtimeKind (node.field? "type")).map fun kind => (node, kind)
  | _ => none

/-- The kinds of the diagnostics of an entry. -/
def diagnosticKinds (entry : String × List Json) : List String :=
  match entry.2 with
  | [node] => if (runtimeKind (node.field? "type")).isSome then [] else ["unsupported"]
  | records => List.replicate records.length "collision"

theorem diagnosticKinds_subset (entry : String × List Json) :
    diagnosticKinds entry ⊆ ["collision", "unsupported"] := by
  obtain ⟨key, records⟩ := entry
  intro kind hkind
  rcases records with _ | ⟨node, _ | ⟨second, rest⟩⟩
  · cases hkind
  · rw [diagnosticKinds] at hkind
    dsimp only at hkind
    split_ifs at hkind
    · cases hkind
    · rw [List.mem_singleton.1 hkind]
      decide
  · rw [List.eq_of_mem_replicate hkind]
    decide

/-- The text that the subjects of a lane share. -/
def laneText (provider : Option Json) (role : AtlasRole) : String :=
  "lane:" ++ JavaScript.propertyText provider ++ ":" ++ role.wireName

def subjectLane (subject : AtlasSubject) : Option String :=
  match subject.source with
  | .runtimeNode provider _ _ => some (laneText provider subject.role)
  | .projection _ => none

def nodeLane (node : Json × RuntimeNodeKind) : String :=
  laneText (node.1.field? "provider") (roleForKind node.2)

/-- The keys of the subjects that are no route target. -/
def diagnosticKeys (subjects : List AtlasSubject) : List String :=
  (subjects.filter fun subject => !subject.routable).map AtlasSubject.key

section

variable {unicode : UnicodeTables} {freshness : InsertionMap ProviderSlot AtlasFreshness}
  {attention : InsertionMap String AtlasAttention}

/-- What an entry adds to a table. -/
structure Adds (table next : SubjectTable) (entry : String × List Json)
    (added : List AtlasSubject) : Prop where
  subjects : next.subjects = table.subjects ++ added
  ordinal : next.nonRoutableOrdinal = table.nonRoutableOrdinal + (diagnosticKinds entry).length
  diagnostics : diagnosticKeys added = (diagnosticKinds entry).mapIdx fun index kind =>
    derivedKey kind (index + table.nonRoutableOrdinal)
  lanes : added.filterMap subjectLane = ((routableNode entry).map nodeLane).toList

theorem collisionKeys (ordinal count : ℕ) :
    diagnosticKeys ((List.range' ordinal count).map collisionSubject) =
      (List.replicate count "collision").mapIdx fun index kind =>
        derivedKey kind (index + ordinal) := by
  have hall : ((List.range' ordinal count).map collisionSubject).filter
      (fun subject => !subject.routable) = (List.range' ordinal count).map collisionSubject := by
    refine List.filter_eq_self.2 fun subject hsubject => ?_
    obtain ⟨n, -, rfl⟩ := List.mem_map.1 hsubject
    rfl
  rw [diagnosticKeys, hall, List.map_map]
  refine List.ext_getElem (by simp) fun index hindex hindex' => ?_
  simp only [List.getElem_map, List.getElem_range', List.getElem_mapIdx, List.getElem_replicate,
    Function.comp_apply, Nat.one_mul, Nat.add_comm ordinal]
  rfl

theorem adds_addSubject (table : SubjectTable) (entry : String × List Json) :
    ∃ added, Adds table (addSubject unicode freshness attention table entry) entry added := by
  obtain ⟨key, records⟩ := entry
  have hlanes (count : ℕ) :
      ((List.range' table.nonRoutableOrdinal count).map collisionSubject).filterMap subjectLane =
        [] := by
    rw [List.filterMap_map, List.filterMap_eq_nil_iff]
    exact fun n _ => rfl
  rcases records with _ | ⟨node, _ | ⟨second, rest⟩⟩
  · exact ⟨[], rfl, rfl, rfl, rfl⟩
  · cases hkind : runtimeKind (node.field? "type") with
    | none =>
      refine ⟨[unsupportedSubject table.nonRoutableOrdinal], ?_, ?_, ?_, ?_⟩
      · simp only [addSubject, hkind]
      · simp only [addSubject, diagnosticKinds, hkind]
        rfl
      · simp only [diagnosticKinds, hkind, diagnosticKeys]
        simp [unsupportedSubject, nonRoutableSubject, AtlasSubject.routable,
          AtlasSubjectSource.isRuntimeNode]
      · simp only [routableNode, hkind]
        rfl
    | some kind =>
      refine ⟨[routableSubject unicode freshness attention key node kind], ?_, ?_, ?_, ?_⟩
      · simp only [addSubject, hkind]
      · simp only [addSubject, diagnosticKinds, hkind]
        rfl
      · simp only [diagnosticKinds, hkind]
        rfl
      · simp only [routableNode, hkind]
        rfl
  · exact ⟨_, rfl, by simp [addSubject, diagnosticKinds], collisionKeys .., hlanes _⟩

/-- What the entries make of a table. -/
theorem foldl_addSubject (entries : List (String × List Json))
    (diagnostics : List AtlasDiagnosticKind) :
    (entries.foldl (addSubject unicode freshness attention) { diagnostics }).nonRoutableOrdinal =
        (entries.flatMap diagnosticKinds).length ∧
      diagnosticKeys
          (entries.foldl (addSubject unicode freshness attention) { diagnostics }).subjects =
        (entries.flatMap diagnosticKinds).mapIdx (fun ordinal kind => derivedKey kind ordinal) ∧
      (entries.foldl (addSubject unicode freshness attention)
          { diagnostics }).subjects.filterMap subjectLane =
        (entries.filterMap routableNode).map nodeLane := by
  induction entries using List.reverseRecOn with
  | nil => exact ⟨rfl, rfl, rfl⟩
  | append_singleton entries entry ih =>
    obtain ⟨hordinal, hkeys, hlanes⟩ := ih
    rw [List.foldl_append, List.foldl_cons, List.foldl_nil]
    obtain ⟨added, hadds⟩ := @adds_addSubject unicode freshness attention
      (entries.foldl (addSubject unicode freshness attention) { diagnostics }) entry
    have hnext := hadds.diagnostics
    rw [diagnosticKeys] at hkeys hnext
    rw [hordinal] at hnext
    refine ⟨?_, ?_, ?_⟩
    · rw [hadds.ordinal, hordinal, List.flatMap_append, List.length_append, List.flatMap_singleton]
    · rw [diagnosticKeys, hadds.subjects, List.filter_append, List.map_append, hkeys, hnext,
        List.flatMap_append, List.flatMap_singleton, List.mapIdx_append]
    · rw [hadds.subjects, List.filterMap_append, hlanes, hadds.lanes, List.filterMap_append,
        List.map_append]
      cases hnode : routableNode entry with
      | none => rw [List.filterMap_cons_none hnode]; rfl
      | some node => rw [List.filterMap_cons_some hnode]; rfl

end

/-! Lanes -/

theorem mem_lanes (subjects : List AtlasSubject) (lanes : InsertionMap String (List String))
    (lane : String) :
    lane ∈ (subjects.foldl addToLane lanes).entries.map Prod.fst ↔
      lane ∈ lanes.entries.map Prod.fst ∨ lane ∈ subjects.filterMap subjectLane := by
  induction subjects generalizing lanes with
  | nil => simp
  | cons subject subjects ih =>
    rw [List.foldl_cons, ih, addToLane, List.filterMap_cons, subjectLane]
    cases subject.source with
    | projection rule => rfl
    | runtimeNode provider id kind =>
      dsimp only
      rw [InsertionMap.mem_keys_iff, InsertionMap.push, InsertionMap.get?_set,
        InsertionMap.mem_keys_iff, List.mem_cons]
      split_ifs with hlane
      · rw [hlane]
        exact iff_of_true (Or.inl (Option.some_ne_none _)) (Or.inr (Or.inl rfl))
      · exact or_congr_right (or_iff_right hlane).symm

/-- A lane for each text, numbered from zero. -/
theorem keys_lanesOf (subjects : List AtlasSubject) :
    (lanesOf subjects).map AtlasLane.key =
      (List.range (subjects.filterMap subjectLane).dedup.length).map (derivedKey "lane") := by
  have hperm : ((subjects.foldl addToLane ∅).entries.map Prod.fst).Perm
      (subjects.filterMap subjectLane).dedup := by
    refine (List.perm_ext_iff_of_nodup (InsertionMap.nodup _) (List.nodup_dedup _)).2
      fun lane => ?_
    rw [mem_lanes, List.mem_dedup]
    exact or_iff_right (by simp [InsertionMap.mem_keys_iff, InsertionMap.get?_empty])
  have hlength := hperm.length_eq
  rw [List.length_map] at hlength
  refine List.ext_getElem (by simp [lanesOf, StableSort.length_sortBy, hlength])
    fun index hindex hindex' => ?_
  simp only [lanesOf, List.getElem_map, List.getElem_mapIdx, List.getElem_range]

/-! Aggregates -/

theorem length_foldl_addAggregate (edges : EdgeTable) (entries : List (String × ℕ)) :
    (entries.foldl (addAggregate edges) []).length = entries.countP fun entry =>
      highDegreeThreshold < entry.2 ∧ coverageOf edges entry.1 ≠ [] := by
  induction entries using List.reverseRecOn with
  | nil => rfl
  | append_singleton entries entry ih =>
    rw [List.foldl_append, List.foldl_cons, List.foldl_nil, List.countP_append,
      List.countP_singleton, ← ih]
    obtain ⟨found, hfound, heq⟩ | ⟨hskip, heq⟩ :=
      addAggregate_cases edges (entries.foldl (addAggregate edges) []) entry
    · rw [heq, List.length_append, List.length_singleton,
        if_pos (decide_eq_true ⟨hfound.degree, hfound.covered⟩)]
    · rw [heq, if_neg, Nat.add_zero]
      rw [decide_eq_true_eq]
      rintro ⟨hdegree, hcovered⟩
      exact hskip.elim (not_le.2 hdegree) hcovered

section

variable (unicode : UnicodeTables) (input : AtlasRuntimeMapInput)
  (findings : Option FindingsOverlay)

/-- The subjects that more than six attachments are of. -/
def crowdedSubjects : List String :=
  ((attachmentsOf (outcomes unicode input findings)).map AtlasAttachment.subject).dedup.filter
    fun key => highDegreeThreshold <
      (attachmentsFrom (attachmentsOf (outcomes unicode input findings)) key).length

theorem mem_attachmentsFrom_ne_nil {attachments : List AtlasAttachment} {key : String} :
    attachmentsFrom attachments key ≠ [] ↔ key ∈ attachments.map AtlasAttachment.subject := by
  rw [attachmentsFrom, ne_eq, List.filter_eq_nil_iff, List.mem_map]
  simp only [decide_eq_true_eq]
  push Not
  rfl

theorem length_aggregates_eq : (projectRuntimeMap unicode input findings).aggregates.length =
    (crowdedSubjects unicode input findings).length := by
  have hget := get?_population unicode input findings
  have hkeys : ((projectedTable unicode input findings).attachmentPopulation.entries.map
      Prod.fst).Perm
        ((attachmentsOf (outcomes unicode input findings)).map AtlasAttachment.subject).dedup := by
    refine (List.perm_ext_iff_of_nodup (InsertionMap.nodup _) (List.nodup_dedup _)).2 fun key => ?_
    rw [InsertionMap.mem_keys_iff, hget, List.mem_dedup, ← mem_attachmentsFrom_ne_nil]
    dsimp only
    split_ifs with hnil
    · exact iff_of_false (fun h => h rfl) (not_not.2 hnil)
    · exact iff_of_true (Option.some_ne_none _) hnil
  have hcount : ∀ entry ∈ (projectedTable unicode input findings).attachmentPopulation.entries,
      decide (highDegreeThreshold < entry.2 ∧
        coverageOf (projectedTable unicode input findings) entry.1 ≠ []) =
      decide (highDegreeThreshold <
        (attachmentsFrom (attachmentsOf (outcomes unicode input findings)) entry.1).length) := by
    intro entry hentry
    have hentry := InsertionMap.get?_eq_some_iff.2 hentry
    rw [hget] at hentry
    dsimp only at hentry
    split_ifs at hentry with hnil
    rw [Option.some.inj hentry, decide_eq_decide]
    exact and_iff_left (coverageOf_ne_nil unicode input findings hnil)
  rw [projectRuntimeMap_aggregates, aggregatesOf, length_foldl_addAggregate,
    (StableSort.sortBy_perm _ _).countP_eq, crowdedSubjects, ← List.countP_eq_length_filter,
    ← hkeys.countP_eq, List.countP_map]
  exact List.countP_congr fun entry hentry => by rw [hcount entry hentry]; rfl

/-! The keys of a model -/

/-- The keys that are derived, from the nodes and the edges of the input. -/
def derivedKeys : List String :=
  ((sortedRecords (projectedNodes unicode input)).flatMap diagnosticKinds).mapIdx
      (fun ordinal kind => derivedKey kind ordinal) ++
    ((List.range (((sortedRecords (projectedNodes unicode input)).filterMap routableNode).map
        nodeLane).dedup.length).map (derivedKey "lane") ++
      (List.range (crowdedSubjects unicode input findings).length).map
        (derivedKey "attachment-aggregate"))

/-- A key that one node of a known kind is published under. -/
def IsRoutingId (key : String) : Prop :=
  ∃ node kind, recordsOf (projectedNodes unicode input) key = [node] ∧
    runtimeKind (node.field? "type") = some kind

theorem mem_routableKeys {key : String} :
    key ∈ (projectRuntimeMap unicode input findings).routableKeys ↔
      IsRoutingId unicode input key := by
  rw [AtlasModel.routableKeys, projectRuntimeMap_subjects, List.mem_map]
  simp only [List.mem_filter, StableSort.mem_sortBy, mem_subjectTable]
  constructor
  · rintro ⟨subject, ⟨node, hrecords, found, kind, heq, hkind, -⟩, rfl⟩
    obtain rfl := (List.cons.inj heq).1
    exact ⟨node, kind, hrecords, hkind⟩
  · rintro ⟨node, kind, hrecords, hkind⟩
    exact ⟨routableSubject unicode (providerFreshnessBySlot input)
      (attentionBySubject input findings).attention key node kind,
      ⟨node, hrecords, node, kind, rfl, hkind, rfl⟩, rfl⟩

theorem diagnosticKeys_projectRuntimeMap :
    (diagnosticKeys (projectRuntimeMap unicode input findings).subjects).Perm
      (((sortedRecords (projectedNodes unicode input)).flatMap diagnosticKinds).mapIdx
        fun ordinal kind => derivedKey kind ordinal) := by
  rw [projectRuntimeMap_subjects, ← (foldl_addSubject _ _).2.1, ← subjectTable_eq]
  exact ((StableSort.sortBy_perm _ _).filter _).map _

theorem laneKeys_projectRuntimeMap :
    (projectRuntimeMap unicode input findings).lanes.map AtlasLane.key =
      (List.range (((sortedRecords (projectedNodes unicode input)).filterMap routableNode).map
        nodeLane).dedup.length).map (derivedKey "lane") := by
  have hlanes : (projectRuntimeMap unicode input findings).lanes =
      lanesOf (subjectTable unicode input findings).subjects := by
    rw [← capSubjects_subjectTable]
    rfl
  rw [hlanes, keys_lanesOf, subjectTable_eq, (foldl_addSubject _ _).2.2]

/-- Every subject has a key of its own, and no lane or aggregate has the key of a subject. -/
structure KeysUnique (model : AtlasModel) : Prop where
  subjects : (model.subjects.map AtlasSubject.key).Nodup
  lanes : ∀ lane ∈ model.lanes, lane.key ∉ model.subjects.map AtlasSubject.key
  aggregates : ∀ aggregate ∈ model.aggregates,
    aggregate.key ∉ model.subjects.map AtlasSubject.key

theorem subjectKeys_perm (model : AtlasModel) : (model.subjects.map AtlasSubject.key).Perm
    (model.routableKeys ++ diagnosticKeys model.subjects) := by
  rw [AtlasModel.routableKeys, diagnosticKeys, ← List.map_append]
  exact (List.filter_append_perm _ _).symm.map _

theorem nodup_numbered {kinds : List String} (h : kinds ⊆ derivedKinds) :
    (kinds.mapIdx fun ordinal kind => derivedKey kind ordinal).Nodup := by
  rw [List.nodup_iff_injective_get]
  intro i j heq
  have hi : (i : ℕ) < kinds.length := by simpa using i.isLt
  simp only [List.get_eq_getElem, List.getElem_mapIdx] at heq
  exact Fin.ext (derivedKey_inj_of_mem (h (List.getElem_mem hi)) heq).2

/-- Keys of one kind are different from the keys of others. -/
theorem not_mem_numbered {kinds : List String} (h : kinds ⊆ ["collision", "unsupported"])
    {kind : String} (hkind : kind ∈ ["lane", "attachment-aggregate"]) (n : ℕ) :
    derivedKey kind n ∉ kinds.mapIdx fun ordinal kind => derivedKey kind ordinal := by
  intro hmem
  have hderived : ["collision", "unsupported"] ⊆ derivedKinds := by decide
  have hapart : ∀ kind ∈ ["lane", "attachment-aggregate"], kind ∉ ["collision", "unsupported"] := by
    decide
  obtain ⟨index, hindex, heq⟩ := List.exists_of_mem_mapIdx hmem
  have hother := h (List.getElem_mem hindex)
  rw [(derivedKey_inj_of_mem (hderived hother) heq).1] at hother
  exact hapart kind hkind hother

/-- The keys are unique exactly when no node is a route target under a derived key. -/
theorem keysUnique_iff :
    KeysUnique (projectRuntimeMap unicode input findings) ↔
      ∀ key ∈ derivedKeys unicode input findings, ¬ IsRoutingId unicode input key := by
  have hkinds : (sortedRecords (projectedNodes unicode input)).flatMap diagnosticKinds ⊆
      ["collision", "unsupported"] := by
    intro kind hkind
    obtain ⟨entry, -, hentry⟩ := List.mem_flatMap.1 hkind
    exact diagnosticKinds_subset entry hentry
  have hderived : ["collision", "unsupported"] ⊆ derivedKinds := by decide
  have hsubjects := subjectKeys_perm (projectRuntimeMap unicode input findings)
  have hdiagnostics := diagnosticKeys_projectRuntimeMap unicode input findings
  have hroutable := nodup_routableKeys unicode input findings
  have hlanes := laneKeys_projectRuntimeMap unicode input findings
  have haggregates := aggregateKeys_projectRuntimeMap unicode input findings
  rw [aggregateKeys, length_aggregates_eq] at haggregates
  have hmem {key : String} : key ∈ (projectRuntimeMap unicode input findings).subjects.map
      AtlasSubject.key ↔ IsRoutingId unicode input key ∨
        key ∈ ((sortedRecords (projectedNodes unicode input)).flatMap diagnosticKinds).mapIdx
          fun ordinal kind => derivedKey kind ordinal := by
    rw [hsubjects.mem_iff, List.mem_append, mem_routableKeys, hdiagnostics.mem_iff]
  have hapart {kind : String} (hkind : kind ∈ ["lane", "attachment-aggregate"]) (n : ℕ) :
      derivedKey kind n ∉ (projectRuntimeMap unicode input findings).subjects.map
        AtlasSubject.key ↔ ¬ IsRoutingId unicode input (derivedKey kind n) := by
    rw [hmem, or_iff_left (not_mem_numbered hkinds hkind n)]
  have hnodup : ((projectRuntimeMap unicode input findings).subjects.map
      AtlasSubject.key).Nodup ↔
        ∀ key ∈ ((sortedRecords (projectedNodes unicode input)).flatMap diagnosticKinds).mapIdx
          (fun ordinal kind => derivedKey kind ordinal), ¬ IsRoutingId unicode input key := by
    have hnumbered := nodup_numbered fun kind hkind => hderived (hkinds hkind)
    rw [hsubjects.nodup_iff, List.nodup_append', and_iff_right hroutable,
      and_iff_right (hdiagnostics.nodup_iff.2 hnumbered), List.disjoint_comm]
    refine forall_congr' fun key => ?_
    rw [hdiagnostics.mem_iff, mem_routableKeys]
  have hlane : (∀ lane ∈ (projectRuntimeMap unicode input findings).lanes, lane.key ∉
      (projectRuntimeMap unicode input findings).subjects.map AtlasSubject.key) ↔
        ∀ key ∈ (List.range (((sortedRecords (projectedNodes unicode input)).filterMap
          routableNode).map nodeLane).dedup.length).map (derivedKey "lane"),
            ¬ IsRoutingId unicode input key := by
    rw [← List.forall_mem_map (f := AtlasLane.key) (P := fun key => key ∉
      (projectRuntimeMap unicode input findings).subjects.map AtlasSubject.key), hlanes,
      List.forall_mem_map, List.forall_mem_map]
    exact forall₂_congr fun n _ => hapart (by decide) n
  have haggregate : (∀ aggregate ∈ (projectRuntimeMap unicode input findings).aggregates,
      aggregate.key ∉ (projectRuntimeMap unicode input findings).subjects.map AtlasSubject.key) ↔
        ∀ key ∈ (List.range (crowdedSubjects unicode input findings).length).map
          (derivedKey "attachment-aggregate"), ¬ IsRoutingId unicode input key := by
    rw [← List.forall_mem_map (f := AtlasAggregate.key) (P := fun key => key ∉
      (projectRuntimeMap unicode input findings).subjects.map AtlasSubject.key), haggregates,
      List.forall_mem_map, List.forall_mem_map]
    exact forall₂_congr fun n _ => hapart (by decide) n
  rw [derivedKeys, List.forall_mem_append, List.forall_mem_append, ← hnodup, ← hlane, ← haggregate]
  exact ⟨fun h => ⟨h.subjects, h.lanes, h.aggregates⟩, fun h => ⟨h.1, h.2.1, h.2.2⟩⟩

end

/-! A container that is published under the key of a collision -/

def publishedCollision : AtlasRuntimeMapInput :=
  mapOf
    [nodeJson "atlas:collision:0" "docker" "container", nodeJson "dup" "docker" "container",
      nodeJson "dup" "docker" "container"] []

theorem collision_key_published :
    ¬ KeysUnique (projectRuntimeMap plainTables publishedCollision none) := by
  intro h
  have htwice : ¬ ((projectRuntimeMap plainTables publishedCollision none).subjects.map
      AtlasSubject.key).Nodup := by decide +kernel
  exact htwice h.subjects

end DockerMap.Web.Atlas
