import DockerMap.Daemon.DockerCollector
import DockerMap.Proofs.GraphEdges
import DockerMap.Proofs.Impact
import DockerMap.Web.PublishedModel

/-! The dependencies that the browser draws against those of the daemon, on one snapshot. The
daemon looks a reference up under each kind of alias, the browser in one index of all of them;
only the daemon drops the `container_` that its collector puts before a reference. -/

namespace DockerMap.Web

open Atlas (UnicodeTables)
open Reordering

/-! Aliases -/

section

variable {α : Type} {aliasesFor : α → List String} {valueFor : α → String} {records : List α}
  {name value : String}

variable (aliasesFor valueFor name) in
/-- The record is looked up under the name. -/
def owns (record : α) : Bool := decide (valueFor record ≠ "" ∧ name ∈ aliasesFor record)

theorem owns_iff {record : α} :
    owns aliasesFor valueFor name record = true ↔
      valueFor record ≠ "" ∧ name ∈ aliasesFor record := decide_eq_true_iff

theorem group_addOwner (hname : name ≠ "") {names : List String} (hnodup : names.Nodup)
    (owners : InsertionMap String (List ℕ)) (occurrence : ℕ) :
    (names.foldl (fun owners name =>
      if name = "" then owners else owners.push name occurrence) owners).group name =
        owners.group name ++ if name ∈ names then [occurrence] else [] := by
  induction names generalizing owners with
  | nil => exact (List.append_nil _).symm
  | cons other names ih =>
    obtain ⟨hnew, hnodup⟩ := List.nodup_cons.1 hnodup
    rw [List.foldl_cons, ih hnodup]
    by_cases hother : name = other
    · subst hother
      rw [if_neg hname, InsertionMap.group_push, if_pos rfl, if_neg hnew, List.append_nil,
        if_pos List.mem_cons_self]
    · have hmem : name ∈ other :: names ↔ name ∈ names := by
        rw [List.mem_cons, or_iff_right hother]
      rw [if_congr hmem rfl rfl]
      split_ifs
      · rfl
      · rfl
      · rw [InsertionMap.group_push, if_neg hother, List.append_nil]
      · rw [InsertionMap.group_push, if_neg hother, List.append_nil]

variable (aliasesFor valueFor records) in
theorem group_aliasOwners (hname : name ≠ "") :
    (aliasOwners aliasesFor valueFor records).group name =
      (records.zipIdx.filter fun record => owns aliasesFor valueFor name record.1).map
        Prod.snd := by
  rw [aliasOwners]
  generalize records.zipIdx = entries
  induction entries using List.reverseRecOn with
  | nil => rfl
  | append_singleton entries entry ih =>
    rw [List.foldl_append, List.foldl_cons, List.foldl_nil, List.filter_append, List.map_append,
      ← ih]
    by_cases howns : owns aliasesFor valueFor name entry.1 = true
    · obtain ⟨hvalue, hmem⟩ := owns_iff.1 howns
      rw [List.filter_eq_self.2 (by simpa using howns), if_neg hvalue,
        group_addOwner hname (List.nodup_dedup _), if_pos (List.mem_dedup.2 hmem)]
      rfl
    · rw [List.filter_eq_nil_iff.2 (by simpa using howns), List.map_nil, List.append_nil]
      split_ifs with hvalue
      · rfl
      · rw [group_addOwner hname (List.nodup_dedup _),
          if_neg fun hmem => howns (owns_iff.2 ⟨hvalue, List.mem_dedup.1 hmem⟩), List.append_nil]

variable (valueFor records) in
/-- The identity of the only owner of an alias. -/
def soleValue : List ℕ → Option String
  | [occurrence] => records[occurrence]?.bind fun record =>
      if isCollided (records.map valueFor) (valueFor record) then none
      else some (valueFor record)
  | _ => none

variable (aliasesFor valueFor records) in
theorem aliasIndex_eq :
    aliasIndex aliasesFor valueFor records =
      (aliasOwners aliasesFor valueFor records).entries.foldl (fun index entry =>
        (soleValue valueFor records entry.2).elim index (index.set entry.1)) ∅ := by
  unfold aliasIndex
  congr 1
  funext index entry
  obtain ⟨name, owners⟩ := entry
  match owners with
  | [] => rfl
  | [occurrence] =>
    dsimp only [soleValue]
    cases records[occurrence]? with
    | none => rfl
    | some record =>
      rw [Option.bind_some]
      dsimp only
      split_ifs
      · rfl
      · rfl
  | _ :: _ :: _ => rfl

theorem get?_aliasIndex (name : String) :
    (aliasIndex aliasesFor valueFor records).get? name =
      ((aliasOwners aliasesFor valueFor records).get? name).bind (soleValue valueFor records) := by
  have hnodup := (aliasOwners aliasesFor valueFor records).nodup
  rw [aliasIndex_eq, show (aliasOwners aliasesFor valueFor records).get? name =
    ((aliasOwners aliasesFor valueFor records).entries.find? fun entry => entry.1 = name).map
      Prod.snd from rfl]
  generalize (aliasOwners aliasesFor valueFor records).entries = entries at hnodup ⊢
  induction entries using List.reverseRecOn with
  | nil => rfl
  | append_singleton entries entry ih =>
    rw [List.map_append, List.map_singleton] at hnodup
    obtain ⟨hentries, -, hdisjoint⟩ := List.nodup_append.1 hnodup
    rw [List.foldl_append, List.foldl_cons, List.foldl_nil, List.find?_append,
      List.find?_singleton]
    specialize ih hentries
    by_cases hentry : entry.1 = name
    · have hfresh : entries.find? (fun entry => entry.1 = name) = none := by
        refine List.find?_eq_none.2 fun other hother heq => ?_
        exact hdisjoint _ (List.mem_map_of_mem hother) _ (List.mem_singleton_self entry.1)
          ((of_decide_eq_true heq).trans hentry.symm)
      rw [hfresh] at ih ⊢
      rw [Option.none_or, if_pos (decide_eq_true hentry)]
      cases hsole : soleValue valueFor records entry.2 with
      | none => exact ih.trans (by rw [Option.map_some, Option.bind_some, hsole]; rfl)
      | some value =>
        rw [Option.elim_some, InsertionMap.get?_set, if_pos hentry.symm, Option.map_some,
          Option.bind_some, hsole]
    · rw [if_neg (by simpa using hentry), Option.or_none, ← ih]
      cases soleValue valueFor records entry.2 with
      | none => rfl
      | some value => rw [Option.elim_some, InsertionMap.get?_set, if_neg (Ne.symm hentry)]

/-- A name resolves where one occurrence owns it and no other record has its identity. -/
theorem get?_aliasIndex_eq_some (hname : name ≠ "") :
    (aliasIndex aliasesFor valueFor records).get? name = some value ↔
      records.countP (owns aliasesFor valueFor name) = 1 ∧
      ∃ record ∈ records, owns aliasesFor valueFor name record = true ∧
        ¬ isCollided (records.map valueFor) value ∧ valueFor record = value := by
  have hgroup := group_aliasOwners aliasesFor valueFor records hname
  have hsole : (aliasIndex aliasesFor valueFor records).get? name =
      soleValue valueFor records ((aliasOwners aliasesFor valueFor records).group name) := by
    rw [get?_aliasIndex, InsertionMap.group]
    cases (aliasOwners aliasesFor valueFor records).get? name with
    | none => rfl
    | some owners => rfl
  have hcount : records.countP (owns aliasesFor valueFor name) =
      (records.zipIdx.filter fun record => owns aliasesFor valueFor name record.1).length := by
    have hfst : records.zipIdx.map Prod.fst = records := List.zipIdx_map_fst ..
    rw [← List.countP_eq_length_filter]
    conv_lhs => rw [← hfst]
    rw [List.countP_map]
    rfl
  have howner : ∀ record ∈ records.zipIdx.filter
      (fun record => owns aliasesFor valueFor name record.1), records[record.2]? = some record.1 ∧
        owns aliasesFor valueFor name record.1 = true := by
    intro record hrecord
    rw [List.mem_filter, List.mem_zipIdx_iff_getElem?] at hrecord
    exact hrecord
  rw [hsole, hgroup, hcount]
  generalize hfound : records.zipIdx.filter
    (fun record => owns aliasesFor valueFor name record.1) = found at howner
  rcases found with _ | ⟨record, _ | ⟨second, rest⟩⟩
  · simp [soleValue]
  · obtain ⟨hget, howns⟩ := howner record (List.mem_singleton_self record)
    have honly : ∀ other ∈ records, owns aliasesFor valueFor name other = true →
        other = record.1 := by
      intro other hother hother'
      refine SoleMember.eq_of_countP_le_one ?_ hother hother' (List.mem_of_getElem? hget) howns
      rw [hcount, hfound]
      exact le_rfl
    rw [List.map_singleton, soleValue, hget, Option.bind_some, List.length_singleton,
      eq_self_iff_true, true_and]
    constructor
    · intro h
      split_ifs at h with hcollided
      cases h
      exact ⟨record.1, List.mem_of_getElem? hget, howns, hcollided, rfl⟩
    · rintro ⟨other, hother, hother', hcollided, rfl⟩
      rw [honly other hother hother'] at hcollided ⊢
      rw [if_neg hcollided]
  · simp [soleValue]

end

/-! References -/

def HasContainerPart (text : String) : Prop := containerPart <+: text.toList

instance : DecidablePred HasContainerPart :=
  fun text => inferInstanceAs (Decidable (containerPart <+: text.toList))

/-- Ids of containers as Docker gives them. -/
structure PlainIds (containers : List ContainerRecord) : Prop where
  nonempty : ∀ container ∈ containers, container.id ≠ ""
  unprefixed : ∀ container ∈ containers, ¬ HasContainerPart container.id
  noArrow : ∀ container ∈ containers, '>' ∉ container.id.toList

/-- The reference is looked up under an alias of the container. -/
abbrev isReferred (ref : String) (container : ContainerRecord) : Bool :=
  owns containerAliases ContainerRecord.id ref container

section

variable {containers : List ContainerRecord} {container target : ContainerRecord}
  {ref x y : String}

theorem resolveDependency_iff :
    resolveDependency containers ref = some y ↔
      ref ≠ "" ∧ containers.countP (isReferred ref) = 1 ∧
        ∃ target ∈ containers, isReferred ref target = true ∧ IsSole (idsOf containers) y ∧
          target.id = y := by
  rw [resolveDependency]
  split_ifs with hempty
  · exact iff_of_false (fun h => by cases h) fun h => h.1 hempty
  rw [get?_aliasIndex_eq_some hempty, and_iff_right hempty]
  refine and_congr_right fun _ => exists_congr fun target => and_congr_right fun hmem => ?_
  refine and_congr_right fun howns => ?_
  constructor
  · rintro ⟨hcollided, rfl⟩
    exact ⟨⟨List.mem_map_of_mem hmem, (owns_iff.1 howns).1, hcollided⟩, rfl⟩
  · rintro ⟨hsole, rfl⟩
    exact ⟨hsole.2.2, rfl⟩

theorem stripContainerPrefix_of_not (href : ¬ HasContainerPart ref) :
    stripContainerPrefix ref = ref := by
  rw [stripContainerPrefix, Text.startsWith, if_neg]
  exact fun h => href (of_decide_eq_true h)

theorem withoutContainerPart_of_not (href : ¬ HasContainerPart ref) :
    withoutContainerPart ref = ref := if_neg href

/-- A reference without the prefix is looked up on both sides under the same aliases. -/
theorem isReferred_iff_any (hplain : PlainIds containers) (href : ¬ HasContainerPart ref)
    (hmem : container ∈ containers) :
    isReferred ref container = ((dependencyAliases ref).map fun p container =>
      p.1 container == p.2).any fun p => p container := by
  rw [Bool.eq_iff_iff, isReferred, owns_iff, and_iff_right (hplain.nonempty container hmem),
    containerAliases, withoutContainerPart_of_not (hplain.unprefixed container hmem),
    dependencyAliases, stripContainerPrefix_of_not href]
  simp only [List.mem_cons, List.not_mem_nil, or_false, List.map_cons, List.map_nil,
    List.any_cons, List.any_nil, Bool.or_false, Bool.or_eq_true, beq_iff_eq]
  constructor
  · rintro (h | h | h | h)
    · exact Or.inr (Or.inr h.symm)
    · exact Or.inr (Or.inl h.symm)
    · exact Or.inr (Or.inr h.symm)
    · exact Or.inl h.symm
  · rintro (h | h | h)
    · exact Or.inr (Or.inr (Or.inr h.symm))
    · exact Or.inr (Or.inl h.symm)
    · exact Or.inl h.symm

/-- Each kind of alias names the target or nothing exactly when one index of all aliases names
the target alone. -/
theorem resolvesTo_iff_referred (hplain : PlainIds containers) (href : ¬ HasContainerPart ref)
    (hmem : target ∈ containers) :
    ResolvesTo containers ref target ↔
      ref ≠ "" ∧ containers.countP (isReferred ref) = 1 ∧ isReferred ref target = true := by
  have hcount : containers.countP (isReferred ref) = containers.countP fun container =>
      ((dependencyAliases ref).map fun p container => p.1 container == p.2).any
        fun p => p container :=
    List.countP_congr fun container hcontainer => by
      rw [isReferred_iff_any hplain href hcontainer]
  have hany : isReferred ref target = true ↔ ∃ p ∈ (dependencyAliases ref).map
      fun p (container : ContainerRecord) => p.1 container == p.2, p target = true := by
    rw [isReferred_iff_any hplain href hmem, List.any_eq_true]
  rw [hcount, hany, ← SoleMember.countP_any_eq_one hmem]
  rw [List.forall_mem_map]
  simp only [List.mem_map, exists_exists_and_eq_and, beq_iff_eq]
  constructor
  · intro h
    exact ⟨h.nonempty.1, h.unambiguous, h.named⟩
  · rintro ⟨hne, hunambiguous, hnamed⟩
    exact ⟨⟨hne, (stripContainerPrefix_of_not href).symm ▸ hne⟩, hunambiguous, hnamed⟩

theorem dependsOn_iff_resolvesTo (hplain : PlainIds containers)
    (hrefs : ∀ container ∈ containers, ∀ ref ∈ container.dependsOn, ¬ HasContainerPart ref) :
    DependsOn (buildServices containers) x y ↔
      IsSole (idsOf containers) x ∧ IsSole (idsOf containers) y ∧
        ∃ container ∈ containers, ∃ ref ∈ container.dependsOn, ∃ target ∈ containers,
          ResolvesTo containers ref target ∧ container.id = x ∧ target.id = y := by
  rw [dependsOn_iff]
  constructor
  · rintro ⟨container, hmem, hsemantic, rfl, hy⟩
    obtain ⟨ref, href, hresolve⟩ := List.mem_filterMap.1 hy
    obtain ⟨hne, hone, target, htarget, howns, hsole, rfl⟩ := resolveDependency_iff.1 hresolve
    exact ⟨(isSemanticSource_iff (List.mem_map_of_mem hmem)).1 hsemantic, hsole, container, hmem,
      ref, href, target, htarget,
      (resolvesTo_iff_referred hplain (hrefs container hmem ref href) htarget).2
        ⟨hne, hone, howns⟩, rfl, rfl⟩
  · rintro ⟨hx, hy, container, hmem, ref, href, target, htarget, hresolves, rfl, rfl⟩
    obtain ⟨hne, hone, howns⟩ :=
      (resolvesTo_iff_referred hplain (hrefs container hmem ref href) htarget).1 hresolves
    exact ⟨container, hmem, (isSemanticSource_iff (List.mem_map_of_mem hmem)).2 hx, rfl,
      List.mem_filterMap.2 ⟨ref, href, resolveDependency_iff.2 ⟨hne, hone, target, htarget, howns,
        hy, rfl⟩⟩⟩

/-- A reference with the prefix is nobody's alias where no name or role has the prefix. -/
theorem not_dependsOn_of_prefixed (hplain : PlainIds containers)
    (hnames : ∀ container ∈ containers, ¬ HasContainerPart container.name ∧
      ¬ HasContainerPart container.role)
    (hrefs : ∀ container ∈ containers, ∀ ref ∈ container.dependsOn, HasContainerPart ref) :
    ¬ DependsOn (buildServices containers) x y := by
  rw [dependsOn_iff]
  rintro ⟨container, hmem, -, -, hy⟩
  obtain ⟨ref, href, hresolve⟩ := List.mem_filterMap.1 hy
  obtain ⟨-, -, target, htarget, howns, -⟩ := resolveDependency_iff.1 hresolve
  have hprefixed := hrefs container hmem ref href
  have halias := (owns_iff.1 howns).2
  rw [containerAliases, withoutContainerPart_of_not (hplain.unprefixed target htarget)] at halias
  simp only [List.mem_cons, List.not_mem_nil, or_false] at halias
  rcases halias with rfl | rfl | rfl | rfl
  · exact hplain.unprefixed target htarget hprefixed
  · exact (hnames target htarget).1 hprefixed
  · exact hplain.unprefixed target htarget hprefixed
  · exact (hnames target htarget).2 hprefixed

end

/-! Relationships -/

def addPair (relationships : List Relationship) (pair : String × String) : List Relationship :=
  if relationships.any fun relationship =>
      relationship.id == relationshipId pair.1 pair.2 then relationships
  else relationships ++ [⟨relationshipId pair.1 pair.2, pair.1, pair.2⟩]

/-- The pairs of the services that both have a record under their id. -/
def relatedPairs (model : SystemModel) : List (String × String) :=
  model.services.flatMap fun service =>
    if (model.byId.get? service.id).isNone then []
    else (service.dependsOn.filter fun dep => (model.byId.get? dep).isSome).map (service.id, ·)

theorem foldl_addRelationships (model : SystemModel) :
    model.services.foldl (addRelationships model.byId) [] =
      (relatedPairs model).foldl addPair [] := by
  rw [relatedPairs, List.foldl_flatMap]
  congr 1
  funext relationships service
  rw [addRelationships]
  split_ifs
  · rfl
  · rw [List.foldl_map]
    rfl

/-- One relationship for each id, each of a pair. -/
structure Draws (pairs : List (String × String)) (relationships : List Relationship) : Prop where
  sound : ∀ relationship ∈ relationships, (relationship.source, relationship.target) ∈ pairs ∧
    relationship.id = relationshipId relationship.source relationship.target
  complete : ∀ pair ∈ pairs, ∃ relationship ∈ relationships,
    relationship.id = relationshipId pair.1 pair.2
  nodup : (relationships.map Relationship.id).Nodup

theorem draws_foldl_addPair (pairs : List (String × String)) :
    Draws pairs (pairs.foldl addPair []) := by
  induction pairs using List.reverseRecOn with
  | nil => exact ⟨fun _ h => absurd h List.not_mem_nil, fun _ h => absurd h List.not_mem_nil, .nil⟩
  | append_singleton pairs pair ih =>
    rw [List.foldl_append, List.foldl_cons, List.foldl_nil, addPair]
    have hkept : ∀ relationship ∈ pairs.foldl addPair [],
        (relationship.source, relationship.target) ∈ pairs ++ [pair] ∧
          relationship.id = relationshipId relationship.source relationship.target :=
      fun relationship h => (ih.sound relationship h).imp_left (List.mem_append_left _)
    split_ifs with hseen
    · refine ⟨hkept, List.forall_mem_append.2 ⟨ih.complete, ?_⟩, ih.nodup⟩
      obtain ⟨relationship, hmem, hid⟩ := List.any_eq_true.1 hseen
      rw [List.forall_mem_singleton]
      exact ⟨relationship, hmem, beq_iff_eq.1 hid⟩
    · refine ⟨List.forall_mem_append.2 ⟨hkept, ?_⟩, List.forall_mem_append.2 ⟨?_, ?_⟩, ?_⟩
      · rw [List.forall_mem_singleton]
        exact ⟨List.mem_append_right _ (List.mem_singleton_self _), rfl⟩
      · intro other hother
        obtain ⟨relationship, hmem, hid⟩ := ih.complete other hother
        exact ⟨relationship, List.mem_append_left _ hmem, hid⟩
      · rw [List.forall_mem_singleton]
        exact ⟨_, List.mem_append_right _ (List.mem_singleton_self _), rfl⟩
      · rw [List.map_append, List.map_singleton]
        refine ih.nodup.append (List.nodup_singleton _) (List.disjoint_singleton.2 fun hmem => ?_)
        obtain ⟨relationship, hrelationship, hid⟩ := List.mem_map.1 hmem
        exact hseen (List.any_eq_true.2 ⟨relationship, hrelationship, beq_iff_eq.2 hid⟩)

/-- The id tells the pair where the first has no arrow. -/
theorem relationshipId_inj {a b a' b' : String} (ha : '>' ∉ a.toList) (ha' : '>' ∉ a'.toList)
    (h : relationshipId a b = relationshipId a' b') : a = a' ∧ b = b' := by
  have htext : (a.toList ++ ['-']) ++ '>' :: b.toList = (a'.toList ++ ['-']) ++ '>' :: b'.toList := by
    have hlist := congrArg String.toList h
    simp only [relationshipId, String.toList_append] at hlist
    simpa using hlist
  have hspan : ∀ {l : List Char} (rest : List Char), '>' ∉ l →
      ((l ++ ['-']) ++ '>' :: rest).takeWhile (· ≠ '>') = l ++ ['-'] := by
    intro l rest hl
    rw [List.takeWhile_append_of_pos]
    · simp
    · intro c hc
      rw [List.mem_append, List.mem_singleton] at hc
      rcases hc with hc | rfl
      · exact decide_eq_true fun heq => hl (heq ▸ hc)
      · rfl
  have hfirst := congrArg (List.takeWhile (· ≠ '>')) htext
  rw [hspan _ ha, hspan _ ha'] at hfirst
  have hsame : a = a' := String.toList_injective (List.append_cancel_right hfirst)
  subst hsame
  rw [List.append_cancel_left_eq, List.cons_inj_right] at htext
  exact ⟨rfl, String.toList_injective htext⟩

/-- The browser draws a relationship between the two. -/
def Related (model : PublishedModel) (a b : String) : Prop :=
  ∃ relationship ∈ model.relationships, relationship.source = a ∧ relationship.target = b

section

variable {containers : List ContainerRecord} {a b : String}

theorem mem_relatedPairs :
    (a, b) ∈ relatedPairs (modelOf (buildServices containers)) ↔
      DependsOn (buildServices containers) a b := by
  have hget : ∀ {x}, IsSole (idsOf containers) x →
      ((modelOf (buildServices containers)).byId.get? x).isSome = true := fun hsole => by
    obtain ⟨_, _, _, hget⟩ := exists_service hsole
    exact Option.isSome_iff_exists.2 ⟨_, hget⟩
  simp only [relatedPairs, List.mem_flatMap]
  constructor
  · rintro ⟨service, hmem, hpair⟩
    split_ifs at hpair
    · exact absurd hpair List.not_mem_nil
    · obtain ⟨dep, hdep, heq⟩ := List.mem_map.1 hpair
      cases heq
      exact ⟨service, hmem, rfl, List.mem_of_mem_filter hdep⟩
  · intro h
    obtain ⟨ha, hb⟩ := isSole_of_dependsOn h
    obtain ⟨service, hmem, rfl, hdep⟩ := h
    refine ⟨service, hmem, ?_⟩
    rw [if_neg (by simp [Option.isSome_iff_ne_none.1 (hget ha)])]
    exact List.mem_map.2 ⟨b, List.mem_filter.2 ⟨hdep, hget hb⟩, rfl⟩

theorem reordered_canonicalContainers (localeCompare : String → String → ℤ)
    (containers : List ContainerRecord) :
    Reordered ContainerReordered containers (canonicalContainers localeCompare containers) := by
  have hperm : (containers.map (canonicalContainer localeCompare)).Perm
      (canonicalContainers localeCompare containers) := (List.mergeSort_perm _ _).symm
  have hmap : List.Forall₂ ContainerReordered containers
      (containers.map (canonicalContainer localeCompare)) := by
    refine List.forall₂_map_right_iff.2 (List.forall₂_same.2 fun c _ => ?_)
    exact ⟨rfl, rfl, rfl, rfl, rfl, rfl, (StableSort.sortBy_perm _ _).symm,
      (StableSort.sortBy_perm _ _).symm, (List.mergeSort_perm _ _).symm,
      (StableSort.sortBy_perm _ _).symm⟩
  exact List.forall₂_comp_perm_eq_perm_comp_forall₂.le _ _ ⟨_, hmap, hperm⟩

variable {localeCompare : String → String → ℤ}

/-! Both graphs -/

section

variable {snapshot : DockerSnapshot} {source target : ContainerRecord}

variable (localeCompare containers) in
theorem idsOf_canonical_perm : (idsOf containers).Perm
    (idsOf (canonicalContainers localeCompare containers)) :=
  map_perm_of_reordered (reordered_canonicalContainers localeCompare containers)
    fun _ _ h => h.id.symm

theorem isSole_iff (hx : a ≠ "") : IsSole (idsOf containers) a ↔ (idsOf containers).count a = 1 := by
  rw [IsSole, isCollided_iff hx, ← List.count_pos_iff]
  constructor
  · rintro ⟨hpos, -, hle⟩
    omega
  · intro hone
    exact ⟨by omega, hx, by omega⟩

theorem isSole_canonical :
    IsSole (idsOf (canonicalContainers localeCompare containers)) a ↔
      IsSole (idsOf containers) a := by
  by_cases ha : a = ""
  · subst ha
    exact iff_of_false (fun h => h.2.1 rfl) fun h => h.2.1 rfl
  · rw [isSole_iff ha, isSole_iff ha, ← (idsOf_canonical_perm containers localeCompare).count_eq]

theorem plainIds_canonical (hplain : PlainIds containers) :
    PlainIds (canonicalContainers localeCompare containers) := by
  have hall : ∀ {P : String → Prop}, (∀ container ∈ containers, P container.id) →
      ∀ container ∈ canonicalContainers localeCompare containers, P container.id := fun h =>
    ((reordered_canonicalContainers localeCompare containers).forall_iff
      fun c c' hc => by rw [hc.id]).1 h
  exact ⟨hall (P := (· ≠ "")) hplain.nonempty,
    hall (P := fun id => ¬ HasContainerPart id) hplain.unprefixed,
    hall (P := fun id => '>' ∉ id.toList) hplain.noArrow⟩

/-- The references of the containers, wherever the canonical order puts them. -/
theorem forall_ref_canonical {P : String → Prop}
    (h : ∀ container ∈ containers, ∀ ref ∈ container.dependsOn, P ref) :
    ∀ container ∈ canonicalContainers localeCompare containers,
      ∀ ref ∈ container.dependsOn, P ref :=
  ((reordered_canonicalContainers localeCompare containers).forall_iff fun c c' hc =>
    forall_congr' fun ref => by rw [hc.dependsOn.mem_iff]).1 h

variable (localeCompare) in
theorem related_iff_dependsOn (unicode : UnicodeTables) (runtimeMap : RuntimeMap)
    (hplain : PlainIds snapshot.containers) :
    Related (buildPublishedModel localeCompare unicode snapshot runtimeMap) a b ↔
      DependsOn (buildServices (canonicalContainers localeCompare snapshot.containers)) a b := by
  have hdraws := draws_foldl_addPair (relatedPairs (buildModel localeCompare snapshot))
  rw [← foldl_addRelationships] at hdraws
  have hmem : ∀ relationship, relationship ∈ (buildPublishedModel localeCompare unicode snapshot
      runtimeMap).relationships ↔ relationship ∈ (buildModel localeCompare snapshot).services.foldl
        (addRelationships (buildModel localeCompare snapshot).byId) [] :=
    fun _ => (List.mergeSort_perm _ _).mem_iff
  have hpairs : ∀ {x y}, (x, y) ∈ relatedPairs (buildModel localeCompare snapshot) ↔
      DependsOn (buildServices (canonicalContainers localeCompare snapshot.containers)) x y :=
    mem_relatedPairs
  have harrow : ∀ {x y}, (x, y) ∈ relatedPairs (buildModel localeCompare snapshot) →
      '>' ∉ x.toList := by
    intro x y hxy
    obtain ⟨⟨hx, -, -⟩, -⟩ := isSole_of_dependsOn (hpairs.1 hxy)
    obtain ⟨container, hcontainer, rfl⟩ := List.mem_map.1 hx
    exact (plainIds_canonical hplain).noArrow container hcontainer
  rw [Related, ← hpairs]
  constructor
  · rintro ⟨relationship, hrelationship, rfl, rfl⟩
    exact (hdraws.sound relationship ((hmem _).1 hrelationship)).1
  · intro hpair
    obtain ⟨relationship, hrelationship, hid⟩ := hdraws.complete _ hpair
    obtain ⟨hfound, hown⟩ := hdraws.sound relationship hrelationship
    obtain ⟨hsource, htarget⟩ := relationshipId_inj (harrow hfound) (harrow hpair)
      (hown.symm.trans hid)
    exact ⟨relationship, (hmem _).2 hrelationship, hsource, htarget⟩

variable (localeCompare) in
/-- The browser's pairs, told by the daemon's resolution. -/
theorem related_iff_resolvesTo (unicode : UnicodeTables) (runtimeMap : RuntimeMap)
    (hplain : PlainIds snapshot.containers)
    (hrefs : ∀ container ∈ snapshot.containers, ∀ ref ∈ container.dependsOn,
      ¬ HasContainerPart ref) :
    Related (buildPublishedModel localeCompare unicode snapshot runtimeMap) a b ↔
      IsSole (idsOf snapshot.containers) a ∧ IsSole (idsOf snapshot.containers) b ∧
        ∃ container ∈ snapshot.containers, ∃ ref ∈ container.dependsOn,
          ∃ target ∈ snapshot.containers, ResolvesTo snapshot.containers ref target ∧
            container.id = a ∧ target.id = b := by
  have hreordered := reordered_canonicalContainers localeCompare snapshot.containers
  rw [related_iff_dependsOn localeCompare unicode runtimeMap hplain,
    dependsOn_iff_resolvesTo (plainIds_canonical hplain) (forall_ref_canonical hrefs),
    isSole_canonical, isSole_canonical]
  refine and_congr_right fun _ => and_congr_right fun _ => ?_
  refine (hreordered.exists_iff fun c c' hc => ?_).symm
  refine (Reordered.of_perm (R := Eq) (fun _ => rfl) hc.dependsOn).exists_iff ?_
  rintro ref - rfl
  refine hreordered.exists_iff fun t t' ht => ?_
  rw [resolvesTo_iff hreordered ht, hc.id, ht.id]

end

/-! Agreement -/

section

variable {snapshot : DockerSnapshot} {source target : ContainerRecord}

/-- The ids of the other records of a snapshot. -/
def otherIds (snapshot : DockerSnapshot) : List String :=
  snapshot.networks.map NetworkRecord.id ++ snapshot.volumes.map VolumeRecord.id

theorem isUniqueId_iff_isSole (hmem : a ∈ idsOf snapshot.containers) :
    IsUniqueId snapshot a ↔ IsSole (idsOf snapshot.containers) a ∧ a ∉ otherIds snapshot := by
  have hpos := List.count_pos_iff.2 hmem
  have hcount : (recordIds snapshot).count a =
      (idsOf snapshot.containers).count a + (otherIds snapshot).count a := by
    rw [recordIds, List.append_assoc, List.count_append]
    rfl
  constructor
  · rintro ⟨hne, honce⟩
    rw [isSole_iff hne, ← List.count_eq_zero]
    omega
  · rintro ⟨hsole, hother⟩
    have hone := (isSole_iff hsole.2.1).1 hsole
    exact ⟨hsole.2.1, by rw [hcount, hone, List.count_eq_zero.2 hother]⟩

theorem runtimeContainerId_inj (hsha : Sha256.NoCollision (idsOf snapshot.containers))
    (hsource : source ∈ snapshot.containers) (htarget : target ∈ snapshot.containers) :
    runtimeContainerId source = runtimeContainerId target ↔ source.id = target.id := by
  refine ⟨fun h => ?_, fun h => by rw [runtimeContainerId, runtimeContainerId, h]⟩
  exact (append_component_inj hsha (List.mem_map_of_mem hsource) (List.mem_map_of_mem htarget)
    h).2

theorem hasUniqueId_iff_isSole (hplain : PlainIds snapshot.containers)
    (hsha : Sha256.NoCollision (idsOf snapshot.containers))
    (hsource : source ∈ snapshot.containers) :
    hasUniqueId snapshot.containers source = true ↔
      IsSole (idsOf snapshot.containers) source.id := by
  have hne := hplain.nonempty source hsource
  have hcount : snapshot.containers.countP (fun other => other.id ≠ "" &&
      runtimeContainerId other == runtimeContainerId source) =
        (idsOf snapshot.containers).count source.id := by
    rw [idsOf, List.count, List.countP_map]
    refine List.countP_congr fun other hother => ?_
    rw [Bool.and_eq_true, decide_eq_true_eq, and_iff_right (hplain.nonempty other hother),
      beq_iff_eq, runtimeContainerId_inj hsha hother hsource, Function.comp_apply, beq_iff_eq]
  rw [hasUniqueId, hcount, isSole_iff hne, Bool.and_eq_true, decide_eq_true_eq,
    and_iff_right hne, beq_iff_eq]

/-- A membership ends at a network, so between containers there are only dependencies. -/
theorem mem_graph_iff (htarget : target ∈ snapshot.containers) :
    ⟨source.id, target.id, .connectedTo⟩ ∈ (deriveGraph snapshot).edges ↔
      IsDeclaredDependency snapshot ⟨source.id, target.id, .connectedTo⟩ := by
  rw [mem_graphEdges]
  constructor
  · rintro (hmember | hmount | hdependency)
    · obtain ⟨_, _, networkId, -, ⟨network, hnetwork, hid⟩, -, hunique, hedge⟩ := hmember
      have htargetId : networkId = target.id := congrArg GraphEdge.target hedge
      rw [htargetId] at hid hunique
      exact absurd rfl (id_ne_of_unique htarget hunique
        (List.mem_append_left _ (hid ▸ List.mem_map_of_mem hnetwork)))
    · obtain ⟨_, _, _, _, _, _, _, _, _, _, _, hedge⟩ := hmount
      exact RelationshipKind.noConfusion (congrArg GraphEdge.relationship hedge)
    · exact hdependency
  · exact fun h => Or.inr (Or.inr h)

theorem mem_derived_dependsOn {nodes : List RuntimeMapNode} {edges : List RuntimeMapEdge}
    {diagnostics : List RuntimeMapDiagnostic} {revision : String} {edge : RuntimeMapEdge}
    (hdependsOn : edge.relationship = .dependsOn) :
    edge ∈ (deriveRuntimeMap snapshot nodes edges diagnostics revision).edges ↔
      edge ∈ edges ∨ IsDependencyEdge snapshot revision edge := by
  rw [deriveRuntimeMap_eq, dedup, KeyedSort.mem_destutter, mem_sortByKey, derivedTopology,
    riskTopology, mem_withHostRisk_of_ne (by rw [hdependsOn]; decide),
    mem_withHostRisk_of_ne (by rw [hdependsOn]; decide), inventoryEdges, List.mem_append,
    List.mem_append, mem_containerEdges]
  constructor
  · rintro ((hprovided | ⟨_, _, _, _, rfl⟩ | ⟨_, _, _, _, rfl⟩ | hdependency) | hvolume)
    · exact Or.inl hprovided
    · cases hdependsOn
    · rw [portEdge] at hdependsOn
      split at hdependsOn
      · cases hdependsOn
      · cases hdependsOn
    · exact Or.inr hdependency
    · obtain ⟨volume, -, hvolume⟩ := List.mem_flatMap.1 hvolume
      obtain ⟨_, -, hattached⟩ := List.mem_filterMap.1 hvolume
      obtain ⟨_, -, rfl⟩ := Option.map_eq_some_iff.1 hattached
      cases hdependsOn
  · rintro (hprovided | hdependency)
    · exact Or.inl (Or.inl hprovided)
    · exact Or.inl (Or.inr (Or.inr (Or.inr hdependency)))

/-- The providers report no dependency between two containers. -/
def JoinsNoContainers (containers : List ContainerRecord) (edges : List RuntimeMapEdge) : Prop :=
  ∀ edge ∈ edges, edge.relationship = .dependsOn → ∀ source ∈ containers, ∀ target ∈ containers,
    edge.source = runtimeContainerId source → edge.target ≠ runtimeContainerId target

variable (localeCompare) in
/-- Where ids are plain and no reference has the prefix, the browser draws every dependency
once, and between two containers exactly where the daemon's runtime map and, for ids that no
network and no volume has, its graph do. -/
theorem dependency_graphs_agree (unicode : UnicodeTables) (snapshot : DockerSnapshot)
    (runtimeMap : RuntimeMap) (nodes : List RuntimeMapNode) (edges : List RuntimeMapEdge)
    (diagnostics : List RuntimeMapDiagnostic) (revision : String)
    (hplain : PlainIds snapshot.containers)
    (hsha : Sha256.NoCollision (idsOf snapshot.containers))
    (hrefs : ∀ container ∈ snapshot.containers, ∀ ref ∈ container.dependsOn,
      ¬ HasContainerPart ref)
    (hedges : JoinsNoContainers snapshot.containers edges) :
    let model := buildPublishedModel localeCompare unicode snapshot runtimeMap
    (model.relationships.map Relationship.id).Nodup ∧
    (∀ a b, Related model a b →
      IsSole (idsOf snapshot.containers) a ∧ IsSole (idsOf snapshot.containers) b) ∧
    ∀ source ∈ snapshot.containers, ∀ target ∈ snapshot.containers, source.id ≠ target.id →
      (Related model source.id target.id ↔
        ∃ edge ∈ (deriveRuntimeMap snapshot nodes edges diagnostics revision).edges,
          edge.relationship = .dependsOn ∧ edge.source = runtimeContainerId source ∧
            edge.target = runtimeContainerId target) ∧
      (⟨source.id, target.id, .connectedTo⟩ ∈ (deriveGraph snapshot).edges ↔
        Related model source.id target.id ∧ source.id ∉ otherIds snapshot ∧
          target.id ∉ otherIds snapshot) := by
  intro model
  have hrelated : ∀ {a b}, Related model a b ↔ _ :=
    related_iff_resolvesTo localeCompare unicode runtimeMap hplain hrefs
  refine ⟨?_, fun a b h => ⟨(hrelated.1 h).1, (hrelated.1 h).2.1⟩, ?_⟩
  · have hdraws := draws_foldl_addPair (relatedPairs (buildModel localeCompare snapshot))
    rw [← foldl_addRelationships] at hdraws
    exact ((List.mergeSort_perm _ _).map _).nodup_iff.2 hdraws.nodup
  intro source hsource target htarget hne
  constructor
  · rw [hrelated]
    constructor
    · rintro ⟨ha, hb, container, hcontainer, ref, href, found, hfound, hresolves, hsame, hsame'⟩
      refine ⟨_, (mem_derived_dependsOn rfl).2 (Or.inr ⟨container, hcontainer, ref, href, found,
        hfound, hresolves, ?_, ?_, ?_, rfl⟩), rfl, ?_, ?_⟩
      · rw [hasUniqueId_iff_isSole hplain hsha hcontainer, hsame]
        exact ha
      · rw [hasUniqueId_iff_isSole hplain hsha hfound, hsame']
        exact hb
      · rw [Ne, runtimeContainerId_inj hsha hcontainer hfound, hsame, hsame']
        exact hne
      · exact (runtimeContainerId_inj hsha hcontainer hsource).2 hsame
      · exact (runtimeContainerId_inj hsha hfound htarget).2 hsame'
    · rintro ⟨edge, hedge, hdependsOn, hends, hends'⟩
      obtain ⟨container, hcontainer, ref, href, found, hfound, hresolves, hunique, hunique', -,
        rfl⟩ := ((mem_derived_dependsOn hdependsOn).1 hedge).resolve_left fun hprovided =>
          hedges edge hprovided hdependsOn source hsource target htarget hends hends'
      have hsame := (runtimeContainerId_inj hsha hcontainer hsource).1 hends
      have hsame' := (runtimeContainerId_inj hsha hfound htarget).1 hends'
      refine ⟨?_, ?_, container, hcontainer, ref, href, found, hfound, hresolves, hsame, hsame'⟩
      · rw [← hsame]
        exact (hasUniqueId_iff_isSole hplain hsha hcontainer).1 hunique
      · rw [← hsame']
        exact (hasUniqueId_iff_isSole hplain hsha hfound).1 hunique'
  · rw [mem_graph_iff htarget, hrelated]
    constructor
    · rintro ⟨container, hcontainer, ref, href, found, hfound, hresolves, hunique, hunique', -,
        hedge⟩
      have hsame : container.id = source.id := congrArg GraphEdge.source hedge
      have hsame' : found.id = target.id := congrArg GraphEdge.target hedge
      obtain ⟨hsole, hother⟩ := (isUniqueId_iff_isSole (List.mem_map_of_mem hcontainer)).1 hunique
      obtain ⟨hsole', hother'⟩ := (isUniqueId_iff_isSole (List.mem_map_of_mem hfound)).1 hunique'
      rw [hsame] at hsole hother
      rw [hsame'] at hsole' hother'
      exact ⟨⟨hsole, hsole', container, hcontainer, ref, href, found, hfound, hresolves, hsame,
        hsame'⟩, hother, hother'⟩
    · rintro ⟨⟨hsole, hsole', container, hcontainer, ref, href, found, hfound, hresolves, hsame,
        hsame'⟩, hother, hother'⟩
      refine ⟨container, hcontainer, ref, href, found, hfound, hresolves, ?_, ?_, ?_, ?_⟩
      · rw [isUniqueId_iff_isSole (List.mem_map_of_mem hcontainer), hsame]
        exact ⟨hsole, hother⟩
      · rw [isUniqueId_iff_isSole (List.mem_map_of_mem hfound), hsame']
        exact ⟨hsole', hother'⟩
      · rw [hsame, hsame']
        exact hne
      · rw [hsame, hsame']

/-- A container that names another one plainly. -/
def plainReference : DockerSnapshot :=
  { containers :=
      [{ namedContainer "a" "web" with dependsOn := ["db"] }, namedContainer "b" "db"] }

theorem plainIds_plainReference : PlainIds plainReference.containers :=
  ⟨by decide, by decide +kernel, by decide +kernel⟩

/-- A project's dependency on a package, beside those of the containers. -/
def packageDependency : RuntimeMapEdge where
  source := "npm_project_web"
  target := "npm_package_react"
  relationship := .dependsOn
  metadata := ∅
  evidenceRefs := []

theorem joinsNoContainers_plainReference :
    JoinsNoContainers plainReference.containers [packageDependency] := by
  unfold JoinsNoContainers
  decide +kernel

/-- The daemon's edge is drawn by the browser. -/
theorem dependency_graphs_agree_applied :
    Related (buildPublishedModel (fun _ _ => 0) ⟨id, id⟩ plainReference {}) "a" "b" := by
  have hagree := dependency_graphs_agree (fun _ _ => 0) ⟨id, id⟩ plainReference {} []
    [packageDependency] [] "r" plainIds_plainReference (by decide +kernel) (by decide +kernel)
    joinsNoContainers_plainReference
  have hedge : (⟨"a", "b", .connectedTo⟩ : GraphEdge) ∈ (deriveGraph plainReference).edges := by
    decide
  exact (((hagree.2.2 _ (List.mem_cons_self ..) _
    (List.mem_cons_of_mem _ (List.mem_cons_self ..)) (by decide)).2).1 hedge).1

/-! References as the collector makes them -/

theorem hasContainerPart_of_mem_parseDependsOnLabel {value ref : String}
    (h : ref ∈ parseDependsOnLabel value) : HasContainerPart ref := by
  obtain ⟨name, -, hname⟩ := List.mem_filterMap.1 h
  split_ifs at hname
  cases hname
  rw [HasContainerPart, String.toList_append]
  exact List.prefix_append _ _

theorem hasContainerPart_of_collected {inventory : DockerInventory} {now : ℕ}
    {container : ContainerRecord} {ref : String}
    (hcontainer : container ∈ (buildSnapshot inventory now).containers)
    (href : ref ∈ container.dependsOn) : HasContainerPart ref := by
  obtain ⟨summary, -, rfl⟩ := List.mem_map.1 hcontainer
  simp only [ContainerSummary.record] at href
  cases hlabel : summary.label "com.docker.compose.depends_on" with
  | none =>
    rw [hlabel] at href
    exact absurd href List.not_mem_nil
  | some value =>
    rw [hlabel] at href
    exact hasContainerPart_of_mem_parseDependsOnLabel href

/-- The service's role and its name tell one container or none, and one of them the target. -/
structure IsNamed (containers : List ContainerRecord) (service : String)
    (target : ContainerRecord) : Prop where
  nonempty : service ≠ ""
  role : aliasCount containers ContainerRecord.role service = 0 ∨
    aliasCount containers ContainerRecord.role service = 1 ∧ target.role = service
  name : aliasCount containers ContainerRecord.name service = 0 ∨
    aliasCount containers ContainerRecord.name service = 1 ∧ target.name = service
  named : target.role = service ∨ target.name = service

theorem hasContainerPart_append (service : String) :
    HasContainerPart ("container_" ++ service) := by
  rw [HasContainerPart, String.toList_append]
  exact List.prefix_append _ _

theorem stripContainerPrefix_append (service : String) :
    stripContainerPrefix ("container_" ++ service) = service := by
  have hprefix : "container_".toList <+: ("container_" ++ service).toList :=
    hasContainerPart_append service
  rw [stripContainerPrefix, Text.startsWith, decide_eq_true hprefix, if_pos rfl,
    String.toList_append, List.drop_left, String.ofList_toList]

/-- A prefixed reference names no id, so it names a service or a container name. -/
theorem resolvesTo_iff_isNamed {service : String} (hplain : PlainIds containers)
    (htarget : target ∈ containers) :
    ResolvesTo containers ("container_" ++ service) target ↔
      IsNamed containers service target := by
  have hprefix := hasContainerPart_append service
  have hstrip := stripContainerPrefix_append service
  have hids : ∀ container ∈ containers, container.id ≠ "container_" ++ service :=
    fun container hcontainer hid => hplain.unprefixed container hcontainer (hid ▸ hprefix)
  have hcount : aliasCount containers ContainerRecord.id ("container_" ++ service) = 0 :=
    List.countP_eq_zero.2 fun container hcontainer hid =>
      hids container hcontainer (beq_iff_eq.1 hid)
  have hne : "container_" ++ service ≠ "" := by
    intro h
    have hlist := congrArg String.toList h
    rw [String.toList_append] at hlist
    cases hlist
  have haliases : dependencyAliases ("container_" ++ service) =
      [(ContainerRecord.role, service), (ContainerRecord.name, service),
        (ContainerRecord.id, "container_" ++ service)] := by
    rw [dependencyAliases, hstrip]
  constructor
  · intro h
    obtain ⟨p, hp, hnamed⟩ := h.named
    have hunambiguous := h.unambiguous
    rw [haliases] at hp hunambiguous
    rw [List.forall_mem_cons, List.forall_mem_cons] at hunambiguous
    refine ⟨hstrip ▸ h.nonempty.2, hunambiguous.1, hunambiguous.2.1, ?_⟩
    simp only [List.mem_cons, List.not_mem_nil, or_false] at hp
    rcases hp with rfl | rfl | rfl
    · exact Or.inl hnamed
    · exact Or.inr hnamed
    · exact absurd hnamed (hids target htarget)
  · intro h
    refine ⟨⟨hne, hstrip.symm ▸ h.nonempty⟩, ?_, ?_⟩
    · rw [haliases, List.forall_mem_cons, List.forall_mem_cons, List.forall_mem_singleton]
      exact ⟨h.role, h.name, Or.inl hcount⟩
    · rw [haliases]
      rcases h.named with hnamed | hnamed
      · exact ⟨_, List.mem_cons_self, hnamed⟩
      · exact ⟨_, List.mem_cons_of_mem _ List.mem_cons_self, hnamed⟩

theorem eq_of_uniqueId {snapshot : DockerSnapshot} (hsource : source ∈ snapshot.containers)
    (hcontainer : container ∈ snapshot.containers) (hunique : IsUniqueId snapshot source.id)
    (hid : container.id = source.id) : container = source := by
  obtain ⟨i, hi⟩ := List.getElem?_of_mem hcontainer
  obtain ⟨j, hj⟩ := List.getElem?_of_mem hsource
  exact congrArg Prod.fst (position_eq (c := (container, i)) (d := (source, j)) hunique hi hj hid
    rfl)

variable (localeCompare) in
/-- Of what the collector reports, the browser draws no dependency at all, unless a container is
itself called `container_…`; the daemon's graph has the references that name one service or one
container. -/
theorem collected_dependencies_undrawn (unicode : UnicodeTables) (inventory : DockerInventory)
    (now : ℕ) (runtimeMap : RuntimeMap)
    (hplain : PlainIds (buildSnapshot inventory now).containers)
    (hnames : ∀ container ∈ (buildSnapshot inventory now).containers,
      ¬ HasContainerPart container.name ∧ ¬ HasContainerPart container.role) :
    let snapshot := buildSnapshot inventory now
    (buildPublishedModel localeCompare unicode snapshot runtimeMap).relationships = [] ∧
    ∀ source ∈ snapshot.containers, ∀ target ∈ snapshot.containers,
      ⟨source.id, target.id, .connectedTo⟩ ∈ (deriveGraph snapshot).edges ↔
        source.id ≠ target.id ∧ IsUniqueId snapshot source.id ∧ IsUniqueId snapshot target.id ∧
          ∃ service, "container_" ++ service ∈ source.dependsOn ∧
            IsNamed snapshot.containers service target := by
  intro snapshot
  constructor
  · refine List.eq_nil_iff_forall_not_mem.2 fun relationship hrelationship => ?_
    refine not_dependsOn_of_prefixed (plainIds_canonical hplain) ?_ ?_
      ((related_iff_dependsOn localeCompare unicode runtimeMap hplain).1
        ⟨relationship, hrelationship, rfl, rfl⟩)
    · exact ((reordered_canonicalContainers localeCompare snapshot.containers).forall_iff
        fun c c' hc => by rw [hc.name, hc.role]).1 hnames
    · exact forall_ref_canonical fun container hcontainer ref href =>
        hasContainerPart_of_collected hcontainer href
  · intro source hsource target htarget
    rw [mem_graph_iff htarget]
    constructor
    · rintro ⟨container, hcontainer, ref, href, found, hfound, hresolves, hunique, hunique', hne,
        hedge⟩
      have hsame : container.id = source.id := congrArg GraphEdge.source hedge
      have hsame' : found.id = target.id := congrArg GraphEdge.target hedge
      rw [hsame] at hunique hne
      rw [hsame'] at hunique' hne
      obtain rfl := eq_of_uniqueId hsource hcontainer hunique hsame
      obtain rfl := eq_of_uniqueId htarget hfound hunique' hsame'
      obtain ⟨rest, hrest⟩ := hasContainerPart_of_collected hcontainer href
      have hservice : "container_" ++ String.ofList rest = ref := by
        refine String.toList_injective ?_
        rw [String.toList_append]
        exact (congrArg (containerPart ++ ·) String.toList_ofList).trans hrest
      refine ⟨hne, hunique, hunique', String.ofList rest, hservice.symm ▸ href, ?_⟩
      rw [← resolvesTo_iff_isNamed hplain htarget, hservice]
      exact hresolves
    · rintro ⟨hne, hunique, hunique', service, href, hnamed⟩
      exact ⟨source, hsource, _, href, target, htarget,
        (resolvesTo_iff_isNamed hplain htarget).2 hnamed, hunique, hunique', hne, rfl⟩

/-- Two containers of a Compose project, of which one is to start after the other. -/
def composedInventory : DockerInventory where
  containers :=
    [⟨some "a1", some ["/app-web-1"], none, none, some ((∅ : SortedMap String String).insert
        "com.docker.compose.depends_on" "db:service_started:false" |>.insert
        "com.docker.compose.service" "web"), none, none, none⟩,
      ⟨some "b2", some ["/app-db-1"], none, none, some ((∅ : SortedMap String String).insert
        "com.docker.compose.service" "db"), none, none, none⟩]
  networks := []
  volumes := none

/-- The daemon draws the dependency, the browser does not. -/
theorem collected_dependencies_undrawn_applied :
    (buildPublishedModel (fun _ _ => 0) ⟨id, id⟩ (buildSnapshot composedInventory 1)
      {}).relationships = [] ∧
    ⟨"a1", "b2", .connectedTo⟩ ∈ (deriveGraph (buildSnapshot composedInventory 1)).edges :=
  ⟨(collected_dependencies_undrawn (fun _ _ => 0) ⟨id, id⟩ composedInventory 1 {}
    ⟨by decide, by decide +kernel, by decide +kernel⟩ (by decide +kernel)).1,
    by decide⟩

end

end

end DockerMap.Web
