import DockerMap.Daemon.Scheduler
import DockerMap.Lib.BoundedLog
import DockerMap.Lib.MapDiff

/-! What one publication does to the observed history: it pushes the changes between two
inventories, numbered in a row, and the newest events are retained. -/

namespace DockerMap

open BoundedLog (retain)
open MapDiff (Change)

/-! The inventory of a snapshot -/

/-- The records that share a history identity. -/
def recordsOf (containers : List ContainerRecord) (id : String) : List ContainerRecord :=
  containers.filter fun container => observedContainerIdentity container.id = id

/-- The status of a record that shares its identity with no other. -/
def soleStatus : List ContainerRecord → Option ObservedContainerStatus
  | [record] => some (observedStatusClass record.status)
  | _ => none

theorem get?_foldl_group (containers : List ContainerRecord)
    (groups : SortedMap String (List ContainerRecord)) (id : String) :
    (containers.foldl (fun (groups : SortedMap String (List ContainerRecord)) container =>
        let id := observedContainerIdentity container.id
        groups.insert id ((groups.get? id).getD [] ++ [container])) groups).get? id =
      if recordsOf containers id = [] then groups.get? id
      else some ((groups.get? id).getD [] ++ recordsOf containers id) := by
  induction containers generalizing groups with
  | nil => rfl
  | cons container containers ih =>
    rw [List.foldl_cons, ih, SortedMap.get?_insert]
    by_cases h : observedContainerIdentity container.id = id
    · have hcons : recordsOf (container :: containers) id = container :: recordsOf containers id :=
        List.filter_cons_of_pos (by simpa using h)
      rw [hcons, h, if_pos rfl, Option.getD_some, if_neg (List.cons_ne_nil _ _)]
      split_ifs with hnil
      · rw [hnil]
      · rw [List.append_assoc, List.singleton_append]
    · have hcons : recordsOf (container :: containers) id = recordsOf containers id :=
        List.filter_cons_of_neg (by simpa using h)
      rw [hcons, if_neg (Ne.symm h)]

/-- One group of records, as the inventory takes it. -/
def addCandidate (inventory : ObservedContainerInventory)
    (candidate : String × List ContainerRecord) : ObservedContainerInventory :=
  match candidate.2 with
  | [record] =>
      { inventory with
        containers := inventory.containers.insert candidate.1 (observedStatusClass record.status) }
  | _ => { inventory with ambiguousIds := inventory.ambiguousIds.add candidate.1 }

theorem get?_addCandidate (inventory : ObservedContainerInventory)
    (candidate : String × List ContainerRecord) (id : String) :
    (addCandidate inventory candidate).containers.get? id =
      if id = candidate.1 then (soleStatus candidate.2).or (inventory.containers.get? id)
      else inventory.containers.get? id := by
  obtain ⟨key, records⟩ := candidate
  rcases records with _ | ⟨record, _ | ⟨second, rest⟩⟩
  · split_ifs <;> rfl
  · exact SortedMap.get?_insert ..
  · split_ifs <;> rfl

theorem mem_addCandidate (inventory : ObservedContainerInventory)
    (candidate : String × List ContainerRecord) (id : String) :
    (addCandidate inventory candidate).ambiguousIds.mem id =
      (inventory.ambiguousIds.mem id || (id = candidate.1 && (soleStatus candidate.2).isNone)) := by
  have hadd : ∀ key, (inventory.ambiguousIds.add key).mem id =
      (inventory.ambiguousIds.mem id || id = key) := by
    intro key
    rw [SortedSet.mem, SortedSet.add, SortedMap.get?_insert, SortedSet.mem]
    split_ifs with h <;> simp [h]
  obtain ⟨key, records⟩ := candidate
  rcases records with _ | ⟨record, _ | ⟨second, rest⟩⟩
  · exact (hadd key).trans (by simp [soleStatus])
  · simp [addCandidate, soleStatus]
  · exact (hadd key).trans (by simp [soleStatus])

theorem foldl_addCandidate {candidates : List (String × List ContainerRecord)}
    (h : (candidates.map Prod.fst).Nodup) (inventory : ObservedContainerInventory) (id : String) :
    let records := (candidates.find? fun candidate => candidate.1 = id).map Prod.snd
    (candidates.foldl addCandidate inventory).containers.get? id =
        (records.bind soleStatus).or (inventory.containers.get? id) ∧
      (candidates.foldl addCandidate inventory).ambiguousIds.mem id =
        (inventory.ambiguousIds.mem id || records.any fun records => (soleStatus records).isNone) := by
  induction candidates generalizing inventory with
  | nil => simp
  | cons candidate candidates ih =>
    rw [List.map_cons, List.nodup_cons] at h
    obtain ⟨hget, hmem⟩ := ih h.2 (addCandidate inventory candidate)
    dsimp only at hget hmem ⊢
    rw [List.foldl_cons, hget, hmem, get?_addCandidate, mem_addCandidate]
    by_cases hkey : candidate.1 = id
    · have hnone : candidates.find? (fun candidate => candidate.1 = id) = none := by
        refine List.find?_eq_none.2 fun other hother => ?_
        rw [decide_eq_true_eq, ← hkey]
        exact fun heq => h.1 (heq ▸ List.mem_map_of_mem hother)
      rw [hnone, List.find?_cons_of_pos (by simpa using hkey), if_pos hkey.symm]
      simp [hkey]
    · rw [List.find?_cons_of_neg (by simpa using hkey), if_neg (Ne.symm hkey)]
      simp [Ne.symm hkey]

theorem inventory_spec (snapshot : DockerSnapshot) (id : String) :
    (observedContainerInventory snapshot).containers.get? id = soleStatus (recordsOf snapshot.containers id) ∧
      (observedContainerInventory snapshot).ambiguousIds.mem id =
        decide (1 < (recordsOf snapshot.containers id).length) := by
  have hgroups := get?_foldl_group snapshot.containers ∅ id
  set groups := snapshot.containers.foldl (fun (groups : SortedMap String (List ContainerRecord))
    container =>
      let id := observedContainerIdentity container.id
      groups.insert id ((groups.get? id).getD [] ++ [container])) ∅ with hdef
  have hkeys : (groups.entries.map Prod.fst).Nodup :=
    List.Pairwise.imp (fun h => ne_of_lt h) (List.pairwise_map.2 groups.sorted)
  obtain ⟨hget, hmem⟩ := foldl_addCandidate hkeys {} id
  have hinventory : observedContainerInventory snapshot = groups.entries.foldl addCandidate {} := rfl
  rw [hinventory, hget, hmem]
  have hfind : (groups.entries.find? fun candidate => candidate.1 = id).map Prod.snd =
      groups.get? id := rfl
  rw [hfind, hgroups, SortedMap.get?_empty, Option.getD_none, List.nil_append]
  rcases recordsOf snapshot.containers id with _ | ⟨record, _ | ⟨second, rest⟩⟩
  · exact ⟨rfl, rfl⟩
  · exact ⟨rfl, rfl⟩
  · exact ⟨rfl, by simp [soleStatus, SortedSet.mem]⟩

/-- An identity is never both bound and ambiguous. -/
theorem not_ambiguous_of_get? {snapshot : DockerSnapshot} {id : String}
    {status : ObservedContainerStatus}
    (h : (observedContainerInventory snapshot).containers.get? id = some status) :
    (observedContainerInventory snapshot).ambiguousIds.mem id = false := by
  obtain ⟨hget, hmem⟩ := inventory_spec snapshot id
  rw [hget] at h
  rw [hmem, decide_eq_false_iff_not, not_lt]
  generalize recordsOf snapshot.containers id = records at h
  rcases records with _ | ⟨record, _ | ⟨second, rest⟩⟩
  · exact Nat.zero_le _
  · exact le_refl _
  · cases h

/-! Pushes -/

abbrev StatusChange := Change String ObservedContainerStatus

def changeKind (change : StatusChange) : ObservedChangeKind :=
  if change.before = none then .containerAppeared
  else if change.after = none then .containerDisappeared
  else .containerStatusChanged

def changeEvent (boot : String) (observedAtMs sequence : ℕ) (change : StatusChange) :
    ObservedChangeEvent where
  id := ChangeToken.text boot sequence
  kind := changeKind change
  observedAtMs := observedAtMs
  containerId := change.key
  previousStatus := change.before
  currentStatus := change.after

/-- The events of the changes, numbered on from a sequence. -/
def changeEvents (boot : String) (observedAtMs : ℕ) : ℕ → List StatusChange →
    List ObservedChangeEvent
  | _, [] => []
  | sequence, change :: changes =>
      changeEvent boot observedAtMs (sequence + 1) change ::
        changeEvents boot observedAtMs (sequence + 1) changes

theorem length_changeEvents (boot : String) (observedAtMs sequence : ℕ)
    (changes : List StatusChange) :
    (changeEvents boot observedAtMs sequence changes).length = changes.length := by
  induction changes generalizing sequence with
  | nil => rfl
  | cons change changes ih => rw [changeEvents, List.length_cons, ih, List.length_cons]

namespace ObservedHistoryCache

def pushChange (observedAtMs : ℕ) (history : ObservedHistoryCache) (change : StatusChange) :
    ObservedHistoryCache :=
  history.push observedAtMs change.key (changeKind change) change.before change.after

theorem foldl_pushChange (observedAtMs : ℕ) (history : ObservedHistoryCache)
    (hlength : history.events.length ≤ maxObservedChangeEvents) (changes : List StatusChange) :
    changes.foldl (pushChange observedAtMs) history =
      { history with
        nextSequence := history.nextSequence + changes.length
        events := retain maxObservedChangeEvents (history.events ++
          changeEvents history.boot observedAtMs history.nextSequence changes) } := by
  induction changes generalizing history with
  | nil =>
    rw [changeEvents, List.append_nil, BoundedLog.retain_of_length_le hlength]
    rfl
  | cons change changes ih =>
    have hpush : history.pushChange observedAtMs change =
        { history with
          nextSequence := history.nextSequence + 1
          events := retain maxObservedChangeEvents (history.events ++
            [changeEvent history.boot observedAtMs (history.nextSequence + 1) change]) } := rfl
    rw [List.foldl_cons, ih _ (by rw [hpush]; exact BoundedLog.length_retain_le _ _), hpush]
    dsimp only
    rw [BoundedLog.retain_append_retain, List.append_assoc, List.singleton_append, changeEvents,
      List.length_cons, Nat.add_assoc, Nat.add_comm 1]

end ObservedHistoryCache

/-! One observation -/

def changesBetween (previous current : ObservedContainerInventory) : List StatusChange :=
  MapDiff.diff previous.ambiguousIds.mem current.ambiguousIds.mem previous.containers
    current.containers

namespace ObservedHistoryCache

/-- A clock reading that is browser-imprecise or older than the last one. -/
def UnusableClock (history : ObservedHistoryCache) (snapshot : DockerSnapshot) : Prop :=
  maxSafeJsInteger < snapshot.lastUpdated ∨
    ∃ previous ∈ history.lastObservedAtMs, snapshot.lastUpdated < previous

theorem foldl_pushDisappeared (previous current : ObservedContainerInventory) (observedAtMs : ℕ)
    (history : ObservedHistoryCache) :
    previous.containers.entries.foldl (pushDisappeared current observedAtMs) history =
      (MapDiff.removed current.ambiguousIds.mem previous.containers current.containers).foldl
        (pushChange observedAtMs) history := by
  rw [MapDiff.removed, List.foldl_filterMap]
  congr 1
  funext history entry
  rw [pushDisappeared]
  split_ifs <;> rfl

theorem foldl_pushCurrent (previous current : ObservedContainerInventory) (observedAtMs : ℕ)
    (history : ObservedHistoryCache) :
    current.containers.entries.foldl (pushCurrent previous observedAtMs) history =
      (MapDiff.arrived previous.ambiguousIds.mem previous.containers current.containers).foldl
        (pushChange observedAtMs) history := by
  rw [MapDiff.arrived, List.foldl_filterMap]
  congr 1
  funext history entry
  rw [pushCurrent]
  cases previous.containers.get? entry.1 with
  | none =>
    dsimp only
    split_ifs <;> rfl
  | some status =>
    dsimp only
    split_ifs <;> rfl

theorem observe_of_unusable {history : ObservedHistoryCache} {snapshot : DockerSnapshot}
    (freshBoot : BootToken) (h : history.UnusableClock snapshot) :
    history.observePublishedSnapshot freshBoot snapshot =
      { boot := freshBoot.text, baseline := some (observedContainerInventory snapshot) } := by
  have hcond : (maxSafeJsInteger < snapshot.lastUpdated ||
      history.lastObservedAtMs.any (fun previous => snapshot.lastUpdated < previous)) = true := by
    simpa [UnusableClock, Option.any_eq_true] using h
  rw [observePublishedSnapshot, if_pos hcond]

theorem observe_of_usable {history : ObservedHistoryCache} {snapshot : DockerSnapshot}
    (freshBoot : BootToken) (h : ¬ history.UnusableClock snapshot) :
    history.observePublishedSnapshot freshBoot snapshot =
      let current := observedContainerInventory snapshot
      let observed :=
        { history with
          lastObservedAtMs := some snapshot.lastUpdated
          baseline := some current }
      (history.baseline.elim [] fun previous => changesBetween previous current).foldl
        (pushChange snapshot.lastUpdated) observed := by
  have hcond : ¬ (maxSafeJsInteger < snapshot.lastUpdated ||
      history.lastObservedAtMs.any (fun previous => snapshot.lastUpdated < previous)) = true := by
    simpa [UnusableClock, Option.any_eq_true] using h
  rw [observePublishedSnapshot, if_neg hcond]
  cases history.baseline with
  | none => rfl
  | some previous =>
    dsimp only [Option.elim]
    rw [foldl_pushDisappeared, foldl_pushCurrent, changesBetween, MapDiff.diff, List.foldl_append]

end ObservedHistoryCache

/-! The history of the cache -/

/-- The snapshot a Docker publication is observed through. -/
def observedSnapshot (snapshot : DockerSnapshot) : DockerSnapshot :=
  { publishDockerSnapshot snapshot with
    lastUpdated := snapshot.lastUpdated
    modelRevision := "" }

theorem observedHistory_observe (cache : DaemonCache) (boots : PublicationBoots) :
    (cache.observeHistory boots).observedHistory =
      if cache.mode = .docker then
        cache.observedHistory.observePublishedSnapshot boots.newEpoch
          (observedSnapshot cache.snapshot)
      else cache.observedHistory := by
  unfold DaemonCache.observeHistory
  split_ifs <;> rfl

/-- A source flip starts over; only Docker publications are observed. -/
theorem observedHistory_publish (cache updated : DaemonCache) (boots : PublicationBoots) :
    (publishDockerSnapshotCache cache updated boots).observedHistory =
      let history : ObservedHistoryCache :=
        if cache.mode = updated.mode then cache.observedHistory else { boot := boots.newSource.text }
      if updated.mode = .docker then
        history.observePublishedSnapshot boots.newEpoch (observedSnapshot updated.snapshot)
      else history :=
  observedHistory_observe _ boots

/-! Steps of the daemon -/

/-- The publication an event makes. -/
def Event.publication (processBoot : BootToken) : Event → Option (DaemonCache × PublicationBoots)
  | .publish read now boots publication =>
      some (collectSnapshot processBoot boots now read, publication)
  | _ => none

/-- Only a publication touches the history or the source. -/
theorem observedHistory_step {processBoot : BootToken} {s s' : AppState} {e : Event}
    (h : step processBoot s e = some s') :
    (∃ updated boots, e.publication processBoot = some (updated, boots) ∧
        s'.cache = publishDockerSnapshotCache s.cache updated boots) ∨
      (e.publication processBoot = none ∧ s'.cache.observedHistory = s.cache.observedHistory ∧
        s'.cache.mode = s.cache.mode) := by
  have hclaim : ∀ (cache : DaemonCache) (now activeWorkers : ℕ) (wall : ProviderSlot → Option ℕ),
      (claimDueProviderSlots cache now activeWorkers wall).observedHistory =
        cache.observedHistory := by
    intro cache now activeWorkers wall
    simp only [claimDueProviderSlots]
    split_ifs <;> rfl
  cases e with
  | publish read now boots publication =>
    obtain ⟨-, rfl⟩ := step_publish h
    exact Or.inl ⟨_, _, rfl, rfl⟩
  | refreshClaim now wall =>
    obtain ⟨observed, publishedAt, -, -, -, rfl⟩ := step_refreshClaim h
    exact Or.inr ⟨rfl, hclaim .., claim_mode ..⟩
  | start i =>
    obtain ⟨task, -, -, rfl⟩ := step_start h
    unfold startStep
    split_ifs <;> exact Or.inr ⟨rfl, rfl, rfl⟩
  | finish i result =>
    obtain ⟨task, startedAt, -, -, rfl⟩ := step_finish h
    exact Or.inr ⟨rfl, rfl, rfl⟩
  | timeout i =>
    obtain ⟨task, startedAt, -, -, rfl⟩ := step_timeout h
    exact Or.inr ⟨rfl, rfl, rfl⟩
  | unwind slot =>
    obtain ⟨-, rfl⟩ := step_unwind h
    exact Or.inr ⟨rfl, rfl, rfl⟩
  | apply i completedAt completedMs =>
    obtain ⟨task, outcome, readyAt, -, -, -, -, rfl⟩ := step_apply h
    refine Or.inr ⟨rfl, ?_, apply_mode ..⟩
    unfold applyStep applyProviderSlotOutcome
    split_ifs <;> rfl
  | followUpClaim i now wall =>
    obtain ⟨task, snapshot, appliedAt, -, -, -, -, rfl⟩ := step_followUpClaim h
    exact Or.inr ⟨rfl, hclaim .., claim_mode ..⟩
  | followUpSpawn i =>
    obtain ⟨task, snapshot, due, -, -, rfl⟩ := step_followUpSpawn h
    exact Or.inr ⟨rfl, rfl, rfl⟩
  | tick elapsed =>
    obtain rfl := step_tick h
    exact Or.inr ⟨rfl, rfl, rfl⟩

end DockerMap
