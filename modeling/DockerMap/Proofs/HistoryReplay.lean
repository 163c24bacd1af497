import DockerMap.Proofs.Concurrency
import DockerMap.Proofs.ObservedHistory

/-! The events of one epoch replay the inventory: applied in order to the inventory the epoch
began with, they give the inventory of the latest publication. -/

namespace DockerMap

open BoundedLog (retain)
open Runs (Steps anyStep run)
open ObservedHistoryCache (UnusableClock pushChange)

/-! Replay -/

def applyEvent (inventory : ObservedContainerInventory) (event : ObservedChangeEvent) :
    ObservedContainerInventory :=
  match event.kind with
  | .containerDisappeared =>
      { inventory with containers := inventory.containers.erase event.containerId }
  | _ =>
      { inventory with
        containers := event.currentStatus.elim inventory.containers
          (inventory.containers.insert event.containerId) }

/-- No two containers share a history identity. -/
def Unambiguous (snapshot : DockerSnapshot) : Prop :=
  (snapshot.containers.map fun container => observedContainerIdentity container.id).Nodup

instance (snapshot : DockerSnapshot) : Decidable (Unambiguous snapshot) :=
  inferInstanceAs (Decidable (List.Nodup _))

theorem Unambiguous.not_mem {snapshot : DockerSnapshot} (h : Unambiguous snapshot) (id : String) :
    (observedContainerInventory snapshot).ambiguousIds.mem id = false := by
  rw [(inventory_spec snapshot id).2, decide_eq_false_iff_not, not_lt]
  have hcount := List.nodup_iff_count_le_one.1 h id
  rw [List.count, List.countP_map, List.countP_eq_length_filter] at hcount
  exact hcount

theorem Unambiguous.ambiguousIds {snapshot : DockerSnapshot} (h : Unambiguous snapshot) :
    (observedContainerInventory snapshot).ambiguousIds = ∅ := by
  refine SortedMap.ext_get? fun id => ?_
  have hmem := h.not_mem id
  rw [SortedSet.mem, Option.isSome_eq_false_iff, Option.isNone_iff_eq_none] at hmem
  rw [hmem]
  rfl

theorem applyEvent_changeEvent {change : StatusChange} (hne : change.before ≠ change.after)
    (boot : String) (observedAtMs sequence : ℕ) (inventory : ObservedContainerInventory) :
    applyEvent inventory (changeEvent boot observedAtMs sequence change) =
      { inventory with containers := change.apply inventory.containers } := by
  obtain ⟨key, before, after⟩ := change
  cases after with
  | none =>
    obtain ⟨status, hbefore⟩ := Option.ne_none_iff_exists'.1 hne
    dsimp only at hbefore
    subst hbefore
    rfl
  | some status => cases before <;> rfl

theorem foldl_applyEvent {changes : List StatusChange}
    (hne : ∀ change ∈ changes, change.before ≠ change.after) (boot : String)
    (observedAtMs sequence : ℕ) (inventory : ObservedContainerInventory) :
    (changeEvents boot observedAtMs sequence changes).foldl applyEvent inventory =
      { inventory with
        containers := changes.foldl MapDiff.Change.apply inventory.containers } := by
  induction changes generalizing sequence inventory with
  | nil => rfl
  | cons change changes ih =>
    rw [List.forall_mem_cons] at hne
    rw [changeEvents, List.foldl_cons, applyEvent_changeEvent hne.1, ih hne.2]
    rfl

/-! One step of an epoch -/

def stepEvents (boot : String) (sequence : ℕ) (previous current : DockerSnapshot) :
    List ObservedChangeEvent :=
  changeEvents boot current.lastUpdated sequence
    (changesBetween (observedContainerInventory previous) (observedContainerInventory current))

section

variable (boot : String) (sequence : ℕ) {previous current : DockerSnapshot}

theorem replay_stepEvents (hprevious : Unambiguous previous) (hcurrent : Unambiguous current) :
    (stepEvents boot sequence previous current).foldl applyEvent
      (observedContainerInventory previous) = observedContainerInventory current := by
  have hne : ∀ change ∈ changesBetween (observedContainerInventory previous)
      (observedContainerInventory current), change.before ≠ change.after :=
    fun change hchange => (MapDiff.mem_diff_iff.1 hchange).2.2.1
  rw [stepEvents, foldl_applyEvent hne, changesBetween,
    MapDiff.replay_diff hprevious.not_mem hcurrent.not_mem, hprevious.ambiguousIds,
    ← hcurrent.ambiguousIds]

theorem containerIds_changeEvents (observedAtMs : ℕ) (changes : List StatusChange) :
    (changeEvents boot observedAtMs sequence changes).map ObservedChangeEvent.containerId =
      changes.map MapDiff.Change.key := by
  induction changes generalizing sequence with
  | nil => rfl
  | cons change changes ih => rw [changeEvents, List.map_cons, ih, List.map_cons, changeEvent]

/-- One event for a container whose status differs, none for one that is unchanged. -/
theorem count_stepEvents (hprevious : Unambiguous previous) (hcurrent : Unambiguous current)
    (id : String) :
    ((stepEvents boot sequence previous current).map ObservedChangeEvent.containerId).count id =
      if (observedContainerInventory previous).containers.get? id =
        (observedContainerInventory current).containers.get? id then 0 else 1 := by
  rw [stepEvents, containerIds_changeEvents, List.count, List.countP_map,
    ← MapDiff.countP_diff (hprevious.not_mem id) (hcurrent.not_mem id)]
  rfl

theorem mem_changeEvents {observedAtMs : ℕ} {changes : List StatusChange}
    {event : ObservedChangeEvent} (h : event ∈ changeEvents boot observedAtMs sequence changes) :
    ∃ n, sequence < n ∧ n ≤ sequence + changes.length ∧
      ∃ change ∈ changes, event = changeEvent boot observedAtMs n change := by
  induction changes generalizing sequence with
  | nil => cases h
  | cons change changes ih =>
    rcases List.mem_cons.1 h with rfl | h
    · exact ⟨sequence + 1, by omega, by rw [List.length_cons]; omega, change,
        List.mem_cons_self, rfl⟩
    · obtain ⟨n, hlow, hhigh, other, hother, hevent⟩ := ih (sequence + 1) h
      exact ⟨n, by omega, by rw [List.length_cons]; omega, other, List.mem_cons_of_mem _ hother,
        hevent⟩

/-- An identity that a side finds ambiguous neither appears nor disappears. -/
theorem not_ambiguous_of_mem_stepEvents {event : ObservedChangeEvent}
    (h : event ∈ stepEvents boot sequence previous current)
    (hkind : event.kind ≠ .containerStatusChanged) :
    (observedContainerInventory previous).ambiguousIds.mem event.containerId = false ∧
      (observedContainerInventory current).ambiguousIds.mem event.containerId = false := by
  obtain ⟨n, -, -, change, hchange, rfl⟩ := mem_changeEvents boot sequence h
  obtain ⟨hbefore, hafter, hne, hold, hnew⟩ := MapDiff.mem_diff_iff.1 hchange
  change changeKind change ≠ _ at hkind
  change _ ∧ (observedContainerInventory current).ambiguousIds.mem change.key = false
  rw [changeKind] at hkind
  cases hb : change.before with
  | none =>
    obtain ⟨status, hstatus⟩ := Option.ne_none_iff_exists'.1 (hb ▸ hne).symm
    exact ⟨hold hb, not_ambiguous_of_get? (hafter ▸ hstatus)⟩
  | some status =>
    cases ha : change.after with
    | none => exact ⟨not_ambiguous_of_get? (hbefore ▸ hb), hnew ha⟩
    | some status' =>
      rw [hb, ha] at hkind
      exact absurd rfl hkind

end

/-! The events of an epoch -/

/-- All the events pushed since the first snapshot of the epoch. -/
def epochLog (boot : String) : ℕ → DockerSnapshot → List DockerSnapshot → List ObservedChangeEvent
  | _, _, [] => []
  | sequence, previous, current :: rest =>
      let events := stepEvents boot sequence previous current
      events ++ epochLog boot (sequence + events.length) current rest

def latest (first : DockerSnapshot) (snapshots : List DockerSnapshot) : DockerSnapshot :=
  snapshots.getLast?.getD first

theorem latest_cons (first current : DockerSnapshot) (snapshots : List DockerSnapshot) :
    latest first (current :: snapshots) = latest current snapshots := by
  rw [latest, List.getLast?_cons, Option.getD_some, latest]

theorem latest_concat (first current : DockerSnapshot) (snapshots : List DockerSnapshot) :
    latest first (snapshots ++ [current]) = current := by
  rw [latest, List.getLast?_concat, Option.getD_some]

theorem epochLog_concat (boot : String) (sequence : ℕ) (first current : DockerSnapshot)
    (snapshots : List DockerSnapshot) :
    epochLog boot sequence first (snapshots ++ [current]) =
      epochLog boot sequence first snapshots ++
        stepEvents boot (sequence + (epochLog boot sequence first snapshots).length)
          (latest first snapshots) current := by
  induction snapshots generalizing sequence first with
  | nil => simp [epochLog, latest]
  | cons snapshot snapshots ih =>
    rw [List.cons_append, epochLog, ih, epochLog, latest_cons]
    rw [List.append_assoc, List.length_append, Nat.add_assoc]

theorem replay_epochLog (boot : String) (sequence : ℕ) {first : DockerSnapshot}
    {snapshots : List DockerSnapshot} (hfirst : Unambiguous first)
    (hsnapshots : ∀ snapshot ∈ snapshots, Unambiguous snapshot) :
    (epochLog boot sequence first snapshots).foldl applyEvent (observedContainerInventory first) =
      observedContainerInventory (latest first snapshots) := by
  induction snapshots generalizing sequence first with
  | nil => rfl
  | cons current snapshots ih =>
    rw [List.forall_mem_cons] at hsnapshots
    rw [epochLog, List.foldl_append, replay_stepEvents _ _ hfirst hsnapshots.1,
      ih _ hsnapshots.1 hsnapshots.2, latest_cons]

/-! Pushing a log -/

/-- The call of `push` that an event records. -/
def pushEvent (history : ObservedHistoryCache) (event : ObservedChangeEvent) :
    ObservedHistoryCache :=
  history.push event.observedAtMs event.containerId event.kind event.previousStatus
    event.currentStatus

theorem foldl_pushChange_eq (observedAtMs : ℕ) (boot : String) (sequence : ℕ)
    (history : ObservedHistoryCache) (changes : List StatusChange) :
    changes.foldl (pushChange observedAtMs) history =
      (changeEvents boot observedAtMs sequence changes).foldl pushEvent history := by
  induction changes generalizing sequence history with
  | nil => rfl
  | cons change changes ih =>
    rw [List.foldl_cons, ih (sequence + 1), changeEvents, List.foldl_cons]
    rfl

theorem foldl_pushEvent_with (log : List ObservedChangeEvent) (history : ObservedHistoryCache)
    (lastObservedAtMs : Option ℕ) (baseline : Option ObservedContainerInventory) :
    log.foldl pushEvent
        { history with lastObservedAtMs := lastObservedAtMs, baseline := baseline } =
      { log.foldl pushEvent history with
        lastObservedAtMs := lastObservedAtMs
        baseline := baseline } := by
  induction log generalizing history with
  | nil => rfl
  | cons event log ih =>
    rw [List.foldl_cons, List.foldl_cons, ← ih]
    rfl

/-! Runs within an epoch -/

/-- The cache right after the publication that began an epoch. -/
structure StartsEpoch (cache : DaemonCache) (first : DockerSnapshot) : Prop where
  mode : cache.mode = .docker
  baseline : cache.observedHistory.baseline = some (observedContainerInventory first)
  events : cache.observedHistory.events = []
  nextSequence : cache.observedHistory.nextSequence = 0

/-- The first Docker publication of a source and one with an unusable clock begin an epoch. -/
theorem startsEpoch_publish {cache updated : DaemonCache} (boots : PublicationBoots)
    (hdocker : updated.mode = .docker)
    (h : cache.mode ≠ .docker ∨
      UnusableClock cache.observedHistory (observedSnapshot updated.snapshot)) :
    StartsEpoch (publishDockerSnapshotCache cache updated boots)
      (observedSnapshot updated.snapshot) := by
  have hhistory := observedHistory_publish cache updated boots
  dsimp only at hhistory
  rw [hdocker, if_pos rfl] at hhistory
  by_cases hmode : cache.mode = .docker
  · rw [if_pos hmode, ObservedHistoryCache.observe_of_unusable _
      (h.resolve_left (not_not.2 hmode))] at hhistory
    exact ⟨by rw [DaemonCache.publish_mode, hdocker], by rw [hhistory], by rw [hhistory],
      by rw [hhistory]⟩
  · rw [if_neg hmode] at hhistory
    by_cases hclock : UnusableClock { boot := boots.newSource.text }
        (observedSnapshot updated.snapshot)
    · rw [ObservedHistoryCache.observe_of_unusable _ hclock] at hhistory
      exact ⟨by rw [DaemonCache.publish_mode, hdocker], by rw [hhistory], by rw [hhistory],
        by rw [hhistory]⟩
    · rw [ObservedHistoryCache.observe_of_usable _ hclock] at hhistory
      exact ⟨by rw [DaemonCache.publish_mode, hdocker], by rw [hhistory]; rfl,
        by rw [hhistory]; rfl, by rw [hhistory]; rfl⟩

/-- The snapshot an event publishes from Docker, as the history observes it. -/
def Event.published : Event → Option DockerSnapshot
  | .publish (.observed snapshot _) _ _ _ =>
      some (observedSnapshot { snapshot with images := deriveImages snapshot })
  | _ => none

/-- Every publication comes from Docker, with a safe clock reading that is not older than the
one before. -/
def ContinuesEpoch (s : AppState) : Event → Prop
  | .publish (.observed snapshot _) _ _ _ =>
      snapshot.lastUpdated ≤ ObservedHistoryCache.maxSafeJsInteger ∧
        ∀ previous ∈ s.cache.observedHistory.lastObservedAtMs, previous ≤ snapshot.lastUpdated
  | .publish _ _ _ _ => False
  | _ => True

instance (s : AppState) (e : Event) : Decidable (ContinuesEpoch s e) := by
  unfold ContinuesEpoch
  split <;> infer_instance

/-- What the history holds after the snapshots of an epoch. -/
structure HoldsEpoch (start : ObservedHistoryCache) (first : DockerSnapshot)
    (snapshots : List DockerSnapshot) (cache : DaemonCache) : Prop where
  mode : cache.mode = .docker
  baseline :
    cache.observedHistory.baseline = some (observedContainerInventory (latest first snapshots))
  pushed : cache.observedHistory =
    { (epochLog start.boot 0 first snapshots).foldl pushEvent start with
      lastObservedAtMs := cache.observedHistory.lastObservedAtMs
      baseline := cache.observedHistory.baseline }
  boot : cache.observedHistory.boot = start.boot
  nextSequence :
    cache.observedHistory.nextSequence = (epochLog start.boot 0 first snapshots).length
  events : cache.observedHistory.events =
    retain maxObservedChangeEvents (epochLog start.boot 0 first snapshots)

theorem holdsEpoch_start {cache : DaemonCache} {first : DockerSnapshot}
    (h : StartsEpoch cache first) : HoldsEpoch cache.observedHistory first [] cache where
  mode := h.mode
  baseline := h.baseline
  pushed := rfl
  boot := rfl
  nextSequence := h.nextSequence
  events := h.events

theorem holdsEpoch_publish {start : ObservedHistoryCache} {first : DockerSnapshot}
    {snapshots : List DockerSnapshot} {cache updated : DaemonCache} (boots : PublicationBoots)
    (h : HoldsEpoch start first snapshots cache) (hdocker : updated.mode = .docker)
    (hclock : ¬ UnusableClock cache.observedHistory (observedSnapshot updated.snapshot)) :
    HoldsEpoch start first (snapshots ++ [observedSnapshot updated.snapshot])
      (publishDockerSnapshotCache cache updated boots) := by
  set current := observedSnapshot updated.snapshot with hcurrent
  set log := epochLog start.boot 0 first snapshots with hlog
  have hconcat : epochLog start.boot 0 first (snapshots ++ [current]) =
      log ++ stepEvents start.boot log.length (latest first snapshots) current := by
    rw [epochLog_concat, ← hlog, Nat.zero_add]
  have hhistory := observedHistory_publish cache updated boots
  dsimp only at hhistory
  rw [hdocker, if_pos rfl, if_pos h.mode, ← hcurrent,
    ObservedHistoryCache.observe_of_usable _ hclock, h.baseline] at hhistory
  dsimp only [Option.elim] at hhistory
  have hpushes := hhistory
  rw [foldl_pushChange_eq current.lastUpdated start.boot log.length, foldl_pushEvent_with,
    h.pushed, foldl_pushEvent_with, ← List.foldl_append] at hpushes
  have hlength : cache.observedHistory.events.length ≤ maxObservedChangeEvents := by
    rw [h.events]
    exact BoundedLog.length_retain_le _ _
  have hpushed := ObservedHistoryCache.foldl_pushChange current.lastUpdated
    { cache.observedHistory with
      lastObservedAtMs := some current.lastUpdated
      baseline := some (observedContainerInventory current) } hlength
    (changesBetween (observedContainerInventory (latest first snapshots))
      (observedContainerInventory current))
  rw [hpushed] at hhistory
  dsimp only at hhistory
  rw [h.boot, h.nextSequence, h.events, BoundedLog.retain_append_retain] at hhistory
  refine ⟨by rw [DaemonCache.publish_mode, hdocker], ?_, ?_, ?_, ?_, ?_⟩
  · rw [hhistory, latest_concat]
  · rw [hpushes, hconcat]
    rfl
  · rw [hhistory]
  · rw [hhistory, hconcat, List.length_append, stepEvents, length_changeEvents]
  · rw [hhistory, hconcat]
    rfl

/-- What the events published from Docker, in order. -/
def publishedSnapshots (es : List Event) : List DockerSnapshot := es.filterMap Event.published

theorem holdsEpoch_run {processBoot : BootToken} {es : List Event} {s s' : AppState}
    {first : DockerSnapshot} (hrun : Steps (step processBoot) ContinuesEpoch s es s')
    (hstart : StartsEpoch s.cache first) :
    HoldsEpoch s.cache.observedHistory first (publishedSnapshots es) s'.cache := by
  induction hrun with
  | nil => exact holdsEpoch_start hstart
  | @snoc mid last es e hrun hok hstep ih =>
    rw [publishedSnapshots, List.filterMap_append]
    rcases observedHistory_step hstep with ⟨updated, boots, hpublication, hcache⟩ |
      ⟨hnone, hhistory, hmode⟩
    · rcases e with ⟨read, now, cacheBoots, publication⟩ | _ | _ | _ | _ | _ | _ | _ | _ | _
      case publish =>
        cases hpublication
        rcases read with _ | ⟨snapshot, binding⟩ | _ | _ | _
        case observed =>
          have hdocker : (collectSnapshot processBoot cacheBoots now
            (.observed snapshot binding)).mode = .docker := rfl
          rw [hcache]
          refine holdsEpoch_publish boots ih hdocker ?_
          rintro (hlate | ⟨previous, hprevious, hregress⟩)
          · exact absurd hok.1 (not_le.2 hlate)
          · exact absurd (hok.2 previous hprevious) (not_le.2 hregress)
        all_goals cases hok
      all_goals cases hpublication
    · have hpublished : e.published = none := by
        cases e with
        | publish read now cacheBoots publication => cases hnone
        | _ => rfl
      rw [List.filterMap_cons_none hpublished, List.filterMap_nil, List.append_nil]
      refine ⟨hmode.trans ih.mode, ?_, ?_, ?_, ?_, ?_⟩ <;> rw [hhistory]
      · exact ih.baseline
      · exact ih.pushed
      · exact ih.boot
      · exact ih.nextSequence
      · exact ih.events

/-- The history after a run within one epoch is what the pushes of its log leave: its counter is
the length of the log, its events are the newest of the log. Applied to the inventory the epoch
began with, the log gives the inventory of the latest snapshot, with one
event for each container whose status differs between two publications; and an identity that is
ambiguous on a side of a publication neither appears nor disappears. -/
theorem history_replays {processBoot : BootToken} {es : List Event} {s s' : AppState}
    {first : DockerSnapshot} (hrun : Steps (step processBoot) ContinuesEpoch s es s')
    (hstart : StartsEpoch s.cache first) :
    let snapshots := publishedSnapshots es
    let log := epochLog s.cache.observedHistory.boot 0 first snapshots
    (s'.cache.observedHistory.boot = s.cache.observedHistory.boot ∧
        s'.cache.observedHistory.nextSequence = log.length ∧
        s'.cache.observedHistory.events = retain maxObservedChangeEvents log) ∧
      s'.cache.observedHistory =
        { log.foldl pushEvent s.cache.observedHistory with
          lastObservedAtMs := s'.cache.observedHistory.lastObservedAtMs
          baseline := some (observedContainerInventory (latest first snapshots)) } ∧
      ((∀ snapshot ∈ first :: snapshots, Unambiguous snapshot) →
        log.foldl applyEvent (observedContainerInventory first) =
            observedContainerInventory (latest first snapshots) ∧
          ∀ pair ∈ (first :: snapshots).zip snapshots, ∀ boot sequence id,
            ((stepEvents boot sequence pair.1 pair.2).map ObservedChangeEvent.containerId).count id =
              if (observedContainerInventory pair.1).containers.get? id =
                (observedContainerInventory pair.2).containers.get? id then 0 else 1) ∧
      ∀ pair ∈ (first :: snapshots).zip snapshots, ∀ boot sequence,
        ∀ event ∈ stepEvents boot sequence pair.1 pair.2,
          event.kind ≠ .containerStatusChanged →
          (observedContainerInventory pair.1).ambiguousIds.mem event.containerId = false ∧
            (observedContainerInventory pair.2).ambiguousIds.mem event.containerId = false := by
  have hholds := holdsEpoch_run hrun hstart
  refine ⟨⟨hholds.boot, hholds.nextSequence, hholds.events⟩, ?_, ?_, ?_⟩
  · rw [← hholds.baseline]
    exact hholds.pushed
  · intro hunambiguous
    rw [List.forall_mem_cons] at hunambiguous
    refine ⟨replay_epochLog _ _ hunambiguous.1 hunambiguous.2, ?_⟩
    intro pair hpair boot sequence id
    obtain ⟨hprevious, hcurrent⟩ := List.of_mem_zip hpair
    exact count_stepEvents _ _ (List.forall_mem_cons.2 hunambiguous _ hprevious)
      (hunambiguous.2 _ hcurrent) id
  · intro pair _ boot sequence event hevent hkind
    exact not_ambiguous_of_mem_stepEvents _ _ hevent hkind

def sampleContainer : ContainerRecord where
  id := "0f"
  name := "api"
  image := "nginx"
  status := "Up 3 seconds"
  role := "web"
  networks := []
  ports := []
  publishesOnUnspecifiedAddress := false
  mounts := []
  dependsOn := []

/-- A Docker read of an engine that runs one container. -/
def publishContainer (now : ℕ) : Event :=
  .publish (.observed { containers := [sampleContainer], lastUpdated := now } none) now sampleBoots
    samplePublicationBoots

theorem disappearance_reached :
    ((run (step sampleBoot) anyStep (AppState.new sampleBoot sampleBoots 0)
      [publishContainer 0]).bind fun s =>
        run (step sampleBoot) ContinuesEpoch s
          [.refreshClaim 0 fun _ => some 0, publishEmpty 2000]).isSome := by
  decide

def firstObserved : DockerSnapshot := ((publishContainer 0).published).getD {}

theorem disappearance_unambiguous : ∀ snapshot ∈ firstObserved ::
    publishedSnapshots [.refreshClaim 0 fun _ => some 0, publishEmpty 2000],
    Unambiguous snapshot := by
  intro snapshot hsnapshot
  rcases List.mem_cons.1 hsnapshot with rfl | hsnapshot
  · exact List.nodup_singleton _
  · rw [List.mem_singleton.1 hsnapshot]
    exact List.nodup_nil

/-- The one container disappears, and the replay ends with an empty inventory. -/
theorem history_replays_disappearance :
    ∃ es s s' first, StartsEpoch s.cache first ∧
      Steps (step sampleBoot) ContinuesEpoch s es s' ∧ publishedSnapshots es ≠ [] ∧
      s'.cache.observedHistory.nextSequence = 1 ∧
      s'.cache.observedHistory.events =
        epochLog s.cache.observedHistory.boot 0 first (publishedSnapshots es) ∧
      (epochLog s.cache.observedHistory.boot 0 first (publishedSnapshots es)).foldl applyEvent
          (observedContainerInventory first) =
        observedContainerInventory (latest first (publishedSnapshots es)) := by
  obtain ⟨s', hbind⟩ := Option.isSome_iff_exists.1 disappearance_reached
  obtain ⟨s, hrun, hrun'⟩ := Option.bind_eq_some_iff.1 hbind
  have hsteps := Steps.of_run hrun'
  obtain ⟨updated, boots, hpublication, hcache⟩ | ⟨hnone, -⟩ :=
    observedHistory_step (s := AppState.new sampleBoot sampleBoots 0) (e := publishContainer 0) hrun
  · have hmode : (AppState.new sampleBoot sampleBoots 0).cache.mode ≠ .docker := by decide
    cases hpublication
    have hstart : StartsEpoch s.cache firstObserved :=
      hcache ▸ startsEpoch_publish samplePublicationBoots rfl (Or.inl hmode)
    obtain ⟨⟨-, hsequence, hevents⟩, -, hreplay, -⟩ := history_replays hsteps hstart
    have hone : (epochLog s.cache.observedHistory.boot 0 firstObserved
        (publishedSnapshots [.refreshClaim 0 fun _ => some 0, publishEmpty 2000])).length = 1 := rfl
    refine ⟨_, s, s', firstObserved, hstart, hsteps, List.cons_ne_nil _ _, hsequence.trans hone,
      ?_, (hreplay disappearance_unambiguous).1⟩
    rw [hevents, retain, hone]
    rfl
  · cases hnone

end DockerMap
